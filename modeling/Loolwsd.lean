import Loolwsd.Model.Protocol
import Loolwsd.Model.Session
import Loolwsd.Model.Broker
import Loolwsd.Model.Save
import Loolwsd.Model.Load
import Loolwsd.Model.Tiles
import Loolwsd.Model.Run
import Loolwsd.Analysis.Calls
import Loolwsd.Analysis.Frame
import Loolwsd.Analysis.Admission
import Loolwsd.Analysis.Modified
import Loolwsd.Analysis.DeferredRemoval
import Loolwsd.Analysis.TileFlow
import Loolwsd.Model.TokenLedger
import Loolwsd.Model.AccessLog
import Loolwsd.Analysis.TokenLedger
import Loolwsd.Analysis.AccessLog
import Loolwsd.Model.PollThread
import Loolwsd.Analysis.Teardown
import Loolwsd.Model.ContentTree
import Loolwsd.Model.Merge
import Loolwsd.Analysis.ContentTree
import Loolwsd.Analysis.Merge
import Loolwsd.Analysis.Forwarding
import Loolwsd.Analysis.AutoSave
import Loolwsd.Analysis.AddSession
import Loolwsd.Model.DocKey
import Loolwsd.Analysis.DocKey
import Loolwsd.Model.Routing
import Loolwsd.Analysis.Routing
import Loolwsd.Model.ApiHelp
import Loolwsd.Analysis.ApiHelp
import Loolwsd.Model.Permission
import Loolwsd.Analysis.MergeValues
import Loolwsd.Model.Request
import Loolwsd.Analysis.Request
import Loolwsd.Model.TemplateVars
import Loolwsd.Analysis.TemplateVars
import Loolwsd.Analysis.Descriptor
import Loolwsd.Analysis.FormDecoding
import Loolwsd.Analysis.KitViews
import Loolwsd.Analysis.ClientFrames
import Loolwsd.Analysis.Download
import Loolwsd.Analysis.DestroyMark
