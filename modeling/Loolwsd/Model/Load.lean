import Loolwsd.Model.Broker

/-!
# Loading the document and admitting sessions

`addSession` (`DocumentBroker.cpp:971-1040`) loads the document for the new session and
inserts the session into the map only when `load` (`DocumentBroker.cpp:481-714`) returns
true. `load` refuses a broker marked to destroy, creates the storage binding on first use,
checks the WOPI token and queries the file info for every session, and downloads the
document the first time only.

Every call `load` makes to a collaborator may throw, and a throw keeps what `load` had
already changed: a failed first load can leave a storage that reports the document loaded
with no tile cache. What the collaborators answer is an input, `LoadIO`; every result holds
for every answer.
-/

set_option autoImplicit false

namespace Loolwsd.Model

/-- Modelled from the spec: what `CheckFileInfo` returns (`WopiStorage::WOPIFileInfo`). -/
structure WopiFileInfo where
  userId : String
  userName : String
  userCanWrite : Bool
  postMessageOrigin : String
  hidePrintOption : Bool
  hideSaveOption : Bool
  hideExportOption : Bool
  disablePrint : Bool
  disableExport : Bool
  disableCopy : Bool
  filename : String
  deriving Repr, DecidableEq

/-- What the collaborators answer during one `load`; an `Except` is a call that may throw. -/
structure LoadIO where
  /-- `StorageBase::create`: null (`none`), or a storage that is WOPI (`true`) or local. -/
  create : Except Fault (Option Bool)
  /-- `tokenUsed(accessToken)`: true when the token was not in the ledger (it is then
  inserted). -/
  tokenUsed : Except Fault Bool
  /-- `getWOPIFileInfo(accessToken)`. -/
  wopiFileInfo : Except Fault WopiFileInfo
  /-- `getLocalFileInfo()`: user id and user name. -/
  localFileInfo : Except Fault (String × String)
  /-- The storage's `getFileInfo()` after the file-info query. -/
  fileInfo : FileInfo
  /-- `parseAllPermission(permission)`, the answer of the `perm.xml` file. -/
  parseAllPermission : String → Except Fault String
  /-- `LOOLWSD::isSSLEnabled() || LOOLWSD::isSSLTermination()`. -/
  sslEnabled : Bool
  /-- `loadStorageFileToLocal(accessToken)`: the local path of the downloaded file. -/
  download : Except Fault String
  /-- `Poco::URI(Poco::URI("file://"), localPathEncoded)`: the URI's text after `file:`. -/
  jailedUri : Except Fault String
  /-- `Poco::File(_storage->getRootFilePath()).getLastModified()`. -/
  localModifiedTime : Except Fault Nat
  /-- `new TileCache(...)`: the tiles the cache directory still holds. -/
  tileCache : Except Fault (List (TileKey × List Char))
  /-- `std::to_string` of the WOPI load duration. -/
  wopiLoadDuration : String

/-- `PostMessageOrigin`, with `http://` turned into `https://` under SSL. -/
def postMessageOrigin (sslEnabled : Bool) (origin : String) : String :=
  if (origin.take 7 = "http://") && sslEnabled then "https" ++ origin.drop 4 else origin

/-- The object `load` sends after `wopi: `, in the order of its `set` calls. -/
def wopiInfo (sslEnabled : Bool) (info : WopiFileInfo) : List (String × JsonScalar) :=
  (if info.postMessageOrigin.isEmpty then []
    else [("PostMessageOrigin", .str (postMessageOrigin sslEnabled info.postMessageOrigin))]) ++
  [("HidePrintOption", .bool info.hidePrintOption), ("HideSaveOption", .bool info.hideSaveOption),
    ("HideExportOption", .bool info.hideExportOption), ("DisablePrint", .bool info.disablePrint),
    ("DisableExport", .bool info.disableExport), ("DisableCopy", .bool info.disableCopy),
    ("title", .str info.filename)]

/-- The `permission` query parameter, last one wins, `edit` by default. -/
def permissionParam (params : List (String × String)) : String :=
  params.foldl (fun p kv => if kv.1 = "permission" then kv.2 else p) "edit"

/-- `docpass=yes` among the query parameters, which lifts the token check. -/
def hasDocpass (params : List (String × String)) : Bool :=
  params.any fun kv => kv.1 = "docpass" && kv.2 = "yes"

/-- The `_storage == nullptr` block of `load`: `none` when `StorageBase::create` returns null,
else whether this call created the storage (`firstInstance`). A new storage has not loaded the
document and holds an invalid file info. -/
def createStorage (io : LoadIO) : BrokerM (Option Bool) := do
  let b ← get
  match b.storage with
  | some _ => pure (some false)
  | none => do
    match ← ask io.create with
    | none => pure none
    | some isWopi => do
      modify fun b => { b with storage := some ⟨isWopi, false, ⟨"", "", 0, false⟩⟩ }
      pure (some true)

/-- A file-info query's side effect on the storage: `getFileInfo()` now answers `fi`. -/
def setFileInfo (fi : FileInfo) : BrokerM Unit :=
  updateStorage fun stor => { stor with fileInfo := fi }

/-- The `#if defined(BUILD_NDC)` block of `load`'s WOPI branch: the session's permissions,
parsed from `perm.xml`. -/
def ndcPermission (cfg : Settings) (session : ClientSession) (io : LoadIO) : BrokerM Unit :=
  if cfg.buildNdc then do
    let perm ← ask (io.parseAllPermission (permissionParam session.queryParameters))
    sendToClient session.id (.text ("perm: " ++ perm))
  else pure ()

/-- The WOPI branch of `load` (`DocumentBroker.cpp:537-614`): the token check, `CheckFileInfo`,
and what it tells the session. -/
def wopiFileInfoPhase (cfg : Settings) (session : ClientSession) (io : LoadIO) :
    BrokerM ClientSession := do
  let fresh ← ask io.tokenUsed
  if !fresh && !hasDocpass session.queryParameters then
    throw (.raised "WOPI::CheckFileInfo failed")
  else do
    let info ← ask io.wopiFileInfo
    setFileInfo io.fileInfo
    let session := if !info.userCanWrite then session.setReadOnly else session
    ndcPermission cfg session io
    sendToClient session.id (.wopiInfo (wopiInfo io.sslEnabled info))
    let stor ← storage
    let session := if info.userId = stor.fileInfo.ownerId then
      { session with isDocumentOwner := true } else session
    pure { session with userId := info.userId, userName := info.userName }

/-- The non-WOPI branch of `load` (`DocumentBroker.cpp:615-640`): permissions, the `rdid`
title frames, and the local file info. -/
def localFileInfoPhase (session : ClientSession) (io : LoadIO) : BrokerM ClientSession := do
  let params := session.queryParameters
  let rdids := params.filter fun kv => kv.1 = "rdid"
  let permission := if rdids.isEmpty then permissionParam params else "convview"
  modify fun b => { b with toClients := b.toClients ++ rdids.map fun kv => (session.id, .text kv.2) }
  let perm ← ask (io.parseAllPermission permission)
  sendToClient session.id (.text ("perm: " ++ perm))
  let (userId, userName) ← ask io.localFileInfo
  setFileInfo io.fileInfo
  pure { session with userId := userId, userName := userName }

/-- The download block of `load` (`DocumentBroker.cpp:676-698`), run while the storage has not
loaded the document; `fileInfo` is `load`'s copy of the storage's file info. -/
def downloadPhase (io : LoadIO) (fileInfo : FileInfo) : BrokerM Unit := do
  let _ ← ask io.download
  updateStorage fun stor => { stor with isLoaded := true }
  let uri ← ask io.jailedUri
  modify fun b => { b with uriJailed := "file:" ++ uri, filename := fileInfo.filename }
  let mtime ← ask io.localModifiedTime
  modify fun b => { b with lastFileModifiedTime := mtime }
  let tiles ← ask io.tileCache
  modify fun b => { b with tileCache := some ⟨false, tiles, []⟩ }

/-- The file-info query of `load`, by the kind of the storage (`DocumentBroker.cpp:535-640`). -/
def fileInfoPhase (cfg : Settings) (isWopi : Bool) (session : ClientSession) (io : LoadIO) :
    BrokerM ClientSession :=
  if isWopi then wopiFileInfoPhase cfg session io else localFileInfoPhase session io

/-- The `firstInstance` block of `load`: the document's timestamp is the storage's. -/
def recordTimestamp (firstInstance : Bool) (fileInfo : FileInfo) : BrokerM Unit :=
  if firstInstance then
    modify fun b => { b with documentLastModifiedTime := fileInfo.modifiedTime }
  else pure ()

/-- `if (!_storage->isLoaded())`: the download, the first time only. -/
def downloadIfNotLoaded (io : LoadIO) (fileInfo : FileInfo) : BrokerM Unit := do
  let stor ← storage
  if !stor.isLoaded then downloadPhase io fileInfo else pure ()

/-- The WOPI load statistics sent to the session (`DocumentBroker.cpp:702-711`). -/
def sendLoadStats (isWopi : Bool) (session : ClientSession) (io : LoadIO) : BrokerM Unit :=
  if isWopi then
    sendToClient session.id (.text ("stats: wopiloadduration " ++ io.wopiLoadDuration))
  else pure ()

/-- `DocumentBroker::load` (`DocumentBroker.cpp:481-714`). Returns `load`'s result and the
session as `load` left it. -/
def load (cfg : Settings) (session : ClientSession) (jailId : String) (io : LoadIO) :
    BrokerM (Bool × ClientSession) := do
  let b ← get
  if b.markToDestroy then pure (false, session)
  else do
    modify fun b => { b with jailId := jailId }
    match ← createStorage io with
    | none => pure (false, session)
    | some firstInstance => do
      let isWopi := (← storage).isWopi
      let session ← fileInfoPhase cfg isWopi session io
      let fileInfo := (← storage).fileInfo
      if !fileInfo.isValid then pure (false, session)
      else do
        recordTimestamp firstInstance fileInfo
        downloadIfNotLoaded io fileInfo
        sendLoadStats isWopi session io
        pure (true, session)

/-- `alertAllUsers("internal", "diskfull")`: the alert every session of the document gets. -/
def diskFullAlert : String := "error: cmd=internal kind=diskfull"

/-- `DocumentBroker::addSessionInternal` (`DocumentBroker.cpp:990-1040`). -/
def addSessionInternal (cfg : Settings) (session : ClientSession) (io : LoadIO) :
    BrokerM Nat := do
  let b ← get
  let (loaded, session) ← catchRaised (load cfg session b.childJailId io) fun e =>
    match e with
    | .storageSpaceLow _ => do
      modify fun b => { b with
        toClients := b.toClients ++ b.sessions.entries.map fun s => (s.id, .text diskFullAlert) }
      throw e
    | _ => throw e
  if !loaded then
    throw (.raised ("Failed to load document with URI [" ++ session.publicUri ++ "]."))
  else do
    modify fun b => { b with lastEditableSession := false, markToDestroy := false, stop := false }
    let b ← get
    sendToKit (.text ("session " ++ session.id ++ " " ++ b.docKey ++ " " ++ b.docId))
    modify fun b => { b with sessions := b.sessions.emplace session }
    let b ← get
    pure b.sessions.size

/-- `DocumentBroker::addSession` (`DocumentBroker.cpp:971-988`): a failure with no session
left marks the broker to destroy, and the exception goes on to the caller. -/
def addSession (cfg : Settings) (session : ClientSession) (io : LoadIO) : BrokerM Nat :=
  catchRaised (addSessionInternal cfg session io) fun e => do
    let b ← get
    if b.sessions.isEmpty then modify fun b => { b with markToDestroy := true }
    throw e

end Loolwsd.Model
