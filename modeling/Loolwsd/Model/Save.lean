import Loolwsd.Model.Broker

/-!
# Completing a save

When the kit reports that a `.uno:Save` finished, the session the save was sent through
calls `saveToStorage` (`DocumentBroker.cpp:716-840`). It uploads the local file unless the
kit saved nothing or the file is unchanged, reports a failed upload to the clients, and then
removes the session when the broker is being destroyed or the session is closing.

What the file system and the storage answer during the call is an input, `SaveIO`: every
result below holds for every answer.
-/

set_option autoImplicit false

namespace Loolwsd.Model

/-- What the file system and the storage answer during one `saveToStorageInternal`. -/
structure SaveIO where
  /-- `Poco::File(_storage->getRootFilePath()).getLastModified()`. -/
  newFileModifiedTime : Nat
  /-- `_storage->saveLocalFileToStorage(accessToken)`. -/
  saveResult : SaveResult
  /-- The file info that the refresh after a successful upload (`getWOPIFileInfo` or
  `getLocalFileInfo`) stores, or the exception it throws. -/
  refreshedFileInfo : Except String FileInfo

/-- The frame every session gets when the storage is full. -/
def saveDiskFullFrame : String := "error: cmd=storage kind=savediskfull"

/-- The frame the saving session gets when its token is refused. -/
def saveUnauthorizedFrame : String := "error: cmd=storage kind=saveunauthorized"

/-- The frame the saving session gets when the upload fails. -/
def saveFailedFrame : String := "error: cmd=storage kind=savefailed"

/-- The handling of the upload's result (`DocumentBroker.cpp:782-837`). On success,
`_isModified = false` and `_tileCache->setUnsavedChanges(false)` are one update: the only thing
between them that can fail is the dereference of `_tileCache`, and that failure ends the run. -/
def uploadOutcome (sessionId : String) (io : SaveIO) (now : Int) : BrokerM Bool := do
  match io.saveResult with
  | .ok => do
    let _ ← tileCache
    modify fun b => { b with
      isModified := false
      tileCache := b.tileCache.map fun tc => { tc with unsavedChanges := false }
      lastFileModifiedTime := io.newFileModifiedTime
      lastSaveTime := now }
    match io.refreshedFileInfo with
    | .error e => throw (.raised e)
    | .ok fi => do
      updateStorage fun stor => { stor with fileInfo := fi }
      modify fun b => { b with documentLastModifiedTime := fi.modifiedTime }
      pure true
  | .diskfull => do
    modify fun b => { b with
      sessions := b.sessions.mapSessions ClientSession.setReadOnly ClientSession.setReadOnly_id
      toClients := b.toClients ++ b.sessions.entries.map fun s => (s.id, .text saveDiskFullFrame) }
    pure false
  | .unauthorized => do
    sendToClient sessionId (.text saveUnauthorizedFrame)
    pure false
  | .failed => do
    sendToClient sessionId (.text saveFailedFrame)
    pure false

/-- `DocumentBroker::saveToStorageInternal` (`DocumentBroker.cpp:738-840`). -/
def saveToStorageInternal (sessionId : String) (success : Bool) (result : String) (io : SaveIO)
    (now : Int) : BrokerM Bool := do
  if !success && result == "unmodified" then do
    modify fun b => { b with lastSaveTime := now }
    pure true
  else do
    let b ← get
    match b.sessions.find? sessionId with
    | none => pure false
    | some _ => do
      let _ ← storage
      if !b.lastEditableSession && io.newFileModifiedTime == b.lastFileModifiedTime then do
        modify fun b => { b with lastSaveTime := now }
        pure true
      else uploadOutcome sessionId io now

/-- Whether the session `id` is in the map and has its close frame. -/
def SessionMap.isClosing (m : SessionMap) (id : String) : Bool :=
  match m.find? id with
  | some s => s.isCloseFrame
  | none => false

/-- `DocumentBroker::saveToStorage` (`DocumentBroker.cpp:716-736`). -/
def saveToStorage (sessionId : String) (success : Bool) (result : String) (io : SaveIO)
    (now : Int) : BrokerM Bool := do
  let res ← saveToStorageInternal sessionId success result io now
  let b ← get
  if b.markToDestroy || b.sessions.isClosing sessionId then
    let _ ← removeSessionInternal sessionId
  let b ← get
  if b.markToDestroy || b.sessions.isEmpty then
    modify fun b => { b with stop := true }
  pure res

end Loolwsd.Model
