import Loolwsd.Model.Session

/-!
# The DocumentBroker's state and its calls

`DocumentBroker` is the state a broker's poll thread owns (`DocumentBroker.cpp:178-208`), and
`BrokerM` is how its C++ member functions run on it: in `EStateM`, so that a C++ exception
keeps every change made before the throw (nothing in the broker rolls back), while a null
dereference or an index past the end of a vector is a separate fault that ends the run.

The storage binding and the tile cache are collaborators whose code is not in the source;
they are modelled from the spec (§4.3, §4.5) by the fields the broker reads and writes.
The child process is always attached (`pollThread` returns before any callback when it
cannot get one), so only its liveness is kept. The messages the broker sends are appended to
`toKit` and `toClients`, in order.
-/

set_option autoImplicit false

namespace Loolwsd.Model

/-! ## Collaborators -/

/-- Modelled from the spec: `StorageBase::FileInfo`, the storage's answer to a file-info query. -/
structure FileInfo where
  filename : String
  ownerId : String
  /-- `_modifiedTime`, seconds of a `Poco::Timestamp` (0 is the epoch). -/
  modifiedTime : Nat
  /-- `isValid()`. -/
  isValid : Bool
  deriving Repr, DecidableEq

/-- Modelled from the spec: the storage binding (Storage.hpp/.cpp are not in the source). -/
structure Storage where
  /-- A `WopiStorage` (true) or a `LocalStorage`. -/
  isWopi : Bool
  /-- `isLoaded()`: `loadStorageFileToLocal` has downloaded the document. -/
  isLoaded : Bool
  /-- `getFileInfo()`, as the last file-info query left it. -/
  fileInfo : FileInfo
  deriving Repr, DecidableEq

/-- Modelled from the spec: the tile cache (TileCache.hpp/.cpp are not in the source). -/
structure TileCache where
  /-- The unsaved-changes marker `setUnsavedChanges` writes. -/
  unsavedChanges : Bool
  /-- Rendered tiles by key. -/
  tiles : List (TileKey × List Char)
  /-- Renders in flight: a key and the ids of the sessions subscribed to it. -/
  subscriptions : List (TileKey × List String)
  deriving Repr, DecidableEq

/-- `StorageBase::SaveResult`. -/
inductive SaveResult where
  | ok | diskfull | unauthorized | failed
  deriving Repr, DecidableEq

/-! ## State -/

/-- The members of `DocumentBroker` that the modelled functions read or write. -/
structure DocumentBroker where
  docKey : String
  docId : String
  sessions : SessionMap
  storage : Option Storage
  tileCache : Option TileCache
  /-- `_uriJailed.toString()`; the empty string while the URI is empty. -/
  uriJailed : String
  jailId : String
  filename : String
  /-- Points of the steady clock, in milliseconds. -/
  lastSaveTime : Int
  lastSaveRequestTime : Int
  lastActivityTime : Int
  /-- `Poco::Timestamp`s, in seconds (0 is the epoch). -/
  lastFileModifiedTime : Nat
  documentLastModifiedTime : Nat
  markToDestroy : Bool
  lastEditableSession : Bool
  isLoaded : Bool
  isModified : Bool
  stop : Bool
  tileVersion : Int
  /-- `_childProcess->isAlive()`. -/
  childAlive : Bool
  /-- `_childProcess->getJailId()`. -/
  childJailId : String
  /-- Frames sent to the kit, oldest first. -/
  toKit : List KitMessage
  /-- Frames sent to client sessions, with the session's id, oldest first. -/
  toClients : List (String × ClientMessage)

/-- The constants and default arguments the broker's code takes from headers that are not in
the source (Common.hpp, DocumentBroker.hpp), and the `BUILD_NDC` build flag. Every result
holds for all their values. -/
structure Settings where
  /-- `COMMAND_TIMEOUT_MS`. -/
  commandTimeoutMs : Int
  /-- `IdleSaveDurationMs`. -/
  idleSaveDurationMs : Int
  /-- `AutoSaveDurationMs`. -/
  autoSaveDurationMs : Int
  /-- The defaults of `sendUnoSave`'s two flags. -/
  dontTerminateEdit : Bool
  dontSaveIfUnmodified : Bool
  /-- Whether `BUILD_NDC` is defined. -/
  buildNdc : Bool

/-- How a call of the broker's code fails to return normally. -/
inductive Fault where
  /-- A C++ exception with its message. -/
  | raised (what : String)
  /-- A `StorageSpaceLowException`, which `addSessionInternal` catches on its own. -/
  | storageSpaceLow (what : String)
  /-- A null dereference, or an index past the end of a vector. -/
  | undefinedBehaviour
  deriving Repr, DecidableEq

/-- A member function of `DocumentBroker`. -/
abbrev BrokerM := EStateM Fault DocumentBroker

section Run

variable {α β : Type} (b : DocumentBroker)

@[simp] theorem run_pure (a : α) : (pure a : BrokerM α) b = .ok a b := rfl

@[simp] theorem run_bind (x : BrokerM α) (f : α → BrokerM β) :
    (x >>= f) b = match x b with
      | .ok a b' => f a b'
      | .error e b' => .error e b' := by
  show EStateM.bind x f b = _
  unfold EStateM.bind
  cases x b <;> rfl

@[simp] theorem run_map (f : α → β) (x : BrokerM α) :
    (f <$> x) b = match x b with
      | .ok a b' => .ok (f a) b'
      | .error e b' => .error e b' := by
  show EStateM.map f x b = _
  unfold EStateM.map
  cases x b <;> rfl

@[simp] theorem run_get : (get : BrokerM DocumentBroker) b = .ok b b := rfl

@[simp] theorem run_set (b' : DocumentBroker) : (set b' : BrokerM PUnit) b = .ok ⟨⟩ b' := rfl

@[simp] theorem run_modify (f : DocumentBroker → DocumentBroker) :
    (modify f : BrokerM PUnit) b = .ok ⟨⟩ (f b) := rfl

@[simp] theorem run_throw (e : Fault) : (throw e : BrokerM α) b = .error e b := rfl

end Run

/-- `try { x } catch (const std::exception&) { handler }`: the handler gets the exception
and the state at the throw; undefined behaviour is not caught. -/
def catchRaised {α : Type} (x : BrokerM α) (handler : Fault → BrokerM α) : BrokerM α :=
  fun b => match x b with
    | .error .undefinedBehaviour b' => .error .undefinedBehaviour b'
    | .error e b' => handler e b'
    | .ok a b' => .ok a b'

@[simp] theorem run_catchRaised {α : Type} (x : BrokerM α) (handler : Fault → BrokerM α)
    (b : DocumentBroker) :
    catchRaised x handler b = match x b with
      | .error .undefinedBehaviour b' => .error .undefinedBehaviour b'
      | .error e b' => handler e b'
      | .ok a b' => .ok a b' := rfl

/-- The call whose answer is given: it returns the answer or throws it. -/
def ask {α : Type} : Except Fault α → BrokerM α
  | .ok a => pure a
  | .error e => throw e

/-- `*_storage`: the storage binding, a null dereference while there is none. -/
def storage : BrokerM Storage := do
  let b ← get
  match b.storage with
  | none => throw .undefinedBehaviour
  | some stor => pure stor

/-- A call on `_storage` that changes the binding in place. -/
def updateStorage (f : Storage → Storage) : BrokerM Unit :=
  modify fun b => { b with storage := b.storage.map f }

/-- `tileCache()`, `*_tileCache`: a null dereference while there is none. -/
def tileCache : BrokerM TileCache := do
  let b ← get
  match b.tileCache with
  | none => throw .undefinedBehaviour
  | some tc => pure tc

/-- A call on `_tileCache` that changes the cache in place. -/
def updateTileCache (f : TileCache → TileCache) : BrokerM Unit :=
  modify fun b => { b with tileCache := b.tileCache.map f }

/-! ## Frames -/

/-- `_childProcess->sendTextFrame(m)` and the render requests. -/
def sendToKit (m : KitMessage) : BrokerM Unit :=
  modify fun b => { b with toKit := b.toKit ++ [m] }

/-- A frame sent to the session `id`. -/
def sendToClient (id : String) (m : ClientMessage) : BrokerM Unit :=
  modify fun b => { b with toClients := b.toClients ++ [(id, m)] }

/-- The frame `forwardToChild` sends for `msg`: a `load` command gets `jail=<jailed URI>`
after its third token. `none` when there is no third token: the code then reads `tokens[2]`
past the end of the vector. -/
def loadRewrite (uriJailed msg : String) : Option String :=
  match tokenize msg with
  | t0 :: t1 :: rest =>
    if t1 = "load" then
      match rest with
      | t2 :: more =>
        some (t0 ++ " " ++ t1 ++ " " ++ t2 ++ " jail=" ++ uriJailed ++ " " ++
          String.intercalate " " more)
      | [] => none
    else some msg
  | _ => some msg

/-- `DocumentBroker::forwardToChild` (`DocumentBroker.cpp:1428-1458`). -/
def forwardToChild (viewId message : String) : BrokerM Bool := do
  let b ← get
  if b.sessions.contains viewId then
    match loadRewrite b.uriJailed ("child-" ++ viewId ++ " " ++ message) with
    | some frame => do sendToKit (.text frame); pure true
    | none => throw .undefinedBehaviour
  else pure false

/-! ## Saving -/

/-- The JSON arguments `sendUnoSave` builds for its two flags. -/
def saveArgs (dontTerminateEdit dontSaveIfUnmodified : Bool) : String :=
  "\x7b" ++
    (if dontTerminateEdit then
      "\"DontTerminateEdit\":\x7b\"type\":\"boolean\",\"value\":true\x7d" else "") ++
    (if dontSaveIfUnmodified then
      (if dontTerminateEdit then "," else "") ++
        "\"DontSaveIfUnmodified\":\x7b\"type\":\"boolean\",\"value\":true\x7d" else "") ++
    "\x7d"

/-- The command `sendUnoSave` forwards to the kit. -/
def unoSaveCommand (dontTerminateEdit dontSaveIfUnmodified : Bool) : String :=
  "uno .uno:Save " ++ saveArgs dontTerminateEdit dontSaveIfUnmodified

/-- `DocumentBroker::sendUnoSave` (`DocumentBroker.cpp:912-963`). -/
def sendUnoSave (sessionId : String) (dontTerminateEdit dontSaveIfUnmodified : Bool)
    (now : Int) : BrokerM Bool := do
  let b ← get
  if b.sessions.contains sessionId then do
    modify fun b => { b with lastFileModifiedTime := 0 }
    let _ ← forwardToChild sessionId (unoSaveCommand dontTerminateEdit dontSaveIfUnmodified)
    modify fun b => { b with lastSaveRequestTime := now }
    pure true
  else pure false

/-- `autoSave`'s choice of the session to save with: the first session, unless a session
that is the document owner comes first or later (the loop of `DocumentBroker.cpp:870-884`). -/
def savingSessionLoop : String → List ClientSession → String
  | acc, [] => acc
  | acc, s :: rest =>
    let acc := if acc.isEmpty then s.id else acc
    if s.isDocumentOwner then s.id else savingSessionLoop acc rest

/-- `DocumentBroker::autoSave` (`DocumentBroker.cpp:853-910`). -/
def autoSave (cfg : Settings) (force : Bool) (now : Int) : BrokerM Bool := do
  let b ← get
  if b.sessions.isEmpty || b.storage.isNone || !b.isLoaded || !b.childAlive ||
      (!b.isModified && !force) then
    pure false
  else
    let savingSessionId := savingSessionLoop "" b.sessions.entries
    if force then
      sendUnoSave savingSessionId cfg.dontTerminateEdit cfg.dontSaveIfUnmodified now
    else if b.isModified then
      if now - b.lastActivityTime ≥ cfg.idleSaveDurationMs ∨
          now - b.lastSaveTime ≥ cfg.autoSaveDurationMs then
        sendUnoSave savingSessionId cfg.dontTerminateEdit cfg.dontSaveIfUnmodified now
      else pure false
    else pure false

/-! ## Removing sessions -/

/-- `DocumentBroker::removeSessionInternal` (`DocumentBroker.cpp:1066-1111`). -/
def removeSessionInternal (id : String) : BrokerM Nat := do
  let b ← get
  if b.sessions.contains id then do
    modify fun b => { b with sessions := b.sessions.erase id }
    sendToKit (.text ("child-" ++ id ++ " disconnect"))
    let b ← get
    pure b.sessions.size
  else pure b.sessions.size

/-- `DocumentBroker::destroyIfLastEditor` (`DocumentBroker.cpp:1386-1420`). -/
def destroyIfLastEditor (id : String) : BrokerM Unit := do
  let b ← get
  match b.sessions.find? id with
  | none => pure ()
  | some current =>
    let editable := !current.isReadOnly
    let last :=
      if editable && !b.sessions.isEmpty then
        !(b.sessions.entries.any fun s => s.id != id && s.isViewLoaded && !s.isReadOnly)
      else editable
    modify fun b => { b with
      lastEditableSession := last
      markToDestroy := decide (b.sessions.size ≤ 1) }

/-- `DocumentBroker::removeSession` (`DocumentBroker.cpp:1042-1064`). -/
def removeSession (cfg : Settings) (id : String) (destroyIfLast : Bool) (now : Int) :
    BrokerM Nat := do
  if destroyIfLast then destroyIfLastEditor id
  catchRaised (do
      let b ← get
      if !b.lastEditableSession then removeSessionInternal id
      else do
        let sent ← autoSave cfg true now
        if !sent then removeSessionInternal id
        else do
          let b ← get
          pure b.sessions.size)
    (fun _ => do
      let b ← get
      pure b.sessions.size)

/-- The `shutdownClients` loop over its copy of the session map. -/
def shutdownEach (cfg : Settings) (closeReason : String) (now : Int) :
    List ClientSession → BrokerM Unit
  | [] => pure ()
  | s :: rest => do
    catchRaised (do
        sendToClient s.id (.goingAway closeReason)
        let _ ← removeSession cfg s.id true now
        pure ())
      (fun _ => pure ())
    shutdownEach cfg closeReason now rest

/-- `DocumentBroker::shutdownClients` (`DocumentBroker.cpp:1509-1534`). -/
def shutdownClients (cfg : Settings) (closeReason : String) (now : Int) : BrokerM Unit := do
  let b ← get
  shutdownEach cfg closeReason now b.sessions.entries

/-- `DocumentBroker::terminateChild` (`DocumentBroker.cpp:1550-1577`); `close(rude)` of the
child sends it `exit` unless `rude` (spec §4.6). -/
def terminateChild (cfg : Settings) (closeReason : String) (rude : Bool) (now : Int) :
    BrokerM Unit := do
  if !rude then shutdownClients cfg closeReason now
  if !rude then sendToKit (.text "exit")
  modify fun b => { b with childAlive := false, stop := true }

/-! ## Flags -/

/-- `DocumentBroker::setModified` (`DocumentBroker.cpp:1422-1426`). -/
def setModified (value : Bool) : BrokerM Unit := do
  let _ ← tileCache
  updateTileCache fun tc => { tc with unsavedChanges := value }
  modify fun b => { b with isModified := value }

/-- `DocumentBroker::setLoaded` (`DocumentBroker.cpp:842-851`). -/
def setLoaded : BrokerM Unit :=
  modify fun b => { b with isLoaded := true }

/-- `DocumentBroker::updateLastActivityTime` (`DocumentBroker.cpp:1587-1591`). -/
def updateLastActivityTime (now : Int) : BrokerM Unit :=
  modify fun b => { b with lastActivityTime := now }

end Loolwsd.Model
