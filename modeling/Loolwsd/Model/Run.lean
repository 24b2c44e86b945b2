import Loolwsd.Model.Load
import Loolwsd.Model.Save
import Loolwsd.Model.Tiles

/-!
# Runs of a broker

Everything that mutates a broker runs on its poll thread, one call at a time: the timers of
`pollThread`'s main loop, the callbacks other threads enqueue (`addSession`), and what the
poll delivers from the sockets (kit frames, client commands, disconnects, save completions).
A run is any sequence of these calls, `Event`s, from a freshly constructed broker, with any
clock values and any answers of the collaborators.

A C++ exception ends the call and the poll loop carries on with the state at the throw;
undefined behaviour ends the run (`step` is `none`).
-/

set_option autoImplicit false

namespace Loolwsd.Model

/-- `pollThread`'s configuration: `AutoSaveEnabled` (no `LOOL_NO_AUTOSAVE` in the
environment), `per_document.idle_timeout_secs` and `autosave.autosaving`. -/
structure PollSettings where
  autoSaveEnabled : Bool
  idleDocTimeoutSecs : Nat
  savingtime : Nat

/-- The locals of `pollThread` that live across iterations of its main loop. -/
structure PollLocals where
  last30SecCheckTime : Int
  closeReason : String

/-- Whether a save is in flight at `now`: requested after the last completion, and requested
at most `COMMAND_TIMEOUT_MS` ago. -/
def DocumentBroker.saving (cfg : Settings) (b : DocumentBroker) (now : Int) : Prop :=
  b.lastSaveTime < b.lastSaveRequestTime ∧ now - b.lastSaveRequestTime ≤ cfg.commandTimeoutMs

instance (cfg : Settings) (b : DocumentBroker) (now : Int) : Decidable (b.saving cfg now) :=
  inferInstanceAs (Decidable (_ ∧ _))

/-- Modelled from the spec: `getIdleTimeSecs()`, the whole seconds since the last activity. -/
def DocumentBroker.idleTimeSecs (b : DocumentBroker) (now : Int) : Int :=
  (now - b.lastActivityTime).tdiv 1000

/-- The timers of `pollThread`'s main loop (`DocumentBroker.cpp:279-311`), run after each poll
at clock `now`. -/
def pollTimers (cfg : Settings) (ps : PollSettings) (shutdownRequested : Bool) (now : Int)
    (loc : PollLocals) : BrokerM PollLocals := do
  let b ← get
  if b.saving cfg now then pure loc
  else do
    let loc ← if shutdownRequested then do
        modify fun b => { b with stop := true }
        pure { loc with closeReason := "recycling" }
      else if ps.autoSaveEnabled && !b.stop &&
          decide ((now - loc.last30SecCheckTime).tdiv 1000 ≥ ps.savingtime) then do
        let _ ← autoSave cfg true now
        pure { loc with last30SecCheckTime := now }
      else pure loc
    let b ← get
    let idle := decide (b.idleTimeSecs now ≥ ps.idleDocTimeoutSecs)
    if (b.isLoaded || b.markToDestroy) && (b.sessions.isEmpty || idle) then do
      modify fun b => { b with stop := true }
      pure { loc with closeReason := if idle then "idle" else "dead" }
    else pure loc

/-- The kit has acknowledged the view of the session `id` (`ClientSession::setViewLoaded`). -/
def markViewLoaded (id : String) : BrokerM Unit :=
  modify fun b => { b with
    sessions := b.sessions.modify id (fun s => { s with isViewLoaded := true }) fun _ => rfl }

/-- The client of the session `id` has sent its close frame. -/
def markCloseFrame (id : String) : BrokerM Unit :=
  modify fun b => { b with
    sessions := b.sessions.modify id (fun s => { s with isCloseFrame := true }) fun _ => rfl }

/-- One call on the broker's poll thread. -/
inductive Event where
  /-- The acceptor's callback `addSession(session)`. -/
  | addSession (s : ClientSession) (io : LoadIO)
  /-- `removeSession(id, destroyIfLast)`, on a client disconnect. -/
  | removeSession (id : String) (destroyIfLast : Bool) (now : Int)
  /-- The kit's save completion, through the saving session: `saveToStorage`. -/
  | saveToStorage (sessionId : String) (success : Bool) (result : String) (io : SaveIO)
      (now : Int)
  /-- An explicit `save` from a session: `sendUnoSave`. -/
  | save (sessionId : String) (dontTerminateEdit dontSaveIfUnmodified : Bool) (now : Int)
  /-- A session's `setmodified` report: `setModified(value)`. -/
  | setModified (value : Bool)
  /-- The kit has loaded the document: `setLoaded()`. -/
  | setLoaded
  /-- Client activity: `updateLastActivityTime()`. -/
  | activity (now : Int)
  /-- A client command for the kit: `forwardToChild(id, message)`. -/
  | forward (id : String) (message : String)
  /-- Tile requests and cancellations from a session. -/
  | tileRequest (tile : TileDesc) (sessionId : String)
  | tileCombinedRequest (tiles : List TileDesc) (sessionId : String)
  | cancelTiles (sessionId : String)
  /-- A frame from the kit: `handleInput(payload)`. -/
  | kitInput (parsers : TileParsers) (payload : List Char)
  /-- The kit has acknowledged a session's view; a client has sent its close frame. -/
  | viewLoaded (id : String)
  | closeFrame (id : String)
  /-- The kit's socket closed: `childSocketTerminated()`. -/
  | childSocketTerminated (now : Int)
  /-- The kit process died. -/
  | childDied
  /-- `closeDocument(reason)`: `terminateChild(reason, true)`. -/
  | closeDocument (reason : String) (now : Int)
  /-- `stop()` from another thread. -/
  | stop
  /-- The timers after a poll, with `pollThread`'s settings and locals at that iteration. -/
  | timers (ps : PollSettings) (shutdownRequested : Bool) (now : Int) (loc : PollLocals)

/-- The call an event makes. -/
def Event.call (cfg : Settings) : Event → BrokerM Unit
  | .addSession s io => Loolwsd.Model.addSession cfg s io >>= fun _ => pure ()
  | .removeSession id d now => Loolwsd.Model.removeSession cfg id d now >>= fun _ => pure ()
  | .saveToStorage id ok r io now => Loolwsd.Model.saveToStorage id ok r io now >>= fun _ => pure ()
  | .save id dte dsiu now => sendUnoSave id dte dsiu now >>= fun _ => pure ()
  | .setModified v => Loolwsd.Model.setModified v
  | .setLoaded => Loolwsd.Model.setLoaded
  | .activity now => updateLastActivityTime now
  | .forward id m => forwardToChild id m >>= fun _ => pure ()
  | .tileRequest t id => handleTileRequest t id
  | .tileCombinedRequest ts id => handleTileCombinedRequest ts id
  | .cancelTiles id => cancelTileRequests id
  | .kitInput p payload => handleInput p payload >>= fun _ => pure ()
  | .viewLoaded id => markViewLoaded id
  | .closeFrame id => markCloseFrame id
  | .childSocketTerminated now => shutdownClients cfg "terminated" now
  | .childDied => modify fun b => { b with childAlive := false }
  | .closeDocument reason now => terminateChild cfg reason true now
  | .stop => modify fun b => { b with stop := true }
  | .timers ps sd now loc => pollTimers cfg ps sd now loc >>= fun _ => pure ()

/-- The state a call leaves: the state at its return or at its throw; `none` after
undefined behaviour. -/
def settle {α : Type} : EStateM.Result Fault DocumentBroker α → Option DocumentBroker
  | .ok _ b => some b
  | .error .undefinedBehaviour _ => none
  | .error _ b => some b

@[simp] theorem settle_ok {α : Type} (a : α) (b : DocumentBroker) : settle (.ok a b) = some b :=
  rfl

@[simp] theorem settle_error_eq_some {α : Type} {e : Fault} {b b' : DocumentBroker} :
    settle (.error e b : EStateM.Result Fault DocumentBroker α) = some b' ↔
      e ≠ .undefinedBehaviour ∧ b = b' := by
  cases e <;> simp [settle]

/-- One step of a run. -/
def step (cfg : Settings) (b : DocumentBroker) (e : Event) : Option DocumentBroker :=
  settle (e.call cfg b)

/-- A broker as its constructor leaves it (`DocumentBroker.cpp:178-208`) once `pollThread` has
attached a child: the last save at `t0`, the last save request `COMMAND_TIMEOUT_MS` before,
the `Poco::Timestamp`s at the wall-clock time `wall`. -/
def DocumentBroker.init (cfg : Settings) (docKey docId childJailId : String) (t0 : Int)
    (wall : Nat) : DocumentBroker where
  docKey := docKey
  docId := docId
  sessions := SessionMap.empty
  storage := none
  tileCache := none
  uriJailed := ""
  jailId := ""
  filename := ""
  lastSaveTime := t0
  lastSaveRequestTime := t0 - cfg.commandTimeoutMs
  lastActivityTime := 0
  lastFileModifiedTime := wall
  documentLastModifiedTime := wall
  markToDestroy := false
  lastEditableSession := false
  isLoaded := false
  isModified := false
  stop := false
  tileVersion := 0
  childAlive := true
  childJailId := childJailId
  toKit := []
  toClients := []

/-- The states a run can reach. -/
inductive Reachable (cfg : Settings) : DocumentBroker → Prop where
  | init (docKey docId childJailId : String) (t0 : Int) (wall : Nat) :
      Reachable cfg (DocumentBroker.init cfg docKey docId childJailId t0 wall)
  | step {b b' : DocumentBroker} (e : Event) :
      Reachable cfg b → step cfg b e = some b' → Reachable cfg b'

/-- A run of events from a state, stopped by undefined behaviour. -/
def run (cfg : Settings) : DocumentBroker → List Event → Option DocumentBroker
  | b, [] => some b
  | b, e :: es => (step cfg b e).bind fun b' => run cfg b' es

/-- The end of a run from a reachable state is reachable. -/
theorem Reachable.run {cfg : Settings} {b b' : DocumentBroker} {es : List Event}
    (hb : Reachable cfg b) (h : run cfg b es = some b') : Reachable cfg b' := by
  induction es generalizing b with
  | nil =>
    simp only [Loolwsd.Model.run, Option.some.injEq] at h
    exact h ▸ hb
  | cons e es ih =>
    simp only [Loolwsd.Model.run, Option.bind_eq_some] at h
    obtain ⟨b1, h1, h2⟩ := h
    exact ih (hb.step e h1) h2

end Loolwsd.Model
