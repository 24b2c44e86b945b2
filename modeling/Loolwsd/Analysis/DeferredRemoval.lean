import Loolwsd.Analysis.Admission

/-!
# Deferred removals and overlapping saves

`removeSession` (`DocumentBroker.cpp:1042-1064`) defers the removal of the last editable
session behind a forced `autoSave`: the session stays in the map, and the save goes through
the session `autoSave` picks, the first document owner or else the first session in id order.
The completion of that save, `saveToStorage(s, …)` (`DocumentBroker.cpp:716-736`), removes only
its own session `s`, and only when the broker is marked to destroy or `s` has its close frame.
A removal the save was not attributed to is never completed (`saveToStorage_keeps_others`):
with a read-only session first in id order, the last editor stays in the map after the save
it waited for (`deferred_removal_outlives_save`).

The forced save is sent whatever the state of the save in flight. `pollThread` waits while a
save is in flight (`DocumentBroker.cpp:279-286`); `removeSession` has no such gate, so a
disconnect inside the window of a timer's save sends a second `.uno:Save`
(`removeSession_saves_while_saving`, `second_save_while_saving`).
-/

set_option autoImplicit false

namespace Loolwsd.Analysis

open Loolwsd.Model

/-! ## What a save completion removes -/

/-- **A save completion removes no session but its own.** Whatever the kit and the storage
report, `saveToStorage(s, …)` keeps every other session in the map.
Source: `DocumentBroker.cpp:716-840`. -/
theorem saveToStorage_keeps_others {s id : String} (hne : s ≠ id) (success : Bool)
    (result : String) (io : SaveIO) (now : Int) :
    Leads (Kept fun b => b.sessions.contains id = true)
      (saveToStorage s success result io now) := by
  have hrm : Leads (Kept fun b => b.sessions.contains id = true) (removeSessionInternal s) :=
    Leads.of_eq _ _ (removeSessionInternal_eq s) fun b h => by
      unfold DocumentBroker.removed
      split <;> simp [h, Ne.symm hne]
  unfold saveToStorage saveToStorageInternal uploadOutcome sendToClient updateStorage
  repeat' first
    | with_reducible exact hrm
    | with_reducible refine Leads.bind ?_ fun _ => ?_
    | with_reducible exact Leads.pure _
    | with_reducible exact Leads.get
    | with_reducible exact Leads.throw _
    | with_reducible exact Leads.tileCache
    | with_reducible exact Leads.storage
    | exact Leads.modify fun _ h => by simpa using h
    | with_reducible refine Leads.ite ?_ ?_
    | split

/-! ## A removal attributed to another session -/

/-- **A deferred removal outlives its save** (a defect). Two sessions: `a`, read-only and first
in id order, and `b`, the only editor. When `b` disconnects, `removeSession` keeps it in the
map and sends the forced save through `a`; whatever the completion of that save reports,
`saveToStorage(a, …)` leaves `b` in the map. -/
theorem deferred_removal_outlives_save :
    ∃ (cfg : Settings) (b b1 : DocumentBroker), Reachable cfg b ∧
      b.sessions.contains "b" = true ∧
      removeSession cfg "b" true 1000 b = .ok b1.sessions.size b1 ∧
      b1.sessions.contains "b" = true ∧
      b1.toKit = b.toKit ++ [.text (saveFrame b.uriJailed "a" true true)] ∧
      ∀ success result io now b2, settle (saveToStorage "a" success result io now b1) = some b2 →
        b2.sessions.contains "b" = true := by
  let cfg : Settings := ⟨30000, 30000, 300000, true, true, false⟩
  let a : ClientSession := ⟨"a", true, false, true, false, "", "file:///doc.odt", [], "u", "U"⟩
  let e : ClientSession := ⟨"b", false, false, true, false, "", "file:///doc.odt", [], "u", "U"⟩
  let b0 := DocumentBroker.init cfg "k" "d" "j" 0 0
  let es := [Event.addSession a localDocLoad, .addSession e localDocLoad, .setLoaded]
  let b := (run cfg b0 es).getD b0
  have hr : Reachable cfg b :=
    (Reachable.init "k" "d" "j" 0 0).run (show run cfg b0 es = some b from rfl)
  let b1 := b.afterRemoveSession cfg "b" true 1000
  have h1 : b1.sessions.contains "b" = true := by decide
  exact ⟨cfg, b, b1, hr, by decide, removeSession_eq cfg "b" true 1000 b, h1, by decide,
    fun ok r io now b2 h => saveToStorage_keeps_others (by decide) ok r io now b1 b2 h h1⟩

/-! ## A second save while one is in flight -/

/-- **`removeSession` has no save gate.** When the departing session is the last editor and
the forced `autoSave` can send, `removeSession` sends a `.uno:Save` through the saving session,
whether or not a save is in flight. Source: `DocumentBroker.cpp:1042-1064`. -/
theorem removeSession_saves_while_saving (cfg : Settings) (id : String) (now : Int)
    (b : DocumentBroker) (h : (b.lastEditorFlags id).defersRemoval cfg now) :
    ∃ b1, removeSession cfg id true now b = .ok b1.sessions.size b1 ∧
      b1.toKit = b.toKit ++ [.text (saveFrame b.uriJailed b.savingSessionId
        cfg.dontTerminateEdit cfg.dontSaveIfUnmodified)] ∧
      b1.lastSaveRequestTime = now := by
  have hf : (b.lastEditorFlags id).toKit = b.toKit ∧
      (b.lastEditorFlags id).uriJailed = b.uriJailed ∧
      (b.lastEditorFlags id).savingSessionId = b.savingSessionId := by
    unfold DocumentBroker.lastEditorFlags
    split <;> exact ⟨rfl, rfl, rfl⟩
  refine ⟨_, removeSession_eq cfg id true now b, ?_⟩
  simp only [DocumentBroker.afterRemoveSession, ite_true, h]
  simp [DocumentBroker.savedThrough, hf]

/-- **A second save while one is in flight** (a defect). One editor `a`; the autosave timer
sends a save at 60 s, and `a` disconnects one second later, inside the
`COMMAND_TIMEOUT_MS` window of that save: `removeSession` sends a second `.uno:Save`. -/
theorem second_save_while_saving :
    ∃ (cfg : Settings) (b b1 : DocumentBroker), Reachable cfg b ∧ b.saving cfg 61000 ∧
      removeSession cfg "a" true 61000 b = .ok b1.sessions.size b1 ∧
      b1.toKit = b.toKit ++ [.text (saveFrame b.uriJailed "a" true true)] := by
  let cfg : Settings := ⟨30000, 30000, 300000, true, true, false⟩
  let a : ClientSession := ⟨"a", false, false, true, false, "", "file:///doc.odt", [], "u", "U"⟩
  let b0 := DocumentBroker.init cfg "k" "d" "j" 0 0
  let es := [Event.addSession a localDocLoad, .setLoaded,
    .timers ⟨true, 3600, 30⟩ false 60000 ⟨0, "stopped"⟩]
  let b := (run cfg b0 es).getD b0
  have hr : Reachable cfg b :=
    (Reachable.init "k" "d" "j" 0 0).run (show run cfg b0 es = some b from rfl)
  obtain ⟨b1, h1, h2, -⟩ := removeSession_saves_while_saving cfg "a" 61000 b (by decide)
  have hs : b.savingSessionId = "a" := by decide
  exact ⟨cfg, b, b1, hr, by decide, h1, by rw [h2, hs]⟩

end Loolwsd.Analysis
