import Mathlib.Data.String.Basic
import Loolwsd.Analysis.Forwarding

/-!
# Which session an autosave goes through

`autoSave` picks the session to save through with a loop over the session map
(`DocumentBroker.cpp:870-884`): it remembers the first id it meets while the remembered id is
empty, and stops at the first document owner. The empty string serves as "no session chosen
yet"; session ids are generated by the server and are never empty (spec §3), and on such maps
the loop picks the first document owner in map order, else the first session.

* `savingSessionLoop_eq` gives the loop's result in closed form, from any remembered id;
* `autoSave_attributed` is `autoSave` with its choice of session stated as the first owner,
  else the first session, for every map of non-empty ids; the session is in the map;
* the frame it sends is `child-<id> uno .uno:Save <args>`, unchanged by the `load` rewrite,
  for every id without blanks (`saveFrame_eq`).
-/

set_option autoImplicit false

namespace Loolwsd.Analysis

open Loolwsd.Model

/-! ## The choice of the saving session -/

/-- The session a save is attributed to (spec §4.4): the first document owner in map order;
when there is none, the first session. -/
def attributedSessionId (l : List ClientSession) : String :=
  ((l.find? (·.isDocumentOwner)).map (·.id)).getD ((l.head?.map (·.id)).getD "")

/-- INTERNAL: the loop of `autoSave` in closed form, from any remembered id.
Source: `DocumentBroker.cpp:870-884`. -/
theorem savingSessionLoop_eq (acc : String) (l : List ClientSession) :
    savingSessionLoop acc l = ((l.find? (·.isDocumentOwner)).map (·.id)).getD
      (if acc.isEmpty then ((l.find? fun s => !s.id.isEmpty).map (·.id)).getD "" else acc) := by
  induction l generalizing acc with
  | nil => by_cases h : acc = "" <;> simp [savingSessionLoop, String.isEmpty_iff, h]
  | cons s rest ih =>
    by_cases ho : s.isDocumentOwner = true
    · simp [savingSessionLoop, ho]
    · cases hs : s.id.isEmpty <;> by_cases ha : acc = "" <;>
        simp [savingSessionLoop, String.isEmpty_iff, List.find?_cons, ho, ha, hs, ih]

/-- INTERNAL: on a map of non-empty ids, the session `autoSave` saves through is the
attributed one. -/
theorem savingSessionId_eq (b : DocumentBroker) (hid : ∀ s ∈ b.sessions.entries, s.id ≠ "") :
    b.savingSessionId = attributedSessionId b.sessions.entries := by
  have hfirst : b.sessions.entries.find? (fun s => !s.id.isEmpty) = b.sessions.entries.head? := by
    cases h : b.sessions.entries with
    | nil => rfl
    | cons s rest =>
      have hs : s.id.isEmpty = false :=
        Bool.eq_false_iff.mpr fun he => hid s (by simp [h]) ((String.isEmpty_iff _).mp he)
      simp [List.find?_cons, hs]
  rw [DocumentBroker.savingSessionId, savingSessionLoop_eq, hfirst]
  rfl

/-! ## The frame of a save -/

/-- INTERNAL: the command's tokens start with `uno`. -/
theorem tokenize_unoSaveCommand_head (d1 d2 : Bool) :
    (tokenize (unoSaveCommand d1 d2))[0]? = some "uno" := by
  cases d1 <;> cases d2 <;> decide

/-- **The save frame is the save command**: `child-<id> uno .uno:Save <args>`, which the `load`
rewrite leaves alone, for every session id without blanks. -/
theorem saveFrame_eq (uri id : String) (d1 d2 : Bool) (hid : ∀ c ∈ id.data, isSpace c = false) :
    saveFrame uri id d1 d2 = "child-" ++ id ++ " " ++ unoSaveCommand d1 d2 := by
  have hc : tokenize ("child-" ++ id) = ["child-" ++ id] :=
    tokenize_of_no_space _ (no_space_append (by decide) hid) (by simp)
  have h : loadRewrite uri ("child-" ++ id ++ " " ++ unoSaveCommand d1 d2) =
      some ("child-" ++ id ++ " " ++ unoSaveCommand d1 d2) := by
    apply loadRewrite_of_not_load
    rw [tokenize_append_blank, hc, List.singleton_append, List.getElem?_cons_succ,
      tokenize_unoSaveCommand_head]
    decide
  simp [saveFrame, h]

/-! ## `autoSave` -/

/-- **`autoSave` sends one save, through the attributed session.** For every map of sessions
whose ids are not empty, as the server generates them: `autoSave` returns true exactly when it
sends a save, and it does so exactly when `autoSaveSends` holds: the session map is not empty,
the storage exists, the document is loaded, the child is alive, and the save is forced or the
document is modified and idle or unsaved for long enough. The save then appends one frame to the
kit, stamps `_lastSaveRequestTime` and resets `_lastFileModifiedTime`, through the first document
owner in map order, else the first session; that session is in the map.
Source: `DocumentBroker.cpp:853-963`. -/
theorem autoSave_attributed (cfg : Settings) (force : Bool) (now : Int) (b : DocumentBroker)
    (hid : ∀ s ∈ b.sessions.entries, s.id ≠ "") :
    autoSave cfg force now b =
      (if b.autoSaveSends cfg force now then
        .ok true (b.savedThrough (attributedSessionId b.sessions.entries)
          cfg.dontTerminateEdit cfg.dontSaveIfUnmodified now)
      else .ok false b) ∧
    (b.sessions.isEmpty = false →
      ∃ s ∈ b.sessions, attributedSessionId b.sessions.entries = s.id) := by
  refine ⟨by rw [autoSave_eq, savingSessionId_eq b hid], fun h => ?_⟩
  rw [← savingSessionId_eq b hid]
  exact savingSessionId_mem b h

/-- A loaded document with the sessions `a` and `b`, of which `b` owns the document. -/
def ownerSecond : DocumentBroker :=
  { DocumentBroker.init ⟨30000, 30000, 300000, true, true, false⟩ "k" "d" "j" 0 0 with
    sessions := (SessionMap.empty.emplace
      ⟨"b", false, true, false, false, "", "file:///doc.odt", [], "v", "V"⟩).emplace
      ⟨"a", false, false, false, false, "", "file:///doc.odt", [], "u", "U"⟩
    storage := some ⟨false, true, ⟨"doc.odt", "v", 0, true⟩⟩
    isLoaded := true }

/-- A forced autosave of `ownerSecond` goes through the owner `b`, not through `a`, which comes
first in the map. -/
theorem autoSave_through_owner :
    (∀ s ∈ ownerSecond.sessions.entries, s.id ≠ "") ∧
      (autoSave ⟨30000, 30000, 300000, true, true, false⟩ true 0 ownerSecond =
        (if ownerSecond.autoSaveSends ⟨30000, 30000, 300000, true, true, false⟩ true 0 then
          .ok true (ownerSecond.savedThrough (attributedSessionId ownerSecond.sessions.entries)
            true true 0)
        else .ok false ownerSecond) ∧
      (ownerSecond.sessions.isEmpty = false →
        ∃ s ∈ ownerSecond.sessions, attributedSessionId ownerSecond.sessions.entries = s.id)) :=
  have hid : ∀ s ∈ ownerSecond.sessions.entries, s.id ≠ "" := by decide
  ⟨hid, autoSave_attributed _ true 0 ownerSecond hid⟩

example : ownerSecond.autoSaveSends ⟨30000, 30000, 300000, true, true, false⟩ true 0 ∧
    ownerSecond.sessions.ids = ["a", "b"] ∧
    attributedSessionId ownerSecond.sessions.entries = "b" := by decide

end Loolwsd.Analysis
