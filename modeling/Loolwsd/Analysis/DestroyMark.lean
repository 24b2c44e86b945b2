import Loolwsd.Analysis.Teardown

/-!
# The destroy mark is final

`_markToDestroy` lets `pollThread` stop the broker once its map is empty
(`DocumentBroker.cpp:305`) and makes `load` refuse every new session (`DocumentBroker.cpp:495`).
Three places write it: a successful admission clears it (`DocumentBroker.cpp:1019`), a failed
one sets it when no session is left (`DocumentBroker.cpp:983`), and `destroyIfLastEditor`, on
the removal of a session, assigns it `_sessions.size() <= 1` (`DocumentBroker.cpp:1416`): on a
map of two sessions that assignment would clear a mark already set.

It never does. Every call but an admission shrinks the map, sets the mark only when at most one
session is left, and keeps it while at most one session is in the map (`MarkStep`,
`markStep_step`); an admission refuses on a marked broker and changes neither the map nor the
mark (`addSession_of_marked`), and clears the mark only when it admits. Hence, over every run
from a new broker, a marked broker holds at most one session (`markInv_reachable`), and from then
on the mark stays and the map only shrinks: no session is ever admitted again
(`marked_broker_stays_marked`).
-/

set_option autoImplicit false

namespace Loolwsd.Analysis

open Loolwsd.Model

/-- INTERNAL: a map whose ids are a sublist of another's is no larger. -/
theorem SessionMap.size_le_of_ids {m m' : SessionMap} (h : m'.ids.Sublist m.ids) :
    m'.size ≤ m.size := by
  simpa [SessionMap.ids, SessionMap.size] using h.length_le

/-! ## What a call does to the mark -/

/-- What a call other than an admission does to the destroy mark: it shrinks the map, sets the
mark only when at most one session is left, and never clears it while at most one session is in
the map. -/
structure MarkStep (b b' : DocumentBroker) : Prop where
  ids : b'.sessions.ids.Sublist b.sessions.ids
  marks : b'.markToDestroy = true → b.markToDestroy = true ∨ b'.sessions.size ≤ 1
  keeps : b.markToDestroy = true → b.sessions.size ≤ 1 → b'.markToDestroy = true

instance : IsRefl DocumentBroker MarkStep := ⟨fun _ => ⟨List.Sublist.refl _, .inl, fun h _ => h⟩⟩

instance : IsTrans DocumentBroker MarkStep :=
  ⟨fun _ _ _ h12 h23 => ⟨h23.ids.trans h12.ids,
    fun h => (h23.marks h).elim
      (fun h2 => (h12.marks h2).imp_right (SessionMap.size_le_of_ids h23.ids).trans) .inr,
    fun hm hs => h23.keeps (h12.keeps hm hs) ((SessionMap.size_le_of_ids h12.ids).trans hs)⟩⟩

/-- INTERNAL: a change that leaves the mark and keeps or shrinks the map. -/
theorem MarkStep.of_same {b b' : DocumentBroker} (hi : b'.sessions.ids.Sublist b.sessions.ids)
    (hm : b'.markToDestroy = b.markToDestroy) : MarkStep b b' :=
  ⟨hi, fun h => .inl (hm.symm.trans h), fun h _ => hm.trans h⟩

/-- The change leaves the destroy mark as it was. -/
def SameMark (b b' : DocumentBroker) : Prop := b'.markToDestroy = b.markToDestroy

instance : IsRefl DocumentBroker SameMark := ⟨fun _ => rfl⟩

instance : IsTrans DocumentBroker SameMark := ⟨fun _ _ _ h12 h23 => Eq.trans h23 h12⟩

/-! ## Removals -/

/-- INTERNAL: `destroyIfLastEditor` sets the mark to whether at most one session is in the map.
Source: `DocumentBroker.cpp:1386-1420`. -/
theorem lastEditorFlags_markStep (b : DocumentBroker) (id : String) :
    MarkStep b (b.lastEditorFlags id) := by
  unfold DocumentBroker.lastEditorFlags
  split
  · exact refl_of MarkStep b
  · exact ⟨List.Sublist.refl _, fun h => .inr (of_decide_eq_true h), fun _ hs => decide_eq_true hs⟩

theorem removed_markStep (b : DocumentBroker) (id : String) :
    MarkStep b (b.removed id) := by
  unfold DocumentBroker.removed
  split
  · exact .of_same (SessionMap.ids_erase_sublist _ _) rfl
  · exact refl_of MarkStep b

theorem removeSession_markStep (cfg : Settings) (id : String) (destroyIfLast : Bool) (now : Int) :
    Leads MarkStep (removeSession cfg id destroyIfLast now) :=
  Leads.of_eq _ _ (removeSession_eq cfg id destroyIfLast now) fun b => by
    have h1 : MarkStep b (if destroyIfLast then b.lastEditorFlags id else b) := by
      split
      · exact lastEditorFlags_markStep b id
      · exact refl_of MarkStep b
    dsimp only [DocumentBroker.afterRemoveSession]
    generalize (if destroyIfLast then b.lastEditorFlags id else b) = b1 at h1 ⊢
    split
    · exact trans_of MarkStep h1
        (show MarkStep b1 (b1.savedThrough _ _ _ _) from .of_same (List.Sublist.refl _) rfl)
    · exact trans_of MarkStep h1 (removed_markStep b1 _)

theorem shutdownEach_markStep (cfg : Settings) (closeReason : String) (now : Int) :
    ∀ l : List ClientSession, Leads MarkStep (shutdownEach cfg closeReason now l)
  | [] => Leads.pure _
  | _ :: rest => Leads.bind
      (Leads.catchRaised
        (Leads.bind (Leads.modify fun _ => .of_same (List.Sublist.refl _) rfl) fun _ =>
          Leads.bind (removeSession_markStep _ _ _ _) fun _ => Leads.pure _)
        fun _ => Leads.pure _)
      fun _ => shutdownEach_markStep cfg closeReason now rest

theorem shutdownClients_markStep (cfg : Settings) (closeReason : String) (now : Int) :
    Leads MarkStep (shutdownClients cfg closeReason now) :=
  Leads.bind Leads.get fun _ => shutdownEach_markStep _ _ _ _

/-! ## Calls that leave the mark -/

theorem combinedEach_sameMark (sessionId : String) :
    ∀ tiles : List TileDesc, Leads SameMark (combinedEach sessionId tiles)
  | [] => Leads.pure _
  | t :: ts => by
    unfold combinedEach sendToClient updateTileCache
    repeat' first
      | with_reducible exact combinedEach_sameMark sessionId ts
      | with_reducible refine Leads.bind ?_ fun _ => ?_
      | with_reducible exact Leads.pure _
      | with_reducible exact Leads.get
      | with_reducible exact Leads.tileCache
      | exact Leads.modify fun _ => rfl
      | split

theorem saveRanges_sameMark (payload : List Char) :
    ∀ ranges : List (TileDesc × Nat × Nat), Leads SameMark (saveRanges payload ranges)
  | [] => Leads.pure _
  | (t, offset, size) :: rest => by
    unfold saveRanges saveTileAndNotify updateTileCache
    repeat' first
      | with_reducible exact saveRanges_sameMark payload rest
      | with_reducible refine Leads.bind ?_ fun _ => ?_
      | with_reducible exact Leads.pure _
      | with_reducible exact Leads.throw _
      | with_reducible exact Leads.tileCache
      | exact Leads.modify fun _ => rfl
      | split

theorem sendUnoSave_sameMark (id : String) (d1 d2 : Bool) (now : Int) :
    Leads SameMark (sendUnoSave id d1 d2 now) := by
  intro b b' h
  rw [sendUnoSave_eq] at h
  split at h <;> cases h <;> rfl

theorem autoSave_sameMark (cfg : Settings) (force : Bool) (now : Int) :
    Leads SameMark (autoSave cfg force now) := by
  intro b b' h
  rw [autoSave_eq] at h
  split at h <;> cases h <;> rfl

theorem removeSessionInternal_sameMark (id : String) : Leads SameMark (removeSessionInternal id) :=
  Leads.of_eq _ _ (removeSessionInternal_eq id) fun b => by
    unfold DocumentBroker.removed
    split <;> rfl

/-- **Only admissions and removals touch the mark.** Every other call a run can make, a save
completion and a teardown of the child included, leaves the destroy mark as it was. -/
theorem call_sameMark (cfg : Settings) (e : Event) :
    Leads SameMark (e.call cfg) ∨ (∃ s io, e = .addSession s io) ∨
      (∃ id d now, e = .removeSession id d now) ∨ ∃ now, e = .childSocketTerminated now := by
  cases e
  case addSession s io => exact .inr (.inl ⟨s, io, rfl⟩)
  case removeSession id d now => exact .inr (.inr (.inl ⟨id, d, now, rfl⟩))
  case childSocketTerminated now => exact .inr (.inr (.inr ⟨now, rfl⟩))
  all_goals
    refine .inl ?_
    simp only [Event.call, terminateChild, Bool.not_true, Bool.false_eq_true, ite_false,
      saveToStorage, saveToStorageInternal, uploadOutcome, setModified, setLoaded,
      updateLastActivityTime, forwardToChild, handleTileRequest, handleTileCombinedRequest,
      cancelTileRequests, handleInput, forwardToClient, handleTileResponse,
      handleTileCombinedResponse, saveTileAndNotify, errorToAll, markViewLoaded, markCloseFrame, pollTimers,
      sendToKit, sendToClient, updateTileCache]
    repeat' first
      | with_reducible exact combinedEach_sameMark _ _
      | with_reducible exact saveRanges_sameMark _ _
      | with_reducible exact sendUnoSave_sameMark _ _ _ _
      | with_reducible exact autoSave_sameMark _ _ _
      | with_reducible exact removeSessionInternal_sameMark _
      | with_reducible refine Leads.bind ?_ fun _ => ?_
      | with_reducible refine Leads.catchRaised ?_ fun _ => ?_
      | with_reducible exact Leads.pure _
      | with_reducible exact Leads.get
      | with_reducible exact Leads.throw _
      | with_reducible exact Leads.ask _
      | with_reducible exact Leads.storage
      | with_reducible exact Leads.tileCache
      | with_reducible refine Leads.ite ?_ ?_
      | split
      | exact Leads.modify fun _ => rfl

/-! ## Admissions -/

/-- A marked broker holds at most one session. -/
def MarkInv (b : DocumentBroker) : Prop := b.markToDestroy = true → b.sessions.size ≤ 1

/-- INTERNAL: on a marked broker `load` refuses, so an admission throws, with the map as it was
and the broker still marked. Source: `DocumentBroker.cpp:971-1040`. -/
theorem addSession_of_marked {cfg : Settings} {s : ClientSession} {io : LoadIO}
    {b b' : DocumentBroker} (hm : b.markToDestroy = true)
    (h : settle (addSession cfg s io b) = some b') :
    b'.sessions = b.sessions ∧ b'.markToDestroy = true := by
  simp only [addSession, addSessionInternal, run_catchRaised, run_bind, run_get,
    load_of_marked hm] at h
  by_cases he : b.sessions.isEmpty = true <;> simp [he, settle] at h <;> subst h
  · exact ⟨rfl, rfl⟩
  · exact ⟨rfl, hm⟩

/-- INTERNAL: `addSession`'s handler marks the broker only when its map is empty.
Source: `DocumentBroker.cpp:978-986`. -/
theorem markInv_of_failed {b b2 : DocumentBroker} (hi : MarkInv b) (hs : b2.sessions = b.sessions)
    (hm : b2.markToDestroy = b.markToDestroy) :
    MarkInv (if b2.sessions.isEmpty then { b2 with markToDestroy := true } else b2) := by
  split
  · next he => exact fun _ => by simp [SessionMap.isEmpty, SessionMap.size] at he ⊢; simp [he]
  · exact fun h => hs ▸ hi (hm ▸ h)

/-- INTERNAL: an admission either clears the mark, or fails with the map as it was and marks the
broker only when its map is empty. Source: `DocumentBroker.cpp:971-1040`. -/
theorem addSession_markInv {cfg : Settings} {s : ClientSession} {io : LoadIO}
    {b b' : DocumentBroker} (hi : MarkInv b) (h : settle (addSession cfg s io b) = some b') :
    MarkInv b' := by
  have hu := load_untouched cfg s b.childJailId io b
  simp only [addSession, addSessionInternal, run_catchRaised, run_bind, run_get] at h
  rcases hl : load cfg s b.childJailId io b with ⟨⟨loaded, s'⟩, b2⟩ | ⟨e, b2⟩
  · have u := hu b2 (by rw [hl]; rfl)
    cases loaded
    · have := markInv_of_failed hi u.sessions u.markToDestroy
      by_cases he : b2.sessions.isEmpty = true <;> simp_all [settle]
    · simp [hl, settle, sendToKit] at h
      subst h
      exact fun hm => Bool.noConfusion hm
  · cases e with
    | undefinedBehaviour => simp [hl, settle] at h
    | raised w =>
      have u := hu b2 (by rw [hl]; rfl)
      have := markInv_of_failed hi u.sessions u.markToDestroy
      by_cases he : b2.sessions.isEmpty = true <;> simp_all [settle]
    | storageSpaceLow w =>
      have u := hu b2 (by rw [hl]; rfl)
      have := @markInv_of_failed b
        { b2 with toClients := b2.toClients ++ b2.sessions.entries.map fun s =>
            (s.id, .text diskFullAlert) } hi u.sessions u.markToDestroy
      by_cases he : b2.sessions.isEmpty = true <;> simp_all [settle]

/-! ## Runs -/

/-- **Every call but an admission is a mark step.** -/
theorem markStep_step {cfg : Settings} {b b' : DocumentBroker} {e : Event}
    (he : ∀ s io, e ≠ .addSession s io) (h : step cfg b e = some b') : MarkStep b b' := by
  have hi : b'.sessions.ids.Sublist b.sessions.ids := by
    rcases Event.call_steady cfg e with hs | ⟨s, io, rfl⟩ | ⟨id, ok, r, io, now, rfl⟩ | ⟨v, rfl⟩
    · exact (hs b b' h).ids
    · exact absurd rfl (he s io)
    · exact (saveToStorage_loadFrame id ok r io now b b'
        (by rwa [step, Event.call, settle_bind_pure] at h)).ids
    · exact (setModified_loadFrame v b b' h).ids
  rcases call_sameMark cfg e with hm | ⟨s, io, rfl⟩ | ⟨id, d, now, rfl⟩ | ⟨now, rfl⟩
  · exact .of_same hi (hm b b' h)
  · exact absurd rfl (he s io)
  · exact removeSession_markStep cfg id d now b b' (by rwa [step, Event.call, settle_bind_pure] at h)
  · exact shutdownClients_markStep cfg _ now b b' h

theorem markInv_step {cfg : Settings} {b b' : DocumentBroker} {e : Event} (hi : MarkInv b)
    (h : step cfg b e = some b') : MarkInv b' := by
  by_cases he : ∃ s io, e = .addSession s io
  · obtain ⟨s, io, rfl⟩ := he
    exact addSession_markInv hi (by rwa [step, Event.call, settle_bind_pure] at h)
  · have m := markStep_step (fun s io h' => he ⟨s, io, h'⟩) h
    intro hm
    rcases m.marks hm with hm0 | hs
    · exact (SessionMap.size_le_of_ids m.ids).trans (hi hm0)
    · exact hs

theorem markInv_reachable {cfg : Settings} {b : DocumentBroker} (hb : Reachable cfg b) :
    MarkInv b := by
  induction hb with
  | init => exact fun h => Bool.noConfusion h
  | step e _ h ih => exact markInv_step ih h

/-- INTERNAL: from a marked broker with at most one session, every step keeps the mark and
shrinks the map. -/
theorem marked_step {cfg : Settings} {b b' : DocumentBroker} {e : Event}
    (hm : b.markToDestroy = true) (hs : b.sessions.size ≤ 1) (h : step cfg b e = some b') :
    b'.markToDestroy = true ∧ b'.sessions.ids.Sublist b.sessions.ids := by
  by_cases he : ∃ s io, e = .addSession s io
  · obtain ⟨s, io, rfl⟩ := he
    obtain ⟨hs', hm'⟩ := addSession_of_marked hm (by rwa [step, Event.call, settle_bind_pure] at h)
    exact ⟨hm', hs' ▸ List.Sublist.refl _⟩
  · have m := markStep_step (fun s io h' => he ⟨s, io, h'⟩) h
    exact ⟨m.keeps hm hs, m.ids⟩

theorem marked_run {cfg : Settings} {b b' : DocumentBroker} {es : List Event}
    (hm : b.markToDestroy = true) (hs : b.sessions.size ≤ 1) (h : run cfg b es = some b') :
    b'.markToDestroy = true ∧ b'.sessions.ids.Sublist b.sessions.ids := by
  induction es generalizing b with
  | nil => exact Option.some.inj h ▸ ⟨hm, List.Sublist.refl _⟩
  | cons e es ih =>
    obtain ⟨b1, h1, h2⟩ := Option.bind_eq_some.mp h
    obtain ⟨hm1, hi1⟩ := marked_step hm hs h1
    obtain ⟨hm2, hi2⟩ := ih hm1 ((SessionMap.size_le_of_ids hi1).trans hs) h2
    exact ⟨hm2, hi2.trans hi1⟩

/-- **The destroy mark is final.** In every state a run from a new broker reaches, a broker
marked to destroy holds at most one session; and every run from such a state, whatever its
events, ends with the broker still marked and with no session that was not in its map: no
admission succeeds, and although every removal of the last editor reassigns the mark, none
clears it. Source: `DocumentBroker.cpp:971-1064`, `DocumentBroker.cpp:1386-1420`. -/
theorem marked_broker_stays_marked (cfg : Settings) (b : DocumentBroker) (hb : Reachable cfg b)
    (hm : b.markToDestroy = true) :
    b.sessions.size ≤ 1 ∧ ∀ es b', run cfg b es = some b' →
      b'.markToDestroy = true ∧ b'.sessions.ids.Sublist b.sessions.ids :=
  have hs := markInv_reachable hb hm
  ⟨hs, fun _ _ h => marked_run hm hs h⟩

/-- The last editor of a loaded document leaves while its save is sent: the removal is deferred,
and the broker is marked with the session still in its map. -/
def markedWithOne : DocumentBroker :=
  (run ⟨30000, 30000, 300000, true, true, false⟩
    (DocumentBroker.init ⟨30000, 30000, 300000, true, true, false⟩ "k" "d" "j" 0 0)
    [.addSession ⟨"a", false, false, false, false, "", "file:///doc.odt", [], "", ""⟩ localDocLoad,
      .setLoaded, .removeSession "a" true 0]).getD
    (DocumentBroker.init ⟨30000, 30000, 300000, true, true, false⟩ "k" "d" "j" 0 0)

example : markedWithOne.markToDestroy = true ∧ markedWithOne.sessions.size = 1 := by decide

theorem deferred_last_editor_stays_marked :
    Reachable ⟨30000, 30000, 300000, true, true, false⟩ markedWithOne ∧
      markedWithOne.markToDestroy = true ∧ markedWithOne.sessions.size ≤ 1 ∧
      ∀ es b', run ⟨30000, 30000, 300000, true, true, false⟩ markedWithOne es = some b' →
        b'.markToDestroy = true ∧ b'.sessions.ids.Sublist markedWithOne.sessions.ids :=
  have hr : Reachable ⟨30000, 30000, 300000, true, true, false⟩ markedWithOne :=
    (Reachable.init "k" "d" "j" 0 0).run (show run ⟨30000, 30000, 300000, true, true, false⟩
      (DocumentBroker.init ⟨30000, 30000, 300000, true, true, false⟩ "k" "d" "j" 0 0)
      [.addSession ⟨"a", false, false, false, false, "", "file:///doc.odt", [], "", ""⟩ localDocLoad,
        .setLoaded, .removeSession "a" true 0] = some markedWithOne from rfl)
  have hm : markedWithOne.markToDestroy = true := by decide
  ⟨hr, hm, marked_broker_stays_marked _ markedWithOne hr hm⟩

end Loolwsd.Analysis
