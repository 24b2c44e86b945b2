import Loolwsd.Analysis.Teardown

/-!
# What `addSession` leaves behind

`addSession(s)` admits `s` or throws (`DocumentBroker.cpp:971-1040`). `load` may fail at any of
its steps: a refusal, a null storage, a reused token, an invalid file info, an exception of a
collaborator such as `StorageSpaceLowException`, and a C++ exception keeps whatever `load`
changed before it. But `load` never touches the session map or the broker's flags
(`load_untouched`), and the handlers of `addSessionInternal` and `addSession` change only the
frames sent to clients and the destroy mark. So `addSession` has two outcomes
(`addSession_outcomes`):

* it returns the new size, with the session `load` returned (the given one, under the same id)
  inserted and `_markToDestroy`, `_lastEditableSession` and `_stop` cleared; `load` refuses a
  broker marked to destroy, so this needs a broker not marked to destroy;
* it throws a C++ exception, with the session map and the last-editor and stop flags as they
  were, and the broker marked to destroy when its map is empty.

It has no third outcome: while the collaborators answer or throw (`LoadIO.Answers`), `load`
never faults, since it dereferences the storage only after creating it (`load_sound`).
-/

set_option autoImplicit false

namespace Loolwsd.Analysis

open Loolwsd.Model

/-! ## Calls that never fault -/

/-- The collaborators of `load` answer with a value or a C++ exception: none of them is
undefined behaviour (a null `WOPIFileInfo`, say). -/
structure LoadIO.Answers (io : LoadIO) : Prop where
  create : io.create ≠ .error .undefinedBehaviour
  tokenUsed : io.tokenUsed ≠ .error .undefinedBehaviour
  wopiFileInfo : io.wopiFileInfo ≠ .error .undefinedBehaviour
  localFileInfo : io.localFileInfo ≠ .error .undefinedBehaviour
  parseAllPermission : ∀ p, io.parseAllPermission p ≠ .error .undefinedBehaviour
  download : io.download ≠ .error .undefinedBehaviour
  jailedUri : io.jailedUri ≠ .error .undefinedBehaviour
  localModifiedTime : io.localModifiedTime ≠ .error .undefinedBehaviour
  tileCache : io.tileCache ≠ .error .undefinedBehaviour

/-- A call's outcome that is a value satisfying `Q` or a C++ exception: not undefined
behaviour. -/
def Defined {α : Type} (Q : α → Prop) : EStateM.Result Fault DocumentBroker α → Prop
  | .ok a _ => Q a
  | .error e _ => e ≠ .undefinedBehaviour

/-- From a state with a storage, `x` returns a value satisfying `Q` in a state that still has a
storage, or throws a C++ exception: it never faults. -/
def Sound {α : Type} (Q : α → Prop) (x : BrokerM α) : Prop :=
  ∀ b, b.storage.isSome → match x b with
    | .ok a b' => Q a ∧ b'.storage.isSome
    | .error e _ => e ≠ .undefinedBehaviour

section Sound

variable {α β : Type} {Q : β → Prop}

theorem Sound.pure {a : β} (h : Q a) : Sound Q (pure a : BrokerM β) := fun _ hs => ⟨h, hs⟩

theorem Sound.get : Sound (fun _ => True) (get : BrokerM DocumentBroker) :=
  fun _ hs => ⟨trivial, hs⟩

theorem Sound.throw {e : Fault} (he : e ≠ .undefinedBehaviour) : Sound Q (throw e : BrokerM β) :=
  fun _ _ => he

theorem Sound.modify {f : DocumentBroker → DocumentBroker}
    (hf : ∀ b, (f b).storage.isSome = b.storage.isSome) :
    Sound (fun _ => True) (modify f : BrokerM PUnit) :=
  fun b hs => ⟨trivial, (hf b).trans hs⟩

theorem Sound.ask {r : Except Fault α} (hr : r ≠ .error .undefinedBehaviour) :
    Sound (fun _ => True) (ask r) := by
  intro b hs
  cases r with
  | error e => exact fun h => hr (h ▸ rfl)
  | ok a => exact ⟨trivial, hs⟩

theorem Sound.storage : Sound (fun _ => True) Loolwsd.Model.storage := by
  intro b hs
  obtain ⟨st, h⟩ := Option.isSome_iff_exists.mp hs
  simp [Loolwsd.Model.storage, h]

theorem Sound.bind_of {P : α → Prop} {x : BrokerM α} {f : α → BrokerM β} (hx : Sound P x)
    (hf : ∀ a, P a → Sound Q (f a)) : Sound Q (x >>= f) := by
  intro b hs
  have h := hx b hs
  rw [run_bind]
  revert h
  cases x b with
  | ok a b1 => exact fun h => hf a h.1 b1 h.2
  | error e b1 => exact id

/-- A call whose value the rest does not rely on. -/
theorem Sound.bind {x : BrokerM α} {f : α → BrokerM β} (hx : Sound (fun _ => True) x)
    (hf : ∀ a, Sound Q (f a)) : Sound Q (x >>= f) :=
  Sound.bind_of hx fun a _ => hf a

theorem Sound.ite {c : Prop} [Decidable c] {x y : BrokerM β} (hx : Sound Q x) (hy : Sound Q y) :
    Sound Q (if c then x else y) := by
  split <;> assumption

/-- What a sound call gives from a state with a storage. -/
theorem Sound.run {x : BrokerM β} (h : Sound Q x) {b : DocumentBroker} (hs : b.storage.isSome) :
    Defined Q (x b) := by
  have := h b hs
  revert this
  cases x b with
  | ok a _ => exact And.left
  | error e _ => exact id

end Sound

/-! ## `load` -/

/-- INTERNAL: the file-info query never faults, and keeps the session's id.
Source: `DocumentBroker.cpp:535-640`. -/
theorem fileInfoPhase_sound (cfg : Settings) (isWopi : Bool) (s : ClientSession) {io : LoadIO}
    (hio : LoadIO.Answers io) :
    Sound (fun s' : ClientSession => s'.id = s.id) (fileInfoPhase cfg isWopi s io) := by
  unfold fileInfoPhase wopiFileInfoPhase localFileInfoPhase ndcPermission setFileInfo
    sendToClient updateStorage
  repeat' first
    | with_reducible refine Sound.bind ?_ fun _ => ?_
    | exact Sound.get
    | exact Sound.storage
    | exact Sound.ask hio.tokenUsed
    | exact Sound.ask hio.wopiFileInfo
    | exact Sound.ask hio.localFileInfo
    | exact Sound.ask (hio.parseAllPermission _)
    | exact Sound.modify fun _ => rfl
    | exact Sound.modify fun _ => Option.isSome_map'
    | exact Sound.throw Fault.noConfusion
    | with_reducible refine Sound.ite ?_ ?_
    | exact Sound.pure trivial
    | exact Sound.pure rfl
    | exact Sound.pure (by split_ifs <;> rfl)

/-- INTERNAL: `createStorage` answers `none` with the state unchanged, or a storage, or the
exception `StorageBase::create` threw. -/
theorem createStorage_sound {io : LoadIO} (hio : LoadIO.Answers io) (b : DocumentBroker) :
    createStorage io b = .ok none b ∨
      (∃ f b', createStorage io b = .ok (some f) b' ∧ b'.storage.isSome) ∨
      ∃ e, createStorage io b = .error e b ∧ e ≠ .undefinedBehaviour := by
  unfold createStorage
  cases hs : b.storage with
  | some st => exact .inr (.inl ⟨false, b, by simp [hs], by simp [hs]⟩)
  | none =>
    cases hc : io.create with
    | error e => exact .inr (.inr ⟨e, by simp [hs, hc, ask], fun h => hio.create (h ▸ hc)⟩)
    | ok c => cases c <;> simp [hs, hc, ask]

/-- **`load` never faults** while its collaborators answer or throw, and the session it
returns has the id it was given. Source: `DocumentBroker.cpp:481-714`. -/
theorem load_sound (cfg : Settings) (s : ClientSession) (j : String) {io : LoadIO}
    (hio : LoadIO.Answers io) (b : DocumentBroker) :
    Defined (fun r => r.2.id = s.id) (load cfg s j io b) := by
  by_cases hm : b.markToDestroy = true
  · rw [load_of_marked hm]; rfl
  unfold load
  simp only [run_bind, run_get]
  rw [if_neg hm]
  simp only [run_bind, run_modify]
  rcases createStorage_sound hio { b with jailId := j } with hc | ⟨f, b2, hc, hs2⟩ | ⟨e, hc, he⟩
  · simp only [hc]; rfl
  · simp only [hc]
    refine Sound.run (?_ : Sound (fun r : Bool × ClientSession => r.2.id = s.id) _) hs2
    unfold recordTimestamp downloadIfNotLoaded downloadPhase sendLoadStats sendToClient
      updateStorage
    repeat' first
      | with_reducible refine Sound.bind_of (fileInfoPhase_sound cfg _ s hio) fun _ _ => ?_
      | with_reducible refine Sound.bind ?_ fun _ => ?_
      | exact Sound.get
      | exact Sound.storage
      | exact Sound.ask hio.download
      | exact Sound.ask hio.jailedUri
      | exact Sound.ask hio.localModifiedTime
      | exact Sound.ask hio.tileCache
      | exact Sound.modify fun _ => rfl
      | exact Sound.modify fun _ => Option.isSome_map'
      | with_reducible refine Sound.ite ?_ ?_
      | exact Sound.pure trivial
      | exact Sound.pure ‹_›
  · simp only [hc]; exact he


/-! ## `addSession` -/

/-- INTERNAL: a session with a new id is inserted, and only it. -/
theorem emplace_perm (m : SessionMap) (s : ClientSession) (h : m.contains s.id = false) :
    (m.emplace s).entries.Perm (s :: m.entries) := by
  simp only [SessionMap.emplace, h, Bool.false_eq_true, ↓reduceDIte]
  exact insertByKey_perm _ _

/-- **`addSession` admits the session or throws, and nothing else.** For every broker and every
session whose id is not in the map, while the collaborators of `load` answer or throw:

* either `addSession` returns `|sessions| + 1`, the session `load` returned (the given one, under
  the same id) is inserted and nothing else, and `_markToDestroy`, `_lastEditableSession` and
  `_stop` are cleared; this needs a broker not marked to destroy;
* or it throws a C++ exception, with the session map, `_lastEditableSession` and `_stop` as they
  were, and `_markToDestroy` set when the session map is empty and kept otherwise.

Source: `DocumentBroker.cpp:971-1040`, `DocumentBroker.cpp:481-500`. -/
theorem addSession_outcomes (cfg : Settings) (s : ClientSession) {io : LoadIO}
    (hio : LoadIO.Answers io) (b : DocumentBroker) (hs : b.sessions.contains s.id = false) :
    (∃ n b', addSession cfg s io b = .ok n b' ∧ b.markToDestroy = false ∧
      n = b.sessions.size + 1 ∧
      (∃ s', s'.id = s.id ∧ b'.sessions.entries.Perm (s' :: b.sessions.entries)) ∧
      b'.markToDestroy = false ∧ b'.lastEditableSession = false ∧ b'.stop = false) ∨
    (∃ e b', addSession cfg s io b = .error e b' ∧ e ≠ .undefinedBehaviour ∧
      b'.sessions = b.sessions ∧ b'.lastEditableSession = b.lastEditableSession ∧
      b'.stop = b.stop ∧ b'.markToDestroy = (b.sessions.isEmpty || b.markToDestroy)) := by
  have hd := load_sound cfg s b.childJailId hio b
  simp only [addSession, addSessionInternal, run_catchRaised, run_bind, run_get]
  rcases hl : load cfg s b.childJailId io b with ⟨⟨loaded, s'⟩, b2⟩ | ⟨e, b2⟩
  · have u := load_untouched cfg s b.childJailId io b b2 (by rw [hl]; rfl)
    rw [hl] at hd
    cases loaded
    · right
      cases he : b.sessions.isEmpty <;> simp [u.sessions, u.lastEditableSession, u.stop,
        u.markToDestroy, he, and_assoc]
    · have hm : b.markToDestroy = false := by
        cases h : b.markToDestroy
        · rfl
        · rw [load_of_marked h] at hl; cases hl
      have hp := emplace_perm b2.sessions s' (by rw [u.sessions, hd]; exact hs)
      left
      refine ⟨_, _, rfl, hm, ?_, ⟨s', hd, by simpa [sendToKit, u.sessions] using hp⟩, rfl, rfl, rfl⟩
      simpa [sendToKit, SessionMap.size, u.sessions] using hp.length_eq
  · rw [hl] at hd
    have u := load_untouched cfg s b.childJailId io b b2
      (by rw [hl]; exact settle_error_eq_some.mpr ⟨hd, rfl⟩)
    right
    cases e with
    | undefinedBehaviour => exact absurd rfl hd
    | raised w =>
      cases he : b.sessions.isEmpty <;> simp [u.sessions, u.lastEditableSession, u.stop,
        u.markToDestroy, he, and_assoc]
    | storageSpaceLow w =>
      cases he : b.sessions.isEmpty <;> simp [u.sessions, u.lastEditableSession, u.stop,
        u.markToDestroy, he, and_assoc]

/-- A first session opening the local document on a new broker is admitted: the outcome that
`addSession_outcomes` leaves is the admission. -/
theorem addSession_outcomes_first_local :
    let cfg : Settings := ⟨30000, 30000, 300000, true, true, false⟩
    let s : ClientSession := ⟨"a", false, false, false, false, "", "file:///doc.odt", [], "", ""⟩
    let b := DocumentBroker.init cfg "k" "d" "j" 0 0
    LoadIO.Answers localDocLoad ∧ b.sessions.contains s.id = false ∧
    (∃ n b', addSession cfg s localDocLoad b = .ok n b' ∧ b.markToDestroy = false ∧
      n = b.sessions.size + 1 ∧
      (∃ s', s'.id = s.id ∧ b'.sessions.entries.Perm (s' :: b.sessions.entries)) ∧
      b'.markToDestroy = false ∧ b'.lastEditableSession = false ∧ b'.stop = false) := by
  intro cfg s b
  have hio : LoadIO.Answers localDocLoad :=
    ⟨nofun, nofun, nofun, nofun, fun _ => nofun, nofun, nofun, nofun, nofun⟩
  have hs : b.sessions.contains s.id = false := rfl
  obtain ⟨n, b', hok⟩ : ∃ n b', addSession cfg s localDocLoad b = .ok n b' := ⟨_, _, rfl⟩
  refine ⟨hio, hs, (addSession_outcomes _ _ hio _ hs).resolve_right ?_⟩
  rintro ⟨e, b'', he, -⟩
  rw [hok] at he
  cases he

end Loolwsd.Analysis
