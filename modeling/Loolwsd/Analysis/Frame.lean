import Mathlib.Order.Defs.Unbundled
import Loolwsd.Analysis.Calls

/-!
# What each call of the broker can change

`Leads R x` says that every state the call `x` ends in, at its return or at its throw, is
related by `R` to the state it started from (undefined behaviour ends the run and constrains
nothing). For a reflexive and transitive `R` it is closed under the constructs the model's
calls are made of (`Leads.pure` to `Leads.catchRaised`), so each call's lemma follows the
call's own code.

The relation the invariants of the broker rest on is `Steady`: no session is admitted, the
document's load state and modified state are as they were, and the destroy mark changes only
while a session is in the map. Every event except `addSession`, `saveToStorage` and
`setModified` is steady (`Event.call_steady`), so an invariant over those fields is proved for
these three calls and inherited by the rest.
-/

set_option autoImplicit false

namespace Loolwsd.Model

/-! ## Frame rules -/

/-- Every state `x` ends in from `b`, at its return or at its throw, is related to `b` by `R`. -/
def Leads (R : DocumentBroker → DocumentBroker → Prop) {α : Type} (x : BrokerM α) : Prop :=
  ∀ b b', settle (x b) = some b' → R b b'

section Rules

variable {R : DocumentBroker → DocumentBroker → Prop} {α β : Type}

theorem Leads.pure [IsRefl DocumentBroker R] (a : α) : Leads R (pure a : BrokerM α) := by
  intro b b' h
  cases h
  exact refl_of R b

theorem Leads.get [IsRefl DocumentBroker R] : Leads R (get : BrokerM DocumentBroker) := by
  intro b b' h
  cases h
  exact refl_of R b

theorem Leads.throw [IsRefl DocumentBroker R] (e : Fault) : Leads R (throw e : BrokerM α) := by
  intro b b' h
  cases e <;> cases h <;> exact refl_of R b

theorem Leads.modify {f : DocumentBroker → DocumentBroker} (hf : ∀ b, R b (f b)) :
    Leads R (modify f : BrokerM PUnit) := by
  intro b b' h
  cases h
  exact hf b

theorem Leads.bind [IsTrans DocumentBroker R] {x : BrokerM α} {f : α → BrokerM β} (hx : Leads R x)
    (hf : ∀ a, Leads R (f a)) : Leads R (x >>= f) := by
  intro b b' h
  rw [run_bind] at h
  cases hr : x b with
  | ok a b1 =>
    rw [hr] at h
    exact trans_of R (hx b b1 (by rw [hr]; rfl)) (hf a b1 b' h)
  | error e b1 =>
    rw [hr] at h
    exact hx b b' (by rw [hr]; cases e <;> exact h)

theorem Leads.map {x : BrokerM α} (f : α → β) (hx : Leads R x) : Leads R (f <$> x) := by
  intro b b' h
  rw [run_map] at h
  cases hr : x b with
  | ok a b1 => rw [hr] at h; exact hx b b' (by rw [hr]; exact h)
  | error e b1 => rw [hr] at h; exact hx b b' (by rw [hr]; cases e <;> exact h)

theorem Leads.catchRaised [IsTrans DocumentBroker R] {x : BrokerM α} {handler : Fault → BrokerM α} (hx : Leads R x)
    (hh : ∀ e, Leads R (handler e)) : Leads R (catchRaised x handler) := by
  intro b b' h
  rw [run_catchRaised] at h
  cases hr : x b with
  | ok a b1 => rw [hr] at h; exact hx b b' (by rw [hr]; exact h)
  | error e b1 =>
    rw [hr] at h
    cases e with
    | undefinedBehaviour => cases h
    | raised w => exact trans_of R (hx b b1 (by rw [hr]; rfl)) (hh _ b1 b' h)
    | storageSpaceLow w => exact trans_of R (hx b b1 (by rw [hr]; rfl)) (hh _ b1 b' h)

theorem Leads.ask [IsRefl DocumentBroker R] (r : Except Fault α) : Leads R (ask r) := by
  cases r
  · exact Leads.throw _
  · exact Leads.pure _

theorem Leads.storage [IsRefl DocumentBroker R] [IsTrans DocumentBroker R] : Leads R storage :=
  Leads.bind Leads.get fun b => by
    cases b.storage
    · exact Leads.throw _
    · exact Leads.pure _

theorem Leads.tileCache [IsRefl DocumentBroker R] [IsTrans DocumentBroker R] : Leads R tileCache :=
  Leads.bind Leads.get fun b => by
    cases b.tileCache
    · exact Leads.throw _
    · exact Leads.pure _

/-- A branch on a condition, both of whose arms lead by `R`. -/
theorem Leads.ite {c : Prop} [Decidable c] {x y : BrokerM α} (hx : Leads R x) (hy : Leads R y) :
    Leads R (if c then x else y) := by
  split <;> assumption

/-- A call followed by a continuation, each described by its own relation. -/
theorem Leads.bind_comp {S T : DocumentBroker → DocumentBroker → Prop} {x : BrokerM α}
    {f : α → BrokerM β} (hx : Leads R x) (hf : ∀ a, Leads S (f a))
    (hRT : ∀ b b', R b b' → T b b') (hRS : ∀ b b1 b', R b b1 → S b1 b' → T b b') :
    Leads T (x >>= f) := by
  intro b b' h
  rw [run_bind] at h
  cases hr : x b with
  | ok a b1 => rw [hr] at h; exact hRS b b1 b' (hx b b1 (by rw [hr]; rfl)) (hf a b1 b' h)
  | error e b1 => rw [hr] at h; exact hRT b b' (hx b b' (by rw [hr]; cases e <;> exact h))

/-- A call given by an equation that always returns. -/
theorem Leads.of_eq {x : BrokerM α} (v : DocumentBroker → α) (g : DocumentBroker → DocumentBroker)
    (hx : ∀ b, x b = .ok (v b) (g b)) (hg : ∀ b, R b (g b)) : Leads R x := by
  intro b b' h
  rw [hx] at h
  cases h
  exact hg b

theorem Leads.mono {S : DocumentBroker → DocumentBroker → Prop} {x : BrokerM α}
    (hRS : ∀ b b', R b b' → S b b') (hx : Leads R x) : Leads S x :=
  fun b b' h => hRS b b' (hx b b' h)

/-- A call that reads the state first may rely on what it read. -/
theorem Leads.get_bind {f : DocumentBroker → BrokerM α}
    (hf : ∀ b b', settle (f b b) = some b' → R b b') : Leads R (MonadState.get >>= f) :=
  fun b b' h => hf b b' h

/-- A call that dereferences `_storage` first may rely on the storage it read. -/
theorem Leads.storage_bind {k : Storage → BrokerM α}
    (hk : ∀ b stor b', b.storage = some stor → settle (k stor b) = some b' → R b b') :
    Leads R (Loolwsd.Model.storage >>= k) := by
  intro b b' h
  simp only [Loolwsd.Model.storage, run_bind, run_get] at h
  cases hs : b.storage with
  | none => simp [hs, settle] at h
  | some stor => simp only [hs, run_pure] at h; exact hk b stor b' hs h

/-- The relation of states along which `P` is kept. -/
def Kept (P : DocumentBroker → Prop) (b b' : DocumentBroker) : Prop := P b → P b'

instance (P : DocumentBroker → Prop) : IsRefl DocumentBroker (Kept P) := ⟨fun _ h => h⟩

instance (P : DocumentBroker → Prop) : IsTrans DocumentBroker (Kept P) :=
  ⟨fun _ _ _ h12 h23 h => h23 (h12 h)⟩

end Rules

/-! ## Inverting a call that returned -/

theorem run_bind_ok {α β : Type} {x : BrokerM α} {f : α → BrokerM β} {b b' : DocumentBroker}
    {v : β} (h : (x >>= f) b = .ok v b') : ∃ a b1, x b = .ok a b1 ∧ f a b1 = .ok v b' := by
  rw [run_bind] at h
  cases hx : x b with
  | ok a b1 => rw [hx] at h; exact ⟨a, b1, rfl, h⟩
  | error e b1 => rw [hx] at h; cases h

theorem run_storage_ok {b b' : DocumentBroker} {stor : Storage} (h : storage b = .ok stor b') :
    b' = b ∧ b.storage = some stor := by
  simp only [storage, run_bind, run_get] at h
  cases hs : b.storage <;> simp_all

theorem run_ask_ok {α : Type} {r : Except Fault α} {b b' : DocumentBroker} {a : α}
    (h : ask r b = .ok a b') : r = .ok a ∧ b' = b := by
  cases r <;> simp_all [ask]

/-- A call whose result is dropped ends where the call ends. -/
theorem settle_bind_pure {α β : Type} (x : BrokerM α) (c : β) (b : DocumentBroker) :
    settle ((x >>= fun _ => pure c) b) = settle (x b) := by
  rw [run_bind]
  cases x b with
  | ok => rfl
  | error e _ => cases e <;> rfl

/-! ## Steady calls -/

/-- A change of state that admits no session, keeps the load state (the storage's
`isLoaded`, the tile cache's presence and unsaved-changes flag, the jailed URI) and the
modified flag, and changes the destroy mark only while a session is in the map. -/
structure Steady (b b' : DocumentBroker) : Prop where
  ids : b'.sessions.ids.Sublist b.sessions.ids
  loaded : b'.storage.map Storage.isLoaded = b.storage.map Storage.isLoaded
  unsaved : b'.tileCache.map TileCache.unsavedChanges = b.tileCache.map TileCache.unsavedChanges
  uriJailed : b'.uriJailed = b.uriJailed
  isModified : b'.isModified = b.isModified
  markToDestroy : b'.markToDestroy = b.markToDestroy ∨ b.sessions.isEmpty = false

/-- INTERNAL: a steady change keeps an empty map empty. -/
theorem Steady.isEmpty {b b' : DocumentBroker} (h : Steady b b') (he : b.sessions.isEmpty = true) :
    b'.sessions.isEmpty = true :=
  SessionMap.isEmpty_of_ids_sublist h.ids he

instance : IsRefl DocumentBroker Steady :=
  ⟨fun _ => ⟨List.Sublist.refl _, rfl, rfl, rfl, rfl, .inl rfl⟩⟩

instance : IsTrans DocumentBroker Steady := by
  refine ⟨fun b1 b2 b3 h12 h23 => ⟨h23.ids.trans h12.ids, h23.loaded.trans h12.loaded,
    h23.unsaved.trans h12.unsaved, h23.uriJailed.trans h12.uriJailed,
    h23.isModified.trans h12.isModified, ?_⟩⟩
  rcases h23.markToDestroy with h | h
  · rcases h12.markToDestroy with h' | h'
    · exact .inl (h.trans h')
    · exact .inr h'
  · cases h1 : b1.sessions.isEmpty
    · exact .inr rfl
    · simp [h12.isEmpty h1] at h

/-- INTERNAL: a change of fields outside the load state, the modified flag, the destroy mark
and the session map's keys is steady. -/
theorem Steady.of_eq {b b' : DocumentBroker} (hs : b'.sessions.ids = b.sessions.ids)
    (hst : b'.storage = b.storage) (htc : b'.tileCache = b.tileCache)
    (hu : b'.uriJailed = b.uriJailed) (hm : b'.isModified = b.isModified)
    (hd : b'.markToDestroy = b.markToDestroy) : Steady b b' :=
  ⟨hs ▸ List.Sublist.refl _, by rw [hst], by rw [htc], hu, hm, .inl hd⟩

/-- INTERNAL: an update of fields outside those `Steady` reads is steady. -/
theorem modify_steady {f : DocumentBroker → DocumentBroker}
    (h : ∀ b, (f b).sessions = b.sessions ∧ (f b).storage = b.storage ∧
      (f b).tileCache = b.tileCache ∧ (f b).uriJailed = b.uriJailed ∧
      (f b).isModified = b.isModified ∧ (f b).markToDestroy = b.markToDestroy) :
    Leads Steady (modify f : BrokerM PUnit) :=
  Leads.modify fun b => by
    obtain ⟨h1, h2, h3, h4, h5, h6⟩ := h b
    exact Steady.of_eq (by rw [h1]) h2 h3 h4 h5 h6

theorem sendToKit_steady (m : KitMessage) : Leads Steady (sendToKit m) :=
  modify_steady fun _ => ⟨rfl, rfl, rfl, rfl, rfl, rfl⟩

theorem sendToClient_steady (id : String) (m : ClientMessage) :
    Leads Steady (sendToClient id m) :=
  modify_steady fun _ => ⟨rfl, rfl, rfl, rfl, rfl, rfl⟩

theorem updateTileCache_steady {f : TileCache → TileCache}
    (hf : ∀ tc, (f tc).unsavedChanges = tc.unsavedChanges) : Leads Steady (updateTileCache f) :=
  Leads.modify fun b => ⟨List.Sublist.refl _, rfl, by cases b.tileCache <;> simp [hf], rfl, rfl,
    .inl rfl⟩

theorem forwardToChild_steady (id message : String) : Leads Steady (forwardToChild id message) :=
  Leads.bind Leads.get fun b => by
    split
    · split
      · exact Leads.bind (sendToKit_steady _) fun _ => Leads.pure _
      · exact Leads.throw _
    · exact Leads.pure _

/-! ### Saves and removals -/

theorem DocumentBroker.savedThrough_steady (b : DocumentBroker) (id : String) (d1 d2 : Bool)
    (now : Int) : Steady b (b.savedThrough id d1 d2 now) :=
  Steady.of_eq rfl rfl rfl rfl rfl rfl

theorem sendUnoSave_steady (id : String) (d1 d2 : Bool) (now : Int) :
    Leads Steady (sendUnoSave id d1 d2 now) := by
  intro b b' h
  rw [sendUnoSave_eq] at h
  split at h <;> cases h
  · exact b.savedThrough_steady _ _ _ _
  · exact refl_of Steady b

theorem autoSave_steady (cfg : Settings) (force : Bool) (now : Int) :
    Leads Steady (autoSave cfg force now) := by
  intro b b' h
  rw [autoSave_eq] at h
  split at h <;> cases h
  · exact b.savedThrough_steady _ _ _ _
  · exact refl_of Steady b

theorem DocumentBroker.removed_steady (b : DocumentBroker) (id : String) :
    Steady b (b.removed id) := by
  unfold DocumentBroker.removed
  split
  · exact ⟨SessionMap.ids_erase_sublist _ _, rfl, rfl, rfl, rfl, .inl rfl⟩
  · exact refl_of Steady b

theorem removeSessionInternal_steady (id : String) : Leads Steady (removeSessionInternal id) :=
  Leads.of_eq _ _ (removeSessionInternal_eq id) fun b => b.removed_steady id

theorem DocumentBroker.lastEditorFlags_steady (b : DocumentBroker) (id : String) :
    Steady b (b.lastEditorFlags id) := by
  unfold DocumentBroker.lastEditorFlags
  split
  · exact refl_of Steady b
  · next current h =>
    refine ⟨List.Sublist.refl _, rfl, rfl, rfl, rfl, .inr ?_⟩
    obtain ⟨hmem, -⟩ := SessionMap.find?_some h
    cases he : b.sessions.entries with
    | nil => simp [he] at hmem
    | cons _ _ => simp [SessionMap.isEmpty, he]

theorem removeSession_steady (cfg : Settings) (id : String) (destroyIfLast : Bool) (now : Int) :
    Leads Steady (removeSession cfg id destroyIfLast now) :=
  Leads.of_eq _ _ (removeSession_eq cfg id destroyIfLast now) fun b => by
    have h1 : Steady b (if destroyIfLast then b.lastEditorFlags id else b) := by
      split
      · exact b.lastEditorFlags_steady id
      · exact refl_of Steady b
    dsimp only [DocumentBroker.afterRemoveSession]
    generalize (if destroyIfLast then b.lastEditorFlags id else b) = b1 at h1 ⊢
    split
    · exact trans_of Steady h1 (b1.savedThrough_steady _ _ _ _)
    · exact trans_of Steady h1 (b1.removed_steady _)

theorem shutdownEach_steady (cfg : Settings) (closeReason : String) (now : Int) :
    ∀ l : List ClientSession, Leads Steady (shutdownEach cfg closeReason now l)
  | [] => Leads.pure _
  | _ :: rest => Leads.bind
      (Leads.catchRaised
        (Leads.bind (sendToClient_steady _ _) fun _ =>
          Leads.bind (removeSession_steady _ _ _ _) fun _ => Leads.pure _)
        fun _ => Leads.pure _)
      fun _ => shutdownEach_steady cfg closeReason now rest

theorem shutdownClients_steady (cfg : Settings) (closeReason : String) (now : Int) :
    Leads Steady (shutdownClients cfg closeReason now) :=
  Leads.bind Leads.get fun _ => shutdownEach_steady _ _ _ _

theorem terminateChild_steady (cfg : Settings) (closeReason : String) (rude : Bool) (now : Int) :
    Leads Steady (terminateChild cfg closeReason rude now) := by
  have close : Leads Steady
      (modify fun b => { b with childAlive := false, stop := true } : BrokerM PUnit) :=
    modify_steady fun _ => ⟨rfl, rfl, rfl, rfl, rfl, rfl⟩
  cases rude
  · exact Leads.bind (shutdownClients_steady _ _ _) fun _ =>
      Leads.bind (sendToKit_steady _) fun _ => close
  · exact Leads.bind (Leads.pure _) fun _ => Leads.bind (Leads.pure _) fun _ => close

/-! ### Tiles -/

theorem TileCache.subscribe_unsavedChanges (tc : TileCache) (k : TileKey) (id : String) :
    (tc.subscribe k id).unsavedChanges = tc.unsavedChanges := by
  unfold TileCache.subscribe
  split <;> rfl

theorem saveTileAndNotify_steady (tile : TileDesc) (payload : List Char) (offset size : Nat) :
    Leads Steady (saveTileAndNotify tile payload offset size) :=
  Leads.bind Leads.tileCache fun _ => by
    split
    · exact Leads.bind (modify_steady fun _ => ⟨rfl, rfl, rfl, rfl, rfl, rfl⟩) fun _ =>
        updateTileCache_steady fun _ => rfl
    · exact Leads.throw _

theorem handleTileRequest_steady (tile : TileDesc) (sessionId : String) :
    Leads Steady (handleTileRequest tile sessionId) := by
  refine Leads.bind Leads.get fun b =>
    Leads.bind (modify_steady fun _ => ⟨rfl, rfl, rfl, rfl, rfl, rfl⟩) fun _ =>
      Leads.bind Leads.tileCache fun tc => ?_
  split
  · exact sendToClient_steady _ _
  · dsimp only
    split
    · refine Leads.bind (updateTileCache_steady fun tc => ?_) fun _ => sendToKit_steady _
      induction b.sessions.entries generalizing tc with
      | nil => rfl
      | cons s rest ih => exact (ih _).trans (TileCache.subscribe_unsavedChanges _ _ _)
    · exact Leads.bind (updateTileCache_steady fun _ => TileCache.subscribe_unsavedChanges _ _ _)
        fun _ => sendToKit_steady _

theorem combinedEach_steady (sessionId : String) :
    ∀ tiles : List TileDesc, Leads Steady (combinedEach sessionId tiles)
  | [] => Leads.pure _
  | t :: ts => Leads.bind Leads.tileCache fun tc => by
      split
      · exact Leads.bind (sendToClient_steady _ _) fun _ => combinedEach_steady sessionId ts
      · exact Leads.bind Leads.get fun _ =>
          Leads.bind (modify_steady fun _ => ⟨rfl, rfl, rfl, rfl, rfl, rfl⟩) fun _ =>
            Leads.bind (updateTileCache_steady fun _ => TileCache.subscribe_unsavedChanges _ _ _)
              fun _ => Leads.bind (combinedEach_steady sessionId ts) fun _ => Leads.pure _

theorem handleTileCombinedRequest_steady (tiles : List TileDesc) (sessionId : String) :
    Leads Steady (handleTileCombinedRequest tiles sessionId) :=
  Leads.bind (combinedEach_steady _ _) fun _ => by
    split
    · exact sendToKit_steady _
    · exact Leads.pure _

theorem cancelTileRequests_steady (sessionId : String) :
    Leads Steady (cancelTileRequests sessionId) :=
  Leads.bind Leads.tileCache fun _ =>
    Leads.bind (updateTileCache_steady fun _ => rfl) fun _ => by
      split
      · exact sendToKit_steady _
      · exact Leads.pure _

theorem saveRanges_steady (payload : List Char) :
    ∀ ranges : List (TileDesc × Nat × Nat), Leads Steady (saveRanges payload ranges)
  | [] => Leads.pure _
  | (t, offset, size) :: rest =>
    Leads.bind (saveTileAndNotify_steady t payload offset size) fun _ =>
      saveRanges_steady payload rest

theorem handleTileResponse_steady (parsers : TileParsers) (payload : List Char) :
    Leads Steady (handleTileResponse parsers payload) := by
  unfold handleTileResponse
  dsimp only
  refine Leads.catchRaised ?_ fun _ => Leads.pure _
  split
  · exact Leads.bind (Leads.ask _) fun _ => saveTileAndNotify_steady _ _ _ _
  · exact Leads.pure _

theorem handleTileCombinedResponse_steady (parsers : TileParsers) (payload : List Char) :
    Leads Steady (handleTileCombinedResponse parsers payload) := by
  unfold handleTileCombinedResponse
  dsimp only
  refine Leads.catchRaised ?_ fun _ => Leads.pure _
  split
  · exact Leads.bind (Leads.ask _) fun _ => saveRanges_steady _ _
  · exact Leads.pure _

/-! ### Kit input -/

theorem forwardToClient_steady (payload : List Char) :
    Leads Steady (forwardToClient payload) := by
  unfold forwardToClient
  dsimp only
  split
  · refine Leads.bind Leads.get fun _ => ?_
    split
    · exact Leads.bind (modify_steady fun _ => ⟨rfl, rfl, rfl, rfl, rfl, rfl⟩) fun _ =>
        Leads.pure _
    · split
      · exact Leads.bind (sendToClient_steady _ _) fun _ => Leads.pure _
      · exact Leads.pure _
  · exact Leads.pure _

theorem errorToAll_steady (payload : List Char) : Leads Steady (errorToAll payload) := by
  unfold errorToAll
  split
  · split
    · exact Leads.bind Leads.get fun _ =>
        Leads.bind (modify_steady fun _ => ⟨rfl, rfl, rfl, rfl, rfl, rfl⟩) fun _ =>
          Leads.pure _
    · exact Leads.pure _
  · exact Leads.pure _

theorem handleInput_steady (parsers : TileParsers) (payload : List Char) :
    Leads Steady (handleInput parsers payload) := by
  unfold handleInput
  dsimp only
  split
  · exact Leads.bind (forwardToClient_steady _) fun _ => Leads.pure _
  split
  · exact Leads.bind (handleTileResponse_steady _ _) fun _ => Leads.pure _
  split
  · exact Leads.bind (handleTileCombinedResponse_steady _ _) fun _ => Leads.pure _
  split
  · exact errorToAll_steady _
  split <;> exact Leads.pure _

/-! ### Timers -/

theorem pollTimers_steady (cfg : Settings) (ps : PollSettings) (shutdownRequested : Bool)
    (now : Int) (loc : PollLocals) :
    Leads Steady (pollTimers cfg ps shutdownRequested now loc) := by
  have stop : Leads Steady (modify fun b => { b with stop := true } : BrokerM PUnit) :=
    modify_steady fun _ => ⟨rfl, rfl, rfl, rfl, rfl, rfl⟩
  unfold pollTimers
  refine Leads.bind Leads.get fun _ => ?_
  dsimp only
  -- every branch is a sequence of `get`, `stop := true`, `autoSave` and `pure`
  repeat' first
    | with_reducible exact stop
    | with_reducible exact autoSave_steady _ _ _
    | with_reducible refine Leads.bind ?_ fun _ => ?_
    | with_reducible exact Leads.pure _
    | with_reducible exact Leads.get
    | with_reducible refine Leads.ite ?_ ?_

/-! ## Events -/

/-- **Every event but three is steady.** An admission, a save completion and a `setmodified`
report aside, every call a run can make leaves the load state, the modified flag and the
destroy mark (while no session is in the map) as they were, and admits no session. -/
theorem Event.call_steady (cfg : Settings) (e : Event) :
    Leads Steady (e.call cfg) ∨ (∃ s io, e = .addSession s io) ∨
      (∃ id ok r io now, e = .saveToStorage id ok r io now) ∨ (∃ v, e = .setModified v) := by
  have drop : ∀ {α : Type} (x : BrokerM α), Leads Steady x →
      Leads Steady (x >>= fun _ => (pure () : BrokerM Unit)) :=
    fun _ hx => Leads.bind hx fun _ => Leads.pure _
  cases e with
  | addSession s io => exact .inr (.inl ⟨s, io, rfl⟩)
  | saveToStorage id ok r io now => exact .inr (.inr (.inl ⟨id, ok, r, io, now, rfl⟩))
  | setModified v => exact .inr (.inr (.inr ⟨v, rfl⟩))
  | removeSession id d now => exact .inl (drop _ (removeSession_steady _ _ _ _))
  | save id d1 d2 now => exact .inl (drop _ (sendUnoSave_steady _ _ _ _))
  | setLoaded => exact .inl (modify_steady fun _ => ⟨rfl, rfl, rfl, rfl, rfl, rfl⟩)
  | activity now => exact .inl (modify_steady fun _ => ⟨rfl, rfl, rfl, rfl, rfl, rfl⟩)
  | forward id m => exact .inl (drop _ (forwardToChild_steady _ _))
  | tileRequest t id => exact .inl (handleTileRequest_steady _ _)
  | tileCombinedRequest ts id => exact .inl (handleTileCombinedRequest_steady _ _)
  | cancelTiles id => exact .inl (cancelTileRequests_steady _)
  | kitInput p payload => exact .inl (drop _ (handleInput_steady _ _))
  | viewLoaded id => exact .inl (Leads.modify fun _ => Steady.of_eq (by simp) rfl rfl rfl rfl rfl)
  | closeFrame id => exact .inl (Leads.modify fun _ => Steady.of_eq (by simp) rfl rfl rfl rfl rfl)
  | childSocketTerminated now => exact .inl (shutdownClients_steady _ _ _)
  | childDied => exact .inl (modify_steady fun _ => ⟨rfl, rfl, rfl, rfl, rfl, rfl⟩)
  | closeDocument reason now => exact .inl (terminateChild_steady cfg reason true now)
  | stop => exact .inl (modify_steady fun _ => ⟨rfl, rfl, rfl, rfl, rfl, rfl⟩)
  | timers ps sd now loc => exact .inl (drop _ (pollTimers_steady _ _ _ _ _))

end Loolwsd.Model
