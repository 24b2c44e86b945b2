import Loolwsd.Analysis.Frame

/-!
# Admitted sessions find the document loaded

`addSession` admits a session only when `load` returns true, but `load` changes the broker
step by step and any step may throw: the download marks the storage loaded before the jailed
URI, the file timestamp and the tile cache are set, so a failed first load can leave a
storage that reports the document loaded with no tile cache. Such a state must never admit a
session. It does not, because of two facts kept together (`LoadInv`):

* **admitted**: while a session is in the map, the document is `Ready`: the storage has
  loaded it, the tile cache exists and the jailed URI is set;
* **refuses**: a storage that is not ready marks the broker to destroy, and `load` refuses a
  broker marked to destroy.

The second holds because a failed load with no session in the map marks the broker to
destroy (`addSession`'s handler), and a failed load with sessions started, and so ends, ready
(`load_ready`). A successful load from a broker that was not ready must have created the
storage and completed the download (`load_true_ready`). Every other event keeps the load
state (`Event.call_steady`, `saveToStorage_loadFrame`, `setModified_loadFrame`).

On a ready broker, the calls an admitted session makes never dereference a null tile cache or
storage: `setModified`, `handleTileRequest` and `handleTileCombinedRequest` return, and
`saveToStorageInternal` returns or throws (`admitted_session_ready`).
-/

set_option autoImplicit false

namespace Loolwsd.Analysis

open Loolwsd.Model

/-! ## The invariant -/

/-- The document is ready for its sessions: the storage has loaded it, the tile cache exists
and the jailed URI is set. -/
def Ready (b : DocumentBroker) : Prop :=
  b.storage.map Storage.isLoaded = some true ∧ b.tileCache.isSome = true ∧ b.uriJailed ≠ ""

/-- The admission invariant. -/
structure LoadInv (b : DocumentBroker) : Prop where
  admitted : b.sessions.isEmpty = false → Ready b
  refuses : b.storage.isSome = true → ¬ Ready b → b.markToDestroy = true

theorem loadInv_init (cfg : Settings) (docKey docId childJailId : String) (t0 : Int)
    (wall : Nat) : LoadInv (DocumentBroker.init cfg docKey docId childJailId t0 wall) :=
  ⟨fun h => (by cases h), fun h => (by cases h)⟩

/-- A change that keeps what `LoadInv` reads: no session is admitted, the load state is as it
was, and the destroy mark changes only while a session is in the map. -/
structure LoadFrame (b b' : DocumentBroker) : Prop where
  ids : b'.sessions.ids.Sublist b.sessions.ids
  loaded : b'.storage.map Storage.isLoaded = b.storage.map Storage.isLoaded
  tileCache : b'.tileCache.isSome = b.tileCache.isSome
  uriJailed : b'.uriJailed = b.uriJailed
  markToDestroy : b'.markToDestroy = b.markToDestroy ∨ b.sessions.isEmpty = false

instance : IsRefl DocumentBroker LoadFrame :=
  ⟨fun _ => ⟨List.Sublist.refl _, rfl, rfl, rfl, .inl rfl⟩⟩

instance : IsTrans DocumentBroker LoadFrame := by
  refine ⟨fun b1 b2 b3 h12 h23 => ⟨h23.ids.trans h12.ids, h23.loaded.trans h12.loaded,
    h23.tileCache.trans h12.tileCache, h23.uriJailed.trans h12.uriJailed, ?_⟩⟩
  rcases h23.markToDestroy with h | h
  · rcases h12.markToDestroy with h' | h'
    · exact .inl (h.trans h')
    · exact .inr h'
  · cases h1 : b1.sessions.isEmpty
    · exact .inr rfl
    · simp [SessionMap.isEmpty_of_ids_sublist h12.ids h1] at h

theorem Steady.loadFrame {b b' : DocumentBroker} (h : Steady b b') : LoadFrame b b' :=
  ⟨h.ids, h.loaded, by simpa using congrArg Option.isSome h.unsaved, h.uriJailed, h.markToDestroy⟩

theorem ready_congr {b b' : DocumentBroker} (h : LoadFrame b b') : Ready b' ↔ Ready b := by
  simp only [Ready, h.loaded, h.tileCache, h.uriJailed]

/-- **The invariant is kept along every change that keeps the load state.** -/
theorem LoadInv.frame {b b' : DocumentBroker} (hi : LoadInv b) (h : LoadFrame b b') :
    LoadInv b' := by
  have hsome : b'.storage.isSome = b.storage.isSome := by
    simpa using congrArg Option.isSome h.loaded
  refine ⟨fun he => ?_, fun hs hr => ?_⟩
  · refine (ready_congr h).mpr (hi.admitted ?_)
    cases h' : b.sessions.isEmpty
    · rfl
    · simp [SessionMap.isEmpty_of_ids_sublist h.ids h'] at he
  · have hr' : ¬ Ready b := fun r => hr ((ready_congr h).mpr r)
    rcases h.markToDestroy with e | e
    · rw [e]; exact hi.refuses (hsome ▸ hs) hr'
    · exact absurd (hi.admitted e) hr'

/-! ## Save completions and `setmodified` reports keep the load state -/

/-- INTERNAL: `saveToStorage` changes the storage's file info, the unsaved changes and the
session flags, and may remove its session. Source: `DocumentBroker.cpp:716-840`. -/
theorem saveToStorage_loadFrame (sid : String) (success : Bool) (result : String) (io : SaveIO)
    (now : Int) : Leads LoadFrame (saveToStorage sid success result io now) := by
  unfold saveToStorage saveToStorageInternal uploadOutcome
  repeat' first
    | with_reducible exact Leads.mono (fun _ _ h => Steady.loadFrame h) (removeSessionInternal_steady _)
    | with_reducible refine Leads.bind ?_ fun _ => ?_
    | with_reducible exact Leads.pure _
    | with_reducible exact Leads.get
    | with_reducible exact Leads.throw _
    | with_reducible exact Leads.tileCache
    | with_reducible exact Leads.storage
    | (refine Leads.modify fun b => ⟨?_, ?_, ?_, rfl, .inl rfl⟩ <;> dsimp only <;>
        cases b.storage <;> cases b.tileCache <;> simp)
    | with_reducible refine Leads.ite ?_ ?_
    | split

/-- INTERNAL: Source: `DocumentBroker.cpp:1422-1426`. -/
theorem setModified_loadFrame (v : Bool) : Leads LoadFrame (setModified v) := by
  refine Leads.bind Leads.tileCache fun _ => Leads.modify fun b => ⟨?_, ?_, ?_, rfl, .inl rfl⟩ <;>
    dsimp only <;> cases b.tileCache <;> simp

/-! ## `load` -/

/-- What `load` leaves alone: the session map, the destroy mark, the modified flag, the
last-editor flag and the stop flag. -/
structure LoadUntouched (b b' : DocumentBroker) : Prop where
  sessions : b'.sessions = b.sessions
  markToDestroy : b'.markToDestroy = b.markToDestroy
  isModified : b'.isModified = b.isModified
  lastEditableSession : b'.lastEditableSession = b.lastEditableSession
  stop : b'.stop = b.stop

instance : IsRefl DocumentBroker LoadUntouched := ⟨fun _ => ⟨rfl, rfl, rfl, rfl, rfl⟩⟩

instance : IsTrans DocumentBroker LoadUntouched :=
  ⟨fun _ _ _ h12 h23 => ⟨h23.sessions.trans h12.sessions,
    h23.markToDestroy.trans h12.markToDestroy, h23.isModified.trans h12.isModified,
    h23.lastEditableSession.trans h12.lastEditableSession, h23.stop.trans h12.stop⟩⟩

/-- INTERNAL: Source: `DocumentBroker.cpp:481-714`. -/
theorem load_untouched (cfg : Settings) (s : ClientSession) (j : String) (io : LoadIO) :
    Leads LoadUntouched (load cfg s j io) := by
  unfold load
  repeat' first
    | with_reducible refine Leads.bind ?_ fun _ => ?_
    | with_reducible exact Leads.pure _
    | with_reducible exact Leads.get
    | with_reducible exact Leads.throw _
    | with_reducible exact Leads.ask _
    | with_reducible exact Leads.storage
    | with_reducible exact Leads.modify fun _ => ⟨rfl, rfl, rfl, rfl, rfl⟩
    | with_reducible refine Leads.ite ?_ ?_
    | split
    | dsimp only
    | simp only [createStorage, fileInfoPhase, wopiFileInfoPhase, localFileInfoPhase,
        ndcPermission, setFileInfo, recordTimestamp, downloadIfNotLoaded, downloadPhase,
        sendLoadStats, sendToClient, updateStorage]

/-- INTERNAL: the jailed URI `load` sets is never empty. -/
theorem file_uri_ne_empty (uri : String) : "file:" ++ uri ≠ "" := by
  intro h
  have := congrArg String.length h
  simp only [String.length_append] at this
  have h5 : ("file:" : String).length = 5 := by decide
  have h0 : ("" : String).length = 0 := rfl
  omega

/-- INTERNAL: on a ready broker the storage exists, so `createStorage` changes nothing. -/
theorem createStorage_ready (io : LoadIO) : Leads (Kept Ready) (createStorage io) := by
  refine Leads.get_bind fun b b' h hr => ?_
  obtain ⟨st, hs, -⟩ := Option.map_eq_some'.mp hr.1
  simp only [hs] at h
  cases h
  exact hr

/-- INTERNAL: a completed download leaves the document ready.
Source: `DocumentBroker.cpp:676-698`. -/
theorem downloadPhase_ready {io : LoadIO} {fi : FileInfo} {b b' : DocumentBroker}
    (h : downloadPhase io fi b = .ok () b') (hs : b.storage.isSome) : Ready b' := by
  obtain ⟨st, hst⟩ := Option.isSome_iff_exists.mp hs
  cases hd : io.download <;> cases hj : io.jailedUri <;> cases hm : io.localModifiedTime <;>
    cases ht : io.tileCache <;>
    simp only [downloadPhase, ask, hd, hj, hm, ht, updateStorage, run_bind, run_throw, run_pure,
      run_modify, reduceCtorEq, EStateM.Result.ok.injEq, true_and] at h
  subst h
  exact ⟨by simp [hst], rfl, file_uri_ne_empty _⟩

/-- INTERNAL: on a broker with no storage, `createStorage` creates one that has not loaded the
document, or changes nothing. -/
theorem createStorage_of_none {io : LoadIO} {b b' : DocumentBroker} {r : Option Bool}
    (h : createStorage io b = .ok r b') (hs : b.storage = none) :
    r = none ∧ b' = b ∨
      ∃ w, r = some true ∧ b' = { b with storage := some ⟨w, false, ⟨"", "", 0, false⟩⟩ } := by
  unfold createStorage at h
  cases hc : io.create with
  | error e => simp [hs, hc, ask] at h
  | ok c =>
    cases c with
    | none => simp [hs, hc, ask] at h; exact .inl ⟨h.1.symm, h.2.symm⟩
    | some w => simp [hs, hc, ask] at h; exact .inr ⟨w, h.1.symm, h.2.symm⟩

theorem fileInfoPhase_loadFrame (cfg : Settings) (isWopi : Bool) (s : ClientSession)
    (io : LoadIO) : Leads LoadFrame (fileInfoPhase cfg isWopi s io) := by
  unfold fileInfoPhase wopiFileInfoPhase localFileInfoPhase ndcPermission setFileInfo
    sendToClient updateStorage
  repeat' first
    | with_reducible refine Leads.bind ?_ fun _ => ?_
    | with_reducible exact Leads.pure _
    | with_reducible exact Leads.get
    | with_reducible exact Leads.throw _
    | with_reducible exact Leads.ask _
    | with_reducible exact Leads.storage
    | (refine Leads.modify fun b => ⟨?_, ?_, ?_, rfl, .inl rfl⟩ <;> dsimp only <;>
        cases b.storage <;> simp)
    | with_reducible refine Leads.ite ?_ ?_

theorem recordTimestamp_loadFrame (first : Bool) (fi : FileInfo) :
    Leads LoadFrame (recordTimestamp first fi) := by
  unfold recordTimestamp
  split
  · exact Leads.modify fun _ => ⟨List.Sublist.refl _, rfl, rfl, rfl, .inl rfl⟩
  · exact Leads.pure _

theorem sendLoadStats_ready (isWopi : Bool) (s : ClientSession) (io : LoadIO) :
    Leads (Kept Ready) (sendLoadStats isWopi s io) := by
  unfold sendLoadStats
  split
  · exact Leads.modify fun _ h => h
  · exact Leads.pure _

/-- INTERNAL: a step that keeps the load state keeps a ready broker ready. -/
theorem ready_of_loadFrame {α : Type} {x : BrokerM α} (h : Leads LoadFrame x) :
    Leads (Kept Ready) x :=
  Leads.mono (fun _ _ hf hr => (ready_congr hf).mpr hr) h

/-- INTERNAL: on a ready broker the storage has loaded the document, so the download is
skipped. -/
theorem downloadIfNotLoaded_ready (io : LoadIO) (fi : FileInfo) :
    Leads (Kept Ready) (downloadIfNotLoaded io fi) :=
  Leads.storage_bind fun b stor b' hs h hr => by
    have hl : stor.isLoaded = true := by simpa [hs] using hr.1
    simp only [hl, Bool.not_true, Bool.false_eq_true, ite_false, run_pure, settle_ok,
      Option.some.injEq] at h
    exact h ▸ hr

/-- **`load` keeps a ready broker ready**, whatever it throws. -/
theorem load_ready (cfg : Settings) (s : ClientSession) (j : String) (io : LoadIO) :
    Leads (Kept Ready) (load cfg s j io) := by
  unfold load
  repeat' first
    | with_reducible exact createStorage_ready io
    | with_reducible exact ready_of_loadFrame (fileInfoPhase_loadFrame cfg _ s io)
    | with_reducible exact ready_of_loadFrame (recordTimestamp_loadFrame _ _)
    | with_reducible exact downloadIfNotLoaded_ready io _
    | with_reducible exact sendLoadStats_ready _ _ io
    | with_reducible refine Leads.bind ?_ fun _ => ?_
    | with_reducible exact Leads.pure _
    | with_reducible exact Leads.get
    | with_reducible exact Leads.storage
    | exact Leads.modify fun _ h => h
    | with_reducible refine Leads.ite ?_ ?_
    | split

/-- **A load that succeeds leaves the document ready.** From a broker that was not ready, the
invariant says there was no storage (else the broker would be marked to destroy and `load`
would refuse): `load` then created one that had not loaded the document, so the download ran,
and it completed since `load` returned. -/
theorem load_true_ready {cfg : Settings} {s s' : ClientSession} {j : String} {io : LoadIO}
    {b b' : DocumentBroker} (hi : LoadInv b) (h : load cfg s j io b = .ok (true, s') b') :
    Ready b' := by
  by_cases hr : Ready b
  · exact load_ready cfg s j io b b' (by rw [h]; rfl) hr
  unfold load at h
  obtain ⟨_, _, hg, k1⟩ := run_bind_ok h
  cases hg
  have hmd : b.markToDestroy = false := by
    cases h' : b.markToDestroy
    · rfl
    · simp [h'] at k1
  have hnone : b.storage = none := by
    cases hs : b.storage with
    | none => rfl
    | some st => simp [hi.refuses (by simp [hs]) hr] at hmd
  simp only [hmd, Bool.false_eq_true, ite_false] at k1
  obtain ⟨_, b1, hm, k2⟩ := run_bind_ok k1
  cases hm
  obtain ⟨r, b2, hc, k3⟩ := run_bind_ok k2
  rcases createStorage_of_none hc hnone with ⟨rfl, rfl⟩ | ⟨w, rfl, rfl⟩
  · cases k3
  dsimp only at k3
  -- the storage `load` created, then the file-info query
  obtain ⟨st, b3, hs3, k4⟩ := run_bind_ok k3
  obtain ⟨rfl, hst⟩ := run_storage_ok hs3
  obtain ⟨s2, b4, hp, k5⟩ := run_bind_ok k4
  have f4 := fileInfoPhase_loadFrame cfg st.isWopi s io _ b4 (by rw [hp]; rfl)
  obtain ⟨st4, b5, hs5, k6⟩ := run_bind_ok k5
  obtain ⟨rfl, hst4⟩ := run_storage_ok hs5
  split at k6
  · cases k6
  obtain ⟨_, b6, hrt, k7⟩ := run_bind_ok k6
  have f6 := recordTimestamp_loadFrame true st4.fileInfo b5 b6 (by rw [hrt]; rfl)
  -- the storage has still not loaded the document, so the download runs
  obtain ⟨_, b7, hd, k8⟩ := run_bind_ok k7
  have hl6 : b6.storage.map Storage.isLoaded = some false := by
    rw [f6.loaded, f4.loaded]; simp
  have r7 : Ready b7 := by
    unfold downloadIfNotLoaded at hd
    obtain ⟨st6, b6', hs6, hd'⟩ := run_bind_ok hd
    obtain ⟨rfl, hst6⟩ := run_storage_ok hs6
    simp only [hst6, Option.map_some', Option.some.injEq] at hl6
    simp only [hl6, Bool.not_false, ite_true] at hd'
    exact downloadPhase_ready hd' (by simp [hst6])
  obtain ⟨_, b8, hsl, k9⟩ := run_bind_ok k8
  cases k9
  exact sendLoadStats_ready _ _ io b7 _ (by rw [hsl]; rfl) r7

/-! ## `addSession` -/

/-- INTERNAL: `addSession`'s handler restores the invariant after a failed load: a broker
with no session is marked to destroy, and one with sessions was, and stays, ready.
Source: `DocumentBroker.cpp:971-988`. -/
theorem loadInv_of_failed {b b2 : DocumentBroker} (hi : LoadInv b) (hu : LoadUntouched b b2)
    (hr : Ready b → Ready b2) :
    LoadInv (if b2.sessions.isEmpty then { b2 with markToDestroy := true } else b2) := by
  rw [hu.sessions]
  cases he : b.sessions.isEmpty
  · have r2 := hr (hi.admitted he)
    exact ⟨fun _ => r2, fun _ h => absurd r2 h⟩
  · exact ⟨fun h => by simp [hu.sessions, he] at h, fun _ _ => rfl⟩

/-- **`addSession` keeps the invariant**, whether it admits the session or fails at any step
of `load`. Source: `DocumentBroker.cpp:971-1040`. -/
theorem addSession_loadInv {cfg : Settings} {s : ClientSession} {io : LoadIO}
    {b b' : DocumentBroker} (hi : LoadInv b) (h : settle (addSession cfg s io b) = some b') :
    LoadInv b' := by
  have hu := load_untouched cfg s b.childJailId io b
  have hr := load_ready cfg s b.childJailId io b
  simp only [addSession, addSessionInternal, run_catchRaised, run_bind, run_get] at h
  rcases hl : load cfg s b.childJailId io b with ⟨⟨loaded, s'⟩, b2⟩ | ⟨e, b2⟩
  · cases loaded
    · have := loadInv_of_failed hi (hu b2 (by rw [hl]; rfl)) (hr b2 (by rw [hl]; rfl))
      by_cases he : b2.sessions.isEmpty = true <;> simp_all [settle]
    · have r2 : Ready b2 := load_true_ready hi hl
      simp [hl, settle, sendToKit] at h
      subst h
      exact ⟨fun _ => r2, fun _ h => absurd r2 h⟩
  · cases e with
    | undefinedBehaviour => simp [hl, settle] at h
    | raised w =>
      have := loadInv_of_failed hi (hu b2 (by rw [hl]; rfl)) (hr b2 (by rw [hl]; rfl))
      by_cases he : b2.sessions.isEmpty = true <;> simp_all [settle]
    | storageSpaceLow w =>
      have := @loadInv_of_failed b
        { b2 with toClients := b2.toClients ++ b2.sessions.entries.map fun s =>
            (s.id, .text diskFullAlert) }
        hi (let u := hu b2 (by rw [hl]; rfl)
          ⟨u.sessions, u.markToDestroy, u.isModified, u.lastEditableSession, u.stop⟩)
        (hr b2 (by rw [hl]; rfl))
      by_cases he : b2.sessions.isEmpty = true <;> simp_all [settle]

/-! ## Runs -/

theorem loadInv_step {cfg : Settings} {b b' : DocumentBroker} {e : Event} (hi : LoadInv b)
    (h : step cfg b e = some b') : LoadInv b' := by
  rcases Event.call_steady cfg e with hs | ⟨s, io, rfl⟩ | ⟨id, ok, r, io, now, rfl⟩ | ⟨v, rfl⟩
  · exact hi.frame (Steady.loadFrame (hs b b' h))
  · exact addSession_loadInv hi (by rwa [step, Event.call, settle_bind_pure] at h)
  · exact hi.frame (saveToStorage_loadFrame id ok r io now b b'
      (by rwa [step, Event.call, settle_bind_pure] at h))
  · exact hi.frame (setModified_loadFrame v b b' h)

theorem loadInv_reachable {cfg : Settings} {b : DocumentBroker} (hb : Reachable cfg b) :
    LoadInv b := by
  induction hb with
  | init => exact loadInv_init _ _ _ _ _ _
  | step e _ h ih => exact loadInv_step ih h

/-! ## What an admitted session can rely on -/

theorem setModified_ok (v : Bool) {b : DocumentBroker} (h : b.tileCache.isSome) :
    ∃ b', setModified v b = .ok () b' := by
  obtain ⟨tc, htc⟩ := Option.isSome_iff_exists.mp h
  simp [setModified, tileCache, htc, updateTileCache]

theorem handleTileRequest_ok (tile : TileDesc) (id : String) {b : DocumentBroker}
    (h : b.tileCache.isSome) : ∃ b', handleTileRequest tile id b = .ok () b' := by
  obtain ⟨tc, htc⟩ := Option.isSome_iff_exists.mp h
  simp only [handleTileRequest, tileCache, run_bind, run_get, run_modify, htc, run_pure,
    TileDesc.key_version]
  cases tc.lookupTile tile.key <;> cases tile.broadcast <;>
    simp [sendToClient, sendToKit, updateTileCache]

/-- INTERNAL: the loop of `handleTileCombinedRequest` returns, and keeps the tile cache. -/
theorem combinedEach_ok (id : String) :
    ∀ (tiles : List TileDesc) (b : DocumentBroker), b.tileCache.isSome →
      ∃ r b', combinedEach id tiles b = .ok r b' ∧ b'.tileCache.isSome
  | [], b, h => ⟨[], b, rfl, h⟩
  | t :: ts, b, h => by
    obtain ⟨tc, htc⟩ := Option.isSome_iff_exists.mp h
    simp only [combinedEach, tileCache, run_bind, run_get, htc, run_pure]
    cases hk : tc.lookupTile t.key with
    | some png =>
      obtain ⟨r, b', e, h'⟩ := combinedEach_ok id ts
        { b with toClients := b.toClients ++ [(id, .tile t png)] } (by simpa using h)
      exact ⟨r, b', by simp [sendToClient, e], h'⟩
    | none =>
      obtain ⟨r, b', e, h'⟩ := combinedEach_ok id ts
        { b with tileVersion := b.tileVersion + 1, tileCache := some (tc.subscribe t.key id) } rfl
      exact ⟨{ t with version := b.tileVersion + 1 } :: r, b', by simp [updateTileCache, htc, e], h'⟩

theorem handleTileCombinedRequest_ok (tiles : List TileDesc) (id : String) {b : DocumentBroker}
    (h : b.tileCache.isSome) : ∃ b', handleTileCombinedRequest tiles id b = .ok () b' := by
  obtain ⟨r, b1, e, -⟩ := combinedEach_ok id tiles b h
  simp only [handleTileCombinedRequest, run_bind, e]
  split <;> simp [sendToKit]

theorem saveToStorageInternal_noFault (sid : String) (success : Bool) (result : String)
    (io : SaveIO) (now : Int) {b : DocumentBroker} (hs : b.storage.isSome)
    (ht : b.tileCache.isSome) : settle (saveToStorageInternal sid success result io now b) ≠ none := by
  obtain ⟨st, hst⟩ := Option.isSome_iff_exists.mp hs
  obtain ⟨tc, htc⟩ := Option.isSome_iff_exists.mp ht
  unfold saveToStorageInternal
  split
  · simp [settle]
  cases hf : b.sessions.find? sid
  · simp [hf, settle]
  simp only [hf, storage, run_bind, run_get, hst, run_pure]
  split
  · simp [settle]
  unfold uploadOutcome
  cases io.saveResult <;> cases io.refreshedFileInfo <;>
    simp [tileCache, htc, sendToClient, updateStorage, settle]

/-- **An admitted session finds the document loaded.** In every reachable state, while a
session is in the map the storage exists and has loaded the document, the tile cache exists
and the jailed URI is set; so the session's `setmodified` reports and tile requests return,
and a save completion through it never dereferences a null storage or tile cache. -/
theorem admitted_session_ready (cfg : Settings) (b : DocumentBroker) (hb : Reachable cfg b)
    (s : ClientSession) (hs : s ∈ b.sessions) :
    (∃ stor, b.storage = some stor ∧ stor.isLoaded = true) ∧ b.tileCache.isSome = true ∧
      b.uriJailed ≠ "" ∧
      (∀ v, ∃ b', setModified v b = .ok () b') ∧
      (∀ tile, ∃ b', handleTileRequest tile s.id b = .ok () b') ∧
      (∀ tiles, ∃ b', handleTileCombinedRequest tiles s.id b = .ok () b') ∧
      (∀ success result io now,
        settle (saveToStorageInternal s.id success result io now b) ≠ none) := by
  have hne : b.sessions.isEmpty = false := by
    cases h : b.sessions.entries with
    | nil => simp [SessionMap.mem_def, h] at hs
    | cons _ _ => simp [SessionMap.isEmpty, h]
  obtain ⟨hl, ht, hu⟩ := (loadInv_reachable hb).admitted hne
  obtain ⟨st, hst, hld⟩ := Option.map_eq_some'.mp hl
  exact ⟨⟨st, hst, hld⟩, ht, hu, fun v => setModified_ok v ht,
    fun tile => handleTileRequest_ok tile s.id ht,
    fun tiles => handleTileCombinedRequest_ok tiles s.id ht,
    fun ok r io now => saveToStorageInternal_noFault s.id ok r io now (by simp [hst]) ht⟩

/-- What the collaborators answer when a session opens the local document `doc.odt`, owned by
`u`, whose tile cache directory is empty. -/
def localDocLoad : LoadIO where
  create := .ok (some false)
  tokenUsed := .ok true
  wopiFileInfo := .error (.raised "")
  localFileInfo := .ok ("u", "U")
  fileInfo := ⟨"doc.odt", "u", 1, true⟩
  parseAllPermission := fun _ => .ok "edit"
  sslEnabled := false
  download := .ok "/doc.odt"
  jailedUri := .ok "//doc.odt"
  localModifiedTime := .ok 1
  tileCache := .ok []
  wopiLoadDuration := ""

/-- A local document opened by one session: the session is admitted, and everything
`admitted_session_ready` promises holds for it. -/
theorem admitted_session_ready_local :
    ∃ cfg b s, Reachable cfg b ∧ s ∈ b.sessions ∧
      (∃ stor, b.storage = some stor ∧ stor.isLoaded = true) ∧ b.tileCache.isSome = true ∧
      b.uriJailed ≠ "" ∧
      (∀ v, ∃ b', setModified v b = .ok () b') ∧
      (∀ tile, ∃ b', handleTileRequest tile s.id b = .ok () b') ∧
      (∀ tiles, ∃ b', handleTileCombinedRequest tiles s.id b = .ok () b') ∧
      (∀ success result io now,
        settle (saveToStorageInternal s.id success result io now b) ≠ none) := by
  let cfg : Settings := ⟨30000, 30000, 300000, true, true, false⟩
  let s : ClientSession := ⟨"a", false, false, false, false, "", "file:///doc.odt", [], "u", "U"⟩
  let b0 := DocumentBroker.init cfg "k" "d" "j" 0 0
  let b := (run cfg b0 [.addSession s localDocLoad]).getD b0
  have hr : Reachable cfg b :=
    (Reachable.init "k" "d" "j" 0 0).run
      (show run cfg b0 [.addSession s localDocLoad] = some b from rfl)
  have hs : s ∈ b.sessions := by decide
  exact ⟨cfg, b, s, hr, hs, admitted_session_ready cfg b hr s hs⟩

end Loolwsd.Analysis
