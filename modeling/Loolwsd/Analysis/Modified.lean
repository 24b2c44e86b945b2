import Loolwsd.Analysis.Admission

/-!
# The modified flag mirrors the tile cache

`_isModified` and the tile cache's unsaved-changes flag are written together: by `setModified`
(`DocumentBroker.cpp:1422-1426`) and by a successful upload in `saveToStorageInternal`
(`DocumentBroker.cpp:782-787`). The tile cache is created by the first download of `load`
(`DocumentBroker.cpp:676-698`) with no unsaved changes, and before the download nothing can set
the modified flag: `setModified` dereferences the tile cache first. So in every reachable
state (`ModInv`):

* **modified**: the modified flag is the tile cache's unsaved-changes flag, and false while
  there is no tile cache;
* **cached**: a tile cache exists only once the storage has loaded the document, so the
  download, which runs while the storage has not, starts with no tile cache and nothing
  modified.

The flag goes from true to false only through `setModified(false)` or an upload that returned
`SaveResult::OK` (`modified_cleared_by`): a kit reply `unmodified`, an upload skipped because
the file did not change, and a `DISKFULL`, `UNAUTHORIZED` or `FAILED` upload leave it set.
-/

set_option autoImplicit false

namespace Loolwsd.Analysis

open Loolwsd.Model

/-! ## The invariant -/

/-- The modified flag is the tile cache's unsaved-changes flag, false while there is no tile
cache; a tile cache exists only once the storage has loaded the document. -/
structure ModInv (b : DocumentBroker) : Prop where
  modified : b.isModified = (b.tileCache.map TileCache.unsavedChanges).getD false
  cached : b.tileCache.isSome = true → b.storage.map Storage.isLoaded = some true

theorem modInv_init (cfg : Settings) (docKey docId childJailId : String) (t0 : Int)
    (wall : Nat) : ModInv (DocumentBroker.init cfg docKey docId childJailId t0 wall) :=
  ⟨rfl, fun h => by cases h⟩

/-- INTERNAL: the invariant reads the modified flag, the unsaved-changes flag and the
storage's `isLoaded` only. -/
theorem ModInv.congr {b b' : DocumentBroker} (hi : ModInv b)
    (hm : b'.isModified = b.isModified)
    (ht : b'.tileCache.map TileCache.unsavedChanges = b.tileCache.map TileCache.unsavedChanges)
    (hl : b'.storage.map Storage.isLoaded = b.storage.map Storage.isLoaded) : ModInv b' := by
  have hs : b'.tileCache.isSome = b.tileCache.isSome := by simpa using congrArg Option.isSome ht
  exact ⟨by rw [hm, ht, hi.modified], fun h => hl ▸ hi.cached (hs ▸ h)⟩

theorem ModInv.steady {b b' : DocumentBroker} (hi : ModInv b) (h : Steady b b') : ModInv b' :=
  hi.congr h.isModified h.unsaved h.loaded

/-- INTERNAL: an update of other fields than the modified flag, the tile cache and the storage
keeps the invariant. -/
theorem modify_modInv {f : DocumentBroker → DocumentBroker}
    (h : ∀ b, (f b).isModified = b.isModified ∧ (f b).tileCache = b.tileCache ∧
      (f b).storage = b.storage) :
    Leads (Kept ModInv) (modify f : BrokerM PUnit) :=
  Leads.modify fun b hi => hi.congr (h b).1 (by rw [(h b).2.1]) (by rw [(h b).2.2])

/-- INTERNAL: a change of the storage that keeps `isLoaded` keeps the invariant. -/
theorem updateStorage_modInv {f : Storage → Storage} (hf : ∀ st, (f st).isLoaded = st.isLoaded) :
    Leads (Kept ModInv) (updateStorage f) :=
  Leads.modify fun b hi => hi.congr rfl rfl (by cases b.storage <;> simp [hf])

/-! ## Loading -/

/-- INTERNAL: a storage is created only where there was none, so there was no tile cache
either; the new storage has not loaded the document. -/
theorem createStorage_modInv (io : LoadIO) : Leads (Kept ModInv) (createStorage io) := by
  intro b b' h hi
  unfold createStorage at h
  cases hs : b.storage with
  | some st => simp only [hs, run_bind, run_get, run_pure] at h; cases h; exact hi
  | none =>
    have ht : b.tileCache = none := by
      cases htc : b.tileCache
      · rfl
      · simpa [hs, htc] using hi.cached
    cases hc : io.create with
    | error e => cases e <;> simp_all [ask, settle]
    | ok c =>
      cases c <;> simp only [hs, hc, ask, run_bind, run_get, run_pure, run_modify, settle,
        Option.some.injEq] at h <;> subst h
      · exact hi
      · exact ⟨by simp [hi.modified, ht], by simp [ht]⟩

/-- INTERNAL: the download starts with no tile cache and nothing modified, so whatever it
throws it keeps the invariant: the storage reports the document loaded before the tile cache
is created. Source: `DocumentBroker.cpp:676-698`. -/
theorem downloadPhase_modInv {io : LoadIO} {fi : FileInfo} {b b' : DocumentBroker}
    {st : Storage} (hs : b.storage = some st) (ht : b.tileCache = none)
    (hm : b.isModified = false) (h : settle (downloadPhase io fi b) = some b') : ModInv b' := by
  unfold downloadPhase at h
  cases hd : io.download <;> cases hj : io.jailedUri <;> cases hmt : io.localModifiedTime <;>
    cases htl : io.tileCache <;>
    simp only [hd, hj, hmt, htl, ask, updateStorage, run_bind, run_pure, run_throw, run_modify,
      settle_ok, settle_error_eq_some, Option.some.injEq] at h <;>
    obtain ⟨-, rfl⟩ := h <;>
    exact ⟨by simp [hm, ht], by simp [hs, ht]⟩

/-- INTERNAL: the download runs only while the storage has not loaded the document, so, by
**cached**, with no tile cache and nothing modified. -/
theorem downloadIfNotLoaded_modInv (io : LoadIO) (fi : FileInfo) :
    Leads (Kept ModInv) (downloadIfNotLoaded io fi) := by
  refine Leads.storage_bind fun b st b' hs h hi => ?_
  cases hl : st.isLoaded
  · have ht : b.tileCache = none := by
      cases htc : b.tileCache
      · rfl
      · simpa [hs, htc, hl] using hi.cached
    simp only [hl, Bool.not_false, ite_true] at h
    exact downloadPhase_modInv hs ht (by simp [hi.modified, ht]) h
  · simp only [hl, Bool.not_true, Bool.false_eq_true, ite_false, run_pure, settle_ok,
      Option.some.injEq] at h
    exact h ▸ hi

/-- `load` keeps the invariant, whatever it throws. Source: `DocumentBroker.cpp:481-714`. -/
theorem load_modInv (cfg : Settings) (s : ClientSession) (j : String) (io : LoadIO) :
    Leads (Kept ModInv) (load cfg s j io) := by
  unfold load
  repeat' first
    | with_reducible exact createStorage_modInv io
    | with_reducible exact downloadIfNotLoaded_modInv io _
    | with_reducible refine Leads.bind ?_ fun _ => ?_
    | with_reducible exact Leads.pure _
    | with_reducible exact Leads.get
    | with_reducible exact Leads.throw _
    | with_reducible exact Leads.ask _
    | with_reducible exact Leads.storage
    | with_reducible exact modify_modInv fun _ => ⟨rfl, rfl, rfl⟩
    | with_reducible exact updateStorage_modInv fun _ => rfl
    | with_reducible refine Leads.ite ?_ ?_
    | split
    | dsimp only
    | simp only [fileInfoPhase, wopiFileInfoPhase, localFileInfoPhase, ndcPermission,
        setFileInfo, recordTimestamp, sendLoadStats, sendToClient]

/-- `addSession` keeps the invariant. Source: `DocumentBroker.cpp:971-1040`. -/
theorem addSession_modInv (cfg : Settings) (s : ClientSession) (io : LoadIO) :
    Leads (Kept ModInv) (addSession cfg s io) := by
  unfold addSession addSessionInternal sendToKit
  repeat' first
    | with_reducible exact load_modInv cfg _ _ io
    | with_reducible refine Leads.catchRaised ?_ fun _ => ?_
    | with_reducible refine Leads.bind ?_ fun _ => ?_
    | with_reducible exact Leads.pure _
    | with_reducible exact Leads.get
    | with_reducible exact Leads.throw _
    | with_reducible exact modify_modInv fun _ => ⟨rfl, rfl, rfl⟩
    | with_reducible refine Leads.ite ?_ ?_
    | split

/-! ## The two writers of the flag -/

/-- `setModified` writes both flags at once. Source: `DocumentBroker.cpp:1422-1426`. -/
theorem setModified_modInv (v : Bool) : Leads (Kept ModInv) (setModified v) := by
  intro b b' h hi
  cases ht : b.tileCache with
  | none => simp [setModified, tileCache, ht, settle] at h
  | some tc =>
    simp only [setModified, tileCache, updateTileCache, ht, run_bind, run_get, run_pure,
      run_modify, settle_ok, Option.some.injEq] at h
    subst h
    exact ⟨by simp, by simpa [ht] using hi.cached⟩

/-- INTERNAL: a session's removal keeps the invariant. -/
theorem removeSessionInternal_modInv (id : String) :
    Leads (Kept ModInv) (removeSessionInternal id) :=
  Leads.mono (fun _ _ h hi => hi.steady h) (removeSessionInternal_steady _)

/-- `saveToStorage` keeps the invariant: a successful upload clears both flags at once.
Source: `DocumentBroker.cpp:716-840`. -/
theorem saveToStorage_modInv (sid : String) (success : Bool) (result : String) (io : SaveIO)
    (now : Int) : Leads (Kept ModInv) (saveToStorage sid success result io now) := by
  unfold saveToStorage
  repeat' first
    | with_reducible exact removeSessionInternal_modInv _
    | with_reducible refine Leads.bind ?_ fun _ => ?_
    | with_reducible exact Leads.pure _
    | with_reducible exact Leads.get
    | with_reducible exact Leads.throw _
    | with_reducible exact Leads.tileCache
    | with_reducible exact Leads.storage
    | with_reducible exact modify_modInv fun _ => ⟨rfl, rfl, rfl⟩
    | with_reducible exact updateStorage_modInv fun _ => rfl
    | exact Leads.modify fun b hi => ⟨by cases b.tileCache <;> rfl, by simpa using hi.cached⟩
    | with_reducible refine Leads.ite ?_ ?_
    | split
    | simp only [saveToStorageInternal, uploadOutcome, sendToClient]

/-! ## Runs -/

theorem modInv_step {cfg : Settings} {b b' : DocumentBroker} {e : Event} (hi : ModInv b)
    (h : step cfg b e = some b') : ModInv b' := by
  rcases Event.call_steady cfg e with hs | ⟨s, io, rfl⟩ | ⟨id, ok, r, io, now, rfl⟩ | ⟨v, rfl⟩
  · exact hi.steady (hs b b' h)
  · exact addSession_modInv cfg s io b b' (by rwa [step, Event.call, settle_bind_pure] at h) hi
  · exact saveToStorage_modInv id ok r io now b b'
      (by rwa [step, Event.call, settle_bind_pure] at h) hi
  · exact setModified_modInv v b b' h hi

theorem modInv_reachable {cfg : Settings} {b : DocumentBroker} (hb : Reachable cfg b) :
    ModInv b := by
  induction hb with
  | init => exact modInv_init _ _ _ _ _ _
  | step e _ h ih => exact modInv_step ih h

/-! ## Where the flag is cleared -/

/-- A save completion reaches the upload (the kit saved the document, the session is in the
map, and the broker is removing its last editable session or the file has changed), and the
upload returns `SaveResult::OK`. -/
def UploadSucceeds (b : DocumentBroker) (sessionId : String) (success : Bool) (result : String)
    (io : SaveIO) : Prop :=
  ¬(success = false ∧ result = "unmodified") ∧ (b.sessions.find? sessionId).isSome = true ∧
    (b.lastEditableSession = true ∨ io.newFileModifiedTime ≠ b.lastFileModifiedTime) ∧
    io.saveResult = .ok

instance (b : DocumentBroker) (sessionId : String) (success : Bool) (result : String)
    (io : SaveIO) : Decidable (UploadSucceeds b sessionId success result io) :=
  inferInstanceAs (Decidable (_ ∧ _))

/-- INTERNAL: `saveToStorageInternal` leaves the modified flag as it was unless its upload
succeeds. Source: `DocumentBroker.cpp:738-840`. -/
theorem saveToStorageInternal_clears (sid : String) (success : Bool) (result : String)
    (io : SaveIO) (now : Int) :
    Leads (fun b b' => b'.isModified = b.isModified ∨ UploadSucceeds b sid success result io)
      (saveToStorageInternal sid success result io now) := by
  intro b b' h
  unfold saveToStorageInternal at h
  split at h
  · simp at h; exact .inl (h ▸ rfl)
  rename_i hun
  cases hf : b.sessions.find? sid with
  | none => simp [hf] at h; exact .inl (h ▸ rfl)
  | some s =>
    cases hs : b.storage with
    | none => simp [hf, hs, storage, settle] at h
    | some st =>
      simp only [hf, hs, storage, run_bind, run_get, run_pure] at h
      split at h
      · simp at h; exact .inl (h ▸ rfl)
      rename_i hskip
      cases hr : io.saveResult with
      | ok =>
        refine .inr ⟨by simpa using hun, by simp [hf], ?_, hr⟩
        revert hskip
        cases b.lastEditableSession <;> simp
      | _ => simp [uploadOutcome, hr, sendToClient] at h; exact .inl (h ▸ rfl)

/-- INTERNAL: after the save, `saveToStorage` only removes the session and sets `_stop`.
Source: `DocumentBroker.cpp:716-736`. -/
theorem saveToStorage_clears (sid : String) (success : Bool) (result : String) (io : SaveIO)
    (now : Int) :
    Leads (fun b b' => b'.isModified = b.isModified ∨ UploadSucceeds b sid success result io)
      (saveToStorage sid success result io now) := by
  have stop : Leads Steady (modify fun b => { b with stop := true } : BrokerM PUnit) :=
    modify_steady fun _ => ⟨rfl, rfl, rfl, rfl, rfl, rfl⟩
  unfold saveToStorage
  refine Leads.bind_comp (saveToStorageInternal_clears sid success result io now)
    (fun _ => (?_ : Leads Steady _)) (fun _ _ h => h) fun _ _ _ h1 h2 => by
      rw [h2.isModified]; exact h1
  repeat' first
    | with_reducible exact removeSessionInternal_steady _
    | with_reducible exact stop
    | with_reducible refine Leads.bind ?_ fun _ => ?_
    | with_reducible exact Leads.pure _
    | with_reducible exact Leads.get
    | with_reducible refine Leads.ite ?_ ?_

/-- INTERNAL: `load` leaves the modified flag alone. -/
theorem load_keeps_modified (cfg : Settings) (s : ClientSession) (j : String) (io : LoadIO) :
    Leads (Kept fun b => b.isModified = true) (load cfg s j io) :=
  Leads.mono (fun _ _ h hm => h.isModified.trans hm) (load_untouched cfg s j io)

/-- INTERNAL: an admission never changes the modified flag. -/
theorem addSession_keeps_modified (cfg : Settings) (s : ClientSession) (io : LoadIO) :
    Leads (Kept fun b => b.isModified = true) (addSession cfg s io) := by
  unfold addSession addSessionInternal sendToKit
  repeat' first
    | with_reducible exact load_keeps_modified cfg _ _ io
    | with_reducible refine Leads.catchRaised ?_ fun _ => ?_
    | with_reducible refine Leads.bind ?_ fun _ => ?_
    | with_reducible exact Leads.pure _
    | with_reducible exact Leads.get
    | with_reducible exact Leads.throw _
    | exact Leads.modify fun _ h => h
    | with_reducible refine Leads.ite ?_ ?_
    | split

/-- INTERNAL: `setModified(value)` leaves the flag at `value`. -/
theorem setModified_isModified {v : Bool} {b b' : DocumentBroker}
    (h : settle (setModified v b) = some b') : b'.isModified = v := by
  cases ht : b.tileCache <;>
    simp_all [setModified, tileCache, updateTileCache, settle_error_eq_some]
  exact h ▸ rfl

/-- **The flag is cleared only by `setModified(false)` or a successful upload.** Whatever the
state, a step that takes the modified flag from true to false is a `setmodified false` report
or a save completion whose upload ran and returned `SaveResult::OK`. -/
theorem modified_cleared_by {cfg : Settings} {b b' : DocumentBroker} {e : Event}
    (h : step cfg b e = some b') (h1 : b.isModified = true) (h2 : b'.isModified = false) :
    e = .setModified false ∨ ∃ sid success result io now,
      e = .saveToStorage sid success result io now ∧ UploadSucceeds b sid success result io := by
  rcases Event.call_steady cfg e with hs | ⟨s, io, rfl⟩ | ⟨id, ok, r, io, now, rfl⟩ | ⟨v, rfl⟩
  · simp [(hs b b' h).isModified, h1] at h2
  · have := addSession_keeps_modified cfg s io b b'
      (by rwa [step, Event.call, settle_bind_pure] at h) h1
    simp [this] at h2
  · rcases saveToStorage_clears id ok r io now b b'
      (by rwa [step, Event.call, settle_bind_pure] at h) with hm | hu
    · simp [hm, h1] at h2
    · exact .inr ⟨id, ok, r, io, now, rfl, hu⟩
  · have := setModified_isModified h
    exact .inl (by rw [← this, h2])

/-! ## The flag mirrors the tile cache -/

/-- **The modified flag mirrors the tile cache.** In every reachable state with a tile cache,
`_isModified` is the cache's unsaved-changes flag; and a step takes `_isModified` from true to
false only as `setModified(false)` or as a save completion whose upload ran and returned
`SaveResult::OK`, never through an `unmodified` reply, a skipped upload or a failed one. -/
theorem modified_flag_tracks_cache (cfg : Settings) :
    (∀ b, Reachable cfg b → ∀ tc, b.tileCache = some tc → b.isModified = tc.unsavedChanges) ∧
    (∀ b e b', step cfg b e = some b' → b.isModified = true → b'.isModified = false →
      e = .setModified false ∨ ∃ sid success result io now,
        e = .saveToStorage sid success result io now ∧ UploadSucceeds b sid success result io) :=
  ⟨fun _ hb tc ht => by simpa [ht] using (modInv_reachable hb).modified,
    fun _ _ _ h h1 h2 => modified_cleared_by h h1 h2⟩

end Loolwsd.Analysis
