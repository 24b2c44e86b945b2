import Loolwsd.Analysis.Admission

/-!
# The document is downloaded once

`load` downloads the document only while the storage has not loaded it
(`if (!_storage->isLoaded())`, `DocumentBroker.cpp:677-698`), and takes the storage's
timestamp as the document's only when it created the storage (`firstInstance`,
`DocumentBroker.cpp:654-657`). The download sets the jailed URI the kit loads from, the file
name, the file's modification time and a fresh tile cache. So on a broker whose storage has
loaded the document, an admission leaves all of these, and the document's timestamp, as it
found them (`Downloaded`, `addSession_downloaded`): a later session neither downloads the file
again nor drops the rendered tiles and the unsaved-changes marker, whether its load succeeds,
refuses or throws at any step.

Nothing else the broker does unloads the storage or moves the jailed URI (`Event.call_steady`,
`saveToStorage_loadFrame`, `setModified_loadFrame`), so along every run from a loaded broker
the document stays loaded from the same jailed file (`loadedFrom_run`), and every admission of
the run finds it loaded.
-/

set_option autoImplicit false

namespace Loolwsd.Analysis

open Loolwsd.Model

/-- What the download and the first instance leave behind: the jailed URI and file name, the
file's modification time, the tile cache and the document's timestamp. -/
structure Download where
  uriJailed : String
  filename : String
  lastFileModifiedTime : Nat
  tileCache : Option TileCache
  documentLastModifiedTime : Nat

/-- The download's record of a broker. -/
def Download.of (b : DocumentBroker) : Download :=
  ⟨b.uriJailed, b.filename, b.lastFileModifiedTime, b.tileCache, b.documentLastModifiedTime⟩

/-- The storage has loaded the document, and the download left `d`. -/
def Downloaded (d : Download) (b : DocumentBroker) : Prop :=
  b.storage.map Storage.isLoaded = some true ∧ Download.of b = d

/-! ## `load` on a loaded broker -/

section Downloaded

variable (d : Download)

/-- INTERNAL: a storage update that keeps `isLoaded` keeps the download. -/
theorem updateStorage_downloaded {f : Storage → Storage} (hf : ∀ st, (f st).isLoaded = st.isLoaded) :
    Leads (Kept (Downloaded d)) (updateStorage f) :=
  Leads.modify fun b h => ⟨by cases hs : b.storage <;> simp_all [Downloaded], h.2⟩

/-- INTERNAL: a call that, from every state satisfying `P`, returns `a` and changes nothing,
followed by `f a`. -/
theorem Leads.bind_returns {α β : Type} {P : DocumentBroker → Prop} {x : BrokerM α}
    {f : α → BrokerM β} {a : α} (hx : ∀ b, P b → x b = .ok a b) (hf : Leads (Kept P) (f a)) :
    Leads (Kept P) (x >>= f) := fun b b' h hp => by
  rw [run_bind, hx b hp] at h
  exact hf b b' h hp

/-- INTERNAL: the storage exists, so `createStorage` reports no first instance and changes
nothing. Source: `DocumentBroker.cpp:513-529`. -/
theorem createStorage_of_downloaded (io : LoadIO) (b : DocumentBroker) (hd : Downloaded d b) :
    createStorage io b = .ok (some false) b := by
  obtain ⟨st, hs, -⟩ := Option.map_eq_some'.mp hd.1
  simp [createStorage, hs]

/-- INTERNAL: the storage has loaded the document, so the download is skipped.
Source: `DocumentBroker.cpp:677`. -/
theorem downloadIfNotLoaded_downloaded (io : LoadIO) (fi : FileInfo) :
    Leads (Kept (Downloaded d)) (downloadIfNotLoaded io fi) :=
  Leads.storage_bind fun b stor b' hs h hd => by
    have hl : stor.isLoaded = true := by simpa [hs] using hd.1
    simp only [hl, Bool.not_true, Bool.false_eq_true, ite_false, run_pure, settle_ok,
      Option.some.injEq] at h
    exact h ▸ hd

/-- INTERNAL: the file-info query writes the storage's file info and frames to the session,
nothing of the download. Source: `DocumentBroker.cpp:535-640`. -/
theorem fileInfoPhase_downloaded (cfg : Settings) (isWopi : Bool) (s : ClientSession)
    (io : LoadIO) : Leads (Kept (Downloaded d)) (fileInfoPhase cfg isWopi s io) := by
  unfold fileInfoPhase wopiFileInfoPhase localFileInfoPhase ndcPermission setFileInfo sendToClient
  repeat' first
    | with_reducible refine Leads.bind ?_ fun _ => ?_
    | with_reducible exact Leads.pure _
    | with_reducible exact Leads.get
    | with_reducible exact Leads.throw _
    | with_reducible exact Leads.ask _
    | with_reducible exact Leads.storage
    | with_reducible exact updateStorage_downloaded d fun _ => rfl
    | exact Leads.modify fun _ h => h
    | with_reducible refine Leads.ite ?_ ?_

/-- **`load` on a loaded broker keeps the download**, whatever it returns or throws: it neither
downloads again nor takes a new document timestamp. Source: `DocumentBroker.cpp:481-714`. -/
theorem load_downloaded (cfg : Settings) (s : ClientSession) (j : String) (io : LoadIO) :
    Leads (Kept (Downloaded d)) (load cfg s j io) := by
  unfold load sendLoadStats sendToClient
  repeat' first
    | with_reducible refine Leads.bind_returns (createStorage_of_downloaded d io) ?_
    | exact (Leads.pure () : Leads _ (recordTimestamp false _))
    | with_reducible exact fileInfoPhase_downloaded d cfg _ s io
    | with_reducible exact downloadIfNotLoaded_downloaded d io _
    | with_reducible refine Leads.bind ?_ fun _ => ?_
    | with_reducible exact Leads.pure _
    | with_reducible exact Leads.get
    | with_reducible exact Leads.storage
    | exact Leads.modify fun _ h => h
    | with_reducible refine Leads.ite ?_ ?_

/-- **An admission on a loaded broker keeps the download**, whether it admits the session or
fails: its handlers only send the disk-full alert and mark the broker to destroy.
Source: `DocumentBroker.cpp:971-1040`. -/
theorem addSession_downloaded (cfg : Settings) (s : ClientSession) (io : LoadIO) :
    Leads (Kept (Downloaded d)) (addSession cfg s io) := by
  unfold addSession addSessionInternal sendToKit
  repeat' first
    | with_reducible exact load_downloaded d cfg _ _ io
    | with_reducible refine Leads.catchRaised ?_ fun _ => ?_
    | with_reducible refine Leads.bind ?_ fun _ => ?_
    | with_reducible exact Leads.pure _
    | with_reducible exact Leads.get
    | with_reducible exact Leads.throw _
    | exact Leads.modify fun _ h => h
    | with_reducible refine Leads.ite ?_ ?_
    | split

end Downloaded

/-! ## Runs -/

/-- The storage has loaded the document, from the jailed file `u`. -/
def LoadedFrom (u : String) (b : DocumentBroker) : Prop :=
  b.storage.map Storage.isLoaded = some true ∧ b.uriJailed = u

/-- INTERNAL: a change that keeps the load state keeps the jailed file loaded. -/
theorem LoadedFrom.frame {u : String} {b b' : DocumentBroker} (hf : LoadFrame b b')
    (h : LoadedFrom u b) : LoadedFrom u b' :=
  ⟨hf.loaded.trans h.1, hf.uriJailed.trans h.2⟩

theorem loadedFrom_step {cfg : Settings} {b b' : DocumentBroker} {e : Event} {u : String}
    (h : step cfg b e = some b') (hb : LoadedFrom u b) : LoadedFrom u b' := by
  rcases Event.call_steady cfg e with hs | ⟨s, io, rfl⟩ | ⟨id, ok, r, io, now, rfl⟩ | ⟨v, rfl⟩
  · exact hb.frame (Steady.loadFrame (hs b b' h))
  · have hd := addSession_downloaded (Download.of b) cfg s io b b'
      (by rwa [step, Event.call, settle_bind_pure] at h) ⟨hb.1, rfl⟩
    exact ⟨hd.1, (congrArg Download.uriJailed hd.2).trans hb.2⟩
  · exact hb.frame (saveToStorage_loadFrame id ok r io now b b'
      (by rwa [step, Event.call, settle_bind_pure] at h))
  · exact hb.frame (setModified_loadFrame v b b' h)

theorem loadedFrom_run {cfg : Settings} {b b' : DocumentBroker} {es : List Event} {u : String}
    (h : run cfg b es = some b') (hb : LoadedFrom u b) : LoadedFrom u b' := by
  induction es generalizing b with
  | nil => exact Option.some.inj h ▸ hb
  | cons e es ih =>
    obtain ⟨b1, h1, h2⟩ := Option.bind_eq_some.mp h
    exact ih h2 (loadedFrom_step h1 hb)

/-- **A loaded document is downloaded once.** On a broker whose storage has loaded the
document, every admission, whether it admits its session or fails, leaves the storage loaded
and the jailed URI, the file name, the file's modification time, the tile cache and the
document's timestamp as they were; and every run from such a broker, whatever its events, ends
with the storage loaded from the same jailed URI, so each of its admissions is such an
admission. Source: `DocumentBroker.cpp:481-714`, `DocumentBroker.cpp:971-1040`. -/
theorem loaded_document_downloaded_once (cfg : Settings) (b : DocumentBroker)
    (hl : b.storage.map Storage.isLoaded = some true) :
    (∀ s io b', settle (addSession cfg s io b) = some b' →
      b'.storage.map Storage.isLoaded = some true ∧ Download.of b' = Download.of b) ∧
    ∀ es b', run cfg b es = some b' →
      b'.storage.map Storage.isLoaded = some true ∧ b'.uriJailed = b.uriJailed :=
  ⟨fun s io b' h => addSession_downloaded (Download.of b) cfg s io b b' h ⟨hl, rfl⟩,
    fun _ _ h => loadedFrom_run h ⟨hl, rfl⟩⟩

/-- A local document after its first admission: the storage has loaded it. -/
def firstAdmitted : DocumentBroker :=
  (run ⟨30000, 30000, 300000, true, true, false⟩
    (DocumentBroker.init ⟨30000, 30000, 300000, true, true, false⟩ "k" "d" "j" 0 0)
    [.addSession ⟨"a", false, false, false, false, "", "file:///doc.odt", [], "", ""⟩
      localDocLoad]).getD
    (DocumentBroker.init ⟨30000, 30000, 300000, true, true, false⟩ "k" "d" "j" 0 0)

theorem first_admission_downloaded_once :
    firstAdmitted.storage.map Storage.isLoaded = some true ∧
      (∀ s io b', settle (addSession ⟨30000, 30000, 300000, true, true, false⟩ s io
          firstAdmitted) = some b' →
        b'.storage.map Storage.isLoaded = some true ∧
          Download.of b' = Download.of firstAdmitted) ∧
      ∀ es b', run ⟨30000, 30000, 300000, true, true, false⟩ firstAdmitted es = some b' →
        b'.storage.map Storage.isLoaded = some true ∧ b'.uriJailed = firstAdmitted.uriJailed :=
  have hl : firstAdmitted.storage.map Storage.isLoaded = some true := by decide
  ⟨hl, loaded_document_downloaded_once _ firstAdmitted hl⟩

end Loolwsd.Analysis
