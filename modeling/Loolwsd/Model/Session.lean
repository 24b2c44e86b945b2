import Mathlib.Data.List.Nodup
import Loolwsd.Model.Protocol

/-!
# Client sessions and the broker's session map

`DocumentBroker::_sessions` is a `std::map<std::string, std::shared_ptr<ClientSession>>`,
keyed by the session's id (`_sessions.emplace(session->getId(), session)`). Its two
properties the broker relies on are carried by `SessionMap` itself: no id is present twice,
and iteration runs in `std::string` order of the ids, which is the order `emplace` inserts
in. A session record keeps the state of a `ClientSession` that `DocumentBroker.cpp` reads or
writes (ClientSession.hpp is not in the source).
-/

set_option autoImplicit false

namespace Loolwsd.Model

/-- The state of one `ClientSession` that the broker reads or writes. -/
structure ClientSession where
  id : String
  isReadOnly : Bool
  isDocumentOwner : Bool
  /-- The kit has acknowledged the session's view (`isViewLoaded`). -/
  isViewLoaded : Bool
  /-- The client has sent its close frame (`isCloseFrame`). -/
  isCloseFrame : Bool
  accessToken : String
  /-- `getPublicUri().toString()`. -/
  publicUri : String
  /-- `getPublicUri().getQueryParameters()`, in the URI's order. -/
  queryParameters : List (String × String)
  userId : String
  userName : String
  deriving Repr, DecidableEq

/-- `ClientSession::setReadOnly`. -/
def ClientSession.setReadOnly (s : ClientSession) : ClientSession :=
  { s with isReadOnly := true }

@[simp] theorem ClientSession.setReadOnly_id (s : ClientSession) : s.setReadOnly.id = s.id := rfl

@[simp] theorem ClientSession.setReadOnly_isReadOnly (s : ClientSession) :
    s.setReadOnly.isReadOnly = true := rfl

/-- `std::string`'s `operator<` on the ids: lexicographic on characters. -/
def idLess : List Char → List Char → Bool
  | [], [] => false
  | [], _ :: _ => true
  | _ :: _, [] => false
  | a :: as, b :: bs => if a = b then idLess as bs else decide (a < b)

/-- INTERNAL: where `std::map::emplace` puts a new key: before the first larger one. -/
def insertByKey (s : ClientSession) : List ClientSession → List ClientSession
  | [] => [s]
  | t :: ts => if idLess s.id.data t.id.data then s :: t :: ts else t :: insertByKey s ts

/-- INTERNAL: inserting by key only places the new session among the others. -/
theorem insertByKey_perm (s : ClientSession) (l : List ClientSession) :
    (insertByKey s l).Perm (s :: l) := by
  induction l with
  | nil => exact List.Perm.refl _
  | cons t ts ih =>
    unfold insertByKey
    split
    · exact List.Perm.refl _
    · exact (ih.cons t).trans (List.Perm.swap s t ts)

/-- The session map: the sessions in iteration order, no id twice. -/
structure SessionMap where
  entries : List ClientSession
  nodup : (entries.map ClientSession.id).Nodup

namespace SessionMap

/-- An empty map. -/
def empty : SessionMap := ⟨[], List.nodup_nil⟩

/-- `_sessions.find(id)`. -/
def find? (m : SessionMap) (id : String) : Option ClientSession :=
  m.entries.find? (fun s => s.id = id)

/-- `_sessions.find(id) != _sessions.end()`. -/
def contains (m : SessionMap) (id : String) : Bool :=
  m.entries.any (fun s => s.id = id)

/-- `_sessions.size()`. -/
def size (m : SessionMap) : Nat := m.entries.length

/-- `_sessions.empty()`. -/
def isEmpty (m : SessionMap) : Bool := m.entries.isEmpty

/-- `_sessions.erase(id)`. -/
def erase (m : SessionMap) (id : String) : SessionMap :=
  ⟨m.entries.filter (fun s => s.id ≠ id),
    m.nodup.sublist ((List.filter_sublist _).map _)⟩

/-- `_sessions.emplace(s.getId(), s)`: no change when the id is already a key. -/
def emplace (m : SessionMap) (s : ClientSession) : SessionMap :=
  if h : m.contains s.id then m
  else ⟨insertByKey s m.entries, by
    refine ((insertByKey_perm s m.entries).map ClientSession.id).nodup_iff.mpr ?_
    simp only [List.map_cons, List.nodup_cons, List.mem_map]
    refine ⟨?_, m.nodup⟩
    rintro ⟨t, ht, hts⟩
    simp only [contains, List.any_eq_true, decide_eq_true_eq] at h
    exact h ⟨t, ht, hts⟩⟩

/-- Apply an id-preserving change to every session (the DISKFULL loop's `setReadOnly`). -/
def mapSessions (m : SessionMap) (f : ClientSession → ClientSession)
    (hf : ∀ s, (f s).id = s.id) : SessionMap :=
  ⟨m.entries.map f, by
    have h : ClientSession.id ∘ f = ClientSession.id := funext hf
    rw [List.map_map, h]; exact m.nodup⟩

/-- Apply an id-preserving change to the session with the given id. -/
def modify (m : SessionMap) (id : String) (f : ClientSession → ClientSession)
    (hf : ∀ s, (f s).id = s.id) : SessionMap :=
  m.mapSessions (fun s => if s.id = id then f s else s) (fun s => by
    by_cases h : s.id = id <;> simp [h, hf])

/-! ### Membership -/

instance : Membership ClientSession SessionMap := ⟨fun m s => s ∈ m.entries⟩

@[simp] theorem mem_def (m : SessionMap) (s : ClientSession) : s ∈ m ↔ s ∈ m.entries := Iff.rfl

instance (s : ClientSession) (m : SessionMap) : Decidable (s ∈ m) :=
  inferInstanceAs (Decidable (s ∈ m.entries))

theorem contains_iff (m : SessionMap) (id : String) : m.contains id = true ↔ ∃ s ∈ m, s.id = id := by
  simp [contains]

theorem find?_some {m : SessionMap} {id : String} {s : ClientSession} (h : m.find? id = some s) :
    s ∈ m ∧ s.id = id := by
  have := List.find?_some h
  exact ⟨List.mem_of_find?_eq_some h, by simpa using this⟩

theorem find?_isSome_iff (m : SessionMap) (id : String) : (m.find? id).isSome = m.contains id := by
  rw [Bool.eq_iff_iff]
  simp [find?, contains]

/-- Two sessions of the map with the same id are the same session. -/
theorem eq_of_id_eq {m : SessionMap} {s t : ClientSession} (hs : s ∈ m) (ht : t ∈ m)
    (h : s.id = t.id) : s = t :=
  List.inj_on_of_nodup_map m.nodup hs ht h

@[simp] theorem mem_erase (m : SessionMap) (id : String) (s : ClientSession) :
    s ∈ m.erase id ↔ s ∈ m ∧ s.id ≠ id := by
  simp [erase]

@[simp] theorem contains_erase (m : SessionMap) (id k : String) :
    (m.erase id).contains k = (m.contains k && k ≠ id) := by
  rw [Bool.eq_iff_iff]
  simp only [contains_iff, mem_erase, Bool.and_eq_true, decide_eq_true_eq]
  constructor
  · rintro ⟨s, ⟨hs, hne⟩, rfl⟩; exact ⟨⟨s, hs, rfl⟩, hne⟩
  · rintro ⟨⟨s, hs, rfl⟩, hne⟩; exact ⟨s, ⟨hs, hne⟩, rfl⟩

@[simp] theorem contains_mapSessions (m : SessionMap) (f : ClientSession → ClientSession)
    (hf : ∀ s, (f s).id = s.id) (k : String) : (m.mapSessions f hf).contains k = m.contains k := by
  simp only [contains, mapSessions, List.any_map]
  exact congrArg m.entries.any (funext fun s => by simp [hf])

theorem mem_emplace (m : SessionMap) (s t : ClientSession) (h : m.contains s.id = false) :
    t ∈ m.emplace s ↔ t = s ∨ t ∈ m := by
  simp only [emplace, h, Bool.false_eq_true, ↓reduceDIte, mem_def]
  exact (insertByKey_perm s m.entries).mem_iff.trans List.mem_cons

theorem emplace_of_contains (m : SessionMap) (s : ClientSession) (h : m.contains s.id = true) :
    m.emplace s = m := by
  simp [emplace, h]

/-! ### Keys -/

/-- The keys of the map, in iteration order. -/
def ids (m : SessionMap) : List String := m.entries.map ClientSession.id

@[simp] theorem ids_mapSessions (m : SessionMap) (f : ClientSession → ClientSession)
    (hf : ∀ s, (f s).id = s.id) : (m.mapSessions f hf).ids = m.ids := by
  simp [ids, mapSessions, hf]

@[simp] theorem ids_modify (m : SessionMap) (id : String) (f : ClientSession → ClientSession)
    (hf : ∀ s, (f s).id = s.id) : (m.modify id f hf).ids = m.ids :=
  ids_mapSessions _ _ _

theorem ids_erase_sublist (m : SessionMap) (id : String) : (m.erase id).ids.Sublist m.ids :=
  (List.filter_sublist _).map _

theorem isEmpty_eq (m : SessionMap) : m.isEmpty = m.ids.isEmpty := by
  cases h : m.entries <;> simp [isEmpty, ids, h]

/-- A map whose keys are among another's is empty when the other is. -/
theorem isEmpty_of_ids_sublist {m m' : SessionMap} (h : m'.ids.Sublist m.ids)
    (hm : m.isEmpty = true) : m'.isEmpty = true := by
  rw [isEmpty_eq, List.isEmpty_iff] at hm ⊢
  exact List.eq_nil_of_sublist_nil (hm ▸ h)

end SessionMap

end Loolwsd.Model
