import Loolwsd.Model.Run
import Loolwsd.Model.Merge

/-!
# Closed forms of the broker's session calls

`removeSession` is the hub of the broker's teardown: it may call `destroyIfLastEditor`,
`autoSave(true)` and `removeSessionInternal`, and `autoSave` reaches the kit through
`sendUnoSave` and `forwardToChild`. This file gives each of these calls as one equation
`f … b = .ok r b'` with `b'` written out, so that the analyses never unfold them:

* `forwardToChild` of a save command never reads past the end of its token vector: the
  frame `child-<id> uno .uno:Save <args>` has at least three tokens (`loadRewrite_save_isSome`),
  so `sendUnoSave` and `autoSave` never fault and always return;
* `autoSave(force)` sends a save exactly when `autoSaveSends` holds, through the session
  `savingSessionId`, which is in the map (`autoSave_eq`, `savingSessionId_mem`);
* `removeSession` returns normally from every state, and either removes the session or, when
  it is the last editor and the forced autosave sent a save, leaves the map as it was
  (`removeSession_eq`).
-/

set_option autoImplicit false

namespace Loolwsd.Model

/-! ## Tokens of a save command -/

/-- INTERNAL: splitting at a separator splits the two sides apart. -/
theorem splitOnP_append_sep {α : Type} (p : α → Bool) (xs ys : List α) (s : α)
    (hs : p s = true) : (xs ++ s :: ys).splitOnP p = xs.splitOnP p ++ ys.splitOnP p := by
  induction xs with
  | nil => simp [List.splitOnP_cons, hs, List.splitOnP_nil]
  | cons x xs ih =>
    rw [List.cons_append, List.splitOnP_cons, List.splitOnP_cons, ih]
    split
    · rfl
    · obtain ⟨h, t, e⟩ := List.exists_cons_of_ne_nil (List.splitOnP_ne_nil p xs)
      simp [e]

/-- INTERNAL: a separator splits the tokens of the text on either side apart.
Source: `StringTokenizer` with `TOK_IGNORE_EMPTY | TOK_TRIM` (spec §4.6). -/
theorem splitTokens_append_sep (c : Char) (a b : String) :
    splitTokens c (a ++ String.singleton c ++ b) = splitTokens c a ++ splitTokens c b := by
  have h : (a ++ String.singleton c ++ b).data.splitOn c =
      a.data.splitOn c ++ b.data.splitOn c := by
    have e : (a ++ String.singleton c ++ b).data = a.data ++ c :: b.data := by simp
    rw [e]
    exact splitOnP_append_sep _ _ _ _ (by simp)
  simp only [splitTokens, h, List.map_append, List.filter_append]

/-- INTERNAL: a blank separates the tokens of the two sides; `tokenize` is the tokenizer on
blanks. -/
theorem tokenize_append_blank (a c : String) :
    tokenize (a ++ " " ++ c) = tokenize a ++ tokenize c :=
  splitTokens_append_sep ' ' a c

/-- INTERNAL: a word ending in a non-blank keeps a character after trimming. -/
theorem dropWhile_append_ne_nil {α : Type} (p : α → Bool) (l : List α) (c : α)
    (hc : p c = false) : (l ++ [c]).dropWhile p ≠ [] := by
  induction l with
  | nil => simp [List.dropWhile, hc]
  | cons x xs ih =>
    simp only [List.cons_append, List.dropWhile]
    split <;> simp_all

/-- INTERNAL: a word that starts with a non-blank is not trimmed away. -/
theorem trimSpace_cons_ne_nil (c : Char) (w : List Char) (hs : isSpace c = false) :
    trimSpace (c :: w) ≠ [] := by
  simp only [trimSpace, List.dropWhile, hs, List.reverse_cons, ne_eq, List.reverse_eq_nil_iff]
  exact dropWhile_append_ne_nil _ _ _ hs

/-- INTERNAL: a message that starts with a non-blank has a first token. -/
theorem tokenize_ne_nil (c : Char) (w : String) (hs : isSpace c = false) :
    tokenize ⟨c :: w.data⟩ ≠ [] := by
  have hc : (c == ' ') = false := by
    cases h : c == ' ' <;> simp_all [isSpace]
  simp only [tokenize, List.splitOn, List.splitOnP_cons, hc, Bool.false_eq_true, ite_false]
  obtain ⟨p, ps, e⟩ := List.exists_cons_of_ne_nil (List.splitOnP_ne_nil (· == ' ') w.data)
  simp [e, trimSpace_cons_ne_nil c p hs]

/-- INTERNAL: `forwardToChild`'s rewrite reads `tokens[2]` only when there is one.
Source: `DocumentBroker.cpp:1436-1450`. -/
theorem loadRewrite_isSome (uri msg : String) (h : 3 ≤ (tokenize msg).length) :
    (loadRewrite uri msg).isSome := by
  unfold loadRewrite
  rcases hm : tokenize msg with _ | ⟨t0, _ | ⟨t1, _ | ⟨t2, more⟩⟩⟩
  all_goals simp only [hm, List.length] at h
  · omega
  · omega
  · omega
  · dsimp only; split <;> rfl

/-- INTERNAL: `uno .uno:Save <args>` has at least two tokens, for every pair of flags. -/
theorem tokenize_unoSaveCommand (d1 d2 : Bool) :
    2 ≤ (tokenize (unoSaveCommand d1 d2)).length := by
  cases d1 <;> cases d2 <;> decide

example : tokenize (unoSaveCommand true true) =
    ["uno", ".uno:Save", saveArgs true true] := by decide

/-- **The save frame is well formed.** `child-<id> uno .uno:Save <args>` has a third token, so
`forwardToChild` never reads past the end of its token vector for a save.
Source: `DocumentBroker.cpp:912-963`, `DocumentBroker.cpp:1428-1458`. -/
theorem loadRewrite_save_isSome (uri id : String) (d1 d2 : Bool) :
    (loadRewrite uri ("child-" ++ id ++ " " ++ unoSaveCommand d1 d2)).isSome := by
  apply loadRewrite_isSome
  rw [tokenize_append_blank, List.length_append]
  have h1 : tokenize ("child-" ++ id) ≠ [] := tokenize_ne_nil 'c' ⟨"hild-".data ++ id.data⟩ rfl
  have h2 := tokenize_unoSaveCommand d1 d2
  have : 1 ≤ (tokenize ("child-" ++ id)).length := List.length_pos.mpr h1
  omega

/-! ## Sending a save -/

/-- The frame `sendUnoSave` sends through the session `id`. -/
def saveFrame (uriJailed id : String) (d1 d2 : Bool) : String :=
  (loadRewrite uriJailed ("child-" ++ id ++ " " ++ unoSaveCommand d1 d2)).get
    (loadRewrite_save_isSome uriJailed id d1 d2)

/-- The state `sendUnoSave` leaves when it sends a save through the session `id`. -/
def DocumentBroker.savedThrough (b : DocumentBroker) (id : String) (d1 d2 : Bool) (now : Int) :
    DocumentBroker :=
  { b with
    lastFileModifiedTime := 0
    lastSaveRequestTime := now
    toKit := b.toKit ++ [.text (saveFrame b.uriJailed id d1 d2)] }

/-- INTERNAL: `forwardToChild` of a save command, for a session in the map.
Source: `DocumentBroker.cpp:1428-1458`. -/
theorem forwardToChild_save (id : String) (d1 d2 : Bool) (b : DocumentBroker)
    (h : b.sessions.contains id = true) :
    forwardToChild id (unoSaveCommand d1 d2) b =
      .ok true { b with toKit := b.toKit ++ [.text (saveFrame b.uriJailed id d1 d2)] } := by
  have hs : loadRewrite b.uriJailed ("child-" ++ id ++ " " ++ unoSaveCommand d1 d2) =
      some (saveFrame b.uriJailed id d1 d2) := by
    simp [saveFrame]
  simp [forwardToChild, h, hs, sendToKit]

/-- **`sendUnoSave`** sends a save exactly when the session is in the map, and never faults.
Source: `DocumentBroker.cpp:912-963`. -/
theorem sendUnoSave_eq (id : String) (d1 d2 : Bool) (now : Int) (b : DocumentBroker) :
    sendUnoSave id d1 d2 now b =
      if b.sessions.contains id then .ok true (b.savedThrough id d1 d2 now) else .ok false b := by
  by_cases h : b.sessions.contains id
  · simp [sendUnoSave, h, forwardToChild_save, DocumentBroker.savedThrough]
  · simp [sendUnoSave, h]

/-- Whether `autoSave(force)` sends a save at `now`: there is a session, a storage, a loaded
document and a live child, and the save is forced or the document is modified and idle for
`IdleSaveDurationMs` or unsaved for `AutoSaveDurationMs`. -/
def DocumentBroker.autoSaveSends (cfg : Settings) (b : DocumentBroker) (force : Bool)
    (now : Int) : Prop :=
  b.sessions.isEmpty = false ∧ b.storage.isSome ∧ b.isLoaded = true ∧ b.childAlive = true ∧
    (force = true ∨ (b.isModified = true ∧ (now - b.lastActivityTime ≥ cfg.idleSaveDurationMs ∨
      now - b.lastSaveTime ≥ cfg.autoSaveDurationMs)))

instance (cfg : Settings) (b : DocumentBroker) (force : Bool) (now : Int) :
    Decidable (b.autoSaveSends cfg force now) :=
  inferInstanceAs (Decidable (_ ∧ _))

/-- The session `autoSave` saves through. -/
def DocumentBroker.savingSessionId (b : DocumentBroker) : String :=
  savingSessionLoop "" b.sessions.entries

/-- INTERNAL: the loop returns its accumulator or the id of a session it went over. -/
theorem savingSessionLoop_cases (acc : String) (l : List ClientSession) :
    savingSessionLoop acc l = acc ∨ ∃ s ∈ l, savingSessionLoop acc l = s.id := by
  induction l generalizing acc with
  | nil => exact .inl rfl
  | cons s rest ih =>
    simp only [savingSessionLoop]
    split
    · exact .inr ⟨s, List.mem_cons_self _ _, rfl⟩
    · by_cases hacc : acc.isEmpty = true
      · simp only [hacc, ite_true]
        rcases ih s.id with h | ⟨t, ht, h⟩
        · exact .inr ⟨s, List.mem_cons_self _ _, h⟩
        · exact .inr ⟨t, List.mem_cons_of_mem _ ht, h⟩
      · simp only [hacc, Bool.false_eq_true, ite_false]
        rcases ih acc with h | ⟨t, ht, h⟩
        · exact .inl h
        · exact .inr ⟨t, List.mem_cons_of_mem _ ht, h⟩

/-- **The saving session is a session of the map** whenever the map is not empty.
Source: `DocumentBroker.cpp:870-884`. -/
theorem savingSessionId_mem (b : DocumentBroker) (h : b.sessions.isEmpty = false) :
    ∃ s ∈ b.sessions, b.savingSessionId = s.id := by
  obtain ⟨s, rest, e⟩ := List.exists_cons_of_ne_nil (by simpa [SessionMap.isEmpty] using h)
  simp only [DocumentBroker.savingSessionId, e, savingSessionLoop, SessionMap.mem_def]
  split
  · exact ⟨s, List.mem_cons_self _ _, rfl⟩
  · simp only [show "".isEmpty = true from rfl, ite_true]
    rcases savingSessionLoop_cases s.id rest with h | ⟨t, ht, h⟩
    · exact ⟨s, List.mem_cons_self _ _, h⟩
    · exact ⟨t, List.mem_cons_of_mem _ ht, h⟩

/-- **`autoSave`** sends a save through `savingSessionId` exactly when `autoSaveSends` holds,
and never faults. Source: `DocumentBroker.cpp:853-910`. -/
theorem autoSave_eq (cfg : Settings) (force : Bool) (now : Int) (b : DocumentBroker) :
    autoSave cfg force now b =
      if b.autoSaveSends cfg force now then
        .ok true
          (b.savedThrough b.savingSessionId cfg.dontTerminateEdit cfg.dontSaveIfUnmodified now)
      else .ok false b := by
  have hid : b.sessions.isEmpty = false → b.sessions.contains b.savingSessionId = true :=
    fun h => by
      obtain ⟨s, hs, e⟩ := savingSessionId_mem b h
      exact (SessionMap.contains_iff _ _).mpr ⟨s, hs, e.symm⟩
  simp only [autoSave, run_bind, run_get]
  split_ifs <;>
    simp_all [sendUnoSave_eq, DocumentBroker.autoSaveSends, DocumentBroker.savingSessionId,
      Option.isSome_iff_ne_none]
  omega

/-! ## Removing a session -/

/-- The state `removeSessionInternal` leaves. -/
def DocumentBroker.removed (b : DocumentBroker) (id : String) : DocumentBroker :=
  if b.sessions.contains id then
    { b with
      sessions := b.sessions.erase id
      toKit := b.toKit ++ [.text ("child-" ++ id ++ " disconnect")] }
  else b

/-- **`removeSessionInternal`** erases the session and tells the kit, when it is there.
Source: `DocumentBroker.cpp:1066-1111`. -/
theorem removeSessionInternal_eq (id : String) (b : DocumentBroker) :
    removeSessionInternal id b = .ok (b.removed id).sessions.size (b.removed id) := by
  unfold removeSessionInternal DocumentBroker.removed sendToKit
  split <;> simp_all

/-- The flags `destroyIfLastEditor` sets. -/
def DocumentBroker.lastEditorFlags (b : DocumentBroker) (id : String) : DocumentBroker :=
  match b.sessions.find? id with
  | none => b
  | some current =>
    { b with
      lastEditableSession :=
        if !current.isReadOnly && !b.sessions.isEmpty then
          !(b.sessions.entries.any fun s => s.id != id && s.isViewLoaded && !s.isReadOnly)
        else !current.isReadOnly
      markToDestroy := decide (b.sessions.size ≤ 1) }

@[simp] theorem DocumentBroker.lastEditorFlags_sessions (b : DocumentBroker) (id : String) :
    (b.lastEditorFlags id).sessions = b.sessions := by
  unfold DocumentBroker.lastEditorFlags; split <;> rfl

/-- **`destroyIfLastEditor`**. Source: `DocumentBroker.cpp:1386-1420`. -/
theorem destroyIfLastEditor_eq (id : String) (b : DocumentBroker) :
    destroyIfLastEditor id b = .ok () (b.lastEditorFlags id) := by
  unfold destroyIfLastEditor DocumentBroker.lastEditorFlags
  split <;> simp_all

/-- Whether `removeSession` defers the removal: the session is the last editor and the forced
autosave sends a save. -/
def DocumentBroker.defersRemoval (cfg : Settings) (b : DocumentBroker) (now : Int) : Prop :=
  b.lastEditableSession = true ∧ b.autoSaveSends cfg true now

instance (cfg : Settings) (b : DocumentBroker) (now : Int) : Decidable (b.defersRemoval cfg now) :=
  inferInstanceAs (Decidable (_ ∧ _))

/-- The state `removeSession` leaves. -/
def DocumentBroker.afterRemoveSession (cfg : Settings) (id : String) (destroyIfLast : Bool)
    (now : Int) (b : DocumentBroker) : DocumentBroker :=
  let b := if destroyIfLast then b.lastEditorFlags id else b
  if b.defersRemoval cfg now then
    b.savedThrough b.savingSessionId cfg.dontTerminateEdit cfg.dontSaveIfUnmodified now
  else b.removed id

/-- **`removeSession`** returns normally from every state: with the session removed, or, when
the removal is deferred, with the save sent and the map unchanged.
Source: `DocumentBroker.cpp:1042-1064`. -/
theorem removeSession_eq (cfg : Settings) (id : String) (destroyIfLast : Bool) (now : Int)
    (b : DocumentBroker) :
    removeSession cfg id destroyIfLast now b =
      .ok (b.afterRemoveSession cfg id destroyIfLast now).sessions.size
        (b.afterRemoveSession cfg id destroyIfLast now) := by
  cases destroyIfLast <;>
  · simp only [removeSession, DocumentBroker.afterRemoveSession, DocumentBroker.defersRemoval,
      destroyIfLastEditor_eq, run_bind, run_pure, run_get, run_map, run_catchRaised,
      Bool.false_eq_true, ite_true, ite_false]
    split_ifs <;> simp_all [autoSave_eq, removeSessionInternal_eq, DocumentBroker.savedThrough]

end Loolwsd.Model
