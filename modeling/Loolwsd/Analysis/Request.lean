import Loolwsd.Model.Request
import Loolwsd.Analysis.ContentTree
import Loolwsd.Analysis.Forwarding

/-!
# What the request's decoders do

`keyword2Lower` decides by a match's neighbours, not by where the match stands: the first
match of the keyword is written in lower case exactly when neither the character before it nor
the one after it is a double quote, also inside a string of the body, and a match at the very
start reads the character before the string (`first_keyword_lowered_by_neighbours`). Between
the matches nothing but the case of a letter changes (`lowerLoop_tail`), and the fuel the model
gives the loop is never used up (`lowerLoop_enough_fuel`).

`parseArray2Form` sets a field the group pattern does not match as a string member of the
object, and adds a group's array only when the object has no member of that name: a form with
a plain field named like one of its groups makes `->add` dereference the null array
(`plain_field_named_like_group`).
-/

set_option autoImplicit false

namespace Loolwsd.Analysis

open Loolwsd.Model

/-! ## The search -/

/-- INTERNAL: a match needs as many characters as the keyword has. -/
theorem length_le_of_matchesAt {kw s : List Char} (h : matchesAt kw s = true) :
    kw.length ≤ s.length := by
  have := congrArg List.length (beq_iff_eq.mp h)
  simp only [List.length_map, List.length_take] at this
  omega

/-- INTERNAL: what the scan finds is a match, at or after where it starts. -/
theorem firstMatch_some {kw : List Char} : ∀ {l : List Char} {i m : Nat},
    firstMatch kw l i = some m → i ≤ m ∧ m ≤ i + l.length ∧ matchesAt kw (l.drop (m - i)) = true
  | [], i, m, h => by
    simp only [firstMatch, Option.ite_none_right_eq_some, Option.some.injEq] at h
    obtain ⟨hm, rfl⟩ := h
    simpa using hm
  | c :: cs, i, m, h => by
    simp only [firstMatch] at h
    split_ifs at h with hm
    · cases h
      simpa using hm
    · obtain ⟨h1, h2, h3⟩ := firstMatch_some h
      have hsub : m - i = (m - (i + 1)) + 1 := by omega
      refine ⟨by omega, by simp only [List.length_cons]; omega, ?_⟩
      rwa [hsub, List.drop_succ_cons]

/-- INTERNAL: the scan stops at the first match. -/
theorem firstMatch_eq {kw : List Char} : ∀ {l : List Char} {i k : Nat},
    (∀ j < k, matchesAt kw (l.drop j) = false) → matchesAt kw (l.drop k) = true →
    firstMatch kw l i = some (i + k)
  | [], i, 0, _, h2 => by simpa [firstMatch] using h2
  | [], i, k + 1, h1, h2 => by
    have h0 := h1 0 (by omega)
    simp only [List.drop_nil] at h0 h2
    simp [h0] at h2
  | c :: cs, i, 0, _, h2 => by simp_all [firstMatch]
  | c :: cs, i, k + 1, h1, h2 => by
    have h0 := h1 0 (by omega)
    simp only [List.drop_zero] at h0
    rw [firstMatch, if_neg (by simp [h0]),
      firstMatch_eq (fun j hj => h1 (j + 1) (by omega)) h2]
    congr 1
    omega

/-- INTERNAL: `RegularExpression::match` from `o` finds a whole match at or after `o`. -/
theorem findMatch_some {kw s : List Char} {o m : Nat} (h : findMatch kw s o = some m) :
    o ≤ m ∧ m + kw.length ≤ s.length ∧ matchesAt kw (s.drop m) = true := by
  unfold findMatch at h
  split_ifs at h with ho
  obtain ⟨h1, h2, h3⟩ := firstMatch_some h
  rw [List.drop_drop, Nat.add_sub_of_le h1] at h3
  have := length_le_of_matchesAt h3
  simp only [List.length_drop] at this h2
  exact ⟨h1, by omega, h3⟩

/-! ## Writing the keyword -/

/-- INTERNAL: writing the keyword over a match keeps the length. -/
theorem length_overwrite {s kw : List Char} {m : Nat} (h : m + kw.length ≤ s.length) :
    (overwrite s m kw).length = s.length := by
  simp only [overwrite, List.length_append, List.length_take, List.length_drop]
  omega

/-- INTERNAL: writing the keyword at `m` keeps what stands before `m`. -/
theorem take_overwrite {s kw : List Char} {m o : Nat} (ho : o ≤ m) (hm : m ≤ s.length) :
    (overwrite s m kw).take o = s.take o := by
  rw [overwrite, List.append_assoc, List.take_append_of_le_length (by simp; omega),
    List.take_take, Nat.min_eq_left ho]

/-- INTERNAL: writing the keyword over a match changes only the case of letters. -/
theorem map_toLower_overwrite {s kw : List Char} {m : Nat} (h : matchesAt kw (s.drop m) = true) :
    (overwrite s m kw).map Char.toLower = s.map Char.toLower := by
  have hm := beq_iff_eq.mp h
  conv_rhs => rw [← List.take_append_drop m s, ← List.take_append_drop kw.length (s.drop m)]
  simp only [overwrite, List.map_append, List.drop_drop, hm, Nat.add_comm, List.append_assoc]

/-- INTERNAL: the keyword written over a match that is a word `w` of the keyword's length. -/
theorem overwrite_append {p w q kw : List Char} (hw : w.length = kw.length) :
    overwrite (p ++ w ++ q) p.length kw = p ++ kw ++ q := by
  simp [overwrite, List.drop_append_eq_append_drop, hw]

/-! ## The loop -/

/-- **After its first round the loop neither faults nor touches what lies before its offset**,
and changes only the case of letters. Source: `DocumentBroker.cpp:3535-3545`. -/
theorem lowerLoop_tail (kw : List Char) : ∀ (fuel : Nat) (s : List Char) (o : Nat), 0 < o →
    ∃ t, lowerLoop kw fuel s o = .ok t ∧ t.take o = s.take o ∧
      t.map Char.toLower = s.map Char.toLower
  | 0, s, _, _ => ⟨s, rfl, rfl, rfl⟩
  | fuel + 1, s, o, ho => by
    rw [lowerLoop]
    cases hf : findMatch kw s o with
    | none => exact ⟨s, rfl, rfl, rfl⟩
    | some m =>
      obtain ⟨hom, hlen, hm⟩ := findMatch_some hf
      have next : ∀ s1 : List Char, s1.take o = s.take o →
          s1.map Char.toLower = s.map Char.toLower → ∃ t,
          lowerLoop kw fuel s1 (m + kw.length) = .ok t ∧ t.take o = s.take o ∧
          t.map Char.toLower = s.map Char.toLower := by
        intro s1 h1 h2
        obtain ⟨t, ht, htake, hmap⟩ := lowerLoop_tail kw fuel s1 (m + kw.length) (by omega)
        refine ⟨t, ht, ?_, hmap.trans h2⟩
        rw [← h1, ← Nat.min_eq_left (show o ≤ m + kw.length by omega), ← List.take_take, htake,
          List.take_take]
      simp only [if_neg (show m ≠ 0 by omega)]
      split_ifs
      · exact next _ (take_overwrite hom (by omega)) (map_toLower_overwrite hm)
      · exact next s rfl rfl

/-- INTERNAL: one round more than the string's length past the offset changes nothing. -/
theorem lowerLoop_succ {kw : List Char} (hkw : kw ≠ []) : ∀ (f : Nat) (s : List Char) (o : Nat),
    s.length + 1 - o ≤ f → lowerLoop kw (f + 1) s o = lowerLoop kw f s o
  | 0, s, o, h => by
    have : findMatch kw s o = none := by simp only [findMatch]; rw [if_neg (by omega)]
    simp [lowerLoop, this]
  | f + 1, s, o, h => by
    rw [lowerLoop, lowerLoop]
    cases hf : findMatch kw s o with
    | none => rfl
    | some m =>
      obtain ⟨hom, hlen, hm⟩ := findMatch_some hf
      have hk : 0 < kw.length := List.length_pos.mpr hkw
      simp only
      split_ifs
      · rfl
      · exact lowerLoop_succ hkw f _ _ (by rw [length_overwrite hlen]; omega)
      · exact lowerLoop_succ hkw f _ _ (by omega)

/-- **The fuel is enough**: from the fuel `keyword2Lower` gives, more rounds give the same
result, so the model's stop when the fuel is used up is never reached. -/
theorem lowerLoop_enough_fuel {kw : List Char} (hkw : kw ≠ []) (s : List Char) (o f : Nat)
    (h : s.length + 1 - o ≤ f) : ∀ k, lowerLoop kw (f + k) s o = lowerLoop kw f s o
  | 0 => rfl
  | k + 1 => by
    rw [← Nat.add_assoc, lowerLoop_succ hkw _ _ _ (by omega), lowerLoop_enough_fuel hkw s o f h k]

/-! ## `keyword2Lower` -/

/-- INTERNAL: the character before a non-empty prefix is its last one. -/
theorem getD_pred_length {p r : List Char} (hp : p ≠ []) (d : Char) :
    (p ++ r).getD (p.length - 1) d = p.getLast hp := by
  have hlt : p.length - 1 < p.length := Nat.sub_lt (List.length_pos.mpr hp) Nat.one_pos
  simp [List.getD_eq_getElem?_getD, List.getElem?_append_left hlt, List.getLast_eq_getElem,
    List.getElem?_eq_getElem hlt]

/-- INTERNAL: the character after a match is the first one of what follows, or the null. -/
theorem getD_after_match {p w q : List Char} {n : Nat} (hw : w.length = n) :
    (p ++ w ++ q).getD (p.length + n) nul = q.headD nul := by
  subst hw
  rw [List.getD_eq_getElem?_getD, List.append_assoc, List.getElem?_append_right (by simp),
    Nat.add_sub_cancel_left, List.getElem?_append_right (le_refl _), Nat.sub_self]
  cases q <;> simp

/-- **The first match of the keyword is lowered exactly when its neighbours are not double
quotes, wherever it stands.** Take a body `p ++ w ++ q` whose first match up to case is the word
`w`. When `p` is empty, the check of the character before the match reads `in[npos]`. Otherwise
`w` is written as the keyword when neither the last character of `p` nor the first of `q` is a
double quote, and is kept as it is when one of them is, whether the match stands in a string of
the body or not; the rest changes only in the case of letters. Source:
`DocumentBroker.cpp:3527-3547`. -/
theorem first_keyword_lowered_by_neighbours (kw : String) (p w q : List Char)
    (hw : w.map Char.toLower = kw.data.map Char.toLower)
    (hp : ∀ i < p.length, matchesAt kw.data ((p ++ w ++ q).drop i) = false) :
    (p = [] → keyword2Lower ⟨p ++ w ++ q⟩ kw = .error .undefinedBehaviour) ∧
    (p ≠ [] → ∃ t, keyword2Lower ⟨p ++ w ++ q⟩ kw =
        .ok ⟨p ++ (if p.getLast? ≠ some dquote ∧ q.head? ≠ some dquote then kw.data else w) ++ t⟩ ∧
      t.map Char.toLower = q.map Char.toLower) := by
  have hwl : w.length = kw.data.length := by simpa using congrArg List.length hw
  have hmatch : matchesAt kw.data ((p ++ w ++ q).drop p.length) = true := by
    simp [matchesAt, List.take_append_of_le_length, hwl, hw]
  have hfind : findMatch kw.data (p ++ w ++ q) 0 = some p.length := by
    rw [findMatch, if_pos (Nat.zero_le _), List.drop_zero, firstMatch_eq hp hmatch, Nat.zero_add]
  refine ⟨fun h => ?_, fun h => ?_⟩
  · subst h
    simp only [List.nil_append, List.length_nil] at hfind
    simp [keyword2Lower, lowerLoop, hfind]
  · have hcond : ((p ++ w ++ q).getD (p.length - 1) nul ≠ dquote ∧
        (p ++ w ++ q).getD (p.length + kw.data.length) nul ≠ dquote) ↔
        (p.getLast? ≠ some dquote ∧ q.head? ≠ some dquote) := by
      rw [List.append_assoc, getD_pred_length h, ← List.append_assoc, getD_after_match hwl,
        List.getLast?_eq_getLast p h]
      cases q <;> simp [nul, dquote]
    set x := if p.getLast? ≠ some dquote ∧ q.head? ≠ some dquote then kw.data else w with hx
    have hxl : x.length = kw.data.length := by rw [hx]; split_ifs <;> simp [hwl]
    have hs1 : (if p.getLast? ≠ some dquote ∧ q.head? ≠ some dquote then
        overwrite (p ++ w ++ q) p.length kw.data else p ++ w ++ q) = p ++ x ++ q := by
      rw [hx]; split_ifs
      exacts [overwrite_append hwl, rfl]
    obtain ⟨t', ht', htake, hmap⟩ := lowerLoop_tail kw.data (p ++ w ++ q).length (p ++ x ++ q)
      (p.length + kw.data.length) (by have := List.length_pos.mpr h; omega)
    have hpre : t'.take (p.length + kw.data.length) = p ++ x := by
      rw [htake, List.append_assoc, List.take_append_eq_append_take]
      simp [List.take_append_of_le_length, hxl]
    refine ⟨t'.drop (p.length + kw.data.length), ?_, ?_⟩
    · simp only [keyword2Lower, lowerLoop, hfind, if_neg (List.length_pos.mpr h).ne', hcond, hs1]
      rw [show String.length ⟨p ++ w ++ q⟩ = (p ++ w ++ q).length from rfl, ht', ← hpre,
        List.take_append_drop]
      rfl
    · rw [List.map_drop, hmap, ← List.map_drop]
      simp [hxl]

/-- The body `null` faults at its first character, and in the body `{"k":"It is TRUE here"}`
the keyword inside the string is written in lower case. -/
theorem keyword_at_start_or_inside_string :
    keyword2Lower "null" "null" = .error .undefinedBehaviour ∧
    ∃ t, keyword2Lower "\x7b\x22k\x22:\x22It is TRUE here\x22\x7d" "true" =
      .ok ⟨"\x7b\x22k\x22:\x22It is true".data ++ t⟩ := by
  refine ⟨(first_keyword_lowered_by_neighbours "null" [] "null".data [] rfl
    (fun _ h => absurd h (Nat.not_lt_zero _))).1 rfl, ?_⟩
  obtain ⟨t, h, -⟩ := (first_keyword_lowered_by_neighbours "true"
    "\x7b\x22k\x22:\x22It is ".data "TRUE".data " here\x22\x7d".data (by decide) (by decide)).2
    (by decide)
  exact ⟨t, h⟩

/-! ## The decoder's maps -/

@[simp] theorem GroupRows.lookup_set (g : GroupRows) (k k' : String) (rows : List FormRow) :
    (g.set k rows).lookup k' = if k' = k then some rows else g.lookup k' :=
  lookup_replaceOrAppend g k k' rows

/-- INTERNAL: a row a key was set in holds a key. -/
theorem FormRow.set_ne_nil (row : FormRow) (k v : String) : row.set k v ≠ [] := by
  unfold FormRow.set
  split_ifs with h
  · cases row with
    | nil => simp [List.lookup_cons] at h
    | cons _ _ => simp
  · simp

/-! ## Generic facts of a `foldlM` in `Except` -/

section Fold

variable {α β ε : Type} {f : α → β → Except ε α}

/-- INTERNAL: a fold whose every step succeeds succeeds. -/
theorem foldlM_ok_of_forall : ∀ {l : List β}, (∀ a, ∀ b ∈ l, ∃ a', f a b = .ok a') →
    ∀ a, ∃ a', l.foldlM f a = .ok a'
  | [], _, a => ⟨a, rfl⟩
  | b :: l, h, a => by
    obtain ⟨a1, h1⟩ := h a b (List.mem_cons_self b l)
    obtain ⟨a', h'⟩ := foldlM_ok_of_forall (fun a b hb => h a b (List.mem_cons_of_mem _ hb)) a1
    exact ⟨a', by simp [h1, h', bind, Except.bind]⟩

/-- INTERNAL: a property every successful step keeps holds after a successful fold. -/
theorem foldlM_keeps (Q : α → Prop) (hkeep : ∀ a b a', f a b = .ok a' → Q a → Q a') :
    ∀ {l : List β} {a a' : α}, l.foldlM f a = .ok a' → Q a → Q a'
  | [], a, a', h, hq => by cases h; exact hq
  | b :: l, a, a', h, hq => by
    simp only [List.foldlM_cons, bind, Except.bind] at h
    split at h
    · cases h
    · exact foldlM_keeps Q hkeep h (hkeep _ _ _ ‹_› hq)

/-- INTERNAL: a property every successful step keeps, and the step at `x` makes, holds after a
successful fold over a list holding `x`. -/
theorem foldlM_reaches (Q : α → Prop) (hkeep : ∀ a b a', f a b = .ok a' → Q a → Q a')
    {x : β} (hx : ∀ a a', f a x = .ok a' → Q a') :
    ∀ {l : List β} {a a' : α}, x ∈ l → l.foldlM f a = .ok a' → Q a'
  | b :: l, a, a', hmem, h => by
    simp only [List.foldlM_cons, bind, Except.bind] at h
    split at h
    · cases h
    · rename_i a1 h1
      rcases List.mem_cons.mp hmem with rfl | hl
      · exact foldlM_keeps Q hkeep h (hx _ _ h1)
      · exact foldlM_reaches Q hkeep hx hl h

/-- INTERNAL: every error of a fold is an error of one of its steps. -/
theorem foldlM_error (E : ε → Prop) (herr : ∀ a b e, f a b = .error e → E e) :
    ∀ {l : List β} {a : α} {e : ε}, l.foldlM f a = .error e → E e
  | [], _, _, h => by cases h
  | b :: l, a, e, h => by
    simp only [List.foldlM_cons, bind, Except.bind] at h
    split at h
    · cases h
      exact herr _ _ _ ‹_›
    · exact foldlM_error E herr h

end Fold

/-! ## `parseArray2Form` -/

/-- INTERNAL: a group's name holds no bracket, so it is a plain field's name. -/
theorem groupFieldParts_group {name g i k : String} (h : groupFieldParts name = some (g, i, k)) :
    groupFieldParts g = none := by
  unfold groupFieldParts at h
  split_ifs at h
  split at h
  · rename_i g' i' k' tail hsplit
    split_ifs at h
    simp only [Option.some.injEq, Prod.mk.injEq] at h
    obtain ⟨rfl, -, -⟩ := h
    have hg : ∀ c ∈ g', isBracket c = false :=
      not_sep_of_mem_splitOnP isBracket _ g' (by rw [hsplit]; simp)
    have hf : g'.filter isBracket = [] := List.filter_eq_nil_iff.mpr (by simpa using hg)
    simp [groupFieldParts, hf]
  · cases h

/-- INTERNAL: an index of `0` up to below `INT_MAX` is placed. -/
theorem placeRowValue_ok (rows : List FormRow) (n : Nat) (hn : n < 2147483647) (k v : String) :
    ∃ rows', placeRowValue rows n k v = .ok rows' := by
  have hmod : ((n : Int) + 1) % 4294967296 = n + 1 := Int.emod_eq_of_lt (by omega) (by omega)
  have hnat : ((n : Int) + 1).toNat = n + 1 := by omega
  unfold placeRowValue
  simp only [hmod, hnat, show (n : Int) ≠ 2147483647 by omega,
    show ¬((n : Int) + 1 < 0) by omega, if_false, pure_bind]
  split_ifs with h1 h2 h2
  · exact ⟨_, rfl⟩
  · simp only [List.length_append, List.length_replicate] at h2; omega
  · exact ⟨_, rfl⟩
  · omega

/-- INTERNAL: the rows a value was placed in hold a row with a key. -/
theorem placeRowValue_nonempty {rows rows' : List FormRow} {n : Int} {k v : String}
    (h : placeRowValue rows n k v = .ok rows') : ∃ r ∈ rows', r ≠ [] := by
  have hset : ∀ l : List FormRow, 0 ≤ n ∧ n < l.length →
      ∃ r ∈ l.set n.toNat ((l.getD n.toNat []).set k v), r ≠ [] := fun l hl =>
    ⟨_, List.mem_set l _ (by omega) _, FormRow.set_ne_nil _ _ _⟩
  unfold placeRowValue at h
  split_ifs at h <;> simp only [pure_bind] at h <;> try split_ifs at h with hin
  all_goals first
    | exact (Except.ok.inj h) ▸ hset _ hin
    | simp [bind, Except.bind, throw, throwThe, MonadExceptOf.throw] at h

/-- INTERNAL: what one field of the first loop does: a plain field is set as a string, a group
field's value is placed in its group's rows. -/
theorem addField_cases {acc acc' : JsonObject × GroupRows} {field : String × String}
    (h : addField acc field = .ok acc') :
    (groupFieldParts field.1 = none ∧ acc' = (acc.1.set field.1 (.str field.2), acc.2)) ∨
    (∃ g i k n rows, groupFieldParts field.1 = some (g, i, k) ∧ stoi i = .ok n ∧
      placeRowValue ((acc.2.lookup g).getD []) n k field.2 = .ok rows ∧
      acc' = (acc.1, acc.2.set g rows)) := by
  unfold addField at h
  split at h
  · cases h
    exact .inl ⟨‹_›, rfl⟩
  · rename_i g i k hparts
    simp only [bind, Except.bind] at h
    split at h
    · cases h
    · split at h
      · cases h
      · cases h
        exact .inr ⟨g, i, k, _, _, hparts, ‹_›, ‹_›, rfl⟩

/-- INTERNAL: a field whose index, if it has one, is below `INT_MAX` is taken. -/
theorem addField_ok (acc : JsonObject × GroupRows) (field : String × String)
    (hidx : ∀ g i k, groupFieldParts field.1 = some (g, i, k) →
      ∃ n : Nat, n < 2147483647 ∧ stoi i = .ok n) :
    ∃ acc', addField acc field = .ok acc' := by
  unfold addField
  split
  · exact ⟨_, rfl⟩
  · rename_i g i k hparts
    obtain ⟨n, hn, hs⟩ := hidx g i k hparts
    obtain ⟨rows, hr⟩ := placeRowValue_ok ((acc.2.lookup g).getD []) n hn k field.2
    exact ⟨(acc.1, acc.2.set g rows), by simp [hs, hr, bind, Except.bind]; rfl⟩

/-- INTERNAL: a row of the second loop fails only on the null array. -/
theorem addGroupRow_error {g : String} {o : JsonObject} {r : FormRow} {e : Fault}
    (h : addGroupRow g o r = .error e) : e = .raised "Null pointer" := by
  unfold addGroupRow at h
  dsimp only at h
  split_ifs at h
  all_goals (try split at h) <;> first | exact (Except.error.inj h).symm | cases h

/-- INTERNAL: a row of the second loop writes only its group's member. -/
theorem addGroupRow_lookup_ne {g k : String} {o o' : JsonObject} {r : FormRow}
    (h : addGroupRow g o r = .ok o') (hk : k ≠ g) : o'.lookup k = o.lookup k := by
  unfold addGroupRow at h
  dsimp only at h
  split_ifs at h
  all_goals (try split at h) <;> first | (obtain rfl := Except.ok.inj h; simp [hk]) | cases h

/-- INTERNAL: a group fails only on the null array, and writes only its own member. -/
theorem addGroup_spec {o : JsonObject} (grp : String × List FormRow) :
    (∀ e, addGroup o grp = .error e → e = .raised "Null pointer") ∧
    ∀ o' k, addGroup o grp = .ok o' → k ≠ grp.1 → o'.lookup k = o.lookup k :=
  ⟨fun _ => foldlM_error _ fun _ _ _ => addGroupRow_error,
    fun _ k h hk => foldlM_keeps (fun o' => o'.lookup k = o.lookup k)
      (fun _ _ _ hs hq => (addGroupRow_lookup_ne hs hk).trans hq) h rfl⟩

/-- INTERNAL: the rows of a group whose member is a string fail at the first row with a key. -/
theorem foldlM_addGroupRow_str {g v : String} {o : JsonObject} (ho : o.lookup g = some (.str v)) :
    ∀ {rows : List FormRow}, (∃ r ∈ rows, r ≠ []) →
      rows.foldlM (addGroupRow g) o = .error (.raised "Null pointer")
  | r :: rows, ⟨r', hr', hne⟩ => by
    rw [List.foldlM_cons]
    by_cases hr : r = []
    · subst hr
      have hmem : r' ∈ rows := (List.mem_cons.mp hr').resolve_left (by rintro rfl; exact hne rfl)
      exact foldlM_addGroupRow_str ho ⟨r', hmem, hne⟩
    · have hhas : o.has g = true := by simp [JsonObject.has, ho]
      simp [addGroupRow, hr, hhas, ho, bind, Except.bind]

/-- INTERNAL: the groups fail once a group with a row reaches a string member of its name. -/
theorem foldlM_addGroup_str {g v : String} :
    ∀ {L : GroupRows} {o : JsonObject}, (∃ rows, L.lookup g = some rows ∧ ∃ r ∈ rows, r ≠ []) →
      o.lookup g = some (.str v) → L.foldlM addGroup o = .error (.raised "Null pointer")
  | (h, rows) :: L, o, ⟨rows', hL, hne⟩, ho => by
    rw [List.foldlM_cons]
    by_cases hh : g = h
    · subst hh
      simp only [List.lookup_cons, beq_self_eq_true, Option.some.injEq] at hL
      subst hL
      show (addGroup o (g, rows) >>= _) = _
      rw [addGroup, foldlM_addGroupRow_str ho hne]
      rfl
    · have hL' : L.lookup g = some rows' := by
        simpa [List.lookup_cons, beq_eq_false_iff_ne.mpr hh] using hL
      cases hstep : addGroup o (h, rows) with
      | error e => rw [(addGroup_spec _).1 e hstep]; rfl
      | ok o' =>
        exact foldlM_addGroup_str ⟨rows', hL', hne⟩ (((addGroup_spec _).2 o' g hstep hh).trans ho)

/-- **A plain field named like a group makes `parseArray2Form` throw.** Take any form whose
group fields all have an index `stoi` reads as a number below `INT_MAX`, among them one of the
group `g`, and which also has a field named `g`. The first loop sets `g` as a string member;
the second finds the member there, does not make the array, and `getArray` gives null, which
`->add` dereferences. Source: `DocumentBroker.cpp:3550-3631`. -/
theorem plain_field_named_like_group (form : List (String × String))
    (hidx : ∀ f ∈ form, ∀ g i k, groupFieldParts f.1 = some (g, i, k) →
      ∃ n : Nat, n < 2147483647 ∧ stoi i = .ok n)
    (g : String) (hgrp : ∃ f ∈ form, ∃ i k, groupFieldParts f.1 = some (g, i, k))
    (hplain : ∃ v, (g, v) ∈ form) :
    parseArray2Form form = .error (.raised "Null pointer") := by
  obtain ⟨acc, hacc⟩ := foldlM_ok_of_forall (fun a f hf => addField_ok a f (hidx f hf)) ([], [])
  obtain ⟨f, hf, i, k, hparts⟩ := hgrp
  obtain ⟨v, hv⟩ := hplain
  have hplainName : groupFieldParts g = none := groupFieldParts_group hparts
  -- the member `g` is a string from the plain field on
  have hstr : ∃ x, acc.1.lookup g = some (.str x) := by
    refine foldlM_reaches (fun a => ∃ x, a.1.lookup g = some (.str x)) ?_ ?_ hv hacc
    · intro a b a' hs ⟨x, hx⟩
      rcases addField_cases hs with ⟨-, rfl⟩ | ⟨_, _, _, _, _, -, -, -, rfl⟩
      · by_cases hb : g = b.1 <;> simp [hb, hx]
      · exact ⟨x, hx⟩
    · intro a a' hs
      rcases addField_cases hs with ⟨-, rfl⟩ | ⟨_, _, _, _, _, hp, -⟩
      · simp
      · simp [hplainName] at hp
  -- the group `g` has a row with a key from its first field on
  have hrow : ∃ rows, acc.2.lookup g = some rows ∧ ∃ r ∈ rows, r ≠ [] := by
    refine foldlM_reaches (fun a => ∃ rows, a.2.lookup g = some rows ∧ ∃ r ∈ rows, r ≠ [])
      ?_ ?_ hf hacc
    · intro a b a' hs hq
      rcases addField_cases hs with ⟨-, rfl⟩ | ⟨h, _, _, _, rows, -, -, hr, rfl⟩
      · exact hq
      · by_cases hh : g = h
        · exact ⟨rows, by simp [hh], placeRowValue_nonempty hr⟩
        · simpa [hh] using hq
    · intro a a' hs
      rcases addField_cases hs with ⟨hp, -⟩ | ⟨h, _, _, _, rows, hp, -, hr, rfl⟩
      · simp [hparts] at hp
      · rw [hparts] at hp
        obtain ⟨rfl, -, -⟩ := Prod.mk.inj_iff.mp (Option.some.inj hp)
        exact ⟨rows, by simp, placeRowValue_nonempty hr⟩
  obtain ⟨x, hx⟩ := hstr
  simp only [parseArray2Form, hacc, bind, Except.bind]
  exact foldlM_addGroup_str hrow hx

/-- The form with a field `g` and a field `g[0][k]` throws. -/
theorem plain_and_group_field_named_g :
    parseArray2Form [("g", "x"), ("g[0][k]", "y")] = .error (.raised "Null pointer") := by
  refine plain_field_named_like_group _ ?_ "g" ⟨("g[0][k]", "y"), by simp, "0", "k", by decide⟩
    ⟨"x", by simp⟩
  intro f hf g i k h
  simp only [List.mem_cons, List.mem_singleton, List.not_mem_nil, or_false] at hf
  rcases hf with rfl | rfl
  · rw [show groupFieldParts "g" = none by decide] at h
    cases h
  · rw [show groupFieldParts "g[0][k]" = some ("g", "0", "k") by decide] at h
    cases h
    exact ⟨0, by decide, rfl⟩

/-- Without a plain field of its name, a group's rows come out in the order of their indices,
the unused index dropped. -/
example : parseArray2Form [("g[2][k]", "a"), ("g[0][k]", "b")] =
    .ok [("g", .array [.object [("k", .str "b")], .object [("k", .str "a")]])] := rfl

end Loolwsd.Analysis
