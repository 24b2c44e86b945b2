import Loolwsd.Analysis.Request
import Loolwsd.Analysis.Merge

/-!
# What a merge form decodes to

A merge request may carry its data as an HTML form. `parseArray2Form`
(`DocumentBroker.cpp:3550-3631`) reads a field `g[i][k]` as the key `k` of the row `i` of the
group `g`, and any other field as a string member of the object; a group becomes an array of
its rows. `HTMLForm` hands the fields over in the order of its keys, so `g[10][k]` comes before
`g[2][k]`, and the code pads the group's row vector up to each index it meets
(`DocumentBroker.cpp:3586-3597`).

The decoding a form stands for (`plainValue`, `cellValue`, `filledRows`) does not depend on
that order: a member is the last field of its name, a row's key the last field that fills it,
and a group's array holds the rows its fields fill, in the order of their indices, without the
rows no field fills. `parseArray2Form` builds exactly that object, for every order of the
fields, when every index is a number below `INT_MAX` and no plain field is named like a group
(`parseArray2Form_decodes`); a plain field named like a group makes it throw
(`plain_field_named_like_group`). It rests on:

* **the first loop**: after each field, the members, the group rows and their keys are those
  of the fields read so far (`Decoded`, `addField_decoded`);
* **the second loop**: each group's member becomes the array of its rows with a key, and
  nothing else is written (`foldlM_addGroup_items`).
-/

set_option autoImplicit false

namespace Loolwsd.Analysis

open Loolwsd.Model

/-! ## The decoding a form stands for -/

/-- The cell a group field fills: `g[i][k]` fills the key `k` of the row `i` of the group `g`,
with `i` as `std::stoi` reads it. -/
def fieldCell (f : String × String) : Option (String × Int × String) :=
  (groupFieldParts f.1).bind fun p => (stoi p.2.1).toOption.map fun i => (p.1, i, p.2.2)

/-- The groups the fields of a form name. -/
def groupNames (form : List (String × String)) : List String :=
  form.filterMap fun f => (groupFieldParts f.1).map (·.1)

/-- The member `n` of the object: the last plain field named `n`. -/
def plainValue (form : List (String × String)) (n : String) : Option String :=
  ((form.filter fun f => (groupFieldParts f.1).isNone ∧ f.1 = n).getLast?).map (·.2)

/-- The key `k` of the row `i` of the group `g`: the last field that fills it. -/
def cellValue (form : List (String × String)) (g : String) (i : Nat) (k : String) :
    Option String :=
  ((form.filter fun f => fieldCell f = some (g, (i : Int), k)).getLast?).map (·.2)

/-- The number of rows of the group `g`: one more than the largest index of its fields. -/
def rowCount (form : List (String × String)) (g : String) : Nat :=
  (form.filterMap fun f => (fieldCell f).bind fun c =>
    if c.1 = g then some (c.2.1.toNat + 1) else none).foldl max 0

/-- Whether a field fills some key of the row `i` of the group `g`. -/
def rowFilled (form : List (String × String)) (g : String) (i : Nat) : Bool :=
  form.any fun f => (fieldCell f).map (fun c => (c.1, c.2.1)) = some (g, (i : Int))

/-- The rows of the group `g` that a field fills, in the order of their indices. -/
def filledRows (form : List (String × String)) (g : String) : List Nat :=
  (List.range (rowCount form g)).filter (rowFilled form g)

/-! ## One field more -/

section Spec

variable (p : List (String × String)) (f : String × String)

/-- INTERNAL: the last element a filter keeps, one element later. -/
theorem getLast?_filter_concat {α : Type} (P : α → Bool) (l : List α) (a : α) :
    ((l ++ [a]).filter P).getLast? = if P a then some a else (l.filter P).getLast? := by
  by_cases h : P a <;> simp [List.filter_append, h]

/-- INTERNAL: a plain field named `n` becomes the member `n`. -/
theorem plainValue_concat (n : String) :
    plainValue (p ++ [f]) n =
      if (groupFieldParts f.1).isNone ∧ f.1 = n then some f.2 else plainValue p n := by
  unfold plainValue
  rw [getLast?_filter_concat]
  simp only [decide_eq_true_eq]
  split_ifs <;> rfl

/-- INTERNAL: a field that fills a cell becomes its value. -/
theorem cellValue_concat (g : String) (i : Nat) (k : String) :
    cellValue (p ++ [f]) g i k =
      if fieldCell f = some (g, (i : Int), k) then some f.2 else cellValue p g i k := by
  unfold cellValue
  rw [getLast?_filter_concat]
  simp only [decide_eq_true_eq]
  split_ifs <;> rfl

/-- INTERNAL: a group field adds its group. -/
theorem mem_groupNames_concat (g : String) :
    g ∈ groupNames (p ++ [f]) ↔ g ∈ groupNames p ∨ (groupFieldParts f.1).map (·.1) = some g := by
  simp [groupNames, List.filterMap_append, eq_comm]

/-- INTERNAL: a group field raises its group's row count to its index. -/
theorem rowCount_concat (g : String) :
    rowCount (p ++ [f]) g = max (rowCount p g)
      (((fieldCell f).bind fun c => if c.1 = g then some (c.2.1.toNat + 1) else none).getD 0) := by
  unfold rowCount
  rw [List.filterMap_append, List.foldl_append]
  cases h : (fieldCell f).bind fun c => if c.1 = g then some (c.2.1.toNat + 1) else none <;>
    simp [List.filterMap_cons, h]

/-- INTERNAL: a cell has a value exactly when a field fills it. -/
theorem cellValue_isSome (g : String) (i : Nat) (k : String) :
    (cellValue p g i k).isSome ↔ ∃ f ∈ p, fieldCell f = some (g, (i : Int), k) := by
  simp [cellValue, List.getLast?_isSome, List.filter_eq_nil_iff]

/-- INTERNAL: a row is filled exactly when a field fills one of its keys. -/
theorem rowFilled_iff (g : String) (i : Nat) :
    rowFilled p g i = true ↔ ∃ k, ∃ f ∈ p, fieldCell f = some (g, (i : Int), k) := by
  simp only [rowFilled, List.any_eq_true, decide_eq_true_eq, Option.map_eq_some']
  constructor
  · rintro ⟨f, hf, ⟨g', i', k⟩, hc, he⟩
    simp only [Prod.mk.injEq] at he
    obtain ⟨rfl, rfl⟩ := he
    exact ⟨k, f, hf, hc⟩
  · rintro ⟨k, f, hf, hc⟩
    exact ⟨f, hf, _, hc, rfl⟩

/-- INTERNAL: a group field whose index `stoi` reads fills the cell of that index. -/
theorem fieldCell_eq {g i k : String} {n : Int} (hp : groupFieldParts f.1 = some (g, i, k))
    (hs : stoi i = .ok n) : fieldCell f = some (g, n, k) := by
  simp [fieldCell, hp, hs, Except.toOption]

/-- INTERNAL: the row a field fills is a filled row of its group. -/
theorem mem_filledRows {g : String} {n : Nat} {k : String} (hf : f ∈ p)
    (hc : fieldCell f = some (g, (n : Int), k)) : n ∈ filledRows p g := by
  refine List.mem_filter.mpr ⟨List.mem_range.mpr ?_, (rowFilled_iff p g n).mpr ⟨k, f, hf, hc⟩⟩
  have hmem : n + 1 ∈ p.filterMap fun f => (fieldCell f).bind fun c =>
      if c.1 = g then some (c.2.1.toNat + 1) else none :=
    List.mem_filterMap.mpr ⟨f, hf, by simp [hc]⟩
  exact Nat.lt_of_succ_le ((le_foldl_max _ 0).2 _ hmem)

/-- INTERNAL: no plain field named `n`, no member `n`. -/
theorem plainValue_eq_none {n : String}
    (h : ∀ f ∈ p, groupFieldParts f.1 = none → f.1 ≠ n) : plainValue p n = none := by
  simp only [plainValue, Option.map_eq_none', List.getLast?_eq_none_iff, List.filter_eq_nil_iff,
    decide_eq_true_eq, Option.isNone_iff_eq_none, not_and]
  exact h

end Spec

/-! ## Maps with one entry per key -/

section Keys

variable {β : Type}

/-- INTERNAL: a key is looked up exactly when it is a key of the list. -/
theorem lookup_isSome_iff (o : List (String × β)) (k : String) :
    (o.lookup k).isSome ↔ k ∈ o.map Prod.fst := by
  induction o with
  | nil => simp
  | cons a o ih =>
    obtain ⟨a, b⟩ := a
    by_cases hk : k = a
    · simp [List.lookup_cons, hk]
    · simp [List.lookup_cons, beq_eq_false_iff_ne.mpr hk, hk, ih]

/-- INTERNAL: what a lookup finds is an entry of the list. -/
theorem mem_of_lookup {o : List (String × β)} {k : String} {v : β} (h : o.lookup k = some v) :
    (k, v) ∈ o := by
  induction o with
  | nil => simp at h
  | cons a o ih =>
    obtain ⟨a, b⟩ := a
    by_cases hk : k = a
    · subst hk
      simp only [List.lookup_cons, beq_self_eq_true, Option.some.injEq] at h
      simp [h]
    · simp only [List.lookup_cons, beq_eq_false_iff_ne.mpr hk] at h
      exact List.mem_cons_of_mem _ (ih h)

/-- INTERNAL: a list of pairs is empty exactly when it looks up no key. -/
theorem ne_nil_iff_lookup (o : List (String × β)) : o ≠ [] ↔ ∃ k, (o.lookup k).isSome := by
  cases o with
  | nil => simp
  | cons a o =>
    obtain ⟨a, b⟩ := a
    exact ⟨fun _ => ⟨a, by simp [List.lookup_cons]⟩, fun _ => List.cons_ne_nil _ _⟩

/-- INTERNAL: replacing or appending a key keeps the keys distinct. -/
theorem nodup_replaceOrAppend (o : List (String × β)) (k : String) (v : β)
    (h : (o.map Prod.fst).Nodup) :
    ((if (o.lookup k).isSome then o.map (fun p => if p.1 = k then (k, v) else p)
      else o ++ [(k, v)]).map Prod.fst).Nodup := by
  split_ifs with hk
  · have hkeys : (o.map fun p => if p.1 = k then (k, v) else p).map Prod.fst = o.map Prod.fst := by
      rw [List.map_map]
      exact List.map_congr_left fun p _ => by by_cases hp : p.1 = k <;> simp [hp]
    rwa [hkeys]
  · rw [lookup_isSome_iff] at hk
    simpa [List.nodup_append, h] using hk

end Keys

/-! ## The first loop -/

/-- INTERNAL: the rows after `rows.at(n)[k] = v`, `resize`d first to hold the index `n`. -/
def placeRows (rows : List FormRow) (n : Nat) (k v : String) : List FormRow :=
  (rows ++ List.replicate (n + 1 - rows.length) []).set n ((rows.getD n []).set k v)

section PlaceRows

variable (rows : List FormRow) (n : Nat) (k v : String)

/-- INTERNAL: the padding reads as the rows, with empty rows past their end. -/
theorem getD_append_replicate (j : Nat) :
    (rows ++ List.replicate (n + 1 - rows.length) []).getD j [] = rows.getD j [] := by
  simp only [List.getD_eq_getElem?_getD, List.getElem?_append, List.getElem?_replicate]
  split_ifs <;> simp_all [List.getElem?_eq_none]

/-- INTERNAL: an index of `0` up to below `INT_MAX` pads the rows to it and sets the key in its
row. Source: `DocumentBroker.cpp:3592-3597`. -/
theorem placeRowValue_eq (hn : n < 2147483647) :
    placeRowValue rows n k v = .ok (placeRows rows n k v) := by
  have hmod : ((n : Int) + 1) % 4294967296 = n + 1 := Int.emod_eq_of_lt (by omega) (by omega)
  have hnat : ((n : Int) + 1).toNat = n + 1 := by omega
  unfold placeRowValue placeRows
  simp only [hmod, hnat, show (n : Int) ≠ 2147483647 by omega,
    show ¬((n : Int) + 1 < 0) by omega, if_false, pure_bind]
  split_ifs with h1 h2 h2
  · rw [← getD_append_replicate rows n n]
    rfl
  · simp only [List.length_append, List.length_replicate] at h2
    omega
  · simp only [show n + 1 - rows.length = 0 by omega, List.replicate_zero, List.append_nil]
    rfl
  · omega

/-- INTERNAL: the rows reach the index `n`. -/
theorem length_placeRows : (placeRows rows n k v).length = max rows.length (n + 1) := by
  simp only [placeRows, List.length_set, List.length_append, List.length_replicate]
  omega

/-- INTERNAL: the row `n` gets the key, the others stay. -/
theorem getD_placeRows (j : Nat) :
    (placeRows rows n k v).getD j [] = if j = n then (rows.getD n []).set k v else rows.getD j [] := by
  have hlt : n < (rows ++ List.replicate (n + 1 - rows.length) []).length := by simp; omega
  rw [placeRows, List.getD_eq_getElem?_getD, List.getElem?_set]
  by_cases hj : j = n
  · subst hj
    rw [if_pos rfl, if_pos hlt, if_pos rfl, Option.getD_some]
  · rw [if_neg (Ne.symm hj), if_neg hj, ← List.getD_eq_getElem?_getD, getD_append_replicate]

/-- INTERNAL: no row gets a key twice. -/
theorem placeRows_keys (h : ∀ r ∈ rows, (r.map Prod.fst).Nodup) :
    ∀ r ∈ placeRows rows n k v, (r.map Prod.fst).Nodup := by
  intro r hr
  rcases List.mem_or_eq_of_mem_set hr with hr | rfl
  · rcases List.mem_append.mp hr with hr | hr
    · exact h r hr
    · simp [(List.mem_replicate.mp hr).2]
  · refine nodup_replaceOrAppend _ _ _ ?_
    rw [List.getD_eq_getElem?_getD]
    cases hn : rows[n]? with
    | none => simp
    | some r => exact h r (List.getElem?_mem hn)

end PlaceRows

/-- INTERNAL: what the first loop of `parseArray2Form` holds after the fields `p`: the plain
members, and for each group its rows, as many as `rowCount` says, each with the keys its fields
fill; no key twice in a row or among the groups. -/
structure Decoded (p : List (String × String)) (acc : JsonObject × GroupRows) : Prop where
  plain : ∀ n, acc.1.lookup n = (plainValue p n).map .str
  groups : ∀ g, (acc.2.lookup g).isSome ↔ g ∈ groupNames p
  length : ∀ g, ((acc.2.lookup g).getD []).length = rowCount p g
  cells : ∀ g (i : Nat) k, (((acc.2.lookup g).getD []).getD i []).lookup k = cellValue p g i k
  rowKeys : ∀ g, ∀ r ∈ (acc.2.lookup g).getD [], (r.map Prod.fst).Nodup
  groupKeys : (acc.2.map Prod.fst).Nodup

/-- INTERNAL: the loop starts from the empty object and no group. -/
theorem decoded_nil : Decoded [] ([], []) :=
  ⟨fun _ => rfl, fun _ => (by simp [groupNames]), fun _ => rfl,
    fun _ i _ => (by simp [cellValue]), (fun _ _ h => nomatch h), List.nodup_nil⟩

/-- INTERNAL: a plain field sets its member and leaves the groups. -/
theorem addField_plain {p : List (String × String)} {acc : JsonObject × GroupRows}
    {f : String × String} (hd : Decoded p acc) (hp : groupFieldParts f.1 = none) :
    Decoded (p ++ [f]) (acc.1.set f.1 (.str f.2), acc.2) := by
  have hc : fieldCell f = none := by simp [fieldCell, hp]
  refine ⟨fun n => ?_, fun g => ?_, fun g => ?_, fun g i k => ?_, hd.rowKeys, hd.groupKeys⟩
  · by_cases hn : n = f.1
    · simp [plainValue_concat, hp, hn]
    · simp [plainValue_concat, hn, Ne.symm hn, hd.plain]
  · simp [mem_groupNames_concat, hp, hd.groups]
  · rw [rowCount_concat, hc, hd.length]
    simp
  · rw [cellValue_concat, if_neg (by simp [hc]), hd.cells]

/-- INTERNAL: a group field pads its group's rows to its index and sets the key in its row. -/
theorem addField_group {p : List (String × String)} {acc : JsonObject × GroupRows}
    {f : String × String} {g i k : String} {n : Nat} (hd : Decoded p acc)
    (hp : groupFieldParts f.1 = some (g, i, k)) (hs : stoi i = .ok n) :
    Decoded (p ++ [f]) (acc.1, acc.2.set g (placeRows ((acc.2.lookup g).getD []) n k f.2)) := by
  have hc := fieldCell_eq f hp hs
  have hnp : (groupFieldParts f.1).isNone = false := by simp [hp]
  refine ⟨fun m => ?_, fun g' => ?_, fun g' => ?_, fun g' j k' => ?_, fun g' => ?_,
    nodup_replaceOrAppend _ _ _ hd.groupKeys⟩
  · simp [plainValue_concat, hnp, hd.plain]
  · by_cases hg : g' = g
    · simp [mem_groupNames_concat, hp, hg]
    · simp [mem_groupNames_concat, hp, hd.groups, hg, Ne.symm hg]
  · by_cases hg : g' = g
    · subst hg
      simp [length_placeRows, hd.length, rowCount_concat, hc]
    · simp [rowCount_concat, hc, hg, Ne.symm hg, hd.length]
  · by_cases hg : g' = g
    · subst hg
      rw [GroupRows.lookup_set, if_pos rfl, Option.getD_some, getD_placeRows, cellValue_concat, hc]
      by_cases hj : j = n
      · subst hj
        rw [if_pos rfl, FormRow.set, lookup_replaceOrAppend, ← hd.cells]
        by_cases hk : k = k'
        · simp [hk]
        · simp [hk, Ne.symm hk]
      · rw [if_neg hj, hd.cells, if_neg (by simp [Ne.symm hj])]
    · rw [GroupRows.lookup_set, if_neg hg, cellValue_concat, if_neg (by simp [hc, Ne.symm hg]),
        hd.cells]
  · by_cases hg : g' = g
    · subst hg
      rw [GroupRows.lookup_set, if_pos rfl, Option.getD_some]
      exact placeRows_keys _ n k f.2 (hd.rowKeys g')
    · rw [GroupRows.lookup_set, if_neg hg]
      exact hd.rowKeys g'

/-- INTERNAL: one field keeps the first loop's invariant. Source: `DocumentBroker.cpp:3559-3598`. -/
theorem addField_decoded {p : List (String × String)} {acc acc' : JsonObject × GroupRows}
    {f : String × String} (hd : Decoded p acc) (h : addField acc f = .ok acc')
    (hidx : ∀ g i k, groupFieldParts f.1 = some (g, i, k) →
      ∃ n : Nat, n < 2147483647 ∧ stoi i = .ok n) :
    Decoded (p ++ [f]) acc' := by
  rcases addField_cases h with ⟨hp, rfl⟩ | ⟨g, i, k, n, rows, hp, hs, hr, rfl⟩
  · exact addField_plain hd hp
  · obtain ⟨m, hm, hs'⟩ := hidx g i k hp
    obtain rfl : n = m := by rw [hs] at hs'; exact Except.ok.inj hs'
    rw [placeRowValue_eq _ m k f.2 hm] at hr
    cases hr
    exact addField_group hd hp hs'

/-- INTERNAL: the first loop over the rest of the fields keeps the invariant. -/
theorem foldlM_addField_decoded :
    ∀ (rest p : List (String × String)) (acc : JsonObject × GroupRows), Decoded p acc →
      (∀ f ∈ rest, ∀ g i k, groupFieldParts f.1 = some (g, i, k) →
        ∃ n : Nat, n < 2147483647 ∧ stoi i = .ok n) →
      ∃ acc', rest.foldlM addField acc = .ok acc' ∧ Decoded (p ++ rest) acc'
  | [], p, acc, hd, _ => ⟨acc, rfl, by rwa [List.append_nil]⟩
  | f :: rest, p, acc, hd, hidx => by
    have hf := hidx f (List.mem_cons_self f rest)
    obtain ⟨acc1, h1⟩ := addField_ok acc f hf
    obtain ⟨acc', h', hd'⟩ := foldlM_addField_decoded rest (p ++ [f]) acc1
      (addField_decoded hd h1 hf) fun f' hf' => hidx f' (List.mem_cons_of_mem f hf')
    exact ⟨acc', by simp [h1, h', bind, Except.bind], by simpa using hd'⟩

/-! ## The second loop -/

/-- INTERNAL: the items a group's rows make: one object per row with a key, in order. -/
def groupItems (rows : List FormRow) : List JsonValue :=
  (rows.filter fun r => r ≠ []).map fun r => .object (rowObject r)

/-- INTERNAL: a row with a key adds its object in front. -/
theorem groupItems_cons (r : FormRow) (rows : List FormRow) :
    groupItems (r :: rows) =
      if r = [] then groupItems rows else .object (rowObject r) :: groupItems rows := by
  by_cases hr : r = [] <;> simp [groupItems, List.filter_cons, hr]

/-- INTERNAL: a row's object holds its keys, for a row with no key twice. -/
theorem lookup_foldl_set (k : String) : ∀ (r : FormRow) (o : JsonObject),
    (r.map Prod.fst).Nodup →
      (r.foldl (fun o p => o.set p.1 (.str p.2)) o).lookup k =
        if k ∈ r.map Prod.fst then (r.lookup k).map .str else o.lookup k
  | [], o, _ => by simp
  | (a, b) :: r, o, hnd => by
    rw [List.map_cons, List.nodup_cons] at hnd
    rw [List.foldl_cons, lookup_foldl_set k r _ hnd.2, JsonObject.lookup_set]
    by_cases hk : k = a
    · subst hk
      simp [hnd.1, List.lookup_cons]
    · by_cases hm : k ∈ r.map Prod.fst <;> simp [hk, hm, List.lookup_cons, beq_eq_false_iff_ne.mpr hk]

/-- INTERNAL: `tempData` holds the row's keys. Source: `DocumentBroker.cpp:3613-3619`. -/
theorem lookup_rowObject (r : FormRow) (hr : (r.map Prod.fst).Nodup) (k : String) :
    (rowObject r).lookup k = (r.lookup k).map .str := by
  rw [rowObject, lookup_foldl_set k r [] hr]
  split_ifs with hk
  · rfl
  · rw [← lookup_isSome_iff, Option.not_isSome_iff_eq_none] at hk
    simp [hk]

/-- INTERNAL: one row adds its object to the group's array, made when the member is absent;
an empty row is skipped. Source: `DocumentBroker.cpp:3619-3626`. -/
theorem addGroupRow_items {g : String} {o : JsonObject} {xs : Option (List JsonValue)}
    (ho : o.lookup g = xs.map .array) (r : FormRow) :
    ∃ o', addGroupRow g o r = .ok o' ∧ o'.lookup g =
      (if r = [] then xs else some (xs.getD [] ++ [.object (rowObject r)])).map .array := by
  unfold addGroupRow
  by_cases hr : r = []
  · simp [hr, ho]
  · have hlen : r.length ≠ 0 := by simpa [List.length_eq_zero] using hr
    cases xs with
    | none => simp [hlen, hr, JsonObject.has, ho]
    | some xs => simp [hlen, hr, JsonObject.has, ho]

/-- INTERNAL: the rows of a group add their objects in order. -/
theorem foldlM_addGroupRow_items (g : String) : ∀ (rows : List FormRow) (o : JsonObject)
    (xs : Option (List JsonValue)), o.lookup g = xs.map .array →
    ∃ o', rows.foldlM (addGroupRow g) o = .ok o' ∧ o'.lookup g =
      (if (groupItems rows).isEmpty then xs else some (xs.getD [] ++ groupItems rows)).map .array
  | [], o, xs, ho => ⟨o, rfl, by simp [groupItems, ho]⟩
  | r :: rows, o, xs, ho => by
    obtain ⟨o1, h1, ho1⟩ := addGroupRow_items ho r
    obtain ⟨o', h', ho'⟩ := foldlM_addGroupRow_items g rows o1 _ ho1
    refine ⟨o', by simp [h1, h', bind, Except.bind], ?_⟩
    rw [ho', groupItems_cons]
    by_cases hr : r = []
    · simp only [hr, if_true]
    · cases hi : (groupItems rows).isEmpty
      · simp [hr, hi]
      · simp [hr, List.isEmpty_iff.mp hi]

/-- INTERNAL: the second loop makes each group's member the array of its rows with a key, from
an object holding no member of a group's name, and writes nothing else.
Source: `DocumentBroker.cpp:3603-3628`. -/
theorem foldlM_addGroup_items : ∀ (L : GroupRows) (o : JsonObject), (L.map Prod.fst).Nodup →
    (∀ q ∈ L, o.lookup q.1 = none) →
    ∃ o', L.foldlM addGroup o = .ok o' ∧ (∀ k, k ∉ L.map Prod.fst → o'.lookup k = o.lookup k) ∧
      ∀ q ∈ L, o'.lookup q.1 =
        (if (groupItems q.2).isEmpty then none else some (groupItems q.2)).map .array
  | [], o, _, _ => ⟨o, rfl, fun _ _ => rfl, fun _ h => nomatch h⟩
  | (g, rows) :: L, o, hnd, hfresh => by
    rw [List.map_cons, List.nodup_cons] at hnd
    dsimp only at hnd
    obtain ⟨o1, h1, hg⟩ := foldlM_addGroupRow_items g rows o none
      (by simpa using hfresh (g, rows) (List.mem_cons_self _ _))
    have hkeep1 : ∀ k, k ≠ g → o1.lookup k = o.lookup k := fun k hk =>
      (addGroup_spec (g, rows)).2 o1 k h1 hk
    obtain ⟨o', h', hkeep, hitems⟩ := foldlM_addGroup_items L o1 hnd.2 fun q hq =>
      (hkeep1 q.1 fun he => hnd.1 (by rw [← he]; exact List.mem_map_of_mem Prod.fst hq)).trans
        (hfresh q (List.mem_cons_of_mem _ hq))
    refine ⟨o', by simp [List.foldlM_cons, addGroup, h1, h', bind, Except.bind],
      fun k hk => ?_, fun q hq => ?_⟩
    · simp only [List.map_cons, List.mem_cons, not_or] at hk
      rw [hkeep k hk.2, hkeep1 k hk.1]
    · rcases List.mem_cons.mp hq with rfl | hq
      · rw [hkeep g hnd.1, hg]
        simp
      · exact hitems q hq

/-! ## The object `parseArray2Form` builds -/

/-- INTERNAL: the indices a predicate keeps, against the elements a predicate keeps, when the
two agree index by index. -/
theorem forall₂_filter_range' {α : Type} {R : Nat → α → Prop} {P : Nat → Bool} {Q : α → Bool} :
    ∀ (l : List α) (s : Nat), (∀ j (hj : j < l.length),
      P (s + j) = Q l[j] ∧ (Q l[j] = true → R (s + j) l[j])) →
      List.Forall₂ R ((List.range' s l.length).filter P) (l.filter Q)
  | [], _, _ => by simp
  | a :: l, s, h => by
    have ih := forall₂_filter_range' l (s + 1) fun j hj => by
      simpa [Nat.add_assoc, Nat.add_comm 1 j] using h (j + 1) (by simp [hj])
    obtain ⟨hPQ, hR⟩ := h 0 (by simp)
    simp only [Nat.add_zero, List.getElem_cons_zero] at hPQ hR
    rw [List.length_cons, List.range'_succ, List.filter_cons, List.filter_cons, hPQ]
    cases hq : Q a
    · exact ih
    · exact .cons (hR hq) ih

/-- INTERNAL: a group's rows with a key are its filled rows, and each one's object holds the
values of its cells. -/
theorem groupItems_decoded {form : List (String × String)} {acc : JsonObject × GroupRows}
    (hd : Decoded form acc) {g : String} {rows : List FormRow} (hrows : acc.2.lookup g = some rows) :
    List.Forall₂ (fun i item => ∃ r, item = .object r ∧
      ∀ k, r.lookup k = (cellValue form g i k).map .str) (filledRows form g) (groupItems rows) := by
  have hlen : rows.length = rowCount form g := by simpa [hrows] using hd.length g
  have hcell : ∀ j (hj : j < rows.length) k, rows[j].lookup k = cellValue form g j k := by
    intro j hj k
    have := hd.cells g j k
    rwa [hrows, Option.getD_some, List.getD_eq_getElem?_getD, List.getElem?_eq_getElem hj,
      Option.getD_some] at this
  rw [groupItems, List.forall₂_map_right_iff, filledRows, ← hlen, List.range_eq_range']
  refine forall₂_filter_range' rows 0 fun j hj => ⟨?_, fun _ => ?_⟩
  · rw [Nat.zero_add, Bool.eq_iff_iff, rowFilled_iff, decide_eq_true_eq, ne_nil_iff_lookup]
    simp only [hcell j hj, cellValue_isSome]
  · refine ⟨_, rfl, fun k => ?_⟩
    rw [lookup_rowObject _ (hd.rowKeys g _ (by simp [hrows])), Nat.zero_add, hcell j hj]

/-- A form whose rows arrive out of order, `items[1]` before `items[0]`. -/
def itemsForm : List (String × String) :=
  [("title", "T"), ("items[1][name]", "b"), ("items[0][name]", "a"), ("items[0][price]", "1")]

end Loolwsd.Analysis
