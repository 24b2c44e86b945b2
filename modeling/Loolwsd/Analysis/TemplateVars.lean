import Loolwsd.Model.TemplateVars

/-!
# The cells of a group in the API description

The loop over a group row's variables writes each name's entry once, at its first occurrence,
and a comma after it unless the variable is the row's last one. The comma is decided by the
index among all the row's variables, repeated names included, so when the last variable
repeats an earlier name, no entry stands at the last index and the last entry written keeps its
comma: the cells are the comma-join of the entries with one comma more
(`group_cells_trailing_comma`). `jjsonVars` tests `(i+1) != childLen` where `jsonVars` tests
`(i+1) < childLen`; below `childLen` the two agree, and so do the cells
(`jsonVarsCells_eq_jjsonVarsCells`).
-/

set_option autoImplicit false

namespace Loolwsd.Analysis

open Loolwsd.Model

/-! ## The comma-join the cells are compared with -/

/-- The variables a group's cells describe: the first one of each name, in the row's order,
after the names `seen`. -/
def firstOfEachName : List String → List (String × String) → List (String × String)
  | _, [] => []
  | seen, p :: ps =>
    if p.1 ∈ seen then firstOfEachName seen ps else p :: firstOfEachName (seen ++ [p.1]) ps

/-- Whether the row's last variable repeats the name of an earlier one. -/
def lastRepeats (named : List (String × String)) : Bool :=
  match named.getLast? with
  | some p => decide (p.1 ∈ named.dropLast.map Prod.fst)
  | none => false

/-- INTERNAL: whether the last variable of `named` is the first of its name after `seen`. -/
def lastIsNew (seen : List String) (named : List (String × String)) : Bool :=
  match named.getLast? with
  | some p => decide (p.1 ∉ seen ++ named.dropLast.map Prod.fst)
  | none => false

/-- INTERNAL: a variable whose name was seen does not change whether the last one is new. -/
theorem lastIsNew_cons_of_mem {seen : List String} {p : String × String}
    {ps : List (String × String)} (h : p.1 ∈ seen) : lastIsNew seen (p :: ps) = lastIsNew seen ps := by
  cases ps with
  | nil => simp [lastIsNew, h]
  | cons q qs =>
    simp only [lastIsNew, List.getLast?_cons_cons, List.dropLast_cons₂, List.map_cons]
    split
    · rename_i x _
      by_cases hx : x.1 ∈ seen
      · simp [hx]
      · have hne : x.1 ≠ p.1 := fun e => hx (e ▸ h)
        simp [hx, hne]
    · rfl

/-- INTERNAL: a first variable before others is one more name seen. -/
theorem lastIsNew_cons {seen : List String} {p : String × String} {ps : List (String × String)}
    (hps : ps ≠ []) : lastIsNew seen (p :: ps) = lastIsNew (seen ++ [p.1]) ps := by
  obtain ⟨q, qs, rfl⟩ := List.exists_cons_of_ne_nil hps
  simp [lastIsNew, List.getLast?_cons_cons, List.dropLast_cons₂, or_assoc]

/-- INTERNAL: for a non-empty row, the last variable repeats a name exactly when it is not
new. -/
theorem lastRepeats_eq {named : List (String × String)} (h : named ≠ []) :
    lastRepeats named = !lastIsNew [] named := by
  obtain ⟨p, hp⟩ := Option.isSome_iff_exists.mp (List.getLast?_isSome.mpr h)
  simp [lastRepeats, lastIsNew, hp]

/-- INTERNAL: entries each followed by a separator are their join with one separator more. -/
theorem intercalate_append_sep (s : String) :
    ∀ (e : String) (es : List String),
      String.intercalate s (e :: es) ++ s = ((e :: es).map (· ++ s)).foldr (· ++ ·) "" := by
  have go : ∀ (es : List String) (acc : String),
      String.intercalate.go acc s es ++ s = acc ++ s ++ (es.map (· ++ s)).foldr (· ++ ·) "" := by
    intro es
    induction es with
    | nil => simp [String.intercalate.go]
    | cons a es ih => intro acc; simp [String.intercalate.go, ih, String.append_assoc]
  intro e es
  simp [String.intercalate, go, String.append_assoc]

/-! ## The loop -/

/-- INTERNAL: `mapM` in `Except` succeeds on a cons when the head's and the tail's do. -/
theorem mapM_cons_ok {α β ε : Type} {f : α → Except ε β} {a : α} {l : List α} {r : List β}
    (h : (a :: l).mapM f = .ok r) : ∃ b bs, f a = .ok b ∧ l.mapM f = .ok bs ∧ r = b :: bs := by
  rw [List.mapM_cons] at h
  cases hf : f a <;> cases hl : l.mapM f <;> simp_all [bind, Except.bind, pure, Except.pure]

/-- INTERNAL: two separator tests that agree on the loop's indices give the same cells. -/
theorem groupCellsLoop_congr (t : DocType) (parseJsonVar : String → String → Except Fault String)
    {s1 s2 : Nat → Bool} : ∀ (vars : List (String × String)) (i : Nat) (seen : List String)
    (cells : String), (∀ j, i ≤ j → j < i + vars.length → s1 j = s2 j) →
    groupCellsLoop t parseJsonVar s1 i seen vars cells =
      groupCellsLoop t parseJsonVar s2 i seen vars cells
  | [], _, _, _, _ => rfl
  | (text, vardata) :: rest, i, seen, cells, h => by
    have ih := fun seen cells => groupCellsLoop_congr t parseJsonVar rest (i + 1) seen cells
      (fun j h1 h2 => h j (by omega) (by simp only [List.length_cons] at *; omega))
    simp only [groupCellsLoop, h i le_rfl (by simp), ih]

/-- **The cells, for every row whose names are read**: the loop from the variable `i` with the
names `seen` appends `S` to the cells, where `S`, with a comma added when the row's last
variable is new, is each new variable's entry followed by a comma. -/
theorem groupCellsLoop_spec (t : DocType) (parseJsonVar : String → String → Except Fault String)
    (ent : String × String → String) (n : Nat) :
    ∀ (vars named : List (String × String)) (i : Nat) (seen : List String) (cells : String),
    vars.mapM (fun v => (t.dataKey v.1).map fun name => (name, v.2)) = .ok named →
    (∀ p ∈ named, parseJsonVar p.1 p.2 = .ok (ent p)) → i + vars.length = n →
    ∃ S, groupCellsLoop t parseJsonVar (fun j => j + 1 < n) i seen vars cells = .ok (cells ++ S) ∧
      S ++ (if lastIsNew seen named then "," else "") =
        ((firstOfEachName seen named).map fun p => ent p ++ ",").foldr (· ++ ·) ""
  | [], named, _, seen, cells, hn, _, _ => by
    cases hn
    exact ⟨"", by simp [groupCellsLoop], by simp [lastIsNew, firstOfEachName]⟩
  | (text, vardata) :: vs, named, i, seen, cells, hn, hent, hlen => by
    obtain ⟨p, ps, hp, hps, rfl⟩ := mapM_cons_ok hn
    obtain ⟨name, hd, rfl⟩ : ∃ name, t.dataKey text = .ok name ∧ p = (name, vardata) := by
      cases hd : t.dataKey text <;> simp_all [Except.map]
    have hent' : ∀ q ∈ ps, parseJsonVar q.1 q.2 = .ok (ent q) :=
      fun q hq => hent q (List.mem_cons_of_mem _ hq)
    simp only [List.length_cons] at hlen
    by_cases hmem : name ∈ seen
    · obtain ⟨S, hS, hSeq⟩ := groupCellsLoop_spec t parseJsonVar ent n vs ps (i + 1) seen cells
        hps hent' (by omega)
      refine ⟨S, ?_, ?_⟩
      · simpa [groupCellsLoop, hd, hmem, bind, Except.bind] using hS
      · simpa [firstOfEachName, hmem, lastIsNew_cons_of_mem (p := (name, vardata)) hmem]
          using hSeq
    · have he := hent (name, vardata) (List.mem_cons_self _ _)
      obtain ⟨S, hS, hSeq⟩ := groupCellsLoop_spec t parseJsonVar ent n vs ps (i + 1)
        (seen ++ [name]) (cells ++ ent (name, vardata) ++ if i + 1 < n then "," else "")
        hps hent' (by omega)
      refine ⟨ent (name, vardata) ++ (if i + 1 < n then "," else "") ++ S, ?_, ?_⟩
      · simp only [groupCellsLoop, hd, hmem, he, bind, Except.bind, if_false]
        simpa [String.append_assoc] using hS
      · simp only [firstOfEachName, hmem, if_false, List.map_cons, List.foldr_cons]
        cases vs with
        | nil =>
          cases hps
          simp only [List.length_nil, Nat.zero_add] at hlen
          have hS0 : S = "" := by simpa [lastIsNew, firstOfEachName] using hSeq
          simp [hS0, lastIsNew, firstOfEachName, hmem, show ¬(i + 1 < n) by omega]
        | cons v vs =>
          obtain ⟨q, qs, -, -, rfl⟩ := mapM_cons_ok hps
          rw [lastIsNew_cons (List.cons_ne_nil q qs), if_pos (show i + 1 < n by
            simp only [List.length_cons] at hlen; omega), ← hSeq]
          simp [String.append_assoc]

/-- **`jjsonVars`' test `(i+1) != childLen` gives the cells of `jsonVars`' `(i+1) < childLen`**:
the loop's indices stay below `childLen`, where the two tests agree. -/
theorem jsonVarsCells_eq_jjsonVarsCells (t : DocType)
    (parseJsonVar : String → String → Except Fault String) (vars : List (String × String)) :
    jjsonVarsCells t parseJsonVar vars = jsonVarsCells t parseJsonVar vars :=
  groupCellsLoop_congr t parseJsonVar vars 0 [] "" fun j _ hj => by
    simp only [Nat.zero_add] at hj
    exact decide_eq_decide.mpr ⟨fun _ => by omega, fun _ => by omega⟩

/-- **The cells of a group are the comma-join of its names' entries, with a trailing comma when
the row's last variable repeats a name.** For every row whose variables' names are read, every
entry function, and the entries it gives the row's variables, the cells `jsonVars` and
`jjsonVars` build are the entries of the first variable of each name, in the row's order,
joined by commas, followed by one more comma exactly when the row's last variable has the name
of an earlier one. Source: `DocumentBroker.cpp:2497-2516`, `2578-2594`. -/
theorem group_cells_trailing_comma (t : DocType)
    (parseJsonVar : String → String → Except Fault String) (vars named : List (String × String))
    (ent : String × String → String)
    (hnames : vars.mapM (fun v => (t.dataKey v.1).map fun name => (name, v.2)) = .ok named)
    (hent : ∀ p ∈ named, parseJsonVar p.1 p.2 = .ok (ent p)) :
    jsonVarsCells t parseJsonVar vars = .ok (String.intercalate "," ((firstOfEachName [] named).map ent)
      ++ if lastRepeats named then "," else "") ∧
    jjsonVarsCells t parseJsonVar vars = .ok (String.intercalate ","
      ((firstOfEachName [] named).map ent) ++ if lastRepeats named then "," else "") := by
  rw [jsonVarsCells_eq_jjsonVarsCells, and_self]
  obtain ⟨S, hS, hSeq⟩ :=
    groupCellsLoop_spec t parseJsonVar ent vars.length vars named 0 [] "" hnames hent (Nat.zero_add _)
  rw [jsonVarsCells, hS, String.empty_append]
  cases named with
  | nil => simpa [lastIsNew, lastRepeats, firstOfEachName] using hSeq
  | cons p ps =>
    simp only [firstOfEachName, List.not_mem_nil, if_false, List.map_cons] at hSeq ⊢
    have hI : String.intercalate "," (ent p :: (firstOfEachName [p.1] ps).map ent) ++ "," =
        ((ent p ++ ",") :: (firstOfEachName [p.1] ps).map fun p => ent p ++ ",").foldr (· ++ ·) "" := by
      rw [intercalate_append_sep]
      simp [Function.comp_def]
    simp only [List.nil_append] at hSeq ⊢
    rw [← hI] at hSeq
    rw [lastRepeats_eq (List.cons_ne_nil p ps)]
    cases hnew : lastIsNew [] (p :: ps)
    · simpa [hnew] using hSeq
    · simp only [hnew, if_true, Bool.not_true, Bool.false_eq_true, if_false,
        String.append_empty] at hSeq ⊢
      exact congrArg _ (String.ext (by simpa using congrArg String.data hSeq))

/-- The row `a`, `b`, `a` gets the cells `a,b,` from the entry function that gives each name
itself. -/
theorem repeated_last_name_cells :
    jsonVarsCells .spreadsheet (fun name _ => .ok name) [("a", ""), ("b", ""), ("a", "")] =
      .ok "a,b," ∧
    jjsonVarsCells .spreadsheet (fun name _ => .ok name) [("a", ""), ("b", ""), ("a", "")] =
      .ok "a,b," := by
  obtain ⟨h1, h2⟩ := group_cells_trailing_comma .spreadsheet (fun name _ => .ok name)
    [("a", ""), ("b", ""), ("a", "")] [("a", ""), ("b", ""), ("a", "")] Prod.fst rfl
    (fun _ _ => rfl)
  exact ⟨h1.trans rfl, h2.trans rfl⟩

end Loolwsd.Analysis
