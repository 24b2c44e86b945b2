import Loolwsd.Analysis.Merge

/-!
# The values a merge writes

`setSingleVar` (`DocumentBroker.cpp:3036-3302`) writes two computed values into the template:
an `enum` or `boolean` variable's value translated through its `Items` list
(`parseEnumValue`), and a statistic's formula over the rows of its group.

* `parseEnumValue` trusts `isNumber` to say when `std::stoi` can read a value, but the two
  disagree: a point followed by digits passes `isNumber` and makes `std::stoi` throw, and a
  value of blanks only makes `isNumber` read past the string (`enum_value_not_parsed`). The
  boolean translation returns the first or the second item and never throws when there are two
  (`parseEnumValue_boolean`).
* `isNumber` itself reads `s[npos]` on a string of blanks only, and on every other string it
  returns whether the string is blanks, a sign, a run of digits and points with at least one
  digit and at most one point, and blanks (`isNumber_decides_shape`).
* A statistic's formula runs from the anchor row `r` to the row `r + n - 1`, where `n` is the
  length of its group's array (`statistic_range_rows`). A spreadsheet reads a range from its
  smaller end to its larger one, so with an empty array the formula covers the two rows `r - 1`
  and `r`, not none.
* Before it fills a group's first copy, `setGroupVar` writes into the group's first item, for
  each variable of the row, the request's top-level value of the variable's name. In a
  spreadsheet that is the key the copy is filled from, so a top-level value wins over the
  item's own (`first_item_takes_top_level`); in a text document the key written keeps the
  variable's angle brackets and is never read.
-/

set_option autoImplicit false

namespace Loolwsd.Analysis

open Loolwsd.Model

/-! ## `isNumber` and `std::stoi` -/

/-- INTERNAL: a point followed by digits, as many as an `int` counts, is a number to
`isNumber`. Source: `DocumentBroker.cpp:1867-1891`. -/
theorem isNumber_point_digits (ds : List Char) (hne : ds ≠ []) (hlen : ds.length ≤ 2147483647)
    (hd : ∀ c ∈ ds, c.isDigit) : isNumber ⟨'.' :: ds⟩ = .ok true := by
  have hb : ('.' :: ds).takeWhile (fun c => c.isDigit || c = '.') = '.' :: ds :=
    List.takeWhile_eq_self_iff.mpr (by simp_all)
  have hr : ('.' :: ds).dropWhile (fun c => c.isDigit || c = '.') = [] :=
    List.dropWhile_eq_nil_iff.mpr (by simp_all)
  have hc : ds.count '.' = 0 := List.count_eq_zero.mpr fun h => by simpa using hd _ h
  have hl : 1 ≤ ds.length := List.length_pos.mpr hne
  simp [isNumber, significand, hb, hr, hc, Nat.not_lt.mpr hlen, hl]

/-- INTERNAL: `std::stoi` finds no digit at a point. -/
theorem stoi_point (ds : List Char) : stoi ⟨'.' :: ds⟩ = .error (.raised "stoi") := by
  simp [stoi, isSpace]

/-- INTERNAL: a value of blanks only makes `isNumber` index the string at `npos`. -/
theorem isNumber_blanks (n : Nat) :
    isNumber ⟨List.replicate n ' '⟩ = .error .undefinedBehaviour := by
  have : (List.replicate n ' ').dropWhile (· = ' ') = [] :=
    List.dropWhile_eq_nil_iff.mpr fun c hc => by simp [List.eq_of_mem_replicate hc]
  simp [isNumber, this]

/-- **`isNumber` accepts values `std::stoi` cannot read.** For every `Items` list of an `enum`
variable: a point followed by digits, such as `.5`, passes `isNumber`, and `std::stoi` then
throws `invalid_argument`; a value of blanks only, the empty value included, makes `isNumber`
read `s[npos]`. Source: `DocumentBroker.cpp:2335-2358`, `DocumentBroker.cpp:1867-1891`. -/
theorem enum_value_not_parsed (enumvar : String) :
    (∀ ds : List Char, ds ≠ [] → ds.length ≤ 2147483647 → (∀ c ∈ ds, c.isDigit) →
      parseEnumValue "enum" enumvar ⟨'.' :: ds⟩ = .error (.raised "stoi")) ∧
    ∀ n, parseEnumValue "enum" enumvar ⟨List.replicate n ' '⟩ = .error .undefinedBehaviour := by
  refine ⟨fun ds hne hlen hd => ?_, fun n => ?_⟩
  · simp [parseEnumValue, isNumber_point_digits ds hne hlen hd, stoi_point, bind, Except.bind]
  · simp [parseEnumValue, isNumber_blanks, bind, Except.bind]

/-- The value `.5` of an `enum` variable with the items `a,b`. -/
theorem enum_value_not_parsed_point_five :
    ['5'] ≠ [] ∧ ['5'].length ≤ 2147483647 ∧ (∀ c ∈ ['5'], c.isDigit) ∧
      parseEnumValue "enum" "a,b" ⟨['.', '5']⟩ = .error (.raised "stoi") :=
  ⟨by decide, by decide, by decide,
    (enum_value_not_parsed "a,b").1 ['5'] (by decide) (by decide) (by decide)⟩

/- `isNumber` and `std::stoi` both read `INT_MIN`, and the index `std::stoi(value)-1` then
overflows. -/
example : parseEnumValue "enum" "a,b" "-2147483648" = .error .undefinedBehaviour := rfl

/-- **The boolean translation** picks the first item when the value is `1`, `true` or `yes`
(case aside) and the second otherwise, and never throws while there are two items.
Source: `DocumentBroker.cpp:2349-2356`. -/
theorem parseEnumValue_boolean (enumvar value : String) (a b : String) (rest : List String)
    (h : splitTokens ',' ⟨enumvar.data.filter (· ≠ Char.ofNat 34)⟩ = a :: b :: rest) :
    parseEnumValue "boolean" enumvar value =
      .ok (if value = "1" || icompareEq value "true" || icompareEq value "yes" then a else b) := by
  simp only [parseEnumValue, h, show ("boolean" : String) ≠ "enum" by decide, if_false,
    if_true, pure_bind]
  split <;> rfl

/-! ## The grammar `isNumber` decides -/

/-- The grammar of a number: ` *[+-]?[0-9.]* *`, whose middle part holds at least one digit and
at most one point. -/
def NumberShape (s : List Char) : Prop :=
  ∃ (a b : Nat) (sign m : List Char),
    s = List.replicate a ' ' ++ sign ++ m ++ List.replicate b ' ' ∧
    (sign = [] ∨ sign = ['+'] ∨ sign = ['-']) ∧ (∀ c ∈ m, c.isDigit = true ∨ c = '.') ∧
    (∃ c ∈ m, c.isDigit = true) ∧ m.count '.' ≤ 1

/-- INTERNAL: the same grammar from the character after the sign. -/
def SignificandShape (cs : List Char) : Prop :=
  ∃ (b : Nat) (m : List Char), cs = m ++ List.replicate b ' ' ∧
    (∀ c ∈ m, c.isDigit = true ∨ c = '.') ∧ (∃ c ∈ m, c.isDigit = true) ∧ m.count '.' ≤ 1

section Significand

variable {m : List Char} (k : Nat) (hm : ∀ c ∈ m, c.isDigit = true ∨ c = '.')
include hm

/-- INTERNAL: the run of digits and points ends where the blanks begin. -/
theorem takeWhile_run :
    (m ++ List.replicate k ' ').takeWhile (fun c => c.isDigit || c = '.') = m := by
  rw [List.takeWhile_append_of_pos (by simpa using hm), List.takeWhile_replicate]
  simp

/-- INTERNAL: what follows the run is the blanks. -/
theorem dropWhile_run :
    (m ++ List.replicate k ' ').dropWhile (fun c => c.isDigit || c = '.') =
      List.replicate k ' ' := by
  rw [List.dropWhile_append_of_pos (by simpa using hm), List.dropWhile_replicate]
  simp

end Significand

/-- INTERNAL: a run holding a digit holds fewer points than characters. -/
theorem count_point_lt {m : List Char} {d : Char} (hd : d ∈ m) (hdig : d.isDigit = true) :
    m.count '.' < m.length := by
  refine lt_of_le_of_ne (List.count_le_length _ _) fun he => ?_
  have := List.count_eq_length.mp he d hd
  subst this
  exact absurd hdig (by decide)

/-- INTERNAL: what the significand check returns is whether the rest has the grammar's shape. -/
theorem significand_ok {cs : List Char} {b : Bool} (h : significand cs = .ok b) :
    b = true ↔ SignificandShape cs := by
  unfold significand at h
  dsimp only at h
  split_ifs at h
  obtain rfl := Except.ok.inj h
  constructor
  · intro hb
    simp only [Bool.and_eq_true, decide_eq_true_eq, List.isEmpty_iff,
      List.dropWhile_eq_nil_iff] at hb
    obtain ⟨⟨hpt, hnm⟩, hbl⟩ := hb
    set body := cs.takeWhile fun c => c.isDigit || c = '.'
    have hrun : ∀ c ∈ body, c.isDigit = true ∨ c = '.' := fun c hc => by
      simpa using List.mem_takeWhile_imp hc
    refine ⟨(cs.dropWhile fun c => c.isDigit || c = '.').length, body, ?_, hrun, ?_, hpt⟩
    · -- what follows the run is blanks only
      conv_lhs => rw [← List.takeWhile_append_dropWhile (fun c => c.isDigit || c = '.') cs]
      exact congrArg _ (List.eq_replicate_iff.mpr ⟨rfl, by simpa using hbl⟩)
    · -- one character of the run is not a point
      by_contra hno
      push_neg at hno
      have hall : body.count '.' = body.length := List.count_eq_length.mpr fun c hc =>
        ((hrun c hc).resolve_left (by simpa using hno c hc)).symm
      omega
  · rintro ⟨k, m, rfl, hm, ⟨d, hd, hdig⟩, hpt⟩
    have hlt := count_point_lt hd hdig
    simp only [takeWhile_run k hm, dropWhile_run k hm, List.dropWhile_replicate]
    simp [hpt]
    omega

/-- INTERNAL: blanks before a character that is not one are what `find_first_not_of` skips. -/
theorem dropWhile_blanks (a : Nat) {c : Char} (hc : c ≠ ' ') (rest : List Char) :
    (List.replicate a ' ' ++ c :: rest).dropWhile (· = ' ') = c :: rest := by
  rw [List.dropWhile_append_of_pos (by simp), List.dropWhile_cons_of_neg (by simpa using hc)]

/-- INTERNAL: a string that is not blanks only is blanks, then the first character `isNumber`
reads. -/
theorem eq_blanks_append {s rest : List Char} {c : Char} (h : s.dropWhile (· = ' ') = c :: rest) :
    s = List.replicate (s.takeWhile (· = ' ')).length ' ' ++ c :: rest ∧ c ≠ ' ' := by
  have hc : c ≠ ' ' := by
    have := List.head_dropWhile_not (· = ' ') s (by simp [h])
    simp only [h, List.head_cons, decide_eq_false_iff_not] at this
    exact this
  refine ⟨?_, hc⟩
  conv_lhs => rw [← List.takeWhile_append_dropWhile (· = ' ') s, h]
  congr 1
  exact List.eq_replicate_iff.mpr ⟨rfl, fun b hb => by simpa using List.mem_takeWhile_imp hb⟩

/-- INTERNAL: past the blanks, the grammar is the sign and the significand. -/
theorem numberShape_iff (a : Nat) {c : Char} (hc : c ≠ ' ') (rest : List Char) :
    NumberShape (List.replicate a ' ' ++ c :: rest) ↔
      SignificandShape (if c = '+' ∨ c = '-' then rest else c :: rest) := by
  constructor
  · rintro ⟨a', k, sign, m, heq, hsign, hm, ⟨d, hd, hdig⟩, hpt⟩
    have hshape : SignificandShape (m ++ List.replicate k ' ') := ⟨k, m, rfl, hm, ⟨d, hd, hdig⟩, hpt⟩
    have hdrop := congrArg (List.dropWhile (· = ' ')) heq
    rw [dropWhile_blanks a hc] at hdrop
    simp only [List.append_assoc] at hdrop hshape
    rcases hsign with rfl | rfl | rfl
    · -- no sign: the significand starts with a digit or a point
      obtain ⟨x, m', rfl⟩ := List.exists_cons_of_ne_nil (List.ne_nil_of_mem hd)
      have hxs : x ≠ ' ' ∧ ¬(x = '+' ∨ x = '-') := by
        rcases hm x (List.mem_cons_self _ _) with hx | rfl
        · exact ⟨by rintro rfl; exact absurd hx (by decide),
            by rintro (rfl | rfl) <;> exact absurd hx (by decide)⟩
        · decide
      rw [List.nil_append, List.cons_append, dropWhile_blanks a' hxs.1] at hdrop
      obtain ⟨rfl, rfl⟩ := List.cons.inj hdrop
      rwa [if_neg hxs.2, ← List.cons_append]
    all_goals
      rw [List.singleton_append, dropWhile_blanks a' (by decide)] at hdrop
      obtain ⟨rfl, rfl⟩ := List.cons.inj hdrop
      simpa using hshape
  · rintro ⟨k, m, hcs, hm, hdig, hpt⟩
    split_ifs at hcs with hsign
    · refine ⟨a, k, [c], m, by simp [hcs], ?_, hm, hdig, hpt⟩
      rcases hsign with rfl | rfl <;> simp
    · exact ⟨a, k, [], m, by simp [← hcs], .inl rfl, hm, hdig, hpt⟩

/-- INTERNAL: what `isNumber` returns is whether the string has the grammar's shape. -/
theorem isNumber_ok {s : String} {b : Bool} (h : isNumber s = .ok b) :
    b = true ↔ NumberShape s.data := by
  unfold isNumber at h
  split at h
  · cases h
  · rename_i c rest hd
    obtain ⟨hs, hc⟩ := eq_blanks_append hd
    rw [hs, numberShape_iff _ hc]
    exact significand_ok h

/-- INTERNAL: the significand check returns on a rest of at most `INT_MAX` characters. -/
theorem significand_returns {cs : List Char} (h : cs.length ≤ 2147483647) :
    ∃ b, significand cs = .ok b := by
  have hb : (cs.takeWhile fun c : Char => c.isDigit || c = '.').length ≤ cs.length :=
    (List.takeWhile_sublist _).length_le
  have hc := List.count_le_length '.' (cs.takeWhile fun c : Char => c.isDigit || c = '.')
  simp only [significand]
  rw [if_neg (by omega)]
  exact ⟨_, rfl⟩

/-- **`isNumber` indexes `s[npos]` on blanks, and otherwise decides the grammar of a number.**
On a string of blanks only, the empty one included, `find_first_not_of(' ')` gives `npos` and
the code reads `s[npos]`. On any other string of at most `INT_MAX` characters it returns, and
whenever it returns, it returns whether the string is blanks, an optional sign, a run of digits
and points with at least one digit and at most one point, and blanks. Source:
`DocumentBroker.cpp:1867-1891`. -/
theorem isNumber_decides_shape (s : String) :
    ((∀ c ∈ s.data, c = ' ') → isNumber s = .error .undefinedBehaviour) ∧
    ((∃ c ∈ s.data, c ≠ ' ') → s.data.length ≤ 2147483647 → ∃ b, isNumber s = .ok b) ∧
    ∀ b, isNumber s = .ok b → (b = true ↔ NumberShape s.data) := by
  refine ⟨fun h => ?_, fun ⟨c, hc, hne⟩ hlen => ?_, fun _ => isNumber_ok⟩
  · have : s.data.dropWhile (· = ' ') = [] := List.dropWhile_eq_nil_iff.mpr (by simpa using h)
    simp [isNumber, this]
  · cases hd : s.data.dropWhile (· = ' ') with
    | nil => exact absurd (List.dropWhile_eq_nil_iff.mp hd c hc) (by simpa using hne)
    | cons c' rest =>
      have hlen' : (c' :: rest).length ≤ s.data.length := hd ▸ (List.dropWhile_suffix _).length_le
      simp only [isNumber, hd]
      exact significand_returns (by split_ifs <;> simp only [List.length_cons] at hlen' ⊢ <;> omega)

/-- The empty string and three blanks make `isNumber` read `s[npos]`; ` -1.5 ` is a number. -/
theorem isNumber_empty_blanks_signed :
    ((∀ c ∈ "".data, c = ' ') ∧ isNumber "" = .error .undefinedBehaviour) ∧
    ((∀ c ∈ "   ".data, c = ' ') ∧ isNumber "   " = .error .undefinedBehaviour) ∧
    NumberShape " -1.5 ".data :=
  ⟨⟨by decide, (isNumber_decides_shape "").1 (by decide)⟩,
    ⟨by decide, (isNumber_decides_shape "   ").1 (by decide)⟩,
    ((isNumber_decides_shape " -1.5 ").2.2 true rfl).mp rfl⟩

/-! ## A statistic's formula -/

section Statistic

variable {α : Type} {s s' : MergeState}

/-- INTERNAL: a call with a given outcome returns what it was given. -/
theorem fromExcept_ok {r : Except Fault α} {a : α} (h : fromExcept r s = .ok a s') : r = .ok a := by
  cases r <;> simp_all [fromExcept]

/-- INTERNAL: a value read from the request's object. -/
theorem valueOf_ok {obj : Option JsonObject} {k : String} {v : Option JsonValue}
    (h : valueOf obj k s = .ok v s') : ∃ o, obj = some o ∧ o.get k = v := by
  cases obj <;> simp_all [valueOf]

/-- INTERNAL: `tokens[0]` and `tokens[1]` both exist. -/
theorem tokenAt_zero_one {ts : List String} {a b : String} (h0 : tokenAt ts 0 = .ok a)
    (h1 : tokenAt ts 1 = .ok b) : ∃ rest, ts = a :: b :: rest := by
  rcases ts with _ | ⟨x, _ | ⟨y, rest⟩⟩ <;> simp_all [tokenAt]

end Statistic

/-- The cell a statistic's cell becomes (`DocumentBroker.cpp:3145-3167`): a new
`table:table-cell` of float value with the formula `of:=<method>([.<col><row>:.<col><last>])`. -/
def statisticCell (id : Nat) (method col rowNo : String) (last : Int) : XmlNode :=
  ((XmlNode.element id "table:table-cell" [] .nil .nil).setAttribute "table:formula"
      ("of:=" ++ methodName method ++ "([." ++ col ++ rowNo ++ ":." ++ col ++ toString last ++
        "])")
    |>.setAttribute "office:value-type" "float") |>.setAttribute "calcext:value-type" "float"

example : (statisticCell 4 "SUM" "A" "5" 4).getAttribute "table:formula" =
    "of:=SUM([.A5:.A4])" := rfl

/-- The rows a range between the rows `r` and `t` of one column covers: a spreadsheet reads a
range from its smaller end to its larger one. -/
def rangeRows (r t : Int) : List Int :=
  (List.range ((r - t).natAbs + 1)).map fun k => min r t + k

/-- INTERNAL: the range from `r` to `r + n - 1` covers the `n` rows from `r`, and the two rows
`r - 1` and `r` when `n = 0`. -/
theorem rangeRows_group (r : Int) (n : Nat) :
    rangeRows r (r + n - 1) =
      if n = 0 then [r - 1, r] else (List.range n).map fun k => r + k := by
  cases n with
  | zero =>
    have : min r (r - 1) = r - 1 := min_eq_right (by omega)
    simp [rangeRows, this, List.range_succ]
  | succ m =>
    have e1 : (r - (r + ↑(m + 1) - 1)).natAbs = m := by omega
    have e2 : min r (r + ↑(m + 1) - 1) = r := min_eq_left (by omega)
    simp only [rangeRows, e1, e2, Nat.add_one_ne_zero, if_false]

/-- **A statistic's formula runs over as many rows as its group has items, and over two rows
when there are none.** When `setSingleVar` handles a statistic variable, it has read its group
`g` from the descriptor and the request's object `o`. When `o` holds an array of `n` items at
`g`, the variable's cell is replaced by a formula cell whose range starts at the anchor cell
`<col><r>` of its `column` descriptor `<sheet>.$<col>$<r>` and ends at row `r + n - 1`: that
range covers the `n` rows from `r`, and for an empty array the rows `r - 1` and `r`. When `o`
holds no array at `g`, the variable is removed. Source: `DocumentBroker.cpp:3109-3170`. -/
theorem statistic_range_rows {obj : Option JsonObject} {elm : Nat} {vardata : String}
    {s s' : MergeState} (h : setStatisticVar obj elm vardata s = .ok () s') :
    ∃ o g, obj = some o ∧ varKeyValue vardata "groupname" = .ok g ∧
      (∀ items, o.get g = some (.array items) →
        ∃ method column cell col rowNo rest r pCell,
          varKeyValue vardata "method" = .ok method ∧ varKeyValue vardata "column" = .ok column ∧
          tokenAt (splitTokens '.' column) 1 = .ok cell ∧
          splitTokens '$' cell = col :: rowNo :: rest ∧ stoi rowNo = .ok r ∧
          s'.dom.doc = s.dom.doc.edit pCell
            (fun _ => statisticCell s.dom.nextId method col rowNo (r + items.length - 1)) ∧
          rangeRows r (r + items.length - 1) =
            if items.length = 0 then [r - 1, r] else (List.range items.length).map fun k => r + k) ∧
      ((∀ items, o.get g ≠ some (.array items)) →
        s'.dom.doc = s.dom.doc.edit elm (fun _ => .nil)) := by
  obtain ⟨g, hg, h⟩ := (reads_fromExcept _).bind_ok h
  obtain ⟨column, hc, h⟩ := (reads_fromExcept _).bind_ok h
  obtain ⟨method, hm, h⟩ := (reads_fromExcept _).bind_ok h
  obtain ⟨_, -, h⟩ := (reads_fromExcept _).bind_ok h
  obtain ⟨cell, hcell, h⟩ := (reads_fromExcept _).bind_ok h
  obtain ⟨col, hcol, h⟩ := (reads_fromExcept _).bind_ok h
  obtain ⟨rowNo, hrow, h⟩ := (reads_fromExcept _).bind_ok h
  obtain ⟨v, hv, h⟩ := (reads_valueOf obj _).bind_ok h
  obtain ⟨o, hobj, ho⟩ := valueOf_ok hv
  refine ⟨o, g, hobj, fromExcept_ok hg, fun items hi => ?array, fun hn => ?other⟩
  case array =>
    rw [← ho, hi] at h
    obtain ⟨_, s1, h1, h⟩ := bind_ok h
    rw [createElement_eq] at h1
    cases h1
    obtain ⟨r, hr, h⟩ := (reads_fromExcept _).bind_ok h
    obtain ⟨p, -, h⟩ := (reads_placeOf elm).bind_ok h
    obtain ⟨pCell, -, h⟩ := (reads_upElement p 1).bind_ok h
    obtain ⟨rest, hrest⟩ := tokenAt_zero_one (fromExcept_ok hcol) (fromExcept_ok hrow)
    exact ⟨method, column, cell, col, rowNo, rest, r, pCell, fromExcept_ok hm, fromExcept_ok hc,
      fromExcept_ok hcell, hrest, fromExcept_ok hr, (replaceInParent_ok h).1,
      rangeRows_group r items.length⟩
  case other =>
    split at h
    · exact absurd ho (hn _)
    · exact (replaceInParent_ok h).1

/-- A statistic of the empty group `items` anchored at `Sheet1.$A$5`, in the cell of a row: the
cell becomes the formula `of:=SUM([.A5:.A4])`, over the rows 4 and 5. -/
theorem statistic_range_rows_empty_group :
    ∃ (obj : Option JsonObject) (elm : Nat) (vardata : String) (s s' : MergeState),
      setStatisticVar obj elm vardata s = .ok () s' ∧
      (∃ o g, obj = some o ∧ varKeyValue vardata "groupname" = .ok g ∧
        (∀ items, o.get g = some (.array items) →
          ∃ method column cell col rowNo rest r pCell,
            varKeyValue vardata "method" = .ok method ∧
            varKeyValue vardata "column" = .ok column ∧
            tokenAt (splitTokens '.' column) 1 = .ok cell ∧
            splitTokens '$' cell = col :: rowNo :: rest ∧ stoi rowNo = .ok r ∧
            s'.dom.doc = s.dom.doc.edit pCell
              (fun _ => statisticCell s.dom.nextId method col rowNo (r + items.length - 1)) ∧
            rangeRows r (r + items.length - 1) =
              if items.length = 0 then [r - 1, r]
              else (List.range items.length).map fun k => r + k) ∧
        ((∀ items, o.get g ≠ some (.array items)) →
          s'.dom.doc = s.dom.doc.edit elm (fun _ => .nil))) ∧
      (∃ pCell, s'.dom.doc = s.dom.doc.edit pCell (fun _ => statisticCell 4 "SUM" "A" "5" 4)) ∧
      (statisticCell 4 "SUM" "A" "5" 4).getAttribute "table:formula" = "of:=SUM([.A5:.A4])" ∧
      rangeRows 5 4 = [4, 5] :=
  let vardata := "type:Statistic;groupname:items;column:Sheet1.$A$5;method:SUM"
  let doc : XmlNode := .element 0 "table:table-row" []
    (.element 1 "table:table-cell" []
      (.element 2 "text:p" []
        (.element 3 "text:a" [("office:target-frame-name", vardata)] (.text "total" .nil) .nil)
        .nil) .nil) .nil
  let s : MergeState := ⟨⟨doc, [], 4⟩, some .spreadsheet, 0, []⟩
  let obj : Option JsonObject := some [("items", .array [])]
  have h : ∃ s', setStatisticVar obj 3 vardata s = .ok () s' := ⟨_, rfl⟩
  let ⟨s', h⟩ := h
  have hc := statistic_range_rows h
  have hcell : ∃ pCell, s'.dom.doc = s.dom.doc.edit pCell
      (fun _ => statisticCell 4 "SUM" "A" "5" 4) := by
    obtain ⟨o, g, ho, hg, harr, -⟩ := hc
    obtain rfl : o = [("items", .array [])] := (Option.some.inj ho).symm
    obtain rfl : g = "items" := Except.ok.inj (hg.symm.trans rfl)
    obtain ⟨method, column, cell, col, rowNo, rest, r, pCell, hm, hcol, hcell, hsplit, hr, hd, -⟩ :=
      harr [] rfl
    obtain rfl : method = "SUM" := Except.ok.inj (hm.symm.trans rfl)
    obtain rfl : column = "Sheet1.$A$5" := Except.ok.inj (hcol.symm.trans rfl)
    obtain rfl : cell = "$A$5" := Except.ok.inj (hcell.symm.trans rfl)
    rw [show splitTokens '$' "$A$5" = ["A", "5"] from rfl, List.cons.injEq, List.cons.injEq]
      at hsplit
    obtain ⟨rfl, rfl, -⟩ := hsplit
    obtain rfl : r = 5 := Except.ok.inj (hr.symm.trans rfl)
    exact ⟨pCell, hd⟩
  ⟨obj, 3, vardata, s, s', h, hc, hcell, rfl, by decide⟩

/-! ## The first row of a group -/

section FirstRow

/-- INTERNAL: `innerText()` through a pointer reads the node it points to. -/
theorem innerTextOf_ok {i : Nat} {a : String} {s s' : MergeState} (h : innerTextOf i s = .ok a s') :
    s' = s ∧ ∃ p, s.dom.place i = some p ∧ a = p.node.innerText := by
  refine ⟨reads_innerTextOf i _ _ _ h, ?_⟩
  cases hp : s.dom.place i with
  | none => simp [innerTextOf, placeOf, hp] at h
  | some p =>
    simp only [innerTextOf, placeOf, hp, merge_bind, merge_get, merge_pure,
      EStateM.Result.ok.injEq] at h
    exact ⟨p, rfl, h.1.symm⟩

/-- INTERNAL: what one variable of `mergeTopLevel` does: its name's top-level value, if any, is
written into the first item, which must then be an object. -/
theorem mergeTopLevel_cons_ok {t : DocType} {g : String} {v : Nat} {vs : List Nat}
    {s s' : MergeState} (h : mergeTopLevel t g (v :: vs) s = .ok () s') :
    ∃ p key, s.dom.place v = some p ∧ t.dataKey p.node.innerText = .ok key ∧
      ((s.data.get key).isSome → (groupItem s.data g 0).isSome) ∧
      mergeTopLevel t g vs (match s.data.get key with
        | some value => { s with data := setFirstItem s.data g p.node.innerText value }
        | none => s) = .ok () s' := by
  obtain ⟨name, h1, h⟩ := (reads_innerTextOf v).bind_ok h
  obtain ⟨-, p, hp, rfl⟩ := innerTextOf_ok h1
  obtain ⟨key, h2, h⟩ := (reads_fromExcept _).bind_ok h
  obtain ⟨_, s3, h3, h⟩ := bind_ok h
  cases h3
  refine ⟨p, key, hp, fromExcept_ok h2, ?_⟩
  dsimp only at h
  cases hv : s.data.get key with
  | none => simpa [hv] using h
  | some value =>
    rw [hv] at h
    dsimp only at h
    split at h
    · obtain ⟨_, s4, h4, h⟩ := bind_ok h
      cases h4
      exact ⟨fun _ => ‹_›, h⟩
    · obtain ⟨_, s4, h4, -⟩ := bind_ok h
      cases h4

/-- INTERNAL: `setFirstItem` writes only the group's member. -/
theorem get_setFirstItem_ne (data : JsonObject) {g k : String} (key : String) (v : JsonValue)
    (h : k ≠ g) : (setFirstItem data g key v).get k = data.get k := by
  unfold setFirstItem
  split <;> simp [JsonObject.get_set_ne _ _ h]

/-- INTERNAL: the first item after `setFirstItem` is the first item with the key set. -/
theorem groupItem_setFirstItem (data : JsonObject) (g key : String) (v : JsonValue) :
    groupItem (setFirstItem data g key v) g 0 = (groupItem data g 0).map (·.set key v) := by
  cases hd : data.get g with
  | none => simp [setFirstItem, groupItem, hd]
  | some val =>
    cases val with
    | array items =>
      cases items with
      | nil => simp [setFirstItem, groupItem, hd]
      | cons x xs =>
        cases x <;> simp [setFirstItem, groupItem, hd, JsonObject.get_set_self _ _ (show JsonValue.array _ ≠ .null by simp)]
    | _ => simp [setFirstItem, groupItem, hd]

/-- INTERNAL: a value `get` returns is not null. -/
theorem JsonObject.ne_null_of_get {o : JsonObject} {k : String} {x : JsonValue}
    (h : o.get k = some x) : x ≠ .null := by
  rintro rfl
  unfold JsonObject.get at h
  split at h <;> simp_all

/-- **In a spreadsheet, the first item of a group takes the top-level values of its row's
variables.** For every run of `mergeTopLevel` over the variables of a group's first copy, if
one of the variables is named `name`, which is not the group's name, and the request's object
holds a value `x` at `name`, the group's first item ends with `x` at `name`, whatever it held
there. `fillRows` then fills the first copy from that item, so the first inserted row shows the
top-level value and not the item's. Source: `DocumentBroker.cpp:2999-3018`. -/
theorem first_item_takes_top_level {g name : String} {x : JsonValue} (hng : name ≠ g) :
    ∀ {vs : List Nat} {s s' : MergeState}, mergeTopLevel .spreadsheet g vs s = .ok () s' →
    s.data.get name = some x →
    ((∃ v ∈ vs, (s.dom.place v).map (·.node.innerText) = some name) ∨
      (groupItem s.data g 0).bind (·.get name) = some x) →
    (groupItem s'.data g 0).bind (·.get name) = some x
  | [], s, s', h, _, hit => by
    cases h
    simpa using hit
  | v :: vs, s, s', h, hx, hit => by
    obtain ⟨p, key, hp, hkey, hobj, h⟩ := mergeTopLevel_cons_ok h
    cases hkey
    -- the state after this variable: the same tree, the same top-level value at `name`
    have step : ∀ s1 : MergeState, s1.dom = s.dom → s1.data.get name = some x →
        ((groupItem s1.data g 0).bind (·.get name) = some x ∨
          ∃ v ∈ vs, (s.dom.place v).map (·.node.innerText) = some name) →
        mergeTopLevel .spreadsheet g vs s1 = .ok () s' →
        (groupItem s'.data g 0).bind (·.get name) = some x := fun s1 hd h1 hh hr =>
      first_item_takes_top_level hng hr h1 (hh.symm.imp (by rw [hd]; exact id) id)
    -- the first variable is `name`, or the others or the first item show `x`
    have hit' : p.node.innerText = name ∨ ((groupItem s.data g 0).bind (·.get name) = some x ∨
        ∃ v ∈ vs, (s.dom.place v).map (·.node.innerText) = some name) := by
      rcases hit with ⟨w, hw, hwn⟩ | hi
      · rcases List.mem_cons.mp hw with rfl | hw
        · simp only [hp, Option.map_some', Option.some.injEq] at hwn
          exact .inl hwn
        · exact .inr (.inr ⟨w, hw, hwn⟩)
      · exact .inr (.inl hi)
    cases hv : s.data.get p.node.innerText with
    | none =>
      rw [hv] at h
      refine step s rfl hx (hit'.resolve_left fun hn => ?_) h
      rw [hn, hx] at hv
      cases hv
    | some value =>
      rw [hv] at h
      obtain ⟨o, ho⟩ := Option.isSome_iff_exists.mp (hobj (by simp [hv]))
      refine step { s with data := setFirstItem s.data g p.node.innerText value } rfl
        (by simpa [get_setFirstItem_ne _ _ _ hng] using hx) ?_ h
      simp only [groupItem_setFirstItem, ho, Option.map_some', Option.some_bind]
      by_cases hk : name = p.node.innerText
      · subst hk
        rw [hx] at hv
        cases hv
        exact .inl (JsonObject.get_set_self _ _ (JsonObject.ne_null_of_get hx))
      · rw [JsonObject.get_set_ne _ _ hk]
        rcases hit'.resolve_left (Ne.symm hk) with hi | hrest
        · exact .inl (by simpa [ho] using hi)
        · exact .inr hrest

end FirstRow

section TopLevel

open XmlNode

/-- A sheet whose only group row holds the variable `name`, the annotation naming the group
`items`. -/
def oneRowSheet : XmlNode :=
  element 1 "office:document-content" [] (
    element 2 "office:body" [] (
      element 3 "office:spreadsheet" [] (
        element 4 "table:table" [("table:name", "Sheet1")] (
          element 5 "table:table-row-group" [] (
            element 6 "table:table-row" [] (
              element 7 "table:table-cell" [] (
                element 8 "office:annotation" [] (element 9 "text:p" [] (text "items" nil) nil)
                (element 10 "text:p" [] (element 11 "text:a"
                  [("office:target-frame-name", "type:string")] (text "name" nil) nil) nil)) nil)
              nil) nil) nil) nil) nil) nil

/-- One item with its own `name`, and a top-level `name`. -/
def topLevelData : JsonObject :=
  [("items", .array [.object [("name", .str "pen")]]), ("name", .str "top")]

/-- The top-level `name` is written into the first item, and the merged sheet shows `top` where
the item holds `pen`. -/
theorem first_row_shows_top_level :
    (∃ s', mergeTopLevel .spreadsheet "items" [11] (MergeState.init oneRowSheet topLevelData) =
      .ok () s' ∧ (groupItem s'.data "items" 0).bind (·.get "name") = some (.str "top")) ∧
    (doMergeTo oneRowSheet topLevelData).toOption.map XmlNode.innerText = some "top" := by
  refine ⟨?_, by decide⟩
  obtain ⟨s', hs'⟩ : ∃ s', mergeTopLevel .spreadsheet "items" [11]
      (MergeState.init oneRowSheet topLevelData) = .ok () s' := ⟨_, rfl⟩
  exact ⟨s', hs', first_item_takes_top_level (by decide) hs' rfl (.inl ⟨11, by simp, rfl⟩)⟩

end TopLevel

end Loolwsd.Analysis
