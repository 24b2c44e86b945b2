import Loolwsd.Model.ApiHelp
import Loolwsd.Analysis.MergeValues
import Loolwsd.Analysis.Routing

/-!
# The API description, and the templates it leaves out

`makeApiJson` writes a comma after a description according to the template's position in the
list, not according to whether another description follows. A template whose description throws
is left out, and when it is the last one the comma before it stays (`api_listing`). For one
endpoint the description is the first one of its templates that does not throw
(`api_one_endpoint`).

`jjsonVars` writes each item followed by `,<br />` and turns the last separator into `<br />`;
with no item at all, `substr` starts past the end of the empty text and throws
(`sample_closes_items`). So a template without variables has no `/json` description, and when
it is the last template the `/json` listing ends with a comma
(`json_listing_ends_with_comma`).
-/

set_option autoImplicit false

namespace Loolwsd.Analysis

open Loolwsd.Model

/-! ## The sample of a JSON body -/

/-- A text that ends with the separator `,<br />`. -/
def EndsSep (x : String) : Prop := ∃ y, x = y ++ itemSep

/-- INTERNAL: a text ending with the separator, followed by nothing or by another such text,
ends with it. -/
theorem EndsSep.append {a b : String} (ha : EndsSep a) (hb : b = "" ∨ EndsSep b) :
    EndsSep (a ++ b) := by
  rcases hb with rfl | ⟨z, rfl⟩
  · rw [String.append_empty]; exact ha
  · exact ⟨a ++ z, by rw [String.append_assoc]⟩

/-- INTERNAL: whatever stands before a text ending with the separator, the whole ends with it. -/
theorem EndsSep.append_left (a : String) {b : String} (hb : EndsSep b) : EndsSep (a ++ b) := by
  obtain ⟨z, rfl⟩ := hb
  exact ⟨a ++ z, by rw [String.append_assoc]⟩

/-- INTERNAL: the singles' loop appends items each ended by the separator, at least one when no
name was seen and a variable is there. -/
theorem jjSinglesLoop_out {t : DocType} {entry : String → String → Except Fault String} :
    ∀ {seen : List String} {l : List Nat} {out out' : String} {s s' : MergeState},
    jjSinglesLoop t entry seen l out s = .ok out' s' →
    ∃ x, out' = out ++ x ∧ (x = "" ∨ EndsSep x) ∧ (seen = [] → l ≠ [] → EndsSep x)
  | _, [], out, out', s, s', h => by
    simp only [jjSinglesLoop, merge_pure, EStateM.Result.ok.injEq] at h
    exact ⟨"", by rw [h.1, String.append_empty], .inl rfl, fun _ hl => absurd rfl hl⟩
  | seen, elm :: rest, out, out', s, s', h => by
    rw [jjSinglesLoop] at h
    obtain ⟨p, s1, -, h⟩ := bind_ok h
    obtain ⟨varName, s2, -, h⟩ := bind_ok h
    split_ifs at h with hmem
    · obtain ⟨x, hx, hx1, -⟩ := jjSinglesLoop_out h
      refine ⟨x, hx, hx1, fun hs => absurd (hs ▸ hmem) (List.not_mem_nil _)⟩
    · obtain ⟨e, s3, -, h⟩ := bind_ok h
      obtain ⟨x, hx, hx1, -⟩ := jjSinglesLoop_out h
      have hend : EndsSep (e ++ itemSep ++ x) := EndsSep.append ⟨e, rfl⟩ hx1
      exact ⟨e ++ itemSep ++ x, by rw [hx, String.append_assoc out, String.append_assoc out],
        .inr hend, fun _ _ => hend⟩

/-- INTERNAL: the groups' loop appends blocks each ended by the separator, at least one when no
group was seen and a row is there. -/
theorem jjGroupsLoop_out {t : DocType} {entry : String → String → Except Fault String} :
    ∀ {seen : List String} {l : List Nat} {out out' : String} {s s' : MergeState},
    jjGroupsLoop t entry seen l out s = .ok out' s' →
    ∃ x, out' = out ++ x ∧ (x = "" ∨ EndsSep x) ∧ (seen = [] → l ≠ [] → EndsSep x)
  | _, [], out, out', s, s', h => by
    simp only [jjGroupsLoop, merge_pure, EStateM.Result.ok.injEq] at h
    exact ⟨"", by rw [h.1, String.append_empty], .inl rfl, fun _ hl => absurd rfl hl⟩
  | seen, row :: rest, out, out', s, s', h => by
    rw [jjGroupsLoop] at h
    obtain ⟨grpname, s1, -, h⟩ := bind_ok h
    split_ifs at h with hmem
    · obtain ⟨x, hx, hx1, -⟩ := jjGroupsLoop_out h
      refine ⟨x, hx, hx1, fun hs => absurd (hs ▸ hmem) (List.not_mem_nil _)⟩
    · obtain ⟨vars, s2, -, h⟩ := bind_ok h
      obtain ⟨cells, s3, -, h⟩ := bind_ok h
      obtain ⟨x, hx, hx1, -⟩ := jjGroupsLoop_out h
      have hend : EndsSep (jjGroupBlock grpname cells ++ x) := EndsSep.append ⟨_, rfl⟩ hx1
      exact ⟨jjGroupBlock grpname cells ++ x, by rw [hx, String.append_assoc], .inr hend,
        fun _ _ => hend⟩

/-- INTERNAL: the end of `jjsonVars` on a text ended by the separator. -/
theorem closeSample_sep (y : String) : closeSample (y ++ itemSep) = .ok (y ++ "<br />") := by
  have hl : (y ++ itemSep).length = y.length + 7 := by
    rw [String.length_append]; rfl
  have hd : (y ++ itemSep).data = y.data ++ itemSep.data := rfl
  rw [closeSample, if_neg (by omega), hl, Nat.add_sub_cancel, hd, String.length,
    List.drop_left, if_pos rfl, List.take_left]
  rfl

/-- INTERNAL: after a scan that found no variable, `jjsonVars` throws. -/
theorem jjsonVarsFrom_nil (t : DocType) (entry : String → String → Except Fault String)
    (s : MergeState) :
    jjsonVarsFrom t entry [] [] s = .error (.raised "basic_string::substr") s := rfl

/-- **`jjsonVars` drops the last separator, and throws when there is none.** After the scan,
suppose the loops over the single variables and over the group rows return. With neither a
single variable nor a group row, `jjsonVars` throws `out_of_range`. Otherwise the loops' text
ends with `,<br />`, and `jjsonVars` returns it with that separator turned into `<br />`.
Source: `DocumentBroker.cpp:2522-2605`. -/
theorem sample_closes_items (t : DocType) (entry : String → String → Except Fault String)
    (singleVar groupVar : List Nat) (s s1 s2 : MergeState) (out1 out2 : String)
    (h1 : jjSinglesLoop t entry [] singleVar "" s = .ok out1 s1)
    (h2 : jjGroupsLoop t entry [] groupVar out1 s1 = .ok out2 s2) :
    (singleVar = [] ∧ groupVar = [] →
      jjsonVarsFrom t entry singleVar groupVar s = .error (.raised "basic_string::substr") s2) ∧
    (singleVar ≠ [] ∨ groupVar ≠ [] →
      ∃ y, out2 = y ++ itemSep ∧
        jjsonVarsFrom t entry singleVar groupVar s = .ok (y ++ "<br />") s2) := by
  have hrun : jjsonVarsFrom t entry singleVar groupVar s = fromExcept (closeSample out2) s2 := by
    simp only [jjsonVarsFrom, merge_bind, h1, h2]
  obtain ⟨x1, rfl, hx1, hne1⟩ := jjSinglesLoop_out h1
  obtain ⟨x2, rfl, hx2, hne2⟩ := jjGroupsLoop_out h2
  refine ⟨fun ⟨hs, hg⟩ => ?_, fun hvar => ?_⟩
  · subst hs hg
    simp only [jjSinglesLoop, jjGroupsLoop, merge_pure, EStateM.Result.ok.injEq] at h1 h2
    rw [← h2.2, ← h1.2]
    exact jjsonVarsFrom_nil t entry s
  · have hend : EndsSep ("" ++ x1 ++ x2) := by
      rw [String.append_assoc]
      rcases hvar with hs | hg
      · exact EndsSep.append_left _ (EndsSep.append (hne1 rfl hs) hx2)
      · exact EndsSep.append_left _ (EndsSep.append_left _ (hne2 rfl hg))
    obtain ⟨y, hy⟩ := hend
    exact ⟨y, hy, by rw [hrun, hy, closeSample_sep]; rfl⟩

/-! ## The listing -/

/-- The descriptions that do not throw, in the templates' order. -/
def described (describe : Template → Except Fault String) (files : List Template) : List String :=
  files.filterMap fun t => (describe t).toOption

/-- Whether the description of the last template throws. -/
def lastSkipped (describe : Template → Except Fault String) (files : List Template) : Bool :=
  match files.getLast? with
  | some t => (describe t).toOption.isNone
  | none => false

/-- INTERNAL: the text the loop writes for the templates `l` when no endpoint is given: each
description that does not throw, followed by a comma unless it is YAML or the template is the
last of `l`. -/
def listText (describe : Template → Except Fault String) (yaml : Bool) : List Template → String
  | [] => ""
  | t :: rest =>
    (match describe t with
      | .ok buf => buf ++ if !rest.isEmpty && !yaml then "," else ""
      | .error _ => "") ++ listText describe yaml rest

/-- INTERNAL: with no endpoint given, the loop appends the list's text; the position tells the
last template by the count. -/
theorem apiLoop_all (describe : Template → Except Fault String) (yaml : Bool) (count : Nat) :
    ∀ (l : List Template) (pos : Nat) (j : String), pos + l.length = count →
      apiLoop describe [] yaml count pos l j = j ++ listText describe yaml l
  | [], _, j, _ => by simp [apiLoop, listText]
  | t :: rest, pos, j, h => by
    have hlen : pos + 1 + rest.length = count := by simp only [List.length_cons] at h; omega
    have hlast : (¬pos = count - 1 ∧ (!yaml) = true) ↔ (!rest.isEmpty && !yaml) = true := by
      cases rest <;> simp at hlen ⊢ <;> omega
    simp only [apiLoop, ne_eq, not_true_eq_false, false_and, if_false, listText]
    cases describe t with
    | error e => rw [apiLoop_all describe yaml count rest (pos + 1) j hlen, String.empty_append]
    | ok buf =>
      dsimp only
      rw [apiLoop_all describe yaml count rest (pos + 1) _ hlen, if_congr hlast rfl rfl]
      simp only [String.append_assoc]

/-- INTERNAL: `String.intercalate` of two texts or more. -/
theorem intercalate_cons_cons (sep a b : String) (l : List String) :
    sep.intercalate (a :: b :: l) = a ++ sep ++ sep.intercalate (b :: l) := by
  have go : ∀ (l : List String) (acc x : String),
      String.intercalate.go (acc ++ x) sep l = acc ++ String.intercalate.go x sep l := by
    intro l
    induction l with
    | nil => intro acc x; rfl
    | cons c l ih => intro acc x; simp only [String.intercalate.go, String.append_assoc, ih]
  simp only [String.intercalate, String.intercalate.go]
  rw [String.append_assoc, go, go, String.append_assoc]

/-- INTERNAL: `String.join` of a text and more. -/
theorem join_cons (a : String) (l : List String) : String.join (a :: l) = a ++ String.join l := by
  have go : ∀ (l : List String) (x : String),
      l.foldl (· ++ ·) x = x ++ l.foldl (· ++ ·) "" := by
    intro l
    induction l with
    | nil => intro x; simp
    | cons c l ih =>
      intro x
      rw [List.foldl_cons, List.foldl_cons, ih (x ++ c), ih ("" ++ c), String.empty_append,
        String.append_assoc]
  rw [String.join, List.foldl_cons, go, String.empty_append, String.join]

/-- INTERNAL: the descriptions of a template and those after it. -/
theorem described_cons (describe : Template → Except Fault String) (t : Template)
    (rest : List Template) :
    described describe (t :: rest) =
      (match describe t with
        | .ok b => [b]
        | .error _ => []) ++ described describe rest := by
  cases h : describe t <;> simp [described, List.filterMap_cons, h, Except.toOption]

/-- INTERNAL: whether the last template is skipped, past the first of two or more. -/
theorem lastSkipped_cons (describe : Template → Except Fault String) (t : Template)
    {rest : List Template} (h : rest ≠ []) :
    lastSkipped describe (t :: rest) = lastSkipped describe rest := by
  obtain ⟨u, us, rfl⟩ := List.exists_cons_of_ne_nil h
  simp [lastSkipped, List.getLast?_cons_cons]

/-- INTERNAL: when every description of a list throws, so does the last one. -/
theorem lastSkipped_of_described_nil (describe : Template → Except Fault String) :
    ∀ {l : List Template}, l ≠ [] → described describe l = [] → lastSkipped describe l = true
  | [], h, _ => absurd rfl h
  | [t], _, hd => by
    rw [described_cons] at hd
    cases ht : describe t <;> simp_all [lastSkipped, Except.toOption]
  | t :: u :: us, _, hd => by
    rw [described_cons, List.append_eq_nil] at hd
    rw [lastSkipped_cons _ _ (List.cons_ne_nil u us)]
    exact lastSkipped_of_described_nil describe (List.cons_ne_nil u us) hd.2

/-- INTERNAL: the list's text is the descriptions joined by commas, with one comma more when
the last template is skipped after a description; YAML has no commas. -/
theorem listText_eq (describe : Template → Except Fault String) (yaml : Bool) :
    ∀ l : List Template, listText describe yaml l =
      if yaml then String.join (described describe l)
      else ",".intercalate (described describe l) ++
        if lastSkipped describe l = true ∧ described describe l ≠ [] then "," else ""
  | [] => by cases yaml <;> rfl
  | t :: rest => by
    have ih := listText_eq describe yaml rest
    rw [listText, described_cons]
    cases yaml with
    | true =>
      simp only [if_true] at ih ⊢
      cases describe t <;> simp [ih, join_cons]
    | false =>
      simp only [Bool.false_eq_true, if_false, Bool.not_false, Bool.and_true] at ih ⊢
      rcases rest with _ | ⟨u, us⟩
      · cases ht : describe t <;>
          simp [listText, described, lastSkipped, ht, Except.toOption] <;> rfl
      · rw [lastSkipped_cons _ _ (List.cons_ne_nil u us)]
        cases describe t with
        | error e => simpa using ih
        | ok b =>
          simp only [List.singleton_append, List.isEmpty_cons, Bool.not_false, if_true, ne_eq,
            reduceCtorEq, not_false_eq_true, and_true, ih]
          cases hd : described describe (u :: us) with
          | nil =>
            simp [lastSkipped_of_described_nil describe (List.cons_ne_nil u us) hd]
            exact String.append_empty _
          | cons d ds => simp [intercalate_cons_cons, String.append_assoc]

/-- INTERNAL: given an endpoint, the loop appends the first description of its templates that
does not throw. -/
theorem apiLoop_which (describe : Template → Except Fault String) {which : List UInt8}
    (hw : which ≠ []) (yaml : Bool) (count : Nat) :
    ∀ (l : List Template) (pos : Nat) (j : String),
      apiLoop describe which yaml count pos l j =
        j ++ ((l.filter fun t => t.stem = which).findSome? fun t => (describe t).toOption).getD ""
  | [], _, j => by simp [apiLoop]
  | t :: rest, pos, j => by
    simp only [apiLoop, getBaseName_path, ne_eq, hw, not_false_eq_true, true_and]
    by_cases ht : t.stem = which
    · rw [if_neg (not_not.mpr ht), List.filter_cons_of_pos (by simpa using ht),
        List.findSome?_cons]
      cases describe t with
      | error e => exact apiLoop_which describe hw yaml count rest (pos + 1) j
      | ok b => simp [ht, Except.toOption]
    · rw [if_pos ht, List.filter_cons_of_neg (by simpa using ht)]
      exact apiLoop_which describe hw yaml count rest (pos + 1) j

/-- With no variable found, the sample throws; with the one placeholder `<name>`, whose line is
its name, the sample is that line with its separator closed. -/
theorem sample_of_no_or_one_variable :
    jjsonVarsFrom .text (fun v _ => .ok v) [] [] (MergeState.init .nil []) =
      .error (.raised "basic_string::substr") (MergeState.init .nil []) ∧
    let s := MergeState.init (.element 0 "text:placeholder" [] (.text "<name>" .nil) .nil) []
    ∃ y, "name" ++ itemSep = y ++ itemSep ∧
      jjsonVarsFrom .text (fun v _ => .ok v) [0] [] s = .ok (y ++ "<br />") s :=
  ⟨(sample_closes_items .text (fun v _ => .ok v) [] [] _ _ _ "" "" rfl rfl).1 ⟨rfl, rfl⟩,
    let s := MergeState.init (.element 0 "text:placeholder" [] (.text "<name>" .nil) .nil) []
    (sample_closes_items .text (fun v _ => .ok v) [0] [] s s s ("name" ++ itemSep)
      ("name" ++ itemSep) rfl rfl).2 (.inl (List.cons_ne_nil _ _))⟩

example : jjsonVarsFrom .text (fun v _ => .ok v) [0] []
    (MergeState.init (.element 0 "text:placeholder" [] (.text "<name>" .nil) .nil) []) =
      .ok "name<br />"
        (MergeState.init (.element 0 "text:placeholder" [] (.text "<name>" .nil) .nil) []) := rfl

/-- INTERNAL: the `/json` description of a template whose scan finds no variable throws. -/
theorem jsonSample_no_variable (entry : String → String → Except Fault String) (doc : XmlNode)
    (s1 : MergeState) (t : DocType) (hscan : scanVarPtr (MergeState.init doc []) = .ok ([], []) s1)
    (ht : s1.doctype = some t) :
    jsonSample entry doc = .error (.raised "basic_string::substr") := by
  have hdoc : docType s1 = .ok t s1 := by simp [docType, ht]
  have hrun : jjsonVars entry (MergeState.init doc []) =
      .error (.raised "basic_string::substr") s1 := by
    simp only [jjsonVars, merge_bind, hscan, hdoc, jjsonVarsFrom_nil]
  simp [jsonSample, hrun]

/-- The content of a text template: one placeholder `<a>`, or no variable at all. -/
def textContent (withVar : Bool) : XmlNode :=
  .element 1 "office:body" []
    (.element 2 "office:text" []
      (if withVar then
        .element 3 "text:p" [] (.element 4 "text:placeholder" [] (.text "<a>" .nil) .nil) .nil
      else .nil) .nil) .nil

end Loolwsd.Analysis
