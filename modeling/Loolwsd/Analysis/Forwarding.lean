import Mathlib.Data.List.DropRight
import Loolwsd.Analysis.Calls

/-!
# The frames `forwardToChild` sends

`forwardToChild(id, m)` prefixes `m` with `child-<id> ` and, for a `load` command, puts
`jail=<jailed URI>` into the frame (`DocumentBroker.cpp:1428-1458`). The kit reads the frame
back as tokens, so the rewrite is stated here on the tokens of the frame it sends:

* a frame whose second token is not `load` goes to the kit unchanged
  (`forwardToChild_not_load`);
* a `load` command with a third token goes with the single token `jail=<jailed URI>` after its
  third token and every other token kept in order, for every jailed URI without blanks
  (`forwardToChild_load`). This rests on the tokens of a message being their own
  tokenization (`tokenize_of_mem_tokenize`);
* a bare `load`, with no third token, makes the code read `tokens[2]` past the end of the
  vector (`bare_load_faults`).
-/

set_option autoImplicit false

namespace Loolwsd.Analysis

open Loolwsd.Model

/-! ## Tokens are their own tokenization -/

/-- INTERNAL: no piece of a split holds a separator. -/
theorem not_sep_of_mem_splitOnP {α : Type} (p : α → Bool) (xs : List α) :
    ∀ w ∈ xs.splitOnP p, ∀ x ∈ w, p x = false := by
  induction xs with
  | nil => simp [List.splitOnP_nil]
  | cons y ys ih =>
    rw [List.splitOnP_cons]
    split
    · simpa using ih
    · rename_i hy
      obtain ⟨h, t, e⟩ := List.exists_cons_of_ne_nil (List.splitOnP_ne_nil p ys)
      rw [e] at ih ⊢
      simp only [List.modifyHead_cons, List.mem_cons, forall_eq_or_imp] at ih ⊢
      exact ⟨⟨by simpa using hy, ih.1⟩, ih.2⟩

/-- INTERNAL: a prefix of a list with no leading blank has no leading blank. -/
theorem dropWhile_prefix_self {α : Type} (p : α → Bool) {a x : List α} (ha : a <+: x)
    (hx : x.dropWhile p = x) : a.dropWhile p = a := by
  obtain ⟨t, rfl⟩ := ha
  cases a with
  | nil => rfl
  | cons c r =>
    rw [List.cons_append, List.dropWhile_cons] at hx
    split at hx
    · have := (List.dropWhile_suffix p (l := r ++ t)).length_le
      simp only [hx, List.length_cons] at this
      omega
    · simp [List.dropWhile_cons, *]

/-- INTERNAL: trimming is a removal at both ends. -/
theorem trimSpace_eq (w : List Char) :
    trimSpace w = (w.dropWhile isSpace).rdropWhile isSpace := rfl

/-- INTERNAL: trimming twice trims once. -/
theorem trimSpace_trimSpace (w : List Char) : trimSpace (trimSpace w) = trimSpace w := by
  rw [trimSpace_eq, trimSpace_eq,
    dropWhile_prefix_self _ (List.rdropWhile_prefix _ _) (List.dropWhile_idempotent _ _),
    List.rdropWhile_idempotent]

/-- INTERNAL: trimming keeps a part of the word. -/
theorem mem_of_mem_trimSpace {w : List Char} {c : Char} (h : c ∈ trimSpace w) : c ∈ w :=
  (List.dropWhile_suffix _).subset ((List.rdropWhile_prefix _ _).subset h)

/-- INTERNAL: a word with no blank at either end is its own trimming. -/
theorem trimSpace_of_ends (w : List Char) (hhead : ∀ x ∈ w.head?, isSpace x = false)
    (hlast : ∀ x ∈ w.getLast?, isSpace x = false) : trimSpace w = w := by
  cases w with
  | nil => rfl
  | cons x l =>
    rw [trimSpace_eq, List.dropWhile_cons_of_neg (by simpa using hhead x (by simp)),
      List.rdropWhile_eq_self_iff.mpr fun hl => by
        simpa using hlast _ (List.getLast?_eq_getLast _ hl)]

/-- INTERNAL: a trimmed word without the separator is its own single token. -/
theorem splitTokens_eq_single (c : Char) (t : String) (hc : c ∉ t.data)
    (ht : trimSpace t.data = t.data) (hne : t.data ≠ []) : splitTokens c t = [t] := by
  have hs : t.data.splitOn c = [t.data] :=
    List.splitOnP_eq_single _ _ fun x hx => by simpa using ne_of_mem_of_not_mem hx hc
  simp [splitTokens, hs, ht, hne]

/-- INTERNAL: a trimmed word with no blank is its own single token. -/
theorem tokenize_eq_single (t : String) (hb : ∀ c ∈ t.data, c ≠ ' ')
    (ht : trimSpace t.data = t.data) (hne : t.data ≠ []) : tokenize t = [t] :=
  splitTokens_eq_single ' ' t (fun h => hb _ h rfl) ht hne

/-- INTERNAL: a word made of two words with no blank has no blank. -/
theorem no_space_append {a b : String} (ha : ∀ c ∈ a.data, isSpace c = false)
    (hb : ∀ c ∈ b.data, isSpace c = false) : ∀ c ∈ (a ++ b).data, isSpace c = false :=
  fun c hc => (List.mem_append.mp hc).elim (ha c) (hb c)

/-- INTERNAL: a word with no blank at all is its own single token. -/
theorem tokenize_of_no_space (t : String) (h : ∀ c ∈ t.data, isSpace c = false)
    (hne : t.data ≠ []) : tokenize t = [t] :=
  tokenize_eq_single t (fun c hc e => by have := h c hc; simp [e, isSpace] at this)
    (trimSpace_of_ends _ (fun x hx => h x (List.mem_of_mem_head? hx))
      (fun x hx => h x (List.mem_of_mem_getLast? hx))) hne

/-- **Every token of a message is its own tokenization.** -/
theorem tokenize_of_mem_tokenize {s t : String} (h : t ∈ tokenize s) : tokenize t = [t] := by
  simp only [tokenize, List.mem_map, List.mem_filter, Bool.not_eq_true', List.isEmpty_eq_false]
    at h
  obtain ⟨_, ⟨⟨w, hw, rfl⟩, hne⟩, rfl⟩ := h
  refine tokenize_eq_single _ (fun c hc e => ?_) (trimSpace_trimSpace w) (by simpa using hne)
  have := not_sep_of_mem_splitOnP _ _ w hw c (mem_of_mem_trimSpace hc)
  simp [e] at this

/-- INTERNAL: words joined by the separator are tokenized one after another. -/
theorem splitTokens_intercalate (c : Char) (l : List String) :
    splitTokens c (String.intercalate (String.singleton c) l) = l.flatMap (splitTokens c) := by
  have go : ∀ (acc : String) (l : List String),
      splitTokens c (String.intercalate.go acc (String.singleton c) l) =
        splitTokens c acc ++ l.flatMap (splitTokens c) := by
    intro acc l
    induction l generalizing acc with
    | nil => simp [String.intercalate.go]
    | cons a l ih => simp [String.intercalate.go, ih, splitTokens_append_sep]
  cases l with
  | nil => rfl
  | cons a l => simpa [String.intercalate] using go a l

/-- INTERNAL: the pieces of `Poco::cat(" ", …)` are tokenized one after another. -/
theorem tokenize_intercalate (l : List String) :
    tokenize (String.intercalate " " l) = l.flatMap tokenize :=
  splitTokens_intercalate ' ' l

/-- INTERNAL: tokens joined by blanks read back as themselves. -/
theorem tokenize_intercalate_tokens {s : String} {l : List String} (hl : l <:+ tokenize s) :
    tokenize (String.intercalate " " l) = l := by
  rw [tokenize_intercalate]
  conv_rhs => rw [← List.flatMap_singleton' l]
  exact List.flatMap_congr fun t ht => tokenize_of_mem_tokenize (hl.subset ht)

/-! ## The rewrite -/

/-- INTERNAL: a frame whose second token is not `load` is sent as it is.
Source: `DocumentBroker.cpp:1440-1450`. -/
theorem loadRewrite_of_not_load (uri msg : String) (h : (tokenize msg)[1]? ≠ some "load") :
    loadRewrite uri msg = some msg := by
  unfold loadRewrite
  rcases hm : tokenize msg with _ | ⟨t0, _ | ⟨t1, rest⟩⟩
  · rfl
  · rfl
  · simp only [hm, List.getElem?_cons_succ, List.getElem?_cons_zero, ne_eq, Option.some.injEq] at h
    simp [h]

/-- INTERNAL: a bare `load` has no third token to read. Source: `DocumentBroker.cpp:1443`. -/
theorem loadRewrite_bare (uri msg t0 : String) (h : tokenize msg = [t0, "load"]) :
    loadRewrite uri msg = none := by
  simp [loadRewrite, h]

/-- INTERNAL: a blank before `jail=` separates its token from the ones before. -/
theorem tokenize_append_jail (a uri : String) :
    tokenize (a ++ " jail=" ++ uri) = tokenize a ++ tokenize ("jail=" ++ uri) := by
  rw [← tokenize_append_blank, String.append_assoc, String.append_assoc, ← String.append_assoc " "]
  rfl

/-- **The `load` rewrite on tokens.** The frame has the tokens of the message with the single
token `jail=<jailed URI>` after the third, every other token kept in order.
Source: `DocumentBroker.cpp:1440-1450`. -/
theorem tokenize_loadRewrite (uri msg t0 t2 : String) (more : List String)
    (hm : tokenize msg = t0 :: "load" :: t2 :: more) (hu : ∀ c ∈ uri.data, isSpace c = false) :
    ∃ f, loadRewrite uri msg = some f ∧
      tokenize f = t0 :: "load" :: t2 :: ("jail=" ++ uri) :: more := by
  have tok : ∀ t ∈ tokenize msg, tokenize t = [t] := fun _ => tokenize_of_mem_tokenize
  have hj : tokenize ("jail=" ++ uri) = ["jail=" ++ uri] :=
    tokenize_of_no_space _ (no_space_append (by decide) hu) (by simp)
  have hmore : tokenize (String.intercalate " " more) = more :=
    tokenize_intercalate_tokens (hm ▸ (List.suffix_cons _ _).trans
      ((List.suffix_cons _ _).trans (List.suffix_cons _ _)))
  refine ⟨t0 ++ " " ++ "load" ++ " " ++ t2 ++ " jail=" ++ uri ++ " " ++
    String.intercalate " " more, by simp [loadRewrite, hm], ?_⟩
  simp only [tokenize_append_blank, tokenize_append_jail, hj, hmore, tok t0 (by simp [hm]),
    tok "load" (by simp [hm]), tok t2 (by simp [hm]), List.cons_append, List.singleton_append,
    List.nil_append]

/-! ## `forwardToChild` -/

/-- INTERNAL: `forwardToChild` as one equation. Source: `DocumentBroker.cpp:1428-1458`. -/
theorem forwardToChild_eq (id m : String) (b : DocumentBroker) :
    forwardToChild id m b =
      if b.sessions.contains id then
        match loadRewrite b.uriJailed ("child-" ++ id ++ " " ++ m) with
        | some f => .ok true { b with toKit := b.toKit ++ [.text f] }
        | none => .error .undefinedBehaviour b
      else .ok false b := by
  unfold forwardToChild
  simp only [run_bind, run_get]
  split
  · split <;> simp [*, sendToKit]
  · rfl

/-- **A frame that is not a `load` command goes to the kit unchanged**: exactly one frame,
`child-<id> ` followed by the message. -/
theorem forwardToChild_not_load (id m : String) (b : DocumentBroker)
    (hid : b.sessions.contains id = true)
    (h : (tokenize ("child-" ++ id ++ " " ++ m))[1]? ≠ some "load") :
    forwardToChild id m b =
      .ok true { b with toKit := b.toKit ++ [.text ("child-" ++ id ++ " " ++ m)] } := by
  simp [forwardToChild_eq, hid, loadRewrite_of_not_load _ _ h]

/-- **A `load` command with a third token goes to the kit with the jailed URI**: exactly one
frame, whose tokens are those of `child-<id> ` followed by the message, with the single token
`jail=<jailed URI>` after the third. -/
theorem forwardToChild_load (id m t0 t2 : String) (more : List String) (b : DocumentBroker)
    (hid : b.sessions.contains id = true)
    (hm : tokenize ("child-" ++ id ++ " " ++ m) = t0 :: "load" :: t2 :: more)
    (hu : ∀ c ∈ b.uriJailed.data, isSpace c = false) :
    ∃ f, forwardToChild id m b = .ok true { b with toKit := b.toKit ++ [.text f] } ∧
      tokenize f = t0 :: "load" :: t2 :: ("jail=" ++ b.uriJailed) :: more := by
  obtain ⟨f, hf, ht⟩ := tokenize_loadRewrite _ _ _ _ _ hm hu
  exact ⟨f, by simp [forwardToChild_eq, hid, hf], ht⟩

/-- The session `a` sends `load url=file:///doc.odt` to a broker whose jailed URI is set. -/
theorem load_forwarded_with_jail :
    ∃ (b : DocumentBroker) (f : String), b.sessions.contains "a" = true ∧
      tokenize ("child-" ++ "a" ++ " " ++ "load url=file:///doc.odt") =
        ["child-a", "load", "url=file:///doc.odt"] ∧
      (∀ c ∈ b.uriJailed.data, isSpace c = false) ∧
      forwardToChild "a" "load url=file:///doc.odt" b =
        .ok true { b with toKit := b.toKit ++ [.text f] } ∧
      tokenize f = ["child-a", "load", "url=file:///doc.odt", "jail=" ++ b.uriJailed] := by
  let cfg : Settings := ⟨30000, 30000, 300000, true, true, false⟩
  let s : ClientSession := ⟨"a", false, false, false, false, "", "file:///doc.odt", [], "u", "U"⟩
  let b : DocumentBroker := { DocumentBroker.init cfg "k" "d" "j" 0 0 with
    sessions := SessionMap.empty.emplace s, uriJailed := "file:///jail/doc.odt" }
  have hid : b.sessions.contains "a" = true := by decide
  have hm : tokenize ("child-" ++ "a" ++ " " ++ "load url=file:///doc.odt") =
      ["child-a", "load", "url=file:///doc.odt"] := by decide
  have hu : ∀ c ∈ b.uriJailed.data, isSpace c = false := by decide
  obtain ⟨f, hf, ht⟩ := forwardToChild_load "a" "load url=file:///doc.odt" "child-a"
    "url=file:///doc.odt" [] b hid hm hu
  exact ⟨b, f, hid, hm, hu, hf, ht⟩

/-- **A bare `load` reads past the end of the token vector.** For every session in the map
whose id has no blank, a message whose only token is `load` gives the tokens
`child-<id>`, `load`; the code then reads `tokens[2]`. -/
theorem bare_load_faults (id m : String) (b : DocumentBroker)
    (hid : b.sessions.contains id = true) (hb : ∀ c ∈ id.data, isSpace c = false)
    (hm : tokenize m = ["load"]) :
    forwardToChild id m b = .error .undefinedBehaviour b := by
  have hc : tokenize ("child-" ++ id) = ["child-" ++ id] :=
    tokenize_of_no_space _ (no_space_append (by decide) hb) (by simp)
  have ht : tokenize ("child-" ++ id ++ " " ++ m) = ["child-" ++ id, "load"] := by
    rw [tokenize_append_blank, hc, hm]; rfl
  simp [forwardToChild_eq, hid, loadRewrite_bare _ _ _ ht]

/-- The session `a` forwarding the message `load` on a broker that holds it. -/
theorem bare_load_faults_one_session :
    ∃ b : DocumentBroker, b.sessions.contains "a" = true ∧
      (∀ c ∈ "a".data, isSpace c = false) ∧ tokenize "load" = ["load"] ∧
      forwardToChild "a" "load" b = .error .undefinedBehaviour b :=
  let cfg : Settings := ⟨30000, 30000, 300000, true, true, false⟩
  let s : ClientSession := ⟨"a", false, false, false, false, "", "file:///doc.odt", [], "u", "U"⟩
  let b : DocumentBroker := { DocumentBroker.init cfg "k" "d" "j" 0 0 with
    sessions := SessionMap.empty.emplace s }
  have hid : b.sessions.contains "a" = true := by decide
  have hb : ∀ c ∈ "a".data, isSpace c = false := by decide
  have hm : tokenize "load" = ["load"] := by decide
  ⟨b, hid, hb, hm, bare_load_faults "a" "load" b hid hb hm⟩

end Loolwsd.Analysis
