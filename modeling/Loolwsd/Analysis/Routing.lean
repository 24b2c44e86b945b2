import Loolwsd.Model.Routing

/-!
# Which template a merge request reaches, and which row counts it

The three selections of a template disagree in two ways, and agree otherwise.

* `handleMergeTo` counts a merge under the template's name up to its last `.`, while the
  template's `/accessTime` URI reads the row of the whole name: the two rows are one exactly
  when the name has no `.` (`merge_counted_under_base_name`).
* `pdf` is both `isMergeToUri`'s answer for a PDF query and a possible template name, so the
  merges of a template named `pdf` are all converted (`to_pdf_iff`).
* On a request already in the form `Poco::URI` writes back, the router and the parser pick the
  same template (`parser_agrees_with_router`); a template whose name holds a byte Poco escapes
  is accepted by the router and extracted by the parser for no request
  (`escaped_template_never_parsed`).
-/

set_option autoImplicit false

namespace Loolwsd.Analysis

open Loolwsd.Model

/-! ## Paths -/

/-- INTERNAL: `rfind` over a concatenation looks in the second part first. -/
theorem rfind_append (c : UInt8) (s t : List UInt8) :
    rfind c (s ++ t) = match rfind c t with
      | some i => some (s.length + i)
      | none => rfind c s := by
  induction s with
  | nil => cases h : rfind c t <;> simp [h, rfind]
  | cons d s ih =>
    rw [List.cons_append, rfind.eq_2, ih]
    cases rfind c t with
    | some i => simp only [List.length_cons, Option.some.injEq]; omega
    | none => rw [rfind.eq_2]

/-- INTERNAL: `rfind` finds nothing exactly when the byte is absent. -/
theorem rfind_eq_none (c : UInt8) (s : List UInt8) : rfind c s = none ↔ c ∉ s := by
  induction s with
  | nil => simp [rfind]
  | cons d s ih =>
    rw [rfind.eq_2, List.mem_cons, not_or]
    cases h : rfind c s with
    | some i =>
      have hs : c ∈ s := by by_contra hs; simp [ih.mpr hs] at h
      simp [hs]
    | none =>
      by_cases hd : d = c
      · simp [hd]
      · simp [hd, Ne.symm hd, ih.mp h]

/-- INTERNAL: a position `rfind` returns is inside the list. -/
theorem rfind_lt {c : UInt8} : ∀ {s : List UInt8} {i : Nat}, rfind c s = some i → i < s.length
  | [], _, h => by simp [rfind] at h
  | d :: s, i, h => by
    rw [rfind.eq_2] at h
    cases hs : rfind c s with
    | some j =>
      rw [hs] at h
      cases h
      have := rfind_lt hs
      simp only [List.length_cons]; omega
    | none => rw [hs] at h; split_ifs at h; cases h; simp

/-- INTERNAL: below a directory, `Path` keeps the file's name. -/
theorem pathName_append {d e : List UInt8} (hd : rfind 0x2F d = some (d.length - 1))
    (hd0 : d ≠ []) (he : 0x2F ∉ e) : pathName (d ++ e) = e := by
  have hlen : d.length - 1 + 1 = d.length := by
    have := List.length_pos.mpr hd0; omega
  rw [pathName, rfind_append, (rfind_eq_none _ _).mpr he, hd]
  simp only [hlen, List.drop_left]

/-- INTERNAL: a name without `/` is its own file name. -/
theorem pathName_of_not_mem {e : List UInt8} (he : 0x2F ∉ e) : pathName e = e := by
  rw [pathName, (rfind_eq_none _ _).mpr he]

/-- INTERNAL: the base name of a template's path is its stem. -/
theorem getBaseName_path (t : Template) : getBaseName t.path = t.stem := by
  have hext : ∀ c ∈ ascii (if t.spreadsheet then ".ots" else ".ott"), c ≠ 0x2F := by
    cases t.spreadsheet <;> decide
  have hname : pathName t.path = t.stem ++ ascii (if t.spreadsheet then ".ots" else ".ott") := by
    rw [Template.path, List.append_assoc]
    refine pathName_append (by rfl) (by decide) ?_
    simp only [List.mem_append, not_or]
    exact ⟨t.stem_no_slash, fun h => hext _ h rfl⟩
  have hdot : rfind 0x2E (ascii (if t.spreadsheet then ".ots" else ".ott")) = some 0 := by
    cases t.spreadsheet <;> rfl
  rw [getBaseName]
  simp only [hname, rfind_append, hdot, Nat.add_zero, List.take_left]

/-- INTERNAL: the endpoints are the templates' stems. -/
theorem templLists_true (files : List Template) : templLists files true = files.map Template.stem := by
  simp [templLists, getBaseName_path]

/-- INTERNAL: under `resturl`, the base name is the endpoint's. -/
theorem getBaseName_resturl {e : List UInt8} (he : 0x2F ∉ e) :
    getBaseName (resturl ++ e) = getBaseName e := by
  rw [getBaseName, getBaseName, pathName_append (by rfl) (by decide) he, pathName_of_not_mem he]

/-- INTERNAL: a name is its own base name exactly when it has no `.`. -/
theorem getBaseName_eq_self {e : List UInt8} (he : 0x2F ∉ e) :
    getBaseName e = e ↔ 0x2E ∉ e := by
  rw [getBaseName, pathName_of_not_mem he, ← rfind_eq_none]
  cases h : rfind 0x2E e with
  | none => simp
  | some i =>
    have := rfind_lt h
    simp only [reduceCtorEq, iff_false]
    intro hi
    have := congrArg List.length hi
    simp only [List.length_take] at this
    omega

/-! ## The merge URIs -/

/-- The queries of a merge URI that ask for the document itself. -/
def plainQueries : List (List UInt8) := [[], ascii "?outputPDF=false"]

/-- The queries of a merge URI that ask for a PDF. -/
def pdfQueries : List (List UInt8) := [ascii "?outputPDF", ascii "?outputPDF=", ascii "?outputPDF=true"]

/-- The merge URIs of an endpoint that ask for the document. -/
def plainForms (e : List UInt8) : List (List UInt8) := plainQueries.map (resturl ++ e ++ ·)

/-- The merge URIs of an endpoint that ask for a PDF. -/
def pdfForms (e : List UInt8) : List (List UInt8) := pdfQueries.map (resturl ++ e ++ ·)

/-- The merge URIs of an endpoint. -/
def mergeForms (e : List UInt8) : List (List UInt8) := plainForms e ++ pdfForms e

/-- INTERNAL: the merge URIs as the loops write them. -/
theorem mem_plainForms (u e : List UInt8) :
    u ∈ plainForms e ↔ u = resturl ++ e ∨ u = resturl ++ e ++ ascii "?outputPDF=false" := by
  simp [plainForms, plainQueries]

/-- INTERNAL: the PDF URIs as the loops write them. -/
theorem mem_pdfForms (u e : List UInt8) :
    u ∈ pdfForms e ↔ u = resturl ++ e ++ ascii "?outputPDF" ∨
      u = resturl ++ e ++ ascii "?outputPDF=" ∨ u = resturl ++ e ++ ascii "?outputPDF=true" := by
  simp [pdfForms, pdfQueries]

/-- INTERNAL: a query of a merge URI is empty or starts with `?`, and holds no `#` and no
`/`. -/
theorem mergeQuery_shape :
    ∀ q ∈ plainQueries ++ pdfQueries, (q = [] ∨ q.head? = some 0x3F) ∧ 0x23 ∉ q ∧ 0x2F ∉ q := by
  decide

/-- INTERNAL: the loop of `isMergeToUri` stops at the first endpoint one of whose merge URIs
the request is, and returns it, or `pdf` for a PDF URI. -/
theorem mergeToLoop_eq (u : List UInt8) (anotherJson yaml : Bool) (es : List (List UInt8)) :
    mergeToLoop u false anotherJson yaml es =
      match es.find? (fun e => u ∈ mergeForms e) with
      | none => []
      | some e => if u ∈ plainForms e then e else ascii "pdf" := by
  induction es with
  | nil => rfl
  | cons e es ih =>
    simp only [mergeToLoop, Bool.false_eq_true, if_false, ← mem_plainForms, ← mem_pdfForms,
      List.find?_cons]
    by_cases hp : u ∈ plainForms e
    · simp [hp, mergeForms]
    · by_cases hq : u ∈ pdfForms e
      · simp [hp, hq, mergeForms]
      · have hm : u ∉ mergeForms e := by simp [mergeForms, hp, hq]
        simpa [hp, hq, hm] using ih

/-- INTERNAL: `Parser(URI)` extracts the first template one of whose merge URIs is the URI as
Poco writes it. -/
theorem parserOfUri_eq (files : List Template) (uri : RequestUri) :
    parserOfUri files uri =
      (files.find? fun t => uri.toString ∈ mergeForms t.stem).map Template.path := by
  rw [parserOfUri, templLists]
  simp only [Bool.false_eq_true, if_false, List.find?_map]
  congr 2
  funext t
  simp only [Function.comp, getBaseName_path, mergeForms, List.mem_append, mem_plainForms,
    mem_pdfForms]
  apply decide_eq_decide.mpr
  tauto

/-! ## `Poco::URI` on a merge URI -/

/-- INTERNAL: a string without `%` decodes to itself. -/
theorem uriDecode_of_no_pct : ∀ {s : List UInt8}, 0x25 ∉ s → uriDecode s = some s
  | [], _ => rfl
  | c :: s, h => by
    rw [List.mem_cons, not_or] at h
    rw [uriDecode.eq_def]
    simp only [if_neg (Ne.symm h.1), uriDecode_of_no_pct h.2]
    rfl

/-- INTERNAL: a merge URI's path ends where its query starts. -/
theorem takeWhile_mergeForm {e q : List UInt8} (he : ∀ c ∈ e, endsPath c = false)
    (hq : q ∈ plainQueries ++ pdfQueries) :
    (resturl ++ e ++ q).takeWhile (fun c => !endsPath c) = resturl ++ e ∧
      (resturl ++ e ++ q).dropWhile (fun c => !endsPath c) = q := by
  have hres : ∀ c ∈ resturl, (!endsPath c) = true := by decide
  have hpre : ∀ c ∈ resturl ++ e, (!endsPath c) = true := by
    intro c hc
    rcases List.mem_append.mp hc with hc | hc
    · exact hres c hc
    · simp [he c hc]
  rw [List.takeWhile_append_of_pos hpre, List.dropWhile_append_of_pos hpre]
  rcases (mergeQuery_shape q hq).1 with rfl | hh
  · simp
  · obtain ⟨c, q', rfl⟩ : ∃ c q', q = c :: q' := by cases q <;> simp_all
    simp only [List.head?_cons, Option.some.injEq] at hh
    subst hh
    simp [endsPath]

/-- INTERNAL: `Poco::URI` reads a merge URI of an endpoint without `?`, `#` or `%`: the path is
`resturl` and the endpoint, the query what follows the `?`. -/
theorem parseUri_mergeForm {e q : List UInt8} (he : ∀ c ∈ e, endsPath c = false ∧ c ≠ 0x25)
    (hq : q ∈ plainQueries ++ pdfQueries) :
    parseUri (resturl ++ e ++ q) = some ⟨resturl ++ e, q.drop 1, []⟩ := by
  obtain ⟨htake, hdrop⟩ := takeWhile_mergeForm (fun c hc => (he c hc).1) hq
  have hpct : 0x25 ∉ resturl ++ e := by
    simp only [List.mem_append, not_or]
    exact ⟨by decide, fun h => (he _ h).2 rfl⟩
  rw [parseUri, htake, hdrop, uriDecode_of_no_pct hpct]
  simp only [plainQueries, pdfQueries, List.cons_append, List.nil_append, List.mem_cons,
    List.not_mem_nil, or_false] at hq
  rcases hq with rfl | rfl | rfl | rfl | rfl <;> rfl

/-! ## `Poco::URI::toString` -/

/-- INTERNAL: a hex digit is a byte `encode` copies. -/
theorem hexByte_unreserved : ∀ n : Fin 16, isUnreserved (hexByte n) = true := by decide

/-- INTERNAL: every byte `encode` writes is `%` or a byte it copies. -/
theorem mem_uriEncode {r s : List UInt8} {c : UInt8} (h : c ∈ uriEncode s r) :
    c = 0x25 ∨ escapes r c = false := by
  obtain ⟨b, -, hb⟩ := List.mem_flatMap.mp h
  unfold encodeByte at hb
  split_ifs at hb with hesc
  · have lt : b.toNat < 16 * 16 := b.val.isLt
    simp only [List.mem_cons, List.mem_singleton, List.not_mem_nil, or_false] at hb
    rcases hb with rfl | rfl | rfl
    · exact .inl rfl
    · exact .inr (by simp [escapes, hexByte_unreserved ⟨_, Nat.div_lt_of_lt_mul lt⟩])
    · exact .inr (by simp [escapes, hexByte_unreserved ⟨_, Nat.mod_lt _ (by omega : 16 > 0)⟩])
  · rw [List.mem_singleton.mp hb]
    exact .inr (by simpa using hesc)

/-- INTERNAL: a byte escaped with no reserved characters is escaped with any. -/
theorem escapes_of_escapes_nil {r : List UInt8} {c : UInt8} (h : escapes [] c = true) :
    escapes r c = true := by
  simp only [escapes, Bool.and_eq_true, Bool.not_eq_true', Bool.or_eq_true] at h ⊢
  exact ⟨h.1, by rcases h.2 with h2 | h2 <;> simp_all⟩

/-- INTERNAL: the URI Poco writes back has its encoded path before the first `?` or `#`. -/
theorem takeWhile_toString (uri : RequestUri) :
    uri.toString.takeWhile (fun c => !endsPath c) = uriEncode uri.path (ascii "?#") := by
  have hpath : ∀ c ∈ uriEncode uri.path (ascii "?#"), (!endsPath c) = true := by
    intro c hc
    rcases mem_uriEncode hc with rfl | hesc
    · rfl
    · cases hq : endsPath c
      · rfl
      · simp only [endsPath, Bool.or_eq_true, decide_eq_true_eq] at hq
        rcases hq with rfl | rfl <;> exact absurd hesc (by decide)
  rw [RequestUri.toString, List.append_assoc, List.takeWhile_append_of_pos hpath]
  split_ifs <;> simp [endsPath]

/-! ## The selections compared -/

/-- INTERNAL: a merge URI is `resturl`, the endpoint and one of the queries. -/
theorem mem_mergeForms {u e : List UInt8} :
    u ∈ mergeForms e ↔ ∃ q ∈ plainQueries ++ pdfQueries, resturl ++ e ++ q = u := by
  rw [mergeForms, plainForms, pdfForms, ← List.map_append, List.mem_map]

/-- INTERNAL: no URI of an endpoint asks both for the document and for a PDF. -/
theorem not_mem_pdfForms {u e : List UInt8} (h : u ∈ plainForms e) : u ∉ pdfForms e := by
  have hdis : ∀ q ∈ plainQueries, q ∉ pdfQueries := by decide
  simp only [plainForms, pdfForms, List.mem_map] at h ⊢
  rintro ⟨q2, hq2, rfl⟩
  obtain ⟨q1, hq1, he⟩ := h
  exact hdis q1 hq1 (List.append_cancel_left he ▸ hq2)

/-- INTERNAL: the `/accessTime` URI of a template is routed to the template's own endpoint. -/
theorem isMergeToQueryAccessTime_self {files : List Template} {t : Template} (ht : t ∈ files) :
    isMergeToQueryAccessTime files (resturl ++ t.stem ++ ascii "/accessTime") = t.stem := by
  rw [isMergeToQueryAccessTime, templLists_true]
  cases h : (files.map Template.stem).find?
      (fun e => decide (resturl ++ t.stem ++ ascii "/accessTime" = resturl ++ e ++ ascii "/accessTime")) with
  | none =>
    rw [List.find?_eq_none] at h
    exact absurd (by simp) (h t.stem (List.mem_map_of_mem _ ht))
  | some e =>
    have he := List.find?_some h
    rw [decide_eq_true_eq] at he
    exact (List.append_cancel_left (List.append_cancel_right he)).symm

/-- **A merge is counted under its template's base name, and `/accessTime` reads that row only
for a name without `.`.** Take a template whose name has no `?`, `#` or `%`. `handleMergeTo`
counts each of its merge URIs under the name up to its last `.`, while
`isMergeToQueryAccessTime` routes the template's `/accessTime` URI to the whole name, the row
`getApiCallTimes` reads. The two rows are one exactly when the name has no `.`: the merges of
`report.v2` are counted under `report`. Source: `DocumentBroker.cpp:3455-3466, 3871-3875`. -/
theorem merge_counted_under_base_name (files : List Template) (t : Template) (ht : t ∈ files)
    (hname : ∀ c ∈ t.stem, endsPath c = false ∧ c ≠ 0x25) (q : List UInt8)
    (hq : q ∈ plainQueries ++ pdfQueries) :
    mergeEndpoint (resturl ++ t.stem ++ q) = some (getBaseName t.stem) ∧
      (mergeEndpoint (resturl ++ t.stem ++ q) =
          some (isMergeToQueryAccessTime files (resturl ++ t.stem ++ ascii "/accessTime")) ↔
        0x2E ∉ t.stem) := by
  have hkey : mergeEndpoint (resturl ++ t.stem ++ q) = some (getBaseName t.stem) := by
    rw [mergeEndpoint, parseUri_mergeForm hname hq, Option.map_some',
      getBaseName_resturl t.stem_no_slash]
  refine ⟨hkey, ?_⟩
  rw [hkey, isMergeToQueryAccessTime_self ht, Option.some_inj, getBaseName_eq_self t.stem_no_slash]

/-- The merges of `report.v2.ott` are counted under `report`, a row its `/accessTime` URI does
not read. -/
theorem report_v2_counted_as_report :
    mergeEndpoint (resturl ++ ascii "report.v2" ++ ascii "?outputPDF") = some (ascii "report") ∧
      mergeEndpoint (resturl ++ ascii "report.v2" ++ ascii "?outputPDF") ≠
        some (isMergeToQueryAccessTime [⟨ascii "report.v2", false, by decide⟩]
          (resturl ++ ascii "report.v2" ++ ascii "/accessTime")) := by
  have h := merge_counted_under_base_name [⟨ascii "report.v2", false, by decide⟩]
    ⟨ascii "report.v2", false, by decide⟩ (List.mem_singleton_self _) (by decide)
    (ascii "?outputPDF") (by decide)
  exact ⟨h.1.trans rfl, fun he => absurd (h.2.mp he) (by decide)⟩

/-- **A merge is converted to PDF exactly for a PDF URI of its template, or when the template is
named `pdf`.** `handleMergeTo` converts when `isMergeToUri` returns `pdf`, which is both its
answer for the three PDF queries and the name of a template: when the first template one of
whose merge URIs is the request is named `pdf`, every merge of it is converted,
`?outputPDF=false` included. Source: `DocumentBroker.cpp:3468-3498, 3918`. -/
theorem to_pdf_iff (files : List Template) (target : List UInt8) :
    toPdf files target = true ↔
      ∃ t, files.find? (fun t => target ∈ mergeForms t.stem) = some t ∧
        (target ∈ pdfForms t.stem ∨ t.stem = ascii "pdf") := by
  rw [toPdf, isMergeToUri, mergeToLoop_eq, templLists_true, List.find?_map, decide_eq_true_iff]
  simp only [Function.comp_def]
  cases h : files.find? fun t => decide (target ∈ mergeForms t.stem) with
  | none => exact iff_of_false (by simp only [Option.map_none']; decide) (by simp)
  | some t =>
    have hm := List.find?_some h
    rw [decide_eq_true_eq, mergeForms, List.mem_append] at hm
    simp only [Option.map_some', Option.some.injEq, exists_eq_left']
    by_cases hp : target ∈ plainForms t.stem
    · simp [hp, not_mem_pdfForms hp]
    · simp [hp, hm.resolve_left hp]

/-- **The router and the parser pick the same template for a URI in Poco's form.**
`isMergeToUri` compares the request as it came and `Parser(URI)` compares `uri.toString()`;
both go through the templates in the glob's order and stop at the first one one of whose merge
URIs matches. So on a request already in the form Poco writes it back, `isMergeToUri` answers
with the base name of the file the parser extracts, or `pdf` for a PDF URI, and with nothing
when the parser finds no template. Source: `DocumentBroker.cpp:1969-1994, 3468-3498`. -/
theorem parser_agrees_with_router (files : List Template) (uri : RequestUri)
    (anotherJson yaml : Bool) :
    isMergeToUri files uri.toString false anotherJson yaml =
      match parserOfUri files uri with
      | none => []
      | some templfile =>
        if uri.toString ∈ plainForms (getBaseName templfile) then getBaseName templfile
        else ascii "pdf" := by
  rw [isMergeToUri, mergeToLoop_eq, templLists_true, List.find?_map, parserOfUri_eq]
  simp only [Function.comp_def]
  cases files.find? fun t => decide (uri.toString ∈ mergeForms t.stem) with
  | none => rfl
  | some t => simp [getBaseName_path]

/-- **A template whose name Poco escapes is routed, but never parsed.** Take a template whose name
has no `?` or `#` and holds a byte `URI::encode` escapes other than `%`: a space, a control
byte, a byte of 0x7F or more (every byte of a name in UTF-8 outside ASCII), or one of
`<>{}|\"^` and the backquote. `isMergeToUri` accepts the template's merge URI, so
`handleMergeTo` counts the request and runs the merge; but `uri.toString()` writes that byte
escaped, and `Parser(URI)` extracts the template for no URI at all. Source:
`DocumentBroker.cpp:1969-1994, 3468-3498`. -/
theorem escaped_template_never_parsed (files : List Template) (t : Template) (ht : t ∈ files)
    (hname : ∀ c ∈ t.stem, endsPath c = false) (c : UInt8) (hc : c ∈ t.stem)
    (hesc : escapes [] c = true) (hpct : c ≠ 0x25) :
    isMergeToUri files (resturl ++ t.stem) false false false ≠ [] ∧
      ∀ uri, parserOfUri files uri ≠ some t.path := by
  refine ⟨?_, fun uri h => ?_⟩
  · rw [isMergeToUri, mergeToLoop_eq, templLists_true, List.find?_map]
    simp only [Function.comp_def]
    cases hf : files.find? (fun t' => decide (resturl ++ t.stem ∈ mergeForms t'.stem)) with
    | none =>
      rw [List.find?_eq_none] at hf
      exact absurd (by simp [mergeForms, plainForms, plainQueries]) (hf t ht)
    | some t' =>
      simp only [Option.map_some']
      split_ifs with hp
      · rintro h0
        rw [h0, mem_plainForms, List.append_nil] at hp
        rcases hp with hp | hp
        · rw [List.append_right_eq_self.mp hp] at hc
          exact List.not_mem_nil _ hc
        · have hs := List.append_cancel_left hp
          exact absurd (hname 0x3F (by rw [hs]; decide)) (by decide)
      · decide
  · rw [parserOfUri_eq] at h
    obtain ⟨t', hfind, hpath⟩ := Option.map_eq_some'.mp h
    have hstem : t'.stem = t.stem := by rw [← getBaseName_path t', hpath, getBaseName_path]
    have hform := List.find?_some hfind
    rw [hstem, decide_eq_true_eq, mem_mergeForms] at hform
    obtain ⟨q, hq, hu⟩ := hform
    have henc := congrArg (List.takeWhile fun c => !endsPath c) hu
    rw [(takeWhile_mergeForm hname hq).1, takeWhile_toString] at henc
    rcases mem_uriEncode (henc ▸ List.mem_append_right resturl hc) with h1 | h2
    · exact hpct h1
    · rw [escapes_of_escapes_nil hesc] at h2
      exact Bool.noConfusion h2

/-- The template `年報.ott`, whose name is six bytes of UTF-8, is routed and never parsed. -/
theorem annual_report_never_parsed :
    isMergeToUri [⟨[0xE5, 0xB9, 0xB4, 0xE5, 0xA0, 0xB1], false, by decide⟩]
        (resturl ++ [0xE5, 0xB9, 0xB4, 0xE5, 0xA0, 0xB1]) false false false ≠ [] ∧
      ∀ uri, parserOfUri [⟨[0xE5, 0xB9, 0xB4, 0xE5, 0xA0, 0xB1], false, by decide⟩] uri ≠
        some (Template.path ⟨[0xE5, 0xB9, 0xB4, 0xE5, 0xA0, 0xB1], false, by decide⟩) :=
  escaped_template_never_parsed _ _ (List.mem_singleton_self _) (by decide) 0xE5 (by decide)
    (by decide) (by decide)

end Loolwsd.Analysis
