import Loolwsd.Model.TemplateVars
import Loolwsd.Analysis.Forwarding

/-!
# A variable's descriptor and the JSON that describes the variable

A template variable carries a descriptor `k1:v1;k2:v2;...`. `varKeyValue`
(`DocumentBroker.cpp:2066-2110`) reads one key's value out of it. `parseJsonVar`
(`DocumentBroker.cpp:2111-2313`) writes those values into the fields of the variable's JSON
description and into the variable's line of the `/json` sample.

* A descriptor written from pairs reads back when every key and value is non-empty, holds
  neither separator and has no blank at either end. The result is the value of the first pair
  whose key is the one asked for, up to case, or `""` when no key matches. For the key `type`
  the value is named through the type table. The lookup faults in exactly one case: before any
  matching pair it meets a segment with no token, or, for the key `type`, a key with no value.
  The code then reads `keyval[0]` or `keyval[1]` past the end of the pair's tokens
  (`varKeyValue_reads_descriptor`). `parseJsonVar` faults exactly when one of its five lookups
  does (`parseJsonVar_error_iff`).
* `parseJsonVar` writes text between quotes as it is: the enum items, the help text with the
  description, the format, and the sample's summary. Each of these literals reads back, in the
  grammar of a JSON string, as the text put into it exactly when that text has no quote, no
  backslash and no control character (`parseJsonVar_splices_raw`). The code takes the quotes out
  of the items, the description and the format, but the help text keeps its quotes. No field's
  backslashes or control characters are escaped.
-/

set_option autoImplicit false

namespace Loolwsd.Analysis

open Loolwsd.Model

/-! ## Well-formed descriptors -/

/-- A key or a value that a descriptor holds as written. It is not empty, holds neither
separator, and has no blank (in the sense of `StringTokenizer::TOK_TRIM`) at either end. -/
def DescriptorWord (w : String) : Prop :=
  w.data ≠ [] ∧ ';' ∉ w.data ∧ ':' ∉ w.data ∧
    (∀ c ∈ w.data.head?, isSpace c = false) ∧ ∀ c ∈ w.data.getLast?, isSpace c = false

instance : DecidablePred DescriptorWord := fun _ => inferInstanceAs (Decidable (_ ∧ _))

example : DescriptorWord "Type" ∧ ¬ DescriptorWord " a" ∧ ¬ DescriptorWord "a:b" := by decide

/-- One pair `k:v` of a descriptor. -/
def pairText (p : String × String) : String := p.1 ++ ":" ++ p.2

/-- The descriptor `k1:v1;...;kn:vn` of a list of pairs. -/
def descriptorLine (ps : List (String × String)) : String :=
  String.intercalate ";" (ps.map pairText)

/-- The names of the declared types, looked up up to case: `image` is a `file`, and the others
name themselves. -/
def typeTable : List (String × String) :=
  [("image", "file"), ("enum", "enum"), ("auto", "auto"), ("boolean", "boolean"),
    ("float", "float"), ("percentage", "percentage"), ("currency", "currency"),
    ("date", "date"), ("time", "time"), ("statistic", "statistic")]

/-- What the lookup of `key` makes of a value: for the key `type` (up to case) its name in the
type table, `string` when it has none; for any other key the value itself. -/
def canon (key v : String) : String :=
  if icompareEq key "type" then
    ((typeTable.find? fun p => icompareEq v p.1).map Prod.snd).getD "string"
  else v

/-- The value of `key` in a list of pairs: that of the first pair whose key is `key` up to case,
and `""` when there is none. -/
def descriptorValue (ps : List (String × String)) (key : String) : String :=
  ((ps.find? fun p => icompareEq p.1 key).map fun p => canon key p.2).getD ""

/-- INTERNAL: the code's chain of comparisons is the type table; its last entry is written
`Statistic` in the code, which is the same key up to case. -/
theorem typeName_eq_table (v : String) :
    typeName v = ((typeTable.find? fun p => icompareEq v p.1).map Prod.snd).getD "string" := by
  let low : String × String → List Char × String := fun p => (p.1.data.map Char.toLower, p.2)
  have lowered : ∀ l : List (String × String), (l.find? fun p => icompareEq v p.1).map Prod.snd =
      ((l.map low).find? fun q => v.data.map Char.toLower == q.1).map Prod.snd := by
    intro l
    rw [List.find?_map, Option.map_map]
    rfl
  rw [typeName, lowered, lowered typeTable]
  rfl

/-- INTERNAL: a word of a descriptor is its own token on either separator. -/
theorem DescriptorWord.splitTokens {w : String} (c : Char) (hc : c = ';' ∨ c = ':')
    (h : DescriptorWord w) : Model.splitTokens c w = [w] := by
  obtain ⟨hne, hsc, hco, hhead, hlast⟩ := h
  exact splitTokens_eq_single c w (by rcases hc with rfl | rfl <;> assumption)
    (trimSpace_of_ends _ hhead hlast) hne

/-- INTERNAL: a pair splits on `:` into its key and its value. -/
theorem splitTokens_pairText_colon (p : String × String) (h1 : DescriptorWord p.1)
    (h2 : DescriptorWord p.2) : splitTokens ':' (pairText p) = [p.1, p.2] := by
  show splitTokens ':' (p.1 ++ String.singleton ':' ++ p.2) = _
  rw [splitTokens_append_sep, h1.splitTokens ':' (.inr rfl), h2.splitTokens ':' (.inr rfl)]
  rfl

/-- INTERNAL: a pair is a single token on `;`. -/
theorem splitTokens_pairText_semicolon (p : String × String) (h1 : DescriptorWord p.1)
    (h2 : DescriptorWord p.2) : splitTokens ';' (pairText p) = [pairText p] := by
  obtain ⟨hne1, hsc1, -, hhead, -⟩ := h1
  obtain ⟨hne2, hsc2, -, -, hlast⟩ := h2
  have e : (pairText p).data = p.1.data ++ ':' :: p.2.data := by simp [pairText]
  obtain ⟨x, l, hx⟩ := List.exists_cons_of_ne_nil hne1
  obtain ⟨y, m, hy⟩ := List.exists_cons_of_ne_nil hne2
  rw [hx] at hhead
  rw [hy] at hlast
  exact splitTokens_eq_single ';' _ (by simp [e, hsc1, hsc2])
    (trimSpace_of_ends _ (by simpa [e, hx] using hhead) (by simpa [e, hy] using hlast))
    (by simp [e])

/-- INTERNAL: the segments of a descriptor are its pairs. -/
theorem splitTokens_descriptorLine (ps : List (String × String))
    (hps : ∀ p ∈ ps, DescriptorWord p.1 ∧ DescriptorWord p.2) :
    splitTokens ';' (descriptorLine ps) = ps.map pairText := by
  rw [descriptorLine, show (";" : String) = String.singleton ';' from rfl,
    splitTokens_intercalate]
  conv_rhs => rw [← List.flatMap_singleton' (ps.map pairText)]
  refine List.flatMap_congr fun t ht => ?_
  obtain ⟨p, hp, rfl⟩ := List.mem_map.mp ht
  exact splitTokens_pairText_semicolon p (hps p hp).1 (hps p hp).2

/-- INTERNAL: the lookup in a list of pairs, one pair at a time. -/
theorem descriptorValue_cons (p : String × String) (ps : List (String × String)) (key : String) :
    descriptorValue (p :: ps) key =
      if icompareEq p.1 key then canon key p.2 else descriptorValue ps key := by
  simp only [descriptorValue, List.find?_cons]
  cases icompareEq p.1 key <;> rfl

/-- INTERNAL: the loop of `varKeyValue` over the pairs of a well-formed descriptor. -/
theorem varKeyValue_go_pairs (key : String) (ps : List (String × String))
    (hps : ∀ p ∈ ps, DescriptorWord p.1 ∧ DescriptorWord p.2) :
    varKeyValue.go key (ps.map pairText) = .ok (descriptorValue ps key) := by
  induction ps with
  | nil => rfl
  | cons p ps ih =>
    obtain ⟨h1, h2⟩ := hps p (List.mem_cons_self _ _)
    rw [List.map_cons, varKeyValue.go, descriptorValue_cons, splitTokens_pairText_colon p h1 h2,
      ih fun q hq => hps q (List.mem_cons_of_mem _ hq)]
    by_cases hk : icompareEq p.1 key <;> by_cases ht : icompareEq key "type" <;>
      simp [hk, ht, canon, tokenAt, typeName_eq_table, bind, Except.bind, pure, Except.pure]

/-! ## When the lookup faults -/

/-- The lookup of `key` over the segments `segs` reaches a segment it reads past the end of.
Every segment before it has a first token other than `key`. The segment itself has no token,
or, when `key` is `type`, only a first token that is `key`. -/
def KeyValueFault (segs : List String) (key : String) : Prop :=
  ∃ pre t post, segs = pre ++ t :: post ∧
    (∀ u ∈ pre, ∃ k rest, splitTokens ':' u = k :: rest ∧ icompareEq k key = false) ∧
    (splitTokens ':' t = [] ∨
      ∃ k, splitTokens ':' t = [k] ∧ icompareEq k key = true ∧ icompareEq key "type" = true)

/-- INTERNAL: a fault is at the first segment or, past a segment with another key, later. -/
theorem keyValueFault_cons (t : String) (ts : List String) (key : String) :
    KeyValueFault (t :: ts) key ↔
      (splitTokens ':' t = [] ∨
        ∃ k, splitTokens ':' t = [k] ∧ icompareEq k key = true ∧ icompareEq key "type" = true) ∨
      (∃ k rest, splitTokens ':' t = k :: rest ∧ icompareEq k key = false) ∧
        KeyValueFault ts key := by
  constructor
  · rintro ⟨pre, t', post, e, hpre, ht'⟩
    cases pre with
    | nil =>
      obtain ⟨rfl, rfl⟩ := List.cons_eq_cons.mp e
      exact .inl ht'
    | cons u pre =>
      obtain ⟨rfl, rfl⟩ := List.cons_eq_cons.mp e
      exact .inr ⟨hpre _ (List.mem_cons_self _ _), pre, t', post, rfl,
        fun v hv => hpre v (List.mem_cons_of_mem _ hv), ht'⟩
  · rintro (h | ⟨hu, pre, t', post, rfl, hpre, ht'⟩)
    · exact ⟨[], t, ts, rfl, by simp, h⟩
    · exact ⟨t :: pre, t', post, rfl, List.forall_mem_cons.mpr ⟨hu, hpre⟩, ht'⟩

/-- INTERNAL: the loop of `varKeyValue` faults exactly at a `KeyValueFault`, with Poco's
`RangeException`. -/
theorem varKeyValue_go_error (key : String) (segs : List String) (e : Fault) :
    varKeyValue.go key segs = .error e ↔ e = .raised "Out of range" ∧ KeyValueFault segs key := by
  induction segs with
  | nil => simp [varKeyValue.go, KeyValueFault]
  | cons t ts ih =>
    rw [varKeyValue.go, keyValueFault_cons]
    rcases h : splitTokens ':' t with _ | ⟨k, rest⟩
    · simpa [tokenAt, bind, Except.bind] using eq_comm
    · by_cases hk : icompareEq k key
      · by_cases ht : icompareEq key "type"
        · cases rest with
          | nil => simpa [tokenAt, hk, ht, bind, Except.bind] using eq_comm
          | cons v rest => simp [tokenAt, hk, ht, bind, Except.bind, pure, Except.pure]
        · rcases rest with _ | ⟨v, _ | _⟩ <;>
            simp [hk, ht, tokenAt, bind, Except.bind, pure, Except.pure]
      · simp [hk, ih, tokenAt, bind, Except.bind]

/-- **`varKeyValue` reads a well-formed descriptor back, and faults exactly on a segment it
reads past.** For every line and key, the lookup raises Poco's `RangeException` exactly when it
reaches, before any matching pair, a segment with no token, or, for the key `type`, a key with
no value. For every descriptor whose keys and values are `DescriptorWord`s, it returns the first
matching pair's value, named through the type table for the key `type`, and `""` when no key
matches. Source: `DocumentBroker.cpp:2066-2110`. -/
theorem varKeyValue_reads_descriptor :
    (∀ line key e, varKeyValue line key = .error e ↔
      e = .raised "Out of range" ∧ KeyValueFault (splitTokens ';' line) key) ∧
    ∀ ps key, (∀ p ∈ ps, DescriptorWord p.1 ∧ DescriptorWord p.2) →
      varKeyValue (descriptorLine ps) key = .ok (descriptorValue ps key) :=
  ⟨fun line key e => varKeyValue_go_error key _ e, fun ps key hps => by
    rw [varKeyValue, splitTokens_descriptorLine ps hps, varKeyValue_go_pairs key ps hps]⟩

/-- An image type reads back as `file`. The type key with no value, and a segment that is only
`:`, make the lookup read past the end of the pair's tokens. -/
theorem varKeyValue_image_and_faults :
    varKeyValue (descriptorLine [("Type", "Image"), ("Items", "a,b")]) "type" = .ok "file" ∧
    varKeyValue "Type:;Items:a,b" "type" = .error (.raised "Out of range") ∧
    varKeyValue "Items:a,b;:" "Format" = .error (.raised "Out of range") :=
  ⟨varKeyValue_reads_descriptor.2 _ _ (by decide),
    (varKeyValue_reads_descriptor.1 _ _ _).mpr ⟨rfl, [], "Type:", ["Items:a,b"], rfl, by simp,
      .inr ⟨"Type", rfl, rfl, rfl⟩⟩,
    (varKeyValue_reads_descriptor.1 _ _ _).mpr ⟨rfl, ["Items:a,b"], ":", [], rfl,
      by simp only [List.mem_singleton, forall_eq]; exact ⟨"Items", ["a,b"], rfl, rfl⟩,
      .inl rfl⟩⟩

/-- INTERNAL: a lookup returns exactly when the descriptor has no segment it faults on. -/
theorem varKeyValue_cases (line key : String) :
    (∃ v, varKeyValue line key = .ok v ∧ ¬ KeyValueFault (splitTokens ';' line) key) ∨
      (varKeyValue line key = .error (.raised "Out of range") ∧
        KeyValueFault (splitTokens ';' line) key) := by
  cases h : varKeyValue line key with
  | error e =>
    obtain ⟨rfl, hf⟩ := (varKeyValue_go_error key _ e).mp h
    exact .inr ⟨rfl, hf⟩
  | ok v =>
    refine .inl ⟨v, rfl, fun hf => ?_⟩
    have := (varKeyValue_go_error key _ _).mpr ⟨rfl, hf⟩
    rw [← varKeyValue, h] at this
    cases this

/-- **`parseJsonVar` faults exactly on a descriptor that one of its five lookups faults on**, and
then with Poco's `RangeException`. On every other descriptor it returns, in all four of its
modes. Source: `DocumentBroker.cpp:2117-2121`, `2208`. -/
theorem parseJsonVar_error_iff (outYaml : Bool) (var vardata : String) (anotherJson yaml : Bool)
    (e : Fault) :
    parseJsonVar outYaml var vardata anotherJson yaml = .error e ↔
      e = .raised "Out of range" ∧ ∃ key ∈ ["Type", "Items", "Description", "Format", "ApiHelp"],
        KeyValueFault (splitTokens ';' vardata) key := by
  -- the five lookups in the order the code makes them; a fault in one ends the call
  rcases varKeyValue_cases vardata "Type" with ⟨_, h1, n1⟩ | ⟨h1, f⟩
  rcases varKeyValue_cases vardata "Items" with ⟨_, h2, n2⟩ | ⟨h2, f⟩
  rcases varKeyValue_cases vardata "Description" with ⟨_, h3, n3⟩ | ⟨h3, f⟩
  rcases varKeyValue_cases vardata "Format" with ⟨_, h4, n4⟩ | ⟨h4, f⟩
  rcases varKeyValue_cases vardata "ApiHelp" with ⟨_, h5, n5⟩ | ⟨h5, f⟩
  · simp [parseJsonVar, h1, h2, h3, h4, h5, bind, Except.bind, n1, n2, n3, n4, n5]
    split <;> simp [pure, Except.pure]
  all_goals simp [parseJsonVar, bind, Except.bind, eq_comm, *]

/-! ## The grammar of a JSON string -/

/-- The backslash, which starts an escape in a JSON string. -/
def backslash : Char := Char.ofNat 92

/-- The two-character escapes of a JSON string: the character after the backslash and the one it
stands for. -/
def jsonEscapes : List (Char × Char) :=
  [(dquote, dquote), (backslash, backslash), ('/', '/'), ('b', Char.ofNat 8),
    ('f', Char.ofNat 12), ('n', '\n'), ('r', '\r'), ('t', '\t')]

/-- The value of a hexadecimal digit. -/
def hexDigit (c : Char) : Option Nat :=
  if c.isDigit then some (c.toNat - 48)
  else if 'a' ≤ c ∧ c ≤ 'f' then some (c.toNat - 87)
  else if 'A' ≤ c ∧ c ≤ 'F' then some (c.toNat - 55)
  else none

/-- The value of four hexadecimal digits. -/
def hex4 : List Char → Option Nat
  | [a, b, c, d] => do
    pure ((((← hexDigit a) * 16 + (← hexDigit b)) * 16 + (← hexDigit c)) * 16 + (← hexDigit d))
  | _ => none

/-- `JsonChar t c r`: one character `c` of a JSON string's body is read from the front of `t`,
leaving `r`. -/
inductive JsonChar : List Char → Char → List Char → Prop
  /-- A character other than the quote, the backslash and the controls below U+0020 stands
  for itself. -/
  | unescaped {c : Char} {r : List Char} (hq : c ≠ dquote) (hb : c ≠ backslash)
      (hc : 0x20 ≤ c.toNat) : JsonChar (c :: r) c r
  /-- A two-character escape. -/
  | escape {e c : Char} {r : List Char} (he : jsonEscapes.lookup e = some c) :
      JsonChar (backslash :: e :: r) c r
  /-- `\uXXXX` for a code point outside the surrogates. -/
  | codePoint {h r : List Char} {c : Char} (hh : hex4 h = some c.toNat)
      (hs : c.toNat < 0xD800 ∨ 0xDFFF < c.toNat) : JsonChar (backslash :: 'u' :: h ++ r) c r
  /-- A surrogate pair `\uXXXX\uXXXX`. -/
  | surrogatePair {h l r : List Char} {c : Char} {hi lo : Nat} (hh : hex4 h = some hi)
      (hl : hex4 l = some lo) (hhi : 0xD800 ≤ hi ∧ hi ≤ 0xDBFF) (hlo : 0xDC00 ≤ lo ∧ lo ≤ 0xDFFF)
      (hc : c.toNat = 0x10000 + (hi - 0xD800) * 0x400 + (lo - 0xDC00)) :
      JsonChar (backslash :: 'u' :: h ++ backslash :: 'u' :: l ++ r) c r

/-- `JsonChars t cs r`: the characters `cs` are read from the front of `t`, leaving `r`. -/
inductive JsonChars : List Char → List Char → List Char → Prop
  | nil {t : List Char} : JsonChars t [] t
  | cons {t t' r : List Char} {c : Char} {cs : List Char} :
      JsonChar t c t' → JsonChars t' cs r → JsonChars t (c :: cs) r

/-- `JsonStr t cs r`: a JSON string literal standing for `cs` is read from the front of `t`,
from its opening quote to its closing one, leaving `r`. -/
def JsonStr (t cs r : List Char) : Prop :=
  ∃ t', t = dquote :: t' ∧ JsonChars t' cs (dquote :: r)

/-- A text that stands for itself in a JSON string: no quote, no backslash and no control
character. -/
def JsonPlain (t : String) : Prop :=
  ∀ c ∈ t.data, c ≠ dquote ∧ c ≠ backslash ∧ 0x20 ≤ c.toNat

instance : DecidablePred JsonPlain := fun t => inferInstanceAs (Decidable (∀ c ∈ t.data, _))

/-- INTERNAL: a character either stands for itself or is read from an escape of at least two. -/
theorem JsonChar.plain_or_escape {t r : List Char} {c : Char} (h : JsonChar t c r) :
    (t = c :: r ∧ c ≠ dquote ∧ c ≠ backslash ∧ 0x20 ≤ c.toNat) ∨ r.length + 2 ≤ t.length := by
  cases h with
  | unescaped hq hb hc => exact .inl ⟨rfl, hq, hb, hc⟩
  | escape => right; simp
  | codePoint => right; simp
  | surrogatePair => right; simp; omega

/-- INTERNAL: reading a string's characters uses up at least one input character for each. -/
theorem JsonChars.length_le {t cs r : List Char} (h : JsonChars t cs r) :
    cs.length + r.length ≤ t.length := by
  induction h with
  | nil => simp
  | cons hc _ ih =>
    rcases hc.plain_or_escape with ⟨rfl, -⟩ | hl <;> simp at * <;> omega

/-- INTERNAL: characters read one for one are the input, and each stands for itself. -/
theorem JsonChars.plain_of_length {t cs r : List Char} (h : JsonChars t cs r)
    (hl : t.length ≤ cs.length + r.length) :
    t = cs ++ r ∧ ∀ c ∈ cs, c ≠ dquote ∧ c ≠ backslash ∧ 0x20 ≤ c.toNat := by
  induction h with
  | nil => simp
  | cons hc hcs ih =>
    have := hcs.length_le
    rcases hc.plain_or_escape with ⟨rfl, hp⟩ | hl'
    · obtain ⟨rfl, h⟩ := ih (by simp at hl; omega)
      exact ⟨rfl, List.forall_mem_cons.mpr ⟨hp, h⟩⟩
    · simp at hl; omega

/-- INTERNAL: characters that stand for themselves are read one for one. -/
theorem jsonChars_plain (cs r : List Char)
    (h : ∀ c ∈ cs, c ≠ dquote ∧ c ≠ backslash ∧ 0x20 ≤ c.toNat) : JsonChars (cs ++ r) cs r := by
  induction cs with
  | nil => exact .nil
  | cons c cs ih =>
    obtain ⟨⟨hq, hb, hc⟩, h⟩ := List.forall_mem_cons.mp h
    exact .cons (.unescaped hq hb hc) (ih h)

/-- INTERNAL: a text between quotes is a JSON string standing for the text and ending at the
closing quote exactly when the text is plain. -/
theorem jsonStr_quoted_iff (t : String) (rest : List Char) :
    JsonStr ((quoted t).data ++ rest) t.data rest ↔ JsonPlain t := by
  have e : (quoted t).data ++ rest = dquote :: (t.data ++ dquote :: rest) := by
    simp [quoted, dquote]
  constructor
  · rintro ⟨t', ht, h⟩
    rw [e, List.cons.injEq] at ht
    obtain ⟨-, rfl⟩ := ht
    exact (h.plain_of_length (by simp)).2
  · exact fun h => ⟨_, e, jsonChars_plain _ _ h⟩

/-! ## Text spliced between quotes -/

/-- `t` is written into `out` between a pair of quotes. -/
def Spliced (out t : String) : Prop :=
  ∃ pre post, out = pre ++ quoted t ++ post

/-- `t` is written into `out` as a JSON string literal that stands for `t` and ends at the quote
written after it. -/
def InLiteral (out t : String) : Prop :=
  ∃ pre post, out = pre ++ quoted t ++ post ∧ JsonStr ((quoted t).data ++ post.data) t.data post.data

/-- `t` is written into `out` between quotes without escaping: the literal stands for `t` exactly
when `t` is plain. -/
def SplicedRaw (out t : String) : Prop :=
  Spliced out t ∧ (InLiteral out t ↔ JsonPlain t)

/-- INTERNAL: text between quotes is read back exactly when it is plain. -/
theorem Spliced.raw {out t : String} (h : Spliced out t) : SplicedRaw out t := by
  refine ⟨h, ⟨fun ⟨pre, post, _, hs⟩ => (jsonStr_quoted_iff t post.data).mp hs, fun hp => ?_⟩⟩
  obtain ⟨pre, post, rfl⟩ := h
  exact ⟨pre, post, rfl, (jsonStr_quoted_iff t post.data).mpr hp⟩

/-- INTERNAL: text written before keeps a splice. -/
theorem Spliced.append_left {out t : String} (h : Spliced out t) (a : String) :
    Spliced (a ++ out) t := by
  obtain ⟨pre, post, rfl⟩ := h
  exact ⟨a ++ pre, post, by simp only [String.append_assoc]⟩

/-- INTERNAL: text written after keeps a splice. -/
theorem Spliced.append_right {out t : String} (h : Spliced out t) (b : String) :
    Spliced (out ++ b) t := by
  obtain ⟨pre, post, rfl⟩ := h
  exact ⟨pre, post ++ b, by simp only [String.append_assoc]⟩

/-- INTERNAL: a quoted text at the end of the output is spliced. -/
theorem spliced_quoted_end (a t : String) : Spliced (a ++ quoted t) t :=
  ⟨a, "", (String.append_empty _).symm⟩

/-- INTERNAL: `String.intercalate` only appends to what it has. -/
theorem intercalate_go_extends (acc sep : String) (l : List String) :
    ∃ x, String.intercalate.go acc sep l = acc ++ x := by
  induction l generalizing acc with
  | nil => exact ⟨"", by simp [String.intercalate.go]⟩
  | cons a l ih =>
    obtain ⟨x, hx⟩ := ih (acc ++ sep ++ a)
    exact ⟨sep ++ a ++ x, by rw [String.intercalate.go, hx]; simp only [String.append_assoc]⟩

/-- INTERNAL: each of a list of quoted texts joined by a separator is spliced. -/
theorem spliced_intercalate (sep : String) {t : String} {l : List String} (ht : t ∈ l) :
    Spliced (String.intercalate sep (l.map quoted)) t := by
  have go : ∀ (acc : String) (l : List String), t ∈ l →
      Spliced (String.intercalate.go acc sep (l.map quoted)) t := by
    intro acc l ht
    induction l generalizing acc with
    | nil => cases ht
    | cons a l ih =>
      rw [List.map_cons, String.intercalate.go]
      rcases List.mem_cons.mp ht with rfl | ht
      · obtain ⟨x, hx⟩ := intercalate_go_extends (acc ++ sep ++ quoted t) sep (l.map quoted)
        exact hx ▸ ⟨acc ++ sep, x, rfl⟩
      · exact ih _ ht
  cases l with
  | nil => cases ht
  | cons a l =>
    rw [List.map_cons, String.intercalate]
    rcases List.mem_cons.mp ht with rfl | ht
    · obtain ⟨x, hx⟩ := intercalate_go_extends (quoted t) sep (l.map quoted)
      exact hx ▸ ⟨"", x, rfl⟩
    · exact go _ l ht

/-- INTERNAL: the description cleaned of nothing is empty. -/
theorem cleanDesc_empty (yaml : Bool) : cleanDesc yaml "" = "" := by
  cases yaml <;> rfl

/-! ## `parseJsonVar` -/

/-- **`parseJsonVar` writes descriptor text into JSON string literals without escaping it.**
Take a descriptor whose `Type`, `Items`, `Description`, `Format` and `ApiHelp` lookups return
`ty`, `items`, `desc`, `fmt` and `help`. In the JSON fields the code writes the following between
quotes: every item of an `enum` with items, the help text joined to the cleaned description when
either is there, and the format without its quotes when there is one. In the `/json` sample it
writes the type's summary between quotes. Each such literal stands for the text written into it
exactly when the text is plain. Source: `DocumentBroker.cpp:2111-2313`. -/
theorem parseJsonVar_splices_raw (outYaml : Bool) (var vardata ty items desc fmt help : String)
    (hty : varKeyValue vardata "Type" = .ok ty) (hitems : varKeyValue vardata "Items" = .ok items)
    (hdesc : varKeyValue vardata "Description" = .ok desc)
    (hfmt : varKeyValue vardata "Format" = .ok fmt)
    (hhelp : varKeyValue vardata "ApiHelp" = .ok help) :
    (∃ databuf, parseJsonVar outYaml var vardata false false =
        .ok (.param outYaml var (jsonType ty) databuf) ∧
      (ty = "enum" → items ≠ "" → ∀ tok ∈ enumItems items, SplicedRaw databuf tok) ∧
      (desc ≠ "" ∨ help ≠ "" → SplicedRaw databuf (helpText " / " help (cleanDesc false desc))) ∧
      (fmt ≠ "" → SplicedRaw databuf (replaceChar fmt dquote ""))) ∧
    ∃ line, parseJsonVar outYaml var vardata true false = .ok (.sample line) ∧
      SplicedRaw line (sampleValue ty help (cleanDesc false desc)) := by
  have hclean : (if desc ≠ "" ∨ help ≠ "" then cleanDesc false desc else desc) =
      cleanDesc false desc := by
    split_ifs with h
    · rfl
    · rw [of_not_not (not_or.mp h).1, cleanDesc_empty]
  simp only [parseJsonVar, hty, hitems, hdesc, hfmt, hhelp, bind, Except.bind, pure, Except.pure,
    Bool.false_eq_true, if_false, if_true, hclean]
  refine ⟨⟨_, rfl, fun he hne tok htok => ?_, fun hd => ?_, fun hf => ?_⟩, _, rfl,
    (spliced_quoted_end _ _).raw⟩
  -- each piece is spliced in its own field, with the other fields written around it
  · rw [if_pos ⟨he, hne⟩]
    exact (spliced_intercalate "," htok |>.append_left _ |>.append_right "]" |>.append_right _
      |>.append_right _ |>.append_right _).raw
  · rw [if_pos hd]
    exact (spliced_quoted_end _ _ |>.append_left _ |>.append_right _ |>.append_right _).raw
  · rw [if_pos hf]
    exact (spliced_quoted_end _ _ |>.append_left _ |>.append_right _).raw

/-- A quote in the help text and a backslash in an item break their literals, while the plain
item and the format read back. In the `/json` sample the quote breaks the summary. -/
theorem parseJsonVar_quote_backslash :
    (∃ databuf, parseJsonVar false "v" "Type:Enum;Items:a,b\\c;ApiHelp:say \"hi\";Format:f"
        false false = .ok (.param false "v" "string" databuf) ∧
      InLiteral databuf "a" ∧ ¬ InLiteral databuf "b\\c" ∧ ¬ InLiteral databuf "say \"hi\"" ∧
      InLiteral databuf "f") ∧
    ∃ line, parseJsonVar false "v" "Type:Enum;Items:a,b\\c;ApiHelp:say \"hi\";Format:f"
        true false = .ok (.sample line) ∧ ¬ InLiteral line "enum  // say \"hi\"" := by
  obtain ⟨⟨databuf, h, henum, hdesc, hfmt⟩, line, hl, hsample⟩ :=
    parseJsonVar_splices_raw false "v" "Type:Enum;Items:a,b\\c;ApiHelp:say \"hi\";Format:f"
      "enum" "a,b\\c" "" "f" "say \"hi\"" rfl rfl rfl rfl rfl
  exact ⟨⟨databuf, h, (henum rfl (by decide) "a" (by decide)).2.mpr (by decide),
    fun hb => absurd ((henum rfl (by decide) "b\\c" (by decide)).2.mp hb) (by decide),
    fun hq => absurd ((hdesc (.inr (by decide))).2.mp hq) (by decide),
    (hfmt (by decide)).2.mpr (by decide)⟩,
    line, hl, fun hq => absurd (hsample.2.mp hq) (by decide)⟩

end Loolwsd.Analysis
