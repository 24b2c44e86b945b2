import Loolwsd.Model.DocKey

/-!
# Document keys are paths, and only paths

`getDocKey` keeps nothing of a URI but its path: host and port are dropped on purpose (aliases
of one host must share a broker), and the loop over the query parameters assigns nothing, so
the `rdid` parameter the comment above it asks for is dropped as well. The path itself is kept
whole, since `Poco::URI::encode` is a prefix code: `%` is always escaped, so a byte is read
back from its first character, and the two hex digits of an escape tell the byte
(`encodeByte_append_inj`, `uriEncode_inj`).

So two URIs share a key exactly when they have the same path (`doc_key_ignores_rdid`): the
documents `/?rdid=1` and `/?rdid=2` share one broker.
-/

set_option autoImplicit false

namespace Loolwsd.Analysis

open Loolwsd.Model

/-! ## The encoding is a prefix code -/

/-- INTERNAL: two hex digits below 16 are equal only for equal numbers. -/
theorem hexByte_inj : ∀ n m : Fin 16, hexByte n = hexByte m → n = m := by decide

/-- INTERNAL: `%` is always escaped, whatever the reserved characters. -/
theorem escapes_pct (r : List UInt8) : escapes r 0x25 = true := by
  simp [escapes, isUnreserved, illegalBytes]

/-- INTERNAL: a byte is read back from its encoding, and the rest from what follows. -/
theorem encodeByte_append_inj {r : List UInt8} {c1 c2 : UInt8} {t1 t2 : List UInt8}
    (h : encodeByte r c1 ++ t1 = encodeByte r c2 ++ t2) : c1 = c2 ∧ t1 = t2 := by
  unfold encodeByte at h
  split_ifs at h with h1 h2 h2
  · simp only [List.cons_append, List.nil_append, List.cons.injEq, true_and] at h
    obtain ⟨hi, lo, rfl⟩ := h
    have b1 : c1.toNat < 16 * 16 := c1.val.isLt
    have b2 : c2.toNat < 16 * 16 := c2.val.isLt
    have e1 := hexByte_inj ⟨_, Nat.div_lt_of_lt_mul b1⟩ ⟨_, Nat.div_lt_of_lt_mul b2⟩ hi
    have e2 := hexByte_inj ⟨_, Nat.mod_lt _ (by omega)⟩ ⟨_, Nat.mod_lt _ (by omega)⟩ lo
    simp only [Fin.mk.injEq] at e1 e2
    exact ⟨UInt8.toNat.inj (by omega), rfl⟩
  · simp only [List.cons_append, List.cons.injEq] at h
    exact absurd (h.1 ▸ escapes_pct r) h2
  · simp only [List.cons_append, List.cons.injEq] at h
    exact absurd (h.1 ▸ escapes_pct r) h1
  · simpa using h

/-- INTERNAL: no byte encodes to nothing. -/
theorem encodeByte_ne_nil (r : List UInt8) (c : UInt8) : encodeByte r c ≠ [] := by
  unfold encodeByte; split <;> simp

/-- **`Poco::URI::encode` is injective**, for every set of reserved characters. -/
theorem uriEncode_inj (r : List UInt8) :
    ∀ {s1 s2 : List UInt8}, uriEncode s1 r = uriEncode s2 r → s1 = s2 := by
  intro s1
  induction s1 with
  | nil =>
    intro s2 h
    cases s2 with
    | nil => rfl
    | cons c t => simp [uriEncode, encodeByte_ne_nil] at h
  | cons c1 t1 ih =>
    intro s2 h
    cases s2 with
    | nil => simp [uriEncode, encodeByte_ne_nil] at h
    | cons c2 t2 =>
      obtain ⟨rfl, ht⟩ := encodeByte_append_inj (by simpa [uriEncode] using h)
      rw [ih ht]

/-! ## `getDocKey` -/

/-- INTERNAL: the loop over the query parameters leaves the key as it was.
Source: `DocumentBroker.cpp:141-149`. -/
theorem rdidLoop_eq (docKey : List UInt8) (params : List (String × String)) :
    rdidLoop docKey params = docKey := by
  induction params with
  | nil => rfl
  | cons p ps ih => unfold rdidLoop; split <;> simp [ih]

/-- INTERNAL: the key is the encoded path. -/
theorem getDocKey_eq (uri : PublicUri) : getDocKey uri = uriEncode uri.path [] := by
  simp [getDocKey, rdidLoop_eq]

/-- **The document key is the path, and only the path.** Two URIs get the same key exactly
when their paths are equal: the scheme, host and port, and every query parameter, `rdid`
included, are ignored, also when the path is `/`. Source: `DocumentBroker.cpp:127-154`. -/
theorem doc_key_ignores_rdid (u1 u2 : PublicUri) :
    getDocKey u1 = getDocKey u2 ↔ u1.path = u2.path := by
  rw [getDocKey_eq, getDocKey_eq]
  exact ⟨uriEncode_inj [], fun h => h ▸ rfl⟩

example : getDocKey ⟨"https", "h", 443, [0x2F], [("rdid", "1")]⟩ =
    getDocKey ⟨"https", "h", 443, [0x2F], [("rdid", "2")]⟩ := by decide

end Loolwsd.Analysis
