import Loolwsd.Model.ContentTree
import Mathlib.Data.List.Nodup
import Mathlib.Tactic.Ring

/-!
# Identities in the content tree

The parser's edits act on every element of a given identity, and its pointers resolve to the
first one found; in a parsed document no two elements share an identity, and every edit the
merge makes keeps it so. This file counts the identities of a chain through the three kinds of
edit the parser makes:

* a **replacement** (`replaceChild`, `removeChild`) drops the subtree of each outermost element
  of the identity and puts the new node in its place (`count_ids_edit_const`);
* an **insertion** after an element adds the new node's identities (`count_ids_edit_append`);
* an **update** of an element itself keeps every identity (`ids_edit_of_ids`).

From the counts: in a chain of distinct identities, an element below a replaced element is gone
after the replacement (`not_mem_edit_const`), and a replacement or an insertion of new
elements keeps the identities distinct (`nodup_edit_const`, `nodup_edit_append`). The place a
pointer resolves to lies below each of its ancestors (`place_ups_inside`).
-/

set_option autoImplicit false

namespace Loolwsd.Analysis

open Loolwsd.Model

/-! ## Inside and outside an element -/

/-- The identities of a chain outside the subtrees of its outermost `i` elements. -/
def idsOutside (i : Nat) : XmlNode → List Nat
  | .nil => []
  | .text _ nx => idsOutside i nx
  | .element j _ _ fc nx =>
    if j = i then idsOutside i nx else j :: (idsOutside i fc ++ idsOutside i nx)

/-- The identities in the subtrees of the outermost `i` elements of a chain. -/
def idsInside (i : Nat) : XmlNode → List Nat
  | .nil => []
  | .text _ nx => idsInside i nx
  | .element j _ _ fc nx =>
    if j = i then j :: (fc.ids ++ idsInside i nx) else idsInside i fc ++ idsInside i nx

/-- The number of outermost `i` elements of a chain. -/
def tops (i : Nat) : XmlNode → Nat
  | .nil => 0
  | .text _ nx => tops i nx
  | .element j _ _ fc nx => if j = i then tops i nx + 1 else tops i fc + tops i nx

@[simp] theorem ids_append (c d : XmlNode) : (c.append d).ids = c.ids ++ d.ids := by
  induction c with
  | nil => rfl
  | text _ nx ih => simp [XmlNode.append, XmlNode.ids, ih]
  | element _ _ _ _ nx _ ih => simp [XmlNode.append, XmlNode.ids, ih]

/-- INTERNAL: every identity of a chain is inside or outside the outermost `i` elements. -/
theorem count_ids_split (i x : Nat) (c : XmlNode) :
    c.ids.count x = (idsOutside i c).count x + (idsInside i c).count x := by
  induction c with
  | nil => rfl
  | text _ nx ih => simpa [XmlNode.ids, idsOutside, idsInside] using ih
  | element j _ _ fc nx ihf ihn =>
    by_cases hj : j = i
    · simp only [XmlNode.ids, idsOutside, idsInside, hj, ite_true, List.count_cons,
        List.count_append, ihn]
      omega
    · simp only [XmlNode.ids, idsOutside, idsInside, hj, ite_false, List.count_cons,
        List.count_append, ihf, ihn]
      omega

theorem mem_ids_of_mem_idsInside {i x : Nat} {c : XmlNode} (h : x ∈ idsInside i c) :
    x ∈ c.ids := by
  rw [← List.count_pos_iff] at h ⊢
  rw [count_ids_split i]
  omega

/-- INTERNAL: a chain has at most as many outermost `i` elements as `i` elements. -/
theorem tops_le_count (i : Nat) (c : XmlNode) : tops i c ≤ c.ids.count i := by
  induction c with
  | nil => exact Nat.le_refl 0
  | text _ nx ih => exact ih
  | element j _ _ fc nx ihf ihn =>
    by_cases hj : j = i
    · simp only [tops, XmlNode.ids, hj, ite_true, List.count_cons, List.count_append,
        beq_self_eq_true]
      omega
    · simp only [tops, XmlNode.ids, hj, ite_false, List.count_cons, List.count_append]
      omega

/-! ## The three edits -/

/-- **A replacement** drops the outermost `i` subtrees and adds the new node once for each. -/
theorem count_ids_edit_const (i x : Nat) (n c : XmlNode) :
    (c.edit i fun _ => n).ids.count x =
      (idsOutside i c).count x + tops i c * n.ids.count x := by
  induction c with
  | nil => simp [XmlNode.edit, XmlNode.ids, idsOutside, tops]
  | text _ nx ih => simpa [XmlNode.edit, XmlNode.ids, idsOutside, tops] using ih
  | element j _ _ fc nx ihf ihn =>
    by_cases hj : j = i
    · simp only [XmlNode.edit, hj, ite_true, ids_append, List.count_append, ihn, idsOutside,
        tops]
      ring
    · simp only [XmlNode.edit, hj, ite_false, XmlNode.ids, List.count_cons, List.count_append,
        ihf, ihn, idsOutside, tops]
      ring

/-- **An insertion** after each outermost `i` element adds the new node's identities. -/
theorem count_ids_edit_append (i x : Nat) (n c : XmlNode) :
    (c.edit i fun e => e.append n).ids.count x = c.ids.count x + tops i c * n.ids.count x := by
  induction c with
  | nil => simp [XmlNode.edit, XmlNode.ids, tops]
  | text _ nx ih => simpa [XmlNode.edit, XmlNode.ids, tops] using ih
  | element j _ _ fc nx ihf ihn =>
    by_cases hj : j = i
    · simp only [XmlNode.edit, hj, ite_true, ids_append, XmlNode.append, XmlNode.ids,
        List.count_cons, List.count_append, ihn, tops, List.nil_append]
      ring
    · simp only [XmlNode.edit, hj, ite_false, XmlNode.ids, List.count_cons, List.count_append,
        ihf, ihn, tops]
      ring

/-- **An update** of the element itself keeps the chain's identities. -/
theorem ids_edit_of_ids {i : Nat} {g : XmlNode → XmlNode}
    (hg : ∀ j n a fc, (g (.element j n a fc .nil)).ids = j :: fc.ids) (c : XmlNode) :
    (c.edit i g).ids = c.ids := by
  induction c with
  | nil => rfl
  | text _ nx ih => simpa [XmlNode.edit, XmlNode.ids] using ih
  | element j _ _ fc nx ihf ihn =>
    by_cases hj : j = i
    · simp [XmlNode.edit, hj, hg, ihn, XmlNode.ids]
    · simp [XmlNode.edit, hj, ihf, ihn, XmlNode.ids]

@[simp] theorem ids_setAttribute (k v : String) (e : XmlNode) :
    (e.setAttribute k v).ids = e.ids := by
  cases e <;> rfl

@[simp] theorem ids_removeAttribute (k : String) (e : XmlNode) :
    (e.removeAttribute k).ids = e.ids := by
  cases e <;> rfl

/-! ## Distinct identities -/

section Distinct

variable {a x : Nat} {c n : XmlNode}

/-- **An element below a replaced element is gone** after the replacement, in a chain of
distinct identities, unless the new node holds it. -/
theorem not_mem_edit_const (hnd : c.ids.Nodup) (hx : x ∈ idsInside a c) (hn : x ∉ n.ids) :
    x ∉ (c.edit a fun _ => n).ids := by
  have h1 := List.nodup_iff_count_le_one.mp hnd x
  have h2 := List.count_pos_iff.mpr hx
  have h3 := List.count_eq_zero.mpr hn
  rw [count_ids_split a] at h1
  rw [← List.count_eq_zero, count_ids_edit_const, h3]
  omega

/-- A replacement brings in no identity but the new node's. -/
theorem mem_edit_const (h : x ∈ (c.edit a fun _ => n).ids) : x ∈ c.ids ∨ x ∈ n.ids := by
  rw [← List.count_pos_iff, count_ids_edit_const] at h
  rw [← List.count_pos_iff, ← List.count_pos_iff, count_ids_split a]
  rcases Nat.eq_zero_or_pos (n.ids.count x) with h0 | h0
  · rw [h0, Nat.mul_zero] at h
    omega
  · exact .inr h0

/-- An insertion brings in no identity but the new node's. -/
theorem mem_edit_append (h : x ∈ (c.edit a fun e => e.append n).ids) :
    x ∈ c.ids ∨ x ∈ n.ids := by
  rw [← List.count_pos_iff, count_ids_edit_append] at h
  rw [← List.count_pos_iff, ← List.count_pos_iff]
  rcases Nat.eq_zero_or_pos (n.ids.count x) with h0 | h0
  · rw [h0, Nat.mul_zero] at h
    omega
  · exact .inr h0

/-- INTERNAL: a count `c + t * m` stays at most one when `t` and `m` do and `m` is zero
wherever `c` is not. -/
theorem count_add_mul_le_one {c0 t m : Nat} (hc : c0 ≤ 1) (ht : t ≤ 1) (hm : m ≤ 1)
    (hdis : 0 < m → c0 = 0) : c0 + t * m ≤ 1 := by
  have := Nat.mul_le_mul ht hm
  rcases Nat.eq_zero_or_pos m with h0 | h0
  · rw [h0, Nat.mul_zero]; omega
  · rw [hdis h0]; omega

/-- **A replacement by new elements keeps the identities distinct.** -/
theorem nodup_edit_const (hc : c.ids.Nodup) (hn : n.ids.Nodup) (hdis : ∀ y ∈ n.ids, y ∉ c.ids) :
    (c.edit a fun _ => n).ids.Nodup := by
  refine List.nodup_iff_count_le_one.mpr fun y => ?_
  have hy := List.nodup_iff_count_le_one.mp hc y
  rw [count_ids_edit_const, count_ids_split a y c] at *
  refine count_add_mul_le_one (by omega)
    ((tops_le_count a c).trans (List.nodup_iff_count_le_one.mp hc a))
    (List.nodup_iff_count_le_one.mp hn y) fun hm => ?_
  have := List.count_eq_zero.mpr (hdis y (List.count_pos_iff.mp hm))
  rw [count_ids_split a] at this
  omega

/-- **An insertion of new elements keeps the identities distinct.** -/
theorem nodup_edit_append (hc : c.ids.Nodup) (hn : n.ids.Nodup)
    (hdis : ∀ y ∈ n.ids, y ∉ c.ids) : (c.edit a fun e => e.append n).ids.Nodup := by
  refine List.nodup_iff_count_le_one.mpr fun y => ?_
  rw [count_ids_edit_append]
  exact count_add_mul_le_one (List.nodup_iff_count_le_one.mp hc y)
    ((tops_le_count a c).trans (List.nodup_iff_count_le_one.mp hc a))
    (List.nodup_iff_count_le_one.mp hn y)
    fun hm => List.count_eq_zero.mpr (hdis y (List.count_pos_iff.mp hm))

end Distinct

/-! ## Where a pointer resolves -/

theorem place_mem_ids {x : Nat} :
    ∀ {c prev : XmlNode} {r : XmlNode × XmlNode × List XmlNode}, c.place x prev = some r →
      x ∈ c.ids := by
  intro c
  induction c with
  | nil => intro _ _ h; cases h
  | text _ nx ih => intro _ _ h; exact ih h
  | element j _ _ fc nx ihf ihn =>
    intro _ _ h
    simp only [XmlNode.place] at h
    split at h
    · simp_all [XmlNode.ids]
    · split at h
      · exact List.mem_cons_of_mem _ (List.mem_append_left _ (ihf ‹_›))
      · exact List.mem_cons_of_mem _ (List.mem_append_right _ (ihn h))

theorem place_isSome {x : Nat} :
    ∀ {c : XmlNode}, x ∈ c.ids → ∀ prev : XmlNode, (c.place x prev).isSome := by
  intro c
  induction c with
  | nil => intro h; cases h
  | text _ nx ih => intro h prev; exact ih h _
  | element j _ _ fc nx ihf ihn =>
    intro h prev
    simp only [XmlNode.place]
    split
    · rfl
    · rename_i hj
      split
      · rfl
      · rename_i hf
        simp only [XmlNode.ids, List.mem_cons, List.mem_append] at h
        rcases h with h | h | h
        · exact absurd h.symm hj
        · have := ihf h .nil
          rw [hf] at this
          cases this
        · exact ihn h _

/-- **A pointer's element lies below each of its ancestors.** -/
theorem place_ups_inside {x a : Nat} :
    ∀ {c prev e pv : XmlNode} {as : List XmlNode}, c.place x prev = some (e, pv, as) →
      ∀ anc ∈ as, anc.ident? = some a → x ∈ idsInside a c := by
  intro c
  induction c with
  | nil => intro _ _ _ _ h; cases h
  | text _ nx ih => intro _ _ _ _ h; exact ih h
  | element j _ _ fc nx ihf ihn =>
    intro _ _ _ _ h anc hanc hid
    simp only [XmlNode.place] at h
    split at h
    · simp_all
    · split at h
      · rename_i e0 pv0 as0 hf
        simp only [Option.some.injEq, Prod.mk.injEq] at h
        obtain ⟨-, -, rfl⟩ := h
        rcases List.mem_append.mp hanc with hin | hin
        · have := ihf hf anc hin hid
          simp only [idsInside]
          split
          · exact List.mem_cons_of_mem _ (List.mem_append_left _ (mem_ids_of_mem_idsInside this))
          · exact List.mem_append_left _ this
        · simp only [List.mem_singleton] at hin
          subst hin
          simp only [XmlNode.ident?, Option.some.injEq] at hid
          subst hid
          simp only [idsInside, ite_true]
          exact List.mem_cons_of_mem _ (List.mem_append_left _ (place_mem_ids hf))
      · have := ihn h anc hanc hid
        simp only [idsInside]
        split
        · exact List.mem_cons_of_mem _ (List.mem_append_right _ this)
        · exact List.mem_append_right _ this

/-- A pointer's element lies in its own subtree. -/
theorem place_self_inside {x : Nat} :
    ∀ {c prev : XmlNode} {r : XmlNode × XmlNode × List XmlNode}, c.place x prev = some r →
      x ∈ idsInside x c := by
  intro c
  induction c with
  | nil => intro _ _ h; cases h
  | text _ nx ih => intro _ _ h; exact ih h
  | element j _ _ fc nx ihf ihn =>
    intro _ _ h
    simp only [XmlNode.place] at h
    split at h
    · simp_all [idsInside]
    · rename_i hj
      have hj' : ¬ j = x := hj
      split at h
      · simpa [idsInside, hj'] using .inl (ihf ‹_›)
      · simpa [idsInside, hj'] using .inr (ihn h)

/-! ## The tree without some subtrees -/

/-- The chain with the subtree of each element whose identity is in `R` cut away: what lies
outside the rows a merge has still to fill. -/
def prune (R : List Nat) : XmlNode → XmlNode
  | .nil => .nil
  | .text d nx => .text d (prune R nx)
  | .element j n a fc nx =>
    if j ∈ R then prune R nx else .element j n a (prune R fc) (prune R nx)

/-- A change of an element's attributes only: its identity, name and children stay. -/
def AttrsOnly (g : XmlNode → XmlNode) : Prop :=
  ∀ j n a fc, ∃ a', g (.element j n a fc .nil) = .element j n a' fc .nil

@[simp] theorem prune_append (R : List Nat) (c d : XmlNode) :
    prune R (c.append d) = (prune R c).append (prune R d) := by
  induction c with
  | nil => rfl
  | text _ nx ih => simp [XmlNode.append, prune, ih]
  | element j _ _ _ nx _ ih => by_cases hj : j ∈ R <;> simp [XmlNode.append, prune, ih, hj]

theorem prune_nil (c : XmlNode) : prune [] c = c := by
  induction c with
  | nil => rfl
  | text _ nx ih => simp [prune, ih]
  | element _ _ _ _ _ ihf ihn => simp [prune, ihf, ihn]

theorem mem_of_mem_prune {R : List Nat} {y : Nat} :
    ∀ {c : XmlNode}, y ∈ (prune R c).ids → y ∈ c.ids := by
  intro c
  induction c with
  | nil => exact id
  | text _ nx ih => exact ih
  | element j _ _ fc nx ihf ihn =>
    by_cases hj : j ∈ R <;> simp only [prune, hj, ite_true, ite_false, XmlNode.ids,
      List.mem_cons, List.mem_append]
    · exact fun h => .inr (.inr (ihn h))
    · rintro (h | h | h)
      exacts [.inl h, .inr (.inl (ihf h)), .inr (.inr (ihn h))]

/-- What lies outside the subtree of the element itself lies outside the chain's. -/
theorem prune_self_subset (R : List Nat) (j : Nat) (n : String) (a : List (String × String))
    (fc nx : XmlNode) {y : Nat} (h : y ∈ (prune R (.element j n a fc .nil)).ids) :
    y ∈ (prune R (.element j n a fc nx)).ids := by
  by_cases hj : j ∈ R
  · simp [prune, hj, XmlNode.ids] at h
  · simp only [prune, hj, ite_false, XmlNode.ids, List.mem_cons, List.mem_append,
      List.not_mem_nil, or_false] at h ⊢
    exact h.imp_right .inl

/-- **An edit brings in, outside `R`, only what its new nodes bring**, when it does so for each
element it edits. -/
theorem mem_prune_edit {R N : List Nat} {i : Nat} {h : XmlNode → XmlNode}
    (hh : ∀ n a fc, ∀ y ∈ (prune R (h (.element i n a fc .nil))).ids,
      y ∈ (prune R (.element i n a fc .nil)).ids ∨ y ∈ N) :
    ∀ (c : XmlNode), ∀ y ∈ (prune R (c.edit i h)).ids, y ∈ (prune R c).ids ∨ y ∈ N := by
  intro c
  induction c with
  | nil => intro y hy; cases hy
  | text _ nx ih => exact ih
  | element j n a fc nx ihf ihn =>
    intro y hy
    have hnx : ∀ {y}, y ∈ (prune R nx).ids → y ∈ (prune R (.element j n a fc nx)).ids := by
      intro y h
      by_cases hj : j ∈ R <;> simp [prune, hj, XmlNode.ids, h]
    by_cases hji : j = i
    · subst hji
      simp only [XmlNode.edit, ite_true, prune_append, ids_append, List.mem_append] at hy
      rcases hy with hy | hy
      · exact (hh n a fc y hy).imp_left (prune_self_subset R j n a fc nx)
      · exact (ihn y hy).imp_left hnx
    · simp only [XmlNode.edit, hji, ite_false] at hy
      by_cases hj : j ∈ R
      · simp only [prune, hj, ite_true] at hy ⊢
        exact ihn y hy
      · simp only [prune, hj, ite_false, XmlNode.ids, List.mem_cons, List.mem_append] at hy ⊢
        rcases hy with rfl | hy | hy
        · exact .inl (.inl rfl)
        · exact (ihf y hy).imp_left fun h => .inr (.inl h)
        · exact (ihn y hy).imp_left fun h => .inr (.inr h)

/-- A replacement brings in, outside `R`, no identity but the new node's. -/
theorem mem_prune_edit_const {R : List Nat} {i : Nat} {n : XmlNode} (c : XmlNode) {y : Nat}
    (hy : y ∈ (prune R (c.edit i fun _ => n)).ids) : y ∈ (prune R c).ids ∨ y ∈ n.ids :=
  mem_prune_edit (fun _ _ _ _ h => .inr (mem_of_mem_prune h)) c y hy

/-- An insertion brings in, outside `R`, no identity but the new node's. -/
theorem mem_prune_edit_append {R : List Nat} {i : Nat} {n : XmlNode} (c : XmlNode) {y : Nat}
    (hy : y ∈ (prune R (c.edit i fun e => e.append n)).ids) :
    y ∈ (prune R c).ids ∨ y ∈ n.ids := by
  refine mem_prune_edit (fun _ _ _ y h => ?_) c y hy
  simp only [prune_append, ids_append, List.mem_append] at h
  exact h.imp_right mem_of_mem_prune

/-- A change of attributes brings in nothing. -/
theorem mem_prune_edit_attrs {R : List Nat} {i : Nat} {g : XmlNode → XmlNode}
    (hg : AttrsOnly g) (c : XmlNode) {y : Nat} (hy : y ∈ (prune R (c.edit i g)).ids) :
    y ∈ (prune R c).ids := by
  refine (mem_prune_edit (N := []) (fun n a fc y h => ?_) c y hy).resolve_right
    (List.not_mem_nil y)
  obtain ⟨a', he⟩ := hg i n a fc
  rw [he] at h
  by_cases hi : i ∈ R <;> simp_all [prune, XmlNode.ids]

theorem ids_edit_attrs {i : Nat} {g : XmlNode → XmlNode} (hg : AttrsOnly g) (c : XmlNode) :
    (c.edit i g).ids = c.ids :=
  ids_edit_of_ids (fun j n a fc => by obtain ⟨a', he⟩ := hg j n a fc; simp [he, XmlNode.ids])
    c

/-- **Removing the row `r` leaves outside the other rows only what lay outside all of them.** -/
theorem mem_prune_remove {R : List Nat} {r : Nat} :
    ∀ (c : XmlNode), ∀ y ∈ (prune R (c.edit r fun _ => .nil)).ids, y ∈ (prune (r :: R) c).ids := by
  intro c
  induction c with
  | nil => intro y hy; cases hy
  | text _ nx ih => exact ih
  | element j n a fc nx ihf ihn =>
    intro y hy
    by_cases hjr : j = r
    · subst hjr
      simp only [XmlNode.edit, ite_true] at hy
      simpa [prune] using ihn y hy
    · simp only [XmlNode.edit, hjr, ite_false] at hy
      by_cases hj : j ∈ R
      · simp only [prune, hj, ite_true] at hy
        simpa [prune, hj] using ihn y hy
      · have hj' : j ∉ r :: R := by simp [hjr, hj]
        simp only [prune, hj, hj', ite_false, XmlNode.ids, List.mem_cons,
          List.mem_append] at hy ⊢
        rcases hy with rfl | hy | hy
        exacts [.inl rfl, .inr (.inl (ihf y hy)), .inr (.inr (ihn y hy))]

/-- INTERNAL: an element below a cut row is counted once in the tree and not in what is left. -/
theorem count_prune_add_inside {R : List Nat} {r x : Nat} (hr : r ∈ R) (c : XmlNode) :
    (prune R c).ids.count x + (idsInside r c).count x ≤ c.ids.count x := by
  induction c with
  | nil => simp [prune, idsInside, XmlNode.ids]
  | text _ nx ih => exact ih
  | element j _ _ fc nx ihf ihn =>
    have hfc := count_ids_split r x fc
    by_cases hjr : j = r
    · subst hjr
      simp only [prune, hr, ite_true, idsInside, XmlNode.ids, List.count_cons,
        List.count_append]
      omega
    · by_cases hj : j ∈ R
      · simp only [prune, hj, hjr, ite_true, ite_false, idsInside, XmlNode.ids,
          List.count_cons, List.count_append]
        omega
      · simp only [prune, hj, hjr, ite_false, idsInside, XmlNode.ids, List.count_cons,
          List.count_append]
        omega

/-- **What lies below a cut row is not left**, in a tree of distinct identities. -/
theorem not_mem_prune_of_inside {R : List Nat} {r x : Nat} {c : XmlNode} (hnd : c.ids.Nodup)
    (hr : r ∈ R) (hx : x ∈ idsInside r c) : x ∉ (prune R c).ids := by
  have h1 := count_prune_add_inside (x := x) hr c
  have h2 := List.nodup_iff_count_le_one.mp hnd x
  have h3 := List.count_pos_iff.mpr hx
  rw [← List.count_eq_zero]
  omega

/-- Cutting more rows leaves less. -/
theorem mem_prune_mono {R R' : List Nat} (hR : ∀ r ∈ R, r ∈ R') {y : Nat} :
    ∀ {c : XmlNode}, y ∈ (prune R' c).ids → y ∈ (prune R c).ids := by
  intro c
  induction c with
  | nil => exact id
  | text _ nx ih => exact ih
  | element j n a fc nx ihf ihn =>
    by_cases hj' : j ∈ R'
    · have hn : y ∈ (prune R nx).ids → y ∈ (prune R (.element j n a fc nx)).ids := by
        by_cases hj : j ∈ R <;> simp_all [prune, XmlNode.ids]
      simp only [prune, hj', ite_true]
      exact fun h => hn (ihn h)
    · have hj : j ∉ R := fun h => hj' (hR j h)
      simp only [prune, hj', hj, ite_false, XmlNode.ids, List.mem_cons, List.mem_append]
      rintro (h | h | h)
      exacts [.inl h, .inr (.inl (ihf h)), .inr (.inr (ihn h))]

theorem mem_ids_of_mem_byTag {tag : String} {y : Nat} :
    ∀ {c : XmlNode}, y ∈ c.byTag tag → y ∈ c.ids := by
  intro c
  induction c with
  | nil => exact id
  | text _ nx ih => exact ih
  | element j n _ fc nx ihf ihn =>
    simp only [XmlNode.byTag, XmlNode.ids, List.mem_append, List.mem_cons]
    rintro (h | h | h)
    · by_cases hn : n = tag
      · simp only [hn, ite_true, List.mem_singleton] at h
        exact .inl h
      · simp [hn] at h
    · exact .inr (.inl (ihf h))
    · exact .inr (.inr (ihn h))

/-! ## Copies -/

/-- `cloneNode(true)` numbers the copy's elements consecutively from the next free identity. -/
theorem ids_renumber (c : XmlNode) :
    ∀ n, ∃ m, (c.renumber n).1.ids = List.range' n m ∧ (c.renumber n).2 = n + m := by
  induction c with
  | nil => exact fun n => ⟨0, rfl, rfl⟩
  | text _ nx ih => exact ih
  | element _ _ _ fc nx ihf ihn =>
    intro n
    obtain ⟨m1, h1, e1⟩ := ihf (n + 1)
    obtain ⟨m2, h2, e2⟩ := ihn (fc.renumber (n + 1)).2
    refine ⟨m1 + m2 + 1, ?_, ?_⟩
    · simp only [XmlNode.renumber, XmlNode.ids]
      rw [h1, h2, e1, List.range'_succ, List.range'_append_1, Nat.add_comm m1 m2]
    · simp only [XmlNode.renumber]
      rw [e2, e1]
      omega

/-! ## The merge data as association lists -/

section Lookup

variable {β : Type}

/-- INTERNAL: replacing the value of `k` in place is seen at `k` when `k` is there. -/
theorem lookup_map_replace (k k' : String) (v : β) : ∀ o : List (String × β),
    (o.map fun p => if p.1 = k then (k, v) else p).lookup k' =
      if k' = k then (o.lookup k).map fun _ => v else o.lookup k'
  | [] => by simp [List.lookup_cons]
  | (a, b) :: o => by
    have ih := lookup_map_replace k k' v o
    simp only [List.map_cons]
    by_cases ha : a = k
    · rw [if_pos ha]
      subst ha
      by_cases hk : k' = a
      · subst hk
        simp [List.lookup_cons]
      · simp [List.lookup_cons, beq_eq_false_iff_ne.mpr hk, hk, ih]
    · rw [if_neg ha]
      by_cases hk : k' = a
      · subst hk
        simp [List.lookup_cons, ha]
      · simp [List.lookup_cons, beq_eq_false_iff_ne.mpr hk, beq_eq_false_iff_ne.mpr (Ne.symm ha), ih]

/-- INTERNAL: an appended pair is seen at its key when the key was not there. -/
theorem lookup_append_single (k k' : String) (v : β) : ∀ o : List (String × β),
    o.lookup k = none → (o ++ [(k, v)]).lookup k' = if k' = k then some v else o.lookup k'
  | [], _ => by
    by_cases hk : k' = k
    · simp [List.lookup_cons, hk]
    · simp [List.lookup_cons, beq_eq_false_iff_ne.mpr hk, hk]
  | (a, b) :: o, h => by
    have ha : k ≠ a := by rintro rfl; simp [List.lookup_cons] at h
    have ih := lookup_append_single k k' v o (by
      simpa [List.lookup_cons, beq_eq_false_iff_ne.mpr ha] using h)
    by_cases hk : k' = a
    · subst hk
      simp [List.lookup_cons, Ne.symm ha]
    · simp [List.lookup_cons, beq_eq_false_iff_ne.mpr hk, ih]

/-- INTERNAL: the lookup after `set`, in the replace-or-append form every map of the model
has. -/
theorem lookup_replaceOrAppend (o : List (String × β)) (k k' : String) (v : β) :
    (if (o.lookup k).isSome then o.map (fun p => if p.1 = k then (k, v) else p)
      else o ++ [(k, v)]).lookup k' = if k' = k then some v else o.lookup k' := by
  by_cases h : (o.lookup k).isSome
  · rw [if_pos h, lookup_map_replace]
    obtain ⟨b, hb⟩ := Option.isSome_iff_exists.mp h
    simp [hb]
  · rw [if_neg h]
    exact lookup_append_single k k' v o (Option.not_isSome_iff_eq_none.mp h)

end Lookup

@[simp] theorem JsonObject.lookup_set (o : JsonObject) (k k' : String) (v : JsonValue) :
    (o.set k v).lookup k' = if k' = k then some v else o.lookup k' :=
  lookup_replaceOrAppend o k k' v


/-- INTERNAL: `get` of another key after `set`. -/
theorem JsonObject.get_set_ne (o : JsonObject) {k k' : String} (v : JsonValue) (h : k' ≠ k) :
    (o.set k v).get k' = o.get k' := by
  simp [JsonObject.get, h]

/-- INTERNAL: `get` of the key just set to a value that is not null. -/
theorem JsonObject.get_set_self (o : JsonObject) (k : String) {v : JsonValue} (h : v ≠ .null) :
    (o.set k v).get k = some v := by
  cases v <;> simp_all [JsonObject.get]

end Loolwsd.Analysis
