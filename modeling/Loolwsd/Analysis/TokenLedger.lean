import Loolwsd.Model.TokenLedger

/-!
# A WOPI token passes the check once

The token check is a check-then-insert over two statements, and two loads of one token can
both run their `SELECT` before either inserts. Only one of their `INSERT`s can succeed: the
table's key refuses the second, whose `tokenUsed` then throws, and its load fails. So, over
every interleaving of any number of loads (`token_single_use`):

* at most one load without `docpass=yes` passes the check with a token, and only by inserting
  it: the number of such loads never exceeds the number of times the table holds the token
  (`passedCount_le`);
* a load that has not run its `SELECT` when the token is in the table never passes
  (`Blocked`): its `SELECT` counts the token, and the table never loses it.
-/

set_option autoImplicit false

namespace Loolwsd.Analysis

open Loolwsd.Model

/-! ## One statement -/

/-- INTERNAL: the call that ran a statement becomes the call with its new phase. -/
theorem TokenWorld.step_cases {w w' : TokenWorld} {i : Nat} (h : w.step i = some w') :
    ∃ c, w.calls[i]? = some c ∧
      ((c.phase = .start ∧
          w' = { w with
            calls := w.calls.set i { c with phase := .selected (w.ledger.count c.token) } }) ∨
        (∃ n, c.phase = .selected n ∧ n > 0 ∧
          w' = { w with calls := w.calls.set i { c with phase := .answered (.ok false) } }) ∨
        (c.phase = .selected 0 ∧ ∃ l, w.ledger.insert c.token = .ok l ∧
          w' = ⟨l, w.calls.set i { c with phase := .answered (.ok true) }⟩) ∨
        (c.phase = .selected 0 ∧ ∃ e, w.ledger.insert c.token = .error e ∧
          w' = { w with calls := w.calls.set i { c with phase := .answered (.error e) } })) := by
  unfold TokenWorld.step at h
  cases hc : w.calls[i]? with
  | none => simp [hc] at h
  | some c =>
    refine ⟨c, rfl, ?_⟩
    simp only [hc] at h
    cases hp : c.phase with
    | start => simp only [hp, Option.some.injEq] at h; exact .inl ⟨rfl, h.symm⟩
    | answered r => simp [hp] at h
    | selected n =>
      simp only [hp] at h
      split at h
      · exact .inr (.inl ⟨n, rfl, ‹_›, (Option.some.inj h).symm⟩)
      · have hn : n = 0 := by omega
        subst hn
        cases hi : w.ledger.insert c.token with
        | ok l => simp only [hi, Option.some.injEq] at h; exact .inr (.inr (.inl ⟨rfl, l, rfl, h.symm⟩))
        | error e =>
          simp only [hi, Option.some.injEq] at h; exact .inr (.inr (.inr ⟨rfl, e, rfl, h.symm⟩))

/-- INTERNAL: the table only grows. -/
theorem Ledger.mem_insert {l l' : Ledger} {token t : String} (h : l.insert token = .ok l')
    (ht : t ∈ l.tokens) : t ∈ l'.tokens := by
  unfold Ledger.insert at h
  split at h
  · cases h
  · cases h; exact List.mem_cons_of_mem _ ht

theorem TokenWorld.step_ledger {w w' : TokenWorld} {i : Nat} (h : w.step i = some w') {t : String}
    (ht : t ∈ w.ledger.tokens) : t ∈ w'.ledger.tokens := by
  obtain ⟨c, -, ⟨-, rfl⟩ | ⟨n, -, -, rfl⟩ | ⟨-, l, hl, rfl⟩ | ⟨-, e, -, rfl⟩⟩ := TokenWorld.step_cases h
  · exact ht
  · exact ht
  · exact Ledger.mem_insert hl ht
  · exact ht

/-! ## At most one pass -/

/-- The loads without `docpass=yes` that have passed the check with the token `T`. -/
def passedCount (T : String) (w : TokenWorld) : Nat :=
  w.calls.countP fun c => c.token = T && !c.docpass && c.passes

/-- INTERNAL: a call that has not answered has not passed. -/
theorem passes_of_phase {c : TokenCall} (h : c.phase = .start ∨ ∃ n, c.phase = .selected n) :
    c.passes = false := by
  rcases h with h | ⟨n, h⟩ <;> simp [TokenCall.passes, h]

/-- INTERNAL: the count after one call changes phase. -/
theorem passedCount_set (T : String) (w : TokenWorld) (l : Ledger) {i : Nat} {c : TokenCall}
    (hc : w.calls[i]? = some c) (hp : c.passes = false) (c' : TokenCall) :
    passedCount T ⟨l, w.calls.set i c'⟩ =
      passedCount T w + if c'.token = T && !c'.docpass && c'.passes then 1 else 0 := by
  obtain ⟨hi, rfl⟩ := List.getElem?_eq_some_iff.mp hc
  simp [passedCount, List.countP_set _ _ _ _ hi, hp]

/-- **At most one load passes with a token, and only the one that inserted it.** The loads
without `docpass=yes` that passed with `T` are never more than the copies of `T` in the table,
which holds a key once. -/
theorem passedCount_le (T : String) {w : TokenWorld} (hw : TokenReachable w) :
    passedCount T w ≤ w.ledger.count T := by
  induction hw with
  | init l calls h =>
    have : passedCount T ⟨l, calls⟩ = 0 :=
      List.countP_eq_zero.mpr fun c hc => by simp [passes_of_phase (.inl (h c hc))]
    omega
  | @step w w' i _ hs ih =>
    obtain ⟨c, hc, hcase⟩ := TokenWorld.step_cases hs
    rcases hcase with ⟨hp, rfl⟩ | ⟨n, hp, -, rfl⟩ | ⟨hp, l, hl, rfl⟩ | ⟨hp, e, -, rfl⟩
    · rw [passedCount_set T w _ hc (passes_of_phase (.inl hp))]
      simpa [TokenCall.passes] using ih
    · rw [passedCount_set T w _ hc (passes_of_phase (.inr ⟨n, hp⟩))]
      cases hd : c.docpass <;> simpa [TokenCall.passes, passesTokenCheck, hd] using ih
    · rw [passedCount_set T w _ hc (passes_of_phase (.inr ⟨0, hp⟩))]
      unfold Ledger.insert at hl
      split at hl
      · cases hl
      · rename_i hnot
        cases hl
        by_cases hT : c.token = T
        · subst hT
          have h0 : passedCount c.token w = 0 := by
            have : w.ledger.count c.token = 0 := by simp [Ledger.count, hnot]
            omega
          simp only [Ledger.count, List.mem_cons_self, ite_true, h0]
          split <;> omega
        · simpa [Ledger.count, Ne.symm hT, hT] using ih
    · rw [passedCount_set T w _ hc (passes_of_phase (.inr ⟨0, hp⟩))]
      simpa [TokenCall.passes, passesTokenCheck] using ih

/-! ## After the token is in the table -/

/-- The call `i` is a load of `T` without `docpass=yes` that cannot pass any more: `T` is in
the table, the call has not passed, and a `SELECT` it ran counted `T`. -/
def Blocked (T : String) (i : Nat) (w : TokenWorld) : Prop :=
  T ∈ w.ledger.tokens ∧ ∃ c, w.calls[i]? = some c ∧ c.token = T ∧ c.docpass = false ∧
    c.passes = false ∧ ∀ n, c.phase = .selected n → 0 < n

/-- INTERNAL: a blocked call stays blocked, whichever call runs a statement. -/
theorem Blocked.step {T : String} {i j : Nat} {w w' : TokenWorld} (hb : Blocked T i w)
    (h : w.step j = some w') : Blocked T i w' := by
  obtain ⟨hT, c, hc, htok, hdp, hpass, hsel⟩ := hb
  refine ⟨TokenWorld.step_ledger h hT, ?_⟩
  obtain ⟨d, hd, hcase⟩ := TokenWorld.step_cases h
  by_cases hij : j = i
  · subst hij
    rw [hc, Option.some.injEq] at hd
    subst hd
    have hlen : j < w.calls.length := (List.getElem?_eq_some_iff.mp hc).1
    rcases hcase with ⟨-, rfl⟩ | ⟨n, -, -, rfl⟩ | ⟨hp, -⟩ | ⟨hp, -⟩
    · refine ⟨{ c with phase := .selected (w.ledger.count c.token) }, by simp [hlen], htok, hdp,
        rfl, ?_⟩
      simp [Ledger.count, htok, hT]
    · refine ⟨{ c with phase := .answered (.ok false) }, by simp [hlen], htok, hdp,
        by simp [TokenCall.passes, passesTokenCheck, hdp], by simp⟩
    · exact absurd (hsel 0 hp) (Nat.lt_irrefl 0)
    · exact absurd (hsel 0 hp) (Nat.lt_irrefl 0)
  · have hcalls : w'.calls[i]? = w.calls[i]? := by
      rcases hcase with ⟨-, rfl⟩ | ⟨n, -, -, rfl⟩ | ⟨-, l, -, rfl⟩ | ⟨-, e, -, rfl⟩ <;>
        exact List.getElem?_set_ne hij
    exact ⟨c, hcalls ▸ hc, htok, hdp, hpass, hsel⟩

theorem Blocked.steps {T : String} {i : Nat} {w w' : TokenWorld} (hb : Blocked T i w)
    (h : TokenSteps w w') : Blocked T i w' := by
  induction h with
  | refl => exact hb
  | step j hs _ ih => exact ih (hb.step hs)

/-! ## Single use -/

/-- **A WOPI token passes the check once.** Over every interleaving of the two statements of
any number of `tokenUsed` calls, at most one load without `docpass=yes` passes with a token;
and once the token is in the table, a load of it without `docpass=yes` that has not run its
`SELECT` never passes, whatever runs after. -/
theorem token_single_use (T : String) :
    (∀ w, TokenReachable w → passedCount T w ≤ 1) ∧
    (∀ (w w' : TokenWorld) (i : Nat) (c : TokenCall), TokenSteps w w' →
      T ∈ w.ledger.tokens → w.calls[i]? = some c → c.token = T → c.docpass = false →
      c.phase = .start → ∀ c', w'.calls[i]? = some c' → c'.passes = false) := by
  refine ⟨fun w hw => ?_, fun w w' i c hs hT hc htok hdp hst c' hc' => ?_⟩
  · have := passedCount_le T hw
    have : w.ledger.count T ≤ 1 := by unfold Ledger.count; split <;> omega
    omega
  · have hb : Blocked T i w :=
      ⟨hT, c, hc, htok, hdp, by simp [TokenCall.passes, hst], fun n h => by simp [hst] at h⟩
    obtain ⟨-, d, hd, -, -, hpass, -⟩ := hb.steps hs
    rw [hc', Option.some.injEq] at hd
    exact hd ▸ hpass

end Loolwsd.Analysis
