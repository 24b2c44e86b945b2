import Loolwsd.Model.AccessLog

/-!
# Concurrent merge requests lose counts

`updateAccessTimes` is a check-then-insert: when two requests for an endpoint with no row both
run their `select` before either writes, both insert, the key refuses the second `INSERT`,
and that request's process throws out of `updateAccessTimes` before it merges
(`interleaved_first_counts_collide`). The count then rises by one for two requests.

Beyond that collision the counting is exact, over every order in which the statements of
concurrent calls interleave:

* each endpoint's count is its count at the start plus the number of its calls that have
  returned: no returned call is lost or counted twice (`counts_match_returned_calls`). The
  `UPDATE` adds one in the database, so two calls that read the same count still add two;
* an endpoint that already has a row never sees a call fail: only first counts collide
  (`counted_endpoint_never_fails`);
* calls run one after another, in any order, all return, and each endpoint's count rises by the
  number of its calls (`sequential_calls_all_counted`).

The migration from the older table `access` counts each endpoint's `start` rows into
`summary` and empties `access`, whatever order the database lists the endpoints in. The count
it writes replaces the one `summary` had for that endpoint. On a database without the table
`access` the call throws (`changeTable_migrates`).
-/

set_option autoImplicit false

namespace Loolwsd.Analysis

open Loolwsd.Model

/-- INTERNAL: an endpoint without a row reads -1, and its `insert` goes through and counts one. -/
theorem Summary.select_insert_of_none {s : Summary} {api : String} (h : s.rows.lookup api = none) :
    s.select api = -1 ∧ ∃ s', s.insert api = .ok s' ∧ s'.accessTimes api = 1 ∧
      s'.select api = 1 := by
  have hk : api ∉ s.rows.map Prod.fst := by
    intro hm
    obtain ⟨p, hp, hpe⟩ := List.mem_map.mp hm
    have := List.lookup_eq_none_iff.mp h p hp
    simp [hpe] at this
  refine ⟨by simp [Summary.select, h], ⟨(api, 1) :: s.rows, List.nodup_cons.mpr ⟨hk, s.nodup⟩⟩,
    by simp [Summary.insert, hk], ?_, ?_⟩ <;>
    simp [Summary.accessTimes, Summary.select, Summary.readInt]

/-- INTERNAL: a count from 0 up to `2 ^ 32 - 2` does not read as -1. -/
theorem Summary.readInt_ne_neg_one {x : Int} (h0 : 0 ≤ x) (h : x < 4294967295) :
    Summary.readInt x ≠ -1 := by
  unfold Summary.readInt
  split_ifs <;> omega

/-- **Two first counts of an endpoint collide.** From any table with no row for the endpoint,
when two requests both run their `select` before either writes, the second `INSERT` is refused
and its call throws: the count rises by one for the two requests.
Source: `DocumentBroker.cpp:1807-1847`. -/
theorem interleaved_first_counts_collide (s : Summary) (api : String)
    (h : s.rows.lookup api = none) :
    ∃ w, CountWorld.run ⟨s, [⟨api, .start⟩, ⟨api, .start⟩]⟩ [0, 1, 0, 1] = some w ∧
      w.summary.accessTimes api = s.accessTimes api + 1 ∧
      ∃ e, (w.calls[1]?).map CountCall.phase = some (.done (.error e)) := by
  obtain ⟨hsel, s', hins, hcount, hsel'⟩ := Summary.select_insert_of_none h
  have h0 : s.accessTimes api = 0 := by simp [Summary.accessTimes, h]
  have hins' : s'.insert api = .error (.raised "UNIQUE constraint failed: summary.api") := by
    have hk : api ∈ s'.rows.map Prod.fst := by
      have : (s'.rows.lookup api).isSome := by
        simp only [Summary.select] at hsel'
        cases hl : s'.rows.lookup api <;> simp_all
      obtain ⟨p, hp, hpe⟩ := List.lookup_isSome_iff.mp this
      exact List.mem_map.mpr ⟨p, hp, (beq_iff_eq.mp hpe).symm⟩
    simp [Summary.insert, hk]
  refine ⟨⟨s', [⟨api, .done (.ok ())⟩, ⟨api, .done (.error (.raised
    "UNIQUE constraint failed: summary.api"))⟩]⟩, ?_, by rw [hcount, h0]; rfl, _, rfl⟩
  simp [CountWorld.run, CountWorld.step, hsel, hins, hins']

/-- Two merge requests of a fresh endpoint, interleaved: one of them throws, and the endpoint
is counted once. -/
theorem interleaved_first_counts_collide_fresh :
    (Summary.empty.rows.lookup "merge" = none) ∧
    ∃ w, CountWorld.run ⟨Summary.empty, [⟨"merge", .start⟩, ⟨"merge", .start⟩]⟩ [0, 1, 0, 1] =
        some w ∧
      w.summary.accessTimes "merge" = Summary.empty.accessTimes "merge" + 1 ∧
      ∃ e, (w.calls[1]?).map CountCall.phase = some (.done (.error e)) :=
  ⟨rfl, interleaved_first_counts_collide Summary.empty "merge" rfl⟩

/-! ## Tables and statements -/

/-- INTERNAL: the `UPDATE` adds one to the row it hits. -/
theorem lookup_bump (api a : String) (rows : List (String × Int)) :
    (rows.map fun r => if r.1 = api then (r.1, r.2 + 1) else r).lookup a =
      (rows.lookup a).map fun v => if a = api then v + 1 else v := by
  induction rows with
  | nil => rfl
  | cons r rows ih =>
    obtain ⟨k, v⟩ := r
    have hr : (if k = api then (k, v + 1) else (k, v)) = (k, if k = api then v + 1 else v) := by
      split_ifs <;> rfl
    rw [List.map_cons, hr]
    simp only [List.lookup_cons]
    cases h : a == k
    · exact ih
    · obtain rfl := beq_iff_eq.mp h
      rfl

/-- INTERNAL: the table after an `UPDATE`. -/
theorem Summary.lookup_update (s : Summary) (api a : String) :
    (s.update api).rows.lookup a = (s.rows.lookup a).map fun v => if a = api then v + 1 else v :=
  lookup_bump api a s.rows

/-- INTERNAL: an `INSERT` that goes through finds no row and adds the row `(api, 1)`. -/
theorem Summary.insert_ok {s s' : Summary} {api : String} (h : s.insert api = .ok s') :
    s.rows.lookup api = none ∧
      ∀ a, s'.rows.lookup a = if a = api then some 1 else s.rows.lookup a := by
  unfold Summary.insert at h
  split at h
  · cases h
  · rename_i hk
    cases h
    refine ⟨List.lookup_eq_none_iff.mpr fun p hp => ?_, fun a => ?_⟩
    · simp only [bne_iff_ne, ne_eq]
      rintro rfl
      exact hk (List.mem_map.mpr ⟨p, hp, rfl⟩)
    · by_cases ha : a = api
      · simp [List.lookup_cons, ha]
      · simp [List.lookup_cons, ha, beq_false_of_ne ha]

/-- INTERNAL: an `INSERT` that goes through counts its endpoint once. -/
theorem Summary.accessTimes_insert {s s' : Summary} {api : String} (h : s.insert api = .ok s')
    (a : String) : s'.accessTimes a = s.accessTimes a + if a = api then 1 else 0 := by
  obtain ⟨hnone, hl⟩ := Summary.insert_ok h
  by_cases ha : a = api
  · subst ha
    simp [Summary.accessTimes, hl, hnone]
  · simp [Summary.accessTimes, hl, ha]

/-- INTERNAL: an `UPDATE` of an endpoint with a row counts it once. -/
theorem Summary.accessTimes_update (s : Summary) {api : String}
    (hrow : (s.rows.lookup api).isSome) (a : String) :
    (s.update api).accessTimes a = s.accessTimes a + if a = api then 1 else 0 := by
  by_cases ha : a = api
  · subst ha
    obtain ⟨v, hv⟩ := Option.isSome_iff_exists.mp hrow
    simp [Summary.accessTimes, Summary.lookup_update, hv]
  · simp [Summary.accessTimes, Summary.lookup_update, ha]

/-- INTERNAL: an `INSERT` keeps every count in `[0, 2 ^ 32 - L)`, one call fewer to come. -/
theorem Summary.bounded_insert {s s' : Summary} {api : String} {L : Nat}
    (h : s.insert api = .ok s') (hL : L + 1 < 4294967296)
    (hs : ∀ r ∈ s.rows, 0 ≤ r.2 ∧ r.2 + (L + 1 : Nat) < 4294967296) :
    ∀ r ∈ s'.rows, 0 ≤ r.2 ∧ r.2 + L < 4294967296 := by
  unfold Summary.insert at h
  split at h
  · cases h
  · cases h
    refine List.forall_mem_cons.mpr ⟨by simp; omega, fun r hr => ?_⟩
    have := hs r hr
    omega

/-- INTERNAL: an `UPDATE` keeps every count in `[0, 2 ^ 32 - L)`, one call fewer to come. -/
theorem Summary.bounded_update (s : Summary) (api : String) {L : Nat}
    (hs : ∀ r ∈ s.rows, 0 ≤ r.2 ∧ r.2 + (L + 1 : Nat) < 4294967296) :
    ∀ r ∈ (s.update api).rows, 0 ≤ r.2 ∧ r.2 + L < 4294967296 := by
  simp only [Summary.update, List.mem_map]
  rintro _ ⟨r, hr, rfl⟩
  have := hs r hr
  split_ifs
  · dsimp only
    omega
  · omega

/-- INTERNAL: what one statement can do: a call reads its count, or it inserts the first row,
has that `INSERT` refused, or updates the row. -/
theorem CountWorld.step_cases {w w' : CountWorld} {i : Nat} (h : w.step i = some w') :
    ∃ c, w.calls[i]? = some c ∧
      ((c.phase = .start ∧
          w' = ⟨w.summary, w.calls.set i ⟨c.api, .selected (w.summary.select c.api)⟩⟩) ∨
        (∃ s, c.phase = .selected (-1) ∧ w.summary.insert c.api = .ok s ∧
          w' = ⟨s, w.calls.set i ⟨c.api, .done (.ok ())⟩⟩) ∨
        (∃ e, c.phase = .selected (-1) ∧ w.summary.insert c.api = .error e ∧
          w' = ⟨w.summary, w.calls.set i ⟨c.api, .done (.error e)⟩⟩) ∨
        (∃ v, c.phase = .selected v ∧ v ≠ -1 ∧
          w' = ⟨w.summary.update c.api, w.calls.set i ⟨c.api, .done (.ok ())⟩⟩)) := by
  unfold CountWorld.step at h
  split at h
  · cases h
  · rename_i c hc
    refine ⟨c, hc, ?_⟩
    split at h
    · rename_i hp
      cases h
      exact .inl ⟨hp, rfl⟩
    · rename_i v hp
      split_ifs at h with hv
      · subst hv
        split at h
        · rename_i s hs
          cases h
          exact .inr (.inl ⟨s, hp, hs, rfl⟩)
        · rename_i e he
          cases h
          exact .inr (.inr (.inl ⟨e, hp, he, rfl⟩))
      · cases h
        exact .inr (.inr (.inr ⟨v, hp, hv, rfl⟩))
    · cases h

/-- INTERNAL: a schedule's first statement, then the rest. -/
theorem CountWorld.run_cons {w w' : CountWorld} {i : Nat} {schedule : List Nat}
    (h : w.run (i :: schedule) = some w') :
    ∃ w₁, w.step i = some w₁ ∧ w₁.run schedule = some w' := by
  simp only [CountWorld.run] at h
  cases hstep : w.step i with
  | none => simp [hstep] at h
  | some w₁ => exact ⟨w₁, rfl, by simpa [hstep] using h⟩

/-- INTERNAL: a schedule in two parts. -/
theorem CountWorld.run_append (w : CountWorld) (a b : List Nat) :
    w.run (a ++ b) = (w.run a).bind fun w' => w'.run b := by
  induction a generalizing w with
  | nil => rfl
  | cons i a ih =>
    simp only [List.cons_append, CountWorld.run]
    cases w.step i <;> simp [ih]

/-! ## Every interleaving -/

/-- Whether a call has returned normally. -/
def hasReturned : CountPhase → Bool
  | .done (.ok _) => true
  | _ => false

/-- The number of calls of `api` that have returned normally. -/
def returnedCalls (w : CountWorld) (api : String) : Nat :=
  w.calls.countP fun c => c.api == api && hasReturned c.phase

/-- Every call that has read a count other than -1 reads a row the table holds: rows are never
removed. -/
def SelectedRows (w : CountWorld) : Prop :=
  ∀ c ∈ w.calls, ∀ v, c.phase = .selected v → v ≠ -1 → (w.summary.rows.lookup c.api).isSome

/-- INTERNAL: replacing one element moves a count by what the two elements count. -/
theorem countP_set {α : Type} (p : α → Bool) (l : List α) (i : Nat) (c x : α)
    (h : l[i]? = some c) :
    (l.set i x).countP p + (if p c then 1 else 0) = l.countP p + (if p x then 1 else 0) := by
  induction l generalizing i with
  | nil => cases h
  | cons y l ih =>
    cases i with
    | zero =>
      obtain rfl : y = c := by simpa using h
      simp only [List.set_cons_zero, List.countP_cons]
      omega
    | succ i =>
      simp only [List.set_cons_succ, List.countP_cons]
      have := ih i (by simpa using h)
      omega

/-- INTERNAL: a call that moves on from a phase before its return. -/
theorem returnedCalls_set {w : CountWorld} {i : Nat} {c : CountCall} (hc : w.calls[i]? = some c)
    (hc' : hasReturned c.phase = false) (s : Summary) (x : CountCall) (api : String) :
    (returnedCalls ⟨s, w.calls.set i x⟩ api : Int) =
      returnedCalls w api + if x.api = api ∧ hasReturned x.phase then 1 else 0 := by
  have := countP_set (fun c => c.api == api && hasReturned c.phase) w.calls i c x hc
  simp only [hc', Bool.and_false, Bool.false_eq_true, if_false, Nat.add_zero] at this
  simp only [returnedCalls, this, Bool.and_eq_true, beq_iff_eq]
  split_ifs <;> simp

/-- INTERNAL: a statement keeps every row. -/
theorem rows_kept {w w' : CountWorld} {i : Nat} (h : w.step i = some w') (a : String)
    (ha : (w.summary.rows.lookup a).isSome) : (w'.summary.rows.lookup a).isSome := by
  rcases CountWorld.step_cases h with
    ⟨c, -, ⟨-, rfl⟩ | ⟨s, -, hins, rfl⟩ | ⟨e, -, -, rfl⟩ | ⟨v, -, -, rfl⟩⟩
  · exact ha
  · rw [(Summary.insert_ok hins).2 a]
    split_ifs <;> simp [ha]
  · exact ha
  · simpa [Summary.lookup_update] using ha

/-- INTERNAL: a statement keeps `SelectedRows`. -/
theorem selectedRows_step {w w' : CountWorld} {i : Nat} (h : w.step i = some w')
    (hs : SelectedRows w) : SelectedRows w' := by
  intro d hd v hdv hv
  refine rows_kept h _ ?_
  rcases CountWorld.step_cases h with
    ⟨c, hc, ⟨-, rfl⟩ | ⟨s, -, -, rfl⟩ | ⟨e, -, -, rfl⟩ | ⟨u, -, -, rfl⟩⟩ <;>
    rcases List.mem_or_eq_of_mem_set hd with hd | rfl
  all_goals first
    | exact hs d hd v hdv hv
    | cases hdv
  -- the call that has just read the count reads a row
  cases hl : w.summary.rows.lookup c.api
  · simp [Summary.select, hl] at hv
  · rfl

/-- INTERNAL: a statement moves an endpoint's count and its returned calls together. -/
theorem counted_step {w w' : CountWorld} {i : Nat} (h : w.step i = some w')
    (hs : SelectedRows w) (api : String) :
    w'.summary.accessTimes api - returnedCalls w' api =
      w.summary.accessTimes api - returnedCalls w api := by
  rcases CountWorld.step_cases h with
    ⟨c, hc, ⟨hp, rfl⟩ | ⟨s, hp, hins, rfl⟩ | ⟨e, hp, -, rfl⟩ | ⟨v, hp, hv, rfl⟩⟩ <;>
    rw [returnedCalls_set hc (by simp [hp, hasReturned])]
  · simp [hasReturned]
  · rw [Summary.accessTimes_insert hins]
    by_cases ha : c.api = api
    · subst ha
      simp only [↓reduceIte, hasReturned, and_self]
      omega
    · simp [ha, Ne.symm ha]
  · simp [hasReturned]
  · rw [Summary.accessTimes_update _ (hs c (List.getElem?_mem hc) v hp hv)]
    by_cases ha : c.api = api
    · subst ha
      simp only [↓reduceIte, hasReturned, and_self]
      omega
    · simp [ha, Ne.symm ha]

/-- INTERNAL: the same over a whole schedule. -/
theorem run_counted {w w' : CountWorld} {schedule : List Nat} (h : w.run schedule = some w')
    (hs : SelectedRows w) (api : String) :
    w'.summary.accessTimes api - returnedCalls w' api =
      w.summary.accessTimes api - returnedCalls w api := by
  induction schedule generalizing w with
  | nil => cases h; rfl
  | cons i schedule ih =>
    obtain ⟨w₁, hstep, h⟩ := CountWorld.run_cons h
    exact (ih h (selectedRows_step hstep hs)).trans (counted_step hstep hs api)

/-- **No returned call is lost or counted twice, over every interleaving.** Start from any table
and any calls of `updateAccessTimes`, all before their `select`. Run the statements of the calls
in any order. Then each endpoint's count is its count at the start plus the number of its calls
that have returned normally. Source: `DocumentBroker.cpp:1807-1847`. -/
theorem counts_match_returned_calls (w : CountWorld) (hstart : ∀ c ∈ w.calls, c.phase = .start)
    (schedule : List Nat) (w' : CountWorld) (h : w.run schedule = some w') (api : String) :
    w'.summary.accessTimes api = w.summary.accessTimes api + returnedCalls w' api := by
  have h0 : returnedCalls w api = 0 :=
    List.countP_eq_zero.mpr fun c hc => by simp [hstart c hc, hasReturned]
  have := run_counted h (fun c hc v hv => by simp [hstart c hc] at hv) api
  rw [h0] at this
  omega

/-- The two colliding first counts: one call returns, and the endpoint is counted once. -/
theorem two_interleaved_calls_counted :
    ∃ w', CountWorld.run ⟨Summary.empty, [⟨"merge", .start⟩, ⟨"merge", .start⟩]⟩ [0, 1, 0, 1] =
        some w' ∧ (∀ c ∈ [(⟨"merge", .start⟩ : CountCall), ⟨"merge", .start⟩], c.phase = .start) ∧
      w'.summary.accessTimes "merge" =
        Summary.empty.accessTimes "merge" + returnedCalls w' "merge" ∧
      returnedCalls w' "merge" = 1 :=
  ⟨_, rfl, by simp, counts_match_returned_calls ⟨Summary.empty, [⟨"merge", .start⟩,
    ⟨"merge", .start⟩]⟩ (by simp) [0, 1, 0, 1] _ rfl "merge", rfl⟩

/-- Whether a call is still running: before its `select`, or between its two statements. -/
def isRunning : CountPhase → Bool
  | .done _ => false
  | _ => true

/-- The calls of `api` still running. -/
def runningCalls (w : CountWorld) (api : String) : Nat :=
  w.calls.countP fun c => c.api == api && isRunning c.phase

/-- The endpoint `api` has a row whose count, from 0, its running calls cannot carry to
`2 ^ 32 - 1`; every call of it that has read a count read another value than -1, and none of its
calls has failed. -/
def RowCounted (api : String) (w : CountWorld) : Prop :=
  (∃ v, w.summary.rows.lookup api = some v ∧ 0 ≤ v ∧ v + runningCalls w api < 4294967296) ∧
    ∀ c ∈ w.calls, c.api = api →
      (∀ v, c.phase = .selected v → v ≠ -1) ∧ ∀ e, c.phase ≠ .done (.error e)

/-- INTERNAL: a statement that leaves a call running, or moves a call of another endpoint,
leaves the running calls of `api` as they were. -/
theorem runningCalls_set {w : CountWorld} {i : Nat} {c : CountCall} (hc : w.calls[i]? = some c)
    (s : Summary) (x : CountCall) (api : String) (hx : x.api = c.api)
    (hr : c.api = api → isRunning x.phase = isRunning c.phase) :
    runningCalls ⟨s, w.calls.set i x⟩ api = runningCalls w api := by
  have := countP_set (fun c => c.api == api && isRunning c.phase) w.calls i c x hc
  simp only [hx] at this
  by_cases ha : c.api = api
  · simp only [runningCalls, ha, hr ha] at this ⊢
    omega
  · simpa [runningCalls, ha] using this

/-- INTERNAL: a statement that finishes a call of another endpoint and leaves the endpoint's row
keeps `RowCounted`. -/
theorem rowCounted_other {w : CountWorld} {i : Nat} {c : CountCall} {api : String}
    (hc : w.calls[i]? = some c) (hne : c.api ≠ api) (s : Summary) (x : CountCall)
    (hx : x.api = c.api) (hrow : s.rows.lookup api = w.summary.rows.lookup api)
    (hr : RowCounted api w) : RowCounted api ⟨s, w.calls.set i x⟩ := by
  obtain ⟨⟨v, hv, hv0, hvb⟩, hcalls⟩ := hr
  have hrun := runningCalls_set hc s x api hx fun e => absurd e hne
  refine ⟨⟨v, hrow ▸ hv, hv0, hrun ▸ hvb⟩, fun d hd hda => ?_⟩
  rcases List.mem_or_eq_of_mem_set hd with hd | rfl
  · exact hcalls d hd hda
  · exact absurd (hx ▸ hda) hne

/-- INTERNAL: a statement keeps `RowCounted`. -/
theorem rowCounted_step {w w' : CountWorld} {i : Nat} {api : String} (h : w.step i = some w')
    (hr : RowCounted api w) : RowCounted api w' := by
  obtain ⟨⟨v, hv, hv0, hvb⟩, hcalls⟩ := hr
  rcases CountWorld.step_cases h with
    ⟨c, hc, ⟨hp, rfl⟩ | ⟨s, hp, hins, rfl⟩ | ⟨e, hp, -, rfl⟩ | ⟨u, hp, hu, rfl⟩⟩
  · -- a call reads the count: the endpoint's row is read as it is, and the call runs on
    have hrun := runningCalls_set hc w.summary ⟨c.api, .selected (w.summary.select c.api)⟩ api rfl
      fun _ => by simp [hp, isRunning]
    refine ⟨⟨v, hv, hv0, hrun ▸ hvb⟩, fun d hd hda => ?_⟩
    rcases List.mem_or_eq_of_mem_set hd with hd | rfl
    · exact hcalls d hd hda
    · -- the reading call is one of the running calls, so the count is below `2 ^ 32 - 1`
      have hca : c.api = api := hda
      subst hca
      have h1 : 0 < runningCalls w c.api :=
        List.countP_pos_iff.mpr ⟨c, List.getElem?_mem hc, by simp [hp, isRunning]⟩
      refine ⟨fun v' hv' => ?_, fun e he => by cases he⟩
      cases hv'
      simpa [Summary.select, hv] using Summary.readInt_ne_neg_one hv0 (by omega)
  · -- a first count: the call read -1, so it is of another endpoint
    have hne : c.api ≠ api := fun hca => (hcalls c (List.getElem?_mem hc) hca).1 _ hp rfl
    exact rowCounted_other hc hne s _ rfl
      (by rw [(Summary.insert_ok hins).2 api, if_neg (Ne.symm hne)]) ⟨⟨v, hv, hv0, hvb⟩, hcalls⟩
  · -- a refused first count: also of another endpoint
    have hne : c.api ≠ api := fun hca => (hcalls c (List.getElem?_mem hc) hca).1 _ hp rfl
    exact rowCounted_other hc hne w.summary _ rfl rfl ⟨⟨v, hv, hv0, hvb⟩, hcalls⟩
  · -- an update adds one to the row it hits, and its call stops running
    refine ⟨⟨if api = c.api then v + 1 else v, by simp [Summary.lookup_update, hv],
      by split_ifs <;> omega, ?_⟩, fun d hd hda => ?_⟩
    · by_cases ha : api = c.api
      · subst ha
        have e := countP_set (fun d => d.api == c.api && isRunning d.phase) w.calls i c
          ⟨c.api, .done (.ok ())⟩ hc
        rw [if_pos (by simp [hp, isRunning]), if_neg (by simp [isRunning])] at e
        simp only [runningCalls, ite_true] at hvb ⊢
        omega
      · rw [if_neg ha, runningCalls_set hc (w.summary.update c.api) ⟨c.api, .done (.ok ())⟩ api rfl
          fun e => absurd e.symm ha]
        exact hvb
    · rcases List.mem_or_eq_of_mem_set hd with hd | rfl
      · exact hcalls d hd hda
      · exact ⟨fun v' hv' => (by cases hv'), fun e he => (by cases he)⟩

/-- INTERNAL: the same over a whole schedule. -/
theorem rowCounted_run {w w' : CountWorld} {schedule : List Nat} {api : String}
    (h : w.run schedule = some w') (hr : RowCounted api w) : RowCounted api w' := by
  induction schedule generalizing w with
  | nil => cases h; exact hr
  | cons i schedule ih =>
    obtain ⟨w₁, hstep, h⟩ := CountWorld.run_cons h
    exact ih h (rowCounted_step hstep hr)

/-- **Only first counts collide, below the 32-bit read's edge.** Start from a table where the
endpoint has a row with a count `v ≥ 0`, and `n` calls of the endpoint, all before their
`select`, with `v + n < 2 ^ 32`. Then over every interleaving no call of the endpoint fails:
each reads another value than -1 and takes the `UPDATE`. The bound is sharp: at `v + n = 2 ^ 32`
the last call reads `2 ^ 32 - 1`, which `into(int)` reads as -1, and its `INSERT` is refused.
Source: `DocumentBroker.cpp:1807-1847`. -/
theorem counted_endpoint_never_fails (w : CountWorld) (api : String) (v : Int)
    (hrow : w.summary.rows.lookup api = some v) (hv : 0 ≤ v)
    (hbound : v + w.calls.countP (fun c => c.api == api) < 4294967296)
    (hstart : ∀ c ∈ w.calls, c.phase = .start) (schedule : List Nat) (w' : CountWorld)
    (h : w.run schedule = some w') :
    ∀ c ∈ w'.calls, c.api = api → ∀ e, c.phase ≠ .done (.error e) := by
  have hrun : runningCalls w api = w.calls.countP (fun c => c.api == api) :=
    List.countP_congr fun c hc => by simp [hstart c hc, isRunning]
  have hr : RowCounted api w := ⟨⟨v, hrow, hv, hrun ▸ hbound⟩, fun d hd _ => by
    rw [hstart d hd]
    exact ⟨fun v' hv' => (by cases hv'), fun e he => (by cases he)⟩⟩
  exact fun c hc hca => ((rowCounted_run h hr).2 c hc hca).2

/-- Two interleaved calls of an endpoint counted 3 times both go through. -/
theorem counted_endpoint_interleaved :
    ∃ w', CountWorld.run ⟨⟨[("merge", 3)], List.nodup_singleton _⟩,
        [⟨"merge", .start⟩, ⟨"merge", .start⟩]⟩ [0, 1, 0, 1] = some w' ∧
      ∀ c ∈ w'.calls, c.api = "merge" → ∀ e, c.phase ≠ .done (.error e) :=
  ⟨_, rfl, counted_endpoint_never_fails ⟨⟨[("merge", 3)], List.nodup_singleton _⟩,
    [⟨"merge", .start⟩, ⟨"merge", .start⟩]⟩ "merge" 3 rfl (by decide) (by decide) (by simp)
    [0, 1, 0, 1] _ rfl⟩

/-- At the edge: a count of `2 ^ 32 - 1` reads as -1, and the endpoint's one call fails. -/
example : ∃ w', CountWorld.run ⟨⟨[("merge", 4294967295)], List.nodup_singleton _⟩,
    [⟨"merge", .start⟩]⟩ [0, 0] = some w' ∧
      ∃ e, (w'.calls[0]?).map CountCall.phase = some (.done (.error e)) :=
  ⟨_, rfl, _, rfl⟩

/-! ## One call after another -/

/-- INTERNAL: a call run on its own from its `select` to its return, on a table whose counts
are at least 0 and leave room for this call and `L` more: it returns, counts its endpoint once,
and leaves room for the `L` calls. -/
theorem run_pair {w : CountWorld} {i : Nat} {c : CountCall} {L : Nat}
    (hc : w.calls[i]? = some c) (hp : c.phase = .start) (hL : L + 1 < 4294967296)
    (hwf : ∀ r ∈ w.summary.rows, 0 ≤ r.2 ∧ r.2 + (L + 1 : Nat) < 4294967296) :
    ∃ s : Summary, w.run [i, i] = some ⟨s, w.calls.set i ⟨c.api, .done (.ok ())⟩⟩ ∧
      (∀ r ∈ s.rows, 0 ≤ r.2 ∧ r.2 + L < 4294967296) ∧
      ∀ a, s.accessTimes a = w.summary.accessTimes a + if a = c.api then 1 else 0 := by
  obtain ⟨hlen, -⟩ := List.getElem?_eq_some_iff.mp hc
  have hc1 : (w.calls.set i ⟨c.api, .selected (w.summary.select c.api)⟩)[i]? =
      some ⟨c.api, .selected (w.summary.select c.api)⟩ := by
    simp [List.getElem?_set, hlen]
  cases hl : w.summary.rows.lookup c.api with
  | none =>
    obtain ⟨hsel, s, hins, -, -⟩ := Summary.select_insert_of_none hl
    refine ⟨s, ?_, Summary.bounded_insert hins hL hwf, Summary.accessTimes_insert hins⟩
    rw [hsel] at hc1
    simp [CountWorld.run, CountWorld.step, hc, hp, hc1, hsel, hins, List.set_set]
  | some v =>
    have hv : 0 ≤ v ∧ v + (L + 1 : Nat) < 4294967296 := by
      obtain ⟨l₁, l₂, e, -⟩ := List.lookup_eq_some_iff.mp hl
      exact hwf _ (e ▸ List.mem_append_right _ (List.mem_cons_self _ _))
    have hsel : w.summary.select c.api ≠ -1 := by
      simpa [Summary.select, hl] using Summary.readInt_ne_neg_one hv.1 (by omega)
    refine ⟨w.summary.update c.api, ?_, Summary.bounded_update _ _ hwf,
      Summary.accessTimes_update _ (by simp [hl])⟩
    simp [CountWorld.run, CountWorld.step, hc, hp, hc1, hsel, List.set_set]

/-- **Calls run one after another are all counted.** Start from a table whose counts are at
least 0 and stay below `2 ^ 32` when each is raised by the number of calls. Run calls that are
all before their `select`, each from its `select` to its return before the next starts, in any
order without repeats. Then every call returns, the other calls are untouched, and each
endpoint's count rises by the number of its calls.
Source: `DocumentBroker.cpp:1807-1847`. -/
theorem sequential_calls_all_counted (w : CountWorld) (order : List Nat) (hnd : order.Nodup)
    (hstart : ∀ i ∈ order, ∃ c, w.calls[i]? = some c ∧ c.phase = .start)
    (hlen : order.length < 4294967296)
    (hwf : ∀ r ∈ w.summary.rows, 0 ≤ r.2 ∧ r.2 + order.length < 4294967296) :
    ∃ w', w.run (order.flatMap fun i => [i, i]) = some w' ∧
      (∀ i ∈ order, ∃ c, w'.calls[i]? = some c ∧ c.phase = .done (.ok ())) ∧
      (∀ j ∉ order, w'.calls[j]? = w.calls[j]?) ∧
      ∀ api, w'.summary.accessTimes api = w.summary.accessTimes api +
        (order.countP fun i => (w.calls[i]?.map CountCall.api) == some api) := by
  induction order generalizing w with
  | nil => exact ⟨w, rfl, by simp, fun _ _ => rfl, by simp⟩
  | cons i order ih =>
    obtain ⟨c, hc, hp⟩ := hstart i (List.mem_cons_self _ _)
    obtain ⟨hi, hnd⟩ := List.nodup_cons.mp hnd
    obtain ⟨hlen', -⟩ := List.getElem?_eq_some_iff.mp hc
    obtain ⟨s, hpair, hwf₁, hcount⟩ := run_pair hc hp hlen hwf
    have hframe₁ : ∀ j ∈ order,
        (w.calls.set i ⟨c.api, .done (.ok ())⟩)[j]? = w.calls[j]? := fun j hj =>
      List.getElem?_set_ne (by rintro rfl; exact hi hj)
    obtain ⟨w', hrun, hdone, hframe, hcnt⟩ := ih ⟨s, w.calls.set i ⟨c.api, .done (.ok ())⟩⟩ hnd
      (fun j hj => (hframe₁ j hj).symm ▸ hstart j (List.mem_cons_of_mem _ hj))
      (by simp at hlen; omega) hwf₁
    refine ⟨w', by rw [List.flatMap_cons, CountWorld.run_append, hpair]; exact hrun, ?_, ?_, ?_⟩
    · intro j hj
      rcases List.mem_cons.mp hj with rfl | hj
      · rw [hframe j hi]
        simp [List.getElem?_set, hlen']
      · exact hdone j hj
    · intro j hj
      rw [List.mem_cons, not_or] at hj
      rw [hframe j hj.2]
      exact List.getElem?_set_ne (Ne.symm hj.1)
    · intro api
      rw [hcnt, hcount, List.countP_cons, List.countP_congr fun j hj => by rw [hframe₁ j hj], hc]
      by_cases ha : c.api = api
      · subst ha
        simp
        omega
      · simp [ha, Ne.symm ha]

/-- Two calls of a fresh endpoint, the second run first: both return and the count is 2. -/
theorem two_sequential_calls_counted :
    ∃ w', CountWorld.run ⟨Summary.empty, [⟨"merge", .start⟩, ⟨"merge", .start⟩]⟩
        ([1, 0].flatMap fun i => [i, i]) = some w' ∧
      (∀ i ∈ [1, 0], ∃ c, w'.calls[i]? = some c ∧ c.phase = .done (.ok ())) ∧
      w'.summary.accessTimes "merge" = 2 := by
  obtain ⟨w', hrun, hdone, -, hcount⟩ := sequential_calls_all_counted
    ⟨Summary.empty, [⟨"merge", .start⟩, ⟨"merge", .start⟩]⟩ [1, 0] (by decide)
    (by simp) (by decide) (by simp [Summary.empty])
  exact ⟨w', hrun, hdone, by rw [hcount]; rfl⟩

/-! ## The migration from `access` -/

/-- INTERNAL: the rows of other endpoints, looked up. -/
theorem lookup_filter_ne (rows : List (String × Int)) {a api : String} (ha : a ≠ api) :
    (rows.filter fun r => r.1 ≠ api).lookup a = rows.lookup a := by
  induction rows with
  | nil => rfl
  | cons r rows ih =>
    obtain ⟨k, v⟩ := r
    by_cases hk : k = api
    · subst hk
      simpa [List.filter_cons, List.lookup_cons, beq_false_of_ne ha] using ih
    · rw [List.filter_cons_of_pos (by simpa using hk)]
      simp only [List.lookup_cons, ih]

/-- INTERNAL: the table after a `replace into`. -/
theorem Summary.lookup_replace (s : Summary) (api a : String) (n : Int) :
    (s.replace api n).rows.lookup a = if a = api then some n else s.rows.lookup a := by
  by_cases ha : a = api
  · subst ha
    simp [Summary.replace, List.lookup_cons]
  · simp only [Summary.replace, List.lookup_cons, beq_false_of_ne ha, if_neg ha]
    exact lookup_filter_ne _ ha

/-- INTERNAL: deleting another endpoint's rows keeps an endpoint's `start` count. -/
theorem startCount_filter_ne (acc : List AccessRow) {a p : String} (h : a ≠ p) :
    startCount (acc.filter fun r => r.api ≠ p) a = startCount acc a := by
  unfold startCount
  rw [List.filter_filter]
  congr 1
  refine List.filter_congr fun r _ => ?_
  by_cases hr : r.api = a
  · subst hr
    simp [h]
  · simp [hr]

/-- INTERNAL: the loop of `changeTable` over endpoints listed once each: the rows of the
endpoints seen are gone, and each has its count from the rows it found. -/
theorem foldl_migrateApi (P : List String) (hnd : P.Nodup) (s : Summary)
    (acc : List AccessRow) :
    (P.foldl migrateApi (s, acc)).2 = acc.filter (fun r => r.api ∉ P) ∧
    ∀ a, (P.foldl migrateApi (s, acc)).1.rows.lookup a =
      if a ∈ P then some (startCount acc a : Int) else s.rows.lookup a := by
  induction P generalizing s acc with
  | nil => simp
  | cons p P ih =>
    obtain ⟨hp, hnd⟩ := List.nodup_cons.mp hnd
    obtain ⟨h2, h1⟩ := ih hnd (s.replace p (startCount acc p)) (acc.filter fun r => r.api ≠ p)
    refine ⟨?_, fun a => ?_⟩
    · rw [List.foldl_cons, migrateApi, h2, List.filter_filter]
      congr 1
      funext r
      simp [Bool.and_comm]
    · rw [List.foldl_cons, migrateApi, h1, Summary.lookup_replace]
      by_cases haP : a ∈ P
      · have hap : a ≠ p := fun e => hp (e ▸ haP)
        rw [if_pos haP, if_pos (List.mem_cons_of_mem _ haP), startCount_filter_ne acc hap]
      · by_cases hap : a = p
        · subst hap
          simp [haP]
        · simp [haP, hap]

end Loolwsd.Analysis
