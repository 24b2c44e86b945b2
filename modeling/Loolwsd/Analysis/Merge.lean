import Loolwsd.Model.Merge
import Loolwsd.Analysis.ContentTree

/-!
# What a merge deals with

`setSingleVar` (`DocumentBroker.cpp:3036-3302`) takes each variable it is given out of the
document: it removes it, or puts a text node, a formula cell or an image frame in its place or
in the place of its cell. Each variable's step replaces the variable, or an ancestor of it, by
a node whose elements the step itself made, and otherwise only changes attributes
(`cleared_of_replace`), so the variable is gone from the document and stays gone through the
steps after it, which bring in only new elements (`setSingleVar_cleared`).
-/

set_option autoImplicit false

namespace Loolwsd.Analysis

open Loolwsd.Model

/-! ## Calls that only read -/

section Steps

variable {α β : Type} {s s' : MergeState}

theorem bind_ok {x : MergeM α} {f : α → MergeM β} {b : β} (h : (x >>= f) s = .ok b s') :
    ∃ a s1, x s = .ok a s1 ∧ f a s1 = .ok b s' := by
  rw [merge_bind] at h
  cases hx : x s with
  | ok a s1 => rw [hx] at h; exact ⟨a, s1, rfl, h⟩
  | error e s1 => rw [hx] at h; cases h

/-- A call that leaves the parser's state as it is when it returns. -/
def Reads (x : MergeM α) : Prop :=
  ∀ s a s', x s = .ok a s' → s' = s

theorem Reads.bind_ok {x : MergeM α} {f : α → MergeM β} {b : β} (hx : Reads x)
    (h : (x >>= f) s = .ok b s') : ∃ a, x s = .ok a s ∧ f a s = .ok b s' := by
  obtain ⟨a, s1, h1, h2⟩ := Loolwsd.Analysis.bind_ok h
  obtain rfl := hx _ _ _ h1
  exact ⟨a, h1, h2⟩

theorem Reads.bind {x : MergeM α} {f : α → MergeM β} (hx : Reads x) (hf : ∀ a, Reads (f a)) :
    Reads (x >>= f) := fun _ _ _ h => by
  obtain ⟨a, h1, h2⟩ := hx.bind_ok h
  exact hf a _ _ _ h2

theorem reads_pure (a : α) : Reads (pure a : MergeM α) := fun _ _ _ h => by
  cases h; rfl

theorem reads_throw (e : Fault) : Reads (throw e : MergeM α) := fun _ _ _ h => by
  cases h

theorem reads_get : Reads (get : MergeM MergeState) := fun _ _ _ h => by
  cases h; rfl

theorem reads_ite {c : Prop} [Decidable c] {x y : MergeM α} (hx : Reads x) (hy : Reads y) :
    Reads (if c then x else y) := by
  split <;> assumption

theorem reads_fromExcept (r : Except Fault α) : Reads (fromExcept r) := by
  cases r
  · exact reads_throw _
  · exact reads_pure _

theorem reads_placeOf (i : Nat) : Reads (placeOf i) :=
  reads_get.bind fun _ => by split <;> first | exact reads_pure _ | exact reads_throw _

theorem reads_upAt (p : Place) (k : Nat) : Reads (upAt p k) := by
  unfold upAt; split <;> first | exact reads_pure _ | exact reads_throw _

theorem reads_upElement (p : Place) (k : Nat) : Reads (upElement p k) :=
  (reads_upAt p k).bind fun u => by
    repeat' first | split | exact reads_pure _ | exact reads_throw _

theorem reads_attributeOf (i : Nat) (k : String) : Reads (attributeOf i k) :=
  (reads_placeOf i).bind fun _ => reads_pure _

theorem reads_innerTextOf (i : Nat) : Reads (innerTextOf i) :=
  (reads_placeOf i).bind fun _ => reads_pure _

theorem reads_valueOf (obj : Option JsonObject) (k : String) : Reads (valueOf obj k) := by
  unfold valueOf; split <;> first | exact reads_pure _ | exact reads_throw _

theorem reads_docType : Reads docType :=
  reads_get.bind fun _ => by split <;> first | exact reads_pure _ | exact reads_throw _

theorem placeOf_ok {i : Nat} {p : Place} (h : placeOf i s = .ok p s') :
    s' = s ∧ s.dom.place i = some p := by
  refine ⟨reads_placeOf i _ _ _ h, ?_⟩
  cases hp : s.dom.place i with
  | none => simp [placeOf, hp] at h
  | some q => simp only [placeOf, hp, merge_bind, merge_get, merge_pure,
      EStateM.Result.ok.injEq] at h; rw [h.1]

theorem upElement_ok {p : Place} {k a : Nat} (h : upElement p k s = .ok a s') :
    ∃ e, p.ups.get? k = some (.element e) ∧ e.ident? = some a := by
  cases hk : p.ups.get? k with
  | none => simp only [upElement, upAt, hk, merge_bind, merge_throw, reduceCtorEq] at h
  | some u =>
    cases u with
    | document => simp only [upElement, upAt, hk, merge_bind, merge_pure, merge_throw,
        reduceCtorEq] at h
    | element e =>
      cases he : e.ident? with
      | none => simp only [upElement, upAt, hk, he, merge_bind, merge_pure, merge_throw,
          reduceCtorEq] at h
      | some j =>
        simp only [upElement, upAt, hk, he, merge_bind, merge_pure,
          EStateM.Result.ok.injEq] at h
        exact ⟨e, rfl, h.1 ▸ he⟩

theorem createElement_eq (name : String) (attrs : List (String × String)) (ch : XmlNode) :
    createElement name attrs ch s = .ok (.element s.dom.nextId name attrs ch .nil)
      { s with dom := { s.dom with nextId := s.dom.nextId + 1 } } := rfl

/-- INTERNAL: `replaceInParent` replaces every element of the identity, in the document too. -/
theorem replaceInParent_ok {i : Nat} {n : XmlNode} (h : replaceInParent i n s = .ok () s') :
    s'.dom.doc = s.dom.doc.edit i (fun _ => n) ∧ s'.dom.nextId = s.dom.nextId := by
  obtain ⟨p, h⟩ := (reads_placeOf i).bind_ok h
  obtain ⟨u, -, h⟩ := (reads_upAt p 0).bind_ok h.2
  cases h
  exact ⟨rfl, rfl⟩

theorem updateElement_ok {i : Nat} {g : XmlNode → XmlNode}
    (h : updateElement i g s = .ok () s') :
    s'.dom.doc = s.dom.doc.edit i g ∧ s'.dom.nextId = s.dom.nextId := by
  obtain ⟨p, -, h⟩ := (reads_placeOf i).bind_ok h
  cases h
  exact ⟨rfl, rfl⟩

end Steps

/-! ## A variable's step -/

/-- The document's elements have distinct identities, all below the next one to be made. -/
structure DocWf (s : MergeState) : Prop where
  nodup : s.dom.doc.ids.Nodup
  below : ∀ y ∈ s.dom.doc.ids, y < s.dom.nextId

/-- What steps over the variables `L` leave: a well-formed document grown only by elements the
steps made, without any of the variables `L` that existed before them. -/
structure Cleared (L : List Nat) (s s' : MergeState) : Prop where
  wf : DocWf s'
  grows : s.dom.nextId ≤ s'.dom.nextId
  fresh : ∀ R, ∀ y ∈ (prune R s'.dom.doc).ids, y ∈ (prune R s.dom.doc).ids ∨ s.dom.nextId ≤ y
  gone : ∀ x ∈ L, x < s.dom.nextId → x ∉ s'.dom.doc.ids

theorem Cleared.mem {L : List Nat} {s s' : MergeState} (h : Cleared L s s') {y : Nat}
    (hy : y ∈ s'.dom.doc.ids) : y ∈ s.dom.doc.ids ∨ s.dom.nextId ≤ y := by
  simpa only [prune_nil] using h.fresh [] y (by rwa [prune_nil])

theorem Cleared.refl {s : MergeState} (hwf : DocWf s) : Cleared [] s s :=
  ⟨hwf, Nat.le_refl _, fun _ _ h => .inl h, fun _ h => by cases h⟩

theorem Cleared.trans {L L' : List Nat} {s s1 s2 : MergeState} (h1 : Cleared L s s1)
    (h2 : Cleared L' s1 s2) : Cleared (L ++ L') s s2 := by
  refine ⟨h2.wf, h1.grows.trans h2.grows, fun R y hy => ?_, fun x hx hlt hx2 => ?_⟩
  · rcases h2.fresh R y hy with h | h
    · exact h1.fresh R y h
    · exact .inr (h1.grows.trans h)
  · rcases List.mem_append.mp hx with hx | hx
    · rcases h2.mem hx2 with h | h
      · exact h1.gone x hx hlt h
      · exact absurd (hlt.trans_le h1.grows) (Nat.not_lt.mpr h)
    · exact h2.gone x hx (hlt.trans_le h1.grows) hx2

/-- Steps over more variables did what steps over fewer do. -/
theorem Cleared.sub {L L' : List Nat} {s s' : MergeState} (h : Cleared L s s')
    (hL : ∀ x ∈ L', x ∈ L) : Cleared L' s s' :=
  ⟨h.wf, h.grows, h.fresh, fun x hx => h.gone x (hL x hx)⟩

/-- A step that left the tree as it was keeps what the steps have done. -/
theorem Cleared.of_doc {L : List Nat} {s s1 s2 : MergeState} (h : Cleared L s s1)
    (hd : s2.dom.doc = s1.dom.doc) (hn : s1.dom.nextId ≤ s2.dom.nextId) : Cleared L s s2 := by
  obtain ⟨⟨h1, h2⟩, h3, h4, h5⟩ := h
  exact ⟨⟨hd ▸ h1, fun y hy => (h2 y (hd ▸ hy)).trans_le hn⟩, h3.trans hn, hd ▸ h4, hd ▸ h5⟩

theorem self_inside_of_mem {x : Nat} {c : XmlNode} (h : x ∈ c.ids) : x ∈ idsInside x c := by
  obtain ⟨r, hr⟩ := Option.isSome_iff_exists.mp (place_isSome h .nil)
  exact place_self_inside hr

/-- Where an element is depends on the tree and the cut-off subtrees only. -/
theorem place_congr {d d' : Dom} (hd : d.doc = d'.doc) (hf : d.frags = d'.frags) (i : Nat) :
    d.place i = d'.place i := by
  simp only [Dom.place, hd, hf]

/-- A pointer's `parentNode()` chain, for an element of the document: its ancestors, each
holding it. -/
theorem inside_of_up {d : Dom} {x a : Nat} {p : Place} {e : XmlNode} (hx : x ∈ d.doc.ids)
    (hp : d.place x = some p) (hk : Up.element e ∈ p.ups)
    (ha : e.ident? = some a) : x ∈ idsInside a d.doc := by
  obtain ⟨⟨e0, pv, as⟩, hr⟩ := Option.isSome_iff_exists.mp (place_isSome hx .nil)
  simp only [Dom.place, hr, Option.some.injEq] at hp
  subst hp
  have hmem := hk
  simp only [List.mem_append, List.mem_map, List.mem_singleton] at hmem
  rcases hmem with ⟨e', he', heq⟩ | h
  · cases heq
    exact place_ups_inside hr e he' ha
  · cases h

/-- **A variable's step**: the variable `x`, or an ancestor `a` of it, replaced by a node `n`
of elements the step made (from `s` to `s1` nothing else changed). -/
theorem cleared_of_replace {x a : Nat} {n : XmlNode} {s s1 s2 : MergeState} (hwf : DocWf s)
    (h : replaceInParent a n s1 = .ok () s2) (hdoc : s1.dom.doc = s.dom.doc)
    (hnext : s.dom.nextId ≤ s1.dom.nextId) (hn : n.ids.Nodup)
    (hfresh : ∀ y ∈ n.ids, s.dom.nextId ≤ y ∧ y < s1.dom.nextId)
    (ha : x ∈ s.dom.doc.ids → x ∈ idsInside a s.dom.doc) : Cleared [x] s s2 := by
  obtain ⟨hd, hnx⟩ := replaceInParent_ok h
  rw [hdoc] at hd
  have hnew : ∀ y ∈ n.ids, y ∉ s.dom.doc.ids := fun y hy hy' =>
    absurd (hwf.below y hy') (Nat.not_lt.mpr (hfresh y hy).1)
  have hmem : ∀ y ∈ s2.dom.doc.ids, y ∈ s.dom.doc.ids ∨ y ∈ n.ids := fun y hy =>
    mem_edit_const (hd ▸ hy)
  refine ⟨⟨hd ▸ nodup_edit_const hwf.nodup hn hnew, fun y hy => ?_⟩, hnx ▸ hnext,
    fun R y hy => (mem_prune_edit_const _ (hd ▸ hy)).imp_right fun h => (hfresh y h).1,
    fun y hy hlt hy2 => ?_⟩
  · rcases hmem y hy with h | h
    · exact (hwf.below y h).trans_le (hnx ▸ hnext)
    · exact hnx ▸ (hfresh y h).2
  · obtain rfl := List.mem_singleton.mp hy
    have hnot : y ∉ n.ids := fun h => absurd hlt (Nat.not_lt.mpr (hfresh y h).1)
    by_cases hin : y ∈ s.dom.doc.ids
    · exact not_mem_edit_const hwf.nodup (ha hin) hnot (hd ▸ hy2)
    · rcases hmem y hy2 with h | h
      · exact hin h
      · exact hnot h

/-- INTERNAL: the variable replaced by a node with no element: removed, or given a text. -/
theorem cleared_of_bare {x : Nat} {n : XmlNode} {s s' : MergeState} (hwf : DocWf s)
    (h : replaceInParent x n s = .ok () s') (hn : n.ids = []) : Cleared [x] s s' :=
  cleared_of_replace hwf h rfl (Nat.le_refl _) (hn ▸ List.nodup_nil) (by simp [hn])
    self_inside_of_mem

/-- INTERNAL: the variable's cell, `parentNode()` of its paragraph, replaced by a node the step
made. -/
theorem cleared_of_cell {x a : Nat} {p : Place} {n : XmlNode} {s s1 s2 : MergeState}
    (hwf : DocWf s) (hp : placeOf x s1 = .ok p s1) (hup : upElement p 1 s1 = .ok a s1)
    (h : replaceInParent a n s1 = .ok () s2)
    (hdoc : s1.dom.doc = s.dom.doc) (hfrags : s1.dom.frags = s.dom.frags)
    (hnext : s.dom.nextId ≤ s1.dom.nextId) (hn : n.ids.Nodup)
    (hfresh : ∀ y ∈ n.ids, s.dom.nextId ≤ y ∧ y < s1.dom.nextId) : Cleared [x] s s2 := by
  obtain ⟨e, hk, ha⟩ := upElement_ok hup
  have hp := (placeOf_ok hp).2
  rw [place_congr hdoc hfrags] at hp
  exact cleared_of_replace hwf h hdoc hnext hn hfresh fun hx =>
    inside_of_up hx hp (List.get?_mem hk) ha

/-- INTERNAL: a change of attributes through a pointer keeps what the steps have done. -/
theorem Cleared.setAttrs {L : List Nat} {s s1 s2 : MergeState} {i : Nat}
    {g : XmlNode → XmlNode} (h : Cleared L s s1) (hg : AttrsOnly g)
    (hu : updateElement i g s1 = .ok () s2) : Cleared L s s2 := by
  obtain ⟨hd, hn⟩ := updateElement_ok hu
  have hids : s2.dom.doc.ids = s1.dom.doc.ids := by rw [hd, ids_edit_attrs hg]
  refine ⟨⟨hids ▸ h.wf.nodup, hn ▸ hids ▸ h.wf.below⟩, hn ▸ h.grows,
    fun R y hy => h.fresh R y (mem_prune_edit_attrs hg _ (hd ▸ hy)), fun x hx hlt => ?_⟩
  exact hids ▸ h.gone x hx hlt

/-- INTERNAL: a value put in the variable's place, and attributes set on its cell. -/
theorem cleared_of_cellValue {x : Nat} {v : String} {g : XmlNode → XmlNode} {s s' : MergeState}
    (hwf : DocWf s) (hg : AttrsOnly g)
    (h : (do
      let meta ← upElement (← placeOf x) 1
      replaceInParent x (.text v .nil)
      updateElement meta g) s = .ok () s') : Cleared [x] s s' := by
  obtain ⟨p, -, h⟩ := (reads_placeOf x).bind_ok h
  obtain ⟨m, -, h⟩ := (reads_upElement p 1).bind_ok h
  obtain ⟨_, s1, h1, h⟩ := bind_ok h
  exact (cleared_of_bare hwf h1 rfl).setAttrs hg h

theorem setValueVar_cleared {obj : Option JsonObject} {t : DocType} {x : Nat}
    {vardata type : String} {s s' : MergeState} (hwf : DocWf s)
    (h : setValueVar obj t x vardata type s = .ok () s') : Cleared [x] s s' := by
  obtain ⟨_, -, h⟩ := (reads_innerTextOf x).bind_ok h
  obtain ⟨_, -, h⟩ := (reads_fromExcept _).bind_ok h
  obtain ⟨v, -, h⟩ := (reads_valueOf obj _).bind_ok h
  cases v with
  | none => exact cleared_of_bare hwf h rfl
  | some value =>
    obtain ⟨_, -, h⟩ := (reads_fromExcept _).bind_ok h
    obtain ⟨_, -, h⟩ := (reads_fromExcept _).bind_ok h
    obtain ⟨_, -, h⟩ := (reads_fromExcept _).bind_ok h
    dsimp only at h
    -- `autoNumber` is read in either branch, and the same body follows
    split at h
    all_goals
      obtain ⟨_, -, h⟩ := Reads.bind_ok (by first | exact reads_fromExcept _ | exact reads_pure _) h
      split at h
      · exact cleared_of_cellValue hwf (fun _ _ _ _ => ⟨_, rfl⟩) h
      · split at h
        · exact cleared_of_cellValue hwf (fun _ _ _ _ => ⟨_, rfl⟩) h
        · exact cleared_of_bare hwf h rfl

theorem setStatisticVar_cleared {obj : Option JsonObject} {x : Nat} {vardata : String}
    {s s' : MergeState} (hwf : DocWf s) (h : setStatisticVar obj x vardata s = .ok () s') :
    Cleared [x] s s' := by
  iterate 7 obtain ⟨_, -, h⟩ := (reads_fromExcept _).bind_ok h
  obtain ⟨_, -, h⟩ := (reads_valueOf obj _).bind_ok h
  split at h
  · obtain ⟨_, s1, h1, h⟩ := bind_ok h
    rw [createElement_eq] at h1
    cases h1
    obtain ⟨_, -, h⟩ := (reads_fromExcept _).bind_ok h
    obtain ⟨p, hp, h⟩ := (reads_placeOf x).bind_ok h
    obtain ⟨a, hup, h⟩ := (reads_upElement p 1).bind_ok h
    exact cleared_of_cell hwf hp hup h rfl rfl (Nat.le_succ _) (by simp [XmlNode.ids])
      (by simp [XmlNode.ids])
  · exact cleared_of_bare hwf h rfl

theorem setFileVar_cleared {obj : Option JsonObject} {t : DocType} {x : Nat} {vardata : String}
    {s s' : MergeState} (hwf : DocWf s) (h : setFileVar obj t x vardata s = .ok () s') :
    Cleared [x] s s' := by
  obtain ⟨_, -, h⟩ := (reads_innerTextOf x).bind_ok h
  obtain ⟨_, -, h⟩ := (reads_fromExcept _).bind_ok h
  obtain ⟨v, -, h⟩ := (reads_valueOf obj _).bind_ok h
  cases v with
  | none => exact cleared_of_bare hwf h rfl
  | some value =>
    iterate 2 obtain ⟨_, -, h⟩ := (reads_fromExcept _).bind_ok h
    obtain ⟨_, -, h⟩ := (reads_attributeOf x _).bind_ok h
    obtain ⟨_, -, h⟩ := (reads_fromExcept _).bind_ok h
    dsimp only at h
    -- the frame's size is read in either branch, and the same body follows
    split at h
    on_goal 2 => iterate 2 obtain ⟨_, -, h⟩ := (reads_fromExcept _).bind_ok h
    all_goals
    obtain ⟨_, -, h⟩ := (reads_pure _).bind_ok h
    obtain ⟨_, -, h⟩ := reads_get.bind_ok h
    -- the frame and its image are made, then put in place
    obtain ⟨_, s1, h1, h⟩ := bind_ok h
    rw [createElement_eq] at h1
    cases h1
    obtain ⟨_, s2, h1, h⟩ := bind_ok h
    rw [createElement_eq] at h1
    cases h1
    -- the frame takes the variable's place, or a new cell holding it the cell's
    have hc : ∃ s3, Cleared [x] s s3 ∧ s'.dom = s3.dom := by
      cases t with
      | text =>
        obtain ⟨_, s3, h1, h⟩ := bind_ok h
        refine ⟨s3, cleared_of_replace hwf h1 rfl (by dsimp only; omega) (by simp [XmlNode.ids])
          (by simp [XmlNode.ids]; omega) self_inside_of_mem, ?_⟩
        cases h
        rfl
      | spreadsheet =>
        obtain ⟨_, s3, h1, h⟩ := bind_ok h
        rw [createElement_eq] at h1
        cases h1
        obtain ⟨p, hp, h⟩ := (reads_placeOf x).bind_ok h
        obtain ⟨a, hup, h⟩ := (reads_upElement p 1).bind_ok h
        obtain ⟨_, s4, h1, h⟩ := bind_ok h
        refine ⟨s4, cleared_of_cell hwf hp hup h1 rfl rfl (by dsimp only; omega) (by simp [XmlNode.ids]; omega)
          (by simp [XmlNode.ids]; omega), ?_⟩
        cases h
        rfl
    obtain ⟨s3, hc, hd⟩ := hc
    exact hc.of_doc (by rw [hd]) (by rw [hd])

theorem setVar_cleared {obj : Option JsonObject} {x : Nat} {s s' : MergeState} (hwf : DocWf s)
    (h : setVar obj x s = .ok () s') : Cleared [x] s s' := by
  obtain ⟨_, -, h⟩ := reads_docType.bind_ok h
  obtain ⟨_, -, h⟩ := (reads_attributeOf x _).bind_ok h
  obtain ⟨_, -, h⟩ := (reads_fromExcept _).bind_ok h
  split at h
  · exact setValueVar_cleared hwf h
  · split at h
    · exact setStatisticVar_cleared hwf h
    · exact setFileVar_cleared hwf h

/-- **Every single variable is taken out.** A run of `setSingleVar` that returns, whatever the
object, leaves a well-formed document in which none of the given variables that were there is
left, and which has grown only by elements the run made. -/
theorem setSingleVar_cleared (obj : Option JsonObject) :
    ∀ (L : List Nat) {s s' : MergeState}, DocWf s → setSingleVar obj L s = .ok () s' →
      Cleared L s s'
  | [], s, s', hwf, h => by
    cases h
    exact Cleared.refl hwf
  | x :: L, s, s', hwf, h => by
    obtain ⟨_, s1, h1, h⟩ := bind_ok h
    have c1 := setVar_cleared hwf h1
    exact c1.trans (setSingleVar_cleared obj L c1.wf h)

/-! ## Steps that keep the document -/

section Keeps

variable {α β : Type}

/-- A call that, from a well-formed document, returns with one grown only by elements it
made. -/
def Keeps (x : MergeM α) : Prop :=
  ∀ s a s', DocWf s → x s = .ok a s' → Cleared [] s s'

theorem Keeps.bind {x : MergeM α} {f : α → MergeM β} (hx : Keeps x) (hf : ∀ a, Keeps (f a)) :
    Keeps (x >>= f) := fun _ _ _ hwf h => by
  obtain ⟨a, s1, h1, h2⟩ := bind_ok h
  have c1 := hx _ _ _ hwf h1
  exact c1.trans (hf a _ _ _ c1.wf h2)

theorem Reads.keeps {x : MergeM α} (hx : Reads x) : Keeps x := fun _ _ _ hwf h => by
  obtain rfl := hx _ _ _ h
  exact Cleared.refl hwf

theorem Keeps.ite {c : Prop} [Decidable c] {x y : MergeM α} (hx : Keeps x) (hy : Keeps y) :
    Keeps (if c then x else y) := by
  split <;> assumption

theorem keeps_modify {f : MergeState → MergeState}
    (hf : ∀ s, (f s).dom.doc = s.dom.doc ∧ (f s).dom.nextId = s.dom.nextId) :
    Keeps (modify f) := fun s _ _ hwf h => by
  simp only [merge_modify, EStateM.Result.ok.injEq] at h
  obtain ⟨-, rfl⟩ := h
  exact (Cleared.refl hwf).of_doc (hf s).1 (hf s).2.symm.le

theorem keeps_updateElement {i : Nat} {g : XmlNode → XmlNode} (hg : AttrsOnly g) :
    Keeps (updateElement i g) := fun _ _ _ hwf h => (Cleared.refl hwf).setAttrs hg h

theorem keeps_remove (i : Nat) : Keeps (replaceInParent i .nil) := fun _ _ _ hwf h =>
  (cleared_of_bare hwf h rfl).sub fun _ h => nomatch h

theorem keeps_setSingleVar (obj : Option JsonObject) (L : List Nat) :
    Keeps (setSingleVar obj L) := fun _ _ _ hwf h =>
  (setSingleVar_cleared obj L hwf h).sub fun _ h => nomatch h

theorem keeps_forM {f : β → MergeM Unit} (hf : ∀ b, Keeps (f b)) :
    ∀ L : List β, Keeps (L.forM f)
  | [] => (reads_pure ()).keeps
  | b :: L => (hf b).bind fun _ => keeps_forM hf L

theorem keeps_foldlM {f : α → β → MergeM α} (hf : ∀ a b, Keeps (f a b)) :
    ∀ (L : List β) (a : α), Keeps (L.foldlM f a)
  | [], a => (reads_pure a).keeps
  | b :: L, a => (hf a b).bind fun a' => keeps_foldlM hf L a'

theorem reads_elementsByTagName (i : Nat) (tag : String) : Reads (elementsByTagName i tag) :=
  (reads_placeOf i).bind fun _ => reads_pure _

theorem cloneNode_ok {i : Nat} {c : XmlNode} {s s' : MergeState} (h : cloneNode i s = .ok c s') :
    s'.dom.doc = s.dom.doc ∧
      ∃ m, c.ids = List.range' s.dom.nextId m ∧ s'.dom.nextId = s.dom.nextId + m := by
  obtain ⟨p, -, h⟩ := (reads_placeOf i).bind_ok h
  simp only [merge_modifyGet, EStateM.Result.ok.injEq] at h
  obtain ⟨rfl, rfl⟩ := h
  exact ⟨rfl, ids_renumber _ _⟩

theorem keeps_cloneNode (i : Nat) : Keeps (cloneNode i) := fun _ _ _ hwf h => by
  obtain ⟨hd, m, -, hn⟩ := cloneNode_ok h
  exact (Cleared.refl hwf).of_doc hd (by omega)

theorem insertAfterInParent_ok {i : Nat} {n : XmlNode} {s s' : MergeState}
    (h : insertAfterInParent i n s = .ok () s') :
    s'.dom.doc = s.dom.doc.edit i (fun e => e.append n) ∧ s'.dom.nextId = s.dom.nextId := by
  obtain ⟨p, -, h⟩ := (reads_placeOf i).bind_ok h
  obtain ⟨u, -, h⟩ := (reads_upAt p 0).bind_ok h
  cases h
  exact ⟨rfl, rfl⟩

/-- INTERNAL: a node of elements made since `s` put after an element. -/
theorem cleared_of_insert {a : Nat} {n : XmlNode} {s s1 s2 : MergeState} (hwf : DocWf s)
    (h : insertAfterInParent a n s1 = .ok () s2) (hdoc : s1.dom.doc = s.dom.doc)
    (hnext : s.dom.nextId ≤ s1.dom.nextId) (hn : n.ids.Nodup)
    (hfresh : ∀ y ∈ n.ids, s.dom.nextId ≤ y ∧ y < s1.dom.nextId) : Cleared [] s s2 := by
  obtain ⟨hd, hnx⟩ := insertAfterInParent_ok h
  rw [hdoc] at hd
  have hnew : ∀ y ∈ n.ids, y ∉ s.dom.doc.ids := fun y hy hy' =>
    absurd (hwf.below y hy') (Nat.not_lt.mpr (hfresh y hy).1)
  refine ⟨⟨hd ▸ nodup_edit_append hwf.nodup hn hnew, fun y hy => ?_⟩, hnx ▸ hnext,
    fun R y hy => (mem_prune_edit_append _ (hd ▸ hy)).imp_right fun h => (hfresh y h).1,
    fun _ h => nomatch h⟩
  rcases mem_edit_append (hd ▸ hy) with h | h
  · exact (hwf.below y h).trans_le (hnx ▸ hnext)
  · exact hnx ▸ (hfresh y h).2

/-- A copy made and put after an element, as `setGroupVar` does for each item. -/
theorem Keeps.clone_insert {i cur : Nat} {f : XmlNode → MergeM β} (hf : ∀ c, Keeps (f c)) :
    Keeps (cloneNode i >>= fun c => insertAfterInParent cur c >>= fun _ => f c) :=
  fun s _ _ hwf h => by
  obtain ⟨c, s1, h1, h⟩ := bind_ok h
  obtain ⟨_, s2, h2, h⟩ := bind_ok h
  obtain ⟨hd, m, hc, hn⟩ := cloneNode_ok h1
  have c2 := cleared_of_insert hwf h2 hd (by omega) (hc ▸ List.nodup_range' _ _)
    fun y hy => by rw [hc, List.mem_range'_1] at hy; omega
  exact c2.trans (hf c _ _ _ c2.wf h)

theorem mergeTopLevel_dom {t : DocType} {g : String} :
    ∀ (vs : List Nat) {s s' : MergeState}, mergeTopLevel t g vs s = .ok () s' → s'.dom = s.dom
  | [], _, _, h => by cases h; rfl
  | v :: vs, s, s', h => by
    obtain ⟨_, -, h⟩ := (reads_innerTextOf v).bind_ok h
    obtain ⟨_, -, h⟩ := (reads_fromExcept _).bind_ok h
    obtain ⟨_, s0, h0, h⟩ := bind_ok h
    cases h0
    dsimp only at h
    generalize JsonObject.get _ _ = v at h
    cases v with
    | none => exact mergeTopLevel_dom vs h
    | some value =>
      dsimp only at h
      split at h
      · obtain ⟨_, s1, h1, h⟩ := bind_ok h
        cases h1
        have := mergeTopLevel_dom vs h
        exact this
      · obtain ⟨_, s1, h1, -⟩ := bind_ok h
        cases h1

theorem keeps_mergeTopLevel (t : DocType) (g : String) (vs : List Nat) :
    Keeps (mergeTopLevel t g vs) := fun _ _ _ hwf h => by
  have hd := mergeTopLevel_dom vs h
  exact (Cleared.refl hwf).of_doc (by rw [hd]) (by rw [hd])

theorem keeps_removeChildOf (parent c : Nat) : Keeps (removeChildOf parent c) :=
  (reads_placeOf c).keeps.bind fun _ => by
    split
    · exact Keeps.ite (keeps_remove _) (reads_throw _).keeps
    · exact (reads_throw _).keeps

theorem keeps_setSpans (lines : Nat) : ∀ L : List XmlNode, Keeps (setSpans lines L)
  | [] => (reads_pure ()).keeps
  | .element _ _ _ _ _ :: L => by
    rw [setSpans]
    exact Keeps.ite
      ((keeps_updateElement fun _ _ _ _ => ⟨_, rfl⟩).bind fun _ => keeps_setSpans lines L)
      ((reads_pure _).keeps.bind fun _ => keeps_setSpans lines L)
  | .text _ _ :: _ => (reads_throw _).keeps
  | .nil :: _ => (reads_throw _).keeps

theorem attrsOnly_removeAttributes (ks : List String) :
    AttrsOnly fun e => ks.foldl (fun e k => e.removeAttribute k) e := by
  induction ks with
  | nil => exact fun _ _ a _ => ⟨a, rfl⟩
  | cons k ks ih => exact fun j n a fc => ih j n (a.filter fun p => p.1 ≠ k) fc

theorem keeps_clearCell (cell : Nat) : Keeps (clearCell cell) := by
  have hattrs : ∀ ks : List String,
      Keeps (updateElement cell fun e => ks.foldl (fun e k => e.removeAttribute k) e) :=
    fun _ => keeps_updateElement (attrsOnly_removeAttributes _)
  refine (reads_elementsByTagName _ _).keeps.bind fun _ => ?_
  split
  · -- a cell with no variable loses its first paragraph, then its value and formula
    refine (reads_elementsByTagName _ _).keeps.bind fun _ => Keeps.ite
      ((reads_placeOf _).keeps.bind fun _ => ?_) ((reads_pure _).keeps.bind fun _ => hattrs _)
    split
    · exact (keeps_remove _).bind fun _ => hattrs _
    · exact (reads_pure _).keeps.bind fun _ => hattrs _
  · -- a statistic loses its paragraph, then its value
    refine (reads_attributeOf _ _).keeps.bind fun _ => (reads_fromExcept _).keeps.bind fun _ =>
      Keeps.ite ((reads_placeOf _).keeps.bind fun _ => ?_) (reads_pure _).keeps
    split
    · split
      · exact (keeps_removeChildOf _ _).bind fun _ => hattrs _
      · exact (reads_throw _).keeps.bind fun _ => hattrs _
    · exact (reads_throw _).keeps.bind fun _ => hattrs _

theorem keeps_clearTextCell (ch : XmlNode) : Keeps (clearTextCell ch) := by
  unfold clearTextCell
  split
  · refine (reads_elementsByTagName _ _).keeps.bind fun _ =>
      (reads_elementsByTagName _ _).keeps.bind fun _ =>
        Keeps.ite ((reads_elementsByTagName _ _).keeps.bind fun _ => ?_) (reads_pure _).keeps
    split
    · exact (reads_throw _).keeps
    · exact keeps_removeChildOf _ _
  · exact (reads_pure _).keeps

/-- INTERNAL: the copy of a row, kept apart. -/
theorem keeps_cloneApart {row : Nat} {f : XmlNode → MergeM β} (hf : ∀ c, Keeps (f c)) :
    Keeps (cloneNode row >>= fun c =>
      modify (fun s : MergeState => { s with dom := { s.dom with frags := s.dom.frags ++ [c] } }) >>=
        fun _ => f c) := by
  refine (keeps_cloneNode _).bind fun _ => (keeps_modify ?_).bind fun _ => hf _
  exact fun _ => ⟨rfl, rfl⟩

/-- INTERNAL: a prepared copy's id, read off the copy. -/
theorem keeps_identOf (c : XmlNode) :
    Keeps (match c.ident? with
      | some i => pure i
      | none => throw .undefinedBehaviour : MergeM Nat) := by
  split
  · exact (reads_pure _).keeps
  · exact (reads_throw _).keeps

theorem keeps_prepareSheetRow (row lines : Nat) : Keeps (prepareSheetRow row lines) := by
  refine keeps_cloneApart fun c => (keeps_forM (fun ch => ?_) _).bind fun _ =>
    (reads_placeOf _).keeps.bind fun _ => ?_
  · split
    · exact keeps_clearCell _
    · exact (reads_throw _).keeps
  · -- the spans before the row group are widened
    dsimp only
    split
    · split
      · refine (reads_placeOf _).keeps.bind fun _ => ?_
        split
        · exact (keeps_setSpans _ _).bind fun _ => keeps_identOf c
        · exact (keeps_setSpans _ _).bind fun _ => keeps_identOf c
      · exact (reads_throw _).keeps.bind fun _ => keeps_identOf c
    · exact (reads_throw _).keeps.bind fun _ => keeps_identOf c

theorem keeps_prepareTextRow (row lines : Nat) : Keeps (prepareTextRow row lines) := by
  refine keeps_cloneApart fun c => (keeps_forM keeps_clearTextCell _).bind fun _ =>
    (reads_placeOf _).keeps.bind fun _ => ?_
  dsimp only
  split
  · exact (reads_throw _).keeps.bind fun _ => keeps_identOf c
  · exact (keeps_setSpans _ _).bind fun _ => keeps_identOf c

theorem keeps_fillRows (t : DocType) (g : String) (row initRow : Nat) :
    ∀ k times cur, Keeps (fillRows t g row initRow times k cur)
  | 0, _, _ => (reads_pure ()).keeps
  | k + 1, times, cur => by
    rw [fillRows]
    refine Keeps.clone_insert fun c => Keeps.ite
      ((keeps_mergeTopLevel _ _ _).bind fun _ => ?_) ((reads_pure _).keeps.bind fun _ => ?_)
    -- the copy's own item, then the next copy after it
    all_goals
      refine reads_get.keeps.bind fun _ => (keeps_setSingleVar _ _).bind fun _ => ?_
      split
      · exact keeps_fillRows t g row initRow k _ _
      · exact (reads_throw _).keeps

end Keeps

/-! ## Filling the group rows -/

/-- What filling the group rows `G` leaves: a well-formed document grown only by elements the
steps made, in which, outside any rows `R` still to be filled, nothing lies that was not
outside the rows `G` and `R` before. -/
structure Filled (G : List Nat) (s s' : MergeState) : Prop where
  wf : DocWf s'
  grows : s.dom.nextId ≤ s'.dom.nextId
  fresh : ∀ R, ∀ y ∈ (prune R s'.dom.doc).ids,
    y ∈ (prune (G ++ R) s.dom.doc).ids ∨ s.dom.nextId ≤ y

theorem Cleared.filled {L : List Nat} {s s' : MergeState} (h : Cleared L s s') :
    Filled [] s s' :=
  ⟨h.wf, h.grows, h.fresh⟩

theorem Filled.trans {G G' : List Nat} {s s1 s2 : MergeState} (h1 : Filled G s s1)
    (h2 : Filled G' s1 s2) : Filled (G ++ G') s s2 := by
  refine ⟨h2.wf, h1.grows.trans h2.grows, fun R y hy => ?_⟩
  rcases h2.fresh R y hy with h | h
  · simpa only [List.append_assoc] using h1.fresh (G' ++ R) y h
  · exact .inr (h1.grows.trans h)

/-- A row removed leaves nothing that lay below it. -/
theorem filled_of_remove {r : Nat} {s s' : MergeState} (hwf : DocWf s)
    (h : replaceInParent r .nil s = .ok () s') : Filled [r] s s' := by
  have c := keeps_remove r s () s' hwf h
  obtain ⟨hd, -⟩ := replaceInParent_ok h
  exact ⟨c.wf, c.grows, fun R y hy => .inl (mem_prune_remove _ y (hd ▸ hy))⟩

/-- **One group row filled**: whatever the request holds for its group, the row is gone at the
end, and what the copies brought in is new. -/
theorem setGroupRow_filled {r : Nat} {s s' : MergeState} (hwf : DocWf s)
    (h : setGroupRow r s = .ok () s') : Filled [r] s s' := by
  obtain ⟨t, -, h⟩ := reads_docType.bind_ok h
  obtain ⟨_, -, h⟩ := (reads_attributeOf r _).bind_ok h
  obtain ⟨_, -, h⟩ := reads_get.bind_ok h
  generalize JsonObject.get _ _ = v at h
  split at h
  · -- the copy is prepared as the document's kind asks, then the copies are filled in
    cases t
    all_goals
      dsimp only at h
      obtain ⟨_, s1, h1, h⟩ := bind_ok h
      have c1 : Cleared [] s s1 := by
        first
          | exact keeps_prepareTextRow r _ s _ s1 hwf h1
          | exact keeps_prepareSheetRow r _ s _ s1 hwf h1
      obtain ⟨_, s2, h2, h⟩ := bind_ok h
      have c2 := keeps_fillRows _ _ _ _ _ _ _ s1 _ s2 c1.wf h2
      exact ((c1.trans c2).filled).trans (filled_of_remove c2.wf h)
  · exact filled_of_remove hwf h

/-- **`setGroupVar` removes its rows**: everything that lay below one of them is gone, and
the copies' elements are new. -/
theorem setGroupVar_filled :
    ∀ (G : List Nat) {s s' : MergeState}, DocWf s → setGroupVar G s = .ok () s' → Filled G s s'
  | [], s, _, hwf, h => by
    cases h
    exact (Cleared.refl hwf).filled
  | r :: G, _, _, hwf, h => by
    obtain ⟨_, s1, h1, h⟩ := bind_ok h
    have f1 := setGroupRow_filled hwf h1
    exact f1.trans (setGroupVar_filled G f1.wf h)

/-! ## The scan -/

theorem reads_groupName (ann : Nat) : Reads (groupName ann) :=
  (reads_placeOf ann).bind fun _ => by
    split <;> first | exact reads_throw _ | exact reads_pure _

theorem reads_climb (p : Place) (names : List String) : Reads (climb p names) := by
  unfold climb
  split <;> first | exact reads_throw _ | exact reads_pure _

theorem keeps_recordGroupRow (singles groups : List Nat) (row : Nat) (grpname : String) :
    Keeps (recordGroupRow singles groups row grpname) :=
  (keeps_updateElement fun _ _ _ _ => ⟨_, rfl⟩).bind fun _ => (reads_pure _).keeps

/-- The climb stops at one of the variable's ancestors. -/
theorem climb_ok {p : Place} {names : List String} {found : List Up} {s s' : MergeState}
    (h : climb p names s = .ok found s') : ∀ u ∈ found, u ∈ p.ups := by
  have hsub : ∀ u ∈ (p.ups.drop 1).dropWhile (fun u => decide (u.nodeName ∉ names)),
      u ∈ p.ups := fun u hu => List.mem_of_mem_drop ((List.dropWhile_suffix _).subset hu)
  unfold climb at h
  generalize List.dropWhile _ _ = f at h hsub
  cases f with
  | nil => cases h
  | cons _ _ => cases h; exact hsub

theorem recordGroupRow_ok {singles groups : List Nat} {row : Nat} {g : String}
    {acc : List Nat × List Nat} {s s' : MergeState}
    (h : recordGroupRow singles groups row g s = .ok acc s') :
    acc = (singles, if row ∈ groups then groups else groups ++ [row]) := by
  obtain ⟨_, s1, -, h⟩ := bind_ok h
  cases h
  rfl

/-- INTERNAL: a placeholder's scan step records it as single and changes nothing, or records
the group row above it. -/
theorem scanPlaceholder_cases {singles groups : List Nat} {v : Nat} {acc' : List Nat × List Nat}
    {s s' : MergeState} (h : scanPlaceholder (singles, groups) v s = .ok acc' s') :
    (acc' = (singles ++ [v], groups) ∧ s' = s) ∨
      ∃ r g, (v ∈ s.dom.doc.ids → v ∈ idsInside r s.dom.doc) ∧
        recordGroupRow singles groups r g s = .ok acc' s' := by
  obtain ⟨p, hp, h⟩ := (reads_placeOf v).bind_ok h
  obtain ⟨found, hc, h⟩ := (reads_climb p _).bind_ok h
  have single : (pure (singles ++ [v], groups) : MergeM _) s = .ok acc' s' →
      acc' = (singles ++ [v], groups) ∧ s' = s := fun h => by
    cases h
    exact ⟨rfl, rfl⟩
  revert h
  split
  · split
    · -- the cell's row is the group's when it holds an annotation
      rename_i row _
      generalize hid : row.ident? = oi
      generalize XmlNode.byTag _ _ = anns
      rcases oi with _ | r
      · exact fun h => nomatch h
      rcases anns with _ | ⟨ann, _⟩
      · exact fun h => .inl (single h)
      intro h
      obtain ⟨_, -, h⟩ := (reads_groupName _).bind_ok h
      exact .inr ⟨r, _, fun hx => inside_of_up hx (placeOf_ok hp).2
        (climb_ok hc _ (by simp)) hid, h⟩
    · exact fun h => nomatch h
  · exact fun h => .inl (single h)

/-- INTERNAL: a spreadsheet variable's scan step records it as single and changes nothing, or
records a group row. -/
theorem scanCellVar_cases {singles groups : List Nat} {v : Nat} {acc' : List Nat × List Nat}
    {s s' : MergeState} (h : scanCellVar (singles, groups) v s = .ok acc' s') :
    (acc' = (singles ++ [v], groups) ∧ s' = s) ∨
      ∃ r g, recordGroupRow singles groups r g s = .ok acc' s' := by
  obtain ⟨_, -, h⟩ := (reads_attributeOf _ _).bind_ok h
  obtain ⟨_, -, h⟩ := (reads_fromExcept _).bind_ok h
  obtain ⟨_, -, h⟩ := (reads_placeOf _).bind_ok h
  obtain ⟨_, -, h⟩ := (reads_climb _ _).bind_ok h
  have single : (pure (singles ++ [v], groups) : MergeM _) s = .ok acc' s' →
      acc' = (singles ++ [v], groups) ∧ s' = s := fun h => by
    cases h
    exact ⟨rfl, rfl⟩
  revert h
  split
  · split
    · exact fun h => .inl (single h)
    · -- an annotated row group records its first row
      generalize XmlNode.byTag _ _ = anns
      rcases anns with _ | ⟨ann, _⟩
      · exact fun h => .inl (single h)
      intro h
      obtain ⟨_, -, h⟩ := (reads_groupName _).bind_ok h
      generalize firstRowOf _ = fr at h
      rcases fr with _ | r
      · cases h
      · exact .inr ⟨r, _, h⟩
  · exact fun h => .inl (single h)
theorem keeps_scanPlaceholder (acc : List Nat × List Nat) (v : Nat) :
    Keeps (scanPlaceholder acc v) := fun _ _ _ hwf h => by
  obtain ⟨singles, groups⟩ := acc
  rcases scanPlaceholder_cases h with ⟨-, rfl⟩ | ⟨_, _, -, h⟩
  · exact Cleared.refl hwf
  · exact keeps_recordGroupRow _ _ _ _ _ _ _ hwf h

theorem keeps_scanCellVar (acc : List Nat × List Nat) (v : Nat) :
    Keeps (scanCellVar acc v) := fun _ _ _ hwf h => by
  obtain ⟨singles, groups⟩ := acc
  rcases scanCellVar_cases h with ⟨-, rfl⟩ | ⟨_, _, h⟩
  · exact Cleared.refl hwf
  · exact keeps_recordGroupRow _ _ _ _ _ _ _ hwf h

theorem keeps_removeTagged (tag : String) : ∀ k, Keeps (removeTagged tag k)
  | 0 => (reads_pure ()).keeps
  | k + 1 => reads_get.keeps.bind fun _ => by
    split
    · exact (reads_throw _).keeps
    · exact (keeps_remove _).bind fun _ => keeps_removeTagged tag k

theorem keeps_scanVars (tag : String)
    {scanOne : List Nat × List Nat → Nat → MergeM (List Nat × List Nat)}
    (hs : ∀ acc v, Keeps (scanOne acc v)) (acc : List Nat × List Nat) :
    Keeps (scanVars tag scanOne acc) :=
  reads_get.keeps.bind fun _ => (keeps_foldlM hs _ _).bind fun _ =>
    reads_get.keeps.bind fun _ => (keeps_removeTagged _ _).bind fun _ =>
      reads_get.keeps.bind fun _ => (keeps_removeTagged _ _).bind fun _ => (reads_pure _).keeps

/-- The scan only marks group rows and removes the annotations. -/
theorem keeps_scanVarPtr : Keeps scanVarPtr := by
  -- the spreadsheet scan follows either way
  have hcells : ∀ acc, Keeps (docType >>= fun t =>
      if t = .spreadsheet then scanVars "text:a" scanCellVar acc else pure acc) := fun _ =>
    reads_docType.keeps.bind fun _ =>
      Keeps.ite (keeps_scanVars _ keeps_scanCellVar _) (reads_pure _).keeps
  refine (keeps_modify ?_).bind fun _ => reads_docType.keeps.bind fun _ => Keeps.ite
    ((keeps_scanVars _ keeps_scanPlaceholder _).bind hcells) ((reads_pure _).keeps.bind hcells)
  exact fun _ => ⟨rfl, rfl⟩

/-! ## A whole merge -/

/-- **What a merge leaves of the template.** A merge that returns keeps, of the template's
elements, only those the scan recorded neither as single variables nor below a group row:
every variable the scan records is gone from the tree it writes back. -/
theorem mergeContent_leaves_unrecorded {s s' : MergeState} (hwf : DocWf s)
    (h : mergeContent s = .ok () s') :
    ∃ singles groups s1, scanVarPtr s = .ok (singles, groups) s1 ∧
      ∀ y ∈ s'.dom.doc.ids, y < s.dom.nextId →
        y ∉ singles ∧ y ∈ (prune groups s1.dom.doc).ids := by
  obtain ⟨⟨singles, groups⟩, s1, h1, h⟩ := bind_ok h
  have c1 := keeps_scanVarPtr s _ s1 hwf h1
  obtain ⟨_, -, h⟩ := reads_get.bind_ok h
  obtain ⟨_, s2, h2, h⟩ := bind_ok h
  have c2 := setSingleVar_cleared _ singles c1.wf h2
  have f3 := setGroupVar_filled groups c2.wf h
  refine ⟨singles, groups, s1, h1, fun y hy hlt => ?_⟩
  have hlt2 : y < s2.dom.nextId := hlt.trans_le (c1.grows.trans c2.grows)
  rcases f3.fresh [] y (by rwa [prune_nil]) with h3 | h3
  · rw [List.append_nil] at h3
    rcases c2.fresh groups y h3 with h4 | h4
    · exact ⟨fun hs => c2.gone y hs (hlt.trans_le c1.grows) (mem_of_mem_prune h3), h4⟩
    · exact absurd (hlt.trans_le c1.grows) (Nat.not_lt.mpr h4)
  · exact absurd hlt2 (Nat.not_lt.mpr h3)

/-! ## The scan of a text document -/

/-- **A placeholder is recorded**: as a single variable, or by a group row it lies below. The
scan only adds to what it has recorded. -/
theorem scanPlaceholder_covers {acc acc' : List Nat × List Nat} {v : Nat} {s s' : MergeState}
    (h : scanPlaceholder acc v s = .ok acc' s') :
    (∀ x ∈ acc.1, x ∈ acc'.1) ∧ (∀ r ∈ acc.2, r ∈ acc'.2) ∧
      (v ∈ acc'.1 ∨ (v ∈ s.dom.doc.ids → ∃ r ∈ acc'.2, v ∈ idsInside r s.dom.doc)) := by
  obtain ⟨singles, groups⟩ := acc
  rcases scanPlaceholder_cases h with ⟨rfl, -⟩ | ⟨r, _, hin, h⟩
  · exact ⟨fun x hx => List.mem_append_left _ hx, fun _ hr => hr, .inl (by simp)⟩
  · obtain rfl := recordGroupRow_ok h
    refine ⟨fun _ hx => hx, fun r' hr' => ?_, .inr fun hx => ⟨r, ?_, hin hx⟩⟩
    · split <;> simp [hr']
    · split <;> simp_all

/-- INTERNAL: over the scan's loop, every placeholder it visits is recorded as single or lies
below a recorded row, and stays so. -/
theorem foldlM_scanPlaceholder_covers :
    ∀ (L : List Nat) {acc acc' : List Nat × List Nat} {s s' : MergeState}, DocWf s →
      L.foldlM scanPlaceholder acc s = .ok acc' s' → (∀ v ∈ L, v < s.dom.nextId) →
      (∀ x ∈ acc.1, x ∈ acc'.1) ∧ (∀ r ∈ acc.2, r ∈ acc'.2) ∧
        ∀ v ∈ L, v ∈ acc'.1 ∨ v ∉ (prune acc'.2 s'.dom.doc).ids
  | [], _, _, _, _, _, h, _ => by
    cases h
    exact ⟨fun _ h => h, fun _ h => h, fun _ h => nomatch h⟩
  | v :: L, acc, acc', s, s', hwf, h, hlt => by
    obtain ⟨acc1, s1, h1, h⟩ := bind_ok h
    have c1 := keeps_scanPlaceholder acc v s acc1 s1 hwf h1
    have c2 := keeps_foldlM keeps_scanPlaceholder L acc1 s1 acc' s' c1.wf h
    obtain ⟨hs1, hg1, hv⟩ := scanPlaceholder_covers h1
    obtain ⟨hs2, hg2, hL⟩ := foldlM_scanPlaceholder_covers L c1.wf h
      fun w hw => (hlt w (List.mem_cons_of_mem _ hw)).trans_le c1.grows
    refine ⟨fun x hx => hs2 x (hs1 x hx), fun r hr => hg2 r (hg1 r hr), fun w hw => ?_⟩
    rcases List.mem_cons.mp hw with rfl | hw
    · rcases hv with hv | hv
      · exact .inl (hs2 _ hv)
      · refine .inr fun hp => ?_
        rcases (c1.trans c2).fresh _ _ hp with hp | hp
        · obtain ⟨r, hr, hin⟩ := hv (mem_of_mem_prune hp)
          exact not_mem_prune_of_inside hwf.nodup (hg2 r hr) hin hp
        · exact absurd (hlt _ (List.mem_cons_self _ _)) (Nat.not_lt.mpr hp)
    · exact hL w hw

/-- What stays outside the recorded rows stays so through later steps, which only add rows and
new elements. -/
theorem Cleared.not_mem_prune {L R R' : List Nat} {s s' : MergeState} {v : Nat}
    (c : Cleared L s s') (hR : ∀ r ∈ R, r ∈ R') (hlt : v < s.dom.nextId)
    (hv : v ∉ (prune R s.dom.doc).ids) : v ∉ (prune R' s'.dom.doc).ids := fun hp => by
  rcases c.fresh R' v hp with hp | hp
  · exact hv (mem_prune_mono hR hp)
  · exact absurd hlt (Nat.not_lt.mpr hp)

/-- A scan step from `acc` that only adds to the single variables and the group rows. -/
def Adds (acc : List Nat × List Nat) (x : MergeM (List Nat × List Nat)) : Prop :=
  ∀ s acc' s', x s = .ok acc' s' → (∀ y ∈ acc.1, y ∈ acc'.1) ∧ ∀ r ∈ acc.2, r ∈ acc'.2

theorem adds_recordGroupRow (singles groups : List Nat) (row : Nat) (g : String) :
    Adds (singles, groups) (recordGroupRow singles groups row g) := fun _ _ _ h => by
  obtain rfl := recordGroupRow_ok h
  exact ⟨fun _ hx => hx, fun r hr => by split <;> simp [hr]⟩

/-- The scan of the `text:a` variables only adds to what the scan has recorded. -/
theorem scanCellVar_adds (acc : List Nat × List Nat) (v : Nat) :
    Adds acc (scanCellVar acc v) := fun _ _ _ h => by
  obtain ⟨singles, groups⟩ := acc
  rcases scanCellVar_cases h with ⟨rfl, -⟩ | ⟨_, _, h⟩
  · exact ⟨fun _ hx => List.mem_append_left _ hx, fun _ hr => hr⟩
  · exact adds_recordGroupRow _ _ _ _ _ _ _ h

theorem foldlM_scanCellVar_adds :
    ∀ (L : List Nat) {acc acc' : List Nat × List Nat} {s s' : MergeState},
      L.foldlM scanCellVar acc s = .ok acc' s' →
      (∀ x ∈ acc.1, x ∈ acc'.1) ∧ ∀ r ∈ acc.2, r ∈ acc'.2
  | [], _, _, _, _, h => by
    cases h
    exact ⟨fun _ h => h, fun _ h => h⟩
  | v :: L, _, _, _, _, h => by
    obtain ⟨_, _, h1, h⟩ := bind_ok h
    obtain ⟨hs1, hg1⟩ := scanCellVar_adds _ v _ _ _ h1
    obtain ⟨hs2, hg2⟩ := foldlM_scanCellVar_adds L h
    exact ⟨fun x hx => hs2 x (hs1 x hx), fun r hr => hg2 r (hg1 r hr)⟩

/-- INTERNAL: a scan is its loop over the document's variables, then steps that keep the
document. -/
theorem scanVars_ok {tag : String}
    {scanOne : List Nat × List Nat → Nat → MergeM (List Nat × List Nat)}
    (hs : ∀ acc v, Keeps (scanOne acc v)) {acc acc' : List Nat × List Nat} {s s' : MergeState}
    (hwf : DocWf s) (h : scanVars tag scanOne acc s = .ok acc' s') :
    ∃ s1, (s.dom.doc.byTag tag).foldlM scanOne acc s = .ok acc' s1 ∧ Cleared [] s1 s' := by
  obtain ⟨_, s0, h0, h⟩ := bind_ok h
  cases h0
  obtain ⟨acc1, s1, h1, h⟩ := bind_ok h
  have c1 := keeps_foldlM hs _ _ _ _ _ hwf h1
  obtain ⟨_, s2, h2, h⟩ := bind_ok h
  cases h2
  obtain ⟨_, s3, h3, h⟩ := bind_ok h
  have c3 := keeps_removeTagged _ _ _ _ _ c1.wf h3
  obtain ⟨_, s4, h4, h⟩ := bind_ok h
  cases h4
  obtain ⟨_, s5, h5, h⟩ := bind_ok h
  have c5 := keeps_removeTagged _ _ _ _ _ c3.wf h5
  cases h
  exact ⟨s1, h1, c3.trans c5⟩

theorem docType_ok {t : DocType} {s s' : MergeState} (h : docType s = .ok t s') :
    s.doctype = some t := by
  obtain ⟨_, s0, h0, h⟩ := bind_ok h
  cases h0
  cases hd : s.doctype with
  | none =>
    rw [hd] at h
    cases h
  | some t' =>
    rw [hd] at h
    cases h
    rfl

/-- **The scan of a text document records every placeholder**, as a single variable or by a
group row it lies below. -/
theorem scanVarPtr_text_covers {s s' : MergeState} {singles groups : List Nat}
    (hwf : DocWf s) (htext : detectDocType s.dom.doc s.doctype = some .text)
    (h : scanVarPtr s = .ok (singles, groups) s') :
    ∀ v ∈ s.dom.doc.byTag "text:placeholder",
      v ∈ singles ∨ v ∉ (prune groups s'.dom.doc).ids := by
  obtain ⟨_, s0, h0, h⟩ := bind_ok h
  simp only [merge_modify, EStateM.Result.ok.injEq] at h0
  obtain ⟨-, rfl⟩ := h0
  obtain ⟨t, ht, h⟩ := reads_docType.bind_ok h
  obtain rfl : t = .text := by simpa [htext] using (docType_ok ht).symm
  dsimp only at h
  rw [if_pos rfl] at h
  obtain ⟨acc, s2, h2, h⟩ := bind_ok h
  have hwf0 : DocWf { s with doctype := detectDocType s.dom.doc s.doctype } :=
    ⟨hwf.nodup, hwf.below⟩
  obtain ⟨s1, h1, c12⟩ := scanVars_ok keeps_scanPlaceholder hwf0 h2
  have c1 := keeps_foldlM keeps_scanPlaceholder _ _ _ _ _ hwf0 h1
  obtain ⟨-, -, hcov⟩ := foldlM_scanPlaceholder_covers _ hwf0 h1
    fun v hv => hwf.below v (mem_ids_of_mem_byTag hv)
  obtain ⟨_, -, h⟩ := reads_docType.bind_ok h
  -- the spreadsheet scan that may follow only adds to what is recorded
  have hlast : ∃ c : Cleared [] s2 s', (∀ x ∈ acc.1, x ∈ singles) ∧ ∀ r ∈ acc.2, r ∈ groups := by
    split at h
    · obtain ⟨s3, h3, c3⟩ := scanVars_ok keeps_scanCellVar c12.wf h
      exact ⟨(keeps_foldlM keeps_scanCellVar _ _ _ _ _ c12.wf h3).trans c3,
        foldlM_scanCellVar_adds _ h3⟩
    · cases h
      exact ⟨Cleared.refl c12.wf, fun _ h => h, fun _ h => h⟩
  obtain ⟨c2, hs, hg⟩ := hlast
  intro v hv
  have hlt : v < s1.dom.nextId := (hwf.below v (mem_ids_of_mem_byTag hv)).trans_le c1.grows
  rcases hcov v hv with hc | hc
  · exact .inl (hs v hc)
  · exact .inr ((c12.trans c2).not_mem_prune hg hlt hc)

/-- **No placeholder of a text template is left** after a merge that returns: each one is set
as a single variable or goes with the group row it lies below. -/
theorem text_merge_clears_placeholders {s s' : MergeState} (hwf : DocWf s)
    (htext : detectDocType s.dom.doc s.doctype = some .text) (h : mergeContent s = .ok () s') :
    ∀ v ∈ s.dom.doc.byTag "text:placeholder", v ∉ s'.dom.doc.ids := by
  obtain ⟨singles, groups, s1, h1, hleft⟩ := mergeContent_leaves_unrecorded hwf h
  intro v hv hv'
  have hlt := hwf.below v (mem_ids_of_mem_byTag hv)
  obtain ⟨hs, hp⟩ := hleft v hv' hlt
  rcases scanVarPtr_text_covers hwf htext h1 v hv with h2 | h2
  · exact hs h2
  · exact h2 hp

/-- INTERNAL: the largest identity of a list bounds each of them and the start. -/
theorem le_foldl_max : ∀ (l : List Nat) (a : Nat), a ≤ l.foldl max a ∧ ∀ y ∈ l, y ≤ l.foldl max a
  | [], a => ⟨Nat.le_refl a, fun _ h => nomatch h⟩
  | b :: l, a => by
    obtain ⟨h1, h2⟩ := le_foldl_max l (max a b)
    refine ⟨(Nat.le_max_left a b).trans h1, fun y hy => ?_⟩
    rcases List.mem_cons.mp hy with rfl | hy
    · exact (Nat.le_max_right a y).trans h1
    · exact h2 y hy

/-- A parsed template whose elements are distinct starts a merge well formed. -/
theorem init_wf {doc : XmlNode} (data : JsonObject) (hnd : doc.ids.Nodup) :
    DocWf (MergeState.init doc data) :=
  ⟨hnd, fun y hy => Nat.lt_succ_of_le ((le_foldl_max _ 0).2 y hy)⟩

/-- **A merged text template holds none of its placeholders.** For a template tree of distinct
elements that `detectDocType` finds a text document, the tree `doMergeTo` writes back, when it
returns one, holds none of the template's `text:placeholder` elements. -/
theorem doMergeTo_clears_placeholders {doc out : XmlNode} {data : JsonObject}
    (hnd : doc.ids.Nodup) (htext : detectDocType doc none = some .text)
    (h : doMergeTo doc data = .ok out) : ∀ v ∈ doc.byTag "text:placeholder", v ∉ out.ids := by
  unfold doMergeTo at h
  split at h
  · cases h
    exact text_merge_clears_placeholders (init_wf data hnd) htext ‹_›
  · cases h

/-- A letter whose one placeholder, `name`, is a string variable. -/
def letterDoc : XmlNode :=
  .element 1 "office:document-content" [] (
    .element 2 "office:body" [] (
      .element 3 "office:text" [] (
        .element 4 "text:p" [] (
          .element 5 "text:placeholder" [("text:description", "type:string")]
            (.text "<name>" .nil) .nil) .nil) .nil) .nil) .nil

/-- The letter with `Ann` in the place of its placeholder. -/
def letterMerged : XmlNode :=
  .element 1 "office:document-content" [] (
    .element 2 "office:body" [] (
      .element 3 "office:text" [] (
        .element 4 "text:p" [] (.text "Ann" .nil) .nil) .nil) .nil) .nil

/-- The letter merged with `name` set to `Ann` holds no placeholder. -/
theorem letter_placeholder_filled :
    letterDoc.ids.Nodup ∧ detectDocType letterDoc none = some .text ∧
      doMergeTo letterDoc [("name", .str "Ann")] = .ok letterMerged ∧
      ∀ v ∈ letterDoc.byTag "text:placeholder", v ∉ letterMerged.ids :=
  have h : doMergeTo letterDoc [("name", .str "Ann")] = .ok letterMerged := rfl
  ⟨by decide, by decide, h, doMergeTo_clears_placeholders (by decide) (by decide) h⟩

/-! ## A grouped row range -/

section GroupedRows

open XmlNode

/-- A sheet whose row group holds two rows, the annotation naming the group `items` in the
first; each row's cell holds a variable, `name` in the first and `price` in the second. -/
def groupedSheet : XmlNode :=
  element 1 "office:document-content" [] (
    element 2 "office:body" [] (
      element 3 "office:spreadsheet" [] (
        element 4 "table:table" [("table:name", "Sheet1")] (
          element 5 "table:table-row-group" [] (
            element 6 "table:table-row" [] (
              element 7 "table:table-cell" [] (
                element 8 "office:annotation" [] (element 9 "text:p" [] (text "items" nil) nil)
                (element 10 "text:p" [] (element 11 "text:a"
                  [("office:target-frame-name", "type:string")] (text "name" nil) nil) nil)) nil)
            (element 12 "table:table-row" [] (element 13 "table:table-cell" [] (
              element 14 "text:p" [] (element 15 "text:a"
                [("office:target-frame-name", "type:string")] (text "price" nil) nil) nil) nil)
              nil)) nil) nil) nil) nil) nil

/-- One item for the group `items`, with a value for both variables. -/
def itemsData : JsonObject :=
  [("items", .array [.object [("name", .str "pen"), ("price", .str "2")]])]

/-- Both variables of the row group take the group's first row as theirs, so the second row is
never filled: the merge returns a tree that still holds its variable `price`. -/
theorem later_group_row_variable_survives :
    (doMergeTo groupedSheet itemsData).toOption.map (byTag "text:a") = some [15] := by
  decide

end GroupedRows

end Loolwsd.Analysis
