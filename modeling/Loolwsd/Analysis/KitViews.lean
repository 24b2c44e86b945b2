import Loolwsd.Analysis.Forwarding
import Loolwsd.Analysis.Frame
import Loolwsd.Analysis.Teardown

/-!
# The kit's views agree with the broker's sessions

The broker and its kit process each keep a table of the document's views. The broker's is the
session map; the kit's is built from the frames the broker sends it, which the kit reads by
their tokens (spec §6): `session <id> <docKey> <docId>` attaches the view `id`, and
`child-<id> disconnect` detaches it. The kit is not in the source, so its reading is modelled
from the spec (`viewChange`, `kitHolds`).

The broker sends the first frame in `addSessionInternal` just before it inserts the session
(`DocumentBroker.cpp:1024-1031`), and the second in `removeSessionInternal` just after it
erases the session (`DocumentBroker.cpp:1083-1095`). Every other frame it sends is quiet:
render requests and cancellations, `exit`, and `child-<id> <command>` from `forwardToChild`,
for saves and for client commands, with the `load` rewrite.

The main result, `kit_views_match_sessions`, holds along every run from a new broker, for
every interleaving of admissions, removals (deferred or not), saves, teardowns, tile traffic
and timers: the kit holds a view exactly for the sessions in the map. It needs two things of
the run's events (`kitReadable`):

* an admitted session's id is a single word, so that the kit reads it back from the frame;
* no client command forwarded to the kit is the bare word `disconnect`.

The second is needed: `forwardToChild` sends any command of a session in the map after
`child-<id> `, so the command `disconnect` would reach the kit as the very frame of a removal
while the session stays in the map.
-/

set_option autoImplicit false

namespace Loolwsd.Analysis

open Loolwsd.Model

/-! ## The kit's reading -/

/-- Modelled from the spec (§6): the change a frame makes to the kit's views. `session <id> …`
attaches the view `id`, `child-<id> disconnect` detaches it, and every other frame leaves the
views as they are. -/
def viewChange : KitMessage → Option (String × Bool)
  | .text f =>
    match tokenize f with
    | "session" :: id :: _ => some (id, true)
    | [c, "disconnect"] =>
      match c.data with
      | 'c' :: 'h' :: 'i' :: 'l' :: 'd' :: '-' :: id => some (⟨id⟩, false)
      | _ => none
    | _ => none
  | _ => none

/-- Whether the kit holds a view for `id` after reading the frames `fs` in order. -/
def kitHolds (fs : List KitMessage) (id : String) : Bool :=
  fs.foldl (fun held m => match viewChange m with
    | some (x, attach) => if x = id then attach else held
    | none => held) false

/-- A session id the kit reads back from a frame: not empty, and without a blank. -/
def singleWord (id : String) : Bool := !id.data.isEmpty && id.data.all fun c => !isSpace c

/-- INTERNAL: a frame no view is named by leaves the kit's views as they were. -/
theorem kitHolds_quiet {m : KitMessage} (fs : List KitMessage) (hm : viewChange m = none) :
    kitHolds (fs ++ [m]) = kitHolds fs := by
  funext id
  simp [kitHolds, List.foldl_append, hm]

/-- INTERNAL: a frame that attaches or detaches the view `x` changes that view only. -/
theorem kitHolds_change {m : KitMessage} {x : String} {a : Bool} (fs : List KitMessage)
    (hm : viewChange m = some (x, a)) (id : String) :
    kitHolds (fs ++ [m]) id = if x = id then a else kitHolds fs id := by
  simp [kitHolds, List.foldl_append, hm]

/-! ## The frames the broker builds -/

/-- INTERNAL: a single word is its own tokenization. -/
theorem tokenize_singleWord {id : String} (h : singleWord id = true) : tokenize id = [id] := by
  simp only [singleWord, Bool.and_eq_true, Bool.not_eq_true', List.all_eq_true] at h
  exact tokenize_of_no_space id h.2 (by simpa using h.1)

/-- INTERNAL: two single words make one. -/
theorem singleWord_append {a b : String} (ha : singleWord a = true) (hb : singleWord b = true) :
    singleWord (a ++ b) = true := by
  simp only [singleWord, Bool.and_eq_true, Bool.not_eq_true', List.all_eq_true,
    String.data_append, List.isEmpty_eq_false, ne_eq, List.append_eq_nil, List.mem_append]
    at ha hb ⊢
  exact ⟨fun h => ha.1 h.1, fun x hx => hx.elim (ha.2 x) (hb.2 x)⟩

/-- INTERNAL: `child-<id>` is a single word with `id`. -/
theorem singleWord_child {id : String} (h : singleWord id = true) :
    singleWord ("child-" ++ id) = true :=
  singleWord_append (by decide) h

/-- INTERNAL: the frame `forwardToChild` builds starts with the token `child-<id>`. -/
theorem tokenize_child {id : String} (m : String) (h : singleWord id = true) :
    tokenize ("child-" ++ id ++ " " ++ m) = ("child-" ++ id) :: tokenize m := by
  rw [tokenize_append_blank, tokenize_singleWord (singleWord_child h)]
  rfl

theorem child_ne_session (id : String) : "child-" ++ id ≠ "session" := by
  intro h
  have := congrArg (fun s => s.data.head?) h
  simp at this

/-- INTERNAL: a frame whose first token is not `session` and which is not a bare
`<token> disconnect` is quiet. -/
theorem viewChange_of_tokens {f t0 : String} {rest : List String} (h : tokenize f = t0 :: rest)
    (h0 : t0 ≠ "session") (hr : rest ≠ ["disconnect"]) : viewChange (.text f) = none := by
  simp only [viewChange, h]
  split <;> simp_all

/-- INTERNAL: the frame of an admission attaches the session's view.
Source: `DocumentBroker.cpp:1024-1025`. -/
theorem viewChange_session (id docKey docId : String) (h : singleWord id = true) :
    viewChange (.text ("session " ++ id ++ " " ++ docKey ++ " " ++ docId)) = some (id, true) := by
  have e : "session " ++ id = "session" ++ " " ++ id := rfl
  have hs : tokenize "session" = ["session"] := by decide
  simp only [viewChange, tokenize_append_blank, e, tokenize_singleWord h, hs,
    List.singleton_append, List.cons_append, List.nil_append]

/-- INTERNAL: the frame of a removal detaches the session's view.
Source: `DocumentBroker.cpp:1093-1095`. -/
theorem viewChange_disconnect (id : String) (h : singleWord id = true) :
    viewChange (.text ("child-" ++ id ++ " disconnect")) = some (id, false) := by
  have e : "child-" ++ id ++ " disconnect" = "child-" ++ id ++ " " ++ "disconnect" := by
    rw [String.append_assoc, String.append_assoc]; rfl
  have hd : tokenize "disconnect" = ["disconnect"] := by decide
  simp only [viewChange, e, tokenize_child _ h, hd]
  split
  · next heq => exact absurd (List.cons.inj heq).1 (child_ne_session id)
  · next heq => obtain ⟨rfl, -⟩ := List.cons.inj heq; rfl
  · next hn => exact absurd rfl (hn ("child-" ++ id))

/-- INTERNAL: a forwarded command that is not the bare word `disconnect` is quiet, with the
`load` rewrite or without it. Source: `DocumentBroker.cpp:1428-1458`. -/
theorem viewChange_forward {uri id m f : String} (hid : singleWord id = true)
    (hm : tokenize m ≠ ["disconnect"])
    (hf : loadRewrite uri ("child-" ++ id ++ " " ++ m) = some f) : viewChange (.text f) = none := by
  have ht := tokenize_child m hid
  unfold loadRewrite at hf
  rw [ht] at hf
  rcases hm' : tokenize m with _ | ⟨t1, _ | ⟨t2, more⟩⟩ <;> simp only [hm'] at hf
  · cases hf
    exact viewChange_of_tokens ht (child_ne_session id) hm
  · split_ifs at hf
    cases hf
    exact viewChange_of_tokens ht (child_ne_session id) hm
  · split_ifs at hf with hl
    · cases hf
      have hload : tokenize "load" = ["load"] := by decide
      have hf : tokenize (("child-" ++ id) ++ " " ++ t1 ++ " " ++ t2 ++ " jail=" ++ uri ++ " " ++
          String.intercalate " " more) = ("child-" ++ id) :: "load" :: (tokenize t2 ++
            tokenize ("jail=" ++ uri) ++ tokenize (String.intercalate " " more)) := by
        simp only [tokenize_append_blank, tokenize_append_jail, tokenize_singleWord
          (singleWord_child hid), hload, hl, List.cons_append, List.singleton_append,
          List.append_assoc, List.nil_append]
      exact viewChange_of_tokens hf (child_ne_session id) (by simp)
    · cases hf
      exact viewChange_of_tokens ht (child_ne_session id) (hm' ▸ hm)

/-- INTERNAL: the save frame is quiet. Source: `DocumentBroker.cpp:912-963`. -/
theorem saveFrame_quiet (uri id : String) (d1 d2 : Bool) (hid : singleWord id = true) :
    viewChange (.text (saveFrame uri id d1 d2)) = none :=
  have hf : loadRewrite uri ("child-" ++ id ++ " " ++ unoSaveCommand d1 d2) =
      some (saveFrame uri id d1 d2) := by simp [saveFrame]
  viewChange_forward hid (by cases d1 <;> cases d2 <;> decide) hf

/-! ## The invariant -/

/-- INTERNAL: membership in the map is read off its keys. -/
theorem contains_of_ids {m m' : SessionMap} (h : m'.ids = m.ids) (k : String) :
    m'.contains k = m.contains k := by
  have e : ∀ m : SessionMap, (∃ s ∈ m, s.id = k) ↔ k ∈ m.ids := fun m => by
    simp [SessionMap.ids]
  rw [Bool.eq_iff_iff, SessionMap.contains_iff, SessionMap.contains_iff, e, e, h]

/-- INTERNAL: `_sessions.emplace` adds the session's id to the keys, and nothing else. -/
theorem contains_emplace (m : SessionMap) (s : ClientSession) (k : String) :
    (m.emplace s).contains k = (m.contains k || s.id = k) := by
  by_cases h : m.contains s.id = true
  · rw [SessionMap.emplace_of_contains _ _ h]
    by_cases e : s.id = k
    · subst e; simp [h]
    · simp [e]
  · rw [Bool.eq_iff_iff]
    simp [SessionMap.contains_iff, SessionMap.mem_emplace _ _ _ (by simpa using h), or_and_right,
      exists_or, or_comm]

/-- The kit holds a view exactly for the sessions of the map, and every session id in the map
is a single word. -/
structure KitAgrees (b : DocumentBroker) : Prop where
  views : ∀ id, kitHolds b.toKit id = b.sessions.contains id
  words : ∀ id, b.sessions.contains id = true → singleWord id = true

/-- INTERNAL: the invariant depends on the map's keys and on the kit's views only. -/
theorem KitAgrees.frame {b b' : DocumentBroker} (h : KitAgrees b)
    (hs : b'.sessions.ids = b.sessions.ids) (hk : kitHolds b'.toKit = kitHolds b.toKit) :
    KitAgrees b' :=
  ⟨fun id => by rw [hk, h.views, contains_of_ids hs],
    fun id hc => h.words id (by rwa [contains_of_ids hs] at hc)⟩

/-- INTERNAL: a save sent through a session of the map keeps the invariant. -/
theorem KitAgrees.savedThrough {b : DocumentBroker} (h : KitAgrees b) {id : String}
    (hc : b.sessions.contains id = true) (d1 d2 : Bool) (now : Int) :
    KitAgrees (b.savedThrough id d1 d2 now) :=
  h.frame rfl (kitHolds_quiet _ (saveFrame_quiet _ _ _ _ (h.words id hc)))

/-- INTERNAL: `removeSessionInternal` erases the session and detaches its view together.
Source: `DocumentBroker.cpp:1066-1111`. -/
theorem KitAgrees.removed {b : DocumentBroker} (h : KitAgrees b) (id : String) :
    KitAgrees (b.removed id) := by
  unfold DocumentBroker.removed
  split
  · next hc =>
    have hd := viewChange_disconnect id (h.words id hc)
    refine ⟨fun x => ?_, fun x hx => h.words x ?_⟩
    · rw [kitHolds_change _ hd, SessionMap.contains_erase, ← h.views]
      by_cases e : id = x <;> simp [e, eq_comm]
    · simp only [SessionMap.contains_erase, Bool.and_eq_true] at hx
      exact hx.1
  · exact h

/-- INTERNAL: `addSessionInternal` attaches the view and inserts the session together.
Source: `DocumentBroker.cpp:1021-1031`. -/
theorem KitAgrees.admitted {b : DocumentBroker} (h : KitAgrees b) {s : ClientSession}
    (hw : singleWord s.id = true) :
    KitAgrees { b with
      toKit := b.toKit ++ [.text ("session " ++ s.id ++ " " ++ b.docKey ++ " " ++ b.docId)]
      sessions := b.sessions.emplace s } := by
  have hv := viewChange_session s.id b.docKey b.docId hw
  refine ⟨fun x => ?_, fun x hx => ?_⟩
  · rw [kitHolds_change _ hv, contains_emplace, ← h.views]
    by_cases e : s.id = x <;> simp [e]
  · rw [contains_emplace, Bool.or_eq_true, decide_eq_true_eq] at hx
    rcases hx with hx | rfl
    · exact h.words x hx
    · exact hw

/-! ## What a call returns -/

/-- Every value `x` returns satisfies `Q`. -/
def Yields {α : Type} (Q : α → Prop) (x : BrokerM α) : Prop :=
  ∀ b a b', x b = .ok a b' → Q a

section Yields

variable {α β : Type} {Q : β → Prop}

theorem Yields.pure {a : β} (h : Q a) : Yields Q (pure a : BrokerM β) := by
  intro b a' b' e
  cases e
  exact h

theorem Yields.throw (e : Fault) : Yields Q (throw e : BrokerM β) := by
  intro b a b' h
  cases h

theorem Yields.bind {P : α → Prop} {x : BrokerM α} {f : α → BrokerM β} (hx : Yields P x)
    (hf : ∀ a, P a → Yields Q (f a)) : Yields Q (x >>= f) := by
  intro b a b' h
  obtain ⟨a1, b1, h1, h2⟩ := run_bind_ok h
  exact hf a1 (hx b a1 b1 h1) b1 a b' h2

theorem Yields.trivial (x : BrokerM α) : Yields (fun _ => True) x := fun _ _ _ _ => True.intro

theorem Yields.ite {c : Prop} [Decidable c] {x y : BrokerM β} (hx : Yields Q x)
    (hy : Yields Q y) : Yields Q (if c then x else y) := by
  split <;> assumption

theorem Yields.catchRaised {x : BrokerM β} {handler : Fault → BrokerM β} (hx : Yields Q x)
    (hh : ∀ e, Yields Q (handler e)) : Yields Q (catchRaised x handler) := by
  intro b a b' h
  rcases catchRaised_ok h with h | ⟨e, b1, -, h⟩
  · exact hx b a b' h
  · exact hh e b1 a b' h

end Yields

/-- A call followed by a continuation that may rely on what the call returned. -/
theorem Leads.bind_yields {R : DocumentBroker → DocumentBroker → Prop} [IsTrans DocumentBroker R]
    {α β : Type} {P : α → Prop} {x : BrokerM α} {f : α → BrokerM β} (hx : Leads R x)
    (hy : Yields P x) (hf : ∀ a, P a → Leads R (f a)) : Leads R (x >>= f) := by
  intro b b' h
  rw [run_bind] at h
  cases hr : x b with
  | ok a b1 =>
    rw [hr] at h
    exact trans_of R (hx b b1 (by rw [hr]; rfl)) (hf a (hy b a b1 hr) b1 b' h)
  | error e b1 =>
    rw [hr] at h
    exact hx b b' (by rw [hr]; cases e <;> exact h)

/-- INTERNAL: the file-info query returns the session under its id.
Source: `DocumentBroker.cpp:535-640`. -/
theorem fileInfoPhase_id (cfg : Settings) (isWopi : Bool) (s : ClientSession) (io : LoadIO) :
    Yields (fun s' : ClientSession => s'.id = s.id) (fileInfoPhase cfg isWopi s io) := by
  unfold fileInfoPhase wopiFileInfoPhase localFileInfoPhase ndcPermission
  repeat' first
    | with_reducible refine Yields.bind (Yields.trivial _) fun _ _ => ?_
    | exact Yields.throw _
    | with_reducible refine Yields.ite ?_ ?_
    | exact Yields.pure rfl
    | exact Yields.pure (by split_ifs <;> rfl)

/-- INTERNAL: whenever `load` returns, the session it returns has the id it was given.
Source: `DocumentBroker.cpp:481-714`. -/
theorem load_id (cfg : Settings) (s : ClientSession) (j : String) (io : LoadIO) :
    Yields (fun r : Bool × ClientSession => r.2.id = s.id) (load cfg s j io) := by
  unfold load
  repeat' first
    | with_reducible refine Yields.bind (fileInfoPhase_id cfg _ s io) fun _ h => ?_
    | with_reducible refine Yields.bind (Yields.trivial _) fun _ _ => ?_
    | with_reducible refine Yields.ite ?_ ?_
    | exact Yields.pure rfl
    | exact Yields.pure ‹_›
    | split

/-! ## Every call keeps the invariant -/

theorem kitModify {f : DocumentBroker → DocumentBroker}
    (h : ∀ b, (f b).sessions.ids = b.sessions.ids ∧ (f b).toKit = b.toKit) :
    Leads (Kept KitAgrees) (modify f : BrokerM PUnit) :=
  Leads.modify fun b hb => hb.frame (h b).1 (by rw [(h b).2])

theorem sendToKit_quiet {m : KitMessage} (hm : viewChange m = none) :
    Leads (Kept KitAgrees) (sendToKit m) :=
  Leads.modify fun _ hb => hb.frame rfl (kitHolds_quiet _ hm)

theorem updateTileCache_kit (f : TileCache → TileCache) :
    Leads (Kept KitAgrees) (updateTileCache f) :=
  kitModify fun _ => ⟨rfl, rfl⟩

theorem sendToClient_kit (id : String) (m : ClientMessage) :
    Leads (Kept KitAgrees) (sendToClient id m) :=
  kitModify fun _ => ⟨rfl, rfl⟩

/-- INTERNAL: Source: `DocumentBroker.cpp:1428-1458`. -/
theorem forwardToChild_kit (id m : String) (hm : tokenize m ≠ ["disconnect"]) :
    Leads (Kept KitAgrees) (forwardToChild id m) := by
  intro b b' h hb
  rw [forwardToChild_eq] at h
  split at h
  · next hc =>
    split at h
    · next f hf =>
      cases h
      exact hb.frame rfl (kitHolds_quiet _ (viewChange_forward (hb.words id hc) hm hf))
    · cases h
  · cases h
    exact hb

/-! ### Saves and removals -/

theorem sendUnoSave_kit (id : String) (d1 d2 : Bool) (now : Int) :
    Leads (Kept KitAgrees) (sendUnoSave id d1 d2 now) := by
  intro b b' h hb
  rw [sendUnoSave_eq] at h
  split at h <;> cases h
  · exact hb.savedThrough ‹_› _ _ _
  · exact hb

/-- INTERNAL: `autoSave` saves through a session of the map. -/
theorem savingSessionId_contains {cfg : Settings} {b : DocumentBroker} {force : Bool} {now : Int}
    (h : b.autoSaveSends cfg force now) : b.sessions.contains b.savingSessionId = true := by
  obtain ⟨s, hs, e⟩ := savingSessionId_mem b h.1
  exact (SessionMap.contains_iff _ _).mpr ⟨s, hs, e.symm⟩

theorem autoSave_kit (cfg : Settings) (force : Bool) (now : Int) :
    Leads (Kept KitAgrees) (autoSave cfg force now) := by
  intro b b' h hb
  rw [autoSave_eq] at h
  split at h <;> cases h
  · exact hb.savedThrough (savingSessionId_contains ‹_›) _ _ _
  · exact hb

theorem removeSessionInternal_kit (id : String) :
    Leads (Kept KitAgrees) (removeSessionInternal id) :=
  Leads.of_eq _ _ (removeSessionInternal_eq id) fun _ hb => hb.removed id

/-- INTERNAL: a removal erases the session with its view, or defers it behind a save through a
session of the map. Source: `DocumentBroker.cpp:1042-1064`. -/
theorem removeSession_kit (cfg : Settings) (id : String) (destroyIfLast : Bool) (now : Int) :
    Leads (Kept KitAgrees) (removeSession cfg id destroyIfLast now) :=
  Leads.of_eq _ _ (removeSession_eq cfg id destroyIfLast now) fun b hb => by
    have h1 : KitAgrees (if destroyIfLast then b.lastEditorFlags id else b) := by
      split
      · refine hb.frame (by simp) ?_
        unfold DocumentBroker.lastEditorFlags; split <;> rfl
      · exact hb
    dsimp only [DocumentBroker.afterRemoveSession]
    generalize (if destroyIfLast then b.lastEditorFlags id else b) = b1 at h1 ⊢
    split
    · next hd => exact h1.savedThrough (savingSessionId_contains hd.2) _ _ _
    · exact h1.removed id

theorem shutdownEach_kit (cfg : Settings) (closeReason : String) (now : Int) :
    ∀ l : List ClientSession, Leads (Kept KitAgrees) (shutdownEach cfg closeReason now l)
  | [] => Leads.pure _
  | _ :: rest => Leads.bind
      (Leads.catchRaised
        (Leads.bind (sendToClient_kit _ _) fun _ =>
          Leads.bind (removeSession_kit _ _ _ _) fun _ => Leads.pure _)
        fun _ => Leads.pure _)
      fun _ => shutdownEach_kit cfg closeReason now rest

theorem shutdownClients_kit (cfg : Settings) (closeReason : String) (now : Int) :
    Leads (Kept KitAgrees) (shutdownClients cfg closeReason now) :=
  Leads.bind Leads.get fun _ => shutdownEach_kit _ _ _ _

theorem terminateChild_kit (cfg : Settings) (closeReason : String) (rude : Bool) (now : Int) :
    Leads (Kept KitAgrees) (terminateChild cfg closeReason rude now) := by
  have close : Leads (Kept KitAgrees)
      (modify fun b => { b with childAlive := false, stop := true } : BrokerM PUnit) :=
    kitModify fun _ => ⟨rfl, rfl⟩
  cases rude
  · exact Leads.bind (shutdownClients_kit _ _ _) fun _ =>
      Leads.bind (sendToKit_quiet rfl) fun _ => close
  · exact Leads.bind (Leads.pure _) fun _ => Leads.bind (Leads.pure _) fun _ => close

/-- INTERNAL: Source: `DocumentBroker.cpp:716-840`. -/
theorem saveToStorage_kit (sid : String) (success : Bool) (result : String) (io : SaveIO)
    (now : Int) : Leads (Kept KitAgrees) (saveToStorage sid success result io now) := by
  unfold saveToStorage saveToStorageInternal uploadOutcome sendToClient updateStorage
  repeat' first
    | with_reducible exact removeSessionInternal_kit _
    | with_reducible refine Leads.bind ?_ fun _ => ?_
    | with_reducible exact Leads.pure _
    | with_reducible exact Leads.get
    | with_reducible exact Leads.throw _
    | with_reducible exact Leads.tileCache
    | with_reducible exact Leads.storage
    | exact kitModify fun _ => ⟨by simp, rfl⟩
    | with_reducible refine Leads.ite ?_ ?_
    | split

/-! ### Admissions -/

/-- INTERNAL: `load` neither sends to the kit nor touches the session map.
Source: `DocumentBroker.cpp:481-714`. -/
theorem load_kit (cfg : Settings) (s : ClientSession) (j : String) (io : LoadIO) :
    Leads (Kept KitAgrees) (load cfg s j io) := by
  unfold load
  repeat' first
    | with_reducible refine Leads.bind ?_ fun _ => ?_
    | with_reducible exact Leads.pure _
    | with_reducible exact Leads.get
    | with_reducible exact Leads.throw _
    | with_reducible exact Leads.ask _
    | with_reducible exact Leads.storage
    | with_reducible exact kitModify fun _ => ⟨rfl, rfl⟩
    | with_reducible refine Leads.ite ?_ ?_
    | split
    | dsimp only
    | simp only [createStorage, fileInfoPhase, wopiFileInfoPhase, localFileInfoPhase,
        ndcPermission, setFileInfo, recordTimestamp, downloadIfNotLoaded, downloadPhase,
        sendLoadStats, sendToClient, updateStorage]

/-- INTERNAL: an admission sends `session <id> …` for the session it inserts, whose id is the
one it was given; a failed one touches neither the map nor the kit.
Source: `DocumentBroker.cpp:971-1040`. -/
theorem addSession_kit (cfg : Settings) (s : ClientSession) (io : LoadIO)
    (hw : singleWord s.id = true) : Leads (Kept KitAgrees) (addSession cfg s io) := by
  unfold addSession addSessionInternal
  refine Leads.catchRaised (Leads.bind Leads.get fun b0 => ?_) fun _ => ?_
  · refine Leads.bind_yields (Leads.catchRaised (load_kit _ _ _ _) fun e => ?_)
      (Yields.catchRaised (load_id cfg s b0.childJailId io) fun e => ?_) fun ⟨loaded, s'⟩ hid => ?_
    · split
      · exact Leads.bind (kitModify fun _ => ⟨rfl, rfl⟩) fun _ => Leads.throw _
      · exact Leads.throw _
    · split
      · exact Yields.bind (Yields.trivial _) fun _ _ => Yields.throw _
      · exact Yields.throw _
    · dsimp only
      split
      · exact Leads.throw _
      · refine Leads.bind (kitModify fun _ => ⟨rfl, rfl⟩) fun _ =>
          Leads.get_bind fun b b' h hb => ?_
        simp only [sendToKit, run_bind, run_modify, run_get, run_pure, settle_ok,
          Option.some.injEq] at h
        subst h
        exact hb.admitted (hid ▸ hw)
  · refine Leads.bind Leads.get fun _ => ?_
    dsimp only
    split
    · exact Leads.bind (kitModify fun _ => ⟨rfl, rfl⟩) fun _ => Leads.throw _
    · exact Leads.bind (Leads.pure _) fun _ => Leads.throw _

/-! ### Tiles and kit input -/

theorem handleTileRequest_kit (tile : TileDesc) (id : String) :
    Leads (Kept KitAgrees) (handleTileRequest tile id) := by
  unfold handleTileRequest sendToClient updateTileCache
  repeat' first
    | with_reducible refine Leads.bind ?_ fun _ => ?_
    | with_reducible exact Leads.pure _
    | with_reducible exact Leads.get
    | with_reducible exact Leads.tileCache
    | exact sendToKit_quiet rfl
    | exact kitModify fun _ => ⟨rfl, rfl⟩
    | split

theorem combinedEach_kit (id : String) :
    ∀ tiles : List TileDesc, Leads (Kept KitAgrees) (combinedEach id tiles)
  | [] => Leads.pure _
  | t :: ts => by
    unfold combinedEach sendToClient updateTileCache
    repeat' first
      | with_reducible exact combinedEach_kit id ts
      | with_reducible refine Leads.bind ?_ fun _ => ?_
      | with_reducible exact Leads.pure _
      | with_reducible exact Leads.get
      | with_reducible exact Leads.tileCache
      | exact kitModify fun _ => ⟨rfl, rfl⟩
      | split

theorem handleTileCombinedRequest_kit (tiles : List TileDesc) (id : String) :
    Leads (Kept KitAgrees) (handleTileCombinedRequest tiles id) :=
  Leads.bind (combinedEach_kit _ _) fun _ => Leads.ite (sendToKit_quiet rfl) (Leads.pure _)

theorem cancelTileRequests_kit (id : String) : Leads (Kept KitAgrees) (cancelTileRequests id) :=
  Leads.bind Leads.tileCache fun _ => Leads.bind (updateTileCache_kit _) fun _ =>
    Leads.ite (sendToKit_quiet rfl) (Leads.pure _)

theorem saveTileAndNotify_kit (tile : TileDesc) (payload : List Char) (offset size : Nat) :
    Leads (Kept KitAgrees) (saveTileAndNotify tile payload offset size) :=
  Leads.bind Leads.tileCache fun _ => by
    split
    · exact Leads.bind (kitModify fun _ => ⟨rfl, rfl⟩) fun _ => updateTileCache_kit _
    · exact Leads.throw _

theorem saveRanges_kit (payload : List Char) :
    ∀ ranges : List (TileDesc × Nat × Nat), Leads (Kept KitAgrees) (saveRanges payload ranges)
  | [] => Leads.pure _
  | (t, offset, size) :: rest =>
    Leads.bind (saveTileAndNotify_kit t payload offset size) fun _ => saveRanges_kit payload rest

theorem handleTileResponse_kit (parsers : TileParsers) (payload : List Char) :
    Leads (Kept KitAgrees) (handleTileResponse parsers payload) := by
  unfold handleTileResponse
  dsimp only
  refine Leads.catchRaised ?_ fun _ => Leads.pure _
  split
  · exact Leads.bind (Leads.ask _) fun _ => saveTileAndNotify_kit _ _ _ _
  · exact Leads.pure _

theorem handleTileCombinedResponse_kit (parsers : TileParsers) (payload : List Char) :
    Leads (Kept KitAgrees) (handleTileCombinedResponse parsers payload) := by
  unfold handleTileCombinedResponse
  dsimp only
  refine Leads.catchRaised ?_ fun _ => Leads.pure _
  split
  · exact Leads.bind (Leads.ask _) fun _ => saveRanges_kit _ _
  · exact Leads.pure _

theorem forwardToClient_kit (payload : List Char) :
    Leads (Kept KitAgrees) (forwardToClient payload) := by
  unfold forwardToClient
  dsimp only
  split
  · refine Leads.bind Leads.get fun _ => ?_
    split
    · exact Leads.bind (kitModify fun _ => ⟨rfl, rfl⟩) fun _ => Leads.pure _
    · split
      · exact Leads.bind (sendToClient_kit _ _) fun _ => Leads.pure _
      · exact Leads.pure _
  · exact Leads.pure _

theorem errorToAll_kit (payload : List Char) : Leads (Kept KitAgrees) (errorToAll payload) := by
  unfold errorToAll
  split
  · split
    · exact Leads.bind Leads.get fun _ => Leads.bind (kitModify fun _ => ⟨rfl, rfl⟩) fun _ =>
        Leads.pure _
    · exact Leads.pure _
  · exact Leads.pure _

theorem handleInput_kit (parsers : TileParsers) (payload : List Char) :
    Leads (Kept KitAgrees) (handleInput parsers payload) := by
  unfold handleInput
  dsimp only
  split
  · exact Leads.bind (forwardToClient_kit _) fun _ => Leads.pure _
  split
  · exact Leads.bind (handleTileResponse_kit _ _) fun _ => Leads.pure _
  split
  · exact Leads.bind (handleTileCombinedResponse_kit _ _) fun _ => Leads.pure _
  split
  · exact errorToAll_kit _
  split <;> exact Leads.pure _

theorem pollTimers_kit (cfg : Settings) (ps : PollSettings) (shutdownRequested : Bool)
    (now : Int) (loc : PollLocals) :
    Leads (Kept KitAgrees) (pollTimers cfg ps shutdownRequested now loc) := by
  have stop : Leads (Kept KitAgrees) (modify fun b => { b with stop := true } : BrokerM PUnit) :=
    kitModify fun _ => ⟨rfl, rfl⟩
  unfold pollTimers
  refine Leads.bind Leads.get fun _ => ?_
  dsimp only
  repeat' first
    | with_reducible exact stop
    | with_reducible exact autoSave_kit _ _ _
    | with_reducible refine Leads.bind ?_ fun _ => ?_
    | with_reducible exact Leads.pure _
    | with_reducible exact Leads.get
    | with_reducible refine Leads.ite ?_ ?_

/-! ## Runs -/

/-- The events whose frames the kit reads as the broker means them: an admitted session's id
is a single word, and a forwarded client command is not the bare word `disconnect`. -/
def kitReadable : Event → Bool
  | .addSession s _ => singleWord s.id
  | .forward _ m => tokenize m != ["disconnect"]
  | _ => true

/-- INTERNAL: every call a run can make keeps the invariant. -/
theorem call_kit (cfg : Settings) (e : Event) (he : kitReadable e = true) :
    Leads (Kept KitAgrees) (e.call cfg) := by
  have drop : ∀ {α : Type} (x : BrokerM α), Leads (Kept KitAgrees) x →
      Leads (Kept KitAgrees) (x >>= fun _ => (pure () : BrokerM Unit)) :=
    fun _ hx => Leads.bind hx fun _ => Leads.pure _
  cases e with
  | addSession s io => exact drop _ (addSession_kit cfg s io he)
  | removeSession id d now => exact drop _ (removeSession_kit _ _ _ _)
  | saveToStorage id ok r io now => exact drop _ (saveToStorage_kit _ _ _ _ _)
  | save id d1 d2 now => exact drop _ (sendUnoSave_kit _ _ _ _)
  | setModified v =>
    exact Leads.bind Leads.tileCache fun _ => Leads.bind (updateTileCache_kit _) fun _ =>
      kitModify fun _ => ⟨rfl, rfl⟩
  | setLoaded => exact kitModify fun _ => ⟨rfl, rfl⟩
  | activity now => exact kitModify fun _ => ⟨rfl, rfl⟩
  | forward id m => exact drop _ (forwardToChild_kit id m (by simpa [kitReadable] using he))
  | tileRequest t id => exact handleTileRequest_kit _ _
  | tileCombinedRequest ts id => exact handleTileCombinedRequest_kit _ _
  | cancelTiles id => exact cancelTileRequests_kit _
  | kitInput p payload => exact drop _ (handleInput_kit _ _)
  | viewLoaded id => exact kitModify fun _ => ⟨by simp, rfl⟩
  | closeFrame id => exact kitModify fun _ => ⟨by simp, rfl⟩
  | childSocketTerminated now => exact shutdownClients_kit _ _ _
  | childDied => exact kitModify fun _ => ⟨rfl, rfl⟩
  | closeDocument reason now => exact terminateChild_kit cfg reason true now
  | stop => exact kitModify fun _ => ⟨rfl, rfl⟩
  | timers ps sd now loc => exact drop _ (pollTimers_kit _ _ _ _ _)

theorem kitAgrees_init (cfg : Settings) (docKey docId childJailId : String) (t0 : Int)
    (wall : Nat) : KitAgrees (DocumentBroker.init cfg docKey docId childJailId t0 wall) :=
  ⟨fun _ => rfl, fun _ h => nomatch h⟩

theorem kitAgrees_run {cfg : Settings} {b b' : DocumentBroker} {es : List Event}
    (hb : KitAgrees b) (hes : ∀ e ∈ es, kitReadable e = true) (h : run cfg b es = some b') :
    KitAgrees b' := by
  induction es generalizing b with
  | nil => exact Option.some.inj h ▸ hb
  | cons e es ih =>
    obtain ⟨b1, h1, h2⟩ := Option.bind_eq_some.mp h
    exact ih (call_kit cfg e (hes e (List.mem_cons_self _ _)) b b1 h1 hb)
      (fun e' he' => hes e' (List.mem_cons_of_mem _ he')) h2

/-- **The kit holds a view exactly for the sessions in the map**, at the end of every run from a
new broker whose admitted session ids are single words and which forwards no bare
`disconnect`: whatever the order of admissions, failed loads, removals (deferred behind a save
or not), save completions, teardowns, tile traffic and timers.
Source: `DocumentBroker.cpp:990-1111`, `DocumentBroker.cpp:1428-1458`. -/
theorem kit_views_match_sessions (cfg : Settings) (docKey docId childJailId : String) (t0 : Int)
    (wall : Nat) (es : List Event) (hes : ∀ e ∈ es, kitReadable e = true) (b : DocumentBroker)
    (h : run cfg (DocumentBroker.init cfg docKey docId childJailId t0 wall) es = some b)
    (id : String) : kitHolds b.toKit id = b.sessions.contains id :=
  (kitAgrees_run (kitAgrees_init cfg docKey docId childJailId t0 wall) hes h).views id

/-- A session admitted, a keystroke forwarded, the session removed. -/
def oneViewRun : List Event :=
  [.addSession ⟨"a", false, false, false, false, "", "file:///doc.odt", [], "", ""⟩ localDocLoad,
    .forward "a" "key type=input char=97 key=0", .removeSession "a" false 5]

theorem one_view_run_agrees :
    (∀ e ∈ oneViewRun, kitReadable e = true) ∧ ∀ id,
      kitHolds ((run ⟨30000, 30000, 300000, true, true, false⟩
        (DocumentBroker.init ⟨30000, 30000, 300000, true, true, false⟩ "k" "d" "j" 0 0)
        oneViewRun).getD (DocumentBroker.init ⟨30000, 30000, 300000, true, true, false⟩
          "k" "d" "j" 0 0)).toKit id =
      ((run ⟨30000, 30000, 300000, true, true, false⟩
        (DocumentBroker.init ⟨30000, 30000, 300000, true, true, false⟩ "k" "d" "j" 0 0)
        oneViewRun).getD (DocumentBroker.init ⟨30000, 30000, 300000, true, true, false⟩
          "k" "d" "j" 0 0)).sessions.contains id :=
  have hes : ∀ e ∈ oneViewRun, kitReadable e = true := by decide
  ⟨hes, kit_views_match_sessions ⟨30000, 30000, 300000, true, true, false⟩ "k" "d" "j" 0 0
    oneViewRun hes _ rfl⟩

/-! ## The poll thread -/

/-- INTERNAL: the main loop keeps the invariant over every schedule of rounds.
Source: `DocumentBroker.cpp:275-311`. -/
theorem kitAgrees_mainLoop {cfg : Settings} {ps : PollSettings} {rounds : List PollRound}
    (hr : ∀ r ∈ rounds, ∀ e ∈ r.events, kitReadable e = true) :
    ∀ {loc loc' : PollLocals} {b b' : DocumentBroker}, KitAgrees b →
      mainLoop cfg ps rounds loc b = some (b', loc') → KitAgrees b' := by
  induction rounds with
  | nil =>
    intro _ _ _ _ hb h
    cases h
    exact hb
  | cons r rounds ih =>
    intro loc _ b _ hb h
    simp only [mainLoop] at h
    split at h
    · cases h
      exact hb
    · obtain ⟨b1, h1, h2⟩ := Option.bind_eq_some.mp h
      have hb1 := kitAgrees_run hb (hr r (List.mem_cons_self _ _)) h1
      split at h2
      · next loc2 b2 ht =>
        exact ih (fun r' hr' => hr r' (List.mem_cons_of_mem _ hr'))
          (pollTimers_kit cfg ps _ _ loc b1 b2 (by rw [ht]; rfl) hb1) h2
      · cases h2

/-- **`pollThread` ends by telling the kit to exit, in agreement with it.** For every schedule
of rounds and flushed calls whose events are readable by the kit, when `pollThread` returns
the last frame the kit got is `exit`, the child is closed, and the kit holds a view exactly for
the sessions left in the map (the editors whose removal was deferred behind a save).
Source: `DocumentBroker.cpp:275-330`, `DocumentBroker.cpp:1550-1577`. -/
theorem pollThread_exits_in_agreement (cfg : Settings) (ps : PollSettings)
    (rounds : List PollRound) (loc : PollLocals) (flush : List Event) (tEnd : Int)
    (docKey docId childJailId : String) (t0 : Int) (wall : Nat)
    (hr : ∀ r ∈ rounds, ∀ e ∈ r.events, kitReadable e = true)
    (hf : ∀ e ∈ flush, kitReadable e = true) (b : DocumentBroker)
    (h : pollThread cfg ps rounds loc flush tEnd
      (DocumentBroker.init cfg docKey docId childJailId t0 wall) = some b) :
    b.toKit.getLast? = some (.text "exit") ∧ b.childAlive = false ∧
      ∀ id, kitHolds b.toKit id = b.sessions.contains id := by
  obtain ⟨⟨b1, loc1⟩, h1, h2⟩ := Option.bind_eq_some.mp h
  obtain ⟨b2, h3, h4⟩ := Option.bind_eq_some.mp h2
  have a2 := kitAgrees_run (kitAgrees_mainLoop hr (kitAgrees_init cfg docKey docId childJailId
    t0 wall) h1) hf h3
  have a3 := terminateChild_kit cfg loc1.closeReason false tEnd b2 b h4 a2
  obtain ⟨b5, h5⟩ := shutdownEach_ok cfg loc1.closeReason tEnd b2.sessions.entries b2
  simp only [terminateChild, shutdownClients, sendToKit, Bool.not_false, ite_true, run_bind,
    run_get, h5, run_modify, settle_ok, Option.some.injEq] at h4
  subst h4
  exact ⟨by simp, rfl, a3.views⟩

/-- One editor admitted and its view loaded; the recycling flag stops the main loop. -/
def oneEditorRounds : List PollRound :=
  [⟨[.addSession ⟨"a", false, false, false, false, "", "file:///doc.odt", [], "u", "U"⟩ localDocLoad,
    .setLoaded, .viewLoaded "a"], 60000, true⟩]

/-- The editor's removal is deferred behind a save: `pollThread` returns with `a` in the map
and its view held by the kit, after `exit`. -/
theorem deferred_editor_view_held_at_exit :
    (∀ r ∈ oneEditorRounds, ∀ e ∈ r.events, kitReadable e = true) ∧
      (∀ e ∈ ([] : List Event), kitReadable e = true) ∧
      ∃ b, pollThread ⟨30000, 30000, 300000, true, true, false⟩ ⟨true, 3600, 30⟩ oneEditorRounds
          ⟨0, "stopped"⟩ [] 61000 (DocumentBroker.init ⟨30000, 30000, 300000, true, true, false⟩
            "k" "d" "j" 0 0) = some b ∧ b.sessions.contains "a" = true ∧
        b.toKit.getLast? = some (.text "exit") ∧ b.childAlive = false ∧
        ∀ id, kitHolds b.toKit id = b.sessions.contains id :=
  have hr : ∀ r ∈ oneEditorRounds, ∀ e ∈ r.events, kitReadable e = true := by decide
  have hf : ∀ e ∈ ([] : List Event), kitReadable e = true := by simp
  have hs : (pollThread ⟨30000, 30000, 300000, true, true, false⟩ ⟨true, 3600, 30⟩
      oneEditorRounds ⟨0, "stopped"⟩ [] 61000 (DocumentBroker.init
        ⟨30000, 30000, 300000, true, true, false⟩ "k" "d" "j" 0 0)).isSome := by decide
  have ⟨b, hb⟩ := Option.isSome_iff_exists.mp hs
  have ha : (pollThread ⟨30000, 30000, 300000, true, true, false⟩ ⟨true, 3600, 30⟩
      oneEditorRounds ⟨0, "stopped"⟩ [] 61000 (DocumentBroker.init
        ⟨30000, 30000, 300000, true, true, false⟩ "k" "d" "j" 0 0)).map
      (fun b => b.sessions.contains "a") = some true := by decide
  ⟨hr, hf, b, hb, by simpa [hb] using ha, pollThread_exits_in_agreement ⟨30000, 30000, 300000, true, true, false⟩
    ⟨true, 3600, 30⟩ oneEditorRounds ⟨0, "stopped"⟩ [] 61000 "k" "d" "j" 0 0 hr hf b hb⟩

end Loolwsd.Analysis
