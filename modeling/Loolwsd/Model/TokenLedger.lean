import Loolwsd.Model.Load

/-!
# The WOPI token ledger

`DocumentBroker::tokenUsed` (`DocumentBroker.cpp:453-479`) records the WOPI access tokens that
were presented in the SQLite table `tokens`, keyed by the token. Each call opens its own
connection and runs two statements: `SELECT count(*) FROM tokens WHERE token=?` and, when the
count is zero, `INSERT INTO tokens`. It answers false when the token was there, true when it
inserted it; an `INSERT` of a key the table already holds raises, and so does the call.

`load` (`DocumentBroker.cpp:537-555`) calls it for every WOPI session and refuses the session
when the answer is false and the public URI has no `docpass=yes`. Loads of different
documents run on different brokers' threads, so the statements of their calls interleave.
A `TokenWorld` is the table and the calls in flight; a step runs one statement of one call.
-/

set_option autoImplicit false

namespace Loolwsd.Model

/-- The table `tokens`: its keys, no key twice. -/
structure Ledger where
  tokens : List String
  nodup : tokens.Nodup

namespace Ledger

/-- `SELECT count(*) FROM tokens WHERE token=?`. -/
def count (l : Ledger) (token : String) : Nat :=
  if token ∈ l.tokens then 1 else 0

/-- `INSERT INTO tokens (token, expires) VALUES (?, …)`: the key constraint refuses a token
the table holds. -/
def insert (l : Ledger) (token : String) : Except Fault Ledger :=
  if h : token ∈ l.tokens then .error (.raised "UNIQUE constraint failed: tokens.token")
  else .ok ⟨token :: l.tokens, List.nodup_cons.mpr ⟨h, l.nodup⟩⟩

end Ledger

/-- Where one call of `tokenUsed` stands. -/
inductive TokenPhase where
  /-- Before its `SELECT`. -/
  | start
  /-- Its `SELECT` has answered `count`. -/
  | selected (count : Nat)
  /-- The call has returned its answer, or thrown. -/
  | answered (r : Except Fault Bool)

/-- A `load` of a WOPI session in its token check: the session's token, whether its public URI
has `docpass=yes`, and how far its `tokenUsed` call has got. -/
structure TokenCall where
  token : String
  docpass : Bool
  phase : TokenPhase

/-- The check of `DocumentBroker.cpp:551-555`: `load` goes on to `CheckFileInfo` when
`tokenUsed` returned true, or returned false for a URI with `docpass=yes`. -/
def passesTokenCheck (r : Except Fault Bool) (docpass : Bool) : Bool :=
  match r with
  | .ok fresh => fresh || docpass
  | .error _ => false

/-- Whether the call has passed the token check. -/
def TokenCall.passes (c : TokenCall) : Bool :=
  match c.phase with
  | .answered r => passesTokenCheck r c.docpass
  | _ => false

/-- The table and the calls of `tokenUsed` in flight. -/
structure TokenWorld where
  ledger : Ledger
  calls : List TokenCall

/-- The next statement of the call `i`: its `SELECT`, then its answer, after an `INSERT` when
the count was zero. `none` when there is no such call or it has returned. -/
def TokenWorld.step (w : TokenWorld) (i : Nat) : Option TokenWorld :=
  match w.calls[i]? with
  | none => none
  | some c =>
    match c.phase with
    | .start =>
      some { w with calls := w.calls.set i { c with phase := .selected (w.ledger.count c.token) } }
    | .selected n =>
      if n > 0 then some { w with calls := w.calls.set i { c with phase := .answered (.ok false) } }
      else
        match w.ledger.insert c.token with
        | .ok l => some ⟨l, w.calls.set i { c with phase := .answered (.ok true) }⟩
        | .error e => some { w with calls := w.calls.set i { c with phase := .answered (.error e) } }
    | .answered _ => none

/-- The worlds an interleaving reaches: from any table, with every call before its `SELECT`,
one statement of one call at a time. -/
inductive TokenReachable : TokenWorld → Prop where
  | init (l : Ledger) (calls : List TokenCall) (h : ∀ c ∈ calls, c.phase = .start) :
      TokenReachable ⟨l, calls⟩
  | step {w w' : TokenWorld} (i : Nat) :
      TokenReachable w → w.step i = some w' → TokenReachable w'

/-- Runs of statements from a world, in any order. -/
inductive TokenSteps : TokenWorld → TokenWorld → Prop where
  | refl (w : TokenWorld) : TokenSteps w w
  | step {w w' w'' : TokenWorld} (i : Nat) :
      w.step i = some w' → TokenSteps w' w'' → TokenSteps w w''

end Loolwsd.Model
