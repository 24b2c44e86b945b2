import Loolwsd.Model.Broker

/-!
# The access counts of the merge endpoints

Every merge request is served by a process of its own (`MergeODF::handleMergeTo`,
`DocumentBroker.cpp:3836-3876`), which counts the request before merging:
`LogDB::updateAccessTimes` (`DocumentBroker.cpp:1807-1847`) reads the endpoint's count from the
SQLite table `summary`, keyed by the endpoint, and inserts the row `(api, 1)` when there is
none or adds one to it otherwise. The count is read into an `int`, while the `UPDATE` adds one
in SQLite's 64-bit integers: a count whose lower 32 bits are all ones reads as -1, the "no row"
value. The two statements run on the process's own connection, so the statements of concurrent
requests interleave; an `INSERT` of a key the table already holds raises, and the call with it.
A `CountWorld` is the table and the calls in flight; a step runs one statement of one call.

Before any count, `LogDB::changeTable` (`DocumentBroker.cpp:1740-1805`) creates `summary` and
moves the counts of the table `access`, which earlier versions wrote one row per event, into it.
-/

set_option autoImplicit false

namespace Loolwsd.Model

/-- The table `summary`: each endpoint's `accessTimes`, no endpoint twice. -/
structure Summary where
  rows : List (String × Int)
  nodup : (rows.map Prod.fst).Nodup

namespace Summary

/-- The table with no row. -/
def empty : Summary := ⟨[], List.nodup_nil⟩

/-- An SQLite integer read into an `int`: Poco's `into(int)` takes `sqlite3_column_int`, the
value's lower 32 bits as a signed 32-bit integer. -/
def readInt (x : Int) : Int :=
  if x % 4294967296 < 2147483648 then x % 4294967296 else x % 4294967296 - 4294967296

/-- `select accessTimes from summary where api=?` into `int value`, which keeps its initial -1
when there is no row. -/
def select (s : Summary) (api : String) : Int :=
  ((s.rows.lookup api).map readInt).getD (-1)

/-- `insert into summary values (?, 1)`: the key constraint refuses an endpoint the table
holds. -/
def insert (s : Summary) (api : String) : Except Fault Summary :=
  if h : api ∈ s.rows.map Prod.fst then .error (.raised "UNIQUE constraint failed: summary.api")
  else .ok ⟨(api, 1) :: s.rows, List.nodup_cons.mpr ⟨h, s.nodup⟩⟩

/-- `Update summary set accessTimes = accessTimes + 1 where api=?`. -/
def update (s : Summary) (api : String) : Summary :=
  ⟨s.rows.map fun r => if r.1 = api then (r.1, r.2 + 1) else r, by
    have h : (Prod.fst ∘ fun r : String × Int => if r.1 = api then (r.1, r.2 + 1) else r) =
        Prod.fst := funext fun r => by by_cases hr : r.1 = api <;> simp [hr]
    rw [List.map_map, h]
    exact s.nodup⟩

/-- The count of an endpoint, an absent row counting as 0. -/
def accessTimes (s : Summary) (api : String) : Int :=
  (s.rows.lookup api).getD 0

end Summary

/-- Where one call of `updateAccessTimes` stands. -/
inductive CountPhase where
  /-- Before its `select`. -/
  | start
  /-- Its `select` has read `value`. -/
  | selected (value : Int)
  /-- The call has returned, or thrown. -/
  | done (r : Except Fault Unit)

/-- A merge request counting itself: its endpoint and how far `updateAccessTimes` has got. -/
structure CountCall where
  api : String
  phase : CountPhase

/-- The table and the calls of `updateAccessTimes` in flight. -/
structure CountWorld where
  summary : Summary
  calls : List CountCall

/-- The next statement of the call `i`: its `select`, then the `insert` when it read no row,
or the `update`. `none` when there is no such call or it has returned. -/
def CountWorld.step (w : CountWorld) (i : Nat) : Option CountWorld :=
  match w.calls[i]? with
  | none => none
  | some c =>
    match c.phase with
    | .start =>
      some { w with calls := w.calls.set i { c with phase := .selected (w.summary.select c.api) } }
    | .selected value =>
      if value = -1 then
        match w.summary.insert c.api with
        | .ok s => some ⟨s, w.calls.set i { c with phase := .done (.ok ()) }⟩
        | .error e => some { w with calls := w.calls.set i { c with phase := .done (.error e) } }
      else some ⟨w.summary.update c.api, w.calls.set i { c with phase := .done (.ok ()) }⟩
    | .done _ => none

/-- The statements of the calls in the order of `schedule`, one call index per statement. -/
def CountWorld.run (w : CountWorld) : List Nat → Option CountWorld
  | [] => some w
  | i :: schedule => (w.step i).bind fun w' => w'.run schedule

/-! ## From the table `access` to `summary` -/

/-- A row of the table `access` that earlier versions wrote, one per event of a request. -/
structure AccessRow where
  api : String
  status : String
  deriving DecidableEq, Repr

/-- `replace into summary (api, accessTimes) values (?, ?)`: the row of `api`, if any, is
deleted, then `(api, n)` is inserted. -/
def Summary.replace (s : Summary) (api : String) (n : Int) : Summary :=
  ⟨(api, n) :: s.rows.filter (·.1 ≠ api), by
    refine List.nodup_cons.mpr ⟨?_, ?_⟩
    · simp
    · exact s.nodup.sublist ((List.filter_sublist _).map _)⟩

/-- The database `LogDB` opens: the table `summary` once created, and the table `access` of
earlier versions when it is there. -/
structure LogTables where
  summary : Option Summary
  access : Option (List AccessRow)

/-- The `start` rows of `api`: `select count(*) FROM access where api=? and status='start'`. -/
def startCount (access : List AccessRow) (api : String) : Nat :=
  (access.filter fun r => r.api = api ∧ r.status = "start").length

/-- One round of the loop of `changeTable` (`DocumentBroker.cpp:1764-1794`): the endpoint's
`start` rows are counted into `summary`, then its rows are deleted from `access`. -/
def migrateApi (acc : Summary × List AccessRow) (api : String) : Summary × List AccessRow :=
  (acc.1.replace api (startCount acc.2 api), acc.2.filter fun r => r.api ≠ api)

/-- `LogDB::changeTable` (`DocumentBroker.cpp:1740-1805`). `CREATE TABLE IF NOT EXISTS summary`
comes first; `select DISTINCT api FROM access` then fails when there is no table `access`, and
the exception leaves the call. `apiName` is what that query returns, in the order the database
returns it. The final `vacuum` changes no row. -/
def changeTable (apiName : List String) : EStateM Fault LogTables Unit := fun db =>
  let summary := db.summary.getD Summary.empty
  match db.access with
  | none => .error (.raised "no such table: access") ⟨some summary, none⟩
  | some access =>
    let (summary, access) := apiName.foldl migrateApi (summary, access)
    .ok () ⟨some summary, some access⟩

end Loolwsd.Model
