import Loolwsd.Model.Merge

/-!
# The request of a merge

`MergeODF::doMergeTo` (`DocumentBroker.cpp:3644-3719`) turns the request into the JSON object
the parser fills the template from, in one of two ways.

* A JSON body is read line by line and the lines joined. Three passes of `keyword2Lower`
  (`DocumentBroker.cpp:3527-3547`) then write the keywords `null`, `true` and `false` in lower
  case, so that Poco's parser takes `TRUE` as a boolean, before the body is parsed. A pass
  searches the body for the keyword up to case with a `Poco::RegularExpression`, and writes the
  keyword over each match whose neighbours are not double quotes.
* An HTML form is decoded by `parseArray2Form` (`DocumentBroker.cpp:3550-3631`): a field named
  `g[i][k]` is the key `k` of the row `i` of the group `g`, any other field is a member of the
  object. A group's rows that hold a key become the group's array, in the order of their
  indices.

A `std::string` is a sequence of characters; the keywords, the quote and the brackets are
ASCII, so a character of several bytes is never matched nor compared equal in part. Poco's
JSON parser is not modelled.
-/

set_option autoImplicit false

namespace Loolwsd.Model

/-! ## `keyword2Lower` -/

/-- The double quote. -/
def dquote : Char := Char.ofNat 34

/-- The character `in[size()]` reads: the terminating null. -/
def nul : Char := Char.ofNat 0

/-- The keywords `doMergeTo` writes in lower case, in the order of its passes. -/
def jsonKeywords : List String := ["null", "true", "false"]

/-- Whether the pattern `kw`, a plain word compiled with `RE_CASELESS`, matches at the start of
`s`. -/
def matchesAt (kw s : List Char) : Bool :=
  (s.take kw.length).map Char.toLower == kw.map Char.toLower

/-- The first position from `i` at which the pattern matches, scanning the rest `l` of the
subject. -/
def firstMatch (kw : List Char) : List Char → Nat → Option Nat
  | [], i => if matchesAt kw [] then some i else none
  | c :: cs, i => if matchesAt kw (c :: cs) then some i else firstMatch kw cs (i + 1)

/-- `RegularExpression::match(in, offset, match)`: the first match at or after `offset`. An
offset past the end is an error of PCRE, which the loop takes as no match. -/
def findMatch (kw s : List Char) (offset : Nat) : Option Nat :=
  if offset ≤ s.length then firstMatch kw (s.drop offset) offset else none

/-- `in[match.offset + idx] = keyword[idx]` for each index of the keyword. -/
def overwrite (s : List Char) (m : Nat) (kw : List Char) : List Char :=
  s.take m ++ kw ++ s.drop (m + kw.length)

/-- The loop of `keyword2Lower` from `offset` (`DocumentBroker.cpp:3535-3545`). A match at `0`
reads `in[match.offset - 1]`, which is `in[npos]`; a match that ends the string reads
`in[size()]`, the null. The search goes on after the match, written over or not. Each round
moves the offset forward, so `fuel` rounds past the string's length are never used up. -/
def lowerLoop (kw : List Char) : Nat → List Char → Nat → Except Fault (List Char)
  | 0, s, _ => .ok s
  | fuel + 1, s, offset =>
    match findMatch kw s offset with
    | none => .ok s
    | some m =>
      if m = 0 then .error .undefinedBehaviour
      else
        let s := if s.getD (m - 1) nul ≠ dquote ∧ s.getD (m + kw.length) nul ≠ dquote then
          overwrite s m kw else s
        lowerLoop kw fuel s (m + kw.length)

/-- `MergeODF::keyword2Lower` (`DocumentBroker.cpp:3527-3547`), for a keyword that is a plain
word. -/
def keyword2Lower (input keyword : String) : Except Fault String :=
  String.mk <$> lowerLoop keyword.data (input.length + 1) input.data 0

/-- The body as `doMergeTo` reads it (`DocumentBroker.cpp:3663-3670`): `std::getline` up to the
end, the lines joined with no newline between them. -/
def readBody (body : String) : String :=
  ⟨body.data.filter (· ≠ '\n')⟩

/-- The three passes over the body before it is parsed (`DocumentBroker.cpp:3674-3676`). -/
def lowerKeywords (jstr : String) : Except Fault String := do
  let jstr ← keyword2Lower jstr "null"
  let jstr ← keyword2Lower jstr "true"
  keyword2Lower jstr "false"

/-! ## `parseArray2Form` -/

/-- The brackets the pattern of a group field excludes from its parts. -/
def isBracket (c : Char) : Bool :=
  c = '[' || c = ']'

/-- The parts of a field name matched by `^([^\]\[]*)\[([^\]\[]*)\]\[([^\]\[]*)\]$`
(`DocumentBroker.cpp:3567-3571`): the group name, the index and the key. The parts hold no
bracket, so the pattern matches at most one way: the name's brackets are `[`, `]`, `[`, `]` in
this order, the middle two adjacent and the last one at the end, or before a final newline,
where PCRE's `$` also matches. -/
def groupFieldParts (name : String) : Option (String × String × String) :=
  if name.data.filter isBracket = "[][]".data then
    match name.data.splitOnP isBracket with
    | [g, i, [], k, tail] => if tail = [] ∨ tail = ['\n'] then some (⟨g⟩, ⟨i⟩, ⟨k⟩) else none
    | _ => none
  else none

/-- A row of a group: a `std::map` from key to value. The order of its keys is not modelled;
every use reads it by key or copies it whole. -/
abbrev FormRow := List (String × String)

/-- `row[key] = value`. -/
def FormRow.set (row : FormRow) (key value : String) : FormRow :=
  if (row.lookup key).isSome then row.map fun p => if p.1 = key then (key, value) else p
  else row ++ [(key, value)]

/-- `if (rows.size() < (unsigned)(grpidx + 1)) rows.resize(grpidx + 1);` and
`rows.at(grpidx)[grpkey] = value;` (`DocumentBroker.cpp:3592-3597`), with `grpidx` an `int`.
`grpidx + 1` overflows at `INT_MAX`. A negative `grpidx + 1` is a size past `max_size()`, and
`resize` throws `length_error`; `at` past the end throws `out_of_range`. -/
def placeRowValue (rows : List FormRow) (grpidx : Int) (grpkey value : String) :
    Except Fault (List FormRow) := do
  if grpidx = 2147483647 then throw .undefinedBehaviour
  let rows ← if (rows.length : Int) < (grpidx + 1) % 4294967296 then
      if grpidx + 1 < 0 then throw (.raised "vector::_M_default_append")
      else pure (rows ++ List.replicate ((grpidx + 1).toNat - rows.length) [])
    else pure rows
  if 0 ≤ grpidx ∧ grpidx < rows.length then
    pure (rows.set grpidx.toNat ((rows.getD grpidx.toNat []).set grpkey value))
  else throw (.raised "vector::_M_range_check")

/-- `grpNames`, from a group name to its rows. The order of the groups is not modelled: each
group writes its own member of the object only. -/
abbrev GroupRows := List (String × List FormRow)

/-- `grpNames[grpname] = rows`. -/
def GroupRows.set (g : GroupRows) (grpname : String) (rows : List FormRow) : GroupRows :=
  if (g.lookup grpname).isSome then g.map fun p => if p.1 = grpname then (grpname, rows) else p
  else g ++ [(grpname, rows)]

/-- One field of the first loop of `parseArray2Form` (`DocumentBroker.cpp:3559-3598`): a field
the pattern does not match is set in the object; a group field's index is read by `std::stoi`
and its value placed in the group's rows. -/
def addField (acc : JsonObject × GroupRows) (field : String × String) :
    Except Fault (JsonObject × GroupRows) :=
  match groupFieldParts field.1 with
  | none => .ok (acc.1.set field.1 (.str field.2), acc.2)
  | some (grpname, grpidxRaw, grpkey) => do
    let grpidx ← stoi grpidxRaw
    let rows ← placeRowValue ((acc.2.lookup grpname).getD []) grpidx grpkey field.2
    pure (acc.1, acc.2.set grpname rows)

/-- `tempData`: a row as a JSON object, its keys set one by one. -/
def rowObject (names : FormRow) : JsonObject :=
  names.foldl (fun o p => o.set p.1 (.str p.2)) []

/-- One row of the second loop (`DocumentBroker.cpp:3609-3627`): a row that holds a key is
added to the group's array, made first when the object has no member of the group's name.
`getArray` of a member that is not an array is null, and `->add` through Poco's `SharedPtr`
then throws `NullPointerException`, whose `what()` is `Null pointer`. -/
def addGroupRow (grpname : String) (formJson : JsonObject) (names : FormRow) :
    Except Fault JsonObject :=
  if names.length ≠ 0 then
    let formJson := if formJson.has grpname then formJson else formJson.set grpname (.array [])
    match formJson.lookup grpname with
    | some (.array items) => .ok (formJson.set grpname (.array (items ++ [.object (rowObject names)])))
    | _ => .error (.raised "Null pointer")
  else .ok formJson

/-- One group of the second loop (`DocumentBroker.cpp:3603-3628`): its rows in index order. -/
def addGroup (formJson : JsonObject) (grp : String × List FormRow) : Except Fault JsonObject :=
  grp.2.foldlM (addGroupRow grp.1) formJson

/-- `MergeODF::parseArray2Form` (`DocumentBroker.cpp:3550-3631`), for the fields in the order
the form's iterator visits them. -/
def parseArray2Form (form : List (String × String)) : Except Fault JsonObject := do
  let (formJson, grpNames) ← form.foldlM addField ([], [])
  grpNames.foldlM addGroup formJson

end Loolwsd.Model
