import Loolwsd.Model.Request

/-!
# The variables of a template, as the API description lists them

`Parser::jsonVars` (`DocumentBroker.cpp:2455-2520`) and `Parser::jjsonVars`
(`DocumentBroker.cpp:2523-2608`) describe a template's variables for the API documentation:
an entry per single variable, then per group the entries of the variables of the group's row,
separated by commas. A name that occurs again in the row is skipped; whether a comma follows an
entry is decided by the entry's index among all the row's variables.

An entry is `parseJsonVar` of the variable's name and descriptor
(`DocumentBroker.cpp:2111-2314`), formatted with the template `PARAMTEMPL`, which the source
does not hold. The loops take it as a parameter: every result about them holds for every entry
function. `parseJsonVar` itself is modelled up to the template: it returns the `/json` sample
line, or the three arguments `Poco::format` fills the template with.
-/

set_option autoImplicit false

namespace Loolwsd.Model

/-- The variables of a group row as the loops read them: each one's text and its descriptor
(`DocumentBroker.cpp:2495-2506`). The code reads a descriptor after the duplicate check; a read
of an element of the row neither fails nor changes anything, so reading it first gives the same
outcomes. -/
def rowVariables (t : DocType) (row : Nat) : MergeM (List (String × String)) := do
  (← elementsByTagName row t.varTag).mapM fun elm => do
    let p ← placeOf elm
    pure (p.node.innerText, p.node.getAttribute t.varTagProperty)

/-- The loop over a group row's variables that `jsonVars` and `jjsonVars` share: `i` is the
variable's index among all the row's variables, `childVarList` the names already described, and
`sepAfter i` whether a comma follows the entry of the variable `i`. A text document's name is
the text with its angle brackets cut off. -/
def groupCellsLoop (t : DocType) (parseJsonVar : String → String → Except Fault String)
    (sepAfter : Nat → Bool) :
    Nat → List String → List (String × String) → String → Except Fault String
  | _, _, [], cells => .ok cells
  | i, childVarList, (text, vardata) :: rest, cells => do
    let varName ← t.dataKey text
    if varName ∈ childVarList then
      groupCellsLoop t parseJsonVar sepAfter (i + 1) childVarList rest cells
    else
      let entry ← parseJsonVar varName vardata
      groupCellsLoop t parseJsonVar sepAfter (i + 1) (childVarList ++ [varName]) rest
        (cells ++ entry ++ if sepAfter i then "," else "")

/-- The cells of a group in `Parser::jsonVars` (`DocumentBroker.cpp:2497-2516`): a comma after
the entry of the variable `i` when `(i+1) < childLen`. -/
def jsonVarsCells (t : DocType) (parseJsonVar : String → String → Except Fault String)
    (vars : List (String × String)) : Except Fault String :=
  groupCellsLoop t parseJsonVar (fun i => i + 1 < vars.length) 0 [] vars ""

/-- The cells of a group in `Parser::jjsonVars` (`DocumentBroker.cpp:2578-2594`), which the
code writes straight after the text of the group's opening brace: a comma after the entry of
the variable `i` when `(i+1) != childLen`. -/
def jjsonVarsCells (t : DocType) (parseJsonVar : String → String → Except Fault String)
    (vars : List (String × String)) : Except Fault String :=
  groupCellsLoop t parseJsonVar (fun i => i + 1 ≠ vars.length) 0 [] vars ""

/-- The cells `jsonVars` builds for a group row. -/
def jsonVarsGroupCells (parseJsonVar : String → String → Except Fault String) (row : Nat) :
    MergeM String := do
  let t ← docType
  fromExcept (jsonVarsCells t parseJsonVar (← rowVariables t row))

/-- The cells `jjsonVars` builds for a group row, with its entry function
`parseJsonVar(varName, vardata, true)`. -/
def jjsonVarsGroupCells (parseJsonVar : String → String → Except Fault String) (row : Nat) :
    MergeM String := do
  let t ← docType
  fromExcept (jjsonVarsCells t parseJsonVar (← rowVariables t row))

/-! ## `parseJsonVar` -/

/-- A text between two quotes, as the code writes `"\"" + tok + "\""`. -/
def quoted (t : String) : String :=
  "\"" ++ t ++ "\""

/-- `Poco::replaceInPlace(s, from, to)` for a one-character `from`: each occurrence replaced,
from left to right. -/
def replaceChar (s : String) (c : Char) (rep : String) : String :=
  ⟨s.data.flatMap fun x => if x = c then rep.data else [x]⟩

/-- The items of an `enum` variable: its `Items` value with the quotes removed, cut at the
commas (`DocumentBroker.cpp:2129-2130`, `2144-2145`). -/
def enumItems (enumvar : String) : List String :=
  splitTokens ',' (replaceChar enumvar dquote "")

/-- `enumvardata` (`DocumentBroker.cpp:2121-2155`): each item between quotes, with commas
between them. -/
def enumVarData (yaml : Bool) (enumvar : String) : String :=
  let items := String.intercalate "," ((enumItems enumvar).map quoted)
  if yaml then "                \"enum\": [" ++ items ++ "]\n"
  else ",\n                        \"enum\":[" ++ items ++ "]"

/-- `descvar` as the description writes it: without its quotes and, in JSON, with its line breaks
written `<br />` (`DocumentBroker.cpp:2165`, `2178-2179`). -/
def cleanDesc (yaml : Bool) (descvar : String) : String :=
  if yaml then replaceChar descvar dquote ""
  else replaceChar (replaceChar descvar dquote "") '\n' "<br />"

/-- The help text and the description joined by `sep` when both are there, as the description
field and the `/json` sample write them (`DocumentBroker.cpp:2167-2172`, `2181-2186`,
`2213-2218`). -/
def helpText (sep apihelpvar descvar : String) : String :=
  apihelpvar ++ (if descvar ≠ "" ∧ apihelpvar ≠ "" then sep else "") ++ descvar

/-- The description field (`DocumentBroker.cpp:2160-2189`), for a `descvar` already cleaned. -/
def descData (yaml : Bool) (apihelpvar descvar : String) : String :=
  if yaml then
    "                \"description\": " ++ quoted (helpText "\n" apihelpvar descvar) ++ "\n"
  else ",\n                        \"description\": " ++ quoted (helpText " / " apihelpvar descvar)

/-- The format field (`DocumentBroker.cpp:2190-2206`): the `Format` value without its quotes. -/
def formatData (yaml : Bool) (formatvar : String) : String :=
  let formatvar := replaceChar formatvar dquote ""
  if yaml then "                \"format\": " ++ quoted formatvar ++ "\n"
  else ",\n                        \"format\": " ++ quoted formatvar

/-- The item fields of a `file` variable (`DocumentBroker.cpp:2221-2250`). -/
def fileItemsData (yaml : Bool) : String :=
  if yaml then
    "                \"items\":" ++ "\n" ++ "                  \"type\": \"" ++ "string\"" ++
      "\n" ++ "                  \"format\": \"" ++ "binary\"" ++ "\n"
  else
    ",\n                        \"items\": \x7b\n                        \"type\": \"string\",\n" ++
      "                        \"format\": \"binary\"\n                      \x7d"

/-- `jvalue`, the JSON type of a variable's `Type` (`DocumentBroker.cpp:2220-2302`). -/
def jsonType (realtype : String) : String :=
  match realtype with
  | "file" => "array"
  | "string" => "string"
  | "auto" => "string"
  | "float" => "number"
  | "enum" => "string"
  | "boolean" => "boolean"
  | "date" => "string"
  | "time" => "string"
  | "percentage" => "number"
  | "currency" => "integer"
  | _ => "??????"

/-- `jjvalue`, the value of the `/json` sample (`DocumentBroker.cpp:2210-2218`, `2258-2266`):
the type, then the help text and the description. -/
def sampleValue (realtype apihelpvar descvar : String) : String :=
  (if realtype = "auto" then "string or float" else realtype) ++ "  // " ++
    helpText " / " apihelpvar descvar

/-- What `parseJsonVar` returns (`DocumentBroker.cpp:2304-2312`): the `/json` sample line, or the
arguments `Poco::format` fills `YAMLPARAMTEMPL` (when the first one holds) or `PARAMTEMPL` with:
the variable's name, its JSON type and its fields. The two templates are not in the source. -/
inductive JsonVarOut where
  | sample (line : String)
  | param (yamlTemplate : Bool) (var jvalue databuf : String)
  deriving DecidableEq, Repr

/-- `Parser::parseJsonVar` (`DocumentBroker.cpp:2111-2313`); `outYaml` is the parser's flag. The
description is cleaned only when it or the help text is there; an empty one stays empty. -/
def parseJsonVar (outYaml : Bool) (var vardata : String) (anotherJson yaml : Bool) :
    Except Fault JsonVarOut := do
  let typevar ← varKeyValue vardata "Type"
  let enumvar ← varKeyValue vardata "Items"
  let descvar ← varKeyValue vardata "Description"
  let formatvar ← varKeyValue vardata "Format"
  let apihelpvar ← varKeyValue vardata "ApiHelp"
  let enumPart := if typevar = "enum" ∧ enumvar ≠ "" then enumVarData yaml enumvar else ""
  let hasDesc := descvar ≠ "" ∨ apihelpvar ≠ ""
  let descvar := if hasDesc then cleanDesc yaml descvar else descvar
  let descPart := if hasDesc then descData yaml apihelpvar descvar else ""
  let formatPart := if formatvar ≠ "" then formatData yaml formatvar else ""
  let realtype ← varKeyValue vardata "Type"
  let filePart := if realtype = "file" then fileItemsData yaml else ""
  let databuf := enumPart ++ descPart ++ formatPart ++ filePart
  if anotherJson then
    pure (.sample (quoted var ++ ": " ++ quoted (sampleValue realtype apihelpvar descvar)))
  else pure (.param outYaml var (jsonType realtype) databuf)

end Loolwsd.Model
