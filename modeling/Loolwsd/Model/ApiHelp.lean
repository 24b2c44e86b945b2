import Loolwsd.Model.TemplateVars
import Loolwsd.Model.Routing

/-!
# The API description of the templates

`MergeODF::makeApiJson` (`DocumentBroker.cpp:3384-3453`) describes the templates for the API
documentation. It goes through the template files in the glob's order; for each one it builds a
`Parser`, formats the template's variables, by `jsonVars`, `yamlVars` or, for the sample of a
JSON body, `jjsonVars`, and appends the text. A template whose parser or description throws is
skipped by the `catch` around the body. After a description it writes a comma, unless the
output is YAML or the template is the last of the list. Given an endpoint `which`, it skips the
other templates and stops after the first description of that endpoint.

`Parser::jjsonVars` (`DocumentBroker.cpp:2522-2605`) writes the sample of a JSON body: the
sample line of each single variable followed by `,<br />`, then a block per group followed by
`,<br />`, and at the end it turns the last `,<br />` into `<br />`.

The formats `APITEMPL`, `YAMLTEMPL` and `TEMPLH` are not in the source: the description of one
template is a parameter of the loop, and the header `showHead` adds is left out.
-/

set_option autoImplicit false

namespace Loolwsd.Model

/-! ## `jjsonVars` -/

/-- The separator `jjsonVars` writes after each item of the sample. -/
def itemSep : String := ",<br />"

/-- The loop of `jjsonVars` over the single variables (`DocumentBroker.cpp:2544-2556`): the
sample line of each name once, followed by `,<br />`. -/
def jjSinglesLoop (t : DocType) (entry : String → String → Except Fault String) :
    List String → List Nat → String → MergeM String
  | _, [], out => pure out
  | singleList, elm :: rest, out => do
    let p ← placeOf elm
    let varName ← fromExcept (t.dataKey p.node.innerText)
    if varName ∈ singleList then jjSinglesLoop t entry singleList rest out
    else do
      let e ← fromExcept (entry varName (p.node.getAttribute t.varTagProperty))
      jjSinglesLoop t entry (singleList ++ [varName]) rest (out ++ e ++ itemSep)

/-- The block of a group in the sample (`DocumentBroker.cpp:2570-2597`): the group's name, the
cells in braces, and a comma. `(kk++) != (groupVar.end())` compares the iterator before its
increment, so the comma follows every group's block. -/
def jjGroupBlock (grpname cells : String) : String :=
  "&nbsp;&nbsp;&nbsp;&nbsp;\"" ++ grpname ++ "\":[<br />" ++
    "&nbsp;&nbsp;&nbsp;&nbsp;&nbsp;&nbsp;&nbsp;&nbsp;\x7b" ++ cells ++ "\x7d" ++
    "<br />&nbsp;&nbsp;&nbsp;&nbsp;]" ++ itemSep

/-- The loop of `jjsonVars` over the group rows (`DocumentBroker.cpp:2558-2598`): the block of
each group name once. -/
def jjGroupsLoop (t : DocType) (entry : String → String → Except Fault String) :
    List String → List Nat → String → MergeM String
  | _, [], out => pure out
  | groupList, row :: rest, out => do
    let grpname ← attributeOf row "grpname"
    if grpname ∈ groupList then jjGroupsLoop t entry groupList rest out
    else do
      let cells ← fromExcept (jjsonVarsCells t entry (← rowVariables t row))
      jjGroupsLoop t entry (groupList ++ [grpname]) rest (out ++ jjGroupBlock grpname cells)

/-- The end of `jjsonVars` (`DocumentBroker.cpp:2599-2603`): a final `,<br />` becomes `<br />`.
`substr(length() - 7, 7)` on a text shorter than 7 starts past its end and throws
`out_of_range`. -/
def closeSample (out : String) : Except Fault String :=
  if out.length < 7 then .error (.raised "basic_string::substr")
  else if out.data.drop (out.length - 7) = itemSep.data then
    .ok ⟨out.data.take (out.length - 7) ++ "<br />".data⟩
  else .ok out

/-- `jjsonVars` after `scanVarPtr`, from the single variables and the group rows it found. -/
def jjsonVarsFrom (t : DocType) (entry : String → String → Except Fault String)
    (singleVar groupVar : List Nat) : MergeM String := do
  let out ← jjSinglesLoop t entry [] singleVar ""
  let out ← jjGroupsLoop t entry [] groupVar out
  fromExcept (closeSample out)

/-- `Parser::jjsonVars` (`DocumentBroker.cpp:2522-2605`), with its entry function
`parseJsonVar(varName, vardata, true)`. -/
def jjsonVars (entry : String → String → Except Fault String) : MergeM String := do
  let (singleVar, groupVar) ← scanVarPtr
  jjsonVarsFrom (← docType) entry singleVar groupVar

/-! ## `makeApiJson` -/

/-- The text `makeApiJson` writes before the sample of a JSON body
(`DocumentBroker.cpp:3412-3414`), as the source holds it. -/
def jsonSampleIntro : String :=
  "* json ????????? json ???????????? urlencode(encodeURIComponent) ??????<br />" ++
    "* ???????????? base64 ??????<br />" ++
    "* ?????? json ??????????????? header ????????? content-type='application/json'<br /><br />" ++
    "json ??????:<br /><br />"

/-- The description of a template for `/json` (`DocumentBroker.cpp:3410-3416`): the parser
built on the template's content tree `doc`, its `jjsonVars`, inside
`Poco::format("{<br />%s}", ...)`. -/
def jsonSample (entry : String → String → Except Fault String) (doc : XmlNode) :
    Except Fault String :=
  match jjsonVars entry (MergeState.init doc []) with
  | .ok sample _ => .ok (jsonSampleIntro ++ "\x7b<br />" ++ sample ++ "\x7d")
  | .error e _ => .error e

/-- The loop of `makeApiJson` (`DocumentBroker.cpp:3393-3433`) from the position `pos` of a list
of `count` templates. `describe t` is what the body computes for the template `t` before
`jsonstr += buf`: the parser and the formatted description, or the exception the `catch`
swallows. A template of another endpoint than `which` is skipped after its parser is built, and
an exception of that parser is swallowed too. -/
def apiLoop (describe : Template → Except Fault String) (which : List UInt8) (yaml : Bool)
    (count : Nat) : Nat → List Template → String → String
  | _, [], jsonstr => jsonstr
  | pos, t :: rest, jsonstr =>
    let endpoint := getBaseName t.path
    if which ≠ [] ∧ endpoint ≠ which then apiLoop describe which yaml count (pos + 1) rest jsonstr
    else
      match describe t with
      | .error _ => apiLoop describe which yaml count (pos + 1) rest jsonstr
      | .ok buf =>
        if which ≠ [] ∧ endpoint = which then jsonstr ++ buf
        else
          apiLoop describe which yaml count (pos + 1) rest
            (jsonstr ++ buf ++ if pos ≠ count - 1 ∧ !yaml then "," else "")

/-- `MergeODF::makeApiJson` (`DocumentBroker.cpp:3384-3453`) without the header: the
descriptions of the templates `files`, the glob's matches in its order. -/
def makeApiJson (files : List Template) (describe : Template → Except Fault String)
    (which : List UInt8) (yaml : Bool) : String :=
  apiLoop describe which yaml files.length 0 files ""

end Loolwsd.Model
