import Loolwsd.Model.ContentTree
import Loolwsd.Model.Broker

/-!
# Filling a template

`MergeODF::doMergeTo` (`DocumentBroker.cpp:3644-3719`) runs three members of `Parser` on the
template's content tree (`DocumentBroker.cpp:2685-3302`):

* `scanVarPtr` finds the document's kind and its variables: `text:placeholder` elements in a
  text document, `text:a` elements in a spreadsheet. A variable whose table row, or row group,
  carries an `office:annotation` belongs to a group, named by the annotation's last paragraph,
  and the scan records the group's row; every other variable is recorded as a single one. The
  annotations are then removed.
* `setSingleVar` replaces each single variable by its value from the request's object, by a
  formula cell (a statistic) or by an image frame (a file), or removes it when there is no
  value.
* `setGroupVar` inserts, for each recorded row, one copy of the row per item of the group's
  array, fills the copy's variables from the item with `setSingleVar`, and removes the row.

The parser's strings are modelled as character sequences. The image files `setSingleVar`
writes, and the manifest entries for them, are outside the content tree and not modelled.
-/

set_option autoImplicit false

namespace Loolwsd.Model

/-! ## The parser's state -/

/-- The document kinds `detectDocType` tells apart. -/
inductive DocType where
  | text
  | spreadsheet
  deriving DecidableEq, Repr

/-- The attribute that holds a variable's descriptor. -/
def DocType.varTagProperty : DocType → String
  | .text => "text:description"
  | .spreadsheet => "office:target-frame-name"

/-- The element a variable is (`VAR_TAG`). -/
def DocType.varTag : DocType → String
  | .text => "text:placeholder"
  | .spreadsheet => "text:a"

/-- What one merge works on: the parser's document, its `doctype` (`none` until
`detectDocType` finds one, the constructor leaves it uninitialised), its `picserial`, and
the request's JSON object, which `setGroupVar` writes to. -/
structure MergeState where
  dom : Dom
  doctype : Option DocType
  picserial : Nat
  data : JsonObject

/-- A member function of `Parser` during one merge. -/
abbrev MergeM := EStateM Fault MergeState

section Run

variable {α β : Type} (s : MergeState)

@[simp] theorem merge_pure (a : α) : (pure a : MergeM α) s = .ok a s := rfl

@[simp] theorem merge_bind (x : MergeM α) (f : α → MergeM β) :
    (x >>= f) s = match x s with
      | .ok a s' => f a s'
      | .error e s' => .error e s' := by
  show EStateM.bind x f s = _
  unfold EStateM.bind
  cases x s <;> rfl

@[simp] theorem merge_get : (get : MergeM MergeState) s = .ok s s := rfl

@[simp] theorem merge_set (s' : MergeState) : (set s' : MergeM PUnit) s = .ok ⟨⟩ s' := rfl

@[simp] theorem merge_modify (f : MergeState → MergeState) :
    (modify f : MergeM PUnit) s = .ok ⟨⟩ (f s) := rfl

@[simp] theorem merge_modifyGet (f : MergeState → α × MergeState) :
    (modifyGet f : MergeM α) s = .ok (f s).1 (f s).2 := rfl

@[simp] theorem merge_throw (e : Fault) : (throw e : MergeM α) s = .error e s := rfl

end Run

/-- A call whose outcome is given: it returns the value or throws. -/
def fromExcept {α : Type} : Except Fault α → MergeM α
  | .ok a => pure a
  | .error e => throw e

/-! ## Strings -/

/-- Poco's `StringTokenizer(s, sep, TOK_IGNORE_EMPTY | TOK_TRIM)`: the pieces between
separators, trimmed, empty ones dropped. -/
def splitTokens (sep : Char) (s : String) : List String :=
  (((s.data.splitOn sep).map trimSpace).filter fun w => !w.isEmpty).map String.mk

/-- `tokens[k]`: `StringTokenizer::operator[]` throws a `RangeException` past the end. -/
def tokenAt (ts : List String) (k : Nat) : Except Fault String :=
  match ts.get? k with
  | some t => .ok t
  | none => .error (.raised "Out of range")

/-- `Poco::icompare(a, b) == 0`: equal up to the case of ASCII letters. -/
def icompareEq (a b : String) : Bool :=
  a.data.map Char.toLower == b.data.map Char.toLower

/-- The parser's names for the declared types of a variable (`DocumentBroker.cpp:2079-2099`),
in the order they are tried. -/
def typeNames : List (String × String) :=
  [("image", "file"), ("enum", "enum"), ("auto", "auto"), ("boolean", "boolean"),
    ("float", "float"), ("percentage", "percentage"), ("currency", "currency"),
    ("date", "date"), ("time", "time"), ("Statistic", "statistic")]

/-- A declared type's name; any other type is a `string`. -/
def typeName (v : String) : String :=
  ((typeNames.find? fun p => icompareEq v p.1).map Prod.snd).getD "string"

/-- `Parser::varKeyValue` (`DocumentBroker.cpp:2066-2110`): the value of `key` in a
variable's descriptor `k1:v1;k2:v2;...`, keys compared up to case. For the key `type` the value
is named by `typeName`; for another key, a pair that is not `key:value` gives the empty
string. -/
def varKeyValue (line key : String) : Except Fault String :=
  go (splitTokens ';' line)
where
  /-- The loop over the pairs. -/
  go : List String → Except Fault String
    | [] => .ok ""
    | t :: ts => do
      let keyval := splitTokens ':' t
      let k ← tokenAt keyval 0
      if icompareEq k key then
        if icompareEq key "type" then return typeName (← tokenAt keyval 1)
        else if keyval.length = 2 then tokenAt keyval 1
        else return ""
      else go ts

/-- The significand of `isNumber` and the blanks after it, from the character after the sign
(`DocumentBroker.cpp:1878-1890`). The loop counts the digits and the points of the run in the
`int`s `n_nm` and `n_pt`, and a run of more than `INT_MAX` of either overflows one. The loops
stop at the null `s[size()]`, which is neither a digit, a point nor a blank. -/
def significand (cs : List Char) : Except Fault Bool :=
  let body := cs.takeWhile fun c => c.isDigit || c = '.'
  let nPt := body.count '.'
  let nNm := body.length - nPt
  if 2147483647 < nNm ∨ 2147483647 < nPt then .error .undefinedBehaviour
  else .ok (decide (nPt ≤ 1) && decide (1 ≤ nNm) &&
    ((cs.dropWhile fun c => c.isDigit || c = '.').dropWhile (· = ' ')).isEmpty)

/-- `isNumber` (`DocumentBroker.cpp:1867-1891`): blanks, a sign, digits with at most one point
and at least one digit, blanks. On a string of blanks only, `find_first_not_of(' ')` gives
`npos`, which differs from `s.size()`, and the code then indexes `s[npos]`. -/
def isNumber (s : String) : Except Fault Bool :=
  match s.data.dropWhile (· = ' ') with
  | [] => .error .undefinedBehaviour
  | c :: rest => significand (if c = '+' ∨ c = '-' then rest else c :: rest)

/-- `std::stoi` in base 10: blanks, a sign and at least one digit, the rest ignored. No digit
throws `invalid_argument`, a value outside `int` throws `out_of_range`. -/
def stoi (s : String) : Except Fault Int :=
  let cs := s.data.dropWhile isSpace
  let (neg, cs) := match cs with
    | '-' :: rest => (true, rest)
    | '+' :: rest => (false, rest)
    | cs => (false, cs)
  let ds := cs.takeWhile Char.isDigit
  let n : Int := (ds.foldl (fun acc c => acc * 10 + (c.toNat - '0'.toNat)) 0 : Nat)
  let v := if neg then -n else n
  if ds.isEmpty then .error (.raised "stoi")
  else if v < -2147483648 ∨ 2147483647 < v then .error (.raised "stoi")
  else .ok v

/-- `Parser::parseEnumValue` (`DocumentBroker.cpp:2335-2358`): an `enum` variable's number
picks an item of its list, counting from 1; a `boolean` variable's value picks the list's first
item when it reads as true, the second otherwise. The items are separated by commas, with the
quotes removed. The index `std::stoi(value)-1` is an `int`, so the number `INT_MIN` overflows
it. -/
def parseEnumValue (type enumvar value : String) : Except Fault String := do
  let items := splitTokens ',' ⟨enumvar.data.filter (· ≠ Char.ofNat 34)⟩
  let value ← if type = "enum" then do
      if ← isNumber value then
        let n ← stoi value
        if n = -2147483648 then throw .undefinedBehaviour
        let idx := n - 1
        if 0 ≤ idx ∧ idx < items.length then tokenAt items idx.toNat else pure value
      else pure value
    else pure value
  if type = "boolean" then
    tokenAt items (if value = "1" || icompareEq value "true" || icompareEq value "yes" then 0
      else 1)
  else pure value

/-- The key a variable's text names: a placeholder reads `<name>`, and `substr(1, size() - 2)`
drops the brackets; `substr` throws `out_of_range` on an empty text. -/
def DocType.dataKey (t : DocType) (text : String) : Except Fault String :=
  match t with
  | .spreadsheet => .ok text
  | .text =>
    if text.data.isEmpty then .error (.raised "basic_string::substr")
    else .ok ⟨(text.data.drop 1).take (text.data.length - 2)⟩

/-! ## Pointers -/

/-- The element a pointer points to; a pointer to no element dangles. -/
def placeOf (i : Nat) : MergeM Place := do
  match (← get).dom.place i with
  | some p => pure p
  | none => throw .undefinedBehaviour

/-- `parentNode()` taken `k + 1` times from a place: past the document node it is null, and
the code dereferences it. -/
def upAt (p : Place) (k : Nat) : MergeM Up :=
  match p.ups.get? k with
  | some u => pure u
  | none => throw .undefinedBehaviour

/-- A parent the code casts to `Element*` and uses as one: the document node is not. -/
def upElement (p : Place) (k : Nat) : MergeM Nat := do
  match ← upAt p k with
  | .element e =>
    match e.ident? with
    | some i => pure i
    | none => throw .undefinedBehaviour
  | .document => throw .undefinedBehaviour

/-- `e->parentNode()->replaceChild(n, e)`; with `n = nil`, `removeChild(e)`. -/
def replaceInParent (i : Nat) (n : XmlNode) : MergeM Unit := do
  let p ← placeOf i
  let _ ← upAt p 0
  modify fun s => { s with dom := s.dom.replace i (p.node.withNext .nil) n }

/-- `parent->removeChild(c)`: `NOT_FOUND_ERR` when `c` is not a child of `parent`. -/
def removeChildOf (parent c : Nat) : MergeM Unit := do
  let p ← placeOf c
  match p.ups.head? with
  | some (.element e) =>
    if e.ident? = some parent then replaceInParent c .nil else throw (.raised "NOT_FOUND_ERR")
  | _ => throw (.raised "NOT_FOUND_ERR")

/-- `e->parentNode()->insertBefore(n, e->nextSibling())`. -/
def insertAfterInParent (i : Nat) (n : XmlNode) : MergeM Unit := do
  let p ← placeOf i
  let _ ← upAt p 0
  modify fun s => { s with dom := s.dom.insertAfter i n }

/-- A change of the element itself through a pointer, such as `setAttribute`. -/
def updateElement (i : Nat) (g : XmlNode → XmlNode) : MergeM Unit := do
  let _ ← placeOf i
  modify fun s => { s with dom := s.dom.update i g }

/-- `getAttribute(k)` through a pointer. -/
def attributeOf (i : Nat) (k : String) : MergeM String := do
  return (← placeOf i).node.getAttribute k

/-- `innerText()` through a pointer. -/
def innerTextOf (i : Nat) : MergeM String := do
  return (← placeOf i).node.innerText

/-- `getElementsByTagName(tag)` of an element: the elements below it. -/
def elementsByTagName (i : Nat) (tag : String) : MergeM (List Nat) := do
  return (← placeOf i).node.firstChild.byTag tag

/-- `createElement(name)`, with the attributes and the children the code then gives it. -/
def createElement (name : String) (attrs : List (String × String)) (children : XmlNode) :
    MergeM XmlNode :=
  modifyGet fun s => (.element s.dom.nextId name attrs children .nil,
    { s with dom := { s.dom with nextId := s.dom.nextId + 1 } })

/-- `cloneNode(true)`: a parentless copy with new identities. -/
def cloneNode (i : Nat) : MergeM XmlNode := do
  let p ← placeOf i
  modifyGet fun s =>
    let c := (p.node.withNext .nil).renumber s.dom.nextId
    (c.1, { s with dom := { s.dom with nextId := c.2 } })

/-- `isText()` and `isSpreadSheet()` read `doctype`, uninitialised until `detectDocType` sets
it. -/
def docType : MergeM DocType := do
  match (← get).doctype with
  | some t => pure t
  | none => throw .undefinedBehaviour

/-! ## `scanVarPtr` -/

/-- `Parser::detectDocType` (`DocumentBroker.cpp:2316-2332`): a text document when an
`office:body` has an `office:text` child, a spreadsheet when one has an `office:spreadsheet`
child (tested second, so it wins); otherwise `doctype` keeps its value. -/
def detectDocType (doc : XmlNode) (t : Option DocType) : Option DocType :=
  let bodyHas (tag : String) := (doc.elements.filter (·.nodeName = "office:body")).any fun b =>
    b.firstChild.nodes.any (·.nodeName = tag)
  if bodyHas "office:spreadsheet" then some .spreadsheet
  else if bodyHas "office:text" then some .text
  else t

/-- The group an annotation names: the text of its last child; a childless annotation has a
null `lastChild()`. -/
def groupName (ann : Nat) : MergeM String := do
  match (← placeOf ann).node.firstChild.lastOf with
  | .nil => throw .undefinedBehaviour
  | last => pure last.innerText

/-- A group's row recorded once: `grpname` set on it, and appended to the groups unless there
already. -/
def recordGroupRow (singles groups : List Nat) (row : Nat) (grpname : String) :
    MergeM (List Nat × List Nat) := do
  updateElement row (·.setAttribute "grpname" grpname)
  return (singles, if row ∈ groups then groups else groups ++ [row])

/-- The climb from a variable's grandparent to the first ancestor named one of `names`
(`DocumentBroker.cpp:2712-2719` and `2772-2779`): the rest of the chain from it. Past the
document node, `nodeName()` dereferences null. -/
def climb (p : Place) (names : List String) : MergeM (List Up) :=
  match (p.ups.drop 1).dropWhile fun u => u.nodeName ∉ names with
  | [] => throw .undefinedBehaviour
  | found => pure found

/-- One placeholder of a text document (`DocumentBroker.cpp:2707-2742`): single unless it is
in a table cell whose row holds an annotation; then the row is the group's. -/
def scanPlaceholder (acc : List Nat × List Nat) (v : Nat) : MergeM (List Nat × List Nat) := do
  let (singles, groups) := acc
  let p ← placeOf v
  match ← climb p ["office:text", "table:table-cell"] with
  | .element (.element _ "table:table-cell" _ _ _) :: above =>
    match above with
    | .element row :: _ =>
      match row.ident?, row.firstChild.byTag "office:annotation" with
      | some _, [] => return (singles ++ [v], groups)
      | some r, ann :: _ => recordGroupRow singles groups r (← groupName ann)
      | none, _ => throw .undefinedBehaviour
    | _ => throw .undefinedBehaviour
  | _ => return (singles ++ [v], groups)

/-- The row a row group's variables are recorded under: the first `table:table-row` down the
group's first children (`DocumentBroker.cpp:2806-2812`). A node with no first child ends the
descent with a null dereference. -/
def firstRowOf : XmlNode → Option Nat
  | .element i n _ fc _ => if n = "table:table-row" then some i else firstRowOf fc
  | _ => none

/-- One variable of a spreadsheet (`DocumentBroker.cpp:2766-2821`): single when it is in a
table outside any row group, when it is a statistic, or when its row group holds no
annotation; otherwise the group's first row is recorded. -/
def scanCellVar (acc : List Nat × List Nat) (v : Nat) : MergeM (List Nat × List Nat) := do
  let (singles, groups) := acc
  let vardata ← attributeOf v "office:target-frame-name"
  let type ← fromExcept (varKeyValue vardata "type")
  let p ← placeOf v
  match ← climb p ["table:table", "table:table-row-group"] with
  | .element (.element _ "table:table-row-group" _ fc _) :: _ =>
    if type = "statistic" then return (singles ++ [v], groups)
    else
      match fc.byTag "office:annotation" with
      | [] => return (singles ++ [v], groups)
      | ann :: _ => do
        let grpname ← groupName ann
        match firstRowOf fc with
        | some r => recordGroupRow singles groups r grpname
        | none => throw .undefinedBehaviour
  | _ => return (singles ++ [v], groups)

/-- The loop that removes the `tag` elements (`DocumentBroker.cpp:2745-2757`): as many times as
there were at the start, the first one left in document order is cut off; a list that has run
out hands a null pointer. -/
def removeTagged (tag : String) : Nat → MergeM Unit
  | 0 => pure ()
  | k + 1 => do
    match (← get).dom.doc.byTag tag with
    | [] => throw .undefinedBehaviour
    | i :: _ => do
      replaceInParent i .nil
      removeTagged tag k

/-- The scan of one document kind: every variable in document order, then the annotations and
their ends removed. -/
def scanVars (tag : String)
    (scanOne : List Nat × List Nat → Nat → MergeM (List Nat × List Nat))
    (acc : List Nat × List Nat) : MergeM (List Nat × List Nat) := do
  let acc ← ((← get).dom.doc.byTag tag).foldlM scanOne acc
  removeTagged "office:annotation" ((← get).dom.doc.byTag "office:annotation").length
  removeTagged "office:annotation-end" ((← get).dom.doc.byTag "office:annotation-end").length
  return acc

/-- `Parser::scanVarPtr` (`DocumentBroker.cpp:2685-2843`): the single variables and the group
rows, in the order found. -/
def scanVarPtr : MergeM (List Nat × List Nat) := do
  modify fun s => { s with doctype := detectDocType s.dom.doc s.doctype }
  let acc ← if (← docType) = .text then scanVars "text:placeholder" scanPlaceholder ([], [])
    else pure ([], [])
  if (← docType) = .spreadsheet then scanVars "text:a" scanCellVar acc else pure acc

/-! ## `setSingleVar` -/

/-- `jsonData->get(key)`; `none` is a null `jsonData`. -/
def valueOf (obj : Option JsonObject) (k : String) : MergeM (Option JsonValue) :=
  match obj with
  | some o => pure (o.get k)
  | none => throw .undefinedBehaviour

/-- The spreadsheet types whose value also goes into the cell's value attributes. -/
def valueTypes : List String := ["float", "percentage", "currency", "date", "time"]

/-- A variable with a value (`DocumentBroker.cpp:3058-3107`): replaced by the value's text,
removed when the object has no value for it. In a spreadsheet a number goes into the cell's
value attributes too. -/
def setValueVar (obj : Option JsonObject) (t : DocType) (elm : Nat) (vardata type : String) :
    MergeM Unit := do
  let key ← fromExcept (t.dataKey (← innerTextOf elm))
  match ← valueOf obj key with
  | none => replaceInParent elm .nil
  | some value => do
    let enumvar ← fromExcept (varKeyValue vardata "Items")
    let format ← fromExcept (varKeyValue vardata "Format")
    let v ← fromExcept (parseEnumValue type enumvar value.toText)
    let autoNumber ← if type = "auto" then fromExcept (isNumber v) else pure false
    if autoNumber && t = .spreadsheet then do
      let meta ← upElement (← placeOf elm) 1
      replaceInParent elm (.text v .nil)
      updateElement meta fun e => ((e.setAttribute "office:value" v).setAttribute
        "office:value-type" "float").setAttribute "calcext:value-type" "float"
    else if type ∈ valueTypes && t = .spreadsheet then do
      let meta ← upElement (← placeOf elm) 1
      replaceInParent elm (.text v .nil)
      updateElement meta fun e => ((e.setAttribute "office:value-type" type).setAttribute
        "calcext:value-type" type).setAttribute ("office:" ++ format) v
    else replaceInParent elm (.text v .nil)

/-- The spreadsheet functions a statistic's `method` names (`DocumentBroker.cpp:3146-3157`),
compared with the literals as the source has them; each test sees the result of the ones
before it. -/
def methodName (m : String) : String :=
  let m := if m = "??????" then "SUM" else m
  let m := if m = "?????????" then "MAX" else m
  let m := if m = "?????????" then "MIN" else m
  let m := if m = "?????????" then "MEDIAN" else m
  let m := if m = "??????" then "COUNT" else m
  if m = "??????" then "AVERAGE" else m

/-- A statistic (`DocumentBroker.cpp:3109-3170`): the cell holding it becomes a formula cell
over the group's rows, or the variable is removed when the group has no array. -/
def setStatisticVar (obj : Option JsonObject) (elm : Nat) (vardata : String) : MergeM Unit := do
  let grpname ← fromExcept (varKeyValue vardata "groupname")
  let column ← fromExcept (varKeyValue vardata "column")
  let method ← fromExcept (varKeyValue vardata "method")
  let _ ← fromExcept (varKeyValue vardata "Items")
  let cell ← fromExcept (tokenAt (splitTokens '.' column) 1)
  let addr := splitTokens '$' cell
  let col ← fromExcept (tokenAt addr 0)
  let rowNo ← fromExcept (tokenAt addr 1)
  match ← valueOf obj grpname with
  | some (.array items) => do
    let newElm ← createElement "table:table-cell" [] .nil
    let start ← fromExcept (stoi rowNo)
    let formula := "of:=" ++ methodName method ++ "([." ++ col ++ rowNo ++ ":." ++ col ++
      toString (start + items.length - 1) ++ "])"
    let newElm := newElm.setAttribute "table:formula" formula
      |>.setAttribute "office:value-type" "float" |>.setAttribute "calcext:value-type" "float"
    let pCell ← upElement (← placeOf elm) 1
    replaceInParent pCell newElm
  | _ => replaceInParent elm .nil

/-- The attributes of an image frame: a text document anchors it as a character. -/
def frameAttrs (t : DocType) (width height : String) : List (String × String) :=
  match t with
  | .text => [("draw:style-name", "fr1"), ("draw:name", "Image1"),
      ("text:anchor-type", "as-char"), ("svg:width", width), ("svg:height", height),
      ("draw:z-index", "1")]
  | .spreadsheet => [("draw:style-name", "gr1"), ("draw:name", "Image1"),
      ("svg:width", width), ("svg:height", height), ("draw:z-index", "1")]

/-- An image (`DocumentBroker.cpp:3171-3300`): replaced by a frame showing
`Pictures/<picserial>`, in a spreadsheet by a new cell holding the frame; removed when the
object has no value for it. -/
def setFileVar (obj : Option JsonObject) (t : DocType) (elm : Nat) (vardata : String) :
    MergeM Unit := do
  let varname ← fromExcept (t.dataKey (← innerTextOf elm))
  match ← valueOf obj varname with
  | none => replaceInParent elm .nil
  | some value => do
    let _ ← fromExcept (parseEnumValue "file" (← fromExcept (varKeyValue vardata "Items"))
      value.toText)
    let imageSize ← fromExcept (varKeyValue (← attributeOf elm t.varTagProperty) "Size")
    let (width, height) ← if imageSize.data.isEmpty then pure ("2.5cm", "1.5cm") else do
      let ts := splitTokens 'x' imageSize
      pure ((← fromExcept (tokenAt ts 0)) ++ "cm", (← fromExcept (tokenAt ts 1)) ++ "cm")
    let serial := (← get).picserial
    let frame ← createElement "draw:frame" (frameAttrs t width height) .nil
    let image ← createElement "draw:image" [("xlink:href", "Pictures/" ++ toString serial),
      ("xlink:type", "simple"), ("xlink:show", "embed"), ("xlink:actuate", "onLoad"),
      ("loext:mime-type", "image/png")] .nil
    match frame with
    | .element fid fname fattrs _ _ =>
      let frame := XmlNode.element fid fname fattrs image .nil
      match t with
      | .text => replaceInParent elm frame
      | .spreadsheet => do
        let newCell ← createElement "table:table-cell" [] frame
        let oldCell ← upElement (← placeOf elm) 1
        replaceInParent oldCell newCell
    | _ => pure ()
    modify fun s => { s with picserial := s.picserial + 1 }

/-- One variable of `Parser::setSingleVar` (`DocumentBroker.cpp:3051-3300`), by its type. -/
def setVar (obj : Option JsonObject) (elm : Nat) : MergeM Unit := do
  let t ← docType
  let vardata ← attributeOf elm t.varTagProperty
  let type ← fromExcept (varKeyValue vardata "type")
  if type ≠ "file" ∧ type ≠ "statistic" then setValueVar obj t elm vardata type
  else if type = "statistic" then setStatisticVar obj elm vardata
  else setFileVar obj t elm vardata

/-- `Parser::setSingleVar` (`DocumentBroker.cpp:3036-3302`): the variables in order, each from
`jsonData` (`none` is a null object). -/
def setSingleVar (obj : Option JsonObject) (vars : List Nat) : MergeM Unit :=
  vars.forM (setVar obj)

/-! ## `setGroupVar` -/

/-- The cell attributes a copied row does not keep. -/
def cellValueAttrs : List String :=
  ["office:value", "office:value-type", "calcext:value-type"]

/-- One cell of the spreadsheet's prepared copy (`DocumentBroker.cpp:2899-2930`): a cell with
no variable loses its first paragraph and its value and formula; a cell whose first variable is
a statistic loses that variable's paragraph and its value. -/
def clearCell (cell : Nat) : MergeM Unit := do
  match ← elementsByTagName cell "text:a" with
  | [] => do
    if !(← elementsByTagName cell "text:p").isEmpty then
      match (← placeOf cell).node.firstChild.nodes.find? (·.nodeName = "text:p") with
      | some (.element p _ _ _ _) => replaceInParent p .nil
      | _ => pure ()
    updateElement cell fun e => (cellValueAttrs ++ ["table:formula"]).foldl
      (fun e k => e.removeAttribute k) e
  | target :: _ => do
    let type ← fromExcept (varKeyValue (← attributeOf target "office:target-frame-name") "type")
    if type = "statistic" then do
      match (← placeOf target).ups.head? with
      | some (.element par) =>
        match par.ident? with
        | some pi => removeChildOf cell pi
        | none => throw .undefinedBehaviour
      | _ => throw (.raised "NOT_FOUND_ERR")
      updateElement cell fun e => cellValueAttrs.foldl (fun e k => e.removeAttribute k) e

/-- `table:number-rows-spanned` set to `lines + 1` on each node of a chain that has it; a text
node there is used as an element. -/
def setSpans (lines : Nat) : List XmlNode → MergeM Unit
  | [] => pure ()
  | .element i _ a _ _ :: rest => do
    if (a.lookup "table:number-rows-spanned").isSome then
      updateElement i (·.setAttribute "table:number-rows-spanned" (toString (lines + 1)))
    setSpans lines rest
  | _ :: _ => throw .undefinedBehaviour

/-- The spreadsheet's copy of a group row for the items after the first
(`DocumentBroker.cpp:2889-2950`), kept apart; the row spans before the row group are widened to
`lines + 1`. -/
def prepareSheetRow (row lines : Nat) : MergeM Nat := do
  let c ← cloneNode row
  modify fun s => { s with dom := { s.dom with frags := s.dom.frags ++ [c] } }
  c.firstChild.nodes.forM fun ch =>
    match ch.ident? with
    | some i => clearCell i
    | none => throw .undefinedBehaviour
  let rp ← placeOf row
  match (Up.element rp.node :: rp.ups).dropWhile (·.nodeName ≠ "table:table-row-group") with
  | .element g :: _ =>
    match g.ident? with
    | some gi => do
      let gp ← placeOf gi
      match gp.prev with
      | .nil => setSpans lines gp.node.nodes
      | pv => setSpans lines pv.firstChild.nodes
    | none => throw .undefinedBehaviour
  | _ => throw .undefinedBehaviour
  match c.ident? with
  | some i => pure i
  | none => throw .undefinedBehaviour

/-- One cell of the text document's prepared copy (`DocumentBroker.cpp:2936-2946`): a cell with
no placeholder and no list loses its first paragraph; `removeChild` of a null paragraph or of
one below a child throws. -/
def clearTextCell (ch : XmlNode) : MergeM Unit :=
  match ch with
  | .element cell _ _ fc _ => do
    if (← elementsByTagName cell "text:placeholder").isEmpty ∧
        (← elementsByTagName cell "text:list").isEmpty ∧ fc ≠ .nil then
      match ← elementsByTagName cell "text:p" with
      | [] => throw (.raised "Null pointer")
      | p :: _ => removeChildOf cell p
  | _ => pure ()

/-- The text document's copy of a group row for the items after the first
(`DocumentBroker.cpp:2932-2956`); the row spans of the row before are widened to `lines + 1`,
and a row with none before it is a null dereference. -/
def prepareTextRow (row lines : Nat) : MergeM Nat := do
  let c ← cloneNode row
  modify fun s => { s with dom := { s.dom with frags := s.dom.frags ++ [c] } }
  c.firstChild.nodes.forM clearTextCell
  match (← placeOf row).prev with
  | .nil => throw .undefinedBehaviour
  | pv => setSpans lines pv.firstChild.nodes
  match c.ident? with
  | some i => pure i
  | none => throw .undefinedBehaviour

/-- The item `k` of the group's array as an object: `arr->getObject(k)`, null when the item
is not an object. -/
def groupItem (data : JsonObject) (grpname : String) (k : Nat) : Option JsonObject :=
  match data.get grpname with
  | some (.array items) =>
    match items.get? k with
    | some (.object o) => some o
    | _ => none
  | _ => none

/-- The first item's object with `set(key, value)`: the array is shared with the request's
object, which sees the change. -/
def setFirstItem (data : JsonObject) (grpname key : String) (v : JsonValue) : JsonObject :=
  match data.get grpname with
  | some (.array (.object o :: items)) =>
    data.set grpname (.array (.object (JsonObject.set o key v) :: items))
  | _ => data

/-- The first item takes, for each variable of its row, the request's top-level value of the
variable's name when there is one (`DocumentBroker.cpp:2999-3015`). -/
def mergeTopLevel (t : DocType) (grpname : String) : List Nat → MergeM Unit
  | [] => pure ()
  | v :: vs => do
    let eachName ← innerTextOf v
    let key ← fromExcept (t.dataKey eachName)
    let s ← get
    match s.data.get key with
    | some value =>
      if (groupItem s.data grpname 0).isSome then
        set { s with data := setFirstItem s.data grpname eachName value }
      else throw .undefinedBehaviour
    | none => pure ()
    mergeTopLevel t grpname vs

/-- The copies of a group row (`DocumentBroker.cpp:2972-3030`): the item `times` gets a copy
of the row (the first) or of the prepared copy (the others), inserted after the row before it,
whose variables are set from the item. -/
def fillRows (t : DocType) (grpname : String) (row initRow : Nat) :
    Nat → Nat → Nat → MergeM Unit
  | _, 0, _ => pure ()
  | times, k + 1, cur => do
    let pTbRow ← cloneNode (if times = 0 then row else initRow)
    insertAfterInParent cur pTbRow
    let varList := pTbRow.firstChild.byTag t.varTag
    if times = 0 then mergeTopLevel t grpname varList
    setSingleVar (groupItem (← get).data grpname times) varList
    match pTbRow.ident? with
    | some n => fillRows t grpname row initRow (times + 1) k n
    | none => throw .undefinedBehaviour

/-- One group row of `Parser::setGroupVar` (`DocumentBroker.cpp:2855-3031`): a row whose group
has no array in the request is removed; otherwise a copy per item is filled in and the row
removed. -/
def setGroupRow (row : Nat) : MergeM Unit := do
  let t ← docType
  let grpname ← attributeOf row "grpname"
  match (← get).data.get grpname with
  | some (.array items) => do
    let initRow ← match t with
      | .spreadsheet => prepareSheetRow row items.length
      | .text => prepareTextRow row items.length
    fillRows t grpname row initRow 0 items.length row
    replaceInParent row .nil
  | _ => replaceInParent row .nil

/-- `Parser::setGroupVar` (`DocumentBroker.cpp:2846-3033`). -/
def setGroupVar (rows : List Nat) : MergeM Unit :=
  rows.forM setGroupRow

/-! ## `doMergeTo` -/

/-- The state a merge starts from: the parsed tree, with identities below `nextId`. -/
def MergeState.init (doc : XmlNode) (data : JsonObject) : MergeState :=
  ⟨⟨doc, [], doc.ids.foldl max 0 + 1⟩, none, 0, data⟩

/-- The content step of `MergeODF::doMergeTo` (`DocumentBroker.cpp:3709-3715`): the scan, the
single variables from the request's object, then the groups. -/
def mergeContent : MergeM Unit := do
  let (singles, groups) ← scanVarPtr
  setSingleVar (some (← get).data) singles
  setGroupVar groups

/-- The content tree `doMergeTo` writes back for a template's tree and a request's object, or
how the merge fails. -/
def doMergeTo (doc : XmlNode) (data : JsonObject) : Except Fault XmlNode :=
  match mergeContent (MergeState.init doc data) with
  | .ok _ s => .ok s.dom.doc
  | .error e _ => .error e

end Loolwsd.Model
