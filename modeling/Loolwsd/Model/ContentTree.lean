import Mathlib.Data.List.Basic

/-!
# The template's content tree and the merge data

`MergeODF::doMergeTo` (`DocumentBroker.cpp:3644-3719`) fills an ODF template with the values
of a JSON object. Its `Parser` reads the template's `content.xml` into a Poco DOM document and
edits it in place through the element pointers it collects. The document is kept here as
Poco's DOM keeps it: a node holds its first child and its next sibling, and an element carries
an identity, the pointer the parser holds for it.

`removeChild` and `replaceChild` unlink the old node from its parent and its siblings but leave
its subtree whole, and the parser may still reach it through a pointer it kept. Such parentless
subtrees are the `frags` of a `Dom`, beside the document; the parser edits them as it edits the
document, and their roots have no parent.
-/

set_option autoImplicit false

namespace Loolwsd.Model

/-! ## Nodes -/

/-- A chain of sibling nodes of a Poco DOM tree: an element with its identity, name,
attributes, first child and next sibling, or a text node with its next sibling. -/
inductive XmlNode where
  | nil
  | element (id : Nat) (name : String) (attrs : List (String × String)) (firstChild next : XmlNode)
  | text (data : String) (next : XmlNode)
  deriving Repr, DecidableEq

namespace XmlNode

/-- `nodeName()`; a text node is named `#text`. -/
def nodeName : XmlNode → String
  | element _ n _ _ _ => n
  | text _ _ => "#text"
  | nil => ""

/-- `firstChild()`. -/
def firstChild : XmlNode → XmlNode
  | element _ _ _ fc _ => fc
  | _ => nil

/-- The node with the chain `nx` as its next siblings. -/
def withNext : XmlNode → XmlNode → XmlNode
  | element i n a fc _, nx => element i n a fc nx
  | text d _, nx => text d nx
  | nil, nx => nx

/-- The chain `c` followed by the chain `d`. -/
def append : XmlNode → XmlNode → XmlNode
  | nil, d => d
  | text s nx, d => text s (append nx d)
  | element i n a fc nx, d => element i n a fc (append nx d)

/-- The identity of an element. -/
def ident? : XmlNode → Option Nat
  | element i _ _ _ _ => some i
  | _ => none

/-- The nodes of a chain, each without its siblings: the `childNodes()` of their parent. -/
def nodes : XmlNode → List XmlNode
  | nil => []
  | text d nx => text d nil :: nodes nx
  | element i n a fc nx => element i n a fc nil :: nodes nx

/-- Every element of the chain and below it, without its siblings, in document order. -/
def elements : XmlNode → List XmlNode
  | nil => []
  | text _ nx => elements nx
  | element i n a fc nx => element i n a fc nil :: (elements fc ++ elements nx)

/-- `getAttribute(k)`: the empty string when the element has no such attribute. -/
def getAttribute (k : String) : XmlNode → String
  | element _ _ a _ _ => (a.lookup k).getD ""
  | _ => ""

/-- `hasAttribute(k)`. -/
def hasAttribute (k : String) : XmlNode → Bool
  | element _ _ a _ _ => (a.lookup k).isSome
  | _ => false

/-- `setAttribute(k, v)`: an attribute the element has gets the new value in place, a new one
comes after the others. -/
def setAttribute (k v : String) : XmlNode → XmlNode
  | element i n a fc nx =>
    element i n (if (a.lookup k).isSome then a.map fun p => if p.1 = k then (k, v) else p
      else a ++ [(k, v)]) fc nx
  | e => e

/-- `removeAttribute(k)`. -/
def removeAttribute (k : String) : XmlNode → XmlNode
  | element i n a fc nx => element i n (a.filter fun p => p.1 ≠ k) fc nx
  | e => e

/-- The identities of the elements named `tag` in the chain and below it, in document order:
the list `getElementsByTagName(tag)` walks. -/
def byTag (tag : String) : XmlNode → List Nat
  | nil => []
  | text _ nx => byTag tag nx
  | element i n _ fc nx => (if n = tag then [i] else []) ++ (byTag tag fc ++ byTag tag nx)

/-- The identities of all elements of the chain and below it. -/
def ids : XmlNode → List Nat
  | nil => []
  | text _ nx => ids nx
  | element i _ _ fc nx => i :: (ids fc ++ ids nx)

/-- The text of the chain and of everything below it, in document order. -/
def chainText : XmlNode → String
  | nil => ""
  | text d nx => d ++ chainText nx
  | element _ _ _ fc nx => chainText fc ++ chainText nx

/-- `innerText()`: an element's is the text below it. -/
def innerText : XmlNode → String
  | element _ _ _ fc _ => chainText fc
  | text d _ => d
  | nil => ""

/-- The last node of a chain, `lastChild()` of its parent: `nil` for an empty chain. -/
def lastOf : XmlNode → XmlNode
  | nil => nil
  | text d nx =>
    match nx with
    | nil => text d nil
    | _ => lastOf nx
  | element i n a fc nx =>
    match nx with
    | nil => element i n a fc nil
    | _ => lastOf nx

/-- Where the element `i` stands in the chain: the element with its next siblings, its
previous sibling (`prev` for the first of the chain), and its element ancestors, innermost
first, each without its siblings. -/
def place (i : Nat) : XmlNode → XmlNode → Option (XmlNode × XmlNode × List XmlNode)
  | nil, _ => none
  | text d nx, _ => place i nx (text d nil)
  | element j n a fc nx, prev =>
    if j = i then some (element j n a fc nx, prev, [])
    else
      match place i fc nil with
      | some (e, pv, as) => some (e, pv, as ++ [element j n a fc nil])
      | none => place i nx (element j n a fc nil)

/-- The chain with each element `i`, subtree and all, replaced by the chain `h e`, where `e` is
the element without its siblings; its next siblings, edited in turn, follow. Every change the
parser makes through a pointer is such an edit. -/
def edit (i : Nat) (h : XmlNode → XmlNode) : XmlNode → XmlNode
  | nil => nil
  | text d nx => text d (edit i h nx)
  | element j n a fc nx =>
    if j = i then (h (element j n a fc nil)).append (edit i h nx)
    else element j n a (edit i h fc) (edit i h nx)

/-- The chain with its elements numbered from `n` in document order, and the next free number:
`cloneNode(true)` gives the copy new identities. -/
def renumber : XmlNode → Nat → XmlNode × Nat
  | nil, n => (nil, n)
  | text d nx, n =>
    let r := renumber nx n
    (text d r.1, r.2)
  | element _ nm a fc nx, n =>
    let c := renumber fc (n + 1)
    let s := renumber nx c.2
    (element n nm a c.1 s.1, s.2)

end XmlNode

/-! ## The document and what was cut from it -/

/-- `parentNode()` of a node when it is not null: an element, or the document node. -/
inductive Up where
  | element (e : XmlNode)
  | document

/-- `nodeName()` of a parent. -/
def Up.nodeName : Up → String
  | .element e => e.nodeName
  | .document => "#document"

/-- An element the parser holds a pointer to: the element with its next siblings, its previous
sibling (`nil` when it has none), and the chain of `parentNode()` above it: its element
ancestors, innermost first, then the document node when it is in the document. Past the end
of `ups`, `parentNode()` is null. -/
structure Place where
  node : XmlNode
  prev : XmlNode
  ups : List Up

/-- The parsed `content.xml`: the children of the document node, the parentless subtrees the
parser has cut off or built and still holds, and the identity the next new element gets. -/
structure Dom where
  doc : XmlNode
  frags : List XmlNode
  nextId : Nat

namespace Dom

/-- Where the element `i` is, in the document or in a parentless subtree. -/
def place (d : Dom) (i : Nat) : Option Place :=
  match d.doc.place i .nil with
  | some (e, pv, as) => some ⟨e, pv, as.map .element ++ [.document]⟩
  | none => (d.frags.findSome? fun f => f.place i .nil).map fun (e, pv, as) =>
      ⟨e, pv, as.map .element⟩

/-- The element `i` edited by `h` wherever it is. -/
def edit (d : Dom) (i : Nat) (h : XmlNode → XmlNode) : Dom :=
  { d with doc := d.doc.edit i h, frags := d.frags.map (XmlNode.edit i h) }

/-- `replaceChild(n, e)` in the parent of the element `e`, whose identity is `i`: the node `n`
takes its place among its siblings (`n = nil` is `removeChild(e)`), and `e` is a parentless
subtree. -/
def replace (d : Dom) (i : Nat) (e n : XmlNode) : Dom :=
  let d' := d.edit i fun _ => n
  { d' with frags := d'.frags ++ [e] }

/-- `insertBefore(n, e->nextSibling())` in the parent of the element `i`, for a node `n`. -/
def insertAfter (d : Dom) (i : Nat) (n : XmlNode) : Dom :=
  d.edit i fun e => e.append n

/-- A change of the element `i` itself, such as an attribute's. -/
def update (d : Dom) (i : Nat) (g : XmlNode → XmlNode) : Dom :=
  d.edit i g

end Dom

/-! ## The merge data -/

/-- A value of the JSON object a merge request carries, as Poco's parser builds it. A number
is kept as the text `Var::toString` prints for it. -/
inductive JsonValue where
  | null
  | str (s : String)
  | num (text : String)
  | bool (b : Bool)
  | array (items : List JsonValue)
  | object (fields : List (String × JsonValue))

/-- A `Poco::JSON::Object`. -/
abbrev JsonObject := List (String × JsonValue)

namespace JsonObject

/-- `has(key)`: true also of a key whose value is null. -/
def has (o : JsonObject) (k : String) : Bool :=
  (o.lookup k).isSome

/-- `get(key)`: `none` is the empty `Var`, of an absent key or of a null value. -/
def get (o : JsonObject) (k : String) : Option JsonValue :=
  match o.lookup k with
  | some .null => none
  | v => v

/-- `set(key, value)`. -/
def set (o : JsonObject) (k : String) (v : JsonValue) : JsonObject :=
  if o.has k then o.map fun p => if p.1 = k then (k, v) else p else o ++ [(k, v)]

end JsonObject

mutual

/-- The JSON text Poco's `Stringifier` writes for a value, without indentation. -/
def JsonValue.json : JsonValue → String
  | .null => "null"
  | .str s => "\x22" ++ s ++ "\x22"
  | .num t => t
  | .bool b => if b then "true" else "false"
  | .array xs => "[" ++ JsonValue.jsonItems xs ++ "]"
  | .object fs => "\x7b" ++ JsonValue.jsonFields fs ++ "\x7d"

/-- The items of an array, comma-separated. -/
def JsonValue.jsonItems : List JsonValue → String
  | [] => ""
  | [x] => x.json
  | x :: xs => x.json ++ "," ++ JsonValue.jsonItems xs

/-- The members of an object, comma-separated. -/
def JsonValue.jsonFields : List (String × JsonValue) → String
  | [] => ""
  | [(k, v)] => "\x22" ++ k ++ "\x22:" ++ v.json
  | (k, v) :: fs => "\x22" ++ k ++ "\x22:" ++ v.json ++ "," ++ JsonValue.jsonFields fs

end

/-- `Var::toString()` of a value that is not empty: a string is itself, anything else its
JSON text. -/
def JsonValue.toText : JsonValue → String
  | .str s => s
  | v => v.json

end Loolwsd.Model
