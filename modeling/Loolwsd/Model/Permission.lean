import Loolwsd.Model.TemplateVars

/-!
# The permissions a session is sent

With `BUILD_NDC`, `load` sends a session `perm: ` followed by `parseAllPermission` of the
session's `permission` query parameter (`DocumentBroker.cpp:565-572` and `615-632`).
`parsePermission` (`DocumentBroker.cpp:390-435`) reads `perm.xml` with Poco's DOM parser and
lists, for one application, the texts of the child elements of the application's elements that
carry an attribute named after the permission, set to `true`; for the toolbar, set to `false`.
`parseAllPermission` (`DocumentBroker.cpp:438-450`) writes the permission and the four lists as
one JSON object. Every text is written between quotes as it is.

`perm.xml` is taken as its parsed tree; a file that does not parse makes `DOMParser::parse`
throw, which is not modelled.
-/

set_option autoImplicit false

namespace Loolwsd.Model

/-- Whether an attribute of a child element lists the child for the application `ap`
(`DocumentBroker.cpp:421-422`). -/
def listsChild (ap permission : String) (attr : String × String) : Bool :=
  (ap ≠ "toolbar" ∧ attr.1 = permission ∧ attr.2 = "true") ||
    (ap = "toolbar" ∧ attr.1 = permission ∧ attr.2 = "false")

/-- The texts `parsePermission(ap, permission)` writes (`DocumentBroker.cpp:404-430`): for each
element named `ap` of `perm.xml` in document order (`getElementsByTagName`), for each of its
child elements, the child's `innerText()` once per attribute that lists it. -/
def permTexts (doc : XmlNode) (ap permission : String) : List String :=
  (doc.elements.filter (·.nodeName = ap)).flatMap fun e =>
    e.firstChild.nodes.flatMap fun n =>
      match n with
      | .element _ _ attrs _ _ => (attrs.filter (listsChild ap permission)).map fun _ => n.innerText
      | _ => []

/-- The texts between quotes after a separator, empty before the first text and `,` after it. -/
def separatedTexts : String → List String → String
  | _, [] => ""
  | separator, text :: rest => separator ++ quoted text ++ separatedTexts "," rest

/-- `parsePermission(ap, permission)` (`DocumentBroker.cpp:390-435`) on the tree of `perm.xml`. -/
def parsePermission (doc : XmlNode) (ap permission : String) : String :=
  "[" ++ separatedTexts "" (permTexts doc ap permission) ++ "]"

/-- `parseAllPermission(permission)` (`DocumentBroker.cpp:438-450`) on the tree of `perm.xml`. -/
def parseAllPermission (doc : XmlNode) (permission : String) : String :=
  "\x7b" ++ "\"perm\": \"" ++ permission ++ "\"," ++
    "\"text\":" ++ parsePermission doc "text" permission ++ "," ++
    "\"spreadsheet\":" ++ parsePermission doc "spreadsheet" permission ++ "," ++
    "\"presentation\":" ++ parsePermission doc "presentation" permission ++ "," ++
    "\"toolbar\":" ++ parsePermission doc "toolbar" permission ++ "\x7d"

end Loolwsd.Model
