import Loolwsd.Model.DocKey

/-!
# Routing a merge request

The merge service has one endpoint per template file, under `resturl`
(`DocumentBroker.cpp:1698`). Three functions of the source turn a request URI into a
template, each with its own loop over the templates:

* `MergeODF::isMergeToUri` (`DocumentBroker.cpp:3468-3498`) compares the request URI as it came
  with each endpoint's merge URIs, `resturl` and the endpoint followed by nothing or by one
  of four `outputPDF` queries, and returns the endpoint, or `pdf` when the query asks for a
  PDF; `isMergeToQueryAccessTime` (`DocumentBroker.cpp:3455-3466`) does the same for the
  endpoint's `/accessTime` URI.
* `Parser::Parser(Poco::URI&)` (`DocumentBroker.cpp:1969-1994`) compares `uri.toString()`, the
  URI as Poco writes it back, with the same merge URIs, and extracts the first template that
  matches.
* `MergeODF::handleMergeTo` (`DocumentBroker.cpp:3799-3967`) names the request by the base name
  of the URI's decoded path: the row `updateAccessTimes` counts, the lines it logs and the
  name of the file it sends; it converts the merge to PDF when `isMergeToUri` returns `pdf`.

The endpoints are the templates' base names, from `templLists` (`DocumentBroker.cpp:1907-1937`).
Poco's `URI` and `Path` are not in the source; they are modelled from Poco 1.7 for request
targets that start with `/`, the form in which the server hands requests to the merge service.
A `std::string` is a list of bytes, as in the document key.
-/

set_option autoImplicit false

namespace Loolwsd.Model

/-! ## Bytes and paths -/

/-- The bytes of a string literal of the source; every literal here is ASCII. -/
def ascii (s : String) : List UInt8 := s.toList.map Char.toUInt8

/-- `resturl` (`DocumentBroker.cpp:1698`). -/
def resturl : List UInt8 := ascii "/lool/merge-to/"

/-- `std::string::rfind(c)`: the last position of `c`, `none` for `npos`. -/
def rfind (c : UInt8) : List UInt8 → Option Nat
  | [] => none
  | d :: s =>
    match rfind c s with
    | some i => some (i + 1)
    | none => if d = c then some 0 else none

/-- The file name `Poco::Path(p)` keeps (`Path::parseUnix`): what follows the last `/`. The
expansion of a leading `~` is left out; no path here starts with one. -/
def pathName (p : List UInt8) : List UInt8 :=
  match rfind 0x2F p with
  | some pos => p.drop (pos + 1)
  | none => p

/-- `Poco::Path(p).getBaseName()`: the file name up to its last `.`. -/
def getBaseName (p : List UInt8) : List UInt8 :=
  let name := pathName p
  match rfind 0x2E name with
  | some pos => name.take pos
  | none => name

/-! ## The templates -/

/-- The directory the templates are read from. -/
def templatesDir : List UInt8 := ascii "/usr/share/NDCODFAPI/ODFReport/templates/"

/-- A file the glob `templates/*.ot[ts]` matches: `stem.ott`, a text template, or `stem.ots`,
a spreadsheet template. A file name holds no `/`. -/
structure Template where
  stem : List UInt8
  spreadsheet : Bool
  stem_no_slash : 0x2F ∉ stem

/-- The template's path, as the glob returns it and `Path(afile).toString()` writes it. -/
def Template.path (t : Template) : List UInt8 :=
  templatesDir ++ t.stem ++ ascii (if t.spreadsheet then ".ots" else ".ott")

/-- `templLists(isBasename)` (`DocumentBroker.cpp:1907-1937`), with `files` the glob's matches
in the order of its `std::set`: each file's base name, or its path. The second glob of a
debug build is left out. -/
def templLists (files : List Template) (isBasename : Bool) : List (List UInt8) :=
  files.map fun t => if isBasename then getBaseName t.path else t.path

/-! ## `Poco::URI` -/

/-- The value of a hex digit. -/
def hexValue (c : UInt8) : Option UInt8 :=
  if 0x30 ≤ c ∧ c ≤ 0x39 then some (c - 0x30)
  else if 0x41 ≤ c ∧ c ≤ 0x46 then some (c - 0x41 + 10)
  else if 0x61 ≤ c ∧ c ≤ 0x66 then some (c - 0x61 + 10)
  else none

/-- `URI::decode(str, decodedStr)`: `%` and two hex digits stand for one byte. `none` when it
throws `URISyntaxException`, at a `%` that two hex digits do not follow. -/
def uriDecode : List UInt8 → Option (List UInt8)
  | [] => some []
  | c :: rest =>
    if c = 0x25 then
      match rest with
      | hi :: lo :: rest' => do
        let h ← hexValue hi
        let l ← hexValue lo
        let r ← uriDecode rest'
        pure ((h * 16 + l) :: r)
      | _ => none
    else (uriDecode rest).map (c :: ·)

/-- The parts of a `Poco::URI` without a scheme: the decoded path, the raw query and the
decoded fragment. -/
structure RequestUri where
  path : List UInt8
  query : List UInt8
  fragment : List UInt8
  deriving DecidableEq, Repr

/-- Whether a byte ends a URI's path: `?` or `#`. -/
def endsPath (c : UInt8) : Bool := c = 0x3F || c = 0x23

/-- `Poco::URI(target)` for a target that starts with `/`, which `URI::parse` hands to
`parsePathEtc` whole: the path runs to the first `?` or `#` and is decoded, the query runs from
a `?` to the next `#` and is kept raw, the fragment is what follows a `#`, decoded. `none` when
a decoding throws. -/
def parseUri (target : List UInt8) : Option RequestUri := do
  let path ← uriDecode (target.takeWhile fun c => !endsPath c)
  let afterPath := target.dropWhile fun c => !endsPath c
  let query := if afterPath.head? = some 0x3F then (afterPath.drop 1).takeWhile (· ≠ 0x23) else []
  let afterQuery :=
    if afterPath.head? = some 0x3F then (afterPath.drop 1).dropWhile (· ≠ 0x23) else afterPath
  let fragment ← if afterQuery.head? = some 0x23 then uriDecode (afterQuery.drop 1) else some []
  pure ⟨path, query, fragment⟩

/-- `URI::toString()` of a URI without a scheme: the path encoded with `?` and `#` reserved, then
`?` and the raw query, then `#` and the encoded fragment, each part only when it is not
empty. -/
def RequestUri.toString (u : RequestUri) : List UInt8 :=
  uriEncode u.path (ascii "?#") ++ (if u.query = [] then [] else 0x3F :: u.query) ++
    (if u.fragment = [] then [] else 0x23 :: uriEncode u.fragment [])

/-! ## The three selections -/

/-- The loop of `MergeODF::isMergeToUri` over the endpoints (`DocumentBroker.cpp:3473-3496`). -/
def mergeToLoop (uri : List UInt8) (forHelp anotherJson yaml : Bool) :
    List (List UInt8) → List UInt8
  | [] => []
  | endpoint :: rest =>
    if forHelp then
      if uri = resturl ++ endpoint ++ ascii "/api" then endpoint
      else if uri = resturl ++ endpoint ++ ascii "/yaml" ∧ yaml then endpoint
      else if uri = resturl ++ endpoint ++ ascii "/json" ∧ anotherJson then endpoint
      else mergeToLoop uri forHelp anotherJson yaml rest
    else if uri = resturl ++ endpoint ∨ uri = resturl ++ endpoint ++ ascii "?outputPDF=false" then
      endpoint
    else if uri = resturl ++ endpoint ++ ascii "?outputPDF" ∨
        uri = resturl ++ endpoint ++ ascii "?outputPDF=" ∨
        uri = resturl ++ endpoint ++ ascii "?outputPDF=true" then
      ascii "pdf"
    else mergeToLoop uri forHelp anotherJson yaml rest

/-- `MergeODF::isMergeToUri` (`DocumentBroker.cpp:3468-3498`): the endpoint the request URI
merges to, `pdf` for a merge to PDF, or empty. -/
def isMergeToUri (files : List Template) (uri : List UInt8) (forHelp anotherJson yaml : Bool) :
    List UInt8 :=
  mergeToLoop uri forHelp anotherJson yaml (templLists files true)

/-- `MergeODF::isMergeToHelpUri` (`DocumentBroker.cpp:3499-3507`). -/
def isMergeToHelpUri (files : List Template) (uri : List UInt8) (anotherJson yaml : Bool) :
    List UInt8 :=
  isMergeToUri files uri true anotherJson yaml

/-- `MergeODF::isMergeToQueryAccessTime` (`DocumentBroker.cpp:3455-3466`): the endpoint whose
`/accessTime` URI the request is, or empty. -/
def isMergeToQueryAccessTime (files : List Template) (uri : List UInt8) : List UInt8 :=
  ((templLists files true).find? fun endpoint =>
    uri = resturl ++ endpoint ++ ascii "/accessTime").getD []

/-- `Parser::Parser(Poco::URI&)` (`DocumentBroker.cpp:1969-1994`): the template file it
extracts, the first whose endpoint's merge URIs hold `uri.toString()`; `none` leaves
`success` false. -/
def parserOfUri (files : List Template) (uri : RequestUri) : Option (List UInt8) :=
  (templLists files false).find? fun templfile =>
    let endpoint := getBaseName templfile
    uri.toString = resturl ++ endpoint ∨
      uri.toString = resturl ++ endpoint ++ ascii "?outputPDF" ∨
      uri.toString = resturl ++ endpoint ++ ascii "?outputPDF=" ∨
      uri.toString = resturl ++ endpoint ++ ascii "?outputPDF=true" ∨
      uri.toString = resturl ++ endpoint ++ ascii "?outputPDF=false"

/-- The endpoint `handleMergeTo` names a merge by (`DocumentBroker.cpp:3871-3872`):
`Path(URI(request.getURI()).getPath()).getBaseName()`. It is the row `updateAccessTimes`
counts, the prefix of the lines logged and the name of the file sent. `none` when
`Poco::URI` throws. -/
def mergeEndpoint (target : List UInt8) : Option (List UInt8) :=
  (parseUri target).map fun uri => getBaseName uri.path

/-- Whether `handleMergeTo` converts the merge to PDF (`DocumentBroker.cpp:3918`):
`isMergeToUri(request.getURI()) == "pdf"`, with the defaults `forHelp`, `anotherJson` and `yaml`
false. -/
def toPdf (files : List Template) (target : List UInt8) : Bool :=
  isMergeToUri files target false false false = ascii "pdf"

end Loolwsd.Model
