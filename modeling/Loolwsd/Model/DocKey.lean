import Mathlib.Data.List.Basic

/-!
# The document key

`DocumentBroker::getDocKey` (`DocumentBroker.cpp:127-154`) names the broker a URI opens: two
requests whose keys are equal share one broker, and saves of one overwrite those of the other.
The key is the URI's path, URI-encoded. When the key is `/`, the code walks the query
parameters up to the first `rdid` one, and assigns nothing on the way.

The encoding is `Poco::URI::encode` (Poco is not in the source); it is modelled from Poco's
definition (Poco 1.7): letters, digits and `-_.~` are copied, a control character, a space,
a byte of 0x7F or more, one of `Poco::URI::ILLEGAL` or a reserved character becomes `%` and two
upper case hex digits, and every other byte is copied. A `std::string` is a list of bytes.
-/

set_option autoImplicit false

namespace Loolwsd.Model

/-- The parts of a `Poco::URI` that tell two URIs apart: the scheme, the host and port, the
decoded path as the bytes of a `std::string`, and the query parameters in the URI's order. -/
structure PublicUri where
  scheme : String
  host : String
  port : Nat
  path : List UInt8
  queryParameters : List (String × String)
  deriving Repr, DecidableEq

/-! ## `Poco::URI::encode` -/

/-- `Poco::URI::ILLEGAL`, the characters `encode` always escapes: `%`, `<`, `>`, the two braces,
`|`, backslash, double quote, `^` and backquote. -/
def illegalBytes : List UInt8 :=
  [0x25, 0x3C, 0x3E, 0x7B, 0x7D, 0x7C, 0x5C, 0x22, 0x5E, 0x60]

/-- The bytes `encode` copies first: letters, digits, `-`, `_`, `.` and `~`. -/
def isUnreserved (c : UInt8) : Bool :=
  (0x61 ≤ c && c ≤ 0x7A) || (0x41 ≤ c && c ≤ 0x5A) || (0x30 ≤ c && c ≤ 0x39) ||
    c = 0x2D || c = 0x5F || c = 0x2E || c = 0x7E

/-- The upper case hex digit of a number below 16 (`NumberFormatter::formatHex`). -/
def hexByte (n : Nat) : UInt8 :=
  if n < 10 then 0x30 + n.toUInt8 else 0x41 + (n - 10).toUInt8

/-- Whether `encode` escapes the byte `c`, with `reserved` the extra characters to escape. -/
def escapes (reserved : List UInt8) (c : UInt8) : Bool :=
  !isUnreserved c &&
    (c ≤ 0x20 || c ≥ 0x7F || illegalBytes.contains c || reserved.contains c)

/-- `encode` of one byte: the byte itself, or `%` and its two hex digits. -/
def encodeByte (reserved : List UInt8) (c : UInt8) : List UInt8 :=
  if escapes reserved c then [0x25, hexByte (c.toNat / 16), hexByte (c.toNat % 16)] else [c]

/-- `Poco::URI::encode(str, reserved, encodedStr)` on an empty `encodedStr`. -/
def uriEncode (str reserved : List UInt8) : List UInt8 :=
  str.flatMap (encodeByte reserved)

/-! ## `getDocKey` -/

/-- The loop of `getDocKey` over the query parameters (`DocumentBroker.cpp:141-149`): it skips
every parameter that is not `rdid` and stops at the first `rdid` one; no branch assigns the
key. -/
def rdidLoop (docKey : List UInt8) : List (String × String) → List UInt8
  | [] => docKey
  | param :: rest => if param.1 ≠ "rdid" then rdidLoop docKey rest else docKey

/-- `DocumentBroker::getDocKey` (`DocumentBroker.cpp:127-154`). -/
def getDocKey (uri : PublicUri) : List UInt8 :=
  let docKey := uriEncode uri.path []
  if docKey = [0x2F] then rdidLoop docKey uri.queryParameters else docKey

end Loolwsd.Model
