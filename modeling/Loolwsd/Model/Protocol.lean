import Mathlib.Data.List.Basic

/-!
# The broker's wire vocabulary

The words `DocumentBroker.cpp` speaks to the kit and to its client sessions, as far as the
broker itself reads or builds them. The helpers it calls from `Protocol.hpp`, `Message.hpp`
and `TileDesc.hpp` are not in the source; they are modelled from the spec's description of
the framed protocol (§4.2.4, §6): a message is classified by its first whitespace-delimited
token, and a tile frame is a textual first line followed by the PNG bytes.

Frames to the kit whose text the broker builds itself (`session …`, `child-<id> …`,
`canceltiles …`) are kept as strings, exactly as built. Render requests carry the tile
descriptor itself, since `TileDesc::serialize` is not in the source.
-/

set_option autoImplicit false

namespace Loolwsd.Model

/-! ## Tokens -/

/-- The characters `std::isspace` accepts in the "C" locale. -/
def isSpace (c : Char) : Bool :=
  c = ' ' || c = '\t' || c = '\n' || c = '\x0B' || c = '\x0C' || c = '\r'

/-- The trimming of `StringTokenizer::TOK_TRIM`: blanks at both ends of a token are dropped. -/
def trimSpace (w : List Char) : List Char :=
  ((w.dropWhile isSpace).reverse.dropWhile isSpace).reverse

/-- Modelled from the spec: `LOOLProtocol::tokenize` (Protocol.hpp, not in the source), a
`StringTokenizer` on `' '` with `TOK_IGNORE_EMPTY | TOK_TRIM`: the pieces between blanks,
trimmed, empty ones dropped. -/
def tokenize (s : String) : List String :=
  (((s.data.splitOn ' ').map trimSpace).filter (fun w => !w.isEmpty)).map String.mk

/-- Modelled from the spec: `LOOLProtocol::getFirstLine` on a received frame, the bytes
before the first newline (the whole frame when it has none). -/
def getFirstLine (payload : List Char) : List Char :=
  payload.takeWhile (· ≠ '\n')

/-- Modelled from the spec: the first token of a frame (`Message::firstToken`), the first
line's characters up to the first blank. -/
def firstToken (payload : List Char) : String :=
  ⟨(getFirstLine payload).takeWhile (· ≠ ' ')⟩

/-! ## Tiles -/

/-- Modelled from the spec: a tile descriptor (`TileDesc`, TileDesc.hpp is not in the source):
part, position and size of the rendered area, the version the broker stamps on a request,
the image size a response declares, and the broadcast flag. -/
structure TileDesc where
  part : Int
  width : Int
  height : Int
  tilePosX : Int
  tilePosY : Int
  tileWidth : Int
  tileHeight : Int
  version : Int
  imgSize : Int
  broadcast : Bool
  deriving Repr, DecidableEq

/-- The descriptor as the tile cache compares it: every field but the version and the
broadcast flag (spec §3, "Equality for cache lookup excludes `version` and
`broadcast-flag`"). -/
structure TileKey where
  part : Int
  width : Int
  height : Int
  tilePosX : Int
  tilePosY : Int
  tileWidth : Int
  tileHeight : Int
  imgSize : Int
  deriving Repr, DecidableEq

/-- The cache key of a descriptor. -/
def TileDesc.key (t : TileDesc) : TileKey :=
  ⟨t.part, t.width, t.height, t.tilePosX, t.tilePosY, t.tileWidth, t.tileHeight, t.imgSize⟩

@[simp] theorem TileDesc.key_version (t : TileDesc) (v : Int) :
    ({ t with version := v } : TileDesc).key = t.key := rfl

/-! ## Frames -/

/-- A frame the broker sends to the kit. -/
inductive KitMessage where
  /-- A text frame, with the exact text `DocumentBroker.cpp` builds. -/
  | text (s : String)
  /-- The render request `"tile " + tile.serialize()` for one tile. -/
  | tile (t : TileDesc)
  /-- The render request `TileCombined::create(tiles).serialize("tilecombine")` for several. -/
  | tileCombine (ts : List TileDesc)
  /-- The `canceltiles` frame `TileCache::cancelTiles` builds for the keys nobody waits for. -/
  | cancelTiles (keys : List TileKey)
  deriving Repr, DecidableEq

/-- A value of the JSON object `load` sends after `wopi: `. -/
inductive JsonScalar where
  | str (s : String)
  | bool (b : Bool)
  deriving Repr, DecidableEq

/-- A frame the broker sends to one client session. -/
inductive ClientMessage where
  /-- A text frame: `sendTextFrame`, `sendMessage` or an enqueued message. -/
  | text (s : String)
  /-- A cached tile: `tile.serialize("tile:") + '\n'` followed by the cached PNG bytes. -/
  | tile (t : TileDesc) (png : List Char)
  /-- A kit frame routed to the session (`handleKitToClientMessage`). -/
  | fromKit (payload : List Char)
  /-- The frame `"wopi: " + stringify(obj)` with the WOPI host's properties. -/
  | wopiInfo (obj : List (String × JsonScalar))
  /-- `shutdown(ENDPOINT_GOING_AWAY, reason)`: the close frame that disconnects the client. -/
  | goingAway (reason : String)
  deriving Repr, DecidableEq

end Loolwsd.Model
