import Mathlib.Algebra.Group.Nat.Basic
import Mathlib.Algebra.Group.Int
import Loolwsd.Model.Broker

/-!
# Tile requests and tile responses

A session's tile request is answered from the tile cache when the tile is there; otherwise
the session is subscribed to the tile and a render request goes to the kit
(`DocumentBroker.cpp:1195-1308`). The kit's answer is a frame whose first line describes the
tile and whose rest is the PNG data; `handleTileResponse` and `handleTileCombinedResponse`
(`DocumentBroker.cpp:1322-1384`) hand the byte ranges of that rest to the tile cache.

The tile cache's operations are modelled from the spec (§4.3). The descriptor parsers of
TileDesc.hpp are not in the source and are parameters: every result holds for every parser.
A byte range that does not lie inside the received frame is read past the end of the
`std::vector`, which is undefined behaviour.
-/

set_option autoImplicit false

namespace Loolwsd.Model

/-! ## The tile cache -/

namespace TileCache

/-- Modelled from the spec: `lookupTile`, the cached PNG data of a tile. -/
def lookupTile (tc : TileCache) (k : TileKey) : Option (List Char) :=
  tc.tiles.lookup k

/-- Modelled from the spec: `subscribeToTileRendering`. A session is attached to the
subscribers of a render in flight, or becomes the first subscriber of a new one. -/
def subscribe (tc : TileCache) (k : TileKey) (sessionId : String) : TileCache :=
  match tc.subscriptions.lookup k with
  | some subs =>
    { tc with subscriptions := tc.subscriptions.map fun e =>
        if e.1 = k then (k, subs ++ [sessionId]) else e }
  | none => { tc with subscriptions := tc.subscriptions ++ [(k, [sessionId])] }

/-- Modelled from the spec: `cancelTiles`. The session leaves every subscriber list; the keys
whose lists it empties are returned, for the `canceltiles` frame. -/
def cancelTiles (tc : TileCache) (sessionId : String) : TileCache × List TileKey :=
  let left := tc.subscriptions.map fun e => (e.1, e.2.filter (· ≠ sessionId))
  ({ tc with subscriptions := left.filter fun e => !e.2.isEmpty },
    (tc.subscriptions.filter fun e => !e.2.isEmpty && (e.2.filter (· ≠ sessionId)).isEmpty).map
      Prod.fst)

end TileCache

/-- Modelled from the spec: `saveTileAndNotify(tile, data, size)`. The `size` bytes at `offset`
of the frame are read; each subscriber gets the tile and the subscriptions of its key end. -/
def saveTileAndNotify (tile : TileDesc) (payload : List Char) (offset size : Nat) :
    BrokerM Unit := do
  let tc ← tileCache
  if offset + size ≤ payload.length then do
    let png := (payload.drop offset).take size
    let subs := (tc.subscriptions.lookup tile.key).getD []
    modify fun b => { b with toClients := b.toClients ++ subs.map fun s => (s, .tile tile png) }
    updateTileCache fun tc => { tc with
      tiles := (tile.key, png) :: tc.tiles.filter (·.1 ≠ tile.key)
      subscriptions := tc.subscriptions.filter (·.1 ≠ tile.key) }
  else throw .undefinedBehaviour

/-! ## Requests -/

/-- `DocumentBroker::handleTileRequest` (`DocumentBroker.cpp:1195-1250`). -/
def handleTileRequest (tile : TileDesc) (sessionId : String) : BrokerM Unit := do
  let b ← get
  let tile := { tile with version := b.tileVersion + 1 }
  modify fun b => { b with tileVersion := b.tileVersion + 1 }
  let tc ← tileCache
  match tc.lookupTile tile.key with
  | some png => sendToClient sessionId (.tile tile png)
  | none => do
    if tile.broadcast then
      updateTileCache fun tc => b.sessions.entries.foldl (fun tc s => tc.subscribe tile.key s.id) tc
    else updateTileCache fun tc => tc.subscribe tile.key sessionId
    sendToKit (.tile tile)

/-- The loop of `handleTileCombinedRequest`: cached tiles go to the session, the others get a
new version and a subscription, and are returned in order. -/
def combinedEach (sessionId : String) : List TileDesc → BrokerM (List TileDesc)
  | [] => pure []
  | t :: ts => do
    let tc ← tileCache
    match tc.lookupTile t.key with
    | some png => do
      sendToClient sessionId (.tile t png)
      combinedEach sessionId ts
    | none => do
      let b ← get
      let t := { t with version := b.tileVersion + 1 }
      modify fun b => { b with tileVersion := b.tileVersion + 1 }
      updateTileCache fun tc => tc.subscribe t.key sessionId
      let rest ← combinedEach sessionId ts
      pure (t :: rest)

/-- `DocumentBroker::handleTileCombinedRequest` (`DocumentBroker.cpp:1252-1308`). -/
def handleTileCombinedRequest (tiles : List TileDesc) (sessionId : String) : BrokerM Unit := do
  let uncached ← combinedEach sessionId tiles
  if !uncached.isEmpty then sendToKit (.tileCombine uncached)

/-- `DocumentBroker::cancelTileRequests` (`DocumentBroker.cpp:1310-1320`). -/
def cancelTileRequests (sessionId : String) : BrokerM Unit := do
  let tc ← tileCache
  let keys := (tc.cancelTiles sessionId).2
  updateTileCache fun tc => (tc.cancelTiles sessionId).1
  if !keys.isEmpty then sendToKit (.cancelTiles keys)

/-! ## Responses -/

/-- A C++ `int` converted to `size_t`. -/
def sizeT (i : Int) : Nat := (i % 2 ^ 64).toNat

/-- The descriptor parsers of TileDesc.hpp: `TileDesc::parse` and `TileCombined::parse`, which
throw `std::invalid_argument` on a malformed line. -/
structure TileParsers where
  parseTile : String → Except String TileDesc
  parseTileCombined : String → Except String (List TileDesc)

/-- Whether `handleTileResponse`'s guard `firstLine.size() < length - 1` (in `size_t`) holds. -/
def hasBody (firstLine payload : List Char) : Bool :=
  decide (firstLine.length < (payload.length + (2 ^ 64 - 1)) % 2 ^ 64)

/-- The calls `saveTileAndNotify(tile, buffer + offset, tile.getImgSize())` of the
`handleTileCombinedResponse` loop: each tile with its offset and size, `offset` advancing by
the declared size (in `size_t`). -/
def combinedRanges : List TileDesc → Nat → List (TileDesc × Nat × Nat)
  | [], _ => []
  | t :: ts, offset =>
    (t, offset, sizeT t.imgSize) :: combinedRanges ts ((offset + sizeT t.imgSize) % 2 ^ 64)

/-- Hand each range to the tile cache. -/
def saveRanges (payload : List Char) : List (TileDesc × Nat × Nat) → BrokerM Unit
  | [] => pure ()
  | (t, offset, size) :: rest => do
    saveTileAndNotify t payload offset size
    saveRanges payload rest

/-- `DocumentBroker::handleTileResponse` (`DocumentBroker.cpp:1322-1350`). -/
def handleTileResponse (parsers : TileParsers) (payload : List Char) : BrokerM Unit :=
  let firstLine := getFirstLine payload
  catchRaised (do
      if hasBody firstLine payload then do
        let tile ← ask ((parsers.parseTile ⟨firstLine⟩).mapError .raised)
        let offset := firstLine.length + 1
        saveTileAndNotify tile payload offset ((payload.length + 2 ^ 64 - offset) % 2 ^ 64)
      else pure ())
    fun _ => pure ()

/-- `DocumentBroker::handleTileCombinedResponse` (`DocumentBroker.cpp:1352-1384`). -/
def handleTileCombinedResponse (parsers : TileParsers) (payload : List Char) : BrokerM Unit :=
  let firstLine := getFirstLine payload
  catchRaised (do
      if hasBody firstLine payload then do
        let tiles ← ask ((parsers.parseTileCombined ⟨firstLine⟩).mapError .raised)
        saveRanges payload (combinedRanges tiles (firstLine.length + 1))
      else pure ())
    fun _ => pure ()

/-! ## Kit input -/

/-- Modelled from the spec: `getTokenString(token, name, value)`, the value of a
`name=value` token, when it is not empty. -/
def tokenValue (name token : String) : Option String :=
  let pre := name.data ++ ['=']
  if pre.isPrefixOf token.data && pre.length < token.length then some ⟨token.data.drop pre.length⟩
  else none

/-- Modelled from the spec: `Message::forwardToken`, the frame's first token when it holds a
`-` (`client-<sid>`), else empty. -/
def forwardToken (payload : List Char) : String :=
  if '-' ∈ (firstToken payload).data then firstToken payload else ""

/-- Modelled from the spec: `Message::data`, the frame after its forward token and the blanks
that follow it. -/
def forwardData (payload : List Char) : List Char :=
  (payload.drop (forwardToken payload).length).dropWhile (· = ' ')

/-- `DocumentBroker::forwardToClient` (`DocumentBroker.cpp:1460-1507`): the frame's data goes to
the session `sid` of its `client-<sid>` forward token, or to every session for `client-all`. -/
def forwardToClient (payload : List Char) : BrokerM Bool := do
  let (name, rest) := (forwardToken payload).data.span (· ≠ '-')
  if name = "client".data && !rest.isEmpty then do
    let sid : String := ⟨rest.tail⟩
    let data := forwardData payload
    let b ← get
    if sid = "all" then do
      let frames := b.sessions.entries.map fun s => (s.id, ClientMessage.fromKit data)
      modify fun b' => { b' with toClients := b'.toClients ++ frames }
      pure false
    else if b.sessions.contains sid then do
      sendToClient sid (.fromKit data)
      pure true
    else pure false
  else pure false

/-- The `errortoall:` branch of `handleInput`: `error: cmd=<c> kind=<k>` to every session (of
this broker, as far as this model goes). -/
def errorToAll (payload : List Char) : BrokerM Bool := do
  match tokenize ⟨getFirstLine payload⟩ with
  | [_, c, k] =>
    match tokenValue "cmd" c, tokenValue "kind" k with
    | some cmd, some kind => do
      let b ← get
      let alert := ClientMessage.text ("error: cmd=" ++ cmd ++ " kind=" ++ kind)
      let frames := b.sessions.entries.map fun s => (s.id, alert)
      modify fun b' => { b' with toClients := b'.toClients ++ frames }
      pure true
    | _, _ => pure false
  | _ => pure false

/-- `DocumentBroker::handleInput` (`DocumentBroker.cpp:1138-1187`): a frame from the kit with a
`client-…` forward token goes to `forwardToClient`; any other is classified by the first token
of its data. -/
def handleInput (parsers : TileParsers) (payload : List Char) : BrokerM Bool := do
  if (forwardToken payload).data.takeWhile (· ≠ '-') = "client".data then do
    let _ ← forwardToClient payload
    pure true
  else
    let command := firstToken (forwardData payload)
    if command = "tile:" then do
      handleTileResponse parsers payload
      pure true
    else if command = "tilecombine:" then do
      handleTileCombinedResponse parsers payload
      pure true
    else if command = "errortoall:" then errorToAll (forwardData payload)
    else if command = "procmemstats:" then pure true
    else pure false

end Loolwsd.Model
