import Loolwsd.Analysis.Admission

/-!
# Tile requests and tile responses

A tile response is a first line describing the tiles and the PNG data after it. For `tile:`
the broker hands the tile cache the rest of the frame after the first line
(`DocumentBroker.cpp:1322-1350`): it checks that there is such a rest, and its range always
lies inside the frame (`handleTileResponse_in_bounds`). For `tilecombine:` it hands the cache
`imgsize` bytes per tile, one tile after the other (`DocumentBroker.cpp:1352-1384`), and never
compares them with the frame's length: a frame whose declared sizes run past its end is read
past the end of the buffer (`handleTileCombinedResponse_overrun`,
`tilecombine_overrun_faults`).

A request for a tile not in the cache subscribes the session and sends a render request to
the kit, each time (`DocumentBroker.cpp:1195-1308`): the broker does not coalesce requests for
the same tile, and two sessions asking for one tile have two renders outstanding
(`render_requests_per_miss`, `same_tile_rendered_twice`).
-/

set_option autoImplicit false

namespace Loolwsd.Analysis

open Loolwsd.Model

/-! ## Byte ranges of tile responses -/

/-- INTERNAL: `saveTileAndNotify` returns when the range lies inside the frame and there is a
tile cache, and otherwise faults without a change. -/
theorem saveTileAndNotify_cases (t : TileDesc) (payload : List Char) (off sz : Nat)
    (b : DocumentBroker) :
    (off + sz ≤ payload.length ∧ b.tileCache.isSome = true ∧
      ∃ b1, saveTileAndNotify t payload off sz b = .ok () b1) ∨
    ((payload.length < off + sz ∨ b.tileCache = none) ∧
      saveTileAndNotify t payload off sz b = .error .undefinedBehaviour b) := by
  cases ht : b.tileCache with
  | none => exact .inr ⟨.inr rfl, by simp [saveTileAndNotify, tileCache, ht]⟩
  | some tc =>
    by_cases hfit : off + sz ≤ payload.length
    · exact .inl ⟨hfit, rfl, _, by simp [saveTileAndNotify, tileCache, ht, hfit]; rfl⟩
    · exact .inr ⟨.inl (by omega), by simp [saveTileAndNotify, tileCache, ht, hfit]⟩

/-- **A range past the end of the frame faults**, whatever the ranges before it. -/
theorem saveRanges_overrun (payload : List Char) :
    ∀ (rs : List (TileDesc × Nat × Nat)) (b : DocumentBroker),
      (∃ r ∈ rs, payload.length < r.2.1 + r.2.2) → settle (saveRanges payload rs b) = none
  | [], _, ⟨_, hr, _⟩ => absurd hr (List.not_mem_nil _)
  | (t, off, sz) :: rest, b, ⟨r, hr, hlt⟩ => by
    simp only [saveRanges, run_bind]
    rcases saveTileAndNotify_cases t payload off sz b with ⟨hfit, -, b1, h⟩ | ⟨-, h⟩
    · rw [h]
      rcases List.mem_cons.mp hr with rfl | hr'
      · exact absurd hfit (by simpa using hlt)
      · exact saveRanges_overrun payload rest b1 ⟨r, hr', hlt⟩
    · rw [h]; rfl

/-- **`handleTileCombinedResponse` does not check the declared sizes.** When the tiles the
first line declares run past the end of the frame, the call reads past the end of the buffer.
Source: `DocumentBroker.cpp:1352-1384`. -/
theorem handleTileCombinedResponse_overrun (parsers : TileParsers) (payload : List Char)
    (tiles : List TileDesc) (hb : hasBody (getFirstLine payload) payload = true)
    (hp : parsers.parseTileCombined ⟨getFirstLine payload⟩ = .ok tiles)
    (h : ∃ r ∈ combinedRanges tiles ((getFirstLine payload).length + 1),
      payload.length < r.2.1 + r.2.2)
    (b : DocumentBroker) : settle (handleTileCombinedResponse parsers payload b) = none := by
  have hn := saveRanges_overrun payload _ b h
  simp only [handleTileCombinedResponse, run_catchRaised, hb, ite_true, run_bind, hp,
    Except.mapError, ask, run_pure]
  cases hs : saveRanges payload (combinedRanges tiles ((getFirstLine payload).length + 1)) b with
  | ok => simp [hs] at hn
  | error e b1 => cases e <;> simp_all [settle]

/-- **`handleTileResponse` hands the cache the rest of the frame.** For every frame the kit can
send (a nonempty buffer shorter than `2^64` bytes), every parse result and every broker with a
tile cache, the call returns. With nothing after the first line, or a first line the parser
refuses, it changes nothing. Otherwise it is `saveTileAndNotify` of the parsed tile on the range
from just after the first line's newline to the end of the frame, a range that is not empty and
lies inside the frame. Source: `DocumentBroker.cpp:1322-1350`. -/
theorem handleTileResponse_in_bounds (parsers : TileParsers) (payload : List Char)
    (hne : payload ≠ []) (h64 : payload.length < 2 ^ 64) (b : DocumentBroker)
    (ht : b.tileCache.isSome = true) :
    (∃ b', handleTileResponse parsers payload b = .ok () b') ∧
      (hasBody (getFirstLine payload) payload = false →
        handleTileResponse parsers payload b = .ok () b) ∧
      (∀ e, hasBody (getFirstLine payload) payload = true →
        parsers.parseTile ⟨getFirstLine payload⟩ = .error e →
          handleTileResponse parsers payload b = .ok () b) ∧
      ∀ tile, hasBody (getFirstLine payload) payload = true →
        parsers.parseTile ⟨getFirstLine payload⟩ = .ok tile →
          (getFirstLine payload).length + 1 < payload.length ∧
          handleTileResponse parsers payload b =
            saveTileAndNotify tile payload ((getFirstLine payload).length + 1)
              (payload.length - ((getFirstLine payload).length + 1)) b := by
  have hlen : 1 ≤ payload.length := List.length_pos.mpr hne
  -- with a body, the `size_t` length of the rest is the length of the rest
  have hoff : hasBody (getFirstLine payload) payload = true →
      (getFirstLine payload).length + 1 < payload.length ∧
      (payload.length + 2 ^ 64 - ((getFirstLine payload).length + 1)) % 2 ^ 64 =
        payload.length - ((getFirstLine payload).length + 1) := by
    simp only [hasBody, decide_eq_true_eq]
    omega
  have hnone : hasBody (getFirstLine payload) payload = false →
      handleTileResponse parsers payload b = .ok () b := fun hb => by
    simp [handleTileResponse, hb]
  have herr : ∀ e, hasBody (getFirstLine payload) payload = true →
      parsers.parseTile ⟨getFirstLine payload⟩ = .error e →
        handleTileResponse parsers payload b = .ok () b := fun e hb hp => by
    simp [handleTileResponse, hb, hp, Except.mapError, ask]
  have hok : ∀ tile, hasBody (getFirstLine payload) payload = true →
      parsers.parseTile ⟨getFirstLine payload⟩ = .ok tile →
        (getFirstLine payload).length + 1 < payload.length ∧
        ∃ b1, saveTileAndNotify tile payload ((getFirstLine payload).length + 1)
            (payload.length - ((getFirstLine payload).length + 1)) b = .ok () b1 ∧
          handleTileResponse parsers payload b = .ok () b1 := fun tile hb hp => by
    obtain ⟨hlt, hmod⟩ := hoff hb
    rcases saveTileAndNotify_cases tile payload ((getFirstLine payload).length + 1)
      (payload.length - ((getFirstLine payload).length + 1)) b with ⟨-, -, b1, h⟩ | ⟨hbad, -⟩
    · refine ⟨hlt, b1, h, ?_⟩
      simp only [handleTileResponse, run_catchRaised, hb, ite_true, run_bind, hp, Except.mapError,
        ask, run_pure]
      rw [hmod, h]
    · rcases hbad with hbad | hbad
      · omega
      · simp [hbad] at ht
  refine ⟨?_, hnone, herr, fun tile hb hp => ?_⟩
  · cases hb : hasBody (getFirstLine payload) payload
    · exact ⟨b, hnone hb⟩
    · cases hp : parsers.parseTile ⟨getFirstLine payload⟩ with
      | error e => exact ⟨b, herr e hb hp⟩
      | ok tile =>
        obtain ⟨-, b1, -, h⟩ := hok tile hb hp
        exact ⟨b1, h⟩
  · obtain ⟨hlt, b1, hs, h⟩ := hok tile hb hp
    exact ⟨hlt, h.trans hs.symm⟩

/-- The document of one session, with its tile cache, gets a `tile:` frame carrying its PNG
data: the cache gets the three bytes after the first line. -/
theorem tile_response_kept_in_frame :
    ∃ (b : DocumentBroker) (parsers : TileParsers) (payload : List Char),
      payload ≠ [] ∧ payload.length < 2 ^ 64 ∧ b.tileCache.isSome = true ∧
      hasBody (getFirstLine payload) payload = true ∧
      payload.length - ((getFirstLine payload).length + 1) = 3 ∧
      ((∃ b', handleTileResponse parsers payload b = .ok () b') ∧
        (hasBody (getFirstLine payload) payload = false →
          handleTileResponse parsers payload b = .ok () b) ∧
        (∀ e, hasBody (getFirstLine payload) payload = true →
          parsers.parseTile ⟨getFirstLine payload⟩ = .error e →
            handleTileResponse parsers payload b = .ok () b) ∧
        ∀ tile, hasBody (getFirstLine payload) payload = true →
          parsers.parseTile ⟨getFirstLine payload⟩ = .ok tile →
            (getFirstLine payload).length + 1 < payload.length ∧
            handleTileResponse parsers payload b =
              saveTileAndNotify tile payload ((getFirstLine payload).length + 1)
                (payload.length - ((getFirstLine payload).length + 1)) b) := by
  let cfg : Settings := ⟨30000, 30000, 300000, true, true, false⟩
  let s : ClientSession := ⟨"a", false, false, true, false, "", "file:///doc.odt", [], "u", "U"⟩
  let b0 := DocumentBroker.init cfg "k" "d" "j" 0 0
  let b := (run cfg b0 [.addSession s localDocLoad]).getD b0
  let t : TileDesc := ⟨0, 256, 256, 0, 0, 3840, 3840, 0, 3, false⟩
  let parsers : TileParsers := ⟨fun _ => .ok t, fun _ => .ok [t]⟩
  let payload := ("tile: part=0 width=256 height=256 tileposx=0 tileposy=0 " ++
    "tilewidth=3840 tileheight=3840\nPNG").data
  exact ⟨b, parsers, payload, by decide, by decide, by decide, by decide, by decide,
    handleTileResponse_in_bounds parsers payload (by decide) (by decide) b (by decide)⟩

/-- INTERNAL: a frame whose first token is not empty and holds no `-` has no forward token, and
its data is the whole frame. -/
theorem forwardData_of_plain {payload : List Char} (hne : firstToken payload ≠ "")
    (hd : '-' ∉ (firstToken payload).data) :
    forwardToken payload = "" ∧ forwardData payload = payload := by
  have hf : forwardToken payload = "" := by simp [forwardToken, hd]
  refine ⟨hf, ?_⟩
  cases payload with
  | nil => exact absurd rfl hne
  | cons c rest =>
    have hc : c ≠ ' ' := by
      rintro rfl
      exact hne (by simp [firstToken, getFirstLine])
    simp [forwardData, hf, hc]

/-- INTERNAL: a frame whose first token is `tilecombine:` goes to
`handleTileCombinedResponse`. Source: `DocumentBroker.cpp:1138-1187`. -/
theorem handleInput_tilecombine (parsers : TileParsers) (payload : List Char)
    (h : firstToken payload = "tilecombine:") :
    handleInput parsers payload = (handleTileCombinedResponse parsers payload >>= fun _ => pure true) := by
  obtain ⟨hf, hd⟩ := forwardData_of_plain (by rw [h]; decide) (by rw [h]; decide)
  simp [handleInput, hf, hd, h]

/-- **A `tilecombine:` frame shorter than it declares faults** (a defect). On the document of
one session, the kit answers a render request with a `tilecombine:` frame declaring one tile
of 100 bytes but carrying one byte after its first line: `handleInput` reads past the end of
the frame instead of dropping it. -/
theorem tilecombine_overrun_faults :
    ∃ (cfg : Settings) (b : DocumentBroker) (parsers : TileParsers) (payload : List Char)
      (t : TileDesc), Reachable cfg b ∧ b.tileCache.isSome = true ∧
      firstToken payload = "tilecombine:" ∧
      parsers.parseTileCombined ⟨getFirstLine payload⟩ = .ok [t] ∧ t.imgSize = 100 ∧
      payload.length = (getFirstLine payload).length + 2 ∧
      step cfg b (.kitInput parsers payload) = none := by
  let cfg : Settings := ⟨30000, 30000, 300000, true, true, false⟩
  let s : ClientSession := ⟨"a", false, false, true, false, "", "file:///doc.odt", [], "u", "U"⟩
  let b0 := DocumentBroker.init cfg "k" "d" "j" 0 0
  let b := (run cfg b0 [.addSession s localDocLoad]).getD b0
  have hr : Reachable cfg b :=
    (Reachable.init "k" "d" "j" 0 0).run
      (show run cfg b0 [.addSession s localDocLoad] = some b from rfl)
  let t : TileDesc := ⟨0, 256, 256, 0, 0, 3840, 3840, 0, 100, false⟩
  let parsers : TileParsers := ⟨fun _ => .error "", fun _ => .ok [t]⟩
  let payload := ("tilecombine: part=0 width=256 height=256 tileposx=0 tileposy=0 " ++
    "tilewidth=3840 tileheight=3840 imgsize=100\nX").data
  have hf : firstToken payload = "tilecombine:" := by decide
  have hlen : payload.length = (getFirstLine payload).length + 2 := by decide
  have hstep : step cfg b (.kitInput parsers payload) = none := by
    rw [step, Event.call, settle_bind_pure, handleInput_tilecombine parsers payload hf,
      settle_bind_pure]
    refine handleTileCombinedResponse_overrun parsers payload [t] (by decide) rfl
      ⟨_, List.mem_singleton_self _, ?_⟩ b
    simp only [combinedRanges, sizeT]
    omega
  exact ⟨cfg, b, parsers, payload, t, hr, by decide, hf, rfl, rfl, hlen, hstep⟩

/-! ## Render requests -/

/-- The render requests for the tile `k` that a frame to the kit carries. -/
def rendersOf (k : TileKey) : KitMessage → Nat
  | .tile t => if t.key = k then 1 else 0
  | .tileCombine ts => ts.countP fun t => t.key = k
  | _ => 0

/-- The render requests for the tile `k` among the frames sent to the kit. -/
def renderRequests (k : TileKey) : List KitMessage → Nat
  | [] => 0
  | m :: ms => rendersOf k m + renderRequests k ms

@[simp] theorem renderRequests_append (k : TileKey) (ms ms' : List KitMessage) :
    renderRequests k (ms ++ ms') = renderRequests k ms + renderRequests k ms' := by
  induction ms with
  | nil => simp [renderRequests]
  | cons m ms ih => simp [renderRequests, ih, Nat.add_assoc]

@[simp] theorem renderRequests_singleton (k : TileKey) (m : KitMessage) :
    renderRequests k [m] = rendersOf k m := by
  simp [renderRequests]

@[simp] theorem TileCache.subscribe_tiles (tc : TileCache) (k : TileKey) (s : String) :
    (tc.subscribe k s).tiles = tc.tiles := by
  unfold TileCache.subscribe
  split <;> rfl

/-- INTERNAL: the loop of `handleTileCombinedRequest` sends nothing to the kit, keeps the
cached tiles, and returns the tiles it did not find in the cache, in order.
Source: `DocumentBroker.cpp:1261-1296`. -/
theorem combinedEach_spec (sid : String) :
    ∀ (tiles : List TileDesc) (b : DocumentBroker) (tc : TileCache), b.tileCache = some tc →
      ∃ ts b', combinedEach sid tiles b = .ok ts b' ∧ b'.toKit = b.toKit ∧
        ts.map TileDesc.key = (tiles.filter fun t => (tc.lookupTile t.key).isNone).map TileDesc.key ∧
        (b'.tileCache.map TileCache.tiles) = some tc.tiles
  | [], b, tc, h => ⟨[], b, rfl, rfl, rfl, by simp [h]⟩
  | t :: rest, b, tc, h => by
    cases hl : tc.lookupTile t.key with
    | some png =>
      obtain ⟨ts, b', h1, h2, h3, h4⟩ := combinedEach_spec sid rest
        { b with toClients := b.toClients ++ [(sid, .tile t png)] } tc h
      refine ⟨ts, b', ?_, h2, by simp [hl, h3], h4⟩
      simpa [combinedEach, tileCache, h, hl, sendToClient] using h1
    | none =>
      obtain ⟨ts, b', h1, h2, h3, h4⟩ := combinedEach_spec sid rest
        { b with tileVersion := b.tileVersion + 1, tileCache := some (tc.subscribe t.key sid) }
        (tc.subscribe t.key sid) rfl
      refine ⟨{ t with version := b.tileVersion + 1 } :: ts, b', ?_, h2, ?_, by simpa using h4⟩
      · simp [combinedEach, tileCache, h, hl, updateTileCache, h1]
      · have hl' : tc.tiles.lookup t.key = none := hl
        simp [TileCache.lookupTile, hl', h3]

/-- INTERNAL: a tile request sends one render request when the tile is not in the cache, and
none when it is. Source: `DocumentBroker.cpp:1195-1250`. -/
theorem handleTileRequest_renders (tile : TileDesc) (sid : String) (b : DocumentBroker)
    (tc : TileCache) (htc : b.tileCache = some tc) (k : TileKey) :
    ∃ b', handleTileRequest tile sid b = .ok () b' ∧
      renderRequests k b'.toKit = renderRequests k b.toKit +
        if (tc.lookupTile tile.key).isNone ∧ tile.key = k then 1 else 0 := by
  obtain ⟨b', hb'⟩ := handleTileRequest_ok tile sid (b := b) (by simp [htc])
  refine ⟨b', hb', ?_⟩
  simp only [handleTileRequest, tileCache, run_bind, run_get, run_modify, htc, run_pure,
    TileDesc.key_version] at hb'
  cases hl : tc.lookupTile tile.key with
  | some png =>
    simp only [hl, sendToClient, run_modify, EStateM.Result.ok.injEq] at hb'
    simp [← hb'.2]
  | none =>
    cases hbc : tile.broadcast <;>
      simp only [hl, hbc, sendToKit, updateTileCache, run_bind, run_modify, ite_true,
        Bool.false_eq_true, ite_false, EStateM.Result.ok.injEq] at hb' <;>
      simp [← hb'.2, rendersOf, TileDesc.key]

/-- INTERNAL: a tilecombine request sends one render request per tile it lists that is not in
the cache. Source: `DocumentBroker.cpp:1252-1308`. -/
theorem handleTileCombinedRequest_renders (tiles : List TileDesc) (sid : String)
    (b : DocumentBroker) (tc : TileCache) (htc : b.tileCache = some tc) (k : TileKey) :
    ∃ b', handleTileCombinedRequest tiles sid b = .ok () b' ∧
      renderRequests k b'.toKit = renderRequests k b.toKit +
        (tiles.filter fun t => (tc.lookupTile t.key).isNone).countP fun t => t.key = k := by
  obtain ⟨ts, b1, h1, h2, h3, -⟩ := combinedEach_spec sid tiles b tc htc
  have hc : ts.countP (fun t => t.key = k) =
      (tiles.filter fun t => (tc.lookupTile t.key).isNone).countP fun t => t.key = k := by
    have := congrArg (List.countP fun x => decide (x = k)) h3
    simpa [List.countP_map] using this
  cases hts : ts with
  | nil =>
    refine ⟨b1, by simp [handleTileCombinedRequest, h1, hts], ?_⟩
    simp [h2, ← hc, hts]
  | cons t rest =>
    refine ⟨{ b1 with toKit := b1.toKit ++ [.tileCombine ts] }, ?_, ?_⟩
    · simp [handleTileCombinedRequest, h1, hts, sendToKit]
    · simp [h2, ← hc, rendersOf]

/-- **The broker sends one render request per cache miss.** With a tile cache, a tile request
sends a render request for its tile exactly when the tile is not cached, and a tilecombine
request one per listed tile that is not cached, whatever renders are already in flight. -/
theorem render_requests_per_miss (b : DocumentBroker) (tc : TileCache)
    (htc : b.tileCache = some tc) (sid : String) (k : TileKey) :
    (∀ tile, ∃ b', handleTileRequest tile sid b = .ok () b' ∧
      renderRequests k b'.toKit = renderRequests k b.toKit +
        if (tc.lookupTile tile.key).isNone ∧ tile.key = k then 1 else 0) ∧
    (∀ tiles, ∃ b', handleTileCombinedRequest tiles sid b = .ok () b' ∧
      renderRequests k b'.toKit = renderRequests k b.toKit +
        (tiles.filter fun t => (tc.lookupTile t.key).isNone).countP fun t => t.key = k) :=
  ⟨fun tile => handleTileRequest_renders tile sid b tc htc k,
    fun tiles => handleTileCombinedRequest_renders tiles sid b tc htc k⟩

/-- The document of one session, with its empty tile cache: every request there is a miss. -/
theorem render_requests_per_miss_local :
    ∃ (b : DocumentBroker) (tc : TileCache), b.tileCache = some tc ∧
      ∀ sid k, (∀ tile, ∃ b', handleTileRequest tile sid b = .ok () b' ∧
        renderRequests k b'.toKit = renderRequests k b.toKit +
          if (tc.lookupTile tile.key).isNone ∧ tile.key = k then 1 else 0) ∧
      (∀ tiles, ∃ b', handleTileCombinedRequest tiles sid b = .ok () b' ∧
        renderRequests k b'.toKit = renderRequests k b.toKit +
          (tiles.filter fun t => (tc.lookupTile t.key).isNone).countP fun t => t.key = k) := by
  let cfg : Settings := ⟨30000, 30000, 300000, true, true, false⟩
  let s : ClientSession := ⟨"a", false, false, true, false, "", "file:///doc.odt", [], "u", "U"⟩
  let b0 := DocumentBroker.init cfg "k" "d" "j" 0 0
  let b := (run cfg b0 [.addSession s localDocLoad]).getD b0
  have htc : b.tileCache = some ⟨false, [], []⟩ := rfl
  exact ⟨b, _, htc, fun sid k => render_requests_per_miss b _ htc sid k⟩

/-- **Two requests for one tile, two renders in flight.** Two sessions open a local document
and ask for the same tile, with no response from the kit in between: the kit has two render
requests for the tile outstanding. -/
theorem same_tile_rendered_twice :
    ∃ (cfg : Settings) (s1 s2 : ClientSession) (t : TileDesc) (b : DocumentBroker),
      s1.id ≠ s2.id ∧
      run cfg (DocumentBroker.init cfg "k" "d" "j" 0 0)
        [.addSession s1 localDocLoad, .addSession s2 localDocLoad,
          .tileRequest t s1.id, .tileRequest t s2.id] = some b ∧
      renderRequests t.key b.toKit = 2 := by
  let cfg : Settings := ⟨30000, 30000, 300000, true, true, false⟩
  let s1 : ClientSession := ⟨"a", false, false, true, false, "", "file:///doc.odt", [], "u", "U"⟩
  let s2 : ClientSession := ⟨"b", false, false, true, false, "", "file:///doc.odt", [], "u", "U"⟩
  let t : TileDesc := ⟨0, 256, 256, 0, 0, 3840, 3840, 0, 0, false⟩
  let b0 := DocumentBroker.init cfg "k" "d" "j" 0 0
  let es := [Event.addSession s1 localDocLoad, .addSession s2 localDocLoad,
    .tileRequest t s1.id, .tileRequest t s2.id]
  exact ⟨cfg, s1, s2, t, (run cfg b0 es).getD b0, by decide, rfl, by decide⟩

end Loolwsd.Analysis
