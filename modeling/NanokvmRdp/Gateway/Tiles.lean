import NanokvmRdp.Gateway.FrameFlow

/-!
# Sending an image in tiles

The pixels of a frame reach the client tile by tile. `send_progressive_frame`
sends the tiles that changed in one go. `send_classic_bitmap_frame` is to send a
slice of them and to leave off anywhere, with a resume position; but it packs the
tiles into `classic_encoded`, which nothing allocates, and fails without it.
-/

namespace NanokvmRdp.Gateway

-- ---------------------------------------------------------------------------
-- Pixels and tiles
-- ---------------------------------------------------------------------------

structure Pixel where
  blue : UInt8
  green : UInt8
  red : UInt8
  deriving DecidableEq, Repr

abbrev Image := Nat → Nat → Pixel

abbrev Screen := Nat → Nat → Option Pixel

def Screen.Shows (screen : Screen) (width height : Nat) (image : Image) : Prop :=
  ∀ x < width, ∀ y < height, screen x y = some (image x y)

structure Tile where
  left : Nat
  top : Nat
  columns : Nat
  rows : Nat
  deriving DecidableEq, Repr

namespace Tile

def Covers (tile : Tile) (x y : Nat) : Prop :=
  tile.left ≤ x ∧ x < tile.left + tile.columns ∧ tile.top ≤ y ∧ y < tile.top + tile.rows

instance (tile : Tile) (x y : Nat) : Decidable (tile.Covers x y) :=
  inferInstanceAs (Decidable (_ ∧ _ ∧ _ ∧ _))

/-- `classic_tile_copy`, and what the client does with a rectangle. -/
def paint (tile : Tile) (new old : Nat → Nat → α) : Nat → Nat → α := fun x y =>
  if tile.Covers x y then new x y else old x y

theorem paint_of_covers {tile : Tile} (h : tile.Covers x y) (new old : Nat → Nat → α) :
    tile.paint new old x y = new x y := if_pos h

theorem paint_of_not_covers {tile : Tile} (h : ¬ tile.Covers x y) (new old : Nat → Nat → α) :
    tile.paint new old x y = old x y := if_neg h

end Tile

/-- `CLASSIC_TILE_WIDTH` and `CLASSIC_TILE_HEIGHT`, and the tiles of the
Progressive codec. -/
def tileSize : Nat := 64

def tileAt (width height left top : Nat) : Tile where
  left := left
  top := top
  columns := min tileSize (width - left)
  rows := min tileSize (height - top)

def bitmapTileChanged (previous current : Image) (tile : Tile) : Bool :=
  (List.range tile.rows).any fun row =>
    (List.range tile.columns).any fun column =>
      decide (previous (tile.left + column) (tile.top + row) ≠
        current (tile.left + column) (tile.top + row))

theorem eq_of_not_changed {previous current : Image} {tile : Tile}
    (h : bitmapTileChanged previous current tile = false) (hcovers : tile.Covers x y) :
    previous x y = current x y := by
  obtain ⟨hleft, hright, htop, hbottom⟩ := hcovers
  simp only [bitmapTileChanged, List.any_eq_false, List.mem_range, Bool.not_eq_true,
    decide_eq_false_iff_not, not_not] at h
  have hpixel := h (y - tile.top) (by omega) (x - tile.left) (by omega)
  rwa [Nat.add_sub_cancel' hleft, Nat.add_sub_cancel' htop] at hpixel

-- ---------------------------------------------------------------------------
-- The client
-- ---------------------------------------------------------------------------

/-- The answers behind `client_output_write_ready`: is the peer connected, is
its socket blocked, and both again after the output was drained. -/
structure WriteProbe where
  connected : Bool := true
  blocked : Bool := false
  connectedAfter : Bool := true
  blockedAfter : Bool := false
  deriving DecidableEq, Repr

def clientOutputWriteReady (probe : WriteProbe) : Bool :=
  probe.connected && (!probe.blocked || (probe.connectedAfter && !probe.blockedAfter))

structure BitmapClient where
  width : Nat
  height : Nat
  maxUpdateSize : Nat
  previousBitmap : Image
  previousBitmapValid : Bool := false
  /-- `classic_encoded` is set. -/
  classicEncoded : Bool := false
  classicResumeLeft : Nat := 0
  classicResumeTop : Nat := 0
  classicFrameOpen : Bool := false
  flow : FrameFlow := {}
  nextFrameId : UInt32 := 0
  screen : Screen := fun _ _ => none
  width_pos : 0 < width

-- ---------------------------------------------------------------------------
-- Progressive
-- ---------------------------------------------------------------------------

def progressiveTiles (width height : Nat) : List Tile :=
  (List.range ((height + 63) / tileSize)).flatMap fun tileY =>
    (List.range ((width + 63) / tileSize)).map fun tileX =>
      tileAt width height (tileX * tileSize) (tileY * tileSize)

inductive Compressed where
  | failed
  | nothing
  | data
  deriving DecidableEq, Repr

structure ProgressiveAnswers where
  encoded : Compressed := .data
  now : UInt64 := 0
  submitted : Bool := true

namespace BitmapClient

def shows (client : BitmapClient) (image : Image) : Prop :=
  client.screen.Shows client.width client.height image

def changedTiles (client : BitmapClient) (image : Image) : List Tile :=
  (progressiveTiles client.width client.height).filter fun tile =>
    !client.previousBitmapValid || bitmapTileChanged client.previousBitmap image tile

/-- `none` where the function returns false. -/
def sendProgressiveFrame (client : BitmapClient) (image : Image) (answers : ProgressiveAnswers) :
    Option BitmapClient :=
  let changed := client.changedTiles image
  if changed = [] then some client
  else
    match answers.encoded with
    | .failed => none
    | .nothing => some client
    | .data =>
      match client.flow.sent client.nextFrameId answers.now with
      | (false, _) => none
      | (true, flow) =>
        if answers.submitted then
          some { client with
            flow
            nextFrameId := client.nextFrameId + 1
            screen := changed.foldl (fun screen tile => tile.paint (fun x y => some (image x y)) screen)
              client.screen
            previousBitmap := image
            previousBitmapValid := true }
        else none

end BitmapClient

-- ---------------------------------------------------------------------------
-- Classic
-- ---------------------------------------------------------------------------

def classicTileMaxEncoded : Nat := tileSize * tileSize * 2
def classicBitmapBatch : Nat := 1
def classicSliceBudgetMs : UInt64 := 4

/-- What a turn of the loop over the tiles is told: the clock, how the update
that ran full ended and whether the output is ready after it, how the batch
was written and whether the output is blocked after it. -/
structure TileAnswer where
  now : UInt64 := 0
  wroteFull : Bool := true
  full : WriteProbe := {}
  wrote : Bool := true
  blocked : Bool := false

structure SliceAnswers where
  startedAt : UInt64 := 0
  probe : WriteProbe := {}
  /-- The answers at the tile in this column and row. -/
  tile : Nat → Nat → TileAnswer := fun _ _ => {}
  wroteRest : Bool := true

/-- `rectangles` are packed and not written yet. -/
structure Slice where
  previous : Image
  screen : Screen
  rectangles : List Tile := []
  updateSize : Nat := 1024
  frameTiles : Nat := 0

namespace Slice

def drawn (slice : Slice) (image : Image) : Screen :=
  slice.rectangles.foldl (fun screen tile => tile.paint (fun x y => some (image x y)) screen)
    slice.screen

def written (slice : Slice) (image : Image) : Slice :=
  { slice with screen := slice.drawn image, rectangles := [], updateSize := 1024 }

def pack (slice : Slice) (image : Image) (tile : Tile) : Slice :=
  { slice with
    previous := tile.paint image slice.previous
    rectangles := slice.rectangles ++ [tile]
    updateSize := slice.updateSize + tile.columns * tile.rows * 2 + 16
    frameTiles := slice.frameTiles + 1 }

end Slice

inductive SliceEnd where
  | failed
  | yielded (left top : Nat) (slice : Slice)
  | finished (slice : Slice)

def nextTile (width left top : Nat) : Nat × Nat :=
  if left + tileSize < width then (left + tileSize, top) else (0, top + tileSize)

namespace BitmapClient

/-- The end of a turn: the tile is packed, and a full batch written. -/
def packTile (client : BitmapClient) (image : Image) (answer : TileAnswer) (left top : Nat)
    (slice : Slice) : SliceEnd :=
  let slice := slice.pack image (tileAt client.width client.height left top)
  if slice.rectangles.length = classicBitmapBatch then
    if !answer.wrote then .failed
    else if answer.blocked then
      .yielded (nextTile client.width left top).1 (nextTile client.width left top).2 (slice.written image)
    else .finished (slice.written image)
  else .finished slice

def tileTurn (client : BitmapClient) (image : Image) (startedAt : UInt64) (answer : TileAnswer)
    (left top : Nat) (slice : Slice) : SliceEnd :=
  let tile := tileAt client.width client.height left top
  let encodedLength := tile.columns * tile.rows * 2
  if 1 ≤ slice.frameTiles ∧ answer.now - startedAt ≥ classicSliceBudgetMs then .yielded left top slice
  else if client.previousBitmapValid && !bitmapTileChanged slice.previous image tile then .finished slice
  else if encodedLength = 0 ∨ encodedLength > classicTileMaxEncoded then .failed
  else if slice.rectangles ≠ [] ∧ slice.updateSize + encodedLength + 16 ≥ client.maxUpdateSize then
    if !answer.wroteFull then .failed
    else if !clientOutputWriteReady answer.full then .yielded left top (slice.written image)
    else client.packTile image answer left top (slice.written image)
  else client.packTile image answer left top slice

def turnsLeft (client : BitmapClient) (left top : Nat) : Nat :=
  (client.height - top) * (client.width + 1) + (client.width - left)

theorem turnsLeft_nextTile (client : BitmapClient) (left : Nat) {top : Nat} (htop : top < client.height) :
    client.turnsLeft (nextTile client.width left top).1 (nextTile client.width left top).2 <
      client.turnsLeft left top := by
  unfold turnsLeft nextTile tileSize
  split
  · simp only
    omega
  · obtain ⟨k, hk⟩ : ∃ k, client.height - top = k + 1 := ⟨client.height - top - 1, by omega⟩
    have hrows : client.height - (top + 64) ≤ k := by omega
    have hmul := Nat.mul_le_mul_right (client.width + 1) hrows
    simp only [hk, Nat.succ_mul]
    omega

/-- The two loops over the tiles, from a position on. -/
def tileLoop (client : BitmapClient) (image : Image) (answers : SliceAnswers) (left top : Nat)
    (slice : Slice) : SliceEnd :=
  if client.height ≤ top then .finished slice
  else
    match client.tileTurn image answers.startedAt (answers.tile left top) left top slice with
    | .failed => .failed
    | .yielded left top slice => .yielded left top slice
    | .finished slice =>
      client.tileLoop image answers (nextTile client.width left top).1 (nextTile client.width left top).2
        slice
termination_by client.turnsLeft left top
decreasing_by exact client.turnsLeft_nextTile left (Nat.not_le.mp ‹_›)

def endSlice (client : BitmapClient) (image : Image) (wroteRest : Bool) (slice : Slice) :
    Option BitmapClient :=
  if slice.rectangles ≠ [] ∧ wroteRest = false then none
  else some { client with previousBitmap := slice.previous, screen := slice.drawn image }

/-- `none` where the function returns false. -/
def sendClassicBitmapFrame (client : BitmapClient) (image : Image) (answers : SliceAnswers) :
    Option BitmapClient :=
  if !client.classicEncoded then none
  else if !clientOutputWriteReady answers.probe then some { client with classicFrameOpen := true }
  else
    match client.tileLoop image answers client.classicResumeLeft client.classicResumeTop
      { previous := client.previousBitmap, screen := client.screen } with
    | .failed => none
    | .yielded left top slice =>
      (client.endSlice image answers.wroteRest slice).map fun client =>
        { client with classicResumeLeft := left, classicResumeTop := top, classicFrameOpen := true }
    | .finished slice =>
      (client.endSlice image answers.wroteRest slice).map fun client =>
        { client with
          classicResumeLeft := 0
          classicResumeTop := 0
          classicFrameOpen := false
          previousBitmapValid := client.previousBitmapValid || decide (0 < slice.frameTiles) }

end BitmapClient

end NanokvmRdp.Gateway
