import NanokvmRdp.Gateway.TileLaws
import NanokvmRdp.Lib.Machine

/-!
# Progressive frames, byte by byte

`send_progressive_frame` and `bitmap_tile_changed` in the types of the source:
16-bit positions, a bitmap of four bytes a pixel, and a copy of the last frame
that may be missing. The tiles are those of `progressiveTiles`, none of their
16-bit numbers wraps, and a frame that was sent is what the client shows.
-/

namespace NanokvmRdp.Gateway.Progressive

/-- Four bytes a pixel, row by row; the fourth is padding. -/
abbrev Bitmap := List UInt8

/-- The values of `for (uint16_t i = 0; i < n; i++)`. -/
def counter (n : UInt16) : List UInt16 := (List.range n.toNat).map UInt16.ofNat

/-- A tile, and the corner that `RECTANGLE_16` adds. -/
structure TileRect where
  left : UInt16
  top : UInt16
  columns : UInt16
  rows : UInt16
  deriving DecidableEq, Repr

namespace TileRect

def right (rect : TileRect) : UInt16 := (rect.left.toUInt32 + rect.columns.toUInt32).toUInt16

def bottom (rect : TileRect) : UInt16 := (rect.top.toUInt32 + rect.rows.toUInt32).toUInt16

def Covers (rect : TileRect) (x y : Nat) : Prop :=
  rect.left.toNat ≤ x ∧ x < rect.right.toNat ∧ rect.top.toNat ≤ y ∧ y < rect.bottom.toNat

instance (rect : TileRect) (x y : Nat) : Decidable (rect.Covers x y) :=
  inferInstanceAs (Decidable (_ ∧ _ ∧ _ ∧ _))

def tile (rect : TileRect) : Tile where
  left := rect.left.toNat
  top := rect.top.toNat
  columns := rect.columns.toNat
  rows := rect.rows.toNat

end TileRect

def tileCount (size : UInt16) : UInt16 := ((size.toUInt32 + 63) / 64).toUInt16

def tileStart (index : UInt16) : UInt16 := (index.toUInt32 * 64).toUInt16

def tileExtent (size start : UInt16) : UInt16 :=
  if start.toUInt32 + 64 > size.toUInt32 then size - start else 64

def tileRect (width height tileX tileY : UInt16) : TileRect where
  left := tileStart tileX
  top := tileStart tileY
  columns := tileExtent width (tileStart tileX)
  rows := tileExtent height (tileStart tileY)

def tileRects (width height : UInt16) : List TileRect :=
  (counter (tileCount height)).flatMap fun tileY =>
    (counter (tileCount width)).map fun tileX => tileRect width height tileX tileY

def bitmapTileChanged (previous : Option Bitmap) (current : Bitmap) (width : UInt16)
    (rect : TileRect) : Bool :=
  match previous with
  | none => true
  | some previous =>
    (counter rect.rows).any fun row =>
      let offset := ((rect.top.toNat + row.toNat) * width.toNat + rect.left.toNat) * 4
      (counter rect.columns).any fun column =>
        let pixel := offset + column.toNat * 4
        previous.getD pixel 0 != current.getD pixel 0 ||
          previous.getD (pixel + 1) 0 != current.getD (pixel + 1) 0 ||
          previous.getD (pixel + 2) 0 != current.getD (pixel + 2) 0

structure Client where
  width : UInt16
  height : UInt16
  previousBitmap : Option Bitmap := none
  previousBitmapLength : Nat := 0
  previousBitmapValid : Bool := false
  nextFrameId : UInt32 := 0
  screen : Screen := fun _ _ => none

/-- What a call finds: whether the codec and the channel are there and the client is to stop, the
memory that `malloc` returns, the unions of the region, the flow as the acknowledgements have left
it, and the ends of compression and submission. -/
structure Answers where
  ready : Bool := true
  shouldStop : Bool := false
  memory : Option (Nat → UInt8) := some fun _ => 0
  united : Bool := true
  encoded : Compressed := .data
  flow : FrameFlow := {}
  now : UInt64 := 0
  submitted : Bool := true

namespace Client

def expectedLength (client : Client) : Nat := client.width.toNat * client.height.toNat * 4

/-- The copy of the last frame is allocated once. -/
def allocate (client : Client) (memory : Option (Nat → UInt8)) : Client :=
  match client.previousBitmap, memory with
  | none, some memory =>
    { client with
      previousBitmap := some ((List.range client.expectedLength).map memory)
      previousBitmapLength := client.expectedLength }
  | none, none => { client with previousBitmapLength := 0 }
  | some _, _ => client

def stored (client : Client) : Option Bitmap :=
  if client.previousBitmapValid && client.previousBitmapLength == client.expectedLength then
    client.previousBitmap
  else none

def changedTiles (client : Client) (bgra : Bitmap) : List TileRect :=
  (tileRects client.width client.height).filter fun rect =>
    !(client.stored.isSome && !bitmapTileChanged client.stored bgra client.width rect)

def remember (client : Client) (bgra : Bitmap) : Client :=
  if client.previousBitmap.isSome && client.previousBitmapLength == client.expectedLength then
    { client with previousBitmap := some bgra, previousBitmapValid := true }
  else client

end Client

/-- What the codec and the client make of a bitmap and a region. -/
abbrev Draw := UInt16 → UInt16 → Bitmap → List TileRect → Screen → Screen

/-- `none` where the function returns false. -/
def sendProgressiveFrame (draw : Draw) (client : Client) (bgra : Bitmap) (answers : Answers) :
    Option Client :=
  if !answers.ready || bgra.length != client.expectedLength || answers.shouldStop then none
  else
    let client := client.allocate answers.memory
    let changed := client.changedTiles bgra
    if changed = [] then some client
    else if !answers.united then none
    else
      match answers.encoded with
      | .failed => none
      | .nothing => some client
      | .data =>
        if (answers.flow.sent client.nextFrameId answers.now).1 && answers.submitted then
          some ({ client with
            nextFrameId := client.nextFrameId + 1
            screen := draw client.width client.height bgra changed client.screen }.remember bgra)
        else none

-- ---------------------------------------------------------------------------
-- Tiles
-- ---------------------------------------------------------------------------

theorem toNat_ofNat {n : Nat} (h : n < 65536) : (UInt16.ofNat n).toNat = n :=
  UInt16.toNat_ofNat_of_lt' h

theorem mem_counter {n i : UInt16} : i ∈ counter n ↔ i.toNat < n.toNat := by
  simp only [counter, List.mem_map, List.mem_range]
  constructor
  · rintro ⟨k, hk, rfl⟩
    rwa [toNat_ofNat (Nat.lt_trans hk n.toNat_lt)]
  · exact fun hi => ⟨i.toNat, hi, UInt16.ofNat_toNat⟩

theorem toNat_tileCount (size : UInt16) : (tileCount size).toNat = (size.toNat + 63) / 64 := by
  have hsize := size.toNat_lt
  simp only [tileCount, UInt32.toNat_toUInt16, UInt32.toNat_div, UInt32.toNat_add,
    UInt16.toNat_toUInt32, UInt32.reduceToNat]
  omega

structure AxisExact (size index : UInt16) : Prop where
  start : (tileStart index).toNat = index.toNat * 64
  extent : (tileExtent size (tileStart index)).toNat = min 64 (size.toNat - index.toNat * 64)
  stop : ((tileStart index).toUInt32 + (tileExtent size (tileStart index)).toUInt32).toUInt16.toNat =
    index.toNat * 64 + min 64 (size.toNat - index.toNat * 64)

theorem axisExact {size index : UInt16} (h : index ∈ counter (tileCount size)) :
    AxisExact size index := by
  have hsize := size.toNat_lt
  rw [mem_counter, toNat_tileCount] at h
  have hstart : (tileStart index).toNat = index.toNat * 64 := by
    simp only [tileStart, UInt32.toNat_toUInt16, UInt32.toNat_mul, UInt16.toNat_toUInt32,
      UInt32.reduceToNat]
    omega
  have hextent : (tileExtent size (tileStart index)).toNat =
      min 64 (size.toNat - index.toNat * 64) := by
    have hwide : (tileStart index).toUInt32 + 64 > size.toUInt32 ↔
        size.toNat < index.toNat * 64 + 64 := by
      simp only [gt_iff_lt, UInt32.lt_iff_toNat_lt, UInt32.toNat_add, UInt16.toNat_toUInt32, hstart,
        UInt32.reduceToNat]
      omega
    have hinside : tileStart index ≤ size := UInt16.le_iff_toNat_le.mpr (by omega)
    simp only [tileExtent, hwide]
    split
    · rw [UInt16.toNat_sub_of_le _ _ hinside, hstart]
      omega
    · simp only [UInt16.reduceToNat]
      omega
  refine ⟨hstart, hextent, ?_⟩
  simp only [UInt32.toNat_toUInt16, UInt32.toNat_add, UInt16.toNat_toUInt32, hstart, hextent]
  omega

theorem tile_tileRect {width height tileX tileY : UInt16} (hx : tileX ∈ counter (tileCount width))
    (hy : tileY ∈ counter (tileCount height)) :
    (tileRect width height tileX tileY).tile =
      tileAt width.toNat height.toNat (tileX.toNat * tileSize) (tileY.toNat * tileSize) := by
  simp only [TileRect.tile, tileRect, tileAt, tileSize, (axisExact hx).start, (axisExact hy).start,
    (axisExact hx).extent, (axisExact hy).extent]

theorem covers_tileRect {width height tileX tileY : UInt16} (hx : tileX ∈ counter (tileCount width))
    (hy : tileY ∈ counter (tileCount height)) (x y : Nat) :
    (tileRect width height tileX tileY).Covers x y ↔
      (tileX.toNat = x / 64 ∧ x < width.toNat) ∧ tileY.toNat = y / 64 ∧ y < height.toNat := by
  have hright : (tileRect width height tileX tileY).right.toNat = _ := (axisExact hx).stop
  have hbottom : (tileRect width height tileX tileY).bottom.toNat = _ := (axisExact hy).stop
  have hleft : (tileRect width height tileX tileY).left.toNat = _ := (axisExact hx).start
  have htop : (tileRect width height tileX tileY).top.toNat = _ := (axisExact hy).start
  rw [TileRect.Covers, hright, hbottom, hleft, htop]
  omega

/-- Exactly one turn of the two loops comes to a pixel. -/
theorem covered_once {width height : UInt16} {x y : Nat} (hx : x < width.toNat)
    (hy : y < height.toNat) :
    ∃! index : UInt16 × UInt16, index.1 ∈ counter (tileCount width) ∧
      index.2 ∈ counter (tileCount height) ∧ (tileRect width height index.1 index.2).Covers x y := by
  have hw := width.toNat_lt
  have hh := height.toNat_lt
  have hcolumn : (UInt16.ofNat (x / 64)).toNat = x / 64 := toNat_ofNat (by omega)
  have hrow : (UInt16.ofNat (y / 64)).toNat = y / 64 := toNat_ofNat (by omega)
  have htileX : UInt16.ofNat (x / 64) ∈ counter (tileCount width) := by
    rw [mem_counter, toNat_tileCount, hcolumn]
    omega
  have htileY : UInt16.ofNat (y / 64) ∈ counter (tileCount height) := by
    rw [mem_counter, toNat_tileCount, hrow]
    omega
  refine ⟨(UInt16.ofNat (x / 64), UInt16.ofNat (y / 64)), ⟨htileX, htileY, ?_⟩, ?_⟩
  · exact (covers_tileRect htileX htileY x y).mpr ⟨⟨hcolumn, hx⟩, hrow, hy⟩
  · rintro ⟨tileX, tileY⟩ ⟨hmemX, hmemY, hcovers⟩
    obtain ⟨⟨hcolumn', -⟩, hrow', -⟩ := (covers_tileRect hmemX hmemY x y).mp hcovers
    rw [Prod.mk.injEq, ← UInt16.toNat_inj, ← UInt16.toNat_inj, hcolumn, hrow]
    exact ⟨hcolumn', hrow'⟩

theorem tile_covers {width height tileX tileY : UInt16} (hx : tileX ∈ counter (tileCount width))
    (hy : tileY ∈ counter (tileCount height))
    (h : (tileRect width height tileX tileY).Covers x y) :
    (tileRect width height tileX tileY).tile.Covers x y := by
  rw [covers_tileRect hx hy] at h
  rw [tile_tileRect hx hy]
  simp only [Tile.Covers, tileAt, tileSize]
  omega

theorem mem_tileRects {width height : UInt16} {rect : TileRect} :
    rect ∈ tileRects width height ↔ ∃ tileX ∈ counter (tileCount width),
      ∃ tileY ∈ counter (tileCount height), tileRect width height tileX tileY = rect := by
  simp only [tileRects, List.mem_flatMap, List.mem_map]
  constructor
  · rintro ⟨tileY, hy, tileX, hx, rfl⟩
    exact ⟨tileX, hx, tileY, hy, rfl⟩
  · rintro ⟨tileX, hx, tileY, hy, rfl⟩
    exact ⟨tileY, hy, tileX, hx, rfl⟩

-- ---------------------------------------------------------------------------
-- Pixels
-- ---------------------------------------------------------------------------

def imageOf (width : UInt16) (bitmap : Bitmap) : Image := fun x y =>
  let pixel := (y * width.toNat + x) * 4
  ⟨bitmap.getD pixel 0, bitmap.getD (pixel + 1) 0, bitmap.getD (pixel + 2) 0⟩

theorem any_counter (n : UInt16) {f : UInt16 → Bool} {g : Nat → Bool} (h : ∀ i, f i = g i.toNat) :
    (counter n).any f = (List.range n.toNat).any g := by
  rw [Bool.eq_iff_iff, List.any_eq_true, List.any_eq_true]
  constructor
  · rintro ⟨i, hi, hf⟩
    exact ⟨i.toNat, List.mem_range.mpr (mem_counter.mp hi), h i ▸ hf⟩
  · rintro ⟨k, hk, hg⟩
    rw [List.mem_range] at hk
    have hvalue := toNat_ofNat (Nat.lt_trans hk n.toNat_lt)
    refine ⟨UInt16.ofNat k, mem_counter.mpr (hvalue.symm ▸ hk), ?_⟩
    rw [h, hvalue]
    exact hg

theorem decide_ne_pixel (p q : Pixel) :
    decide (p ≠ q) = (p.blue != q.blue || p.green != q.green || p.red != q.red) := by
  rw [Bool.eq_iff_iff, decide_eq_true_iff, Ne, Pixel.mk.injEq]
  simp only [Bool.or_eq_true, bne_iff_ne, ne_eq]
  tauto

/-- The comparison of bytes is the comparison of pixels. -/
theorem bitmapTileChanged_some (previous current : Bitmap) (width : UInt16) (rect : TileRect) :
    bitmapTileChanged (some previous) current width rect =
      Gateway.bitmapTileChanged (imageOf width previous) (imageOf width current) rect.tile := by
  refine any_counter rect.rows fun row => any_counter rect.columns fun column => ?_
  have hpixel : ((rect.top.toNat + row.toNat) * width.toNat + rect.left.toNat) * 4 +
      column.toNat * 4 =
      ((rect.top.toNat + row.toNat) * width.toNat + (rect.left.toNat + column.toNat)) * 4 := by
    rw [← Nat.add_mul, Nat.add_assoc]
  have hdiffers := decide_ne_pixel
    (imageOf width previous (rect.left.toNat + column.toNat) (rect.top.toNat + row.toNat))
    (imageOf width current (rect.left.toNat + column.toNat) (rect.top.toNat + row.toNat))
  simp only [hpixel]
  exact hdiffers.symm

-- ---------------------------------------------------------------------------
-- One frame
-- ---------------------------------------------------------------------------

/-- The codec draws the frame in the region and leaves the rest of the screen alone. -/
structure Faithful (draw : Draw) : Prop where
  inside : ∀ width height bitmap region screen x y, (∃ rect ∈ region, rect.Covers x y) →
    draw width height bitmap region screen x y = some (imageOf width bitmap x y)
  outside : ∀ width height bitmap region screen x y, (∀ rect ∈ region, ¬ rect.Covers x y) →
    draw width height bitmap region screen x y = screen x y

namespace Client

def Shows (client : Client) (bitmap : Bitmap) : Prop :=
  client.screen.Shows client.width.toNat client.height.toNat (imageOf client.width bitmap)

/-- The frame to compare with, if there is one, is what the client shows. -/
structure Coherent (client : Client) : Prop where
  allocated : client.previousBitmap = none → client.previousBitmapValid = false
  shown : ∀ bitmap, client.stored = some bitmap → client.Shows bitmap

theorem mem_changedTiles {client : Client} {bgra : Bitmap} {rect : TileRect} :
    rect ∈ client.changedTiles bgra ↔ rect ∈ tileRects client.width client.height ∧
      ∀ previous, client.stored = some previous → Gateway.bitmapTileChanged
        (imageOf client.width previous) (imageOf client.width bgra) rect.tile = true := by
  rw [changedTiles, List.mem_filter]
  refine and_congr_right fun _ => ?_
  cases client.stored with
  | none => simp
  | some previous => simp [bitmapTileChanged_some]

/-- A pixel that the region leaves out is what it was in the frame before. -/
theorem exists_stored_of_not_covered {client : Client} {bgra : Bitmap}
    (hx : x < client.width.toNat) (hy : y < client.height.toNat)
    (h : ∀ rect ∈ client.changedTiles bgra, ¬ rect.Covers x y) :
    ∃ previous, client.stored = some previous ∧
      imageOf client.width previous x y = imageOf client.width bgra x y := by
  obtain ⟨⟨tileX, tileY⟩, ⟨hmemX, hmemY, hcovers⟩, -⟩ := covered_once hx hy
  have hskipped : tileRect client.width client.height tileX tileY ∉ client.changedTiles bgra :=
    fun hmem => h _ hmem hcovers
  have hmem : tileRect client.width client.height tileX tileY ∈
      tileRects client.width client.height := mem_tileRects.mpr ⟨tileX, hmemX, tileY, hmemY, rfl⟩
  rw [mem_changedTiles, not_and] at hskipped
  have hsame := hskipped hmem
  simp only [not_forall, Bool.not_eq_true] at hsame
  obtain ⟨previous, hstored, hunchanged⟩ := hsame
  exact ⟨previous, hstored, eq_of_not_changed hunchanged (tile_covers hmemX hmemY hcovers)⟩

theorem covered_of_ne {client : Client} {bgra previous : Bitmap} (h : client.stored = some previous)
    (hx : x < client.width.toNat) (hy : y < client.height.toNat)
    (hne : imageOf client.width previous x y ≠ imageOf client.width bgra x y) :
    ∃ rect ∈ client.changedTiles bgra, rect.Covers x y := by
  by_contra hnone
  simp only [not_exists, not_and] at hnone
  obtain ⟨other, hother, hsame⟩ := exists_stored_of_not_covered hx hy hnone
  rw [h, Option.some.injEq] at hother
  exact hne (hother ▸ hsame)

theorem stored_of_invalid {client : Client} (h : client.previousBitmapValid = false) :
    client.stored = none := by
  rw [stored, h, Bool.false_and]
  rfl

theorem allocate_fields (client : Client) (memory : Option (Nat → UInt8)) :
    (client.allocate memory).previousBitmapValid = client.previousBitmapValid ∧
      (client.allocate memory).screen = client.screen ∧
      (client.allocate memory).width = client.width ∧
      (client.allocate memory).height = client.height := by
  unfold allocate
  split <;> exact ⟨rfl, rfl, rfl, rfl⟩

theorem Coherent.allocate {client : Client} (h : client.Coherent) (memory : Option (Nat → UInt8)) :
    (client.allocate memory).Coherent ∧ (client.allocate memory).stored = client.stored := by
  cases hbitmap : client.previousBitmap with
  | some bitmap =>
    have hsame : client.allocate memory = client := by
      simp only [Client.allocate, hbitmap]
    rw [hsame]
    exact ⟨h, rfl⟩
  | none =>
    have hinvalid := h.allocated hbitmap
    have hinvalid' := (client.allocate_fields memory).1.trans hinvalid
    have hnone := stored_of_invalid hinvalid'
    refine ⟨⟨fun _ => hinvalid', fun bitmap hsome => ?_⟩, ?_⟩
    · rw [hnone] at hsome
      cases hsome
    · rw [hnone, stored_of_invalid hinvalid]

theorem remember_fields (client : Client) (bgra : Bitmap) :
    (client.remember bgra).screen = client.screen ∧ (client.remember bgra).width = client.width ∧
      (client.remember bgra).height = client.height := by
  unfold remember
  split <;> exact ⟨rfl, rfl, rfl⟩

theorem eq_of_stored_remember {client : Client} {bgra previous : Bitmap}
    (h : (client.remember bgra).stored = some previous) : previous = bgra := by
  unfold remember at h
  split at h
  · unfold stored at h
    split at h
    · exact (Option.some.inj h).symm
    · cases h
  · rename_i hlength
    unfold stored at h
    split at h
    · rename_i hvalid
      rw [Bool.and_eq_true] at hvalid
      exact absurd (by rw [h, hvalid.2]; rfl) hlength
    · cases h

theorem allocated_remember {client : Client}
    (h : client.previousBitmap = none → client.previousBitmapValid = false) (bgra : Bitmap)
    (hnone : (client.remember bgra).previousBitmap = none) :
    (client.remember bgra).previousBitmapValid = false := by
  unfold remember at hnone ⊢
  split
  · rename_i hlength
    rw [if_pos hlength] at hnone
    cases hnone
  · rename_i hlength
    rw [if_neg hlength] at hnone
    exact h hnone

theorem coherent_remember {client : Client}
    (h : client.previousBitmap = none → client.previousBitmapValid = false)
    (hshows : client.Shows bgra) :
    (client.remember bgra).Coherent ∧ (client.remember bgra).Shows bgra := by
  obtain ⟨hscreen, hwidth, hheight⟩ := client.remember_fields bgra
  have hshows' : (client.remember bgra).Shows bgra := by
    unfold Shows
    rw [hscreen, hwidth, hheight]
    exact hshows
  refine ⟨⟨allocated_remember h bgra, fun previous hstored => ?_⟩, hshows'⟩
  rw [eq_of_stored_remember hstored]
  exact hshows'

end Client

theorem sendProgressiveFrame_cases {draw : Draw} {client client' : Client}
    (h : sendProgressiveFrame draw client bgra answers = some client') :
    let held := client.allocate answers.memory
    (held.changedTiles bgra = [] ∨ answers.encoded = .nothing) ∧ client' = held ∨
      client' = { held with
        nextFrameId := held.nextFrameId + 1
        screen := draw held.width held.height bgra (held.changedTiles bgra)
          held.screen }.remember bgra := by
  unfold sendProgressiveFrame at h
  split at h
  · cases h
  · simp only at h
    split at h
    · rename_i hnone
      exact .inl ⟨.inl hnone, (Option.some.inj h).symm⟩
    · split at h
      · cases h
      · split at h
        · cases h
        · rename_i hnothing
          exact .inl ⟨.inr hnothing, (Option.some.inj h).symm⟩
        · split at h
          · exact .inr (Option.some.inj h).symm
          · cases h

/-- A screen that has the frame in the region and is unchanged around it has all of the frame. -/
theorem Client.Coherent.shows_of_drawn {client : Client} (h : client.Coherent) {screen : Screen}
    (hinside : ∀ x y, (∃ rect ∈ client.changedTiles bgra, rect.Covers x y) →
      screen x y = some (imageOf client.width bgra x y))
    (houtside : ∀ x y, (∀ rect ∈ client.changedTiles bgra, ¬ rect.Covers x y) →
      screen x y = client.screen x y) :
    screen.Shows client.width.toNat client.height.toNat (imageOf client.width bgra) := by
  intro x hx y hy
  by_cases hcovered : ∃ rect ∈ client.changedTiles bgra, rect.Covers x y
  · exact hinside x y hcovered
  · simp only [not_exists, not_and] at hcovered
    obtain ⟨previous, hstored, hsame⟩ := exists_stored_of_not_covered hx hy hcovered
    rw [houtside x y hcovered, h.shown previous hstored x hx y hy, hsame]

/-- A call that returns true leaves the frame on the screen. -/
theorem sendProgressiveFrame_shows {draw : Draw} (hdraw : Faithful draw) {client client' : Client}
    (h : client.Coherent) (hencoded : answers.encoded ≠ .nothing)
    (hsend : sendProgressiveFrame draw client bgra answers = some client') :
    client'.Coherent ∧ client'.Shows bgra ∧ client'.width = client.width ∧
      client'.height = client.height := by
  obtain ⟨hallocated, -⟩ := h.allocate answers.memory
  obtain ⟨-, -, hwidth, hheight⟩ := client.allocate_fields answers.memory
  obtain ⟨hnone | hnothing, rfl⟩ | hdrawn := sendProgressiveFrame_cases hsend
  · refine ⟨hallocated, hallocated.shows_of_drawn ?_ fun x y _ => rfl, hwidth, hheight⟩
    rw [hnone]
    rintro x y ⟨rect, hrect, -⟩
    cases hrect
  · exact absurd hnothing hencoded
  · generalize client.allocate answers.memory = held at hallocated hwidth hheight hdrawn
    have hscreen := hallocated.shows_of_drawn
      (hdraw.inside held.width held.height bgra (held.changedTiles bgra) held.screen)
      (hdraw.outside held.width held.height bgra (held.changedTiles bgra) held.screen)
    rw [hdrawn]
    obtain ⟨-, hwidth', hheight'⟩ := Client.remember_fields _ bgra
    rw [← and_assoc]
    exact ⟨Client.coherent_remember hallocated.allocated hscreen, hwidth'.trans hwidth,
      hheight'.trans hheight⟩

-- ---------------------------------------------------------------------------
-- Runs
-- ---------------------------------------------------------------------------

/-- The calls of a run, each with its frame. -/
def step (draw : Draw) (client : Client) (call : Bitmap × Answers) : Option Client :=
  sendProgressiveFrame draw client call.1 call.2

structure Client.Between (width height : UInt16) (client : Client) : Prop where
  coherent : client.Coherent
  width_eq : client.width = width
  height_eq : client.height = height

theorem between_start (width height : UInt16) : Client.Between width height { width, height } := by
  refine ⟨⟨fun _ => rfl, fun bitmap hstored => ?_⟩, rfl, rfl⟩
  cases hstored

theorem between_step {draw : Draw} (hdraw : Faithful draw) {client client' : Client}
    {call : Bitmap × Answers} (h : client.Between width height) (hencoded : call.2.encoded ≠ .nothing)
    (hstep : step draw client call = some client') : client'.Between width height := by
  obtain ⟨hcoherent, -, hwidth, hheight⟩ :=
    sendProgressiveFrame_shows hdraw h.coherent hencoded hstep
  exact ⟨hcoherent, hwidth.trans h.width_eq, hheight.trans h.height_eq⟩

theorem between_run {draw : Draw} (hdraw : Faithful draw) {width height : UInt16}
    {calls : List (Bitmap × Answers)} (hencoded : ∀ call ∈ calls, call.2.encoded ≠ .nothing)
    (hrun : Machine.run (step draw) { width, height } calls = some client) :
    client.Between width height :=
  Machine.run_invariant (fun _ _ _ h hdata hstep => between_step hdraw h hdata hstep)
    (between_start width height)
    (Machine.along_of_forall (fun call hcall _ => hencoded call hcall) _) hrun

structure TilesExact (width height : UInt16) : Prop where
  columns : (tileCount width).toNat = (width.toNat + 63) / 64
  rows : (tileCount height).toNat = (height.toNat + 63) / 64
  across : ∀ tileX ∈ counter (tileCount width), AxisExact width tileX
  down : ∀ tileY ∈ counter (tileCount height), AxisExact height tileY
  once : ∀ x < width.toNat, ∀ y < height.toNat, ∃! index : UInt16 × UInt16,
    index.1 ∈ counter (tileCount width) ∧ index.2 ∈ counter (tileCount height) ∧
      (tileRect width height index.1 index.2).Covers x y

/-- Whatever was sent before, the region has every pixel that differs from the stored frame, and
the screen ends up as the frame passed. -/
theorem progressive_loses_no_pixel {draw : Draw} (hdraw : Faithful draw) (width height : UInt16) :
    TilesExact width height ∧
      ∀ (calls : List (Bitmap × Answers)) (client client' : Client) (bgra : Bitmap)
        (answers : Answers),
        (∀ call ∈ calls, call.2.encoded ≠ .nothing) →
        Machine.run (step draw) { width, height } calls = some client →
        answers.encoded ≠ .nothing →
        sendProgressiveFrame draw client bgra answers = some client' →
        (∀ previous, client.stored = some previous → ∀ x < width.toNat, ∀ y < height.toNat,
          imageOf width previous x y ≠ imageOf width bgra x y →
          ∃ rect ∈ (client.allocate answers.memory).changedTiles bgra, rect.Covers x y) ∧
        client'.screen.Shows width.toNat height.toNat (imageOf width bgra) := by
  refine ⟨⟨toNat_tileCount width, toNat_tileCount height, fun _ => axisExact, fun _ => axisExact,
    fun x hx y hy => covered_once hx hy⟩, ?_⟩
  intro calls client client' bgra answers hcalls hrun hencoded hsend
  obtain ⟨hcoherent, rfl, rfl⟩ := between_run hdraw hcalls hrun
  obtain ⟨-, hstored⟩ := hcoherent.allocate answers.memory
  obtain ⟨-, -, hwidth, hheight⟩ := client.allocate_fields answers.memory
  constructor
  · intro previous hprevious x hx y hy hne
    rw [← hwidth] at hx hne
    rw [← hheight] at hy
    exact Client.covered_of_ne (hstored.trans hprevious) hx hy hne
  · obtain ⟨-, hshows, hwidth', hheight'⟩ :=
      sendProgressiveFrame_shows hdraw hcoherent hencoded hsend
    rw [← hwidth', ← hheight']
    exact hshows

def paint : Draw := fun width _ bitmap region screen x y =>
  if ∃ rect ∈ region, rect.Covers x y then some (imageOf width bitmap x y) else screen x y

theorem faithful_paint : Faithful paint where
  inside _ _ _ _ _ _ _ h := if_pos h
  outside _ _ _ _ _ _ _ h := if_neg fun ⟨rect, hrect, hcovers⟩ => h rect hrect hcovers

theorem progressive_loses_no_pixel_two : ∃ client client' : Client,
    Machine.run (step paint) { width := 2, height := 1 } [([0, 0, 0, 0, 0, 0, 0, 0], {})] =
      some client ∧
    sendProgressiveFrame paint client [0, 0, 0, 0, 1, 2, 3, 0] {} = some client' ∧
    client'.screen.Shows 2 1 (imageOf 2 [0, 0, 0, 0, 1, 2, 3, 0]) := by
  have hboth : ((Machine.run (step paint) { width := 2, height := 1 }
      [([0, 0, 0, 0, 0, 0, 0, 0], {})]).bind fun client =>
        sendProgressiveFrame paint client [0, 0, 0, 0, 1, 2, 3, 0] {}).isSome = true := by
    decide +kernel
  obtain ⟨client', hboth⟩ := Option.isSome_iff_exists.mp hboth
  obtain ⟨client, hclient, hclient'⟩ := Option.bind_eq_some_iff.mp hboth
  have hshows := ((progressive_loses_no_pixel faithful_paint 2 1).2 _ client client' _ {}
    (by decide) hclient (by decide) hclient').2
  exact ⟨client, client', hclient, hclient', hshows⟩

end NanokvmRdp.Gateway.Progressive
