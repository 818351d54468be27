import NanokvmRdp.Gateway.Tiles

/-!
# What the client is shown

Where the last image is on record, the screen shows the record, so a tile without
a change is on the screen already.
-/

namespace NanokvmRdp.Gateway.BitmapClient

def Coherent (client : BitmapClient) : Prop :=
  client.previousBitmapValid = true → client.shows client.previousBitmap

structure Sends (client : BitmapClient) (image : Image) (client' : BitmapClient) : Prop where
  coherent : client'.Coherent
  shows : client'.shows image
  unallocated : client'.classicEncoded = client.classicEncoded
  unopened : client'.classicFrameOpen = client.classicFrameOpen

theorem sendClassicBitmapFrame_fails {client : BitmapClient} (h : client.classicEncoded = false)
    (image : Image) (answers : SliceAnswers) : client.sendClassicBitmapFrame image answers = none := by
  rw [sendClassicBitmapFrame, h]
  rfl

theorem covers_progressiveTiles {width height x y : Nat} (hx : x < width) (hy : y < height) :
    ∃ tile ∈ progressiveTiles width height, tile.Covers x y := by
  refine ⟨tileAt width height (x / tileSize * tileSize) (y / tileSize * tileSize), ?_, ?_⟩
  · simp only [progressiveTiles, List.mem_flatMap, List.mem_map, List.mem_range, tileSize]
    exact ⟨y / 64, by omega, x / 64, by omega, rfl⟩
  · simp only [Tile.Covers, tileAt, tileSize]
    omega

theorem paintAll_of_right (image : Image) (tiles : List Tile) (screen : Screen)
    (h : screen x y = some (image x y)) :
    tiles.foldl (fun screen tile => tile.paint (fun x y => some (image x y)) screen) screen x y =
      some (image x y) := by
  induction tiles generalizing screen with
  | nil => exact h
  | cons tile tiles ih =>
    refine ih _ ?_
    by_cases hcovers : tile.Covers x y
    · exact Tile.paint_of_covers hcovers _ _
    · exact (Tile.paint_of_not_covers hcovers _ _).trans h

theorem paintAll_of_covers (image : Image) {tiles : List Tile} (screen : Screen)
    (h : tile ∈ tiles) (hcovers : tile.Covers x y) :
    tiles.foldl (fun screen tile => tile.paint (fun x y => some (image x y)) screen) screen x y =
      some (image x y) := by
  obtain ⟨front, back, rfl⟩ := List.append_of_mem h
  rw [List.foldl_append, List.foldl_cons]
  exact paintAll_of_right image back _ (Tile.paint_of_covers hcovers _ _)

/-- A pixel in no changed tile is on the screen already. -/
theorem Coherent.shown_of_unchanged {client : BitmapClient} (h : client.Coherent)
    (hx : x < client.width) (hy : y < client.height)
    (hsame : ∀ tile ∈ client.changedTiles image, ¬ tile.Covers x y) :
    client.screen x y = some (image x y) := by
  obtain ⟨tile, htile, hcovers⟩ := covers_progressiveTiles hx hy
  have hskipped : tile ∉ client.changedTiles image := fun hmem => hsame tile hmem hcovers
  simp only [changedTiles, List.mem_filter, htile, true_and, Bool.or_eq_true, not_or,
    Bool.not_eq_true', Bool.not_eq_true, Bool.not_eq_false] at hskipped
  rw [h hskipped.1 x hx y hy, eq_of_not_changed hskipped.2 hcovers]

theorem Coherent.shown_of_paintAll {client : BitmapClient} (h : client.Coherent)
    (hx : x < client.width) (hy : y < client.height) :
    (client.changedTiles image).foldl
      (fun screen tile => tile.paint (fun x y => some (image x y)) screen) client.screen x y =
      some (image x y) := by
  by_cases hchanged : ∃ tile ∈ client.changedTiles image, tile.Covers x y
  · obtain ⟨tile, htile, hcovers⟩ := hchanged
    exact paintAll_of_covers image _ htile hcovers
  · refine paintAll_of_right image _ _ (h.shown_of_unchanged hx hy ?_)
    exact fun tile htile hcovers => hchanged ⟨tile, htile, hcovers⟩

theorem sendProgressiveFrame_sends {client client' : BitmapClient} {answers : ProgressiveAnswers}
    (h : client.Coherent) (hencoded : answers.encoded ≠ .nothing)
    (hsend : client.sendProgressiveFrame image answers = some client') : client.Sends image client' := by
  unfold sendProgressiveFrame at hsend
  simp only at hsend
  split at hsend
  case isTrue hnone =>
    cases hsend
    refine ⟨h, fun x hx y hy => h.shown_of_unchanged hx hy ?_, rfl, rfl⟩
    rw [hnone]
    exact fun tile htile => absurd htile List.not_mem_nil
  · split at hsend
    · cases hsend
    · exact absurd ‹_› hencoded
    · split at hsend
      · cases hsend
      · split at hsend
        · cases hsend
          exact ⟨fun _ x hx y hy => h.shown_of_paintAll hx hy, fun x hx y hy => h.shown_of_paintAll hx hy,
            rfl, rfl⟩
        · cases hsend

end NanokvmRdp.Gateway.BitmapClient
