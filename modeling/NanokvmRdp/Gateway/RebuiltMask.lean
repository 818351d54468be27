import NanokvmRdp.Gateway.NalScan
import NanokvmRdp.Rtp.Markers
import NanokvmRdp.Rtp.Oversize

/-!
# The mask of a rebuilt access unit

The packetizer cuts a buffer into NAL units and `save_nal` puts them together
again, each behind a long start code. The mask of the unit has the types of
these NAL units if they all fit. A NAL unit that does not fit leaves its start
code, and the zero of the next start code is then taken for a header.
-/

namespace NanokvmRdp.Gateway

open Rtp

-- ---------------------------------------------------------------------------
-- The rebuilt unit
-- ---------------------------------------------------------------------------

/-- `save_nal` for one NAL unit after the other, with its last result:
`rtp_client_read_h264` goes on with the next when one was refused. -/
def saveNals (timestamp : UInt32) (client : RtpClient) (nals : List (List UInt8 × Bool)) :
    Bool × RtpClient :=
  nals.foldl (fun state nal => saveNal state.2 nal.1 timestamp nal.2) (false, client)

def rebuiltUnit (timestamp : UInt32) (client : RtpClient) (nals : List (List UInt8 × Bool)) :
    Option (List UInt8) :=
  match saveNals timestamp client nals with
  | (true, client) => some client.accessUnit.contents
  | (false, _) => none

/-- What `save_nal` puts behind a start code: the NAL unit, or nothing if only the
start code fits. -/
def gatheredPiece (size : Nat) (nal : List UInt8) : List (List UInt8) :=
  if rtpH264MaxNal < size + 4 then []
  else if rtpH264MaxNal < size + (4 + nal.length) then [[]]
  else [nal]

def gatheredPieces : Nat → List (List UInt8) → List (List UInt8)
  | _, [] => []
  | size, nal :: nals => gatheredPiece size nal ++ gatheredPieces (gatheredSize size nal) nals

def keptNals : Nat → List (List UInt8) → List (List UInt8)
  | _, [] => []
  | size, nal :: nals =>
    if size + (4 + nal.length) ≤ rtpH264MaxNal then nal :: keptNals (gatheredSize size nal) nals
    else keptNals (gatheredSize size nal) nals

theorem keeps_saveNals {client : RtpClient} (h : client.Keeps timestamp unit)
    (nals : List (List UInt8 × Bool)) :
    (saveNals timestamp client nals).2.Keeps timestamp ((nals.map Prod.fst).foldl gatherNal unit) := by
  unfold saveNals
  generalize false = taken
  induction nals generalizing client unit taken with
  | nil => exact h
  | cons nal nals ih =>
    obtain ⟨next, hsave, hsaved⟩ := saveNal_gathers h nal.1 nal.2
    rw [List.foldl_cons, hsave, List.map_cons, List.foldl_cons]
    exact ih hsaved.keeps _

theorem gatherNal_eq (unit nal : List UInt8) :
    gatherNal unit nal = unit ++ wholeUnit (gatheredPiece unit.length nal) := by
  unfold gatherNal gatheredPiece
  split
  · simp [wholeUnit]
  · split
    · simp [wholeUnit]
    · simp [wholeUnit]

theorem foldl_gatherNal (nals : List (List UInt8)) (unit : List UInt8) :
    nals.foldl gatherNal unit = unit ++ wholeUnit (gatheredPieces unit.length nals) := by
  induction nals generalizing unit with
  | nil => rw [gatheredPieces, wholeUnit, List.flatMap_nil, List.append_nil, List.foldl_nil]
  | cons nal nals ih =>
    rw [List.foldl_cons, ih, length_gatherNal, gatherNal_eq, gatheredPieces, wholeUnit, wholeUnit,
      wholeUnit, List.flatMap_append, List.append_assoc]

theorem gatheredPieces_append (size : Nat) (nals more : List (List UInt8)) :
    gatheredPieces size (nals ++ more) =
      gatheredPieces size nals ++ gatheredPieces (nals.foldl gatheredSize size) more := by
  induction nals generalizing size with
  | nil => rfl
  | cons nal nals ih =>
    rw [List.cons_append, gatheredPieces, gatheredPieces, List.foldl_cons, ih, List.append_assoc]

theorem gatheredPiece_fits (h : size + (4 + nal.length) ≤ rtpH264MaxNal) :
    gatheredPiece size nal = [nal] ∧ gatheredSize size nal = size + (4 + nal.length) := by
  rw [gatheredPiece, gatheredSize, if_neg (by omega), if_neg (by omega), if_neg (by omega),
    if_neg (by omega)]
  exact ⟨rfl, rfl⟩

theorem gatheredPieces_fits (h : size + wholeSize nals ≤ rtpH264MaxNal) :
    gatheredPieces size nals = nals := by
  induction nals generalizing size with
  | nil => rfl
  | cons nal nals ih =>
    have hsize : wholeSize (nal :: nals) = 4 + nal.length + wholeSize nals := rfl
    have hnal : size + (4 + nal.length) ≤ rtpH264MaxNal := by omega
    obtain ⟨hpiece, hnext⟩ := gatheredPiece_fits hnal
    rw [gatheredPieces, hpiece, hnext, ih (by omega), List.singleton_append]

theorem le_gatheredSize (size : Nat) (nal : List UInt8) : size ≤ gatheredSize size nal := by
  unfold gatheredSize
  split
  · exact Nat.le_refl _
  · split <;> omega

theorem le_foldl_gatheredSize (nals : List (List UInt8)) (size : Nat) :
    size ≤ nals.foldl gatheredSize size := by
  induction nals generalizing size with
  | nil => exact Nat.le_refl _
  | cons nal nals ih => exact (le_gatheredSize size nal).trans (ih _)

theorem nil_mem_gatheredPieces (hroom : nals.foldl gatheredSize size + 4 ≤ rtpH264MaxNal)
    (h : nals.foldl gatheredSize size ≠ size + wholeSize nals) : [] ∈ gatheredPieces size nals := by
  induction nals generalizing size with
  | nil => exact absurd rfl h
  | cons nal nals ih =>
    have hsize : wholeSize (nal :: nals) = 4 + nal.length + wholeSize nals := rfl
    rw [List.foldl_cons] at hroom h
    rw [gatheredPieces, List.mem_append]
    by_cases hfits : size + (4 + nal.length) ≤ rtpH264MaxNal
    · obtain ⟨-, hnext⟩ := gatheredPiece_fits hfits
      exact .inr (ih hroom (by omega))
    · have hle := (le_gatheredSize size nal).trans (le_foldl_gatheredSize nals _)
      refine .inl ?_
      rw [gatheredPiece, if_neg (by omega), if_pos (by omega)]
      exact List.mem_singleton_self []

theorem mem_gatheredPieces (h : piece ∈ gatheredPieces size nals) :
    piece = [] ∨ piece ∈ keptNals size nals := by
  induction nals generalizing size with
  | nil => cases h
  | cons nal nals ih =>
    rw [gatheredPieces, List.mem_append] at h
    rw [keptNals]
    by_cases hfits : size + (4 + nal.length) ≤ rtpH264MaxNal
    · rw [if_pos hfits, List.mem_cons]
      rw [(gatheredPiece_fits hfits).1, List.mem_singleton] at h
      obtain rfl | h := h
      · exact .inr (.inl rfl)
      · exact (ih h).imp id .inr
    · rw [if_neg hfits]
      obtain h | h := h
      · refine .inl ?_
        unfold gatheredPiece at h
        split at h
        · cases h
        · rw [if_pos (by omega)] at h
          exact List.mem_singleton.mp h
      · exact ih h

theorem keptNals_subset (size : Nat) (nals : List (List UInt8)) :
    keptNals size nals ⊆ gatheredPieces size nals ∧ keptNals size nals ⊆ nals := by
  induction nals generalizing size with
  | nil => exact ⟨List.Subset.refl _, List.Subset.refl _⟩
  | cons nal nals ih =>
    obtain ⟨hpieces, hnals⟩ := ih (gatheredSize size nal)
    rw [keptNals, gatheredPieces]
    split
    · rename_i hfits
      rw [(gatheredPiece_fits hfits).1, List.singleton_append]
      exact ⟨List.cons_subset_cons nal hpieces, List.cons_subset_cons nal hnals⟩
    · exact ⟨List.subset_append_of_subset_right _ hpieces, List.subset_cons_of_subset nal hnals⟩

theorem rebuiltUnit_concat {client : RtpClient} (h : client.Keeps timestamp [])
    (init : List (List UInt8 × Bool)) (last : List UInt8 × Bool) :
    rebuiltUnit timestamp client (init ++ [last]) =
      if (init.map Prod.fst).foldl gatheredSize 0 + (4 + last.1.length) ≤ rtpH264MaxNal then
        some (wholeUnit (gatheredPieces 0 ((init ++ [last]).map Prod.fst)))
      else none := by
  have hkeeps := keeps_saveNals h init
  obtain ⟨next, hsave, hsaved⟩ := saveNal_gathers hkeeps last.1 last.2
  have hlength : ((init.map Prod.fst).foldl gatherNal []).length =
      (init.map Prod.fst).foldl gatheredSize 0 := length_foldl_gatherNal _ _
  have hunit : next.accessUnit.contents =
      wholeUnit (gatheredPieces 0 ((init ++ [last]).map Prod.fst)) := by
    have hfold := foldl_gatherNal ((init ++ [last]).map Prod.fst) []
    rw [List.map_append, List.foldl_append] at hfold
    rw [hsaved.contents_eq, List.map_append]
    exact hfold
  have hlast : saveNals timestamp client (init ++ [last]) =
      saveNal (saveNals timestamp client init).2 last.1 timestamp last.2 := List.foldl_concat ..
  rw [rebuiltUnit, hlast, hsave, hlength]
  by_cases hfits : (init.map Prod.fst).foldl gatheredSize 0 + (4 + last.1.length) ≤ rtpH264MaxNal
  · rw [if_pos hfits, decide_eq_true hfits, ← hunit]
  · rw [if_neg hfits, decide_eq_false hfits]

-- ---------------------------------------------------------------------------
-- Its mask
-- ---------------------------------------------------------------------------

theorem wholeUnit_cons (piece : List UInt8) (pieces : List (List UInt8)) :
    wholeUnit (piece :: pieces) = 0 :: 0 :: 0 :: 1 :: (piece ++ wholeUnit pieces) := rfl

theorem wholeUnit_front (pieces : List (List UInt8)) :
    wholeUnit pieces = [] ∨ [0, 0, 0] <+: wholeUnit pieces := by
  cases pieces with
  | nil => exact .inl rfl
  | cons piece pieces => exact .inr ⟨_, (wholeUnit_cons piece pieces).symm⟩

/-- Behind a start code without a NAL unit stands the next start code, and its first
zero has the type that an absent header has. -/
theorem hasNal_wholeUnit_cons {piece : List UInt8} {pieces : List (List UInt8)} {type : UInt8}
    (hplain : ¬ [0, 0, 1] <:+: piece)
    (hmore : piece ++ wholeUnit pieces ≠ []) :
    HasNal (wholeUnit (piece :: pieces)) type ↔
      nalType piece = type ∨ HasNal (wholeUnit pieces) type := by
  rw [wholeUnit_cons]
  cases piece with
  | cons header body =>
    rw [List.cons_append, hasNal_startCode, ← List.cons_append,
      hasNal_plain hplain (wholeUnit_front pieces)]
    rfl
  | nil =>
    obtain hnil | ⟨more, heq⟩ := wholeUnit_front pieces
    · exact absurd hnil hmore
    · rw [List.nil_append, ← heq, List.cons_append, hasNal_startCode]
      rfl

theorem hasNal_wholeUnit {pieces : List (List UInt8)} {last : List UInt8} {type : UInt8}
    (hplain : ∀ piece ∈ pieces ++ [last], ¬ [0, 0, 1] <:+: piece)
    (hlast : last ≠ []) :
    HasNal (wholeUnit (pieces ++ [last])) type ↔ ∃ piece ∈ pieces ++ [last], nalType piece = type := by
  induction pieces with
  | nil =>
    have hnone : ¬ HasNal (wholeUnit []) type := by
      rintro ⟨header, hinfix, -⟩
      simp [wholeUnit] at hinfix
    rw [List.nil_append, hasNal_wholeUnit_cons (hplain last (by simp)) (by simpa [wholeUnit] using hlast)]
    simp [hnone]
  | cons piece pieces ih =>
    have hrest : wholeUnit (pieces ++ [last]) ≠ [] := by simp [wholeUnit]
    rw [List.cons_append, hasNal_wholeUnit_cons (hplain piece List.mem_cons_self)
      (List.append_ne_nil_of_right_ne_nil _ hrest), ih fun p hp => hplain p (List.mem_cons_of_mem _ hp)]
    simp only [List.mem_cons, exists_eq_or_imp]

-- ---------------------------------------------------------------------------
-- The NAL units of a buffer
-- ---------------------------------------------------------------------------

theorem startCodeLength_ne_zero (h : [0, 0, 1] <+: data) : startCodeLength data ≠ 0 := by
  obtain ⟨rest, rfl⟩ := h
  exact Nat.succ_ne_zero 2

theorem not_infix_splitNal (data : List UInt8) : ¬ [0, 0, 1] <:+: (splitNal data).1 := by
  induction data with
  | nil => simp [splitNal]
  | cons b rest ih =>
    rw [splitNal]
    split
    · rename_i hcode
      rw [List.infix_cons_iff]
      rintro (hfront | hinfix)
      · have hdata : [0, 0, 1] <+: b :: rest :=
          hfront.trans ((List.prefix_cons_inj b).mpr ⟨_, splitNal_append rest⟩)
        exact startCodeLength_ne_zero hdata hcode
      · exact ih hinfix
    · simp

theorem not_infix_skip (h : skipToStartCode data = []) : ¬ [0, 0, 1] <:+: data := by
  induction data with
  | nil => simp
  | cons b rest ih =>
    rw [skipToStartCode] at h
    split at h
    · cases h
    · rename_i hcode
      rw [List.infix_cons_iff]
      rintro (hfront | hinfix)
      · exact hcode (startCodeLength_ne_zero hfront)
      · exact ih h hinfix

theorem not_infix_cutNals (fuel : Nat) (rest : List UInt8) :
    ∀ nal ∈ cutNals fuel rest, ¬ [0, 0, 1] <:+: nal := by
  induction fuel generalizing rest with
  | zero => simp [cutNals]
  | succ fuel ih =>
    simp only [cutNals]
    split
    · simp
    · split
      · exact ih _
      · simp only [List.mem_cons, forall_eq_or_imp]
        exact ⟨not_infix_splitNal _, ih _⟩

theorem not_infix_unitNals (data : List UInt8) : ∀ nal ∈ unitNals data, ¬ [0, 0, 1] <:+: nal := by
  unfold unitNals
  split
  · simp
  · split
    · simpa using not_infix_skip ‹_›
    · exact not_infix_cutNals _ _

-- ---------------------------------------------------------------------------
-- When the mask is right
-- ---------------------------------------------------------------------------

/-- All NAL units fit; or the last one does not, and no unit is returned; or there is a NAL
unit of the type that a start code without one is taken for, and each NAL unit that was
refused has this type or that of one that was kept. -/
def MaskSurvives (nals : List (List UInt8)) : Prop :=
  wholeSize nals ≤ rtpH264MaxNal ∨
    (∀ init last, nals = init ++ [last] →
      rtpH264MaxNal < init.foldl gatheredSize 0 + (4 + last.length)) ∨
    ((∃ nal ∈ nals, nalType nal = 0) ∧
      ∀ nal ∈ nals, nalType nal = 0 ∨ ∃ kept ∈ keptNals 0 nals, nalType kept = nalType nal)

/-- The mask of the unit is the set of the types of these NAL units. -/
def MaskExact (unit : List UInt8) (nals : List (List UInt8)) : Prop :=
  ∀ type : UInt8, type < 32 →
    (nalTypeBit (h264NalTypeMask unit) type = true ↔ ∃ nal ∈ nals, nalType nal = type)

theorem nalType_lt (nal : List UInt8) : nalType nal < 32 := and_1f_lt _

/-- With a NAL unit refused, the types of what was kept and 0 have to be all types. -/
theorem same_types_iff (hrefused : [] ∈ gatheredPieces 0 nals) :
    (∀ type : UInt8, type < 32 →
      ((∃ piece ∈ gatheredPieces 0 nals, nalType piece = type) ↔ ∃ nal ∈ nals, nalType nal = type)) ↔
      (∃ nal ∈ nals, nalType nal = 0) ∧
        ∀ nal ∈ nals, nalType nal = 0 ∨ ∃ kept ∈ keptNals 0 nals, nalType kept = nalType nal := by
  obtain ⟨hpieces, hnals⟩ := keptNals_subset 0 nals
  constructor
  · intro h
    refine ⟨(h 0 (by decide)).mp ⟨[], hrefused, rfl⟩, fun nal hnal => ?_⟩
    obtain ⟨piece, hpiece, htype⟩ := (h _ (nalType_lt nal)).mpr ⟨nal, hnal, rfl⟩
    obtain rfl | hkept := mem_gatheredPieces hpiece
    · exact .inl htype.symm
    · exact .inr ⟨piece, hkept, htype⟩
  · rintro ⟨hzero, hcovered⟩ type -
    constructor
    · rintro ⟨piece, hpiece, rfl⟩
      obtain rfl | hkept := mem_gatheredPieces hpiece
      · exact hzero
      · exact ⟨piece, hnals hkept, rfl⟩
    · rintro ⟨nal, hnal, rfl⟩
      obtain htype | ⟨kept, hkept, htype⟩ := hcovered nal hnal
      · exact ⟨[], hrefused, htype.symm⟩
      · exact ⟨kept, hpieces hkept, htype⟩

theorem plain_gatheredPieces (h : ∀ nal ∈ nals, ¬ [0, 0, 1] <:+: nal) :
    ∀ piece ∈ gatheredPieces size nals, ¬ [0, 0, 1] <:+: piece := by
  intro piece hpiece
  obtain rfl | hkept := mem_gatheredPieces hpiece
  · simp
  · exact h piece ((keptNals_subset size nals).2 hkept)

theorem maskExact_gathered_iff {front : List (List UInt8)} {last : List UInt8}
    (hplain : ∀ nal ∈ front ++ [last], ¬ [0, 0, 1] <:+: nal) (hlast : last ≠ [])
    (hfits : front.foldl gatheredSize 0 + (4 + last.length) ≤ rtpH264MaxNal) :
    MaskExact (wholeUnit (gatheredPieces 0 (front ++ [last]))) (front ++ [last]) ↔
      MaskSurvives (front ++ [last]) := by
  have hpieces : gatheredPieces 0 (front ++ [last]) = gatheredPieces 0 front ++ [last] := by
    rw [gatheredPieces_append, gatheredPieces, (gatheredPiece_fits hfits).1]
    rfl
  have hmask : MaskExact (wholeUnit (gatheredPieces 0 (front ++ [last]))) (front ++ [last]) ↔
      ∀ type : UInt8, type < 32 → ((∃ piece ∈ gatheredPieces 0 (front ++ [last]), nalType piece = type) ↔
        ∃ nal ∈ front ++ [last], nalType nal = type) := by
    refine forall_congr' fun type => forall_congr' fun htype => ?_
    have hnals : ∀ piece ∈ gatheredPieces 0 (front ++ [last]), ¬ [0, 0, 1] <:+: piece :=
      plain_gatheredPieces hplain
    rw [hpieces] at hnals ⊢
    rw [nalTypeBit_h264NalTypeMask htype, hasNal_wholeUnit hnals hlast]
  rw [hmask, MaskSurvives, forall_last_iff (P := fun init last =>
    rtpH264MaxNal < init.foldl gatheredSize 0 + (4 + last.length)),
    or_iff_right (a := rtpH264MaxNal < _) (Nat.not_lt.mpr hfits)]
  by_cases hwhole : wholeSize (front ++ [last]) ≤ rtpH264MaxNal
  · rw [gatheredPieces_fits (by omega)]
    exact iff_of_true (fun _ _ => Iff.rfl) (.inl hwhole)
  · have hrefused : [] ∈ gatheredPieces 0 front := by
      rw [wholeSize_concat] at hwhole
      exact nil_mem_gatheredPieces (by omega) (by omega)
    rw [or_iff_right hwhole]
    exact same_types_iff (hpieces ▸ List.mem_append_left [last] hrefused)

theorem maskExact_rebuiltUnit_iff {client : RtpClient} (hkeeps : client.Keeps timestamp [])
    (nals : List (List UInt8 × Bool))
    (hnals : ∀ nal ∈ nals.map Prod.fst, nal ≠ [] ∧ ¬ [0, 0, 1] <:+: nal) :
    (∀ unit, rebuiltUnit timestamp client nals = some unit → MaskExact unit (nals.map Prod.fst)) ↔
      MaskSurvives (nals.map Prod.fst) := by
  rcases List.eq_nil_or_concat nals with rfl | ⟨init, last, rfl⟩
  · refine iff_of_true (fun unit hunit => ?_) (.inl (Nat.zero_le _))
    cases hunit
  · rw [List.concat_eq_append] at hnals ⊢
    rw [rebuiltUnit_concat hkeeps]
    generalize hbytes : (init ++ [last]).map Prod.fst = all at hnals ⊢
    have hall : all = init.map Prod.fst ++ [last.1] := by rw [← hbytes, List.map_append]; rfl
    generalize init.map Prod.fst = front at hall ⊢
    have hlast : last.1 ≠ [] := (hnals last.1 (by simp [hall])).1
    by_cases hfits : front.foldl gatheredSize 0 + (4 + last.1.length) ≤ rtpH264MaxNal
    · rw [if_pos hfits, hall]
      simp only [Option.some.injEq, forall_eq']
      exact maskExact_gathered_iff (hall ▸ fun nal hnal => (hnals nal hnal).2) hlast hfits
    · rw [if_neg hfits, hall, MaskSurvives, forall_last_iff (P := fun init last =>
        rtpH264MaxNal < init.foldl gatheredSize 0 + (4 + last.length))]
      exact iff_of_true nofun (.inr (.inl (Nat.not_le.mp hfits)))

/-- On any bytes the scanners agree. Whether the mask of the unit rebuilt from their NAL
units has the types of these is decided by what `save_nal` has room for. -/
theorem scanners_agree_iff (data : List UInt8) (nals : List (List UInt8 × Bool))
    (hcut : nals.map Prod.fst <+: unitNals data) (client : RtpClient) (timestamp : UInt32)
    (hfresh : client.haveAccessUnit = false ∨ client.accessUnitTimestamp ≠ timestamp) :
    ((∀ type : UInt8, type < 32 → ScannersAgree data type) ∧
      ∀ unit, rebuiltUnit timestamp client nals = some unit → MaskExact unit (nals.map Prod.fst)) ↔
      MaskSurvives (nals.map Prod.fst) := by
  have hnals : ∀ nal ∈ nals.map Prod.fst, nal ≠ [] ∧ ¬ [0, 0, 1] <:+: nal := fun nal hnal =>
    ⟨unitNals_ne_nil data nal (hcut.subset hnal), not_infix_unitNals data nal (hcut.subset hnal)⟩
  rw [and_iff_right fun type htype => scannersAgree htype data]
  exact maskExact_rebuiltUnit_iff (keeps_nil hfresh) nals hnals

theorem small_unit_mask_exact :
    let data : List UInt8 := [0, 0, 0, 1, 0x67, 1, 0, 0, 1, 0x65, 2]
    let nals : List (List UInt8 × Bool) := [([0x67, 1], false), ([0x65, 2], true)]
    let unit : List UInt8 := [0, 0, 0, 1, 0x67, 1, 0, 0, 0, 1, 0x65, 2]
    nals.map Prod.fst = unitNals data ∧ rebuiltUnit 7 {} nals = some unit ∧
      (∀ type : UInt8, type < 32 → ScannersAgree data type) ∧ MaskExact unit (nals.map Prod.fst) := by
  intro data nals unit
  have hcut : nals.map Prod.fst = unitNals data := by decide
  have hunit : rebuiltUnit 7 {} nals = some unit := by decide
  obtain ⟨hagree, hmask⟩ := (scanners_agree_iff data nals (hcut ▸ List.prefix_rfl) {} 7 (.inl rfl)).mpr
    (.inl (by decide))
  exact ⟨hcut, hunit, hagree, hmask unit hunit⟩

theorem cutNals_wholeUnit (h : ∀ nal ∈ nals, nal ≠ [] ∧ Plain nal) (hfuel : nals.length ≤ fuel) :
    cutNals fuel (wholeUnit nals) = nals := by
  induction nals generalizing fuel with
  | nil => cases fuel <;> simp [wholeUnit, cutNals]
  | cons nal nals ih =>
    obtain ⟨fuel, rfl⟩ : ∃ fuel', fuel = fuel' + 1 := ⟨fuel - 1, by rw [List.length_cons] at hfuel; omega⟩
    have hrest : wholeUnit nals = [] ∨ startCodeLength (wholeUnit nals) ≠ 0 := by
      cases nals with
      | nil => exact .inl rfl
      | cons next nals => exact .inr (Nat.succ_ne_zero 3)
    obtain ⟨hne, hplain⟩ := h nal List.mem_cons_self
    have hsplit : splitNal ((wholeUnit (nal :: nals)).drop (startCodeLength (wholeUnit (nal :: nals)))) =
        (nal, wholeUnit nals) := splitNal_plain hplain hrest
    simp only [cutNals, hsplit, if_neg hne]
    rw [if_neg (by simp [wholeUnit]), ih (fun n hn => h n (List.mem_cons_of_mem _ hn))
      (Nat.le_of_succ_le_succ hfuel)]

theorem length_le_wholeUnit (nals : List (List UInt8)) : nals.length ≤ (wholeUnit nals).length := by
  induction nals with
  | nil => exact Nat.zero_le _
  | cons nal nals ih =>
    simp only [wholeUnit_cons, List.length_cons, List.length_append]
    omega

theorem unitNals_wholeUnit (h : ∀ nal ∈ nals, nal ≠ [] ∧ Plain nal) :
    unitNals (wholeUnit nals) = nals := by
  cases nals with
  | nil => rfl
  | cons nal nals =>
    have hskip : skipToStartCode (wholeUnit (nal :: nals)) = wholeUnit (nal :: nals) :=
      if_pos (Nat.succ_ne_zero 3)
    have hne : wholeUnit (nal :: nals) ≠ [] := List.cons_ne_nil _ _
    rw [unitNals, hskip, if_neg hne, if_neg hne, cutNals_wholeUnit h (length_le_wholeUnit _)]

theorem plain_of_notMem (h : 0 ∉ bytes) : Plain bytes :=
  ⟨fun hlast => h (List.mem_of_getLast? hlast), fun hpart => h (hpart.subset (by simp))⟩

theorem gathered_oversizedUnit (h : body.length + 1 = rtpH264MaxNal) :
    [[0x67], 0x65 :: body].foldl gatheredSize 0 = 9 ∧
      gatheredPieces 0 (oversizedUnit body) = [[0x67], [], [0x41]] := by
  have hlong : rtpH264MaxNal < 5 + (4 + (0x65 :: body).length) := by
    rw [List.length_cons, h]
    omega
  have hfirst : gatheredPiece 0 [0x67] = [[0x67]] ∧ gatheredSize 0 [0x67] = 5 := by decide
  have hmiddle : gatheredPiece 5 (0x65 :: body) = [[]] ∧ gatheredSize 5 (0x65 :: body) = 9 := by
    have hcode : ¬ rtpH264MaxNal < 5 + 4 := by decide
    rw [gatheredPiece, gatheredSize, if_neg hcode, if_neg hcode, if_pos hlong, if_pos hlong]
    exact ⟨rfl, rfl⟩
  have hlast : gatheredPiece 9 [0x41] = [[0x41]] := by decide
  rw [oversizedUnit, List.foldl_cons, List.foldl_cons, gatheredPieces, gatheredPieces, gatheredPieces,
    gatheredPieces, hfirst.1, hfirst.2, hmiddle.1, hmiddle.2, hlast]
  exact ⟨rfl, rfl⟩

/-- The NAL unit in the middle is refused behind its start code. -/
theorem refused_nal_changes_mask :
    let body := List.replicate (rtpH264MaxNal - 1) (1 : UInt8)
    let nals : List (List UInt8 × Bool) := [([0x67], false), (0x65 :: body, false), ([0x41], true)]
    let data := wholeUnit (nals.map Prod.fst)
    let unit : List UInt8 := [0, 0, 0, 1, 0x67, 0, 0, 0, 1, 0, 0, 0, 1, 0x41]
    nals.map Prod.fst = unitNals data ∧ rebuiltUnit 7 {} nals = some unit ∧
      (nalTypeBit (h264NalTypeMask unit) 0 = true ∧ ¬ ∃ nal ∈ nals.map Prod.fst, nalType nal = 0) ∧
      (nalTypeBit (h264NalTypeMask unit) 5 = false ∧ ∃ nal ∈ nals.map Prod.fst, nalType nal = 5) := by
  have hfull : (List.replicate (rtpH264MaxNal - 1) (1 : UInt8)).length + 1 = rtpH264MaxNal := by
    rw [List.length_replicate]
    exact Nat.sub_add_cancel (by decide)
  have hzero : 0 ∉ List.replicate (rtpH264MaxNal - 1) (1 : UInt8) := fun hmem =>
    absurd (List.eq_of_mem_replicate hmem) (by decide)
  generalize List.replicate (rtpH264MaxNal - 1) (1 : UInt8) = body at hfull hzero ⊢
  intro body nals data unit
  have hplain : ∀ nal ∈ nals.map Prod.fst, nal ≠ [] ∧ Plain nal := by
    have hmiddle : Plain (0x65 :: body) := plain_of_notMem (by simpa using hzero)
    simp only [nals, List.map_cons, List.map_nil, List.mem_cons, List.not_mem_nil, or_false,
      forall_eq_or_imp, forall_eq]
    exact ⟨by decide, ⟨List.cons_ne_nil _ _, hmiddle⟩, by decide⟩
  obtain ⟨hsize, hpieces⟩ := gathered_oversizedUnit hfull
  have hunit : rebuiltUnit 7 {} nals = some unit := by
    have hkeeps : RtpClient.Keeps {} 7 [] := keeps_nil (.inl rfl)
    have hrebuilt := rebuiltUnit_concat hkeeps [([0x67], false), (0x65 :: body, false)] ([0x41], true)
    rw [List.map_cons, List.map_cons, List.map_nil, hsize, if_pos (by decide)] at hrebuilt
    exact hrebuilt.trans (congrArg (fun pieces => some (wholeUnit pieces)) hpieces)
  have hzeroBit : nalTypeBit (h264NalTypeMask unit) 0 = true := by decide +kernel
  have hfiveBit : nalTypeBit (h264NalTypeMask unit) 5 = false := by decide +kernel
  have htypes : (nals.map Prod.fst).map nalType = [7, 5, 1] := by
    have hmiddle : nalType (0x65 :: body) = 5 := by
      rw [nalType, List.getD_cons_zero]
      decide
    show [nalType [0x67], nalType (0x65 :: body), nalType [0x41]] = [7, 5, 1]
    rw [hmiddle]
    decide
  refine ⟨(unitNals_wholeUnit hplain).symm, hunit, ⟨hzeroBit, ?_⟩, hfiveBit, ?_⟩
  · rw [← List.mem_map, htypes]
    decide
  · rw [← List.mem_map, htypes]
    decide

end NanokvmRdp.Gateway
