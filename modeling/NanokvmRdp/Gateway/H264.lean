import NanokvmRdp.Rtp.AccessUnit

/-!
# NAL unit types of an access unit

`h264_nal_type_mask` scans an access unit for start codes. A bit of the mask
is set exactly when a NAL unit of that type begins somewhere in the bytes.
-/

namespace NanokvmRdp.Gateway

def nalTypeBit (mask : UInt32) (type : UInt8) : Bool := mask &&& ((1 : UInt32) <<< type.toUInt32) != 0

def maskStartLength (data : List UInt8) (index : Nat) : Nat :=
  if data.getD index 0 == 0 && data.getD (index + 1) 0 == 0 && data.getD (index + 2) 0 == 1 then 3
  else if decide (index + 4 < data.length) && data.getD index 0 == 0 && data.getD (index + 1) 0 == 0 &&
      data.getD (index + 2) 0 == 0 && data.getD (index + 3) 0 == 1 then 4
  else 0

def maskAt (data : List UInt8) (mask : UInt32) (index : Nat) : UInt32 :=
  let startLength := maskStartLength data index
  if startLength ≠ 0 ∧ index + startLength < data.length then
    mask ||| ((1 : UInt32) <<< (data.getD (index + startLength) 0 &&& 0x1f).toUInt32)
  else mask

def h264NalTypeMask (data : List UInt8) : UInt32 :=
  (List.range (data.length - 3)).foldl (maskAt data) 0

/-- A NAL unit of this type begins in the bytes. -/
def HasNal (data : List UInt8) (type : UInt8) : Prop :=
  ∃ header, [0, 0, 1, header] <:+: data ∧ header &&& 0x1f = type

-- ---------------------------------------------------------------------------
-- Bits of a mask
-- ---------------------------------------------------------------------------

theorem toBitVec_shiftLeft_one {type : UInt8} (h : type < 32) :
    ((1 : UInt32) <<< type.toUInt32).toBitVec = BitVec.twoPow 32 type.toNat := by
  have hlt : type.toNat < 32 := h
  rw [UInt32.toBitVec_shiftLeft, BitVec.shiftLeft_eq', BitVec.twoPow_eq]
  simp [Nat.mod_eq_of_lt hlt]

theorem nalTypeBit_eq {type : UInt8} (h : type < 32) (mask : UInt32) :
    nalTypeBit mask type = mask.toBitVec.getLsbD type.toNat := by
  have hlt : type.toNat < 32 := h
  have hpow : BitVec.twoPow 32 type.toNat ≠ 0#32 := by
    intro hzero
    have hbit := congrArg (fun bits => bits.getLsbD type.toNat) hzero
    simp [hlt] at hbit
  apply Bool.eq_iff_iff.mpr
  rw [nalTypeBit, bne_iff_ne, ne_eq, ← UInt32.toBitVec_inj, UInt32.toBitVec_and,
    toBitVec_shiftLeft_one h, BitVec.and_twoPow]
  cases mask.toBitVec.getLsbD type.toNat <;> simp [hpow]

theorem nalTypeBit_or {type other : UInt8} (h : type < 32) (hother : other < 32) (mask : UInt32) :
    nalTypeBit (mask ||| ((1 : UInt32) <<< other.toUInt32)) type = true ↔
      nalTypeBit mask type = true ∨ other = type := by
  have hlt : other.toNat < 32 := hother
  rw [nalTypeBit_eq h, nalTypeBit_eq h, UInt32.toBitVec_or, toBitVec_shiftLeft_one hother,
    BitVec.getLsbD_or, BitVec.getLsbD_twoPow]
  simp [hlt, UInt8.toNat_inj]

theorem and_1f_lt (header : UInt8) : header &&& 0x1f < 32 := by
  apply UInt8.lt_iff_toNat_lt.mpr
  rw [UInt8.toNat_and]
  exact Nat.and_lt_two_pow _ (show 0x1f < 2 ^ 5 by decide)

def MarksAt (data : List UInt8) (type : UInt8) (index : Nat) : Prop :=
  maskStartLength data index ≠ 0 ∧ index + maskStartLength data index < data.length ∧
    data.getD (index + maskStartLength data index) 0 &&& 0x1f = type

theorem nalTypeBit_maskAt {type : UInt8} (h : type < 32) (data : List UInt8) (mask : UInt32)
    (index : Nat) :
    nalTypeBit (maskAt data mask index) type = true ↔
      nalTypeBit mask type = true ∨ MarksAt data type index := by
  simp only [maskAt, MarksAt]
  split
  · rename_i hstart
    rw [nalTypeBit_or h (and_1f_lt _)]
    simp [hstart]
  · rename_i hstart
    simp only [iff_self_or]
    rintro ⟨hlength, hinside, -⟩
    exact absurd ⟨hlength, hinside⟩ hstart

theorem nalTypeBit_foldl {type : UInt8} (h : type < 32) (data : List UInt8) (indices : List Nat)
    (mask : UInt32) :
    nalTypeBit (indices.foldl (maskAt data) mask) type = true ↔
      nalTypeBit mask type = true ∨ ∃ index ∈ indices, MarksAt data type index := by
  induction indices generalizing mask with
  | nil => simp
  | cons index indices ih => simp [ih, nalTypeBit_maskAt h, or_assoc]

-- ---------------------------------------------------------------------------
-- NAL units in the bytes
-- ---------------------------------------------------------------------------

theorem drop_eq_getD_cons {data : List UInt8} {index : Nat} (h : index < data.length) :
    data.drop index = data.getD index 0 :: data.drop (index + 1) := by
  rw [List.drop_eq_getElem_cons h]
  simp [h]

theorem hasNal_of_getD {data : List UInt8} {index : Nat} (hinside : index + 3 < data.length)
    (h0 : data.getD index 0 = 0) (h1 : data.getD (index + 1) 0 = 0)
    (h2 : data.getD (index + 2) 0 = 1) : HasNal data (data.getD (index + 3) 0 &&& 0x1f) := by
  refine ⟨data.getD (index + 3) 0, ?_, rfl⟩
  have hdrop : data.drop index = 0 :: 0 :: 1 :: data.getD (index + 3) 0 :: data.drop (index + 4) := by
    rw [drop_eq_getD_cons (by omega), drop_eq_getD_cons (by omega), drop_eq_getD_cons (by omega),
      drop_eq_getD_cons (by omega), h0, h1, h2]
  have hfront : [0, 0, 1, data.getD (index + 3) 0] <+: data.drop index := by
    rw [hdrop]
    exact ⟨data.drop (index + 4), rfl⟩
  exact hfront.isInfix.trans (List.drop_suffix index data).isInfix

theorem MarksAt.hasNal {data : List UInt8} (h : MarksAt data type index) : HasNal data type := by
  obtain ⟨hlength, hinside, htype⟩ := h
  unfold maskStartLength at hlength hinside htype
  split at hlength
  · rename_i hthree
    simp only [hthree, if_true] at hinside htype
    simp only [Bool.and_eq_true, beq_iff_eq] at hthree
    exact htype ▸ hasNal_of_getD hinside hthree.1.1 hthree.1.2 hthree.2
  · rename_i hthree
    split at hlength
    · rename_i hfour
      rw [if_neg hthree, if_pos hfour] at hinside htype
      simp only [Bool.and_eq_true, beq_iff_eq] at hfour
      -- the last three bytes of a long start code are a short one
      have hinside : index + 1 + 3 < data.length := hinside
      exact htype ▸ hasNal_of_getD hinside hfour.1.1.2 hfour.1.2 hfour.2
    · exact absurd rfl hlength

theorem HasNal.marksAt {data : List UInt8} (h : HasNal data type) :
    ∃ index ∈ List.range (data.length - 3), MarksAt data type index := by
  obtain ⟨header, ⟨front, rest, rfl⟩, htype⟩ := h
  have hstart : maskStartLength (front ++ [0, 0, 1, header] ++ rest) front.length = 3 := by
    simp [maskStartLength, List.getD_eq_getElem?_getD]
  refine ⟨front.length, by simp; omega, ?_⟩
  rw [MarksAt, hstart]
  refine ⟨by simp, by simp, ?_⟩
  simpa [List.getD_eq_getElem?_getD] using htype

/-- A bit of the mask stands for a NAL unit of that type. -/
theorem nalTypeBit_h264NalTypeMask {type : UInt8} (h : type < 32) (data : List UInt8) :
    nalTypeBit (h264NalTypeMask data) type = true ↔ HasNal data type := by
  have hzero : nalTypeBit 0 type = false := by simp [nalTypeBit]
  rw [h264NalTypeMask, nalTypeBit_foldl h]
  constructor
  · rintro (hbit | ⟨index, -, hmarks⟩)
    · simp [hzero] at hbit
    · exact hmarks.hasNal
  · intro hnal
    exact .inr hnal.marksAt

end NanokvmRdp.Gateway
