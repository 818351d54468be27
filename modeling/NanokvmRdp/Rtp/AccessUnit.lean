import NanokvmRdp.Rtp.Packetizer

/-!
# Access units in Annex B form

A NAL unit is a byte string that a decoder can find again between start
codes, and an access unit is a non-empty list of them with a choice of start
code for each. The packetizer cuts the written form of an access unit back
into exactly these NAL units.
-/

namespace NanokvmRdp.Rtp

def nalType (nal : List UInt8) : UInt8 := nal.getD 0 0 &&& 0x1f

/-- No start code begins in these bytes, whatever start code follows them. -/
def Plain (bytes : List UInt8) : Prop := bytes.getLast? ≠ some 0 ∧ ¬ [0, 0, 1] <:+: bytes

instance (bytes : List UInt8) : Decidable (Plain bytes) := by
  unfold Plain
  infer_instance

/-- A NAL unit that is sent as such: a single NAL unit type and no start code. -/
structure Nal where
  bytes : List UInt8
  type_range : 1 ≤ nalType bytes ∧ nalType bytes ≤ 23
  plain : Plain bytes

theorem Nal.ne_nil (nal : Nal) : nal.bytes ≠ [] := by
  intro h
  have htype := nal.type_range.1
  rw [h] at htype
  exact absurd htype (by decide)

theorem Nal.length_pos (nal : Nal) : 0 < nal.bytes.length := List.length_pos_of_ne_nil nal.ne_nil

def startCode (long : Bool) : List UInt8 := if long then [0, 0, 0, 1] else [0, 0, 1]

def annexB (nals : List (Bool × Nal)) : List UInt8 :=
  nals.flatMap fun nal => startCode nal.1 ++ nal.2.bytes

def annexBSize (nals : List (Bool × Nal)) : Nat := (nals.map fun nal => 4 + nal.2.bytes.length).sum

structure AccessUnit where
  nals : List (Bool × Nal)
  ne_nil : nals ≠ []
  fits : annexBSize nals ≤ rtpH264MaxNal

def AccessUnit.data (unit : AccessUnit) : List UInt8 := annexB unit.nals

def AccessUnit.normalised (unit : AccessUnit) : List UInt8 :=
  unit.nals.flatMap fun nal => startCode true ++ nal.2.bytes

def AccessUnit.packets (mtu : Nat) (unit : AccessUnit) : List Outgoing :=
  unitPackets mtu (unit.nals.map fun nal => nal.2.bytes)

-- ---------------------------------------------------------------------------
-- Finding the NAL units again
-- ---------------------------------------------------------------------------

theorem Plain.tail (h : Plain (b :: bytes)) : Plain bytes := by
  refine ⟨?_, fun hinfix => h.2 (List.IsInfix.trans hinfix (List.suffix_cons b bytes).isInfix)⟩
  cases bytes with
  | nil => simp
  | cons c rest => simpa using h.1

theorem startCodeLength_startCode (long : Bool) (rest : List UInt8) :
    startCodeLength (startCode long ++ rest) = (startCode long).length := by
  cases long <;> rfl

theorem startCodeLength_plain (h : Plain bytes) (hne : bytes ≠ []) (rest : List UInt8) :
    startCodeLength (bytes ++ rest) = 0 := by
  unfold startCodeLength
  split
  · rename_i tail heq
    -- A three-byte code lies in the bytes or takes their last byte as a zero.
    match bytes, hne, h with
    | [a], _, h => simp_all [Plain]
    | [a, b], _, h => simp_all [Plain]
    | a :: b :: c :: bytes, _, h =>
      simp only [List.cons_append, List.cons.injEq] at heq
      obtain ⟨rfl, rfl, rfl, -⟩ := heq
      exact absurd ⟨[], bytes, rfl⟩ h.2
  · rename_i tail heq
    match bytes, hne, h with
    | [a], _, h => simp_all [Plain]
    | [a, b], _, h => simp_all [Plain]
    | [a, b, c], _, h => simp_all [Plain]
    | a :: b :: c :: d :: bytes, _, h =>
      simp only [List.cons_append, List.cons.injEq] at heq
      obtain ⟨rfl, rfl, rfl, rfl, -⟩ := heq
      exact absurd ⟨[0], bytes, rfl⟩ h.2
  · rfl

theorem splitNal_plain (h : Plain bytes) (hrest : rest = [] ∨ startCodeLength rest ≠ 0) :
    splitNal (bytes ++ rest) = (bytes, rest) := by
  induction bytes with
  | nil =>
    cases rest with
    | nil => rfl
    | cons b rest =>
      have hcode : startCodeLength (b :: rest) ≠ 0 := hrest.resolve_left (List.cons_ne_nil b rest)
      rw [List.nil_append, splitNal, if_neg hcode]
  | cons b bytes ih =>
    have hcode := startCodeLength_plain h (List.cons_ne_nil b bytes) rest
    rw [List.cons_append] at hcode ⊢
    rw [splitNal, if_pos hcode, ih h.tail]

theorem annexB_cons (nal : Bool × Nal) (nals : List (Bool × Nal)) :
    annexB (nal :: nals) = startCode nal.1 ++ (nal.2.bytes ++ annexB nals) := by
  rw [annexB, List.flatMap_cons, List.append_assoc]
  rfl

theorem annexB_front (nals : List (Bool × Nal)) : annexB nals = [] ∨ startCodeLength (annexB nals) ≠ 0 := by
  cases nals with
  | nil => exact .inl rfl
  | cons nal nals =>
    refine .inr ?_
    rw [annexB_cons, startCodeLength_startCode]
    cases nal.1 <;> decide

theorem startCode_append_ne_nil (long : Bool) (rest : List UInt8) : startCode long ++ rest ≠ [] := by
  cases long <;> exact List.cons_ne_nil _ _

theorem annexB_isEmpty (nals : List (Bool × Nal)) : (annexB nals).isEmpty = nals.isEmpty := by
  cases nals with
  | nil => rfl
  | cons nal nals =>
    rw [annexB_cons, List.isEmpty_eq_false_iff.mpr (startCode_append_ne_nil _ _)]
    rfl

theorem length_le_annexB (nals : List (Bool × Nal)) : nals.length ≤ (annexB nals).length := by
  induction nals with
  | nil => exact Nat.zero_le _
  | cons nal nals ih =>
    have hpos := nal.2.length_pos
    rw [annexB_cons]
    simp only [List.length_cons, List.length_append]
    omega

theorem skipToStartCode_annexB (nals : List (Bool × Nal)) : skipToStartCode (annexB nals) = annexB nals := by
  rcases annexB_front nals with h | h
  · rw [h]
    rfl
  · cases hdata : annexB nals with
    | nil => rfl
    | cons b rest =>
      rw [hdata] at h
      rw [skipToStartCode, if_pos h]

-- ---------------------------------------------------------------------------
-- Packetizing
-- ---------------------------------------------------------------------------

theorem packetizeNals_annexB (timestamp : UInt32) (callback : σ → List UInt8 → Bool × σ)
    (nals : List (Bool × Nal)) (hfit : annexBSize nals ≤ rtpH264MaxNal)
    (hfuel : nals.length ≤ fuel) (hsent : sent = true ∨ nals ≠ [])
    (p : RtpH264Packetizer) (context : σ) :
    packetizeNals timestamp callback fuel sent (annexB nals) p context =
      emitAll timestamp callback (unitPackets p.mtu.toNat (nals.map fun nal => nal.2.bytes)) p
        context := by
  induction nals generalizing fuel sent p context with
  | nil =>
    rcases hsent with rfl | h
    · cases fuel <;> rfl
    · exact absurd rfl h
  | cons nal nals ih =>
    obtain ⟨fuel, rfl⟩ : ∃ n, fuel = n + 1 := ⟨fuel - 1, by simp only [List.length_cons] at hfuel; omega⟩
    have hsize : annexBSize (nal :: nals) = 4 + nal.2.bytes.length + annexBSize nals := rfl
    have hcode := startCodeLength_startCode nal.1 (nal.2.bytes ++ annexB nals)
    have hpos : (startCode nal.1).length ≠ 0 := by cases nal.1 <;> decide
    rw [annexB_cons, packetizeNals, if_neg (startCode_append_ne_nil _ _), hcode, if_neg hpos,
      List.drop_left, splitNal_plain nal.2.plain (annexB_front nals)]
    simp only
    rw [if_neg nal.2.ne_nil, rtpH264PacketizeMarker_eq _ _ _ _ _ _ nal.2.ne_nil (by omega),
      List.map_cons, unitPackets, emitAll_append, annexB_isEmpty, List.isEmpty_map]
    have hmtu := emitAll_mtu timestamp callback
      (nalPackets p.mtu.toNat nal.2.bytes nals.isEmpty) p context
    generalize emitAll timestamp callback (nalPackets p.mtu.toNat nal.2.bytes nals.isEmpty) p
      context = result at hmtu ⊢
    obtain ⟨ok, p', context'⟩ := result
    cases ok with
    | false => rfl
    | true =>
      simp only at hmtu ⊢
      rw [ih (by omega) (Nat.le_of_succ_le_succ hfuel) (.inl rfl), hmtu]

theorem rtpH264PacketizeAccessUnit_eq (p : RtpH264Packetizer) (unit : AccessUnit)
    (timestamp : UInt32) (callback : σ → List UInt8 → Bool × σ) (context : σ) :
    rtpH264PacketizeAccessUnit p unit.data timestamp callback context =
      emitAll timestamp callback (unit.packets p.mtu.toNat) p context := by
  have hne : annexB unit.nals ≠ [] := by
    intro h
    have hempty := annexB_isEmpty unit.nals
    rw [h] at hempty
    exact unit.ne_nil (List.isEmpty_iff.mp hempty.symm)
  rw [AccessUnit.data, rtpH264PacketizeAccessUnit, if_neg hne, skipToStartCode_annexB, if_neg hne]
  exact packetizeNals_annexB _ _ _ unit.fits (length_le_annexB _) (.inr unit.ne_nil) _ _

end NanokvmRdp.Rtp
