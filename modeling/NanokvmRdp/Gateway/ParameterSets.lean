import NanokvmRdp.Gateway.H264

/-!
# Parameter sets in front of an IDR

The video threads remember the SPS and the PPS of the units they read and put
those an IDR unit lacks in front of it. The buffers of `h264.c` are reused: a
buffer is the memory behind its pointer, of which the first `length` bytes count.
A position in the data of `find_nal` is the rest of the data from there on.
-/

namespace NanokvmRdp.Gateway

open Rtp (nalType startCode)

-- ---------------------------------------------------------------------------
-- Finding a NAL unit
-- ---------------------------------------------------------------------------

def nalStart : List UInt8 → Option Nat
  | 0 :: 0 :: 1 :: _ :: _ => some 3
  | 0 :: 0 :: 0 :: 1 :: _ :: _ => some 4
  | _ => none

/-- The bytes up to the next start code. The last two bytes begin none. -/
def nalBody : List UInt8 → List UInt8
  | [] => []
  | b :: rest =>
    if rest.length < 2 then b :: rest
    else if (nalStart (b :: rest)).isSome then []
    else b :: nalBody rest

def findNal (type : UInt8) : List UInt8 → Option (List UInt8)
  | [] => none
  | b :: rest =>
    if rest.length < 3 then none
    else
      match nalStart (b :: rest) with
      | none => findNal type rest
      | some startLength =>
        match (b :: rest).drop startLength with
        | [] => findNal type rest
        | header :: body =>
          if header &&& 0x1f = type then
            some ((b :: rest).take startLength ++ header :: nalBody body)
          else findNal type rest

def h264HasAnnexbStartCode : List UInt8 → Bool
  | 0 :: 0 :: 1 :: _ => true
  | 0 :: 0 :: 0 :: 1 :: _ => true
  | _ => false

def h264AnnexbSize (data : List UInt8) : Nat :=
  if data.length = 0 then 0 else data.length + if h264HasAnnexbStartCode data then 0 else 4

def h264CopyAnnexb (data : List UInt8) : List UInt8 :=
  if data.length = 0 then []
  else if h264HasAnnexbStartCode data then data
  else [0, 0, 0, 1] ++ data

-- ---------------------------------------------------------------------------
-- Buffers
-- ---------------------------------------------------------------------------

/-- `SIZE_MAX`, and which sizes `realloc` has memory for. -/
structure Memory where
  sizeMax : Nat
  allocates : Nat → Bool

def write (storage : List UInt8) (offset : Nat) (bytes : List UInt8) : List UInt8 :=
  storage.take offset ++ bytes ++ storage.drop (offset + bytes.length)

structure H264Buffer where
  data : Option (List UInt8) := none
  length : Nat := 0
  deriving DecidableEq, Repr

namespace H264Buffer

def storage (buffer : H264Buffer) : List UInt8 := buffer.data.getD []

def capacity (buffer : H264Buffer) : Nat := buffer.storage.length

def contents (buffer : H264Buffer) : List UInt8 := buffer.storage.take buffer.length

def reserve (memory : Memory) (buffer : H264Buffer) (size : Nat) : Option H264Buffer :=
  if size > buffer.capacity then
    if memory.allocates size then
      some { buffer with
        data := some (buffer.storage ++ List.replicate (size - buffer.capacity) 0) }
    else none
  else some buffer

def bufferCopyNal (memory : Memory) (buffer : H264Buffer) (data : List UInt8) (type : UInt8) :
    H264Buffer :=
  match findNal type data with
  | none => buffer
  | some nal =>
    match buffer.reserve memory nal.length with
    | none => buffer
    | some buffer =>
      { data := buffer.data.map fun storage => write storage 0 nal, length := nal.length }

end H264Buffer

structure H264ParameterSets where
  sps : H264Buffer := {}
  pps : H264Buffer := {}
  scratch : H264Buffer := {}
  deriving DecidableEq, Repr

namespace H264ParameterSets

def update (memory : Memory) (sets : H264ParameterSets) (au : List UInt8) (nalMask : UInt32) :
    H264ParameterSets :=
  { sets with
    sps := if nalTypeBit nalMask 7 then sets.sps.bufferCopyNal memory au 7 else sets.sps
    pps := if nalTypeBit nalMask 8 then sets.pps.bufferCopyNal memory au 8 else sets.pps }

/-- `sps_size` and `pps_size`: nothing for a set the unit has or that was never
seen. -/
def missingSize (buffer : H264Buffer) (present : Bool) : Nat :=
  if present || buffer.data.isNone then 0 else h264AnnexbSize buffer.contents

def prepareIdr (memory : Memory) (sets : H264ParameterSets) (au : List UInt8) (nalMask : UInt32) :
    Option (List UInt8) × H264ParameterSets :=
  let spsSize := missingSize sets.sps (nalTypeBit nalMask 7)
  let ppsSize := missingSize sets.pps (nalTypeBit nalMask 8)
  if spsSize > memory.sizeMax - ppsSize ∨ spsSize + ppsSize > memory.sizeMax - au.length then
    (none, sets)
  else if spsSize = 0 ∧ ppsSize = 0 then (some au, sets)
  else
    match sets.scratch.reserve memory (spsSize + ppsSize + au.length) with
    | none => (none, sets)
    | some scratch =>
      let sps := if spsSize ≠ 0 then h264CopyAnnexb sets.sps.contents else []
      let pps := if ppsSize ≠ 0 then h264CopyAnnexb sets.pps.contents else []
      let offset := sps.length + pps.length
      let storage := write (write (write scratch.storage 0 sps) sps.length pps) offset au
      (some (storage.take (offset + au.length)),
        { sets with scratch := { scratch with data := some storage } })

/-- What `video_thread` and `http_video_thread` do with a unit. An IDR is only
prepared when it is to be sent; the result is what is sent. -/
def processUnit (memory : Memory) (sets : H264ParameterSets) (data : List UInt8) (sends : Bool) :
    Option (List UInt8) × H264ParameterSets :=
  let nalTypes := h264NalTypeMask data
  let sets := sets.update memory data nalTypes
  if sends then
    if nalTypeBit nalTypes 5 then sets.prepareIdr memory data nalTypes else (some data, sets)
  else (none, sets)

def processUnits (memory : Memory) (sets : H264ParameterSets) :
    List (List UInt8 × Bool) → H264ParameterSets
  | [] => sets
  | (data, sends) :: units => processUnits memory (sets.processUnit memory data sends).2 units

end H264ParameterSets

-- ---------------------------------------------------------------------------
-- Units of NAL units
-- ---------------------------------------------------------------------------

structure CodedNal where
  bytes : List UInt8
  ne_nil : bytes ≠ []
  plain : ¬ [0, 0, 1] <:+: bytes

namespace CodedNal

def type (nal : CodedNal) : UInt8 := nalType nal.bytes

def coded (nal : CodedNal) : List UInt8 := [0, 0, 0, 1] ++ nal.bytes

end CodedNal

def codedUnit (nals : List CodedNal) : List UInt8 := nals.flatMap CodedNal.coded

def firstNal (type : UInt8) (nals : List CodedNal) : Option CodedNal :=
  nals.find? fun nal => nal.type == type

/-- The first NAL unit of this type in the latest unit that has one. -/
def latestNal (type : UInt8) (units : List (List CodedNal)) : Option CodedNal :=
  units.reverse.findSome? (firstNal type)

/-- What is put in front of a unit that comes after these: nothing if the unit
has a NAL unit of this type or none was seen. -/
def prepended (type : UInt8) (units : List (List CodedNal)) (unit : List CodedNal) :
    List CodedNal :=
  if (firstNal type unit).isSome then [] else (latestNal type units).toList

def seenBit (type : UInt8) (units : List (List CodedNal)) : UInt32 :=
  if (latestNal type units).isSome then (1 : UInt32) <<< type.toUInt32 else 0

theorem codedUnit_cons (nal : CodedNal) (nals : List CodedNal) :
    codedUnit (nal :: nals) = 0 :: 0 :: 0 :: 1 :: (nal.bytes ++ codedUnit nals) := rfl

theorem firstNal_cons (type : UInt8) (nal : CodedNal) (nals : List CodedNal) :
    firstNal type (nal :: nals) = if nal.type = type then some nal else firstNal type nals := by
  rw [firstNal, List.find?_cons]
  by_cases htype : nal.type = type
  · simp [htype]
  · rw [beq_false_of_ne htype, if_neg htype]
    rfl

theorem codedUnit_append (nals more : List CodedNal) :
    codedUnit (nals ++ more) = codedUnit nals ++ codedUnit more := List.flatMap_append

theorem CodedNal.exists_cons (nal : CodedNal) :
    ∃ header body, nal.bytes = header :: body ∧ header &&& 0x1f = nal.type := by
  obtain ⟨header, body, hbytes⟩ := List.exists_cons_of_ne_nil nal.ne_nil
  exact ⟨header, body, hbytes, by rw [type, nalType, hbytes]; rfl⟩

theorem not_infix_tail {b : UInt8} {bytes : List UInt8} (h : ¬ [0, 0, 1] <:+: b :: bytes) :
    ¬ [0, 0, 1] <:+: bytes :=
  fun hinfix => h (List.IsInfix.trans hinfix (List.suffix_cons b bytes).isInfix)

theorem nalStart_eq_some_iff {data : List UInt8} {startLength : Nat} :
    nalStart data = some startLength ↔
      ∃ long header rest, data = startCode long ++ header :: rest ∧
        startLength = (startCode long).length := by
  constructor
  · intro h
    unfold nalStart at h
    split at h
    · exact ⟨false, _, _, rfl, (Option.some.inj h).symm⟩
    · exact ⟨true, _, _, rfl, (Option.some.inj h).symm⟩
    · cases h
  · rintro ⟨long, header, rest, rfl, rfl⟩
    cases long <;> rfl

theorem short_startCode (long : Bool) : [0, 0, 1] <:+: startCode long := by
  cases long with
  | false => exact List.infix_rfl
  | true => exact ⟨[0], [], rfl⟩

theorem codedUnit_front (nals : List CodedNal) :
    codedUnit nals = [] ∨ [0, 0, 0] <+: codedUnit nals := by
  cases nals with
  | nil => exact .inl rfl
  | cons nal nals => exact .inr ⟨_, (codedUnit_cons nal nals).symm⟩

/-- No start code begins in a NAL unit, also where its last bytes are zeros: the
start code behind it has three zeros of its own. -/
theorem nalStart_plain {b : UInt8} {bytes rest : List UInt8} (h : ¬ [0, 0, 1] <:+: b :: bytes)
    (hrest : rest = [] ∨ [0, 0, 0] <+: rest) : nalStart (b :: (bytes ++ rest)) = none := by
  cases hstart : nalStart (b :: (bytes ++ rest)) with
  | none => rfl
  | some startLength =>
    exfalso
    obtain ⟨long, header, tail, heq, -⟩ := nalStart_eq_some_iff.mp hstart
    obtain rfl | ⟨more, rfl⟩ := hrest
    · rw [List.append_nil] at heq
      exact h (heq ▸ (short_startCode long).trans (List.prefix_append _ _).isInfix)
    · cases long with
      | false =>
        match bytes, h, heq with
        | [], _, heq => simp [startCode] at heq
        | [_], _, heq => simp [startCode] at heq
        | _ :: _ :: bytes, h, heq =>
          simp only [startCode, Bool.false_eq_true, if_false, List.cons_append, List.cons.injEq] at heq
          obtain ⟨rfl, rfl, rfl, -⟩ := heq
          exact h ⟨[], bytes, rfl⟩
      | true =>
        match bytes, h, heq with
        | [], _, heq => simp [startCode] at heq
        | [_], _, heq => simp [startCode] at heq
        | [_, _], _, heq => simp [startCode] at heq
        | _ :: _ :: _ :: bytes, h, heq =>
          simp only [startCode, if_true, List.cons_append, List.cons.injEq] at heq
          obtain ⟨rfl, rfl, rfl, rfl, -⟩ := heq
          exact h ⟨[0], bytes, rfl⟩

-- ---------------------------------------------------------------------------
-- The scan finds the NAL units
-- ---------------------------------------------------------------------------

theorem nalBody_codedUnit (nals : List CodedNal) : nalBody (codedUnit nals) = [] := by
  cases nals with
  | nil => rfl
  | cons nal nals =>
    obtain ⟨header, body, hbytes, -⟩ := nal.exists_cons
    rw [codedUnit_cons, hbytes]
    simp [nalBody, nalStart]

/-- The end of a NAL unit is where the next one begins, or the end of the data. -/
theorem nalBody_plain {bytes : List UInt8} (h : ¬ [0, 0, 1] <:+: bytes) (nals : List CodedNal) :
    nalBody (bytes ++ codedUnit nals) = bytes := by
  induction bytes with
  | nil => exact nalBody_codedUnit nals
  | cons b bytes ih =>
    rw [List.cons_append, nalBody, nalStart_plain h (codedUnit_front nals)]
    split
    · rename_i hshort
      -- a unit behind these bytes would not be so short
      cases nals with
      | nil => simp [codedUnit]
      | cons nal nals =>
        simp [codedUnit_cons] at hshort
        omega
    · simp only [Option.isSome_none, Bool.false_eq_true, if_false]
      rw [ih (not_infix_tail h)]

theorem findNal_short {type : UInt8} {data : List UInt8} (h : data.length < 4) :
    findNal type data = none := by
  cases data with
  | nil => rfl
  | cons b rest =>
    rw [findNal, if_pos (Nat.lt_of_succ_lt_succ h)]

theorem findNal_skip {type b : UInt8} {rest : List UInt8} (h : nalStart (b :: rest) = none) :
    findNal type (b :: rest) = findNal type rest := by
  rw [findNal, h]
  split
  · rename_i hshort
    exact (findNal_short (Nat.lt_succ_of_lt hshort)).symm
  · rfl

theorem findNal_plain {type : UInt8} {bytes : List UInt8} (h : ¬ [0, 0, 1] <:+: bytes)
    (nals : List CodedNal) : findNal type (bytes ++ codedUnit nals) = findNal type (codedUnit nals) := by
  induction bytes with
  | nil => rfl
  | cons b bytes ih =>
    rw [List.cons_append, findNal_skip (nalStart_plain h (codedUnit_front nals)), ih (not_infix_tail h)]

theorem findNal_cons (type : UInt8) (nal : CodedNal) (nals : List CodedNal) :
    findNal type (codedUnit (nal :: nals)) =
      if nal.type = type then some nal.coded else findNal type (codedUnit nals) := by
  obtain ⟨header, body, hbytes, htype⟩ := nal.exists_cons
  have hplain := nal.plain
  rw [hbytes] at hplain
  have hrest : findNal type (header :: body ++ codedUnit nals) = findNal type (codedUnit nals) :=
    findNal_plain hplain nals
  rw [codedUnit_cons, hbytes, ← htype]
  by_cases hfound : header &&& 0x1f = type
  · rw [if_pos hfound, CodedNal.coded, hbytes]
    simp [findNal, nalStart, hfound, nalBody_plain (not_infix_tail hplain) nals]
  · -- the long start code is met a second time as a short one
    have hlong : findNal type (0 :: 0 :: 0 :: 1 :: (header :: body ++ codedUnit nals)) =
        findNal type (0 :: 0 :: 1 :: (header :: body ++ codedUnit nals)) := by
      rw [findNal]
      simp [nalStart, hfound]
    have hshort : findNal type (0 :: 0 :: 1 :: (header :: body ++ codedUnit nals)) =
        findNal type (0 :: 1 :: (header :: body ++ codedUnit nals)) := by
      rw [findNal]
      simp [nalStart, hfound]
    rw [if_neg hfound, hlong, hshort, findNal_skip (by simp [nalStart]),
      findNal_skip (by simp [nalStart]), hrest]

theorem findNal_codedUnit (type : UInt8) (nals : List CodedNal) :
    findNal type (codedUnit nals) = (firstNal type nals).map CodedNal.coded := by
  induction nals with
  | nil => rfl
  | cons nal nals ih =>
    rw [findNal_cons, ih, firstNal_cons]
    split <;> rfl

-- ---------------------------------------------------------------------------
-- The mask has the types of the NAL units
-- ---------------------------------------------------------------------------

theorem not_start_prefix {data : List UInt8} (h : nalStart data = none) (header : UInt8) :
    ¬ [0, 0, 1, header] <+: data := by
  rintro ⟨rest, rfl⟩
  cases h

theorem hasNal_skip {b type : UInt8} {rest : List UInt8} (h : nalStart (b :: rest) = none) :
    HasNal (b :: rest) type ↔ HasNal rest type := by
  simp only [HasNal, List.infix_cons_iff, not_start_prefix h, false_or]

theorem hasNal_plain {type : UInt8} {bytes rest : List UInt8} (h : ¬ [0, 0, 1] <:+: bytes)
    (hrest : rest = [] ∨ [0, 0, 0] <+: rest) : HasNal (bytes ++ rest) type ↔ HasNal rest type := by
  induction bytes with
  | nil => rfl
  | cons b bytes ih =>
    rw [List.cons_append, hasNal_skip (nalStart_plain h hrest), ih (not_infix_tail h)]

theorem hasNal_start (header type : UInt8) (rest : List UInt8) :
    HasNal (0 :: 0 :: 1 :: header :: rest) type ↔
      header &&& 0x1f = type ∨ HasNal (0 :: 1 :: header :: rest) type := by
  constructor
  · rintro ⟨found, hinfix, htype⟩
    obtain hhere | hlater := List.infix_cons_iff.mp hinfix
    · obtain ⟨more, heq⟩ := hhere
      simp only [List.cons_append, List.cons.injEq] at heq
      exact .inl (by rw [← heq.2.2.2.1, htype])
    · exact .inr ⟨found, hlater, htype⟩
  · rintro (htype | ⟨found, hinfix, htype⟩)
    · exact ⟨header, ⟨[], rest, rfl⟩, htype⟩
    · exact ⟨found, List.infix_cons hinfix, htype⟩

theorem hasNal_startCode (header type : UInt8) (rest : List UInt8) :
    HasNal (0 :: 0 :: 0 :: 1 :: header :: rest) type ↔
      header &&& 0x1f = type ∨ HasNal (header :: rest) type := by
  have hfirst : HasNal (0 :: 0 :: 0 :: 1 :: header :: rest) type ↔
      HasNal (0 :: 0 :: 1 :: header :: rest) type := by
    refine exists_congr fun found => and_congr_left fun _ => ?_
    rw [List.infix_cons_iff]
    refine or_iff_right fun hhere => ?_
    simp [List.cons_prefix_cons] at hhere
  rw [hfirst, hasNal_start, hasNal_skip (by simp [nalStart]), hasNal_skip (by simp [nalStart])]

theorem hasNal_cons (type : UInt8) (nal : CodedNal) (nals : List CodedNal) :
    HasNal (codedUnit (nal :: nals)) type ↔ nal.type = type ∨ HasNal (codedUnit nals) type := by
  obtain ⟨header, body, hbytes, htype⟩ := nal.exists_cons
  have hplain := nal.plain
  rw [hbytes] at hplain
  rw [codedUnit_cons, hbytes, List.cons_append, hasNal_startCode, ← List.cons_append,
    hasNal_plain hplain (codedUnit_front nals), htype]

theorem hasNal_codedUnit (type : UInt8) (nals : List CodedNal) :
    HasNal (codedUnit nals) type ↔ (firstNal type nals).isSome = true := by
  induction nals with
  | nil => simp [codedUnit, HasNal, firstNal]
  | cons nal nals ih =>
    rw [hasNal_cons, ih, firstNal_cons]
    by_cases htype : nal.type = type
    · simp [htype]
    · simp [htype]

theorem nalTypeBit_codedUnit {type : UInt8} (h : type < 32) (nals : List CodedNal) :
    nalTypeBit (h264NalTypeMask (codedUnit nals)) type = (firstNal type nals).isSome := by
  rw [Bool.eq_iff_iff, nalTypeBit_h264NalTypeMask h, hasNal_codedUnit]

-- ---------------------------------------------------------------------------
-- What the buffers hold
-- ---------------------------------------------------------------------------

theorem take_write {storage : List UInt8} {offset : Nat} (h : offset ≤ storage.length)
    (bytes : List UInt8) :
    (write storage offset bytes).take (offset + bytes.length) = storage.take offset ++ bytes := by
  have hfront : (storage.take offset ++ bytes).length = offset + bytes.length := by
    rw [List.length_append, List.length_take, Nat.min_eq_left h]
  rw [write, ← hfront, List.take_left]

theorem length_write {storage : List UInt8} {offset : Nat} {bytes : List UInt8}
    (h : offset + bytes.length ≤ storage.length) :
    (write storage offset bytes).length = storage.length := by
  simp only [write, List.length_append, List.length_take, List.length_drop]
  omega

theorem H264Buffer.reserve_some {memory : Memory} (hmemory : ∀ size, memory.allocates size = true)
    (buffer : H264Buffer) {size : Nat} (hsize : 0 < size) :
    ∃ after storage, buffer.reserve memory size = some after ∧ after.data = some storage ∧
      size ≤ storage.length := by
  unfold reserve
  split
  · rw [if_pos (hmemory size)]
    refine ⟨_, _, rfl, rfl, ?_⟩
    simp only [List.length_append, List.length_replicate, capacity]
    omega
  · rename_i hfits
    cases hdata : buffer.data with
    | none =>
      simp [capacity, storage, hdata] at hfits
      omega
    | some storage =>
      refine ⟨buffer, storage, rfl, hdata, ?_⟩
      simpa [capacity, H264Buffer.storage, hdata] using hfits

def Caches (buffer : H264Buffer) : Option CodedNal → Prop
  | none => buffer.data = none
  | some nal => buffer.data.isSome = true ∧ buffer.contents = nal.coded

theorem CodedNal.length_coded (nal : CodedNal) : 0 < nal.coded.length := by
  simp [coded]

theorem caches_bufferCopyNal {memory : Memory} (hmemory : ∀ size, memory.allocates size = true)
    {buffer : H264Buffer} {cached : Option CodedNal} (h : Caches buffer cached)
    {type : UInt8} (htype : type < 32) (unit : List CodedNal) :
    Caches (if nalTypeBit (h264NalTypeMask (codedUnit unit)) type then
        buffer.bufferCopyNal memory (codedUnit unit) type else buffer)
      ((firstNal type unit).or cached) := by
  rw [nalTypeBit_codedUnit htype]
  cases hfirst : firstNal type unit with
  | none => simpa using h
  | some nal =>
    obtain ⟨after, storage, hreserve, hdata, hfits⟩ :=
      buffer.reserve_some hmemory nal.length_coded
    simp only [Option.isSome_some, if_true, Option.some_or]
    rw [H264Buffer.bufferCopyNal, findNal_codedUnit, hfirst]
    simp only [Option.map_some, hreserve, hdata]
    refine ⟨rfl, ?_⟩
    have htake := take_write (Nat.zero_le storage.length) nal.coded
    simpa [H264Buffer.contents, H264Buffer.storage] using htake

theorem latestNal_concat (type : UInt8) (units : List (List CodedNal)) (unit : List CodedNal) :
    latestNal type (units ++ [unit]) = (firstNal type unit).or (latestNal type units) := by
  rw [latestNal, List.reverse_append, List.reverse_singleton, List.singleton_append,
    List.findSome?_cons]
  cases firstNal type unit <;> rfl

namespace H264ParameterSets

structure Holds (sets : H264ParameterSets) (units : List (List CodedNal)) : Prop where
  sps : Caches sets.sps (latestNal 7 units)
  pps : Caches sets.pps (latestNal 8 units)

theorem holds_update {memory : Memory} (hmemory : ∀ size, memory.allocates size = true)
    {sets : H264ParameterSets} {units : List (List CodedNal)} (h : sets.Holds units)
    (unit : List CodedNal) :
    (sets.update memory (codedUnit unit) (h264NalTypeMask (codedUnit unit))).Holds
      (units ++ [unit]) where
  sps := by
    rw [latestNal_concat]
    exact caches_bufferCopyNal hmemory h.sps (by decide) unit
  pps := by
    rw [latestNal_concat]
    exact caches_bufferCopyNal hmemory h.pps (by decide) unit

theorem prepareIdr_keeps (memory : Memory) (sets : H264ParameterSets) (au : List UInt8)
    (nalMask : UInt32) :
    (sets.prepareIdr memory au nalMask).2.sps = sets.sps ∧
      (sets.prepareIdr memory au nalMask).2.pps = sets.pps := by
  unfold prepareIdr
  simp only
  split
  · exact ⟨rfl, rfl⟩
  split
  · exact ⟨rfl, rfl⟩
  split <;> exact ⟨rfl, rfl⟩

theorem holds_processUnit {memory : Memory} (hmemory : ∀ size, memory.allocates size = true)
    {sets : H264ParameterSets} {units : List (List CodedNal)} (h : sets.Holds units)
    (unit : List CodedNal) (sends : Bool) :
    (sets.processUnit memory (codedUnit unit) sends).2.Holds (units ++ [unit]) := by
  have hupdate := holds_update hmemory h unit
  unfold processUnit
  simp only
  split
  · split
    · obtain ⟨hsps, hpps⟩ := prepareIdr_keeps memory
        (sets.update memory (codedUnit unit) (h264NalTypeMask (codedUnit unit))) (codedUnit unit)
        (h264NalTypeMask (codedUnit unit))
      exact ⟨by rw [hsps]; exact hupdate.sps, by rw [hpps]; exact hupdate.pps⟩
    · exact hupdate
  · exact hupdate

theorem holds_processUnits {memory : Memory} (hmemory : ∀ size, memory.allocates size = true)
    {sets : H264ParameterSets} {before : List (List CodedNal)} (h : sets.Holds before)
    (units : List (List CodedNal × Bool)) :
    (sets.processUnits memory (units.map fun unit => (codedUnit unit.1, unit.2))).Holds
      (before ++ units.map Prod.fst) := by
  induction units generalizing sets before with
  | nil => simpa [processUnits] using h
  | cons unit units ih =>
    have hnext := ih (holds_processUnit hmemory h unit.1 unit.2)
    simpa [processUnits] using hnext

-- ---------------------------------------------------------------------------
-- What is put in front of an IDR
-- ---------------------------------------------------------------------------

theorem missing_eq {buffer : H264Buffer} {cached : Option CodedNal} (h : Caches buffer cached)
    (present : Bool) :
    missingSize buffer present = (codedUnit (if present then [] else cached.toList)).length ∧
      (if missingSize buffer present ≠ 0 then h264CopyAnnexb buffer.contents else []) =
        codedUnit (if present then [] else cached.toList) := by
  cases present with
  | true => exact ⟨rfl, rfl⟩
  | false =>
    cases cached with
    | none =>
      have hnone : buffer.data = none := h
      simp [missingSize, hnone, codedUnit]
    | some nal =>
      obtain ⟨hdata, hcontents⟩ := h
      have hne : buffer.data.isNone = false := by
        cases hbuffer : buffer.data with
        | none => rw [hbuffer] at hdata; cases hdata
        | some storage => rfl
      have hsize : missingSize buffer false = nal.coded.length := by
        rw [missingSize, hne, hcontents]
        simp [h264AnnexbSize, CodedNal.coded, h264HasAnnexbStartCode]
      have hunit : codedUnit [nal] = nal.coded := List.append_nil _
      rw [hsize]
      refine ⟨by simp [hunit], ?_⟩
      rw [if_pos (Nat.ne_of_gt nal.length_coded), hcontents]
      simp [h264CopyAnnexb, CodedNal.coded, h264HasAnnexbStartCode, codedUnit]

theorem prepareIdr_payload {memory : Memory} (hmemory : ∀ size, memory.allocates size = true)
    {sets : H264ParameterSets} {sps pps au : List UInt8} {nalMask : UInt32}
    (hsps : missingSize sets.sps (nalTypeBit nalMask 7) = sps.length ∧
      (if missingSize sets.sps (nalTypeBit nalMask 7) ≠ 0 then h264CopyAnnexb sets.sps.contents
        else []) = sps)
    (hpps : missingSize sets.pps (nalTypeBit nalMask 8) = pps.length ∧
      (if missingSize sets.pps (nalTypeBit nalMask 8) ≠ 0 then h264CopyAnnexb sets.pps.contents
        else []) = pps)
    (hsize : (sps ++ pps ++ au).length ≤ memory.sizeMax) :
    (sets.prepareIdr memory au nalMask).1 = some (sps ++ pps ++ au) := by
  simp only [List.length_append] at hsize
  unfold prepareIdr
  simp only [hsps.2, hpps.2]
  simp only [hsps.1, hpps.1]
  rw [if_neg (by omega)]
  split
  · rename_i hnone
    rw [List.length_eq_zero_iff.mp hnone.1, List.length_eq_zero_iff.mp hnone.2]
    rfl
  · rename_i hsome
    have hpositive : 0 < sps.length + pps.length + au.length := by omega
    obtain ⟨scratch, storage, hreserve, hdata, hfits⟩ :=
      sets.scratch.reserve_some hmemory hpositive
    simp only [hreserve]
    have hstorage : scratch.storage = storage := by rw [H264Buffer.storage, hdata]; rfl
    rw [hstorage]
    have hfirst : (write storage 0 sps).length = storage.length := length_write (by omega)
    have hsecond : (write (write storage 0 sps) sps.length pps).length = storage.length := by
      rw [length_write (by omega), hfirst]
    have hspsWritten : (write storage 0 sps).take sps.length = sps := by
      simpa using take_write (Nat.zero_le storage.length) sps
    rw [take_write (by omega), take_write (by omega), hspsWritten]

/-- With the sets of the units so far in the buffers, exactly those the unit
lacks are put in front of it. -/
theorem prepareIdr_holds {memory : Memory} (hmemory : ∀ size, memory.allocates size = true)
    {sets : H264ParameterSets} {units : List (List CodedNal)} {unit : List CodedNal}
    (h : sets.Holds (units ++ [unit]))
    (hsize : (codedUnit (prepended 7 units unit) ++ codedUnit (prepended 8 units unit) ++
      codedUnit unit).length ≤ memory.sizeMax) :
    (sets.prepareIdr memory (codedUnit unit) (h264NalTypeMask (codedUnit unit))).1 =
      some (codedUnit (prepended 7 units unit) ++ codedUnit (prepended 8 units unit) ++
        codedUnit unit) := by
  have hset : ∀ type : UInt8, (if (firstNal type unit).isSome then []
      else (latestNal type (units ++ [unit])).toList) = prepended type units unit := by
    intro type
    rw [prepended, latestNal_concat]
    cases firstNal type unit <;> rfl
  have hsps := missing_eq h.sps (nalTypeBit (h264NalTypeMask (codedUnit unit)) 7)
  have hpps := missing_eq h.pps (nalTypeBit (h264NalTypeMask (codedUnit unit)) 8)
  simp only [nalTypeBit_codedUnit (show (7 : UInt8) < 32 by decide), hset] at hsps
  simp only [nalTypeBit_codedUnit (show (8 : UInt8) < 32 by decide), hset] at hpps
  refine prepareIdr_payload hmemory ?_ ?_ hsize
  · rw [nalTypeBit_codedUnit (by decide)]
    exact hsps
  · rw [nalTypeBit_codedUnit (by decide)]
    exact hpps

end H264ParameterSets

-- ---------------------------------------------------------------------------
-- The mask of the payload
-- ---------------------------------------------------------------------------

theorem mask_ext {mask other : UInt32}
    (h : ∀ type : UInt8, type < 32 → nalTypeBit mask type = nalTypeBit other type) :
    mask = other := by
  refine UInt32.toBitVec_inj.mp (BitVec.eq_of_getLsbD_eq fun i hi => ?_)
  have htype : (UInt8.ofNat i).toNat = i := by
    rw [UInt8.toNat_ofNat']
    exact Nat.mod_eq_of_lt (Nat.lt_trans hi (by decide))
  have hlt : UInt8.ofNat i < 32 := by
    rw [UInt8.lt_iff_toNat_lt, htype]
    exact hi
  have hbit := h (UInt8.ofNat i) hlt
  rwa [nalTypeBit_eq hlt, nalTypeBit_eq hlt, htype] at hbit

theorem firstNal_append (type : UInt8) (nals more : List CodedNal) :
    (firstNal type (nals ++ more)).isSome =
      ((firstNal type nals).isSome || (firstNal type more).isSome) := by
  rw [firstNal, List.find?_append]
  simp only [Option.isSome_or, firstNal]

theorem type_latestNal {type : UInt8} {units : List (List CodedNal)} {nal : CodedNal}
    (h : latestNal type units = some nal) : nal.type = type := by
  obtain ⟨unit, -, hfirst⟩ := List.exists_of_findSome?_eq_some h
  simpa using List.find?_some hfirst

theorem firstNal_prepended (type other : UInt8) (units : List (List CodedNal))
    (unit : List CodedNal) :
    (firstNal other (prepended type units unit)).isSome = true ↔
      type = other ∧ (firstNal type unit).isSome = false ∧
        (latestNal type units).isSome = true := by
  unfold prepended
  cases hfirst : firstNal type unit with
  | some nal => simp [firstNal]
  | none =>
    cases hlatest : latestNal type units with
    | none => simp [firstNal]
    | some nal => simp [firstNal, type_latestNal hlatest]

theorem nalTypeBit_seenBit {type other : UInt8} (htype : type < 32) (hother : other < 32)
    (mask : UInt32) (units : List (List CodedNal)) :
    nalTypeBit (mask ||| seenBit type units) other = true ↔
      nalTypeBit mask other = true ∨ (type = other ∧ (latestNal type units).isSome = true) := by
  unfold seenBit
  split
  · rename_i hseen
    rw [nalTypeBit_or hother htype]
    simp [hseen]
  · rename_i hseen
    simp [hseen]

theorem mask_payload (units : List (List CodedNal)) (unit : List CodedNal) :
    h264NalTypeMask (codedUnit (prepended 7 units unit ++ prepended 8 units unit ++ unit)) =
      h264NalTypeMask (codedUnit unit) ||| seenBit 7 (units ++ [unit]) |||
        seenBit 8 (units ++ [unit]) := by
  refine mask_ext fun type htype => ?_
  rw [Bool.eq_iff_iff, nalTypeBit_seenBit (by decide) htype, nalTypeBit_seenBit (by decide) htype,
    nalTypeBit_codedUnit htype, nalTypeBit_codedUnit htype, firstNal_append, firstNal_append,
    Bool.or_eq_true, Bool.or_eq_true, firstNal_prepended, firstNal_prepended, latestNal_concat,
    latestNal_concat, Option.isSome_or, Option.isSome_or, Bool.or_eq_true, Bool.or_eq_true]
  -- a set the unit has is in its own mask
  constructor
  · rintro ((⟨rfl, -, hseen⟩ | ⟨rfl, -, hseen⟩) | hunit)
    · exact .inl (.inr ⟨rfl, .inr hseen⟩)
    · exact .inr ⟨rfl, .inr hseen⟩
    · exact .inl (.inl hunit)
  · have hset : ∀ set : UInt8, set = type →
        ((firstNal set unit).isSome = true ∨ (latestNal set units).isSome = true) →
        (set = type ∧ (firstNal set unit).isSome = false ∧
          (latestNal set units).isSome = true) ∨ (firstNal type unit).isSome = true := by
      rintro set rfl hseen
      cases hfirst : (firstNal set unit).isSome with
      | true => exact .inr rfl
      | false =>
        rw [hfirst] at hseen
        exact .inl ⟨rfl, rfl, hseen.resolve_left Bool.false_ne_true⟩
    rintro ((hunit | ⟨heq, hseen⟩) | ⟨heq, hseen⟩)
    · exact .inr hunit
    · exact (hset 7 heq hseen).imp_left .inl
    · exact (hset 8 heq hseen).imp_left .inr

-- ---------------------------------------------------------------------------
-- IDR payloads
-- ---------------------------------------------------------------------------

namespace H264ParameterSets

/-- An IDR unit is sent with the latest parameter sets it lacks in front of it,
and with no other type of NAL unit. -/
theorem idr_payload_latest_sets (memory : Memory) (hmemory : ∀ size, memory.allocates size = true)
    (history : List (List CodedNal × Bool)) (unit : List CodedNal)
    (hidr : nalTypeBit (h264NalTypeMask (codedUnit unit)) 5 = true)
    (hsize : (codedUnit (prepended 7 (history.map Prod.fst) unit) ++
      codedUnit (prepended 8 (history.map Prod.fst) unit) ++ codedUnit unit).length ≤
        memory.sizeMax) :
    let units := history.map Prod.fst
    let sets := processUnits memory {} (history.map fun unit => (codedUnit unit.1, unit.2))
    ∃ payload, (sets.processUnit memory (codedUnit unit) true).1 = some payload ∧
      payload = codedUnit (prepended 7 units unit) ++ codedUnit (prepended 8 units unit) ++
        codedUnit unit ∧
      h264NalTypeMask payload = h264NalTypeMask (codedUnit unit) |||
        seenBit 7 (units ++ [unit]) ||| seenBit 8 (units ++ [unit]) := by
  intro units sets
  have hsets : sets.Holds units := by
    have hempty : ({} : H264ParameterSets).Holds [] := ⟨rfl, rfl⟩
    exact holds_processUnits hmemory hempty history
  refine ⟨_, ?_, rfl, ?_⟩
  · rw [processUnit]
    simp only [if_true, hidr]
    exact prepareIdr_holds hmemory (holds_update hmemory hsets unit) hsize
  · rw [← codedUnit_append, ← codedUnit_append]
    exact mask_payload units unit

end H264ParameterSets

def spsNal : CodedNal := ⟨[0x67, 0x42, 0x00], by decide, by decide⟩
def ppsNal : CodedNal := ⟨[0x68, 0xce], by decide, by decide⟩
def idrNal : CodedNal := ⟨[0x65, 0x88], by decide, by decide⟩

theorem bare_idr_gets_sets :
    ∃ payload,
      ((H264ParameterSets.processUnits ⟨64, fun _ => true⟩ {}
        [(codedUnit [spsNal, ppsNal], true)]).processUnit ⟨64, fun _ => true⟩
          (codedUnit [idrNal]) true).1 = some payload ∧
      payload = [0, 0, 0, 1, 0x67, 0x42, 0x00] ++ [0, 0, 0, 1, 0x68, 0xce] ++
        [0, 0, 0, 1, 0x65, 0x88] := by
  obtain ⟨payload, hpayload, heq, -⟩ := H264ParameterSets.idr_payload_latest_sets
    ⟨64, fun _ => true⟩ (fun _ => rfl) [([spsNal, ppsNal], true)] [idrNal] (by decide) (by decide)
  exact ⟨payload, hpayload, heq.trans (by decide)⟩

end NanokvmRdp.Gateway
