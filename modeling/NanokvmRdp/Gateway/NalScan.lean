import NanokvmRdp.Gateway.ParameterSets

/-!
# The scanners of Annex B data

`h264_nal_type_mask`, `find_nal` and `h264_copy_nal` each look for start codes
in a buffer, with bounds of their own. They see the same NAL units, in any
bytes: the mask has the bit of a type where the others find a NAL unit of it,
and what they find is the first one, up to the next start code.
-/

namespace NanokvmRdp.Gateway

open Rtp (startCode)

-- ---------------------------------------------------------------------------
-- The scanners
-- ---------------------------------------------------------------------------

def nalStartAt (data : List UInt8) (index : Nat) : Option Nat :=
  if index + 3 ≥ data.length ∨ data.getD index 0 ≠ 0 ∨ data.getD (index + 1) 0 ≠ 0 then none
  else if data.getD (index + 2) 0 = 1 then some 3
  else if index + 4 < data.length ∧ data.getD (index + 2) 0 = 0 ∧ data.getD (index + 3) 0 = 1 then
    some 4
  else none

/-- The `while` loop of `find_nal` and `h264_copy_nal`. -/
def scanEnd (data : List UInt8) : Nat → Nat → Nat
  | 0, last => last
  | fuel + 1, last =>
    if last + 2 < data.length then
      if (nalStartAt data last).isSome then last else scanEnd data fuel (last + 1)
    else last

def nalEnd (data : List UInt8) (body : Nat) : Nat :=
  let last := scanEnd data data.length body
  if last + 2 ≥ data.length then data.length else last

/-- A turn of the loop of `find_nal`: `start` and `nal_length`, or `continue`. -/
def findNalAt (data : List UInt8) (type : UInt8) (index : Nat) : Option (Nat × Nat) :=
  match nalStartAt data index with
  | none => none
  | some startLength =>
    if index + startLength ≥ data.length ∨
        data.getD (index + startLength) 0 &&& 0x1f ≠ type then none
    else some (index, nalEnd data (index + startLength + 1) - index)

def findNalIn (data : List UInt8) (type : UInt8) : Option (Nat × Nat) :=
  (List.range (data.length - 3)).findSome? (findNalAt data type)

def slice (data : List UInt8) (start length : Nat) : List UInt8 := (data.drop start).take length

/-- A turn of the loop of `h264_copy_nal`: the copy, `some none` if there is no memory for it,
or `continue`. -/
def copyNalAt (malloc : Nat → Bool) (data : List UInt8) (type : UInt8) (index : Nat) :
    Option (Option (List UInt8)) :=
  match nalStartAt data index with
  | none => none
  | some startLength =>
    if index + startLength ≥ data.length ∨
        data.getD (index + startLength) 0 &&& 0x1f ≠ type then none
    else
      let last := nalEnd data (index + startLength + 1)
      if malloc (last - index) then some (some (slice data index (last - index))) else some none

def h264CopyNal (malloc : Nat → Bool) (destination data : List UInt8) (type : UInt8) :
    Bool × List UInt8 :=
  match (List.range (data.length - 3)).findSome? (copyNalAt malloc data type) with
  | some (some next) => (true, next)
  | some none => (false, destination)
  | none => (false, destination)

-- ---------------------------------------------------------------------------
-- Start codes
-- ---------------------------------------------------------------------------

theorem nalStartAt_eq_some {data : List UInt8} {index startLength : Nat} :
    nalStartAt data index = some startLength ↔
      ∃ long header rest, data.drop index = startCode long ++ header :: rest ∧
        startLength = (startCode long).length := by
  constructor
  · intro h
    unfold nalStartAt at h
    split at h
    · cases h
    · rename_i hzeros
      simp only [not_or, not_not, Nat.not_le] at hzeros
      obtain ⟨hthree, h0, h1⟩ := hzeros
      have hdrop : data.drop index =
          0 :: 0 :: data.getD (index + 2) 0 :: data.getD (index + 3) 0 :: data.drop (index + 4) := by
        rw [drop_eq_getD_cons (by omega), drop_eq_getD_cons (by omega), drop_eq_getD_cons (by omega),
          drop_eq_getD_cons hthree, h0, h1]
      split at h
      · rename_i hone
        rw [hone] at hdrop
        exact ⟨false, _, _, hdrop, (Option.some.inj h).symm⟩
      · split at h
        · rename_i hlong
          rw [hlong.2.1, hlong.2.2, drop_eq_getD_cons hlong.1] at hdrop
          exact ⟨true, _, _, hdrop, (Option.some.inj h).symm⟩
        · cases h
  · rintro ⟨long, header, rest, hdrop, rfl⟩
    have hlength := congrArg List.length hdrop
    have hget : ∀ k, data.getD (index + k) 0 = (startCode long ++ header :: rest).getD k 0 := by
      intro k
      rw [← hdrop]
      simp [List.getD_eq_getElem?_getD]
    have h0 := hget 0
    rw [Nat.add_zero] at h0
    rw [List.length_drop] at hlength
    unfold nalStartAt
    rw [h0, hget, hget, hget]
    cases long with
    | false =>
      have hshort : ¬ index + 3 ≥ data.length := by simp [startCode] at hlength; omega
      simp [startCode, hshort]
    | true =>
      have hshort : ¬ index + 3 ≥ data.length := by simp [startCode] at hlength; omega
      have hinside : index + 4 < data.length := by simp [startCode] at hlength; omega
      simp [startCode, hshort, hinside]

theorem nalStartAt_eq (data : List UInt8) (index : Nat) :
    nalStartAt data index = nalStart (data.drop index) :=
  Option.ext fun _ => nalStartAt_eq_some.trans nalStart_eq_some_iff.symm

/-- What `nal_start` sees in a part of the data is there in the data. -/
theorem nalStartAt_slice {data : List UInt8} {start length index : Nat}
    (h : nalStartAt data (start + index) = none) : nalStartAt (slice data start length) index = none := by
  cases hstart : nalStartAt (slice data start length) index with
  | none => rfl
  | some startLength =>
    obtain ⟨long, header, rest, hrest, -⟩ := nalStartAt_eq_some.mp hstart
    have hsuffix : data.drop (start + index) =
        startCode long ++ header :: (rest ++ (data.drop (start + index)).drop (length - index)) := by
      rw [slice, List.drop_take, List.drop_drop] at hrest
      rw [← List.cons_append, ← List.append_assoc, ← hrest, List.take_append_drop]
    rw [nalStartAt_eq_some.mpr ⟨long, _, _, hsuffix, rfl⟩] at h
    cases h

-- ---------------------------------------------------------------------------
-- The end of a NAL unit
-- ---------------------------------------------------------------------------

theorem scanEnd_stop {data : List UInt8} {last : Nat} (h : ¬ last + 2 < data.length) (fuel : Nat) :
    scanEnd data fuel last = last := by
  cases fuel with
  | zero => rfl
  | succ fuel => rw [scanEnd, if_neg h]

theorem scanEnd_fuel {data : List UInt8} {fuel last : Nat} (h : data.length ≤ fuel + last) :
    scanEnd data (fuel + 1) last = scanEnd data fuel last := by
  induction fuel generalizing last with
  | zero => rw [scanEnd_stop (by omega), scanEnd_stop (by omega)]
  | succ fuel ih => rw [scanEnd, ih (by omega), ← scanEnd]

theorem nalEnd_eq (data : List UInt8) (body : Nat) :
    nalEnd data body =
      if body + 2 < data.length then
        if (nalStartAt data body).isSome then body else nalEnd data (body + 1)
      else data.length := by
  by_cases hmore : body + 2 < data.length
  · obtain ⟨fuel, hfuel⟩ : ∃ fuel, data.length = fuel + 1 := ⟨data.length - 1, by omega⟩
    rw [if_pos hmore, nalEnd, hfuel, scanEnd, ← hfuel, if_pos hmore]
    split
    · exact if_neg (Nat.not_le.mpr hmore)
    · have hnext : scanEnd data (fuel + 1) (body + 1) = scanEnd data fuel (body + 1) :=
        scanEnd_fuel (by omega)
      rw [nalEnd, ← hnext, ← hfuel]
  · rw [if_neg hmore, nalEnd, scanEnd_stop hmore]
    exact if_pos (Nat.not_lt.mp hmore)

/-- The loop stops at the first start code, or at the end of the data. -/
structure EndsNal (data : List UInt8) (body last : Nat) : Prop where
  le_last : body ≤ last
  last_le : last ≤ data.length
  clear : ∀ index, body ≤ index → index < last → nalStartAt data index = none
  stops : last = data.length ∨ (nalStartAt data last).isSome = true

theorem nalStartAt_near_end {data : List UInt8} {index : Nat} (h : data.length ≤ index + 3) :
    nalStartAt data index = none := if_pos (.inl h)

theorem endsNal_nalEnd {data : List UInt8} {body : Nat} (h : body ≤ data.length) :
    EndsNal data body (nalEnd data body) := by
  induction hleft : data.length - body generalizing body with
  | zero =>
    have hend : body = data.length := by omega
    rw [nalEnd_eq, if_neg (by omega)]
    exact ⟨h, Nat.le_refl _, fun index _ _ => nalStartAt_near_end (by omega), .inl rfl⟩
  | succ left ih =>
    rw [nalEnd_eq]
    split
    · split
      · exact ⟨Nat.le_refl _, h, fun index _ _ => by omega, .inr ‹_›⟩
      · rename_i hnone
        have hrest : EndsNal data (body + 1) (nalEnd data (body + 1)) := ih (by omega) (by omega)
        refine ⟨by have := hrest.le_last; omega, hrest.last_le, fun index hle hlt => ?_, hrest.stops⟩
        obtain rfl | hlater := Nat.eq_or_lt_of_le hle
        · exact Option.not_isSome_iff_eq_none.mp hnone
        · exact hrest.clear index hlater hlt
    · exact ⟨h, Nat.le_refl _, fun index _ _ => nalStartAt_near_end (by omega), .inl rfl⟩

theorem nalBody_drop (data : List UInt8) {body : Nat} (h : body ≤ data.length) :
    nalBody (data.drop body) = slice data body (nalEnd data body - body) := by
  induction hleft : data.length - body generalizing body with
  | zero =>
    rw [slice, List.drop_eq_nil_of_le (by omega), List.take_nil, nalBody]
  | succ left ih =>
    have hdrop := drop_eq_getD_cons (show body < data.length by omega)
    have hrest : (data.drop (body + 1)).length = data.length - (body + 1) := List.length_drop
    rw [nalEnd_eq, hdrop, nalBody, ← hdrop, ← nalStartAt_eq]
    by_cases hmore : body + 2 < data.length
    · rw [if_neg (by omega), if_pos hmore]
      split
      · rw [Nat.sub_self, slice, List.take_zero]
      · have hlast := (endsNal_nalEnd (show body + 1 ≤ data.length by omega)).le_last
        obtain ⟨length, hlength⟩ : ∃ length, nalEnd data (body + 1) = body + 1 + length :=
          ⟨nalEnd data (body + 1) - (body + 1), by omega⟩
        rw [ih (by omega) (by omega), hlength, slice, slice, hdrop, Nat.add_sub_cancel_left,
          Nat.add_assoc, Nat.add_sub_cancel_left, Nat.add_comm 1, List.take_succ_cons]
    · rw [if_pos (by omega), if_neg hmore, slice, List.take_of_length_le (by rw [List.length_drop])]

-- ---------------------------------------------------------------------------
-- The first NAL unit of a type
-- ---------------------------------------------------------------------------

def BeginsNal (data : List UInt8) (type : UInt8) (index : Nat) (long : Bool) : Prop :=
  ∃ header rest, data.drop index = startCode long ++ header :: rest ∧ header &&& 0x1f = type

theorem header_at {data rest : List UInt8} {index : Nat} {long : Bool} {header : UInt8}
    (h : data.drop index = startCode long ++ header :: rest) :
    index + (startCode long).length < data.length ∧
      data.getD (index + (startCode long).length) 0 = header := by
  have hlength := congrArg List.length h
  rw [List.length_drop, List.length_append, List.length_cons] at hlength
  refine ⟨by omega, ?_⟩
  rw [List.getD_eq_getElem?_getD, ← List.getElem?_drop, h]
  simp

theorem findNalAt_eq_some {data : List UInt8} {type : UInt8} {index : Nat} {found : Nat × Nat} :
    findNalAt data type index = some found ↔
      ∃ long, BeginsNal data type index long ∧
        found = (index, nalEnd data (index + (startCode long).length + 1) - index) := by
  unfold findNalAt
  constructor
  · intro h
    split at h
    · cases h
    · rename_i startLength hstart
      obtain ⟨long, header, rest, hrest, rfl⟩ := nalStartAt_eq_some.mp hstart
      rw [(header_at hrest).2] at h
      split at h
      · cases h
      · rename_i htype
        rw [not_or, not_not] at htype
        exact ⟨long, ⟨header, rest, hrest, htype.2⟩, (Option.some.inj h).symm⟩
  · rintro ⟨long, ⟨header, rest, hrest, htype⟩, rfl⟩
    obtain ⟨hinside, hheader⟩ := header_at hrest
    rw [nalStartAt_eq_some.mpr ⟨long, header, rest, hrest, rfl⟩]
    simp only [hheader, htype]
    rw [if_neg (by simpa using hinside)]

theorem findSome?_range {f : Nat → Option α} {n : Nat} {b : α}
    (h : (List.range n).findSome? f = some b) : ∃ index, f index = some b ∧ ∀ j < index, f j = none := by
  induction n with
  | zero => cases h
  | succ n ih =>
    rw [List.range_succ, List.findSome?_append, List.findSome?_singleton] at h
    cases hfront : (List.range n).findSome? f with
    | some found =>
      rw [hfront, Option.some_or] at h
      exact ih (hfront.trans h)
    | none =>
      rw [hfront, Option.none_or] at h
      refine ⟨n, h, fun j hj => ?_⟩
      exact List.findSome?_eq_none_iff.mp hfront j (List.mem_range.mpr hj)

structure FirstNal (data : List UInt8) (type : UInt8) (start length : Nat) (long : Bool) : Prop where
  inside : start + length ≤ data.length
  begins : ∃ header body, slice data start length = startCode long ++ header :: body ∧
    header &&& 0x1f = type
  first : ∀ index long, BeginsNal data type index long → start ≤ index
  clear : ∀ index, start + (startCode long).length < index → index < start + length →
    nalStartAt data index = none
  clear_slice : ∀ index, (startCode long).length < index →
    nalStartAt (slice data start length) index = none
  stops : start + length = data.length ∨ (nalStartAt data (start + length)).isSome = true

theorem firstNal_findNalIn {data : List UInt8} {type : UInt8} {start length : Nat}
    (h : findNalIn data type = some (start, length)) : ∃ long, FirstNal data type start length long := by
  obtain ⟨index, hfound, hbefore⟩ := findSome?_range h
  obtain ⟨long, ⟨header, rest, hrest, htype⟩, heq⟩ := findNalAt_eq_some.mp hfound
  obtain ⟨rfl, hlength⟩ := Prod.mk.inj heq
  obtain ⟨hle, hinside, hclear, hstops⟩ :=
    endsNal_nalEnd (show start + (startCode long).length + 1 ≤ data.length from (header_at hrest).1)
  have hend : start + length = nalEnd data (start + (startCode long).length + 1) := by omega
  rw [← hend] at hle hinside hclear hstops
  obtain ⟨more, hmore⟩ : ∃ more, length = (startCode long).length + (more + 1) :=
    ⟨length - ((startCode long).length + 1), by omega⟩
  have hslice : slice data start length = startCode long ++ header :: rest.take more := by
    rw [slice, hrest, hmore, List.take_length_add_append, List.take_succ_cons]
  refine ⟨long, hinside, ⟨header, _, hslice, htype⟩, fun other code hbegins => ?_, hclear,
    fun other hother => ?_, hstops⟩
  · by_contra hlt
    have hnone := hbefore other (Nat.not_le.mp hlt)
    rw [findNalAt_eq_some.mpr ⟨code, hbegins, rfl⟩] at hnone
    cases hnone
  · by_cases hlt : start + other < start + length
    · exact nalStartAt_slice (hclear _ (by omega) hlt)
    · have hshort : (slice data start length).length ≤ length := List.length_take_le _ _
      exact nalStartAt_near_end (by omega)

-- ---------------------------------------------------------------------------
-- The scanners agree
-- ---------------------------------------------------------------------------

theorem beginsNal_of_hasNal {data : List UInt8} {type : UInt8} (h : HasNal data type) :
    ∃ index ∈ List.range (data.length - 3), ∃ long, BeginsNal data type index long := by
  obtain ⟨header, ⟨front, rest, rfl⟩, htype⟩ := h
  refine ⟨front.length, ?_, false, header, rest, ?_, htype⟩
  · simp only [List.mem_range, List.length_append, List.length_cons]
    omega
  · rw [List.append_assoc, List.drop_left]
    rfl

theorem BeginsNal.hasNal {data : List UInt8} {type : UInt8} {index : Nat} {long : Bool}
    (h : BeginsNal data type index long) : HasNal data type := by
  obtain ⟨header, rest, hrest, htype⟩ := h
  have hcode : [0, 0, 1, header] <:+: startCode long ++ header :: rest := by
    cases long with
    | false => exact ⟨[], rest, rfl⟩
    -- the last three bytes of a long start code are a short one
    | true => exact ⟨[0], rest, rfl⟩
  exact ⟨header, hcode.trans (hrest ▸ (List.drop_suffix index data).isInfix), htype⟩

theorem findNalIn_isSome {data : List UInt8} {type : UInt8} :
    (findNalIn data type).isSome = true ↔ HasNal data type := by
  rw [findNalIn, List.findSome?_isSome_iff]
  constructor
  · rintro ⟨index, -, hfound⟩
    obtain ⟨found, hfound⟩ := Option.isSome_iff_exists.mp hfound
    obtain ⟨long, hbegins, -⟩ := findNalAt_eq_some.mp hfound
    exact hbegins.hasNal
  · intro hnal
    obtain ⟨index, hindex, long, hbegins⟩ := beginsNal_of_hasNal hnal
    exact ⟨index, hindex, Option.isSome_iff_exists.mpr ⟨_, findNalAt_eq_some.mpr ⟨long, hbegins, rfl⟩⟩⟩

theorem copyNalAt_eq (malloc : Nat → Bool) (data : List UInt8) (type : UInt8) (index : Nat) :
    copyNalAt malloc data type index = (findNalAt data type index).map fun found =>
      if malloc found.2 then some (slice data found.1 found.2) else none := by
  unfold copyNalAt findNalAt
  split
  · rfl
  · split
    · rfl
    · simp only [Option.map_some]
      split <;> rfl

/-- `h264_copy_nal` copies what `find_nal` finds. -/
theorem h264CopyNal_eq (malloc : Nat → Bool) (destination data : List UInt8) (type : UInt8) :
    h264CopyNal malloc destination data type =
      match findNalIn data type with
      | none => (false, destination)
      | some (start, length) =>
        if malloc length then (true, slice data start length) else (false, destination) := by
  have hcopy : (List.range (data.length - 3)).findSome? (copyNalAt malloc data type) =
      (findNalIn data type).map fun found =>
        if malloc found.2 then some (slice data found.1 found.2) else none := by
    rw [findNalIn, List.map_findSome?]
    exact congrArg (fun f => List.findSome? f _) (funext (copyNalAt_eq malloc data type))
  rw [h264CopyNal, hcopy]
  cases findNalIn data type with
  | none => rfl
  | some found =>
    simp only [Option.map_some]
    cases malloc found.2 <;> rfl

theorem take_header_nalBody {data body : List UInt8} {index : Nat} {long : Bool} {header : UInt8}
    (h : data.drop index = startCode long ++ header :: body) :
    (data.drop index).take (startCode long).length ++ header :: nalBody body =
      slice data index (nalEnd data (index + (startCode long).length + 1) - index) := by
  have hinside : index + (startCode long).length + 1 ≤ data.length := (header_at h).1
  have hbody : data.drop (index + (startCode long).length + 1) = body := by
    rw [Nat.add_assoc, ← List.drop_drop, h, List.drop_length_add_append]
    rfl
  have hle := (endsNal_nalEnd hinside).le_last
  have hscan := nalBody_drop data hinside
  obtain ⟨length, hlength⟩ : ∃ length, nalEnd data (index + (startCode long).length + 1) =
      index + (startCode long).length + 1 + length := ⟨_, (Nat.add_sub_of_le hle).symm⟩
  rw [slice, hbody, hlength, Nat.add_sub_cancel_left] at hscan
  have hsize : index + (startCode long).length + 1 + length - index =
      (startCode long).length + (length + 1) := by omega
  rw [hscan, slice, h, List.take_left, hlength, hsize, List.take_length_add_append, List.take_succ_cons]

theorem findNal_drop (data : List UInt8) (type : UInt8) (index : Nat) :
    findNal type (data.drop index) =
      ((List.range' index (data.length - 3 - index)).findSome? (findNalAt data type)).map
        fun found => slice data found.1 found.2 := by
  induction hleft : data.length - 3 - index generalizing index with
  | zero =>
    rw [findNal_short (by rw [List.length_drop]; omega)]
    rfl
  | succ left ih =>
    have hdrop := drop_eq_getD_cons (show index < data.length by omega)
    have hrest : ¬ (data.drop (index + 1)).length < 3 := by
      rw [List.length_drop]
      omega
    have hnext := ih (index + 1) (by omega)
    rw [List.range'_succ, List.findSome?_cons, hdrop, findNal, if_neg hrest, ← hdrop, ← nalStartAt_eq,
      findNalAt]
    cases hstart : nalStartAt data index with
    | none => exact hnext
    | some startLength =>
      obtain ⟨long, header, body, hcode, rfl⟩ := nalStartAt_eq_some.mp hstart
      obtain ⟨hinside, hheader⟩ := header_at hcode
      have hbehind : (data.drop index).drop (startCode long).length = header :: body := by
        rw [hcode, List.drop_left]
      simp only [hbehind, hheader]
      by_cases htype : header &&& 0x1f = type
      · rw [if_pos htype, if_neg (by simp [htype, hinside])]
        exact congrArg some (take_header_nalBody hcode)
      · rw [if_neg htype, if_pos (.inr htype)]
        exact hnext

/-- `find_nal` with the bytes from `start` on is `find_nal` with offsets. -/
theorem findNal_eq (data : List UInt8) (type : UInt8) :
    findNal type data = (findNalIn data type).map fun found => slice data found.1 found.2 := by
  rw [findNalIn, List.range_eq_range']
  exact findNal_drop data type 0

structure ScannersAgree (data : List UInt8) (type : UInt8) : Prop where
  mask_iff_find : nalTypeBit (h264NalTypeMask data) type = true ↔ (findNalIn data type).isSome = true
  find_iff_copy : ∀ malloc destination, (∀ size, malloc size = true) →
    ((findNalIn data type).isSome = true ↔ (h264CopyNal malloc destination data type).1 = true)
  same_slice : ∀ malloc destination, (∀ size, malloc size = true) → ∀ start length,
    findNalIn data type = some (start, length) →
      h264CopyNal malloc destination data type = (true, slice data start length)
  first_nal : ∀ start length, findNalIn data type = some (start, length) →
    ∃ long, FirstNal data type start length long

theorem scannersAgree {type : UInt8} (h : type < 32) (data : List UInt8) : ScannersAgree data type where
  mask_iff_find := by rw [nalTypeBit_h264NalTypeMask h, findNalIn_isSome]
  find_iff_copy malloc destination hmalloc := by
    rw [h264CopyNal_eq]
    cases findNalIn data type with
    | none => simp
    | some found => simp [hmalloc]
  same_slice malloc destination hmalloc start length hfound := by
    rw [h264CopyNal_eq, hfound]
    simp [hmalloc]
  first_nal _ _ hfound := firstNal_findNalIn hfound

end NanokvmRdp.Gateway
