import NanokvmRdp.Hid.Keymap
import NanokvmRdp.Lib.Utf8

/-!
# The UTF-8 codec of `hid.c`

`utf8_decode` reads the encoding of a character, whichever it is, and nothing
else; `utf8_encode` writes it. Both agree with `String.utf8EncodeChar`, and so
with each other.
-/

namespace NanokvmRdp.Hid

open Utf8 (Continues Form)

/-- `utf8_decode` on the whole text, with the offset it moves. It passes the first byte
before it looks at the others. -/
def utf8DecodeAt (text : List UInt8) (offset : Nat) : Option UInt32 × Nat :=
  if text.length ≤ offset then (none, offset)
  else
    let first := text.getD offset 0
    let offset := offset + 1
    let second := text.getD offset 0
    let third := text.getD (offset + 1) 0
    let fourth := text.getD (offset + 2) 0
    if first < 0x80 then (some first.toUInt32, offset)
    else if 0xc2 ≤ first ∧ first ≤ 0xdf then
      if text.length ≤ offset || !isUtf8Continuation second then (none, offset)
      else (some ((first &&& 0x1f).toUInt32 <<< 6 ||| (second &&& 0x3f).toUInt32), offset + 1)
    else if 0xe0 ≤ first ∧ first ≤ 0xef then
      if text.length ≤ offset + 1 || !isUtf8Continuation second || !isUtf8Continuation third ||
          (first == 0xe0 && second < 0xa0) || (first == 0xed && second > 0x9f) then (none, offset)
      else
        (some ((first &&& 0x0f).toUInt32 <<< 12 ||| (second &&& 0x3f).toUInt32 <<< 6 |||
          (third &&& 0x3f).toUInt32), offset + 2)
    else if 0xf0 ≤ first ∧ first ≤ 0xf4 then
      if text.length ≤ offset + 2 || !isUtf8Continuation second || !isUtf8Continuation third ||
          !isUtf8Continuation fourth || (first == 0xf0 && second < 0x90) ||
          (first == 0xf4 && second > 0x8f) then (none, offset)
      else
        (some ((first &&& 0x07).toUInt32 <<< 18 ||| (second &&& 0x3f).toUInt32 <<< 12 |||
          (third &&& 0x3f).toUInt32 <<< 6 ||| (fourth &&& 0x3f).toUInt32), offset + 3)
    else (none, offset)

def utf8DecodeAll (text : List UInt8) (fuel offset : Nat) : Option (List UInt32) :=
  match fuel with
  | 0 => none
  | fuel + 1 =>
    if text.length ≤ offset then some []
    else
      match utf8DecodeAt text offset with
      | (none, _) => none
      | (some codepoint, offset) => (utf8DecodeAll text fuel offset).map (codepoint :: ·)

-- ---------------------------------------------------------------------------
-- Encoding
-- ---------------------------------------------------------------------------

theorem toNat_and_continuation (bits : UInt32) : (bits &&& 0x3f).toNat = bits.toNat % 64 := by
  rw [UInt32.toNat_and]
  exact Nat.and_two_pow_sub_one_eq_mod _ 6

theorem utf8Encode_continuation (bits : UInt32) :
    utf8Encode.continuation bits = UInt8.ofNat (bits.toNat % 64 + 0x80) := by
  have hbits : (bits &&& 0x3f).toNat < 2 ^ 6 := by
    rw [toNat_and_continuation]
    exact Nat.mod_lt _ (by decide)
  rw [utf8Encode.continuation, Utf8.mark_byte_u32 (x := 2) rfl hbits, toNat_and_continuation]
  rfl

theorem utf8Encode_char (c : Char) : utf8Encode c.val = some (String.utf8EncodeChar c) := by
  have hvalid : c.toNat < 0xd800 ∨ 0xdfff < c.toNat ∧ c.toNat < 0x110000 := c.valid
  have hval : c.val.toNat = c.toNat := rfl
  have hshift (k : Nat) (n : UInt32) (hn : n.toNat = k) (hk : k < 32) :
      (c.val >>> n).toNat = c.toNat / 2 ^ k := by
    rw [UInt32.toNat_shiftRight, hn, Nat.mod_eq_of_lt hk, Nat.shiftRight_eq_div_pow, hval]
  have h6 := hshift 6 6 rfl (by decide)
  have h12 := hshift 12 12 rfl (by decide)
  have h18 := hshift 18 18 rfl (by decide)
  have hscalar : ¬ (c.val > 0x10ffff ∨ 0xd800 ≤ c.val ∧ c.val ≤ 0xdfff) := by
    simp only [gt_iff_lt, UInt32.lt_iff_toNat_lt, UInt32.le_iff_toNat_le, hval, UInt32.reduceToNat]
    omega
  rw [utf8Encode, if_neg hscalar]
  simp only [UInt32.le_iff_toNat_le, hval, UInt32.reduceToNat]
  split
  · rw [Utf8.encode_one ‹_›]
    refine congrArg (fun byte => some [byte]) (UInt8.toNat_inj.mp ?_)
    rw [UInt32.toNat_toUInt8, hval, UInt8.toNat_ofNat']
  · split
    · have hlead : utf8Encode.lead 0xc0 (c.val >>> 6) = UInt8.ofNat ((c.val >>> 6).toNat + 0xc0) :=
        Utf8.mark_byte_u32 (k := 6) (x := 3) rfl (by rw [h6]; omega)
      rw [Utf8.encode_two (by omega) ‹_›, hlead, utf8Encode_continuation, h6, hval]
      rfl
    · split
      · have hlead : utf8Encode.lead 0xe0 (c.val >>> 12) =
            UInt8.ofNat ((c.val >>> 12).toNat + 0xe0) :=
          Utf8.mark_byte_u32 (k := 5) (x := 7) rfl (by rw [h12]; omega)
        rw [Utf8.encode_three (by omega) ‹_›, hlead, utf8Encode_continuation,
          utf8Encode_continuation, h12, h6, hval]
        rfl
      · have hlead : utf8Encode.lead 0xf0 (c.val >>> 18) =
            UInt8.ofNat ((c.val >>> 18).toNat + 0xf0) :=
          Utf8.mark_byte_u32 (k := 4) (x := 15) rfl (by rw [h18]; omega)
        rw [Utf8.encode_four (by omega), hlead, utf8Encode_continuation, utf8Encode_continuation,
          utf8Encode_continuation, h18, h12, h6, hval]
        rfl

-- ---------------------------------------------------------------------------
-- Decoding
-- ---------------------------------------------------------------------------

theorem isUtf8Continuation_iff (b : UInt8) : isUtf8Continuation b = true ↔ Continues b := by
  unfold Continues
  obtain ⟨b⟩ := b
  revert b
  decide +kernel

theorem utf8Decode_one {first : UInt8} (h : first.toNat < 0x80) (rest : List UInt8) :
    utf8Decode (first :: rest) = some (first.toUInt32, rest) := by
  unfold utf8Decode
  exact if_pos (UInt8.lt_iff_toNat_lt.mpr h)

theorem utf8Decode_two {first second : UInt8} (h : 0xc2 ≤ first.toNat ∧ first.toNat < 0xe0)
    (hsecond : Continues second) (rest : List UInt8) :
    utf8Decode (first :: second :: rest) =
      some ((first &&& 0x1f).toUInt32 <<< 6 ||| (second &&& 0x3f).toUInt32, rest) := by
  unfold utf8Decode
  simp only [UInt8.lt_iff_toNat_lt, UInt8.le_iff_toNat_le, UInt8.reduceToNat]
  rw [if_neg (by omega), if_pos (by omega), if_pos ((isUtf8Continuation_iff second).mpr hsecond)]

theorem utf8Decode_three {first second third : UInt8}
    (h : 0xe0 ≤ first.toNat ∧ first.toNat < 0xf0) (hsecond : Continues second)
    (hthird : Continues third) (hshort : first.toNat = 0xe0 → 0xa0 ≤ second.toNat)
    (hsurrogate : first.toNat = 0xed → second.toNat < 0xa0) (rest : List UInt8) :
    utf8Decode (first :: second :: third :: rest) =
      some ((first &&& 0x0f).toUInt32 <<< 12 ||| (second &&& 0x3f).toUInt32 <<< 6 |||
        (third &&& 0x3f).toUInt32, rest) := by
  unfold utf8Decode
  simp only [(isUtf8Continuation_iff _).mpr hsecond, (isUtf8Continuation_iff _).mpr hthird,
    Bool.not_true, Bool.false_or, Bool.or_eq_true, Bool.and_eq_true, beq_iff_eq, decide_eq_true_eq,
    ← UInt8.toNat_inj, gt_iff_lt, UInt8.lt_iff_toNat_lt, UInt8.le_iff_toNat_le, UInt8.reduceToNat]
  rw [if_neg (by omega), if_neg (by omega), if_pos (by omega), if_neg (by omega)]

theorem utf8Decode_four {first second third fourth : UInt8}
    (h : 0xf0 ≤ first.toNat ∧ first.toNat < 0xf5) (hsecond : Continues second)
    (hthird : Continues third) (hfourth : Continues fourth)
    (hshort : first.toNat = 0xf0 → 0x90 ≤ second.toNat)
    (hlimit : first.toNat = 0xf4 → second.toNat < 0x90) (rest : List UInt8) :
    utf8Decode (first :: second :: third :: fourth :: rest) =
      some ((first &&& 0x07).toUInt32 <<< 18 ||| (second &&& 0x3f).toUInt32 <<< 12 |||
        (third &&& 0x3f).toUInt32 <<< 6 ||| (fourth &&& 0x3f).toUInt32, rest) := by
  unfold utf8Decode
  simp only [(isUtf8Continuation_iff _).mpr hsecond, (isUtf8Continuation_iff _).mpr hthird,
    (isUtf8Continuation_iff _).mpr hfourth, Bool.not_true, Bool.false_or, Bool.or_eq_true,
    Bool.and_eq_true, beq_iff_eq, decide_eq_true_eq, ← UInt8.toNat_inj, gt_iff_lt,
    UInt8.lt_iff_toNat_lt, UInt8.le_iff_toNat_le, UInt8.reduceToNat]
  rw [if_neg (by omega), if_neg (by omega), if_neg (by omega), if_pos (by omega), if_neg (by omega)]

theorem utf8Decode_form {bytes : List UInt8} {value : Nat} (h : Form bytes value)
    (rest : List UInt8) : utf8Decode (bytes ++ rest) = some (UInt32.ofNat value, rest) := by
  cases h with
  | one hfirst =>
    rw [List.singleton_append, utf8Decode_one hfirst, ← UInt8.toNat_toUInt32, UInt32.ofNat_toNat]
  | two hfirst hsecond =>
    rw [← Utf8.toNat_two, UInt32.ofNat_toNat]
    exact utf8Decode_two hfirst hsecond rest
  | three hfirst hsecond hthird hshort hsurrogate =>
    rw [← Utf8.toNat_three, UInt32.ofNat_toNat]
    exact utf8Decode_three hfirst hsecond hthird hshort hsurrogate rest
  | four hfirst hsecond hthird hfourth hshort hlimit =>
    rw [← Utf8.toNat_four, UInt32.ofNat_toNat]
    exact utf8Decode_four hfirst hsecond hthird hfourth hshort hlimit rest

theorem form_of_utf8Decode {text rest : List UInt8} {codepoint : UInt32}
    (h : utf8Decode text = some (codepoint, rest)) :
    ∃ bytes, Form bytes codepoint.toNat ∧ text = bytes ++ rest := by
  unfold utf8Decode at h
  simp only [UInt8.lt_iff_toNat_lt, UInt8.le_iff_toNat_le, UInt8.reduceToNat] at h
  split at h
  · cases h
  next first text =>
  split at h
  next hone =>
    cases h
    exact ⟨[first], (Form.one hone).of_eq (UInt8.toNat_toUInt32 first).symm, rfl⟩
  split at h
  next htwo =>
    split at h
    next second text =>
      split at h
      next hsecond =>
        rw [isUtf8Continuation_iff] at hsecond
        cases h
        exact ⟨[first, second],
          (Form.two (by omega) hsecond).of_eq (Utf8.toNat_two first second).symm, rfl⟩
      next => cases h
    next => cases h
  split at h
  next hthree =>
    split at h
    next second third text =>
      split at h
      next => cases h
      next hgood =>
        simp only [Bool.or_eq_true, not_or, Bool.not_eq_true', Bool.not_eq_false,
          isUtf8Continuation_iff, Bool.and_eq_true, beq_iff_eq, decide_eq_true_eq,
          ← UInt8.toNat_inj, UInt8.reduceToNat] at hgood
        obtain ⟨⟨⟨hsecond, hthird⟩, hshort⟩, hsurrogate⟩ := hgood
        cases h
        exact ⟨[first, second, third],
          (Form.three (by omega) hsecond hthird (by omega) (by omega)).of_eq
            (Utf8.toNat_three first second third).symm, rfl⟩
    next => cases h
  split at h
  next hfour =>
    split at h
    next second third fourth text =>
      split at h
      next => cases h
      next hgood =>
        simp only [Bool.or_eq_true, not_or, Bool.not_eq_true', Bool.not_eq_false,
          isUtf8Continuation_iff, Bool.and_eq_true, beq_iff_eq, decide_eq_true_eq,
          ← UInt8.toNat_inj, UInt8.reduceToNat] at hgood
        obtain ⟨⟨⟨⟨hsecond, hthird⟩, hfourth⟩, hshort⟩, hlimit⟩ := hgood
        cases h
        exact ⟨[first, second, third, fourth],
          (Form.four (by omega) hsecond hthird hfourth (by omega) (by omega)).of_eq
            (Utf8.toNat_four first second third fourth).symm, rfl⟩
    next => cases h
  next => cases h

theorem utf8Decode_encode (c : Char) (rest : List UInt8) :
    utf8Decode (String.utf8EncodeChar c ++ rest) = some (c.val, rest) := by
  have hval : UInt32.ofNat c.toNat = c.val := UInt32.ofNat_toNat
  rw [utf8Decode_form (Utf8.form_encode c), hval]

theorem exists_char (codepoint : UInt32)
    (h : codepoint.toNat < 0xd800 ∨ 0xdfff < codepoint.toNat ∧ codepoint.toNat < 0x110000) :
    ∃ c : Char, c.val = codepoint ∧ c.toNat = codepoint.toNat :=
  ⟨⟨codepoint, h⟩, rfl, rfl⟩

/-- What the decoder accepts is the encoding of a character. -/
theorem utf8Decode_sound {text rest : List UInt8} {codepoint : UInt32}
    (h : utf8Decode text = some (codepoint, rest)) :
    ∃ c : Char, c.val = codepoint ∧ text = String.utf8EncodeChar c ++ rest := by
  obtain ⟨bytes, hform, rfl⟩ := form_of_utf8Decode h
  obtain ⟨c, hc, hcode⟩ := exists_char codepoint hform.scalar
  exact ⟨c, hc, by rw [hform.encode hcode]⟩

-- ---------------------------------------------------------------------------
-- The offset
-- ---------------------------------------------------------------------------

theorem utf8DecodeAt_append (before rest : List UInt8) :
    utf8DecodeAt (before ++ rest) before.length =
      (utf8Decode rest).elim (none, before.length + min 1 rest.length) fun decoded =>
        (some decoded.1, before.length + (rest.length - decoded.2.length)) := by
  have hmore (k : Nat) : ¬ before.length + (k + 1) ≤ before.length := by omega
  unfold utf8DecodeAt utf8Decode
  -- The decoder looks at four bytes at most: the cases are how many of them there are.
  rcases rest with _ | ⟨first, _ | ⟨second, _ | ⟨third, _ | ⟨fourth, rest⟩⟩⟩⟩
  · simp
  · simp [hmore]
    split_ifs <;> rfl
  · simp [Nat.add_assoc, hmore]
    split_ifs <;> simp_all
  · simp [Nat.add_assoc, hmore]
    split_ifs <;> simp_all
  · simp [Nat.add_assoc, hmore]
    split_ifs <;> simp_all

theorem utf8DecodeAt_encode (before : List UInt8) (c : Char) (rest : List UInt8) :
    utf8DecodeAt (before ++ (String.utf8EncodeChar c ++ rest)) before.length =
      (some c.val, before.length + (String.utf8EncodeChar c).length) := by
  rw [utf8DecodeAt_append, utf8Decode_encode, Option.elim_some, List.length_append,
    Nat.add_sub_cancel]

theorem utf8DecodeAt_eq_some_iff {text : List UInt8} {offset next : Nat} {codepoint : UInt32} :
    utf8DecodeAt text offset = (some codepoint, next) ↔
      ∃ c : Char, c.val = codepoint ∧ String.utf8EncodeChar c <+: text.drop offset ∧
        next = offset + (String.utf8EncodeChar c).length := by
  constructor
  · intro h
    have hoffset : offset < text.length := by
      by_contra hend
      rw [utf8DecodeAt, if_pos (Nat.not_lt.mp hend)] at h
      cases h
    have hlength : (text.take offset).length = offset := List.length_take_of_le hoffset.le
    have happend := utf8DecodeAt_append (text.take offset) (text.drop offset)
    rw [List.take_append_drop, hlength, h] at happend
    cases hdecode : utf8Decode (text.drop offset) with
    | none =>
      rw [hdecode] at happend
      cases happend
    | some decoded =>
      obtain ⟨code, rest⟩ := decoded
      rw [hdecode, Option.elim_some, Prod.mk.injEq, Option.some.injEq] at happend
      obtain ⟨c, hc, htext⟩ := utf8Decode_sound hdecode
      refine ⟨c, hc.trans happend.1.symm, ⟨rest, htext.symm⟩, happend.2.trans ?_⟩
      rw [htext, List.length_append, Nat.add_sub_cancel]
  · rintro ⟨c, rfl, ⟨rest, hrest⟩, rfl⟩
    have hpos : (String.utf8EncodeChar c).length ≠ 0 := by
      rw [String.length_utf8EncodeChar]
      exact c.utf8Size_pos.ne'
    have hoffset : offset ≤ text.length := by
      by_contra hend
      rw [List.drop_eq_nil_of_le (Nat.le_of_not_le hend), List.append_eq_nil_iff] at hrest
      exact hpos (List.length_eq_zero_iff.mpr hrest.1)
    have hdecode := utf8DecodeAt_encode (text.take offset) c rest
    rw [hrest, List.take_append_drop, List.length_take_of_le hoffset] at hdecode
    exact hdecode

theorem isSome_utf8DecodeAt_iff (text : List UInt8) (offset : Nat) :
    (utf8DecodeAt text offset).1.isSome = true ↔
      ∃ c : Char, String.utf8EncodeChar c <+: text.drop offset := by
  constructor
  · intro h
    obtain ⟨codepoint, hcodepoint⟩ := Option.isSome_iff_exists.mp h
    obtain ⟨c, -, hc, -⟩ := utf8DecodeAt_eq_some_iff.mp (Prod.ext hcodepoint rfl)
    exact ⟨c, hc⟩
  · rintro ⟨c, hc⟩
    rw [utf8DecodeAt_eq_some_iff.mpr ⟨c, rfl, hc, rfl⟩]
    rfl

theorem utf8DecodeAll_encode (before : List UInt8) (chars : List Char) (extra : Nat) :
    utf8DecodeAll (before ++ chars.flatMap String.utf8EncodeChar) (chars.length + extra + 1)
      before.length = some (chars.map Char.val) := by
  induction chars generalizing before with
  | nil => simp [utf8DecodeAll]
  | cons c chars ih =>
    have hmore : ¬ (before ++ (String.utf8EncodeChar c ++
        chars.flatMap String.utf8EncodeChar)).length ≤ before.length := by
      have hpos := c.utf8Size_pos
      simp only [List.length_append, String.length_utf8EncodeChar]
      omega
    have hrest := ih (before ++ String.utf8EncodeChar c)
    rw [List.append_assoc, List.length_append] at hrest
    rw [List.flatMap_cons, List.length_cons, Nat.add_right_comm chars.length 1 extra, utf8DecodeAll,
      if_neg hmore, utf8DecodeAt_encode]
    simp only [hrest, Option.map_some, List.map_cons]

end NanokvmRdp.Hid
