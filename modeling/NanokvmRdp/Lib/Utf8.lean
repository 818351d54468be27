import NanokvmRdp.Lib.BigEndian

/-!
# UTF-8

Characters are encoded in one to four bytes by `String.utf8EncodeChar`, those of
the basic multilingual plane in at most three. Here are the four forms, what
their bytes decode to, and which leading byte announces which form.
-/

namespace Utf8

/-- Text that encodes characters of the basic multilingual plane. -/
def WellFormedBmp (text : List UInt8) : Prop :=
  ∃ chars : List Char, (∀ c ∈ chars, c.toNat ≤ 0xffff) ∧ text = chars.flatMap String.utf8EncodeChar

-- ---------------------------------------------------------------------------
-- Encoding
-- ---------------------------------------------------------------------------

theorem encode_one {c : Char} (h : c.toNat ≤ 0x7f) :
    String.utf8EncodeChar c = [UInt8.ofNat c.toNat] := by
  rw [String.utf8EncodeChar]
  exact if_pos h

theorem encode_two {c : Char} (h : 0x7f < c.toNat) (h' : c.toNat ≤ 0x7ff) :
    String.utf8EncodeChar c =
      [UInt8.ofNat (c.toNat / 64 + 0xc0), UInt8.ofNat (c.toNat % 64 + 0x80)] := by
  have hlead : c.toNat / 64 % 32 = c.toNat / 64 := Nat.mod_eq_of_lt (by omega)
  rw [String.utf8EncodeChar, ← hlead]
  exact (if_neg (Nat.not_le.mpr h)).trans (if_pos h')

theorem encode_three {c : Char} (h : 0x7ff < c.toNat) (h' : c.toNat ≤ 0xffff) :
    String.utf8EncodeChar c =
      [UInt8.ofNat (c.toNat / 4096 + 0xe0), UInt8.ofNat (c.toNat / 64 % 64 + 0x80),
        UInt8.ofNat (c.toNat % 64 + 0x80)] := by
  have hlead : c.toNat / 4096 % 16 = c.toNat / 4096 := Nat.mod_eq_of_lt (by omega)
  rw [String.utf8EncodeChar, ← hlead]
  refine (if_neg ?_).trans ((if_neg (Nat.not_le.mpr h)).trans (if_pos h'))
  exact Nat.not_le.mpr (Nat.lt_trans (by decide) h)

theorem encode_four {c : Char} (h : 0xffff < c.toNat) :
    String.utf8EncodeChar c =
      [UInt8.ofNat (c.toNat / 262144 + 0xf0), UInt8.ofNat (c.toNat / 4096 % 64 + 0x80),
        UInt8.ofNat (c.toNat / 64 % 64 + 0x80), UInt8.ofNat (c.toNat % 64 + 0x80)] := by
  have hvalid : c.toNat < 0xd800 ∨ 0xdfff < c.toNat ∧ c.toNat < 0x110000 := c.valid
  have hlead : c.toNat / 262144 % 8 = c.toNat / 262144 := Nat.mod_eq_of_lt (by omega)
  rw [String.utf8EncodeChar, ← hlead]
  refine (if_neg ?_).trans ((if_neg ?_).trans (if_neg (Nat.not_le.mpr h)))
  · exact Nat.not_le.mpr (Nat.lt_trans (by decide) h)
  · exact Nat.not_le.mpr (Nat.lt_trans (by decide) h)

-- ---------------------------------------------------------------------------
-- The bytes of a form
-- ---------------------------------------------------------------------------

def Continues (b : UInt8) : Prop := 0x80 ≤ b.toNat ∧ b.toNat < 0xc0

theorem toNat_ofNat_of_lt {n : Nat} (h : n < 256) : (UInt8.ofNat n).toNat = n := by
  rw [UInt8.toNat_ofNat', Nat.mod_eq_of_lt h]

theorem continues_ofNat (n : Nat) : Continues (UInt8.ofNat (n % 64 + 0x80)) := by
  rw [Continues, toNat_ofNat_of_lt (by omega)]
  omega

theorem ofNat_eq_of_eq_toNat {n : Nat} {b : UInt8} (h : n = b.toNat) : UInt8.ofNat n = b := by
  rw [h, UInt8.ofNat_toNat]

/-- The forms of a character with the value of each: no value has a form longer than it
needs, and no surrogate has one. -/
inductive Form : List UInt8 → Nat → Prop
  | one {first : UInt8} (hfirst : first.toNat < 0x80) : Form [first] first.toNat
  | two {first second : UInt8} (hfirst : 0xc2 ≤ first.toNat ∧ first.toNat < 0xe0)
      (hsecond : Continues second) :
      Form [first, second] (first.toNat % 32 * 64 + second.toNat % 64)
  | three {first second third : UInt8} (hfirst : 0xe0 ≤ first.toNat ∧ first.toNat < 0xf0)
      (hsecond : Continues second) (hthird : Continues third)
      (hshort : first.toNat = 0xe0 → 0xa0 ≤ second.toNat)
      (hsurrogate : first.toNat = 0xed → second.toNat < 0xa0) :
      Form [first, second, third]
        (first.toNat % 16 * 4096 + second.toNat % 64 * 64 + third.toNat % 64)
  | four {first second third fourth : UInt8} (hfirst : 0xf0 ≤ first.toNat ∧ first.toNat < 0xf5)
      (hsecond : Continues second) (hthird : Continues third) (hfourth : Continues fourth)
      (hshort : first.toNat = 0xf0 → 0x90 ≤ second.toNat)
      (hlimit : first.toNat = 0xf4 → second.toNat < 0x90) :
      Form [first, second, third, fourth]
        (first.toNat % 8 * 262144 + second.toNat % 64 * 4096 + third.toNat % 64 * 64 +
          fourth.toNat % 64)

variable {bytes : List UInt8} {value : Nat}

theorem Form.scalar (h : Form bytes value) :
    value < 0xd800 ∨ 0xdfff < value ∧ value < 0x110000 := by
  cases h with
  | one hfirst => omega
  | two hfirst hsecond => omega
  | three hfirst hsecond hthird hshort hsurrogate =>
    unfold Continues at hsecond
    omega
  | four hfirst hsecond hthird hfourth hshort hlimit =>
    unfold Continues at hsecond
    omega

theorem Form.le_toNat (h : Form bytes value) (hvalue : 0x7f < value) {byte : UInt8}
    (hbyte : byte ∈ bytes) : 0x80 ≤ byte.toNat := by
  cases h with
  | one hfirst => omega
  | two hfirst hsecond =>
    simp only [List.mem_cons, List.not_mem_nil, or_false] at hbyte
    rcases hbyte with rfl | rfl
    · omega
    · exact hsecond.1
  | three hfirst hsecond hthird hshort hsurrogate =>
    simp only [List.mem_cons, List.not_mem_nil, or_false] at hbyte
    rcases hbyte with rfl | rfl | rfl
    · omega
    · exact hsecond.1
    · exact hthird.1
  | four hfirst hsecond hthird hfourth hshort hlimit =>
    simp only [List.mem_cons, List.not_mem_nil, or_false] at hbyte
    rcases hbyte with rfl | rfl | rfl | rfl
    · omega
    · exact hsecond.1
    · exact hthird.1
    · exact hfourth.1

theorem Form.encode (h : Form bytes value) {c : Char} (hc : c.toNat = value) :
    String.utf8EncodeChar c = bytes := by
  cases h with
  | one hfirst => rw [encode_one (by omega), ofNat_eq_of_eq_toNat hc]
  | @two first second hfirst hsecond =>
    unfold Continues at hsecond
    rw [encode_two (by omega) (by omega), ofNat_eq_of_eq_toNat (b := first) (by omega),
      ofNat_eq_of_eq_toNat (b := second) (by omega)]
  | @three first second third hfirst hsecond hthird hshort =>
    unfold Continues at hsecond hthird
    rw [encode_three (by omega) (by omega), ofNat_eq_of_eq_toNat (b := first) (by omega),
      ofNat_eq_of_eq_toNat (b := second) (by omega), ofNat_eq_of_eq_toNat (b := third) (by omega)]
  | @four first second third fourth hfirst hsecond hthird hfourth hshort =>
    unfold Continues at hsecond hthird hfourth
    rw [encode_four (by omega), ofNat_eq_of_eq_toNat (b := first) (by omega),
      ofNat_eq_of_eq_toNat (b := second) (by omega), ofNat_eq_of_eq_toNat (b := third) (by omega),
      ofNat_eq_of_eq_toNat (b := fourth) (by omega)]

theorem Form.of_eq (h : Form bytes value) {value' : Nat} (heq : value = value') :
    Form bytes value' := heq ▸ h

theorem form_encode (c : Char) : Form (String.utf8EncodeChar c) c.toNat := by
  have hvalid : c.toNat < 0xd800 ∨ 0xdfff < c.toNat ∧ c.toNat < 0x110000 := c.valid
  have hcontinued (n : Nat) := toNat_ofNat_of_lt (show n % 64 + 0x80 < 256 by omega)
  by_cases hone : c.toNat ≤ 0x7f
  · have hfirst := toNat_ofNat_of_lt (show c.toNat < 256 by omega)
    rw [encode_one hone]
    exact (Form.one (by omega)).of_eq hfirst
  by_cases htwo : c.toNat ≤ 0x7ff
  · have hfirst := toNat_ofNat_of_lt (show c.toNat / 64 + 0xc0 < 256 by omega)
    rw [encode_two (by omega) htwo]
    refine (Form.two (by omega) (continues_ofNat _)).of_eq ?_
    rw [hfirst, hcontinued]
    omega
  by_cases hthree : c.toNat ≤ 0xffff
  · have hfirst := toNat_ofNat_of_lt (show c.toNat / 4096 + 0xe0 < 256 by omega)
    rw [encode_three (by omega) hthree]
    refine (Form.three (by omega) (continues_ofNat _) (continues_ofNat _) ?_ ?_).of_eq ?_
    · rw [hfirst, hcontinued]
      omega
    · rw [hfirst, hcontinued]
      omega
    · rw [hfirst, hcontinued, hcontinued]
      omega
  · have hfirst := toNat_ofNat_of_lt (show c.toNat / 262144 + 0xf0 < 256 by omega)
    rw [encode_four (by omega)]
    refine (Form.four (by omega) (continues_ofNat _) (continues_ofNat _) (continues_ofNat _) ?_
      ?_).of_eq ?_
    · rw [hfirst, hcontinued]
      omega
    · rw [hfirst, hcontinued]
      omega
    · rw [hfirst, hcontinued, hcontinued, hcontinued]
      omega

-- ---------------------------------------------------------------------------
-- Decoding
-- ---------------------------------------------------------------------------

theorem toNat_and_mask {k : Nat} (b mask : UInt8) (h : mask.toNat = 2 ^ k - 1) :
    (b &&& mask).toNat = b.toNat % 2 ^ k := by
  rw [UInt8.toNat_and, h, Nat.and_two_pow_sub_one_eq_mod]

theorem toNat_two (first second : UInt8) :
    ((first &&& 0x1f).toUInt32 <<< 6 ||| (second &&& 0x3f).toUInt32).toNat =
      first.toNat % 32 * 64 + second.toNat % 64 := by
  have hfirst : (first &&& 0x1f).toNat = first.toNat % 32 := toNat_and_mask (k := 5) _ _ rfl
  have hsecond : (second &&& 0x3f).toNat = second.toNat % 64 := toNat_and_mask (k := 6) _ _ rfl
  have ha := Nat.mod_lt first.toNat (by decide : 32 > 0)
  have hb := Nat.mod_lt second.toNat (by decide : 64 > 0)
  simp only [UInt32.toNat_or, UInt32.toNat_shiftLeft, UInt8.toNat_toUInt32, hfirst, hsecond,
    UInt32.reduceToNat, Nat.reduceMod]
  generalize first.toNat % 32 = a at ha ⊢
  generalize second.toNat % 64 = b at hb ⊢
  rw [Nat.mod_eq_of_lt (by rw [Nat.shiftLeft_eq]; omega), BigEndian.shift_or_of_lt 6 hb]
  rfl

theorem toNat_three (first second third : UInt8) :
    ((first &&& 0x0f).toUInt32 <<< 12 ||| (second &&& 0x3f).toUInt32 <<< 6 |||
        (third &&& 0x3f).toUInt32).toNat =
      first.toNat % 16 * 4096 + second.toNat % 64 * 64 + third.toNat % 64 := by
  have hfirst : (first &&& 0x0f).toNat = first.toNat % 16 := toNat_and_mask (k := 4) _ _ rfl
  have hsecond : (second &&& 0x3f).toNat = second.toNat % 64 := toNat_and_mask (k := 6) _ _ rfl
  have hthird : (third &&& 0x3f).toNat = third.toNat % 64 := toNat_and_mask (k := 6) _ _ rfl
  have ha := Nat.mod_lt first.toNat (by decide : 16 > 0)
  have hb := Nat.mod_lt second.toNat (by decide : 64 > 0)
  have hc := Nat.mod_lt third.toNat (by decide : 64 > 0)
  simp only [UInt32.toNat_or, UInt32.toNat_shiftLeft, UInt8.toNat_toUInt32, hfirst, hsecond, hthird,
    UInt32.reduceToNat, Nat.reduceMod]
  generalize first.toNat % 16 = a at ha ⊢
  generalize second.toNat % 64 = b at hb ⊢
  generalize third.toNat % 64 = c at hc ⊢
  have hhigh : a <<< 12 ||| b <<< 6 = (a * 64 + b) <<< 6 := by
    rw [BigEndian.shift_or_of_lt 12 (by rw [Nat.shiftLeft_eq]; omega)]
    simp only [Nat.shiftLeft_eq, Nat.reducePow]
    omega
  rw [Nat.mod_eq_of_lt (by rw [Nat.shiftLeft_eq]; omega),
    Nat.mod_eq_of_lt (by rw [Nat.shiftLeft_eq]; omega), hhigh, BigEndian.shift_or_of_lt 6 hc]
  omega

theorem toNat_four (first second third fourth : UInt8) :
    ((first &&& 0x07).toUInt32 <<< 18 ||| (second &&& 0x3f).toUInt32 <<< 12 |||
        (third &&& 0x3f).toUInt32 <<< 6 ||| (fourth &&& 0x3f).toUInt32).toNat =
      first.toNat % 8 * 262144 + second.toNat % 64 * 4096 + third.toNat % 64 * 64 +
        fourth.toNat % 64 := by
  have hfirst : (first &&& 0x07).toNat = first.toNat % 8 := toNat_and_mask (k := 3) _ _ rfl
  have hcontinued (b : UInt8) : (b &&& 0x3f).toNat = b.toNat % 64 := toNat_and_mask (k := 6) _ _ rfl
  have ha := Nat.mod_lt first.toNat (by decide : 8 > 0)
  have hb := Nat.mod_lt second.toNat (by decide : 64 > 0)
  have hc := Nat.mod_lt third.toNat (by decide : 64 > 0)
  have hd := Nat.mod_lt fourth.toNat (by decide : 64 > 0)
  simp only [UInt32.toNat_or, UInt32.toNat_shiftLeft, UInt8.toNat_toUInt32, hfirst, hcontinued,
    UInt32.reduceToNat, Nat.reduceMod]
  generalize first.toNat % 8 = a at ha ⊢
  generalize second.toNat % 64 = b at hb ⊢
  generalize third.toNat % 64 = c at hc ⊢
  generalize fourth.toNat % 64 = d at hd ⊢
  -- Peel the ors from the left, as for the three-byte form.
  have hab : a <<< 18 ||| b <<< 12 = (a * 64 + b) <<< 12 := by
    rw [BigEndian.shift_or_of_lt 18 (by rw [Nat.shiftLeft_eq]; omega)]
    simp only [Nat.shiftLeft_eq, Nat.reducePow]
    omega
  have habc : (a * 64 + b) <<< 12 ||| c <<< 6 = ((a * 64 + b) * 64 + c) <<< 6 := by
    rw [BigEndian.shift_or_of_lt 12 (by rw [Nat.shiftLeft_eq]; omega)]
    simp only [Nat.shiftLeft_eq, Nat.reducePow]
    omega
  rw [Nat.mod_eq_of_lt (by rw [Nat.shiftLeft_eq]; omega),
    Nat.mod_eq_of_lt (by rw [Nat.shiftLeft_eq]; omega),
    Nat.mod_eq_of_lt (by rw [Nat.shiftLeft_eq]; omega), hab, habc, BigEndian.shift_or_of_lt 6 hd]
  omega

theorem leads_two_iff (b : UInt8) : b &&& 0xe0 = 0xc0 ↔ 0xc0 ≤ b.toNat ∧ b.toNat < 0xe0 := by
  obtain ⟨b⟩ := b
  revert b
  decide

theorem leads_three_iff (b : UInt8) : b &&& 0xf0 = 0xe0 ↔ 0xe0 ≤ b.toNat ∧ b.toNat < 0xf0 := by
  obtain ⟨b⟩ := b
  revert b
  decide

-- ---------------------------------------------------------------------------
-- Building the bytes
-- ---------------------------------------------------------------------------

theorem mark_or {k x bits : Nat} (h : bits < 2 ^ k) : x * 2 ^ k ||| bits = bits + x * 2 ^ k := by
  rw [← Nat.shiftLeft_eq, BigEndian.shift_or_of_lt k h, Nat.shiftLeft_eq, Nat.add_comm]

theorem mark_byte {k x : Nat} {mark bits : UInt16} (hmark : mark.toNat = x * 2 ^ k)
    (h : bits.toNat < 2 ^ k) :
    (mark ||| bits).toUInt8 = UInt8.ofNat (bits.toNat + mark.toNat) := by
  rw [← UInt8.toNat_inj, UInt16.toNat_toUInt8, UInt16.toNat_or, hmark, mark_or h, UInt8.toNat_ofNat']

theorem mark_byte_u32 {k x : Nat} {mark bits : UInt32} (hmark : mark.toNat = x * 2 ^ k)
    (h : bits.toNat < 2 ^ k) :
    (mark ||| bits).toUInt8 = UInt8.ofNat (bits.toNat + mark.toNat) := by
  rw [← UInt8.toNat_inj, UInt32.toNat_toUInt8, UInt32.toNat_or, hmark, mark_or h, UInt8.toNat_ofNat']

end Utf8
