import NanokvmRdp.Gateway.HttpText
import NanokvmRdp.Lib.Utf8

/-!
# Which text `handle_text` types

Well-formed UTF-8 of the basic multilingual plane is sent character by
character. Other text is decoded with the same loop, which looks at the leading
byte of each character only and sends as it goes: text is refused without
anything sent exactly if its first character is one the loop rejects.
-/

namespace NanokvmRdp.Gateway

open Protocol

def messageParts (message : ControlMessage) : UInt8 × List UInt8 := (message.type, message.payload)

/-- The text is typed, or it is refused with nothing sent; every message is delivered. -/
structure TypesTextOrNothing (text : List UInt8) : Prop where
  typed : ∀ chars : List Char, (∀ c ∈ chars, c.toNat ≤ 0xffff) →
    text = chars.flatMap String.utf8EncodeChar →
    (handleText (fun _ => true) text).1.map messageParts =
        chars.map (fun c => (ControlType.textUtf8.code, String.utf8EncodeChar c)) ∧
      (handleText (fun _ => true) text).2 = .ok true
  refused : ¬ Utf8.WellFormedBmp text →
    ∃ reason, handleText (fun _ => true) text = ([], .error 400 reason)

/-- The text begins with a byte that leads no character of one to three bytes, with
a character that is cut off, or with an encoding of zero. -/
def StartsRejected : List UInt8 → Prop
  | [] => False
  | first :: rest =>
    (0x80 ≤ first ∧ first < 0xc0) ∨ 0xf0 ≤ first ∨
    (first &&& 0xe0 = 0xc0 ∧ (rest.length < 1 ∨ (first = 0xc0 ∧ rest.getD 0 0 &&& 0x3f = 0))) ∨
    (first &&& 0xf0 = 0xe0 ∧ (rest.length < 2 ∨
      (first = 0xe0 ∧ rest.getD 0 0 &&& 0x3f = 0 ∧ rest.getD 1 0 &&& 0x3f = 0)))

-- ---------------------------------------------------------------------------
-- Characters
-- ---------------------------------------------------------------------------

theorem textCharacter_one {first : UInt8} (h : first.toNat < 0x80) (rest : List UInt8) :
    textCharacter (first :: rest) = some (first.toUInt32, rest) := by
  rw [textCharacter, if_pos (UInt8.lt_iff_toNat_lt.mpr h)]

theorem textCharacter_two {first : UInt8} (h : 0xc0 ≤ first.toNat ∧ first.toNat < 0xe0) (second : UInt8)
    (rest : List UInt8) :
    textCharacter (first :: second :: rest) =
      some ((first &&& 0x1f).toUInt32 <<< 6 ||| (second &&& 0x3f).toUInt32, rest) := by
  have hlarge : ¬ first < 0x80 := by
    rw [UInt8.lt_iff_toNat_lt]
    exact Nat.not_lt.mpr (Nat.le_trans (by decide) h.1)
  rw [textCharacter, if_neg hlarge, if_pos ⟨(Utf8.leads_two_iff first).mpr h, Nat.succ_pos _⟩]
  rfl

theorem textCharacter_three {first : UInt8} (h : 0xe0 ≤ first.toNat ∧ first.toNat < 0xf0)
    (second third : UInt8) (rest : List UInt8) :
    textCharacter (first :: second :: third :: rest) =
      some ((first &&& 0x0f).toUInt32 <<< 12 ||| (second &&& 0x3f).toUInt32 <<< 6 |||
        (third &&& 0x3f).toUInt32, rest) := by
  have hlarge : ¬ first < 0x80 := by
    rw [UInt8.lt_iff_toNat_lt]
    exact Nat.not_lt.mpr (Nat.le_trans (by decide) h.1)
  have hnot : ¬ (first &&& 0xe0 = 0xc0 ∧ 1 ≤ (second :: third :: rest).length) := fun htwo =>
    absurd ((Utf8.leads_two_iff first).mp htwo.1).2 (Nat.not_lt.mpr h.1)
  rw [textCharacter, if_neg hlarge, if_neg hnot,
    if_pos ⟨(Utf8.leads_three_iff first).mpr h, Nat.le_add_left 2 _⟩]
  rfl

theorem textCharacter_form {bytes : List UInt8} {value : Nat} (h : Utf8.Form bytes value)
    (hvalue : value ≤ 0xffff) (rest : List UInt8) :
    textCharacter (bytes ++ rest) = some (UInt32.ofNat value, rest) := by
  cases h with
  | one hfirst =>
    rw [List.singleton_append, textCharacter_one hfirst, ← UInt8.toNat_toUInt32, UInt32.ofNat_toNat]
  | two hfirst hsecond =>
    rw [← Utf8.toNat_two, UInt32.ofNat_toNat]
    exact textCharacter_two (by omega) _ rest
  | three hfirst hsecond hthird hshort hsurrogate =>
    rw [← Utf8.toNat_three, UInt32.ofNat_toNat]
    exact textCharacter_three hfirst _ _ rest
  | four hfirst hsecond hthird hfourth hshort hlimit =>
    unfold Utf8.Continues at hsecond
    omega

theorem textCharacter_encode {c : Char} (h : c.toNat ≤ 0xffff) (rest : List UInt8) :
    textCharacter (String.utf8EncodeChar c ++ rest) = some (c.val, rest) := by
  have hval : UInt32.ofNat c.toNat = c.val := UInt32.ofNat_toNat
  rw [textCharacter_form (Utf8.form_encode c) h, hval]

theorem unicode_encode {c : Char} (h : c.toNat ≤ 0xffff) (hzero : c.toNat ≠ 0) :
    ∃ message, InputRouter.unicode c.val.toUInt16 false = some (some message) ∧
      messageParts message = (ControlType.textUtf8.code, String.utf8EncodeChar c) := by
  have hcode : c.val.toUInt16.toNat = c.toNat := by
    rw [UInt32.toNat_toUInt16]
    exact Nat.mod_eq_of_lt (Nat.lt_succ_of_le h)
  have hvalid : c.toNat < 0xd800 ∨ 0xdfff < c.toNat ∧ c.toNat < 0x110000 := c.valid
  generalize c.val.toUInt16 = code at hcode
  have hgood : ¬ (code = 0 ∨ 0xd800 ≤ code ∧ code ≤ 0xdfff) := by
    rw [← UInt16.toNat_inj, UInt16.le_iff_toNat_le, UInt16.le_iff_toNat_le, hcode]
    change ¬ (c.toNat = 0 ∨ 0xd800 ≤ c.toNat ∧ c.toNat ≤ 0xdfff)
    omega
  have hone : code ≤ 0x007f ↔ c.toNat ≤ 0x7f := by rw [UInt16.le_iff_toNat_le, hcode]; rfl
  have htwo : code ≤ 0x07ff ↔ c.toNat ≤ 0x7ff := by rw [UInt16.le_iff_toNat_le, hcode]; rfl
  have hshift6 : (code >>> 6).toNat = c.toNat / 64 := by
    rw [UInt16.toNat_shiftRight, hcode]
    exact Nat.shiftRight_eq_div_pow _ 6
  have hshift12 : (code >>> 12).toNat = c.toNat / 4096 := by
    rw [UInt16.toNat_shiftRight, hcode]
    exact Nat.shiftRight_eq_div_pow _ 12
  have hmask (bits : UInt16) : (bits &&& 0x3f).toNat = bits.toNat % 64 := by
    rw [UInt16.toNat_and]
    exact Nat.and_two_pow_sub_one_eq_mod _ 6
  have hcontinuation (bits : UInt16) :
      ((0x80 : UInt16) ||| bits &&& 0x3f).toUInt8 = UInt8.ofNat (bits.toNat % 64 + 0x80) := by
    rw [Utf8.mark_byte (k := 6) (x := 2) rfl (by rw [hmask]; exact Nat.mod_lt _ (by decide)), hmask]
    rfl
  simp only [InputRouter.unicode, Bool.false_eq_true, if_false, if_neg hgood, hone, htwo]
  split
  · refine ⟨_, rfl, Prod.ext rfl ?_⟩
    rw [Utf8.encode_one ‹_›]
    refine congrArg (fun byte => [byte]) (UInt8.toNat_inj.mp ?_)
    rw [UInt16.toNat_toUInt8, hcode, UInt8.toNat_ofNat']
  · split
    · refine ⟨_, rfl, Prod.ext rfl ?_⟩
      have hlead : ((0xc0 : UInt16) ||| code >>> 6).toUInt8 = UInt8.ofNat ((code >>> 6).toNat + 0xc0) :=
        Utf8.mark_byte (k := 6) (x := 3) rfl (by rw [hshift6]; omega)
      rw [Utf8.encode_two (by omega) ‹_›]
      change [_, _] = _
      rw [hlead, hcontinuation, hshift6, hcode]
    · refine ⟨_, rfl, Prod.ext rfl ?_⟩
      have hlead : ((0xe0 : UInt16) ||| code >>> 12).toUInt8 =
          UInt8.ofNat ((code >>> 12).toNat + 0xe0) :=
        Utf8.mark_byte (k := 5) (x := 7) rfl (by rw [hshift12]; omega)
      rw [Utf8.encode_three (by omega) h]
      change [_, _, _] = _
      rw [hlead, hcontinuation, hcontinuation, hshift12, hshift6, hcode]

-- ---------------------------------------------------------------------------
-- The first character
-- ---------------------------------------------------------------------------

theorem toNat_and_continuation (byte : UInt8) : (byte &&& 0x3f).toNat = byte.toNat % 64 :=
  Utf8.toNat_and_mask (k := 6) _ _ rfl

theorem textCharacter_none {first : UInt8} (hlarge : 0x80 ≤ first.toNat)
    (htwo : ¬ (first &&& 0xe0 = 0xc0 ∧ 1 ≤ rest.length))
    (hthree : ¬ (first &&& 0xf0 = 0xe0 ∧ 2 ≤ rest.length)) : textCharacter (first :: rest) = none := by
  have hnot : ¬ first < 0x80 := by
    rw [UInt8.lt_iff_toNat_lt]
    exact Nat.not_lt.mpr hlarge
  rw [textCharacter, if_neg hnot, if_neg htwo, if_neg hthree]

theorem textCharacter_of_startsRejected (h : StartsRejected text) :
    textCharacter text = none ∨ ∃ rest, textCharacter text = some (0, rest) := by
  cases text with
  | nil => exact h.elim
  | cons first rest =>
    have htwo := Utf8.leads_two_iff first
    have hthree := Utf8.leads_three_iff first
    rcases h with ⟨hlow, hhigh⟩ | hhigh | ⟨hlead, hcut | ⟨rfl, hzero⟩⟩ | ⟨hlead, hcut | ⟨rfl, hzero, hzero'⟩⟩
    · rw [UInt8.le_iff_toNat_le] at hlow
      rw [UInt8.lt_iff_toNat_lt] at hhigh
      simp only [UInt8.reduceToNat] at hlow hhigh
      exact .inl (textCharacter_none hlow (by rw [htwo]; omega) (by rw [hthree]; omega))
    · rw [UInt8.le_iff_toNat_le] at hhigh
      simp only [UInt8.reduceToNat] at hhigh
      exact .inl (textCharacter_none (by omega) (by rw [htwo]; omega) (by rw [hthree]; omega))
    · rw [htwo] at hlead
      exact .inl (textCharacter_none (by omega) (by omega) (by rw [hthree]; omega))
    · match rest with
      | [] => exact .inl (by decide)
      | second :: rest =>
        refine .inr ⟨rest, ?_⟩
        rw [textCharacter_two (by decide), show second &&& 0x3f = 0 from hzero]
        rfl
    · rw [hthree] at hlead
      exact .inl (textCharacter_none (by omega) (by rw [htwo]; omega) (by omega))
    · match rest with
      | [] => exact .inl (by decide)
      | [second] =>
        refine .inl (textCharacter_none (by decide) ?_ ?_) <;> simp
      | second :: third :: rest =>
        refine .inr ⟨rest, ?_⟩
        rw [textCharacter_three (by decide), show second &&& 0x3f = 0 from hzero,
          show third &&& 0x3f = 0 from hzero']
        rfl

theorem textCharacter_of_not_startsRejected {first : UInt8} (hfirst : first ≠ 0)
    (h : ¬ StartsRejected (first :: rest)) :
    ∃ codepoint more, textCharacter (first :: rest) = some (codepoint, more) ∧ codepoint ≠ 0 ∧
      codepoint ≤ 0xffff := by
  have htwo := Utf8.leads_two_iff first
  have hthree := Utf8.leads_three_iff first
  have hpos : first.toNat ≠ 0 := fun hzero => hfirst (UInt8.toNat_inj.mp hzero)
  have hzero (byte : UInt8) (hbyte : byte.toNat % 64 = 0) : byte &&& 0x3f = 0 :=
    UInt8.toNat_inj.mp ((toNat_and_continuation byte).trans hbyte)
  simp only [StartsRejected, not_or, UInt8.le_iff_toNat_le, UInt8.lt_iff_toNat_lt,
    UInt8.reduceToNat, htwo, hthree, not_and, not_lt, Nat.not_le] at h
  obtain ⟨hcontinuation, hhigh, hsecond, hthird⟩ := h
  simp only [ne_eq, UInt32.le_iff_toNat_le, ← UInt32.toNat_inj, UInt32.reduceToNat]
  by_cases hone : first.toNat < 0x80
  · refine ⟨_, _, textCharacter_one hone rest, ?_, ?_⟩
    · rw [UInt8.toNat_toUInt32]
      exact hpos
    · rw [UInt8.toNat_toUInt32]
      omega
  · by_cases hlead : first.toNat < 0xe0
    · have hrange : 0xc0 ≤ first.toNat ∧ first.toNat < 0xe0 := ⟨by omega, hlead⟩
      obtain ⟨hlength, hvalue⟩ := hsecond hrange
      match rest, hlength, hvalue with
      | second :: rest, _, hvalue =>
        refine ⟨_, _, textCharacter_two hrange second rest, ?_, ?_⟩
        · rw [Utf8.toNat_two]
          intro hsum
          refine hvalue (UInt8.toNat_inj.mp (?_ : first.toNat = 0xc0)) (hzero second (by omega))
          omega
        · rw [Utf8.toNat_two]
          omega
    · have hrange : 0xe0 ≤ first.toNat ∧ first.toNat < 0xf0 := ⟨by omega, hhigh⟩
      obtain ⟨hlength, hvalue⟩ := hthird hrange
      match rest, hlength, hvalue with
      | second :: third :: rest, _, hvalue =>
        refine ⟨_, _, textCharacter_three hrange second third rest, ?_, ?_⟩
        · rw [Utf8.toNat_three]
          intro hsum
          refine hvalue (UInt8.toNat_inj.mp (?_ : first.toNat = 0xe0)) (hzero second (by omega))
            (hzero third (by omega))
          omega
        · rw [Utf8.toNat_three]
          omega

-- ---------------------------------------------------------------------------
-- The loop
-- ---------------------------------------------------------------------------

theorem textLoop_rejected (h : StartsRejected text) (delivers : Nat → Bool) (fuel : Nat)
    (sent : List ControlMessage) :
    ∃ reason, textLoop delivers (fuel + 1) text sent = (sent, .error 400 reason) := by
  cases text with
  | nil => exact h.elim
  | cons first rest =>
    rcases textCharacter_of_startsRejected h with hnone | ⟨more, hzero⟩
    · exact ⟨"utf-8", by simp only [textLoop, hnone]⟩
    · exact ⟨"bmp-only", by simp only [textLoop, hzero, true_or, if_true]⟩

theorem textLoop_sent (delivers : Nat → Bool) (fuel : Nat) (text : List UInt8)
    (sent : List ControlMessage) : sent <+: (textLoop delivers fuel text sent).1 := by
  induction fuel generalizing text sent with
  | zero => cases text <;> exact List.prefix_rfl
  | succ fuel ih =>
    cases text with
    | nil => exact List.prefix_rfl
    | cons first rest =>
      simp only [textLoop]
      split
      · exact List.prefix_rfl
      · split
        · exact List.prefix_rfl
        · split
          · exact List.prefix_rfl
          · exact ih _ _
          · split
            · exact (List.prefix_append _ _).trans (ih _ _)
            · exact List.prefix_append _ _

theorem handleText_of_not_startsRejected {first : UInt8} (hfirst : first ≠ 0)
    (h : ¬ StartsRejected (first :: rest)) (reason : String) :
    handleText (fun _ => true) (first :: rest) ≠ ([], .error 400 reason) := by
  obtain ⟨codepoint, more, hread, hzero, hbmp⟩ := textCharacter_of_not_startsRejected hfirst h
  have hgood : ¬ (codepoint = 0 ∨ codepoint > 0xffff) :=
    not_or.mpr ⟨hzero, UInt32.not_lt.mpr hbmp⟩
  intro heq
  rw [handleText, List.length_cons] at heq
  simp only [textLoop, hread, if_neg hgood, if_true] at heq
  split at heq
  · cases heq
  · rename_i hnone
    simp only [InputRouter.unicode, Bool.false_eq_true, if_false] at hnone
    split at hnone
    · cases hnone
    · split at hnone
      · cases hnone
      · split at hnone <;> cases hnone
  · rename_i message _
    have hprefix := textLoop_sent (fun _ => true) rest.length more ([] ++ [message])
    rw [heq] at hprefix
    exact absurd hprefix.length_le (by simp)

theorem length_encode_pos (c : Char) : 0 < (String.utf8EncodeChar c).length := by
  rw [String.length_utf8EncodeChar]
  exact c.utf8Size_pos

theorem textLoop_encoded {chars : List Char} (h : ∀ c ∈ chars, c.toNat ≤ 0xffff ∧ c.toNat ≠ 0)
    (hfuel : (chars.flatMap String.utf8EncodeChar).length ≤ fuel) (sent : List ControlMessage) :
    (textLoop (fun _ => true) fuel (chars.flatMap String.utf8EncodeChar) sent).1.map messageParts =
        sent.map messageParts ++
          chars.map (fun c => (ControlType.textUtf8.code, String.utf8EncodeChar c)) ∧
      (textLoop (fun _ => true) fuel (chars.flatMap String.utf8EncodeChar) sent).2 = .ok true := by
  induction chars generalizing fuel sent with
  | nil => cases fuel <;> simp [textLoop]
  | cons c chars ih =>
    obtain ⟨hbmp, hzero⟩ := h c List.mem_cons_self
    have hpos := length_encode_pos c
    rw [List.flatMap_cons] at hfuel ⊢
    rw [List.length_append] at hfuel
    obtain ⟨fuel, rfl⟩ : ∃ n, fuel = n + 1 := ⟨fuel - 1, by omega⟩
    obtain ⟨message, hmessage, hparts⟩ := unicode_encode hbmp hzero
    have hread := textCharacter_encode hbmp (chars.flatMap String.utf8EncodeChar)
    have hgood : ¬ (c.val = 0 ∨ c.val > 0xffff) := by
      rw [← UInt32.toNat_inj, gt_iff_lt, UInt32.lt_iff_toNat_lt]
      exact not_or.mpr ⟨hzero, Nat.not_lt.mpr hbmp⟩
    obtain ⟨first, rest, htext⟩ : ∃ first rest,
        String.utf8EncodeChar c ++ chars.flatMap String.utf8EncodeChar = first :: rest :=
      List.exists_cons_of_ne_nil fun hnil => by
        rw [(List.append_eq_nil_iff.mp hnil).1] at hpos
        exact absurd hpos (by decide)
    rw [htext] at hread ⊢
    simp only [textLoop, hread, if_neg hgood, hmessage, if_true]
    have hrest := ih (fun c' hc' => h c' (List.mem_cons_of_mem _ hc')) (by omega : _ ≤ fuel)
      (sent ++ [message])
    rw [List.map_append, List.map_singleton, hparts] at hrest
    simpa using hrest

theorem toNat_ne_zero_of_encode {chars : List Char}
    (hzero : 0 ∉ chars.flatMap String.utf8EncodeChar) {c : Char} (hc : c ∈ chars) : c.toNat ≠ 0 := by
  intro hnul
  refine hzero (List.mem_flatMap.mpr ⟨c, hc, ?_⟩)
  rw [Utf8.encode_one (by omega), hnul]
  exact List.mem_singleton_self 0

theorem wellFormed_typed {text : List UInt8} (h : Utf8.WellFormedBmp text) (hzero : 0 ∉ text) :
    (handleText (fun _ => true) text).1.flatMap (fun message => message.payload) = text ∧
      (handleText (fun _ => true) text).2 = .ok true := by
  obtain ⟨chars, hbmp, rfl⟩ := h
  have htyped := textLoop_encoded (fun c hc => ⟨hbmp c hc, toNat_ne_zero_of_encode hzero hc⟩)
    (Nat.le_refl _) []
  refine ⟨?_, htyped.2⟩
  have hpayloads := congrArg (List.flatMap Prod.snd) htyped.1
  rw [List.flatMap_map, List.map_nil, List.nil_append, List.flatMap_map] at hpayloads
  exact hpayloads

/-- Without a zero byte, text is typed or refused as a whole exactly if it is
well formed, or begins with a character that is rejected. -/
theorem types_text_or_nothing_iff (text : List UInt8) (hzero : 0 ∉ text) :
    TypesTextOrNothing text ↔ Utf8.WellFormedBmp text ∨ StartsRejected text := by
  have htyped : ∀ chars : List Char, (∀ c ∈ chars, c.toNat ≤ 0xffff) →
      text = chars.flatMap String.utf8EncodeChar →
      (handleText (fun _ => true) text).1.map messageParts =
          chars.map (fun c => (ControlType.textUtf8.code, String.utf8EncodeChar c)) ∧
        (handleText (fun _ => true) text).2 = .ok true := by
    rintro chars hbmp rfl
    exact textLoop_encoded (fun c hc => ⟨hbmp c hc, toNat_ne_zero_of_encode hzero hc⟩) (Nat.le_refl _) []
  constructor
  · intro h
    by_cases hwell : Utf8.WellFormedBmp text
    · exact .inl hwell
    · obtain ⟨reason, hrefused⟩ := h.refused hwell
      cases text with
      | nil => exact absurd ⟨[], nofun, rfl⟩ hwell
      | cons first rest =>
        refine .inr (not_not.mp fun hread => ?_)
        have hfirst : first ≠ 0 := fun heq => hzero (heq ▸ List.mem_cons_self)
        exact handleText_of_not_startsRejected hfirst hread reason hrefused
  · rintro (hwell | hrejected)
    · exact ⟨htyped, fun hnot => absurd hwell hnot⟩
    · refine ⟨htyped, fun _ => ?_⟩
      cases text with
      | nil => exact hrejected.elim
      | cons first rest => exact textLoop_rejected hrejected _ rest.length []

theorem accented_text_typed : 0 ∉ ([0x68, 0xc3, 0xa9] : List UInt8) ∧ TypesTextOrNothing [0x68, 0xc3, 0xa9] :=
  ⟨by decide, (types_text_or_nothing_iff [0x68, 0xc3, 0xa9] (by decide)).mpr
    (.inl ⟨['h', 'é'], by simp, by decide⟩)⟩

/-- A leading byte whose continuation is missing takes the next character with it,
and an invalid byte is found after the first character is sent. -/
theorem ill_formed_text_typed :
    ¬ TypesTextOrNothing [0xc3, 0x28] ∧ ¬ TypesTextOrNothing [0x61, 0xff] := by
  have hopen : ¬ Utf8.WellFormedBmp [0xc3, 0x28] := fun h =>
    absurd (wellFormed_typed h (by decide)).1 (by decide)
  have hinvalid : ¬ Utf8.WellFormedBmp [0x61, 0xff] := fun h =>
    absurd (wellFormed_typed h (by decide)).2 (by decide)
  refine ⟨fun h => ?_, fun h => ?_⟩
  · obtain ⟨_, hrefused⟩ := h.refused hopen
    have hsent : (handleText (fun _ => true) [0xc3, 0x28]).1 = [] := congrArg Prod.fst hrefused
    exact absurd hsent (by decide)
  · obtain ⟨_, hrefused⟩ := h.refused hinvalid
    have hsent : (handleText (fun _ => true) [0x61, 0xff]).1 = [] := congrArg Prod.fst hrefused
    exact absurd hsent (by decide)

end NanokvmRdp.Gateway
