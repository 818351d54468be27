import NanokvmRdp.Gateway.HttpUnicode
import NanokvmRdp.Hid.Codec

/-!
# One encoding on both sides

The router writes UTF-8 with a codec of its own, `hid_type_utf8` reads it with
another. They agree: the text of several presses, put together in one buffer, is
read back code by code.
-/

namespace NanokvmRdp.Gateway

open Protocol Hid

theorem unicode_accepts {code : UInt16} (h : InputRouter.unicode code false ≠ none) :
    ∃ (c : Char) (message : ControlMessage), c.val = code.toUInt32 ∧
      InputRouter.unicode code false = some (some message) ∧
      message.type = ControlType.textUtf8.code ∧ message.payload = String.utf8EncodeChar c := by
  have hgood : ¬ (code = 0 ∨ 0xd800 ≤ code ∧ code ≤ 0xdfff) := by
    intro hbad
    refine h ?_
    rw [InputRouter.unicode, if_neg Bool.false_ne_true, if_pos hbad]
  simp only [← UInt16.toNat_inj, UInt16.le_iff_toNat_le, UInt16.reduceToNat] at hgood
  have hcode := UInt16.toNat_toUInt32 code
  have hsize := code.toNat_lt
  obtain ⟨c, hval, hnat⟩ := exists_char code.toUInt32 (by omega)
  obtain ⟨message, hmessage, hparts⟩ := unicode_encode (c := c) (by omega) (by omega)
  rw [hval, UInt16.toUInt16_toUInt32] at hmessage
  exact ⟨c, message, hval, hmessage, congrArg Prod.fst hparts, congrArg Prod.snd hparts⟩

/-- Presses whose payloads follow each other spell a text. -/
theorem exists_chars_of_presses {presses : List (UInt16 × ControlMessage)}
    (h : ∀ press ∈ presses, InputRouter.unicode press.1 false = some (some press.2)) :
    ∃ chars : List Char, chars.map Char.val = presses.map (fun press => press.1.toUInt32) ∧
      presses.flatMap (fun press => press.2.payload) = chars.flatMap String.utf8EncodeChar := by
  induction presses with
  | nil => exact ⟨[], rfl, rfl⟩
  | cons press presses ih =>
    obtain ⟨chars, hcodes, hpayloads⟩ := ih fun other hother => h other (List.mem_cons_of_mem _ hother)
    have hpress := h press List.mem_cons_self
    have haccepted : InputRouter.unicode press.1 false ≠ none := by
      rw [hpress]
      exact Option.some_ne_none _
    obtain ⟨c, message, hval, hmessage, -, hpayload⟩ := unicode_accepts haccepted
    have hsame : press.2 = message := by
      rw [hpress] at hmessage
      exact Option.some.inj (Option.some.inj hmessage)
    refine ⟨c :: chars, ?_, ?_⟩
    · rw [List.map_cons, List.map_cons, hval, hcodes]
    · rw [List.flatMap_cons, List.flatMap_cons, hsame, hpayload, hpayloads]

theorem length_le_length_encode (chars : List Char) :
    chars.length ≤ (chars.flatMap String.utf8EncodeChar).length := by
  induction chars with
  | nil => exact Nat.le_refl _
  | cons c chars ih =>
    have hpos := length_encode_pos c
    rw [List.flatMap_cons, List.length_append, List.length_cons]
    omega

/-- The three codecs agree: decoding accepts exactly the encodings of characters and passes
them, encoding is its inverse, and the router's payloads are encodings. -/
theorem utf8_codecs_inverse :
    (∀ (text : List UInt8) (offset : Nat),
      ((utf8DecodeAt text offset).1.isSome = true ↔
        ∃ c : Char, String.utf8EncodeChar c <+: text.drop offset) ∧
      ∀ codepoint next, utf8DecodeAt text offset = (some codepoint, next) →
        (∃ c : Char, c.val = codepoint ∧ String.utf8EncodeChar c <+: text.drop offset ∧
          next = offset + (String.utf8EncodeChar c).length) ∧
        next ≤ text.length ∧
        utf8Encode codepoint = some ((text.drop offset).take (next - offset))) ∧
    (∀ c : Char, ∃ bytes, utf8Encode c.val = some bytes ∧
      utf8DecodeAt bytes 0 = (some c.val, bytes.length)) ∧
    (∀ code : UInt16, InputRouter.unicode code false ≠ none →
      ∃ message, InputRouter.unicode code false = some (some message) ∧
        message.type = ControlType.textUtf8.code ∧
        utf8Encode code.toUInt32 = some message.payload) ∧
    ∀ presses : List (UInt16 × ControlMessage),
      (∀ press ∈ presses, InputRouter.unicode press.1 false = some (some press.2)) →
      ∀ text, text = presses.flatMap (fun press => press.2.payload) →
        utf8DecodeAll text (text.length + 1) 0 =
          some (presses.map fun press => press.1.toUInt32) := by
  refine ⟨fun text offset => ⟨isSome_utf8DecodeAt_iff text offset, ?_⟩, ?_, ?_, ?_⟩
  · intro codepoint next h
    have hspec := utf8DecodeAt_eq_some_iff.mp h
    obtain ⟨c, rfl, hencoded, rfl⟩ := hspec
    have hpos := length_encode_pos c
    have hfits := hencoded.length_le
    rw [List.length_drop] at hfits
    refine ⟨⟨c, rfl, hencoded, rfl⟩, by omega, ?_⟩
    rw [utf8Encode_char, Nat.add_sub_cancel_left]
    exact congrArg some (List.prefix_iff_eq_take.mp hencoded)
  · intro c
    have hdecode := utf8DecodeAt_encode [] c []
    rw [List.append_nil, List.nil_append, List.length_nil, Nat.zero_add] at hdecode
    exact ⟨_, utf8Encode_char c, hdecode⟩
  · intro code haccepted
    obtain ⟨c, message, hval, hmessage, htype, hpayload⟩ := unicode_accepts haccepted
    refine ⟨message, hmessage, htype, ?_⟩
    rw [← hval, utf8Encode_char, hpayload]
  · rintro presses hpresses text rfl
    obtain ⟨chars, hcodes, hpayloads⟩ := exists_chars_of_presses hpresses
    have hlength := length_le_length_encode chars
    have hall := utf8DecodeAll_encode [] chars
      ((chars.flatMap String.utf8EncodeChar).length - chars.length)
    rw [List.nil_append, Nat.add_sub_cancel' hlength] at hall
    rw [hpayloads, ← hcodes]
    exact hall

end NanokvmRdp.Gateway
