/-!
# Keys

The tables of `hid.c`: RDP scancodes to HID usages and modifiers, characters
to the key that types them, Hangul to two-set keystrokes, and the UTF-8
decoder and encoder that `hid_type_utf8` uses.
-/

namespace NanokvmRdp.Hid

def hidModifierRightAlt : UInt8 := 0x40

/-- What a scancode stands for: a usage, or a modifier bit with usage 0. -/
structure ScanKey where
  usage : UInt8
  modifier : UInt8
  deriving DecidableEq, Repr

/-- The table `normal`, from scancode 0 on; 0 marks a hole. -/
def normalUsages : List UInt8 := [
  0x00, 0x29, 0x1e, 0x1f, 0x20, 0x21, 0x22, 0x23, 0x24, 0x25, 0x26, 0x27, 0x2d, 0x2e, 0x2a, 0x2b,
  0x14, 0x1a, 0x08, 0x15, 0x17, 0x1c, 0x18, 0x0c, 0x12, 0x13, 0x2f, 0x30, 0x28, 0x00, 0x04, 0x16,
  0x07, 0x09, 0x0a, 0x0b, 0x0d, 0x0e, 0x0f, 0x33, 0x34, 0x35, 0x00, 0x31, 0x1d, 0x1b, 0x06, 0x19,
  0x05, 0x11, 0x10, 0x36, 0x37, 0x38, 0x00, 0x55, 0x00, 0x2c, 0x39, 0x3a, 0x3b, 0x3c, 0x3d, 0x3e,
  0x3f, 0x40, 0x41, 0x42, 0x43, 0x53, 0x47, 0x5f, 0x60, 0x61, 0x56, 0x5c, 0x5d, 0x5e, 0x57, 0x59,
  0x5a, 0x5b, 0x62, 0x63, 0x67, 0x00, 0x64, 0x44, 0x45, 0x4c, 0x00, 0x00, 0x49, 0x4d, 0x4b, 0x4e,
  0x4a, 0x4f, 0x50, 0x51, 0x52, 0x4c, 0x65]

def extendedKey : UInt8 → Option ScanKey
  | 0x1c => some ⟨0x58, 0⟩
  | 0x1d => some ⟨0, 0x10⟩
  | 0x35 => some ⟨0x54, 0⟩
  | 0x37 => some ⟨0x46, 0⟩
  | 0x38 => some ⟨0, hidModifierRightAlt⟩
  | 0x47 => some ⟨0x4a, 0⟩
  | 0x48 => some ⟨0x52, 0⟩
  | 0x49 => some ⟨0x4b, 0⟩
  | 0x4b => some ⟨0x50, 0⟩
  | 0x4d => some ⟨0x4f, 0⟩
  | 0x4f => some ⟨0x4d, 0⟩
  | 0x50 => some ⟨0x51, 0⟩
  | 0x51 => some ⟨0x4e, 0⟩
  | 0x52 => some ⟨0x49, 0⟩
  | 0x53 => some ⟨0x4c, 0⟩
  | 0x5b => some ⟨0, 0x08⟩
  | 0x5c => some ⟨0, 0x80⟩
  | 0x5d => some ⟨0x65, 0⟩
  | 0x5e => some ⟨0x66, 0⟩
  | 0x5f => some ⟨0x82, 0⟩
  | 0x63 => some ⟨0x81, 0⟩
  | _ => none

def normalKey (code : UInt8) : Option ScanKey :=
  match code with
  | 0x1d => some ⟨0, 0x01⟩
  | 0x2a => some ⟨0, 0x02⟩
  | 0x36 => some ⟨0, 0x20⟩
  | 0x38 => some ⟨0, 0x04⟩
  | code =>
    let usage := normalUsages.getD code.toNat 0
    if usage = 0 then none else some ⟨usage, 0⟩

def hidTranslateScancode (code : UInt8) (extended : Bool) : Option ScanKey :=
  if extended then extendedKey code else normalKey code

/-- The Alt and Command keys trade places. -/
def hidMapScancode (code : UInt8) (extended swapAltCommand : Bool) : UInt8 × Bool :=
  if !swapAltCommand then (code, extended)
  else if code = 0x38 then (if extended then 0x5c else 0x5b, true)
  else if extended && code = 0x5b then (0x38, false)
  else if extended && code = 0x5c then (0x38, true)
  else (code, extended)

-- ---------------------------------------------------------------------------
-- Text
-- ---------------------------------------------------------------------------

structure HidTextKey where
  modifier : UInt8
  usage : UInt8
  deriving DecidableEq, Repr

def punctuationKey : UInt8 → Option HidTextKey
  | 0x08 => some ⟨0, 0x2a⟩
  | 0x09 => some ⟨0, 0x2b⟩
  | 0x0a | 0x0d => some ⟨0, 0x28⟩
  | 0x1b => some ⟨0, 0x29⟩
  | 0x20 => some ⟨0, 0x2c⟩
  | 0x2d => some ⟨0, 0x2d⟩
  | 0x5f => some ⟨0x02, 0x2d⟩
  | 0x3d => some ⟨0, 0x2e⟩
  | 0x2b => some ⟨0x02, 0x2e⟩
  | 0x5b => some ⟨0, 0x2f⟩
  | 0x7b => some ⟨0x02, 0x2f⟩
  | 0x5d => some ⟨0, 0x30⟩
  | 0x7d => some ⟨0x02, 0x30⟩
  | 0x5c => some ⟨0, 0x31⟩
  | 0x7c => some ⟨0x02, 0x31⟩
  | 0x3b => some ⟨0, 0x33⟩
  | 0x3a => some ⟨0x02, 0x33⟩
  | 0x27 => some ⟨0, 0x34⟩
  | 0x22 => some ⟨0x02, 0x34⟩
  | 0x60 => some ⟨0, 0x35⟩
  | 0x7e => some ⟨0x02, 0x35⟩
  | 0x2c => some ⟨0, 0x36⟩
  | 0x3c => some ⟨0x02, 0x36⟩
  | 0x2e => some ⟨0, 0x37⟩
  | 0x3e => some ⟨0x02, 0x37⟩
  | 0x2f => some ⟨0, 0x38⟩
  | 0x3f => some ⟨0x02, 0x38⟩
  | 0x21 => some ⟨0x02, 0x1e⟩
  | 0x40 => some ⟨0x02, 0x1f⟩
  | 0x23 => some ⟨0x02, 0x20⟩
  | 0x24 => some ⟨0x02, 0x21⟩
  | 0x25 => some ⟨0x02, 0x22⟩
  | 0x5e => some ⟨0x02, 0x23⟩
  | 0x26 => some ⟨0x02, 0x24⟩
  | 0x2a => some ⟨0x02, 0x25⟩
  | 0x28 => some ⟨0x02, 0x26⟩
  | 0x29 => some ⟨0x02, 0x27⟩
  | _ => none

def asciiToHid (character : UInt8) : Option HidTextKey :=
  if 0x61 ≤ character ∧ character ≤ 0x7a then some ⟨0, 0x04 + character - 0x61⟩
  else if 0x41 ≤ character ∧ character ≤ 0x5a then some ⟨0x02, 0x04 + character - 0x41⟩
  else if 0x31 ≤ character ∧ character ≤ 0x39 then some ⟨0, 0x1e + character - 0x31⟩
  else if character = 0x30 then some ⟨0, 0x27⟩
  else punctuationKey character

/-- The keystrokes of the jamo from U+3131 to U+3163, in order. -/
def jamoKeys : List String := [
  "r", "R", "rt", "s", "sw", "sg", "e", "E", "f", "fr", "fa", "fq", "ft", "fx", "fv", "fg", "a", "q",
  "Q", "qt", "t", "T", "d", "w", "W", "c", "z", "x", "v", "g", "k", "o", "i", "O", "j", "p", "u", "P",
  "h", "hk", "ho", "hl", "y", "n", "nj", "np", "nl", "b", "m", "ml", "l"]

def keys (text : String) : List UInt8 := text.toList.map fun c => c.toNat.toUInt8

def hangulJamoSequence (codepoint : UInt32) : Option (List UInt8) :=
  if codepoint < 0x3131 then none else (jamoKeys[(codepoint - 0x3131).toNat]?).map keys

def leadKeys : List String := [
  "r", "R", "s", "e", "E", "f", "a", "q", "Q", "t", "T", "d", "w", "W", "c", "z", "x", "v", "g"]

def vowelKeys : List String := [
  "k", "o", "i", "O", "j", "p", "u", "P", "h", "hk", "ho", "hl", "y", "n", "nj", "np", "nl", "b", "m",
  "ml", "l"]

def trailKeys : List String := [
  "", "r", "R", "rt", "s", "sw", "sg", "e", "f", "fr", "fa", "fq", "ft", "fx", "fv", "fg", "a", "q",
  "qt", "t", "T", "d", "w", "c", "z", "x", "v", "g"]

/-- The lead, vowel and trail keystrokes of a Hangul syllable. -/
def codepointToHangulSequences (codepoint : UInt32) :
    Option (List UInt8 × List UInt8 × List UInt8) :=
  if codepoint < 0xac00 ∨ codepoint > 0xd7a3 then none
  else
    let offset := codepoint - 0xac00
    some (keys (leadKeys.getD (offset / (21 * 28)).toNat ""),
      keys (vowelKeys.getD (offset % (21 * 28) / 28).toNat ""),
      keys (trailKeys.getD (offset % 28).toNat ""))

-- ---------------------------------------------------------------------------
-- UTF-8
-- ---------------------------------------------------------------------------

def isUtf8Continuation (byte : UInt8) : Bool := byte &&& 0xc0 == 0x80

def utf8Decode : List UInt8 → Option (UInt32 × List UInt8)
  | [] => none
  | first :: text =>
    if first < 0x80 then some (first.toUInt32, text)
    else if 0xc2 ≤ first ∧ first ≤ 0xdf then
      match text with
      | second :: text =>
        if isUtf8Continuation second then
          some ((first &&& 0x1f).toUInt32 <<< 6 ||| (second &&& 0x3f).toUInt32, text)
        else none
      | _ => none
    else if 0xe0 ≤ first ∧ first ≤ 0xef then
      match text with
      | second :: third :: text =>
        if !isUtf8Continuation second || !isUtf8Continuation third ||
            (first == 0xe0 && second < 0xa0) || (first == 0xed && second > 0x9f) then none
        else
          some ((first &&& 0x0f).toUInt32 <<< 12 ||| (second &&& 0x3f).toUInt32 <<< 6 |||
            (third &&& 0x3f).toUInt32, text)
      | _ => none
    else if 0xf0 ≤ first ∧ first ≤ 0xf4 then
      match text with
      | second :: third :: fourth :: text =>
        if !isUtf8Continuation second || !isUtf8Continuation third || !isUtf8Continuation fourth ||
            (first == 0xf0 && second < 0x90) || (first == 0xf4 && second > 0x8f) then none
        else
          some ((first &&& 0x07).toUInt32 <<< 18 ||| (second &&& 0x3f).toUInt32 <<< 12 |||
            (third &&& 0x3f).toUInt32 <<< 6 ||| (fourth &&& 0x3f).toUInt32, text)
      | _ => none
    else none

theorem utf8Decode_length (h : utf8Decode text = some (codepoint, rest)) :
    rest.length < text.length := by
  unfold utf8Decode at h
  split at h
  · cases h
  · split at h
    · cases h
      simp
    · repeat' split at h
      all_goals first
        | cases h; simp; done
        | cases h; simp only [List.length_cons]; omega
        | cases h

def utf8Encode (codepoint : UInt32) : Option (List UInt8) :=
  if codepoint > 0x10ffff ∨ (0xd800 ≤ codepoint ∧ codepoint ≤ 0xdfff) then none
  else if codepoint ≤ 0x7f then some [codepoint.toUInt8]
  else if codepoint ≤ 0x7ff then some [lead 0xc0 (codepoint >>> 6), continuation codepoint]
  else if codepoint ≤ 0xffff then
    some [lead 0xe0 (codepoint >>> 12), continuation (codepoint >>> 6), continuation codepoint]
  else
    some [lead 0xf0 (codepoint >>> 18), continuation (codepoint >>> 12),
      continuation (codepoint >>> 6), continuation codepoint]
where
  lead (mark bits : UInt32) : UInt8 := (mark ||| bits).toUInt8
  continuation (bits : UInt32) : UInt8 := (0x80 ||| (bits &&& 0x3f)).toUInt8

end NanokvmRdp.Hid
