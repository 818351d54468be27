import NanokvmRdp.Gateway.HttpText
import NanokvmRdp.Lib.CString

/-!
# The text field of a request

`json_field` and `decode_json_string` of `http_api.c`: the key is searched as a
substring, first in single quotes and then in double quotes, and the string
behind the next colon is decoded up to the quote it began with. A request as
`JSON.stringify` writes it gives its text back unless the text holds the key in
single quotes, or one of the control characters whose escape is not decoded.
-/

namespace NanokvmRdp.Gateway

open Protocol CString

-- ---------------------------------------------------------------------------
-- Fields
-- ---------------------------------------------------------------------------

def doubleQuote : UInt8 := 34
def singleQuote : UInt8 := 39
def backslash : UInt8 := 92
def colon : UInt8 := 58

def fieldValue (pattern found : List UInt8) : Option (List UInt8) :=
  (strchr colon (found.drop pattern.length)).map fun value =>
    (value.drop 1).dropWhile fun b => b = 32 || b = 9

/-- `json_field`; the patterns are built in arrays of 64 bytes. -/
def jsonField (json key : List UInt8) : Option (List UInt8) :=
  let pattern := singleQuote :: key ++ [singleQuote]
  let quoted := doubleQuote :: key ++ [doubleQuote]
  if pattern.length ≥ 64 then none
  else match strstr pattern json with
    | some found => fieldValue pattern found
    | none => if quoted.length < 3 then none else (strstr quoted json).bind (fieldValue quoted)

/-- The byte an escape stands for; a letter the table does not have is itself. -/
def escapeValue (e : UInt8) : UInt8 :=
  if e = 110 then 10 else if e = 116 then 9 else e

def decodeString (quote : UInt8) (size : Nat) : List UInt8 → List UInt8 → Option (List UInt8)
  | [], _ => none
  | b :: rest, out =>
    if b = quote then some out
    else if b = backslash then
      match rest with
      | [] => none
      | e :: rest =>
        if e = 117 then none
        else if out.length + 1 ≥ size then none
        else decodeString quote size rest (out ++ [escapeValue e])
    else if out.length + 1 ≥ size then none
    else decodeString quote size rest (out ++ [b])

def decodeJsonString (json key : List UInt8) (size : Nat) : Option (List UInt8) :=
  match jsonField json key with
  | some (quote :: rest) =>
    if quote ≠ doubleQuote ∧ quote ≠ singleQuote then none else decodeString quote size rest []
  | _ => none

def textKey : List UInt8 := [0x74, 0x65, 0x78, 0x74]

def handleTextBody (delivers : Nat → Bool) (body : List UInt8) : List ControlMessage × HttpAnswer :=
  match decodeJsonString body textKey (textMaxLength + 1) with
  | none => ([], .error 400 "text")
  | some text => handleText delivers text

-- ---------------------------------------------------------------------------
-- What a client writes
-- ---------------------------------------------------------------------------

/-- One byte of a JSON string, as `JSON.stringify` writes it. -/
def jsonEscape (b : UInt8) : List UInt8 :=
  if b = doubleQuote ∨ b = backslash then [backslash, b]
  else if b = 8 then [backslash, 98]
  else if b = 9 then [backslash, 116]
  else if b = 10 then [backslash, 110]
  else if b = 12 then [backslash, 102]
  else if b = 13 then [backslash, 114]
  else [b]

/-- A text that needs no `\u` escape and fits the array it is decoded into. -/
structure JsonString where
  bytes : List UInt8
  plain : ∀ b ∈ bytes, 32 ≤ b ∨ b = 8 ∨ b = 9 ∨ b = 10 ∨ b = 12 ∨ b = 13
  short : bytes.length ≤ textMaxLength

def jsonBody (bytes : List UInt8) : List UInt8 := bytes.flatMap jsonEscape ++ [doubleQuote, 125]

def jsonObject (bytes : List UInt8) : List UInt8 :=
  123 :: doubleQuote :: textKey ++ doubleQuote :: colon :: doubleQuote :: jsonBody bytes

/-- What a byte is decoded to: the escape letter, where the escape is not known. -/
def decodedByte (b : UInt8) : UInt8 :=
  if b = 8 then 98 else if b = 12 then 102 else if b = 13 then 114 else b

def quotedKey : List UInt8 := singleQuote :: textKey ++ [singleQuote]

/-- Every byte is its own character, or an escape the decoder reads as
`decodedByte`. No escape holds a single quote. -/
theorem jsonEscape_cases (b : UInt8) :
    (jsonEscape b = [b] ∧ b ≠ doubleQuote ∧ b ≠ backslash ∧ decodedByte b = b) ∨
      ∃ e, jsonEscape b = [backslash, e] ∧ e ≠ 117 ∧ e ≠ singleQuote ∧
        escapeValue e = decodedByte b := by
  unfold jsonEscape
  split
  · rename_i hquote
    obtain rfl | rfl := hquote
    · exact .inr ⟨_, rfl, by decide⟩
    · exact .inr ⟨_, rfl, by decide⟩
  rename_i hquote
  repeat' split
  · subst b
    exact .inr ⟨_, rfl, by decide⟩
  · subst b
    exact .inr ⟨_, rfl, by decide⟩
  · subst b
    exact .inr ⟨_, rfl, by decide⟩
  · subst b
    exact .inr ⟨_, rfl, by decide⟩
  · subst b
    exact .inr ⟨_, rfl, by decide⟩
  · rw [not_or] at hquote
    exact .inl ⟨rfl, hquote.1, hquote.2, by simp [decodedByte, *]⟩

theorem jsonBody_cons (b : UInt8) (bytes : List UInt8) :
    jsonBody (b :: bytes) = jsonEscape b ++ jsonBody bytes := by
  simp [jsonBody]

-- ---------------------------------------------------------------------------
-- Decoding the value
-- ---------------------------------------------------------------------------

theorem decodeString_plain {quote b : UInt8} {size : Nat} {out : List UInt8} (hquote : b ≠ quote)
    (hslash : b ≠ backslash) (hroom : out.length + 1 < size) (rest : List UInt8) :
    decodeString quote size (b :: rest) out = decodeString quote size rest (out ++ [b]) := by
  rw [decodeString.eq_def]
  simp only [if_neg hquote, if_neg hslash, if_neg (Nat.not_le_of_lt hroom)]

theorem decodeString_escape {quote e : UInt8} {size : Nat} {out : List UInt8}
    (hquote : backslash ≠ quote) (he : e ≠ 117) (hroom : out.length + 1 < size)
    (rest : List UInt8) :
    decodeString quote size (backslash :: e :: rest) out =
      decodeString quote size rest (out ++ [escapeValue e]) := by
  rw [decodeString.eq_def]
  simp only [if_neg hquote, if_pos, if_neg he, if_neg (Nat.not_le_of_lt hroom)]

theorem decodeString_body (size : Nat) (bytes out : List UInt8)
    (hfits : out.length + bytes.length < size) :
    decodeString doubleQuote size (jsonBody bytes) out = some (out ++ bytes.map decodedByte) := by
  induction bytes generalizing out with
  | nil => simp [jsonBody, decodeString]
  | cons b bytes ih =>
    rw [List.length_cons] at hfits
    have hroom : out.length + 1 < size := by omega
    have hrest := ih (out ++ [decodedByte b]) (by simp; omega)
    rw [List.append_assoc, List.singleton_append] at hrest
    rw [jsonBody_cons, List.map_cons, ← hrest]
    obtain ⟨hplain, hquote, hslash, hvalue⟩ | ⟨e, hescape, hu, _, hvalue⟩ := jsonEscape_cases b
    · rw [hplain, hvalue]
      exact decodeString_plain hquote hslash hroom _
    · rw [hescape, ← hvalue]
      exact decodeString_escape (by decide) hu hroom _

theorem count_escapeValue (e : UInt8) :
    [escapeValue e].count singleQuote ≤ [e].count singleQuote := by
  unfold escapeValue
  split
  · exact Nat.zero_le _
  · split
    · exact Nat.zero_le _
    · exact Nat.le_refl _

theorem count_decodeString {quote : UInt8} {size : Nat} (json out : List UInt8) {text : List UInt8}
    (h : decodeString quote size json out = some text) :
    text.count singleQuote ≤ out.count singleQuote + json.count singleQuote := by
  fun_induction decodeString quote size json out with
  | case1 => cases h
  | case2 =>
    cases h
    exact Nat.le_add_right _ _
  | case3 => cases h
  | case4 => cases h
  | case5 => cases h
  | case6 out e rest hu hroom hquote ih =>
    have hvalue := count_escapeValue e
    have hrest := ih h
    rw [List.count_append] at hrest
    rw [List.count_singleton (b := e)] at hvalue
    rw [List.count_cons, List.count_cons]
    omega
  | case7 => cases h
  | case8 b rest out hquote hslash hroom ih =>
    have hrest := ih h
    rw [List.count_append, List.count_singleton] at hrest
    rw [List.count_cons]
    omega

-- ---------------------------------------------------------------------------
-- Finding the field
-- ---------------------------------------------------------------------------

theorem prefix_of_jsonBody {pattern bytes : List UInt8}
    (hplain : ∀ p ∈ pattern, p ≠ backslash ∧ p ≠ doubleQuote) (h : pattern <+: jsonBody bytes) :
    pattern <+: bytes := by
  induction pattern generalizing bytes with
  | nil => exact List.nil_prefix
  | cons p pattern ih =>
    obtain ⟨hp, hpattern⟩ := List.forall_mem_cons.mp hplain
    cases bytes with
    | nil => exact absurd (List.cons_prefix_cons.mp h).1 hp.2
    | cons b bytes =>
      rw [jsonBody_cons] at h
      obtain ⟨hescape, -⟩ | ⟨e, hescape, -⟩ := jsonEscape_cases b
      · rw [hescape] at h
        obtain ⟨hb, hrest⟩ := List.cons_prefix_cons.mp h
        exact List.cons_prefix_cons.mpr ⟨hb, ih hpattern hrest⟩
      · rw [hescape] at h
        exact absurd (List.cons_prefix_cons.mp h).1 hp.1

theorem quotedKey_plain : ∀ p ∈ quotedKey, p ≠ backslash ∧ p ≠ doubleQuote := by
  simp [quotedKey, textKey, singleQuote, backslash, doubleQuote]

theorem not_quotedKey_cons {b : UInt8} (hb : b ≠ singleQuote) (rest : List UInt8) :
    ¬ quotedKey <+: b :: rest := fun h => hb (List.cons_prefix_cons.mp h).1.symm

theorem quotedKey_infix_jsonBody {bytes : List UInt8} (h : quotedKey <:+: jsonBody bytes) :
    quotedKey <:+: bytes := by
  induction bytes with
  | nil => exact absurd h (by decide)
  | cons b bytes ih =>
    rw [jsonBody_cons] at h
    obtain ⟨hescape, -⟩ | ⟨e, hescape, -, he, -⟩ := jsonEscape_cases b
    · rw [hescape, List.singleton_append, List.infix_cons_iff] at h
      obtain hhere | hlater := h
      · refine (prefix_of_jsonBody quotedKey_plain ?_).isInfix
        rwa [jsonBody_cons, hescape]
      · exact (ih hlater).trans (List.suffix_cons b bytes).isInfix
    · rw [hescape, List.cons_append, List.singleton_append, List.infix_cons_iff,
        List.infix_cons_iff] at h
      obtain hhere | hhere | hlater := h
      · exact absurd hhere (not_quotedKey_cons (by decide) _)
      · exact absurd hhere (not_quotedKey_cons he _)
      · exact (ih hlater).trans (List.suffix_cons b bytes).isInfix

/-- The object holds the key in single quotes only where the text does. -/
theorem quotedKey_infix_jsonObject {bytes : List UInt8} (h : quotedKey <:+: jsonObject bytes) :
    quotedKey <:+: bytes := by
  simp only [jsonObject, textKey, List.cons_append, List.nil_append, List.infix_cons_iff] at h
  refine quotedKey_infix_jsonBody ?_
  -- the nine bytes before the value are no single quotes
  obtain h | h | h | h | h | h | h | h | h | h := h
  all_goals first
    | exact h
    | exact absurd h (not_quotedKey_cons (by decide) _)

theorem jsonField_jsonObject {bytes : List UInt8} (h : ¬ quotedKey <:+: bytes) :
    jsonField (jsonObject bytes) textKey = some (doubleQuote :: jsonBody bytes) := by
  have hsingle : strstr (singleQuote :: textKey ++ [singleQuote]) (jsonObject bytes) = none :=
    strstr_eq_none_iff.mpr fun hinfix => h (quotedKey_infix_jsonObject hinfix)
  have hdouble : strstr (doubleQuote :: textKey ++ [doubleQuote]) (jsonObject bytes) =
      some (doubleQuote :: textKey ++ doubleQuote :: colon :: doubleQuote :: jsonBody bytes) := by
    simp [jsonObject, textKey, strstr, doubleQuote]
  unfold jsonField
  simp only [hsingle, hdouble]
  simp [fieldValue, textKey, strchr, colon, doubleQuote]

/-- Behind a key in single quotes there are two single quotes less. -/
theorem count_jsonField {json value : List UInt8} (hkey : quotedKey <:+: json)
    (h : jsonField json textKey = some value) :
    value.count singleQuote + 2 ≤ json.count singleQuote := by
  obtain ⟨found, hfound⟩ : ∃ found, strstr quotedKey json = some found :=
    Option.ne_none_iff_exists'.mp fun hnone => strstr_eq_none_iff.mp hnone hkey
  have hvalue : fieldValue quotedKey found = some value := by
    rw [← h, jsonField]
    change _ = if quotedKey.length ≥ 64 then none else _
    rw [if_neg (by decide)]
    change _ = match strstr quotedKey json with
      | some found => fieldValue quotedKey found
      | none => _
    rw [hfound]
  obtain ⟨⟨rest, rfl⟩, hsuffix⟩ := strstr_eq_some hfound
  obtain ⟨behind, hbehind, rfl⟩ := Option.map_eq_some_iff.mp hvalue
  rw [List.drop_left] at hbehind
  have hrest : (behind.drop 1).dropWhile (fun b => b = 32 || b = 9) <:+ rest :=
    (List.dropWhile_suffix _).trans ((List.drop_suffix 1 behind).trans (strchr_suffix hbehind))
  have hquotes : (quotedKey ++ rest).count singleQuote = 2 + rest.count singleQuote :=
    List.count_append
  have hle := hrest.sublist.count_le singleQuote
  have hjson := hsuffix.sublist.count_le singleQuote
  omega

theorem count_jsonEscape (b : UInt8) :
    (jsonEscape b).count singleQuote ≤ [b].count singleQuote := by
  obtain ⟨hescape, -⟩ | ⟨e, hescape, -, he, -⟩ := jsonEscape_cases b
  · rw [hescape]
  · have hnone : singleQuote ∉ [backslash, e] := by
      simpa using ⟨by decide, he.symm⟩
    rw [hescape, List.count_eq_zero.mpr hnone]
    exact Nat.zero_le _

theorem count_jsonBody (bytes : List UInt8) :
    (jsonBody bytes).count singleQuote ≤ bytes.count singleQuote := by
  induction bytes with
  | nil => decide
  | cons b bytes ih =>
    have hb := count_jsonEscape b
    rw [List.count_singleton] at hb
    rw [jsonBody_cons, List.count_append, List.count_cons]
    omega

theorem count_jsonObject (bytes : List UInt8) :
    (jsonObject bytes).count singleQuote ≤ bytes.count singleQuote := by
  have hobject : (jsonObject bytes).count singleQuote = (jsonBody bytes).count singleQuote := by
    simp [jsonObject, textKey, doubleQuote, colon, singleQuote]
  rw [hobject]
  exact count_jsonBody bytes

theorem jsonObject_quotedKey {bytes : List UInt8} (h : quotedKey <:+: bytes) :
    quotedKey <:+: jsonObject bytes := by
  obtain ⟨before, after, rfl⟩ := h
  have hkey : quotedKey.flatMap jsonEscape = quotedKey := by decide
  refine List.IsInfix.trans ?_ (List.suffix_append _ _).isInfix
  refine ⟨doubleQuote :: colon :: doubleQuote :: before.flatMap jsonEscape,
    after.flatMap jsonEscape ++ [doubleQuote, 125], ?_⟩
  simp [jsonBody, hkey]

-- ---------------------------------------------------------------------------
-- The round trip
-- ---------------------------------------------------------------------------

theorem decodeJsonString_jsonObject {bytes : List UInt8} {size : Nat}
    (hkey : ¬ quotedKey <:+: bytes) (hfits : bytes.length < size) :
    decodeJsonString (jsonObject bytes) textKey size = some (bytes.map decodedByte) := by
  rw [decodeJsonString, jsonField_jsonObject hkey]
  simp only [ne_eq, not_true_eq_false, false_and, if_false]
  rw [decodeString_body size bytes [] (by simpa using hfits), List.nil_append]

/-- With the key in single quotes in the text, decoding starts behind it and can
not bring back its quotes. -/
theorem decodeJsonString_ne {bytes : List UInt8} {size : Nat} (hkey : quotedKey <:+: bytes) :
    decodeJsonString (jsonObject bytes) textKey size ≠ some bytes := by
  intro h
  unfold decodeJsonString at h
  split at h
  · rename_i quote rest hfield
    split at h
    · cases h
    · have hdecoded := count_decodeString rest [] h
      have hvalue := count_jsonField (jsonObject_quotedKey hkey) hfield
      have hobject := count_jsonObject bytes
      rw [List.count_cons] at hvalue
      rw [List.count_nil] at hdecoded
      omega
  · cases h

theorem decodedByte_eq_iff (b : UInt8) : decodedByte b = b ↔ b ≠ 8 ∧ b ≠ 12 ∧ b ≠ 13 := by
  unfold decodedByte
  split
  · subst b
    decide
  split
  · subst b
    decide
  split
  · subst b
    decide
  · simp [*]

/-- A text comes back from its object exactly when it does not hold the key in
single quotes, and no backspace, form feed or carriage return. -/
theorem text_field_round_trip_iff (s : JsonString) :
    decodeJsonString (jsonObject s.bytes) textKey (textMaxLength + 1) = some s.bytes ↔
      ¬ quotedKey <:+: s.bytes ∧ ∀ b ∈ s.bytes, b ≠ 8 ∧ b ≠ 12 ∧ b ≠ 13 := by
  by_cases hkey : quotedKey <:+: s.bytes
  · exact ⟨fun h => absurd h (decodeJsonString_ne hkey), fun h => absurd hkey h.1⟩
  · have hmap : s.bytes.map decodedByte = s.bytes.map id ↔ ∀ b ∈ s.bytes, decodedByte b = b :=
      List.map_inj_left
    rw [List.map_id] at hmap
    rw [decodeJsonString_jsonObject hkey (Nat.lt_succ_of_le s.short), Option.some.injEq, hmap]
    simp only [decodedByte_eq_iff, hkey, not_false_eq_true, true_and]

/-- A carriage return comes back as the letter `r`, and the key in single quotes
hides the field. -/
theorem carriage_return_and_key_lost :
    (decodeJsonString (jsonObject [13]) textKey (textMaxLength + 1) = some [114] ∧
      decodeJsonString (jsonObject quotedKey) textKey (textMaxLength + 1) = none) ∧
    ¬ ∀ s : JsonString,
      decodeJsonString (jsonObject s.bytes) textKey (textMaxLength + 1) = some s.bytes := by
  refine ⟨by decide, fun h => ?_⟩
  have hreturn := h ⟨[13], by simp, by decide⟩
  exact absurd hreturn (by decide)

end NanokvmRdp.Gateway
