import Mathlib.Data.List.Infix
import Mathlib.Data.List.TakeWhile
import Mathlib.Data.Nat.Digits.Defs
import Mathlib.Tactic.Common
import NanokvmRdp.Lib.Memory

/-!
# C strings

A C string is the list of its bytes, without the terminator. `strstr` and
`strchr` answer with the rest of the string from the first match on, `strrchr`
with that from the last one on. `strtoul` skips white space, line ends included,
and stops at the first byte that is no digit: a number is found behind any amount
of white space, and what follows a number does not matter.
-/

namespace CString

variable {α : Type} [DecidableEq α]

def strstr (pattern : List α) : List α → Option (List α)
  | [] => if pattern = [] then some [] else none
  | c :: rest => if pattern <+: c :: rest then some (c :: rest) else strstr pattern rest

def strchr (c : α) : List α → Option (List α)
  | [] => none
  | b :: rest => if b = c then some (b :: rest) else strchr c rest

def strrchr (c : α) : List α → Option (List α)
  | [] => none
  | b :: rest =>
    match strrchr c rest with
    | some found => some found
    | none => if b = c then some (b :: rest) else none

theorem strstr_eq_none_iff {pattern text : List α} :
    strstr pattern text = none ↔ ¬ pattern <:+: text := by
  induction text with
  | nil => simp [strstr]
  | cons c rest ih =>
    rw [strstr, List.infix_cons_iff, not_or, ← ih]
    split
    · simp [*]
    · simp [*]

theorem strstr_eq_some {pattern text found : List α} (h : strstr pattern text = some found) :
    pattern <+: found ∧ found <:+ text := by
  induction text with
  | nil =>
    rw [strstr] at h
    split at h
    · cases h
      exact ⟨by simp [*], List.suffix_rfl⟩
    · cases h
  | cons c rest ih =>
    rw [strstr] at h
    split at h
    · cases h
      exact ⟨‹_›, List.suffix_rfl⟩
    · obtain ⟨hstart, hsuffix⟩ := ih h
      exact ⟨hstart, hsuffix.trans (List.suffix_cons c rest)⟩

theorem exists_strstr {pattern text : List α} (h : pattern <+: text) (front : List α) :
    ∃ between, strstr pattern (front ++ text) = some (between ++ text) ∧ between <:+ front := by
  induction front with
  | nil =>
    refine ⟨[], ?_, List.suffix_rfl⟩
    cases text with
    | nil => exact if_pos (List.prefix_nil.mp h)
    | cons c rest => exact if_pos h
  | cons c front ih =>
    rw [List.cons_append, strstr]
    split
    · exact ⟨c :: front, rfl, List.suffix_rfl⟩
    · obtain ⟨between, hfound, hsuffix⟩ := ih
      exact ⟨between, hfound, hsuffix.trans (List.suffix_cons c front)⟩

/-- More text behind it does not move the first match. -/
theorem strstr_append {pattern text found : List α} (h : strstr pattern text = some found)
    (more : List α) : strstr pattern (text ++ more) = some (found ++ more) := by
  induction text with
  | nil =>
    rw [strstr] at h
    split at h
    · rename_i hpattern
      cases h
      cases more with
      | nil => exact if_pos hpattern
      | cons c rest => exact if_pos (hpattern ▸ List.nil_prefix)
    · cases h
  | cons c rest ih =>
    rw [strstr] at h
    rw [List.cons_append, strstr]
    split at h
    · rename_i hhere
      cases h
      exact if_pos (hhere.trans (List.prefix_append (c :: rest) more))
    · rename_i hlater
      obtain ⟨hstart, hsuffix⟩ := strstr_eq_some h
      rw [if_neg, ih h]
      -- a match at the front would lie inside the text
      intro hfront
      have hlength := hstart.length_le.trans hsuffix.length_le
      refine hlater (List.prefix_of_prefix_length_le hfront (List.prefix_append (c :: rest) more) ?_)
      exact hlength.trans (Nat.le_succ _)

theorem strchr_suffix {c : α} {text found : List α} (h : strchr c text = some found) :
    found <:+ text := by
  induction text with
  | nil => cases h
  | cons b rest ih =>
    rw [strchr] at h
    split at h
    · cases h
      exact List.suffix_rfl
    · exact (ih h).trans (List.suffix_cons b rest)

theorem strrchr_eq_none_iff {c : α} {text : List α} : strrchr c text = none ↔ c ∉ text := by
  induction text with
  | nil => simp [strrchr]
  | cons b rest ih =>
    rw [strrchr, List.mem_cons, not_or, ← ih]
    split
    · simp [*]
    · simp [*, eq_comm]

theorem strrchr_eq_some {c : α} {text found : List α} (h : strrchr c text = some found) :
    ∃ front rest, text = front ++ c :: rest ∧ found = c :: rest ∧ c ∉ rest := by
  induction text with
  | nil => cases h
  | cons b text ih =>
    rw [strrchr] at h
    split at h
    · rename_i hlater
      obtain ⟨front, rest, rfl, rfl, hlast⟩ := ih (hlater.trans h)
      exact ⟨b :: front, rest, rfl, rfl, hlast⟩
    · rename_i hnone
      split at h
      · rename_i hb
        cases h
        exact ⟨[], text, by rw [hb]; rfl, by rw [hb], strrchr_eq_none_iff.mp hnone⟩
      · cases h

theorem strrchr_append {c : α} {rest : List α} (h : c ∉ rest) (front : List α) :
    strrchr c (front ++ c :: rest) = some (c :: rest) := by
  induction front with
  | nil => rw [List.nil_append, strrchr, strrchr_eq_none_iff.mpr h, if_pos rfl]
  | cons b front ih => rw [List.cons_append, strrchr, ih]

-- ---------------------------------------------------------------------------
-- Bytes
-- ---------------------------------------------------------------------------

def terminated : List UInt8 → Checked (List UInt8)
  | [] => none
  | b :: rest => if b = 0 then some [] else (terminated rest).map (b :: ·)

def textOf (bytes : List UInt8) : List UInt8 := bytes.takeWhile (· ≠ 0)

theorem terminated_append_zero (bytes rest : List UInt8) :
    terminated (bytes ++ 0 :: rest) = some (textOf bytes) := by
  induction bytes with
  | nil => rfl
  | cons b bytes ih =>
    rw [List.cons_append, terminated, ih]
    by_cases hb : b = 0 <;> simp [textOf, hb]

theorem takeWhile_mono {a b : List UInt8} (h : a <+: b) (p : UInt8 → Bool) :
    a.takeWhile p <+: b.takeWhile p := by
  obtain ⟨rest, rfl⟩ := h
  rw [List.takeWhile_append]
  split
  · exact (List.takeWhile_prefix p).trans (List.prefix_append a _)
  · exact List.prefix_rfl

theorem dropWhile_mono {a b : List UInt8} (h : a <+: b) (p : UInt8 → Bool) :
    a.dropWhile p <+: b.dropWhile p := by
  obtain ⟨rest, rfl⟩ := h
  rw [List.dropWhile_append]
  split
  · rename_i hempty
    rw [List.isEmpty_iff.mp hempty]
    exact List.nil_prefix
  · exact List.prefix_append _ _

theorem textOf_mono {bytes whole : List UInt8} (h : bytes <+: whole) :
    textOf bytes <+: textOf whole :=
  takeWhile_mono h _

theorem zero_notMem_textOf (bytes : List UInt8) : 0 ∉ textOf bytes := fun hzero =>
  absurd (List.mem_takeWhile_imp hzero) (by decide)

theorem textOf_append {bytes : List UInt8} (h : 0 ∉ bytes) (rest : List UInt8) :
    textOf (bytes ++ rest) = bytes ++ textOf rest := by
  unfold textOf
  refine List.takeWhile_append_of_pos fun b hb => ?_
  rw [decide_eq_true_iff]
  rintro rfl
  exact h hb

theorem textOf_eq_self {bytes : List UInt8} (h : 0 ∉ bytes) : textOf bytes = bytes := by
  rw [← List.append_nil bytes, textOf_append h]
  rfl

def charAt (text : List UInt8) (index : Nat) : Checked UInt8 := (text ++ [0])[index]?

def toLower (b : UInt8) : UInt8 := if 65 ≤ b && b ≤ 90 then b + 32 else b

def isSpace (b : UInt8) : Bool := b = 32 || (9 ≤ b && b ≤ 13)

def isDigit (b : UInt8) : Bool := 48 ≤ b && b ≤ 57

/-- `strncasecmp` gives 0. -/
def sameLetters (a b : List UInt8) (count : Nat) : Bool :=
  (a.take count).map toLower = (b.take count).map toLower

def signed : List UInt8 → Bool × List UInt8
  | [] => (false, [])
  | b :: rest => if b = 43 then (false, rest) else if b = 45 then (true, rest) else (false, b :: rest)

def numeral (text : List UInt8) : Bool × List UInt8 :=
  let (negative, rest) := signed (text.dropWhile isSpace)
  (negative, rest.takeWhile isDigit)

def decimal (digits : List UInt8) : Nat :=
  digits.foldl (fun value d => value * 10 + (d.toNat - 48)) 0

def digitsValue (digits : List UInt8) : Nat :=
  Nat.ofDigits 10 (digits.reverse.map fun d => d.toNat - 48)

/-- `strtoul` to the base 10, for an `unsigned long` of 64 bits. -/
def strtoul (text : List UInt8) : Nat :=
  let (negative, digits) := numeral text
  let value := decimal digits
  if 2 ^ 64 ≤ value then 2 ^ 64 - 1 else if negative then (2 ^ 64 - value) % 2 ^ 64 else value

theorem decimal_eq_digitsValue (digits : List UInt8) : decimal digits = digitsValue digits := by
  rw [digitsValue, Nat.ofDigits_eq_foldr, List.foldr_map, List.foldr_reverse, decimal]
  refine congrArg (fun step => digits.foldl step 0) (funext fun value => funext fun d => ?_)
  show value * 10 + (d.toNat - 48) = d.toNat - 48 + 10 * value
  omega

variable {text front whole : List UInt8} {stop : UInt8}

theorem signed_append (h : text ≠ []) (more : List UInt8) :
    signed (text ++ more) = ((signed text).1, (signed text).2 ++ more) := by
  cases text with
  | nil => exact absurd rfl h
  | cons b rest =>
    simp only [List.cons_append, signed]
    split
    · rfl
    · split <;> rfl

theorem strtoul_append_stop (h : ∃ b ∈ text, isSpace b = false) (hstop : isDigit stop = false)
    (more : List UInt8) : strtoul (text ++ stop :: more) = strtoul text := by
  have hne : text.dropWhile isSpace ≠ [] := by
    obtain ⟨b, hb, hspace⟩ := h
    intro hnil
    rw [List.dropWhile_eq_nil_iff] at hnil
    exact absurd (hnil b hb) (by rw [hspace]; decide)
  have hdrop : (text ++ stop :: more).dropWhile isSpace =
      text.dropWhile isSpace ++ stop :: more := by
    rw [List.dropWhile_append, if_neg]
    simpa using hne
  have hnumeral : numeral (text ++ stop :: more) = numeral text := by
    simp only [numeral, hdrop, signed_append hne]
    rw [List.takeWhile_append]
    split
    · rename_i hall
      rw [List.takeWhile_cons, hstop, (List.takeWhile_prefix isDigit).eq_of_length hall]
      simp
    · rfl
  rw [strtoul, strtoul, hnumeral]

theorem strtoul_append_spaces (h : ∀ b ∈ text, isSpace b = true) (more : List UInt8) :
    strtoul (text ++ more) = strtoul more := by
  have hdrop : (text ++ more).dropWhile isSpace = more.dropWhile isSpace := by
    rw [List.dropWhile_append_of_pos h]
  rw [strtoul, strtoul, numeral, numeral, hdrop]

theorem foldl_decimal_eq_zero {digits : List UInt8} (h : ∀ d ∈ digits, isDigit d = true)
    (value : Nat) :
    digits.foldl (fun value d => value * 10 + (d.toNat - 48)) value = 0 ↔
      value = 0 ∧ ∀ d ∈ digits, d = 48 := by
  induction digits generalizing value with
  | nil => simp
  | cons d digits ih =>
    obtain ⟨hd, hdigits⟩ := List.forall_mem_cons.mp h
    have hzero : d.toNat - 48 = 0 ↔ d = 48 := by
      simp only [isDigit, Bool.and_eq_true, decide_eq_true_eq, UInt8.le_iff_toNat_le,
        UInt8.reduceToNat] at hd
      simp only [← UInt8.toNat_inj, UInt8.reduceToNat]
      omega
    have hvalue : value * 10 + (d.toNat - 48) = 0 ↔ value = 0 ∧ d = 48 := by
      rw [← hzero]
      omega
    rw [List.foldl_cons, ih hdigits, List.forall_mem_cons, hvalue, and_assoc]

theorem strtoul_eq_zero_iff : strtoul text = 0 ↔ ∀ d ∈ (numeral text).2, d = 48 := by
  have hdigits : ∀ d ∈ (numeral text).2, isDigit d = true := fun d hd => List.mem_takeWhile_imp hd
  have hzero : decimal (numeral text).2 = 0 ↔ ∀ d ∈ (numeral text).2, d = 48 :=
    (foldl_decimal_eq_zero hdigits 0).trans (and_iff_right rfl)
  rw [← hzero, strtoul]
  simp only
  split
  · omega
  · split <;> omega

theorem signed_mono (h : front <+: whole) : (signed front).2 <+: (signed whole).2 := by
  cases front with
  | nil => exact List.nil_prefix
  | cons b rest =>
    obtain ⟨more, rfl⟩ := h
    rw [signed_append (List.cons_ne_nil b rest)]
    exact List.prefix_append _ _

theorem numeral_mono (h : front <+: whole) : (numeral front).2 <+: (numeral whole).2 :=
  takeWhile_mono (signed_mono (dropWhile_mono h _)) _

/-- A text that begins like one without a number has none either. -/
theorem strtoul_eq_zero_mono (h : front <+: whole) (hzero : strtoul whole = 0) :
    strtoul front = 0 := by
  rw [strtoul_eq_zero_iff] at hzero ⊢
  exact fun d hd => hzero d ((numeral_mono h).mem hd)

end CString
