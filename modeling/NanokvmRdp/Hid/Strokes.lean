import NanokvmRdp.Hid.Codec
import NanokvmRdp.Hid.KeyStream
import NanokvmRdp.Hid.Typing

/-!
# The strokes of a text

What `hid_type_utf8` puts into the keyboard stream: two reports for a key, and
for a character without keys the report that pastes it and the one that lets
go. A call that returns true has added exactly these; one that had room for
them and returns false has counted a write error.
-/

namespace NanokvmRdp.Hid

def HidInput.entry (input : HidInput) : KeyEntry :=
  ⟨input.keyboardPasteCodepoint, input.keyboardReport.bytes⟩

def HidInput.tapEntries (input : HidInput) (key : HidTextKey) : List KeyEntry :=
  [(input.press key).entry, input.entry]

/-- What is held while a character is pasted. -/
def HidInput.pasting (input : HidInput) (codepoint : UInt32) : HidInput :=
  { input with
    usages := Function.update (fun _ => false) 0x19 true
    modifiers := 0x08
    keyboardPasteCodepoint := codepoint }

structure HidInput.Neutral (input : HidInput) : Prop where
  modifiers : input.modifiers = 0
  usages : input.usages = fun _ => false

def keyBytes (modifier usage : UInt8) : List UInt8 := [modifier, 0, usage, 0, 0, 0, 0, 0]

def releasedBytes : List UInt8 := List.replicate 8 0

/-- A key goes down and up; between calls the mark is 0. -/
def keyTap (mark : UInt32) (key : HidTextKey) : List KeyEntry :=
  [⟨mark, keyBytes key.modifier key.usage⟩, ⟨mark, releasedBytes⟩]

def pasteTap (codepoint : UInt32) : List KeyEntry :=
  [⟨codepoint, keyBytes 0x08 0x19⟩, ⟨0, releasedBytes⟩]

def characterEntries (mark codepoint : UInt32) : List KeyEntry :=
  match codepointKeys codepoint with
  | some strokes => strokes.flatMap (keyTap mark)
  | none => pasteTap codepoint

-- ---------------------------------------------------------------------------
-- Reports
-- ---------------------------------------------------------------------------

theorem fillUsages_of_not_mem {usage : UInt8} {rest : List UInt8} (h : usage ∉ rest) (room : Nat) :
    fillUsages (Function.update (fun _ => false) usage true) rest room = [] := by
  induction rest generalizing room with
  | nil => rfl
  | cons other rest ih =>
    have hother : other ≠ usage := fun heq => h (heq ▸ List.mem_cons_self)
    cases room with
    | zero => rfl
    | succ room =>
      rw [fillUsages, Function.update_of_ne hother, if_neg Bool.false_ne_true]
      exact ih (fun hmem => h (List.mem_cons_of_mem _ hmem)) (room + 1)

theorem fillUsages_single {usage : UInt8} {rest : List UInt8} (hnodup : rest.Nodup)
    (h : usage ∈ rest) (room : Nat) :
    fillUsages (Function.update (fun _ => false) usage true) rest (room + 1) = [usage] := by
  induction rest with
  | nil => cases h
  | cons other rest ih =>
    obtain ⟨hother, hrest⟩ := List.nodup_cons.mp hnodup
    by_cases heq : other = usage
    · subst heq
      rw [fillUsages, Function.update_self, if_pos rfl, fillUsages_of_not_mem hother]
    · rw [fillUsages, Function.update_of_ne heq, if_neg Bool.false_ne_true]
      exact ih hrest (List.mem_of_ne_of_mem (Ne.symm heq) h)

theorem nodup_allUsages : allUsages.Nodup := by
  refine List.Nodup.map_on (fun a ha b hb hab => ?_) List.nodup_range
  rw [← Utf8.toNat_ofNat_of_lt (List.mem_range.mp ha), hab,
    Utf8.toNat_ofNat_of_lt (List.mem_range.mp hb)]

theorem mem_allUsages (usage : UInt8) : usage ∈ allUsages :=
  List.mem_map.mpr ⟨usage.toNat, List.mem_range.mpr usage.toNat_lt, UInt8.ofNat_toNat⟩

theorem keyboardReport_single {input : HidInput} {modifier usage : UInt8}
    (hmodifiers : input.modifiers = modifier)
    (husages : input.usages = Function.update (fun _ => false) usage true) :
    input.keyboardReport.bytes = keyBytes modifier usage := by
  simp only [HidInput.keyboardReport, hmodifiers, husages,
    fillUsages_single nodup_allUsages (mem_allUsages usage)]
  rfl

theorem HidInput.Neutral.entry {input : HidInput} (h : input.Neutral) :
    input.entry = ⟨input.keyboardPasteCodepoint, releasedBytes⟩ := by
  have hreset := input.keyboardReport_reset
  simp only [HidInput.keyboardReport, HidInput.resetKeyboardState] at hreset
  simp only [HidInput.entry, HidInput.keyboardReport, h.modifiers, h.usages, hreset, releasedBytes]

theorem HidInput.Neutral.tapEntries {input : HidInput} (h : input.Neutral) (key : HidTextKey) :
    input.tapEntries key = keyTap input.keyboardPasteCodepoint key := by
  have hbytes : (input.press key).keyboardReport.bytes = keyBytes key.modifier key.usage :=
    keyboardReport_single (by rw [HidInput.press, h.modifiers, UInt8.zero_or])
      (by rw [HidInput.press, h.usages])
  rw [HidInput.tapEntries, h.entry, HidInput.entry, hbytes, keyTap]
  rfl

theorem HidInput.entry_pasting (input : HidInput) (codepoint : UInt32) :
    (input.pasting codepoint).entry = ⟨codepoint, keyBytes 0x08 0x19⟩ := by
  have hbytes : (input.pasting codepoint).keyboardReport.bytes = keyBytes 0x08 0x19 :=
    keyboardReport_single rfl rfl
  rw [HidInput.entry, hbytes]
  rfl

theorem HidInput.Neutral.after_pasting {input : HidInput} (h : input.Neutral)
    (hmark : input.keyboardPasteCodepoint = 0) (codepoint : UInt32) :
    { input.pasting codepoint with
      keyboardPasteCodepoint := 0
      usages := Function.update (input.pasting codepoint).usages 0x19 false
      modifiers := input.modifiers } = input := by
  have husages : Function.update (Function.update (fun _ => false) 0x19 true) 0x19 false =
      input.usages := by
    rw [h.usages, Function.update_idem, Function.update_eq_self_iff]
  simp only [HidInput.pasting, husages, ← hmark]

-- ---------------------------------------------------------------------------
-- Characters
-- ---------------------------------------------------------------------------

/-- A character the keyboard types: ASCII with a key, a Hangul syllable or a compatibility jamo. -/
def HasKeys (codepoint : UInt32) : Prop :=
  codepoint ≤ 0x7f ∧ (asciiToHid codepoint.toUInt8).isSome ∨
    0xac00 ≤ codepoint ∧ codepoint ≤ 0xd7a3 ∨ 0x3131 ≤ codepoint ∧ codepoint ≤ 0x3163

def strokes (sequence : String) : List HidTextKey := ((keys sequence).mapM asciiToHid).getD []

theorem mapM_keys (table : List String) {i : Nat} (h : i < table.length)
    (htable : ∀ sequence ∈ table, ((keys sequence).mapM asciiToHid).isSome) :
    (keys (table.getD i "")).mapM asciiToHid = some (strokes (table.getD i "")) := by
  have hget : table.getD i "" = table[i] := by
    rw [List.getD_eq_getElem?_getD, List.getElem?_eq_getElem h, Option.getD_some]
  obtain ⟨found, hfound⟩ := Option.isSome_iff_exists.mp (htable _ (List.getElem_mem h))
  rw [hget, strokes, hfound, Option.getD_some]

/-- The tables of lead, vowel and trail hold the keys of every syllable. -/
theorem sequences_syllable {codepoint : UInt32} (h : 0xac00 ≤ codepoint) (h' : codepoint ≤ 0xd7a3) :
    ∃ l v t, l < 19 ∧ v < 21 ∧ t < 28 ∧ (l * 21 + v) * 28 + t = codepoint.toNat - 0xac00 ∧
      codepointToHangulSequences codepoint =
        some (keys (leadKeys.getD l ""), keys (vowelKeys.getD v ""), keys (trailKeys.getD t "")) := by
  have hhigh := UInt32.le_iff_toNat_le.mp h'
  simp only [UInt32.reduceToNat] at hhigh
  have hoffset : (codepoint - 0xac00).toNat = codepoint.toNat - 0xac00 := UInt32.toNat_sub_of_le _ _ h
  have hrange : ¬ (codepoint < 0xac00 ∨ codepoint > 0xd7a3) :=
    not_or.mpr ⟨UInt32.not_lt.mpr h, UInt32.not_lt.mpr h'⟩
  refine ⟨(codepoint.toNat - 0xac00) / 588, (codepoint.toNat - 0xac00) % 588 / 28,
    (codepoint.toNat - 0xac00) % 28, by omega, by omega, by omega, by omega, ?_⟩
  rw [codepointToHangulSequences, if_neg hrange]
  simp only [UInt32.toNat_div, UInt32.toNat_mod, hoffset]
  rfl

theorem codepointKeys_syllable {codepoint : UInt32} (h : 0xac00 ≤ codepoint)
    (h' : codepoint ≤ 0xd7a3) :
    ∃ l v t, l < 19 ∧ v < 21 ∧ t < 28 ∧ (l * 21 + v) * 28 + t = codepoint.toNat - 0xac00 ∧
      codepointKeys codepoint =
        some (strokes (leadKeys.getD l "") ++ (strokes (vowelKeys.getD v "") ++
          strokes (trailKeys.getD t ""))) := by
  obtain ⟨l, v, t, hl, hv, ht, hsum, hsequences⟩ := sequences_syllable h h'
  have hlarge : ¬ codepoint ≤ 0x7f := UInt32.not_le.mpr (UInt32.lt_of_lt_of_le (by decide) h)
  have hlead := mapM_keys leadKeys hl (by decide)
  have hvowel := mapM_keys vowelKeys hv (by decide)
  have htrail := mapM_keys trailKeys ht (by decide)
  refine ⟨l, v, t, hl, hv, ht, hsum, ?_⟩
  simp only [codepointKeys, if_neg hlarge, hsequences, List.mapM_append, hlead, hvowel, htrail]
  rfl

theorem length_jamoKeys : jamoKeys.length = 51 := rfl

theorem codepointKeys_of_jamo {codepoint : UInt32} {text : List UInt8} {found : List HidTextKey}
    (hlarge : ¬ codepoint ≤ 0x7f) (hsyllable : codepointToHangulSequences codepoint = none)
    (hsequence : hangulJamoSequence codepoint = some text)
    (hfound : text.mapM asciiToHid = some found) : codepointKeys codepoint = some found := by
  simp only [codepointKeys, if_neg hlarge, hsyllable, hsequence, Option.bind_some, hfound]

theorem codepointKeys_jamo {codepoint : UInt32} (h : 0x3131 ≤ codepoint) (h' : codepoint ≤ 0x3163) :
    codepointKeys codepoint = some (strokes (jamoKeys.getD (codepoint.toNat - 0x3131) "")) := by
  have hlarge : ¬ codepoint ≤ 0x7f := UInt32.not_le.mpr (UInt32.lt_of_lt_of_le (by decide) h)
  have hhigh := UInt32.le_iff_toNat_le.mp h'
  simp only [UInt32.reduceToNat] at hhigh
  have hoffset : (codepoint - 0x3131).toNat = codepoint.toNat - 0x3131 := UInt32.toNat_sub_of_le _ _ h
  have hindex : codepoint.toNat - 0x3131 < jamoKeys.length := by
    rw [length_jamoKeys]
    omega
  have hsyllable : codepointToHangulSequences codepoint = none :=
    if_pos (.inl (UInt32.lt_of_le_of_lt h' (by decide)))
  have hsequence : hangulJamoSequence codepoint =
      some (keys (jamoKeys.getD (codepoint.toNat - 0x3131) "")) := by
    rw [hangulJamoSequence, if_neg (UInt32.not_lt.mpr h), hoffset, List.getElem?_eq_getElem hindex,
      List.getD_eq_getElem?_getD, List.getElem?_eq_getElem hindex, Option.map_some, Option.getD_some]
  exact codepointKeys_of_jamo hlarge hsyllable hsequence (mapM_keys jamoKeys hindex (by decide))

theorem hangulJamoSequence_eq_none {codepoint : UInt32}
    (h : ¬ (0x3131 ≤ codepoint ∧ codepoint ≤ 0x3163)) : hangulJamoSequence codepoint = none := by
  unfold hangulJamoSequence
  split
  · rfl
  · rename_i hlow
    rw [UInt32.not_lt] at hlow
    have hhigh : 0x3163 < codepoint := UInt32.not_le.mp fun hle => h ⟨hlow, hle⟩
    rw [UInt32.lt_iff_toNat_lt] at hhigh
    simp only [UInt32.reduceToNat] at hhigh
    rw [List.getElem?_eq_none, Option.map_none]
    rw [length_jamoKeys, UInt32.toNat_sub_of_le _ _ hlow]
    simp only [UInt32.reduceToNat]
    omega

theorem codepointKeys_ascii {codepoint : UInt32} (h : codepoint ≤ 0x7f) :
    codepointKeys codepoint = (asciiToHid codepoint.toUInt8).map fun key => [key] := by
  have hsyllable : codepointToHangulSequences codepoint = none :=
    if_pos (.inl (UInt32.lt_of_le_of_lt h (by decide)))
  have hjamo : hangulJamoSequence codepoint = none := if_pos (UInt32.lt_of_le_of_lt h (by decide))
  simp only [codepointKeys, if_pos h, hsyllable, hjamo]
  cases asciiToHid codepoint.toUInt8 <;> rfl

theorem isSome_codepointKeys_iff (codepoint : UInt32) :
    (codepointKeys codepoint).isSome ↔ HasKeys codepoint := by
  by_cases hascii : codepoint ≤ 0x7f
  · have hother : ∀ {low high : UInt32}, 0x7f < low → ¬ (low ≤ codepoint ∧ codepoint ≤ high) :=
      fun hlow hboth => absurd (UInt32.lt_of_lt_of_le hlow hboth.1) (UInt32.not_lt.mpr hascii)
    rw [codepointKeys_ascii hascii, Option.isSome_map, HasKeys]
    constructor
    · intro hkey
      exact .inl ⟨hascii, hkey⟩
    · rintro (⟨-, hkey⟩ | hsyllable | hjamo)
      · exact hkey
      · exact absurd hsyllable (hother (by decide))
      · exact absurd hjamo (hother (by decide))
  · by_cases hsyllable : 0xac00 ≤ codepoint ∧ codepoint ≤ 0xd7a3
    · obtain ⟨l, v, t, -, -, -, -, hkeys⟩ := codepointKeys_syllable hsyllable.1 hsyllable.2
      rw [hkeys]
      exact ⟨fun _ => .inr (.inl hsyllable), fun _ => rfl⟩
    · by_cases hjamo : 0x3131 ≤ codepoint ∧ codepoint ≤ 0x3163
      · rw [codepointKeys_jamo hjamo.1 hjamo.2]
        exact ⟨fun _ => .inr (.inr hjamo), fun _ => rfl⟩
      · have hsequences : codepointToHangulSequences codepoint = none := by
          refine if_pos ?_
          by_contra hrange
          rw [not_or, UInt32.not_lt, gt_iff_lt, UInt32.not_lt] at hrange
          exact hsyllable hrange
        simp only [codepointKeys, if_neg hascii, hsequences, hangulJamoSequence_eq_none hjamo,
          Option.bind_none, Option.isSome_none, Bool.false_eq_true, false_iff]
        rintro (⟨hle, -⟩ | hrange | hrange)
        · exact hascii hle
        · exact hsyllable hrange
        · exact hjamo hrange

namespace HidState

-- ---------------------------------------------------------------------------
-- What a call sends
-- ---------------------------------------------------------------------------

/-- A condition on the kernel and the queues under which the keyboard takes every report. -/
structure Steady (P : HidState → Prop) : Prop where
  congr : ∀ {hid hid' : HidState}, P hid → hid'.usb = hid.usb → hid'.queues = hid.queues → P hid'
  send : ∀ {hid : HidState}, P hid → hid.input.keyboardPasteCodepoint = 0 →
    hid.count .keyboard < hidReportQueueCapacity → hid.sendKeyboard.1 = true ∧ P hid.sendKeyboard.2

/-- The call adds the entries to the stream if it returns true. With room for them it returns
false only after a write error, if it is `plain`, and true where `P` holds, if it is `quiet`. -/
structure Sends (P : HidState → Prop) (plain quiet : Prop) (hid : HidState) (entries : List KeyEntry)
    (result : Bool × HidState) : Prop where
  stream : result.1 = true → result.2.stream = hid.stream ++ entries.flatMap KeyEntry.events
  pointer : (result.2.queues .pointer).reports.toList <:+ (hid.queues .pointer).reports.toList
  count_le : result.2.count .keyboard ≤ hid.count .keyboard + entries.length
  errors : plain → hid.count .keyboard + entries.length ≤ hidReportQueueCapacity →
    result.2.stats.writeErrors = hid.stats.writeErrors + if result.1 then 0 else 1
  steady : quiet → hid.count .keyboard + entries.length ≤ hidReportQueueCapacity → P hid →
    result.1 = true ∧ P result.2

theorem Sends.onSuccess {rest : HidState → Bool × HidState}
    (h : Sends P plain quiet hid entries result)
    (hrest : result.1 = true → Sends P plain' quiet' result.2 more (rest result.2)) :
    Sends P (plain ∧ plain') (quiet ∧ quiet') hid (entries ++ more) (onSuccess result rest) := by
  obtain ⟨ok, mid⟩ := result
  have hcount : mid.count .keyboard ≤ hid.count .keyboard + entries.length := h.count_le
  cases ok with
  | false =>
    refine ⟨fun hok => absurd hok Bool.false_ne_true, h.pointer, ?_, fun hplain room => ?_, ?_⟩
    · rw [List.length_append]
      exact hcount.trans (by omega)
    · rw [List.length_append] at room
      exact h.errors hplain.1 (by omega)
    · intro hquiet room hP
      rw [List.length_append] at room
      exact absurd (h.steady hquiet.1 (by omega) hP).1 Bool.false_ne_true
  | true =>
    have hmore := hrest rfl
    refine ⟨fun hok => ?_, hmore.pointer.trans h.pointer, ?_, fun hplain room => ?_, ?_⟩
    · rw [List.flatMap_append, ← List.append_assoc, ← h.stream rfl]
      exact hmore.stream hok
    · rw [List.length_append]
      exact hmore.count_le.trans (by simp only; omega)
    · rw [List.length_append] at room
      refine (hmore.errors hplain.2 (by simp only; omega)).trans ?_
      have hfirst := h.errors hplain.1 (by omega)
      simp only [if_true, UInt64.add_zero] at hfirst
      simp only [hfirst]
      rfl
    · intro hquiet room hP
      rw [List.length_append] at room
      exact hmore.steady hquiet.2 (by simp only; omega) (h.steady hquiet.1 (by omega) hP).2

theorem Sends.imp (h : Sends P plain quiet hid entries result) (hplain : plain' → plain)
    (hquiet : quiet' → quiet) : Sends P plain' quiet' hid entries result :=
  { h with
    errors := fun hp => h.errors (hplain hp)
    steady := fun hq => h.steady (hquiet hq) }

theorem Sends.setInput {input : HidInput} (hP : Steady P)
    (h : Sends P plain quiet (hid.setInput input) entries result) :
    Sends P plain quiet hid entries result :=
  ⟨h.stream, h.pointer, h.count_le, h.errors, fun hquiet room hp =>
    h.steady hquiet room (hP.congr hp rfl rfl)⟩

theorem keyEntry_newReport (hid : HidState) (payload : Payload) (delayMs : UInt16) (queuedAt : UInt64) :
    HidReport.keyEntry (hid.newReport .keyboard payload false delayMs queuedAt) =
      ⟨hid.input.keyboardPasteCodepoint, payload.bytes⟩ := by
  simp [HidReport.keyEntry, newReport, HidReport.bytes, Endpoint.queue]

theorem stream_pushBack (hid : HidState) (payload : Payload) (delayMs : UInt16)
    (room : hid.count Endpoint.keyboard.queue < hidReportQueueCapacity) :
    (hid.pushBack .keyboard payload false delayMs room).stream =
      hid.stream ++ KeyEntry.events ⟨hid.input.keyboardPasteCodepoint, payload.bytes⟩ := by
  have hentries : (hid.pushBack .keyboard payload false delayMs room).keyEntries =
      hid.keyEntries ++ [⟨hid.input.keyboardPasteCodepoint, payload.bytes⟩] := by
    refine (congrArg (List.map HidReport.keyEntry)
      (toList_pushBack hid .keyboard payload false delayMs room)).trans (List.map_append.trans ?_)
    exact congrArg (fun entry => hid.keyEntries ++ [entry]) (keyEntry_newReport hid payload delayMs _)
  rw [HidState.stream, hentries, List.flatMap_append, ← List.append_assoc, List.flatMap_singleton]
  rfl

theorem makeRoom_passes (hid : HidState) : ∃ ok, Passes hid ok (hid.makeRoom .keyboard) := by
  unfold makeRoom
  split
  · exact ⟨_, flushReports_passes hid⟩
  · exact ⟨true, (Keeps.refl hid).passes⟩

theorem input_makeRoom (hid : HidState) (q : QueueId) : (hid.makeRoom q).input = hid.input := by
  unfold makeRoom
  split
  · exact (flushReports_flushed hid q).input
  · rfl

/-- A report that is queued is the new end of the stream. -/
theorem queueReport_stream (hid : HidState) (payload : Payload) (delayMs : UInt16) :
    ((hid.queueReport .keyboard payload false delayMs).1 = true →
      (hid.queueReport .keyboard payload false delayMs).2.stream =
        hid.stream ++ KeyEntry.events ⟨hid.input.keyboardPasteCodepoint, payload.bytes⟩) ∧
    ((hid.queueReport .keyboard payload false delayMs).2.queues .pointer).reports.toList <:+
      (hid.queues .pointer).reports.toList := by
  obtain ⟨ok, hmade⟩ : ∃ ok, Passes hid ok (hid.makeRoom Endpoint.keyboard.queue) := makeRoom_passes hid
  have hinput := hid.input_makeRoom Endpoint.keyboard.queue
  simp only [queueReport, coalesces, Bool.false_and, Bool.false_eq_true, if_false]
  split
  · rename_i room
    have hpasses := flushReports_passes ((hid.makeRoom _).pushBack .keyboard payload false delayMs room)
    refine ⟨fun _ => hpasses.stream.trans ((stream_pushBack _ payload delayMs room).trans ?_),
      hpasses.pointer.trans hmade.pointer⟩
    rw [hmade.stream, hinput]
  · exact ⟨fun hok => absurd hok Bool.false_ne_true, hmade.pointer⟩

theorem sends_sendKeyboard (hP : Steady P) (hid : HidState) :
    Sends P True (hid.input.keyboardPasteCodepoint = 0) hid [hid.input.entry] hid.sendKeyboard where
  stream hok := by
    rw [List.flatMap_singleton]
    exact (queueReport_stream hid hid.input.keyboardReport hid.input.keyboardDelayMs).1 hok
  pointer := (queueReport_stream hid hid.input.keyboardReport hid.input.keyboardDelayMs).2
  count_le := count_queueReport_le hid .keyboard _ _ _ .keyboard
  errors _ room := by
    have hqueue := queueReport_of_room hid .keyboard hid.input.keyboardReport
      hid.input.keyboardDelayMs room
    have hpasses := flushReports_passes (hid.pushBack .keyboard hid.input.keyboardReport false
      hid.input.keyboardDelayMs room)
    simp only [sendKeyboard, hqueue]
    exact hpasses.errors
  steady hmark room hp := hP.send hp hmark room

-- ---------------------------------------------------------------------------
-- Keys
-- ---------------------------------------------------------------------------

structure Strokes (P : HidState → Prop) (plain quiet : Prop) (hid : HidState)
    (entries : List KeyEntry) (result : Bool × HidState) : Prop
    extends Sends P plain quiet hid entries result where
  input : result.1 = true → result.2.input = hid.input

theorem Strokes.refl (P : HidState → Prop) (hid : HidState) : Strokes P True True hid [] (true, hid) where
  stream _ := (List.append_nil _).symm
  pointer := List.suffix_rfl
  count_le := Nat.le_refl _
  errors _ _ := (UInt64.add_zero _).symm
  steady _ _ hp := ⟨rfl, hp⟩
  input _ := rfl

theorem Strokes.onSuccess {rest : HidState → Bool × HidState}
    (h : Strokes P plain quiet hid entries result)
    (hrest : result.1 = true → Strokes P plain' quiet' result.2 more (rest result.2)) :
    Strokes P (plain ∧ plain') (quiet ∧ quiet') hid (entries ++ more) (onSuccess result rest) where
  toSends := h.toSends.onSuccess fun hok => (hrest hok).toSends
  input := by
    obtain ⟨ok, mid⟩ := result
    cases ok with
    | false => exact fun hok => absurd hok Bool.false_ne_true
    | true => exact fun hok => ((hrest rfl).input hok).trans (h.input rfl)

theorem Strokes.imp (h : Strokes P plain quiet hid entries result) (hplain : plain' → plain)
    (hquiet : quiet' → quiet) : Strokes P plain' quiet' hid entries result :=
  ⟨h.toSends.imp hplain hquiet, h.input⟩

theorem strokes_tapTextKey (hP : Steady P) (hid : HidState) (key : HidTextKey) :
    Strokes P True (hid.input.keyboardPasteCodepoint = 0) hid (hid.input.tapEntries key)
      (hid.tapTextKey key) := by
  have hpress : Sends P _ _ hid [(hid.input.press key).entry]
      (hid.setInput (hid.input.press key)).sendKeyboard :=
    Sends.setInput hP (sends_sendKeyboard hP _)
  refine ⟨?_, input_tapTextKey⟩
  rw [tapTextKey_eq]
  generalize (hid.setInput (hid.input.press key)).sendKeyboard = pressed at hpress ⊢
  have hrelease : Sends P _ _ pressed.2 [hid.input.entry]
      (pressed.2.setInput hid.input).sendKeyboard := Sends.setInput hP (sends_sendKeyboard hP _)
  exact (hpress.onSuccess fun _ => hrelease).imp (fun _ => ⟨trivial, trivial⟩)
    fun hmark => ⟨hmark, hmark⟩

theorem accounts_strokes (hP : Steady P) : Accounts (fun hid entries result =>
    Strokes P True (hid.input.keyboardPasteCodepoint = 0) hid entries result)
    HidInput.tapEntries where
  refl hid := (Strokes.refl P hid).imp (fun _ => trivial) fun _ => trivial
  onSuccess hfirst hrest := (hfirst.onSuccess fun hok => hfirst.input hok ▸ hrest hok).imp
    (fun _ => ⟨trivial, trivial⟩) fun hmark => ⟨hmark, hmark⟩
  tapTextKey := strokes_tapTextKey hP

-- ---------------------------------------------------------------------------
-- Pasting
-- ---------------------------------------------------------------------------

theorem pasteCodepoint_eq (hid : HidState) (codepoint : UInt32) :
    hid.pasteCodepoint codepoint =
      if !hid.isOpen .paste then (false, hid)
      else
        let pressed := (hid.setInput (hid.input.pasting codepoint)).sendKeyboard
        let unmarked := pressed.2.setInput { pressed.2.input with keyboardPasteCodepoint := 0 }
        if !pressed.1 then (false, unmarked)
        else
          (unmarked.setInput { unmarked.input with
            usages := Function.update unmarked.input.usages 0x19 false
            modifiers := hid.input.modifiers }).sendKeyboard := rfl

/-- A character without keys: the report that pastes it is marked with it. -/
theorem strokes_pasteCodepoint (hP : Steady P) {hid : HidState} (h : hid.input.Neutral)
    (hmark : hid.input.keyboardPasteCodepoint = 0) (codepoint : UInt32) :
    Strokes P False False hid (pasteTap codepoint) (hid.pasteCodepoint codepoint) := by
  have hfailed {mid : HidState} (hpointer : (mid.queues .pointer).reports.toList <:+
      (hid.queues .pointer).reports.toList) (hcount : mid.count .keyboard ≤ hid.count .keyboard + 1) :
      Strokes P False False hid (pasteTap codepoint) (false, mid) :=
    ⟨⟨fun hok => absurd hok Bool.false_ne_true, hpointer, Nat.le_succ_of_le hcount,
      False.elim, False.elim⟩, fun hok => absurd hok Bool.false_ne_true⟩
  have hpress : Sends P _ _ hid [(hid.input.pasting codepoint).entry]
      (hid.setInput (hid.input.pasting codepoint)).sendKeyboard :=
    Sends.setInput hP (sends_sendKeyboard hP _)
  have hinput := input_sendKeyboard (hid.setInput (hid.input.pasting codepoint))
  rw [pasteCodepoint_eq]
  split
  · exact hfailed List.suffix_rfl (Nat.le_succ _)
  · generalize (hid.setInput (hid.input.pasting codepoint)).sendKeyboard = pressed at hpress hinput ⊢
    obtain ⟨ok, mid⟩ := pressed
    cases ok with
    | false => exact hfailed hpress.pointer hpress.count_le
    | true =>
      have hmid : mid.input = hid.input.pasting codepoint := hinput
      have hrelease : Sends P _ _ mid [hid.input.entry] (mid.setInput hid.input).sendKeyboard :=
        Sends.setInput hP (sends_sendKeyboard hP (mid.setInput hid.input))
      have hboth : Sends P _ _ hid _ (Hid.onSuccess (true, mid) fun mid =>
          (mid.setInput hid.input).sendKeyboard) := hpress.onSuccess fun _ => hrelease
      rw [HidInput.entry_pasting, h.entry, hmark] at hboth
      simp only [Bool.not_true, Bool.false_eq_true, if_false, input_setInput, hmid,
        h.after_pasting hmark]
      exact ⟨hboth.imp False.elim False.elim, fun _ => input_sendKeyboard _⟩

-- ---------------------------------------------------------------------------
-- Text
-- ---------------------------------------------------------------------------

theorem typeOrPaste_of_no_keys (hid : HidState) {codepoint : UInt32}
    (h : codepointKeys codepoint = none) :
    hid.typeOrPaste codepoint = (false, hid) ∨
      0x7f < codepoint ∧ hid.typeOrPaste codepoint = hid.pasteCodepoint codepoint := by
  have hnot : ¬ HasKeys codepoint := by
    rw [← isSome_codepointKeys_iff, h]
    exact Bool.false_ne_true
  have hsyllable : ¬ (0xac00 ≤ codepoint ∧ codepoint ≤ 0xd7a3) := fun hs => hnot (.inr (.inl hs))
  have hjamo : ¬ (0x3131 ≤ codepoint ∧ codepoint ≤ 0x3163) := fun hj => hnot (.inr (.inr hj))
  have hnosequence := hangulJamoSequence_eq_none hjamo
  unfold typeOrPaste
  by_cases hascii : codepoint ≤ 0x7f
  · refine .inl ((if_pos (.inl hascii)).trans ?_)
    have hkey := codepointKeys_ascii hascii
    rw [h, eq_comm, Option.map_eq_none_iff] at hkey
    have hsequences : codepointToHangulSequences codepoint = none :=
      if_pos (.inl (UInt32.lt_of_le_of_lt hascii (by decide)))
    simp only [typeCodepoint, if_pos hascii, hkey, hsequences, hnosequence]
  · refine .inr ⟨UInt32.not_le.mp hascii, if_neg ?_⟩
    rw [hnosequence]
    rintro (hle | hs | hsome)
    · exact hascii hle
    · exact hsyllable hs
    · cases hsome

/-- A character is typed with the mark that is set; to be pasted it needs the mark itself. -/
theorem strokes_typeOrPaste (hP : Steady P) {hid : HidState} (h : hid.input.Neutral)
    {codepoint : UInt32} (hmark : HasKeys codepoint ∨ hid.input.keyboardPasteCodepoint = 0) :
    Strokes P (HasKeys codepoint) (HasKeys codepoint ∧ hid.input.keyboardPasteCodepoint = 0) hid
      (characterEntries hid.input.keyboardPasteCodepoint codepoint) (hid.typeOrPaste codepoint) := by
  unfold characterEntries
  cases hkeys : codepointKeys codepoint with
  | some found =>
    have htyped := (accounts_strokes hP).typeCodepoint hid hkeys
    rw [funext h.tapEntries] at htyped
    rw [typeOrPaste_of_keys hid hkeys]
    exact htyped.imp (fun _ => trivial) And.right
  | none =>
    have hnot : ¬ HasKeys codepoint := by
      rw [← isSome_codepointKeys_iff, hkeys]
      exact Bool.false_ne_true
    rcases typeOrPaste_of_no_keys hid hkeys with hfalse | ⟨-, hpaste⟩
    · rw [hfalse]
      exact ⟨⟨fun hok => absurd hok Bool.false_ne_true, List.suffix_rfl, Nat.le_add_right _ _,
        fun hplain => absurd hplain hnot, fun hquiet => absurd hquiet.1 hnot⟩,
        fun hok => absurd hok Bool.false_ne_true⟩
    · rw [hpaste]
      exact (strokes_pasteCodepoint hP h (hmark.resolve_left hnot) codepoint).imp hnot
        fun hquiet => hnot hquiet.1

theorem strokes_typeText (hP : Steady P) {hid : HidState} (h : hid.input.Neutral) {chars : List Char}
    (hmark : (∀ c ∈ chars, HasKeys c.val) ∨ hid.input.keyboardPasteCodepoint = 0)
    (hfuel : (chars.flatMap String.utf8EncodeChar).length ≤ fuel) :
    Strokes P (∀ c ∈ chars, HasKeys c.val)
      ((∀ c ∈ chars, HasKeys c.val) ∧ hid.input.keyboardPasteCodepoint = 0) hid
      (chars.flatMap fun c => characterEntries hid.input.keyboardPasteCodepoint c.val)
      (typeText fuel hid (chars.flatMap String.utf8EncodeChar)) := by
  induction chars generalizing hid fuel with
  | nil => cases fuel <;> exact (Strokes.refl P hid).imp (fun _ => trivial) fun _ => trivial
  | cons c chars ih =>
    have hpos : 0 < (String.utf8EncodeChar c).length := by
      rw [String.length_utf8EncodeChar]
      exact c.utf8Size_pos
    have hdecode := utf8Decode_encode c (chars.flatMap String.utf8EncodeChar)
    rw [List.flatMap_cons, List.length_append] at hfuel
    rw [List.flatMap_cons, List.flatMap_cons (f := String.utf8EncodeChar)]
    rw [List.forall_mem_cons] at hmark ⊢
    obtain ⟨fuel, rfl⟩ : ∃ n, fuel = n + 1 := ⟨fuel - 1, by omega⟩
    obtain ⟨first, rest, htext⟩ := List.exists_cons_of_length_pos (Nat.lt_of_lt_of_le hpos
      (List.length_append ▸ Nat.le_add_right _ (chars.flatMap String.utf8EncodeChar).length))
    have hfirst := strokes_typeOrPaste hP h (hmark.imp_left And.left)
    rw [htext] at hdecode ⊢
    simp only [typeText, hdecode]
    have hrest (hok : (hid.typeOrPaste c.val).1 = true) : Strokes P (∀ c ∈ chars, HasKeys c.val)
        ((∀ c ∈ chars, HasKeys c.val) ∧ hid.input.keyboardPasteCodepoint = 0) (hid.typeOrPaste c.val).2
        (chars.flatMap fun c => characterEntries hid.input.keyboardPasteCodepoint c.val)
        (typeText fuel (hid.typeOrPaste c.val).2 (chars.flatMap String.utf8EncodeChar)) := by
      have hinput := hfirst.input hok
      have hmore := ih (hinput ▸ h) (hinput ▸ hmark.imp_left And.right) (by omega : _ ≤ fuel)
      rwa [hinput] at hmore
    exact (hfirst.onSuccess hrest).imp id fun hquiet => ⟨⟨hquiet.1.1, hquiet.2⟩, hquiet.1.2, hquiet.2⟩

theorem strokes_freshText (hP : Steady P) {hid : HidState} (h : hid.input.Neutral) {chars : List Char}
    (hmark : (∀ c ∈ chars, HasKeys c.val) ∨ hid.input.keyboardPasteCodepoint = 0)
    (hfuel : (chars.flatMap String.utf8EncodeChar).length ≤ fuel) :
    Strokes P (∀ c ∈ chars, HasKeys c.val)
      ((∀ c ∈ chars, HasKeys c.val) ∧ hid.input.keyboardPasteCodepoint = 0) hid
      (⟨hid.input.keyboardPasteCodepoint, releasedBytes⟩ ::
        chars.flatMap fun c => characterEntries hid.input.keyboardPasteCodepoint c.val)
      (onSuccess hid.sendKeyboard fun hid =>
        typeText fuel hid (chars.flatMap String.utf8EncodeChar)) := by
  have hfirst : Strokes P True _ hid [hid.input.entry] hid.sendKeyboard :=
    ⟨sends_sendKeyboard hP hid, fun _ => input_sendKeyboard hid⟩
  have hinput := input_sendKeyboard hid
  have hneutral : hid.sendKeyboard.2.input.Neutral := hinput ▸ h
  have hrest := strokes_typeText hP hneutral (hinput ▸ hmark) hfuel
  rw [hinput] at hrest
  rw [h.entry] at hfirst
  exact Strokes.imp (Strokes.onSuccess hfirst fun _ => hrest)
    (fun hplain => ⟨trivial, hplain⟩) fun hquiet => ⟨hquiet.2, hquiet⟩

/-- A text that was typed is a sequence of characters, each with keys or to be pasted. -/
theorem exists_chars_of_typeText {hid : HidState} {text : List UInt8} (hfuel : text.length ≤ fuel)
    (h : (typeText fuel hid text).1 = true) :
    ∃ chars : List Char, text = chars.flatMap String.utf8EncodeChar ∧
      ∀ c ∈ chars, codepointKeys c.val = none → 0x7f < c.val := by
  induction fuel generalizing hid text with
  | zero =>
    exact ⟨[], List.eq_nil_of_length_eq_zero (Nat.le_zero.mp hfuel), fun c hc => by cases hc⟩
  | succ fuel ih =>
    cases text with
    | nil => exact ⟨[], rfl, fun c hc => by cases hc⟩
    | cons first text =>
      simp only [typeText] at h
      cases hdecode : utf8Decode (first :: text) with
      | none =>
        rw [hdecode] at h
        cases h
      | some decoded =>
        obtain ⟨codepoint, rest⟩ := decoded
        have hshorter := utf8Decode_length hdecode
        obtain ⟨c, rfl, htext⟩ := utf8Decode_sound hdecode
        simp only [hdecode] at h
        have hpasted (hnone : codepointKeys c.val = none) (hok : (hid.typeOrPaste c.val).1 = true) :
            0x7f < c.val := by
          rcases typeOrPaste_of_no_keys hid hnone with hfalse | ⟨hbeyond, -⟩
          · rw [hfalse] at hok
            cases hok
          · exact hbeyond
        generalize hid.typeOrPaste c.val = typed at h hpasted
        obtain ⟨ok, mid⟩ := typed
        cases ok with
        | false => cases h
        | true =>
          obtain ⟨chars, hrest, hchars⟩ := ih (by omega) h
          refine ⟨c :: chars, by rw [htext, List.flatMap_cons, hrest], ?_⟩
          rw [List.forall_mem_cons]
          exact ⟨fun hnone => hpasted hnone rfl, hchars⟩

end HidState

end NanokvmRdp.Hid
