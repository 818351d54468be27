import NanokvmRdp.Agent.Control
import NanokvmRdp.Gateway.HttpPointer
import NanokvmRdp.Hid.RelativeMotion

/-!
# The wheel over HTTP

`handle_wheel` sends a magnitude and a flag for its sign. `wheel_detents` reads
the same nine bits as a signed number, so a small step back arrives as a large
one. A rotation of 17 or more counts one detent in either direction, a smaller
one counts one forward and two back.
-/

namespace NanokvmRdp.Gateway

open Hid Protocol

def detents (message : ControlMessage) : Int := wheelDetents (protocolReadU16 message.payload)

def turnedBack (dy dx : Int64) : Int64 × Int64 := if dy ≠ 0 then (-dy, dx) else (dy, -dx)

/-- The count in a report: the rotation of a relative one, the pan byte of an absolute one. -/
def reportedDetents : Report → Option Int
  | (.mouse, [_, _, _, wheel]) => some wheel.toInt8.toInt
  | (.touch, [_, _, _, _, _, _, pan]) => some pan.toInt8.toInt
  | _ => none

/-- The agent puts one report on the pointer queue, and it carries the count. -/
def Reports (agent : Agent) (message : ControlMessage) : Prop :=
  (agent.dispatch message).1 = true → ∃ report,
    (agent.dispatch message).2.hid.log .pointer = agent.hid.log .pointer ++ [report] ∧
      reportedDetents report = some (detents message)

/-- Both ends agree on a request: its count has the sign of the rotation, and the request turned
around has the opposite count. -/
structure WheelAgrees (router : InputRouter) (dy dx : Int64) (message back : ControlMessage) :
    Prop where
  sent : (handleWheel true router dy dx).2.1 = some message
  turned : (handleWheel true router (turnedBack dy dx).1 (turnedBack dy dx).2).2.1 = some back
  reports : ∀ agent : Agent, dy ≠ 0 ∨ agent.hid.input.absoluteReportLength.1 = 7 →
    Reports agent message ∧ Reports agent back
  nonzero : detents message ≠ 0
  sign : (detents message).sign = (wheelRaw dy dx).toInt.sign
  opposite : detents back = -detents message

-- ---------------------------------------------------------------------------
-- The counts
-- ---------------------------------------------------------------------------

def arrives (steps : Int) : Int :=
  if steps = 0 then 0 else if 0 < steps then 1 else if -16 ≤ steps then -2 else -1

theorem sign_arrives (steps : Int) : (arrives steps).sign = steps.sign := by
  unfold arrives
  split
  · rename_i hzero
    rw [hzero]
  · split
    · rename_i hpos
      rw [Int.sign_eq_one_of_pos hpos]
      rfl
    · have hneg : steps < 0 := by omega
      rw [Int.sign_eq_neg_one_of_neg hneg]
      split <;> rfl

theorem arrives_neg_iff (h : steps ≠ 0) : arrives (-steps) = -arrives steps ↔ 17 ≤ steps.natAbs := by
  unfold arrives
  rw [if_neg h, if_neg (by omega : -steps ≠ 0)]
  by_cases hpos : 0 < steps
  · rw [if_pos hpos, if_neg (by omega)]
    split <;> omega
  · rw [if_neg hpos, if_pos (by omega)]
    split <;> omega

theorem wheelFlags_table : ∀ k : Fin 241, ∀ vertical : Bool,
    let flags := wheelFlags vertical (Int64.ofInt ((k : Int) - 120))
    wheelDetents flags = arrives ((k : Int) - 120) ∧
      (flags &&& ptrFlagsWheel != 0) = vertical ∧ (flags &&& ptrFlagsHwheel != 0) = !vertical := by
  decide +kernel

theorem toInt_wheelSteps (raw : Int64) :
    (wheelSteps raw).toInt =
      if raw.toInt > 120 then 120 else if raw.toInt < -120 then -120 else raw.toInt := by
  have hhigh : raw > 120 ↔ raw.toInt > 120 := Int64.lt_iff_toInt_lt
  have hlow : raw < -120 ↔ raw.toInt < -120 := Int64.lt_iff_toInt_lt
  unfold wheelSteps
  simp only [hhigh, hlow]
  split
  · rfl
  · split <;> rfl

/-- Clamping does not change what arrives. -/
theorem wheelFlags_spec (vertical : Bool) (raw : Int64) (flags : UInt16)
    (hflags : flags = wheelFlags vertical (wheelSteps raw)) :
    wheelDetents flags = arrives raw.toInt ∧
      (flags &&& ptrFlagsWheel != 0) = vertical ∧ (flags &&& ptrFlagsHwheel != 0) = !vertical := by
  have hsteps := toInt_wheelSteps raw
  have hrange : -120 ≤ (wheelSteps raw).toInt ∧ (wheelSteps raw).toInt ≤ 120 := by
    rw [hsteps]
    split
    · omega
    · split <;> omega
  have hentry := wheelFlags_table ⟨((wheelSteps raw).toInt + 120).toNat, by omega⟩ vertical
  have hback : (((wheelSteps raw).toInt + 120).toNat : Int) - 120 = (wheelSteps raw).toInt := by omega
  simp only [hback, Int64.ofInt_toInt, ← hflags] at hentry
  refine ⟨hentry.1.trans ?_, hentry.2⟩
  rw [hsteps]
  unfold arrives
  split
  · rename_i hhigh
    rw [if_neg (by omega), if_pos (by omega), if_neg (by omega), if_pos (by omega)]
  · split
    · rename_i hlow
      rw [if_neg (by omega), if_neg (by omega), if_neg (by omega), if_neg (by omega),
        if_neg (by omega), if_neg (by omega)]
    · rfl

theorem toInt_neg_of_ne {raw : Int64} (h : raw ≠ Int64.minValue) : (-raw).toInt = -raw.toInt := by
  have hlow := Int64.le_toInt raw
  have hhigh := Int64.toInt_lt raw
  have hne : raw.toInt ≠ -2 ^ 63 := fun heq => h (Int64.toInt_inj.mp heq)
  rw [Int64.toInt_neg]
  exact Int.bmod_eq_of_le (by omega) (by omega)

-- ---------------------------------------------------------------------------
-- The reports
-- ---------------------------------------------------------------------------

theorem toInt_arrives (steps : Int) : (Int8.ofInt (arrives steps)).toInt = arrives steps := by
  unfold arrives
  split
  · rfl
  · split
    · rfl
    · split <;> rfl

theorem payload_wheelMessage (flags : UInt16) :
    protocolReadU16 (InputRouter.wheelMessage flags).payload = flags := by
  have hwrite := protocolReadU16_write flags []
  rwa [List.append_nil] at hwrite

theorem dispatch_wheelMessage (agent : Agent) (flags : UInt16) :
    agent.dispatch (InputRouter.wheelMessage flags) = agent.outcome (agent.hid.hidWheel flags) := by
  have hhandled : agent.dispatch (InputRouter.wheelMessage flags) =
      agent.handleWheel (InputRouter.wheelMessage flags).payload := rfl
  have hlength : (InputRouter.wheelMessage flags).payload.length = 2 := rfl
  rw [hhandled, Agent.handleWheel, if_pos hlength, payload_wheelMessage]

theorem hidWheel_vertical (hid : HidState) {flags : UInt16}
    (hvertical : (flags &&& ptrFlagsWheel != 0) = true) :
    hid.hidWheel flags = hid.sendRelative 0 0 (Int8.ofInt (wheelDetents flags)) := by
  simp only [HidState.hidWheel, hvertical, Bool.not_true, Bool.false_and, Bool.and_false,
    Bool.false_eq_true, if_false]

theorem hidWheel_horizontal (hid : HidState) {flags : UInt16}
    (hvertical : (flags &&& ptrFlagsWheel != 0) = false)
    (hhorizontal : (flags &&& ptrFlagsHwheel != 0) = true)
    (hpan : hid.input.absoluteReportLength.1 = 7) :
    hid.hidWheel flags =
      (hid.setInput { hid.input with pan := Int8.ofInt (wheelDetents flags) }).sendAbsolute false := by
  simp only [HidState.hidWheel, hvertical, hhorizontal, hpan, Bool.not_true, Bool.not_false,
    Bool.and_false, Bool.and_true, Bool.false_eq_true, if_false, if_true, ne_eq, not_true_eq_false]

theorem absoluteReport_of_seven {input : HidInput} (h : input.absoluteReportLength.1 = 7) :
    ∃ b₀ b₁ b₂ b₃ b₄ b₅, input.absoluteReport.bytes = [b₀, b₁, b₂, b₃, b₄, b₅, input.pan.toUInt8] := by
  simp only [HidInput.absoluteReport, if_pos h]
  exact ⟨_, _, _, _, _, _, rfl⟩

theorem reports_wheelMessage (agent : Agent) (vertical : Bool) (raw : Int64)
    (hpan : vertical = true ∨ agent.hid.input.absoluteReportLength.1 = 7) :
    Reports agent (InputRouter.wheelMessage (wheelFlags vertical (wheelSteps raw))) := by
  obtain ⟨hcount, hvertical, hhorizontal⟩ := wheelFlags_spec vertical raw _ rfl
  generalize wheelFlags vertical (wheelSteps raw) = flags at hcount hvertical hhorizontal ⊢
  have hbyte : (Int8.ofInt (wheelDetents flags)).toUInt8.toInt8.toInt = wheelDetents flags := by
    rw [Int8.toInt8_toUInt8, hcount, toInt_arrives]
  intro hok
  rw [dispatch_wheelMessage] at hok ⊢
  rw [detents, payload_wheelMessage]
  cases vertical with
  | true =>
    rw [hidWheel_vertical _ hvertical] at hok ⊢
    exact ⟨_, HidState.log_sendRelative hok, congrArg some hbyte⟩
  | false =>
    have hseven := hpan.resolve_left Bool.false_ne_true
    rw [hidWheel_horizontal _ hvertical hhorizontal hseven] at hok ⊢
    have hkept : (agent.hid.setInput { agent.hid.input with
        pan := Int8.ofInt (wheelDetents flags) }).input.absoluteReportLength.1 = 7 := hseven
    obtain ⟨b₀, b₁, b₂, b₃, b₄, b₅, hbytes⟩ := absoluteReport_of_seven hkept
    have hlog := HidState.log_sendAbsolute hok
    rw [hbytes] at hlog
    exact ⟨_, hlog, congrArg some hbyte⟩

-- ---------------------------------------------------------------------------
-- Agreement
-- ---------------------------------------------------------------------------

theorem handleWheel_eq (router : InputRouter) (h : ¬ (dy = 0 ∧ dx = 0)) :
    (handleWheel true router dy dx).2.1 =
      some (InputRouter.wheelMessage (wheelFlags (dy ≠ 0) (wheelSteps (wheelRaw dy dx)))) := by
  rw [handleWheel, if_neg h]
  rfl

theorem turnedBack_spec (h : ¬ (dy = 0 ∧ dx = 0)) :
    wheelRaw (turnedBack dy dx).1 (turnedBack dy dx).2 = -wheelRaw dy dx ∧
      ((turnedBack dy dx).1 ≠ 0 ↔ dy ≠ 0) ∧
      ¬ ((turnedBack dy dx).1 = 0 ∧ (turnedBack dy dx).2 = 0) := by
  by_cases hdy : dy = 0
  · have hdx : dx ≠ 0 := fun hdx => h ⟨hdy, hdx⟩
    simp [turnedBack, wheelRaw, hdy, hdx]
  · simp [turnedBack, wheelRaw, hdy]

theorem detents_sent (vertical : Bool) (raw : Int64) :
    detents (InputRouter.wheelMessage (wheelFlags vertical (wheelSteps raw))) = arrives raw.toInt := by
  rw [detents, payload_wheelMessage]
  exact (wheelFlags_spec vertical raw _ rfl).1

/-- The two ends agree on a request exactly if its rotation is at least 17 in either direction. -/
theorem wheel_agrees_iff (router : InputRouter) (dy dx : Int64) (hdy : dy ≠ Int64.minValue)
    (hdx : dx ≠ Int64.minValue) (h : ¬ (dy = 0 ∧ dx = 0)) :
    (∃ message back, WheelAgrees router dy dx message back) ↔
      17 ≤ (wheelRaw dy dx).toInt.natAbs := by
  have hraw : wheelRaw dy dx ≠ Int64.minValue := by
    unfold wheelRaw
    split
    · exact hdy
    · exact hdx
  have hnonzero : (wheelRaw dy dx).toInt ≠ 0 := by
    intro hzero
    have hrawZero : wheelRaw dy dx = 0 := Int64.toInt_inj.mp hzero
    unfold wheelRaw at hrawZero
    split at hrawZero
    · rename_i hmoves
      exact hmoves hrawZero
    · rename_i hstill
      exact h ⟨not_not.mp hstill, hrawZero⟩
  obtain ⟨hback, hvertical, hsome⟩ := turnedBack_spec h
  have hmessage := handleWheel_eq router h
  have hbackMessage := handleWheel_eq router hsome
  rw [hback] at hbackMessage
  have hcount := detents_sent (dy ≠ 0) (wheelRaw dy dx)
  have hbackCount := detents_sent ((turnedBack dy dx).1 ≠ 0) (-wheelRaw dy dx)
  rw [toInt_neg_of_ne hraw] at hbackCount
  constructor
  · rintro ⟨message, back, hagrees⟩
    have hsent := hagrees.sent
    have hturned := hagrees.turned
    rw [hmessage, Option.some.injEq] at hsent
    rw [hbackMessage, Option.some.injEq] at hturned
    have hopposite := hagrees.opposite
    rw [← hsent, ← hturned, hcount, hbackCount] at hopposite
    exact (arrives_neg_iff hnonzero).mp hopposite
  · intro hlarge
    refine ⟨_, _, hmessage, hbackMessage, fun agent hpan => ⟨?_, ?_⟩, ?_, ?_, ?_⟩
    · exact reports_wheelMessage agent _ _ (hpan.imp_left decide_eq_true)
    · refine reports_wheelMessage agent _ _ (hpan.imp_left fun hdy => ?_)
      exact decide_eq_true (hvertical.mpr hdy)
    · rw [hcount]
      intro hzero
      have hsign := sign_arrives (wheelRaw dy dx).toInt
      rw [hzero, Int.sign_zero, eq_comm, Int.sign_eq_zero_iff_zero] at hsign
      exact hnonzero hsign
    · rw [hcount, sign_arrives]
    · rw [hcount, hbackCount]
      exact (arrives_neg_iff hnonzero).mpr hlarge

def desktopRouter : InputRouter := { width := 1920, height := 1080, swapAltCommand := false }

theorem wheel_agrees_full_detent : ∃ message back, WheelAgrees desktopRouter 120 0 message back :=
  (wheel_agrees_iff desktopRouter 120 0 (by decide) (by decide) (by decide)).mpr (by decide)

/-- One step forward counts one detent, one step back counts two. -/
theorem small_steps_back_count_twice :
    (handleWheel true desktopRouter 1 0).2.1.map detents = some 1 ∧
      (handleWheel true desktopRouter (turnedBack 1 0).1 (turnedBack 1 0).2).2.1.map detents =
        some (-2) := by
  decide +kernel

end NanokvmRdp.Gateway
