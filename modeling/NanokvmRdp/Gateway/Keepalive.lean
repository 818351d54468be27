import NanokvmRdp.Gateway.Routing
import NanokvmRdp.Lib.Machine

/-!
# The gateway keepalive

`server_keepalive` moves the pointer by one unit, in a message that says no
button is held. It looks at the router first, but sends after the locks are
released, and the input thread too sends after its own locked section. A press
can so be sent between the look and the keepalive, which then releases it at
the agent, and a release can be routed before the look and sent after the
keepalive (`keepalive_releases_button`). In runs without these two orders the look
is enough: buttons go up only for releases of the client
(`buttons_cleared_by_releases`).
-/

namespace NanokvmRdp.Gateway

open Hid Protocol

def gatewayKeepaliveIntervalMs : UInt64 := 10000

inductive Origin where
  | client (event : ClientEvent)
  | keepalive
  | loop
  deriving DecidableEq, Repr

def Origin.releases : Origin → Bool
  | .client event => event.releases
  | .keepalive | .loop => false

def Origin.presses : Origin → Bool
  | .client event => event.presses
  | .keepalive | .loop => false

structure Routed where
  origin : Origin
  message : ControlMessage
  deriving DecidableEq, Repr

/-- The gateway with one active client, and the agent. `unsent` is what the
input thread has routed and not sent, `idle` the heartbeat thread between its
look and its send, `channel` what the agent has not handled. `cleared` records
every time a button went up at the agent. -/
structure InputPath where
  router : InputRouter
  agent : Agent
  nextKeepaliveAt : UInt64
  keepaliveDx : Int8 := 1
  unsent : Option Routed := none
  idle : Bool := false
  channel : List Routed := []
  cleared : List Origin := []

inductive InputEvent where
  | route (event : ClientEvent)
  | send
  | look (now : UInt64) (httpIdle : Bool)
  | sendKeepalive
  | handle
  | pump
  deriving DecidableEq, Repr

namespace InputPath

def buttons (s : InputPath) : UInt8 := s.agent.hid.input.buttons

/-- The first part of `server_keepalive`, up to the end of its locks. -/
def look (s : InputPath) (now : UInt64) (httpIdle : Bool) : InputPath :=
  if now < s.nextKeepaliveAt then s
  else
    { s with
      nextKeepaliveAt := now + gatewayKeepaliveIntervalMs
      idle := s.router.pointerButtons == 0 && s.router.keyboardModifiers == 0 &&
        !s.router.controlSpaceDown && httpIdle }

def keepaliveMessage (dx : Int8) : ControlMessage :=
  inputMessage .pointerRel (protocolWriteU16 dx.toInt16.toUInt16 ++ [0, 0, 0]) (by simp)

def sendKeepalive (s : InputPath) : InputPath :=
  { s with
    idle := false
    keepaliveDx := -s.keepaliveDx
    channel := s.channel ++ [⟨.keepalive, keepaliveMessage s.keepaliveDx⟩] }

def setAgent (s : InputPath) (agent : Agent) (origin : Origin) : InputPath :=
  { s with
    agent
    cleared :=
      if Keeps s.buttons agent.hid.input.buttons then s.cleared else s.cleared ++ [origin] }

/-- A step of the agent is taken only if no HID operation in it fails. -/
def step (s : InputPath) : InputEvent → Option InputPath
  | .route event =>
    if s.unsent.isNone then
      let routed := s.router.handle event
      some { s with router := routed.1, unsent := routed.2.map (Routed.mk (.client event)) }
    else none
  | .send => s.unsent.map fun routed =>
    { s with unsent := none, channel := s.channel ++ [routed] }
  | .look now httpIdle => if s.idle then none else some (s.look now httpIdle)
  | .sendKeepalive => if s.idle then some s.sendKeepalive else none
  | .handle =>
    match s.channel with
    | [] => none
    | routed :: channel =>
      if s.agent.delivers routed.message then
        some ({ s with channel }.setAgent (s.agent.handleControl routed.message) routed.origin)
      else none
  | .pump => if s.agent.pumps then some (s.setAgent s.agent.pumpHid .loop) else none

end InputPath

def pressedBy (buttons : UInt8) (channel : List Routed) : UInt8 :=
  channel.foldl (fun buttons routed => Agent.pressedAfter routed.message buttons) buttons

namespace InputPath

/-- The buttons the agent will hold once it has handled everything sent. -/
def pressed (s : InputPath) : UInt8 := pressedBy s.buttons s.channel

/-- When the look finds the client idle, no release is routed and unsent; and
between that look and the keepalive no press is sent. -/
def Separate (s : InputPath) : InputEvent → Prop
  | .look now httpIdle =>
    (s.look now httpIdle).idle = true → s.unsent.all (!·.origin.releases) = true
  | .send => s.idle = true → s.unsent.all (!·.origin.presses) = true
  | _ => True

instance (s : InputPath) (event : InputEvent) : Decidable (s.Separate event) :=
  match event with
  | .look .. => inferInstanceAs (Decidable (_ = true → _ = true))
  | .send => inferInstanceAs (Decidable (_ = true → _ = true))
  | .route _ | .sendKeepalive | .handle | .pump => .isTrue trivial

def start (config : HidConfig) (kernel : Nat → Answer) (width height : UInt16)
    (swapAltCommand : Bool) (nextKeepaliveAt : UInt64) : InputPath where
  router := { width, height, swapAltCommand }
  agent := Agent.start config kernel
  nextKeepaliveAt

end InputPath

-- ---------------------------------------------------------------------------
-- The channel
-- ---------------------------------------------------------------------------

def ReleasesOnly : UInt8 → List Routed → Prop
  | _, [] => True
  | buttons, routed :: channel =>
    (Keeps buttons (Agent.pressedAfter routed.message buttons) ∨ routed.origin.releases = true) ∧
      ReleasesOnly (Agent.pressedAfter routed.message buttons) channel

theorem pressedBy_append (buttons : UInt8) (channel : List Routed) (routed : Routed) :
    pressedBy buttons (channel ++ [routed]) =
      Agent.pressedAfter routed.message (pressedBy buttons channel) := by
  simp [pressedBy]

theorem ReleasesOnly.append {routed : Routed} (h : ReleasesOnly buttons channel)
    (hrouted : Keeps (pressedBy buttons channel)
        (Agent.pressedAfter routed.message (pressedBy buttons channel)) ∨
      routed.origin.releases = true) :
    ReleasesOnly buttons (channel ++ [routed]) := by
  induction channel generalizing buttons with
  | nil => exact ⟨hrouted, trivial⟩
  | cons first channel ih => exact ⟨h.1, ih h.2 hrouted⟩

-- ---------------------------------------------------------------------------
-- The invariant
-- ---------------------------------------------------------------------------

namespace InputPath

/-- What the router says of the messages sent so far, and of the one to come. -/
def Agrees (router : UInt8) (pressed : UInt8) : Option Routed → Prop
  | none => pressed = router
  | some routed =>
    Agent.pressedAfter routed.message pressed = router ∧
      (Keeps pressed router ∨ routed.origin.releases = true)

/-- Between the look and the keepalive the messages sent leave no button held, and
only an unsent press makes the router hold one. -/
structure Resting (s : InputPath) : Prop where
  pressed : s.pressed = 0
  router : s.unsent.all (!·.origin.presses) = true → s.router.pointerButtons = 0

structure Inv (s : InputPath) : Prop where
  five : FiveButtons s.router.pointerButtons
  agrees : Agrees s.router.pointerButtons s.pressed s.unsent
  resting : s.idle = true → s.Resting
  channel : ReleasesOnly s.buttons s.channel
  cleared : ∀ origin ∈ s.cleared, origin.releases = true

variable {s : InputPath}

theorem inv_start (config : HidConfig) (kernel : Nat → Answer) (width height : UInt16)
    (swapAltCommand : Bool) (nextKeepaliveAt : UInt64) :
    Inv (start config kernel width height swapAltCommand nextKeepaliveAt) where
  five := by
    show FiveButtons 0
    decide
  agrees := HidState.buttons_hidReleaseAll (hidInit config kernel)
  resting hidle := by cases hidle
  channel := trivial
  cleared := by simp [start]

theorem route_inv (h : s.Inv) (event : ClientEvent) (hunsent : s.unsent = none) :
    Inv { s with
      router := (s.router.handle event).1
      unsent := (s.router.handle event).2.map (Routed.mk (.client event)) } := by
  have hagrees := h.agrees
  rw [hunsent] at hagrees
  have hroutes := handle_routes h.five event
  refine ⟨hroutes.five, ?_, fun hidle => ⟨(h.resting hidle).pressed, ?_⟩, h.channel, h.cleared⟩
  · show Agrees (s.router.handle event).1.pointerButtons s.pressed _
    rw [show s.pressed = s.router.pointerButtons from hagrees]
    cases hmessage : (s.router.handle event).2 with
    | none => exact (hroutes.silent hmessage).symm
    | some message => exact ⟨hroutes.message message hmessage, hroutes.keeps⟩
  · have hnone : s.router.pointerButtons = 0 := hagrees.symm.trans (h.resting hidle).pressed
    cases hmessage : (s.router.handle event).2 with
    | none => exact fun _ => (hroutes.silent hmessage).trans hnone
    | some message => exact fun hpresses => handle_unpressed hnone ((Bool.not_eq_true' _).mp hpresses)

theorem send_inv (h : s.Inv) {routed : Routed} (hunsent : s.unsent = some routed)
    (hseparate : s.Separate .send) :
    Inv { s with unsent := none, channel := s.channel ++ [routed] } := by
  have hagrees := h.agrees
  rw [hunsent] at hagrees
  obtain ⟨hpressed, hkeeps⟩ := hagrees
  have hafter : pressedBy s.buttons (s.channel ++ [routed]) = s.router.pointerButtons :=
    (pressedBy_append _ _ _).trans hpressed
  refine ⟨h.five, hafter, fun hidle => ?_, h.channel.append (hpressed ▸ hkeeps), h.cleared⟩
  have hnone := (h.resting hidle).router (hseparate hidle)
  exact ⟨hafter.trans hnone, fun _ => hnone⟩

theorem pressedAfter_keepaliveMessage (dx : Int8) (buttons : UInt8) :
    Agent.pressedAfter (keepaliveMessage dx) buttons = 0 := by
  show (0 : UInt8) &&& hidTouchButtonsMask = 0
  decide

theorem sendKeepalive_inv (h : s.Inv) (hidle : s.idle = true) : s.sendKeepalive.Inv := by
  have hpressed := (h.resting hidle).pressed
  have hafter : s.sendKeepalive.pressed = 0 :=
    (pressedBy_append _ _ _).trans (pressedAfter_keepaliveMessage _ _)
  refine ⟨h.five, ?_, nofun, h.channel.append (.inl ?_), h.cleared⟩
  · rw [hafter, ← hpressed]
    exact h.agrees
  · rw [show pressedBy s.buttons s.channel = 0 from hpressed, pressedAfter_keepaliveMessage]
    exact keeps_refl 0

theorem setAgent_inv (h : s.Inv) {agent : Agent} {channel : List Routed} {origin : Origin}
    (hpressed : pressedBy agent.hid.input.buttons channel = s.pressed)
    (hchannel : ReleasesOnly agent.hid.input.buttons channel)
    (hkeeps : Keeps s.buttons agent.hid.input.buttons ∨ origin.releases = true) :
    Inv ({ s with channel }.setAgent agent origin) := by
  refine ⟨h.five, ?_, fun hidle => ⟨hpressed.trans (h.resting hidle).pressed, (h.resting hidle).router⟩,
    hchannel, ?_⟩
  · show Agrees _ (pressedBy agent.hid.input.buttons channel) _
    rw [hpressed]
    exact h.agrees
  · show ∀ cleared ∈ (if Keeps s.buttons agent.hid.input.buttons then s.cleared
      else s.cleared ++ [origin]), cleared.releases = true
    split
    · exact h.cleared
    · rename_i hclears
      simpa [or_imp, forall_and] using ⟨h.cleared, hkeeps.resolve_left hclears⟩

theorem handle_inv (h : s.Inv) {routed : Routed} {channel : List Routed}
    (hchannel : s.channel = routed :: channel)
    (hdelivers : s.agent.delivers routed.message = true) :
    Inv ({ s with channel }.setAgent (s.agent.handleControl routed.message) routed.origin) := by
  have hbuttons := Agent.buttons_handleControl hdelivers
  have hreleases := h.channel
  rw [hchannel] at hreleases
  obtain ⟨hkeeps, hrest⟩ := hreleases
  refine setAgent_inv h ?_ ?_ ?_
  · rw [hbuttons, pressed, hchannel]
    rfl
  · rw [hbuttons]
    exact hrest
  · rw [hbuttons]
    exact hkeeps

theorem pump_inv (h : s.Inv) (hpumps : s.agent.pumps = true) :
    (s.setAgent s.agent.pumpHid .loop).Inv := by
  have hbuttons := Agent.buttons_pumpHid hpumps
  refine setAgent_inv h (by rw [hbuttons]; rfl) (by rw [hbuttons]; exact h.channel) (.inl ?_)
  rw [hbuttons]
  exact keeps_refl _

theorem eq_zero_of_keeps {buttons : UInt8} (h : Keeps buttons 0) : buttons = 0 := by
  rw [Keeps, UInt8.or_zero] at h
  exact h

/-- The router is idle, and no release is on its way: nothing is held by what was sent. -/
theorem Inv.resting_of_idle (h : s.Inv) (hnone : s.router.pointerButtons = 0)
    (hunsent : s.unsent.all (!·.origin.releases) = true) : s.Resting := by
  refine ⟨?_, fun _ => hnone⟩
  have hagrees := h.agrees
  rw [hnone] at hagrees
  cases hrouted : s.unsent with
  | none =>
    rw [hrouted] at hagrees
    exact hagrees
  | some routed =>
    rw [hrouted] at hagrees hunsent
    have hnot : routed.origin.releases ≠ true := by simpa using hunsent
    exact eq_zero_of_keeps (hagrees.2.resolve_right hnot)

theorem Inv.setIdle (h : s.Inv) (nextKeepaliveAt : UInt64) (idle : Bool)
    (hresting : idle = true → s.Resting) : Inv { s with nextKeepaliveAt, idle } :=
  ⟨h.five, h.agrees, fun hidle => ⟨(hresting hidle).pressed, (hresting hidle).router⟩, h.channel,
    h.cleared⟩

theorem look_inv (h : s.Inv) (now : UInt64) (httpIdle : Bool)
    (hseparate : s.Separate (.look now httpIdle)) : (s.look now httpIdle).Inv := by
  have hunsent : (s.look now httpIdle).idle = true → _ := hseparate
  unfold look at hunsent ⊢
  split
  · exact h
  case isFalse hdue =>
    rw [if_neg hdue] at hunsent
    refine h.setIdle _ _ fun hidle => h.resting_of_idle ?_ (hunsent hidle)
    simp only [Bool.and_eq_true, beq_iff_eq] at hidle
    exact hidle.1.1.1

theorem step_inv (s : InputPath) (event : InputEvent) (s' : InputPath) (h : s.Inv)
    (hseparate : s.Separate event) (hstep : s.step event = some s') : s'.Inv := by
  cases event with
  | route event =>
    simp only [step] at hstep
    split at hstep <;> cases hstep
    rename_i hnone
    exact route_inv h event (Option.isNone_iff_eq_none.mp hnone)
  | send =>
    obtain ⟨routed, hunsent, rfl⟩ := Option.map_eq_some_iff.mp hstep
    exact send_inv h hunsent hseparate
  | look now httpIdle =>
    simp only [step] at hstep
    split at hstep <;> cases hstep
    exact look_inv h now httpIdle hseparate
  | sendKeepalive =>
    simp only [step] at hstep
    split at hstep <;> cases hstep
    rename_i hidle
    exact sendKeepalive_inv h hidle
  | handle =>
    simp only [step] at hstep
    split at hstep
    · cases hstep
    · rename_i hchannel
      split at hstep <;> cases hstep
      rename_i hdelivers
      exact handle_inv h hchannel hdelivers
  | pump =>
    simp only [step] at hstep
    split at hstep <;> cases hstep
    rename_i hpumps
    exact pump_inv h hpumps

/-- In every run without HID failures in which no release is routed and unsent when
`server_keepalive` finds the client idle, and no press is sent before the keepalive
is: a button goes up at the agent only for a release, synchronize or release-all
event of the client. -/
theorem buttons_cleared_by_releases (config : HidConfig) (kernel : Nat → Answer)
    (width height : UInt16) (swapAltCommand : Bool) (nextKeepaliveAt : UInt64)
    (events : List InputEvent) (s : InputPath)
    (hseparate : Machine.Along step Separate
      (start config kernel width height swapAltCommand nextKeepaliveAt) events)
    (hrun : Machine.run step (start config kernel width height swapAltCommand nextKeepaliveAt)
      events = some s) :
    ∀ origin ∈ s.cleared, ∃ event, origin = .client event ∧ event.releases = true := by
  have h : s.Inv := Machine.run_invariant step_inv (inv_start ..) hseparate hrun
  intro origin horigin
  have hreleases := h.cleared origin horigin
  cases origin with
  | client event => exact ⟨event, rfl, hreleases⟩
  | keepalive => cases hreleases
  | loop => cases hreleases

def leftDown : ClientEvent := .mouse (ptrFlagsDown ||| ptrFlagsButton1) 5 5
def leftUp : ClientEvent := .mouse ptrFlagsButton1 5 5

/-- A click and a look. Before the keepalive is sent the pointer moves, and the
button goes down again; that press is sent behind the keepalive. -/
def clickThenKeepalive : List InputEvent :=
  [.route leftDown, .send, .handle, .route leftUp, .send, .look 10000 true, .route (.mouse 0x0800 6 6),
    .send, .route leftDown, .sendKeepalive, .send, .handle, .handle, .handle, .handle, .pump]

theorem clickThenKeepalive_cleared :
    ∃ s, Machine.run step (start {} (fun _ => {}) 1920 1080 false 10000) clickThenKeepalive = some s ∧
      s.buttons = 1 ∧ s.cleared = [.client leftUp] ∧
      ∀ origin ∈ s.cleared, ∃ event, origin = .client event ∧ event.releases = true := by
  have hcleared : (Machine.run step (start {} (fun _ => {}) 1920 1080 false 10000)
      clickThenKeepalive).map (fun s => (s.buttons, s.cleared)) = some (1, [.client leftUp]) := by
    decide +kernel
  obtain ⟨s, hrun, hs⟩ := Option.map_eq_some_iff.mp hcleared
  obtain ⟨hbuttons, hs⟩ := Prod.mk.inj hs
  refine ⟨s, hrun, hbuttons, hs, ?_⟩
  exact buttons_cleared_by_releases _ _ _ _ _ _ clickThenKeepalive s (by decide +kernel) hrun

/-- The button goes down between the look and the keepalive, or its release is
routed before the look and not sent. -/
theorem keepalive_releases_button :
    (Machine.run step (start {} (fun _ => {}) 1920 1080 false 10000)
      [.look 10000 true, .route leftDown, .send, .sendKeepalive, .handle, .handle]).map
        (fun s => (s.router.pointerButtons, s.buttons, s.cleared)) =
      some (1, 0, [.keepalive]) ∧
    (Machine.run step (start {} (fun _ => {}) 1920 1080 false 10000)
      [.route leftDown, .send, .handle, .route leftUp, .look 10000 true, .sendKeepalive, .handle]).map
        (fun s => (s.unsent.isSome, s.buttons, s.cleared)) =
      some (true, 0, [.keepalive]) := by
  decide +kernel

end InputPath

end NanokvmRdp.Gateway
