import NanokvmRdp.Lib.BigEndian

/-!
# The RTP packetizer

`emit_packet`, `rtp_h264_packetize_marker` and
`rtp_h264_packetize_access_unit`. The packet callback is a parameter and may
refuse any packet. What a call hands to `emit_packet` is a list fixed by its
arguments (`nalPackets`), of which a refusal cuts off the end.

Loops that move an offset through a buffer are written on the rest of the
buffer from that offset on.
-/

namespace NanokvmRdp.Rtp

def rtpHeaderSize : Nat := 12

def rtpPayloadType : UInt8 := 96

def rtpH264DefaultMtu : Nat := 1200

def rtpH264MaxNal : Nat := 2 * 1024 * 1024

/-- A packetizer, with the bounds `rtp_h264_packetizer_init` puts on its mtu. -/
structure RtpH264Packetizer where
  sequence : UInt16
  ssrc : UInt32
  mtu : UInt16
  le_mtu : rtpHeaderSize + 3 ≤ mtu.toNat
  mtu_le : mtu.toNat ≤ rtpH264DefaultMtu

def effectiveMtu (mtu : UInt16) : UInt16 :=
  let chosen := if mtu.toNat < rtpHeaderSize + 3 then rtpH264DefaultMtu.toUInt16 else mtu
  if chosen.toNat > rtpH264DefaultMtu then rtpH264DefaultMtu.toUInt16 else chosen

theorem toNat_effectiveMtu (mtu : UInt16) :
    (effectiveMtu mtu).toNat = if mtu.toNat < 15 then 1200 else min mtu.toNat 1200 := by
  have hd : rtpH264DefaultMtu.toUInt16.toNat = 1200 := rfl
  unfold effectiveMtu
  by_cases hsmall : mtu.toNat < 15
  · simp only [rtpHeaderSize, Nat.reduceAdd, hsmall, if_true, hd]
    exact hd
  · simp only [rtpHeaderSize, Nat.reduceAdd, hsmall, if_false]
    by_cases hlarge : mtu.toNat > rtpH264DefaultMtu
    · rw [if_pos hlarge, hd]
      exact (Nat.min_eq_right (Nat.le_of_lt hlarge)).symm
    · rw [if_neg hlarge]
      exact (Nat.min_eq_left (Nat.not_lt.mp hlarge)).symm

theorem le_effectiveMtu (mtu : UInt16) : rtpHeaderSize + 3 ≤ (effectiveMtu mtu).toNat := by
  rw [toNat_effectiveMtu, rtpHeaderSize]
  split <;> omega

theorem effectiveMtu_le (mtu : UInt16) : (effectiveMtu mtu).toNat ≤ rtpH264DefaultMtu := by
  rw [toNat_effectiveMtu, rtpH264DefaultMtu]
  split <;> omega

def rtpH264PacketizerInit (mtu : UInt16) (ssrc : UInt32) : RtpH264Packetizer :=
  ⟨1, ssrc, effectiveMtu mtu, le_effectiveMtu mtu, effectiveMtu_le mtu⟩

def rtpPacket (p : RtpH264Packetizer) (payload : List UInt8) (marker : Bool) (timestamp : UInt32) :
    List UInt8 :=
  [0x80, rtpPayloadType ||| if marker then 0x80 else 0] ++ BigEndian.writeU16 p.sequence ++
    BigEndian.writeU32 timestamp ++ BigEndian.writeU32 p.ssrc ++ payload

theorem length_rtpPacket (p : RtpH264Packetizer) (payload : List UInt8) (marker : Bool)
    (timestamp : UInt32) :
    (rtpPacket p payload marker timestamp).length = payload.length + rtpHeaderSize := by
  simp only [rtpPacket, List.length_append, BigEndian.writeU16, BigEndian.writeU32, List.length_cons,
    List.length_nil, rtpHeaderSize]
  omega

/-- The sequence number is used up whether or not the callback takes the packet. -/
def emitPacket (p : RtpH264Packetizer) (payload : List UInt8) (marker : Bool) (timestamp : UInt32)
    (callback : σ → List UInt8 → Bool × σ) (context : σ) : Bool × RtpH264Packetizer × σ :=
  if payload.length + rtpHeaderSize > rtpH264DefaultMtu then (false, p, context)
  else
    let (ok, context) := callback context (rtpPacket p payload marker timestamp)
    (ok, { p with sequence := p.sequence + 1 }, context)

def fuHeader (header : UInt8) (first last : Bool) : List UInt8 :=
  [(header &&& 0xe0) ||| 28,
    (header &&& 0x1f) ||| (if first then 0x80 else 0) ||| (if last then 0x40 else 0)]

/-- The fragmentation loop. `rest` is the NAL from `offset` on, and `first`
says that `offset` is 1. -/
def packetizeFragments (limit : Nat) (header : UInt8) (timestamp : UInt32) (marker : Bool)
    (callback : σ → List UInt8 → Bool × σ) :
    Nat → Bool → List UInt8 → RtpH264Packetizer → σ → Bool × RtpH264Packetizer × σ
  | 0, _, _, p, context => (true, p, context)
  | fuel + 1, first, rest, p, context =>
    if rest = [] then (true, p, context)
    else
      let last := decide (rest.length ≤ limit)
      match emitPacket p (fuHeader header first last ++ rest.take limit) (marker && last) timestamp
          callback context with
      | (false, p, context) => (false, p, context)
      | (true, p, context) =>
        packetizeFragments limit header timestamp marker callback fuel false (rest.drop limit) p context

def rtpH264PacketizeMarker (p : RtpH264Packetizer) (nal : List UInt8) (timestamp : UInt32)
    (marker : Bool) (callback : σ → List UInt8 → Bool × σ) (context : σ) :
    Bool × RtpH264Packetizer × σ :=
  match nal with
  | [] => (false, p, context)
  | header :: body =>
    if nal.length > rtpH264MaxNal then (false, p, context)
    else
      let payloadLimit := p.mtu.toNat - rtpHeaderSize
      if nal.length ≤ payloadLimit then emitPacket p nal marker timestamp callback context
      else if payloadLimit - 2 = 0 then (false, p, context)
      else packetizeFragments (payloadLimit - 2) header timestamp marker callback body.length true body
        p context

def rtpH264Packetize (p : RtpH264Packetizer) (nal : List UInt8) (timestamp : UInt32)
    (callback : σ → List UInt8 → Bool × σ) (context : σ) : Bool × RtpH264Packetizer × σ :=
  rtpH264PacketizeMarker p nal timestamp true callback context

/-- The start code at the front of `data`, 0 if there is none. -/
def startCodeLength : List UInt8 → Nat
  | 0 :: 0 :: 1 :: _ => 3
  | 0 :: 0 :: 0 :: 1 :: _ => 4
  | _ => 0

def skipToStartCode : List UInt8 → List UInt8
  | [] => []
  | b :: rest => if startCodeLength (b :: rest) ≠ 0 then b :: rest else skipToStartCode rest

def splitNal : List UInt8 → List UInt8 × List UInt8
  | [] => ([], [])
  | b :: rest =>
    if startCodeLength (b :: rest) = 0 then
      let (nal, next) := splitNal rest
      (b :: nal, next)
    else ([], b :: rest)

def packetizeNals (timestamp : UInt32) (callback : σ → List UInt8 → Bool × σ) :
    Nat → Bool → List UInt8 → RtpH264Packetizer → σ → Bool × RtpH264Packetizer × σ
  | 0, sent, _, p, context => (sent, p, context)
  | fuel + 1, sent, rest, p, context =>
    if rest = [] then (sent, p, context)
    else if startCodeLength rest = 0 then (false, p, context)
    else
      let (nal, next) := splitNal (rest.drop (startCodeLength rest))
      if nal = [] then packetizeNals timestamp callback fuel sent next p context
      else match rtpH264PacketizeMarker p nal timestamp next.isEmpty callback context with
        | (false, p, context) => (false, p, context)
        | (true, p, context) => packetizeNals timestamp callback fuel true next p context

def rtpH264PacketizeAccessUnit (p : RtpH264Packetizer) (data : List UInt8) (timestamp : UInt32)
    (callback : σ → List UInt8 → Bool × σ) (context : σ) : Bool × RtpH264Packetizer × σ :=
  if data = [] then (false, p, context)
  else if skipToStartCode data = [] then rtpH264Packetize p data timestamp callback context
  else packetizeNals timestamp callback data.length false (skipToStartCode data) p context

-- ---------------------------------------------------------------------------
-- What is handed to emit_packet
-- ---------------------------------------------------------------------------

structure Outgoing where
  payload : List UInt8
  marker : Bool
  deriving DecidableEq, Repr

def emitAll (timestamp : UInt32) (callback : σ → List UInt8 → Bool × σ) :
    List Outgoing → RtpH264Packetizer → σ → Bool × RtpH264Packetizer × σ
  | [], p, context => (true, p, context)
  | out :: outs, p, context =>
    match emitPacket p out.payload out.marker timestamp callback context with
    | (false, p, context) => (false, p, context)
    | (true, p, context) => emitAll timestamp callback outs p context

def fragmentPackets (limit : Nat) (header : UInt8) (marker : Bool) :
    Nat → Bool → List UInt8 → List Outgoing
  | 0, _, _ => []
  | fuel + 1, first, rest =>
    if rest = [] then []
    else
      let last := decide (rest.length ≤ limit)
      ⟨fuHeader header first last ++ rest.take limit, marker && last⟩ ::
        fragmentPackets limit header marker fuel false (rest.drop limit)

theorem fragmentPackets_last (header : UInt8) (marker : Bool) (fuel : Nat) (first : Bool)
    (hne : rest ≠ []) (h : rest.length ≤ limit) :
    fragmentPackets limit header marker (fuel + 1) first rest =
      [⟨fuHeader header first true ++ rest, marker⟩] := by
  have hnil : fragmentPackets limit header marker fuel false [] = [] := by cases fuel <;> rfl
  rw [fragmentPackets, if_neg hne, List.drop_eq_nil_of_le h, List.take_of_length_le h, hnil]
  simp [h]

theorem fragmentPackets_more (header : UInt8) (marker : Bool) (fuel : Nat) (first : Bool)
    (hne : rest ≠ []) (h : ¬ rest.length ≤ limit) :
    fragmentPackets limit header marker (fuel + 1) first rest =
      ⟨fuHeader header first false ++ rest.take limit, false⟩ ::
        fragmentPackets limit header marker fuel false (rest.drop limit) := by
  rw [fragmentPackets, if_neg hne]
  simp [h]

def nalPackets (mtu : Nat) (nal : List UInt8) (marker : Bool) : List Outgoing :=
  match nal with
  | [] => []
  | header :: body =>
    if nal.length ≤ mtu - rtpHeaderSize then [⟨nal, marker⟩]
    else fragmentPackets (mtu - rtpHeaderSize - 2) header marker body.length true body

/-- The packets of an access unit; only its last one has the marker. -/
def unitPackets (mtu : Nat) : List (List UInt8) → List Outgoing
  | [] => []
  | nal :: nals => nalPackets mtu nal nals.isEmpty ++ unitPackets mtu nals

def RtpH264Packetizer.next (p : RtpH264Packetizer) : RtpH264Packetizer :=
  { p with sequence := p.sequence + 1 }

def RtpH264Packetizer.after (p : RtpH264Packetizer) : Nat → RtpH264Packetizer
  | 0 => p
  | n + 1 => p.next.after n

def packetsFrom (p : RtpH264Packetizer) (timestamp : UInt32) : List Outgoing → List (List UInt8)
  | [] => []
  | out :: outs => rtpPacket p out.payload out.marker timestamp :: packetsFrom p.next timestamp outs

@[simp] theorem RtpH264Packetizer.mtu_after (p : RtpH264Packetizer) (n : Nat) :
    (p.after n).mtu = p.mtu := by
  induction n generalizing p with
  | zero => rfl
  | succ n ih => exact ih p.next

@[simp] theorem RtpH264Packetizer.ssrc_after (p : RtpH264Packetizer) (n : Nat) :
    (p.after n).ssrc = p.ssrc := by
  induction n generalizing p with
  | zero => rfl
  | succ n ih => exact ih p.next

theorem RtpH264Packetizer.after_add (p : RtpH264Packetizer) (m n : Nat) :
    p.after (m + n) = (p.after m).after n := by
  induction m generalizing p with
  | zero => rw [Nat.zero_add, after]
  | succ m ih => rw [Nat.add_right_comm, after, ih, after]

theorem after_sequence (p : RtpH264Packetizer) (n : Nat) :
    (p.after n).sequence = p.sequence + UInt16.ofNat n := by
  induction n generalizing p with
  | zero => simp [RtpH264Packetizer.after]
  | succ n ih =>
    rw [RtpH264Packetizer.after, ih, RtpH264Packetizer.next, UInt16.add_assoc, Nat.add_comm n 1,
      UInt16.ofNat_add]
    rfl

@[simp] theorem length_packetsFrom (p : RtpH264Packetizer) (timestamp : UInt32)
    (outs : List Outgoing) : (packetsFrom p timestamp outs).length = outs.length := by
  induction outs generalizing p with
  | nil => rfl
  | cons out outs ih => rw [packetsFrom, List.length_cons, ih, List.length_cons]

theorem packetsFrom_append (p : RtpH264Packetizer) (timestamp : UInt32) (outs more : List Outgoing) :
    packetsFrom p timestamp (outs ++ more) =
      packetsFrom p timestamp outs ++ packetsFrom (p.after outs.length) timestamp more := by
  induction outs generalizing p with
  | nil => rfl
  | cons out outs ih => rw [List.cons_append, packetsFrom, ih]; rfl

theorem packetsFrom_getElem? (p : RtpH264Packetizer) (timestamp : UInt32) (outs : List Outgoing)
    (i : Nat) : (packetsFrom p timestamp outs)[i]? =
      outs[i]?.map fun out => rtpPacket (p.after i) out.payload out.marker timestamp := by
  induction outs generalizing p i with
  | nil => rfl
  | cons out outs ih =>
    cases i with
    | zero => rfl
    | succ i =>
      rw [packetsFrom, List.getElem?_cons_succ, ih, List.getElem?_cons_succ]
      rfl

theorem emitAll_append (timestamp : UInt32) (callback : σ → List UInt8 → Bool × σ)
    (outs more : List Outgoing) (p : RtpH264Packetizer) (context : σ) :
    emitAll timestamp callback (outs ++ more) p context =
      match emitAll timestamp callback outs p context with
      | (false, p, context) => (false, p, context)
      | (true, p, context) => emitAll timestamp callback more p context := by
  induction outs generalizing p context with
  | nil => rfl
  | cons out outs ih =>
    simp only [List.cons_append, emitAll]
    rcases emitPacket p out.payload out.marker timestamp callback context with ⟨ok, p', context'⟩
    cases ok with
    | false => rfl
    | true => exact ih p' context'

theorem packetizeFragments_eq (limit : Nat) (header : UInt8) (timestamp : UInt32) (marker : Bool)
    (callback : σ → List UInt8 → Bool × σ) (fuel : Nat) (first : Bool) (rest : List UInt8)
    (p : RtpH264Packetizer) (context : σ) :
    packetizeFragments limit header timestamp marker callback fuel first rest p context =
      emitAll timestamp callback (fragmentPackets limit header marker fuel first rest) p context := by
  induction fuel generalizing first rest p context with
  | zero => rfl
  | succ fuel ih =>
    rw [packetizeFragments, fragmentPackets]
    split
    · rfl
    · simp only [emitAll]
      split
      · rfl
      · exact ih ..

theorem rtpH264PacketizeMarker_eq (p : RtpH264Packetizer) (nal : List UInt8) (timestamp : UInt32)
    (marker : Bool) (callback : σ → List UInt8 → Bool × σ) (context : σ) (hne : nal ≠ [])
    (hlen : nal.length ≤ rtpH264MaxNal) :
    rtpH264PacketizeMarker p nal timestamp marker callback context =
      emitAll timestamp callback (nalPackets p.mtu.toNat nal marker) p context := by
  cases nal with
  | nil => exact absurd rfl hne
  | cons header body =>
    have hmtu := p.le_mtu
    simp only [rtpHeaderSize] at hmtu
    simp only [rtpH264PacketizeMarker, nalPackets]
    rw [if_neg (Nat.not_lt.mpr hlen)]
    split
    · simp only [emitAll]
      rcases emitPacket p (header :: body) marker timestamp callback context with ⟨ok, p', context'⟩
      cases ok <;> rfl
    · rw [if_neg (by simp only [rtpHeaderSize]; omega), packetizeFragments_eq]

theorem emitPacket_mtu (p : RtpH264Packetizer) (payload : List UInt8) (marker : Bool)
    (timestamp : UInt32) (callback : σ → List UInt8 → Bool × σ) (context : σ) :
    (emitPacket p payload marker timestamp callback context).2.1.mtu = p.mtu := by
  unfold emitPacket
  split <;> rfl

theorem emitAll_mtu (timestamp : UInt32) (callback : σ → List UInt8 → Bool × σ)
    (outs : List Outgoing) (p : RtpH264Packetizer) (context : σ) :
    (emitAll timestamp callback outs p context).2.1.mtu = p.mtu := by
  induction outs generalizing p context with
  | nil => rfl
  | cons out outs ih =>
    have hone := emitPacket_mtu p out.payload out.marker timestamp callback context
    rw [emitAll]
    split
    · rename_i heq
      rw [heq] at hone
      exact hone
    · rename_i heq
      rw [heq] at hone
      exact (ih _ _).trans hone

-- ---------------------------------------------------------------------------
-- Sizes and markers of the packets
-- ---------------------------------------------------------------------------

def Outgoing.Fits (mtu : Nat) (out : Outgoing) : Prop :=
  out.payload ≠ [] ∧ out.payload.length + rtpHeaderSize ≤ mtu

theorem packetsFrom_fits (h : ∀ out ∈ outs, out.Fits mtu)
    (hmem : packet ∈ packetsFrom p timestamp outs) : packet ≠ [] ∧ packet.length ≤ mtu := by
  induction outs generalizing p with
  | nil => cases hmem
  | cons out outs ih =>
    rcases List.mem_cons.mp hmem with rfl | hmem
    · have hfits := (h out List.mem_cons_self).2
      refine ⟨List.cons_ne_nil _ _, ?_⟩
      rw [length_rtpPacket]
      exact hfits
    · exact ih (fun o ho => h o (List.mem_cons_of_mem _ ho)) hmem

theorem fragmentPackets_fits (limit : Nat) (header : UInt8) (marker : Bool) (fuel : Nat)
    (first : Bool) (rest : List UInt8) :
    ∀ out ∈ fragmentPackets limit header marker fuel first rest,
      out.payload ≠ [] ∧ out.payload.length ≤ limit + 2 := by
  induction fuel generalizing first rest with
  | zero => simp [fragmentPackets]
  | succ fuel ih =>
    rw [fragmentPackets]
    split
    · simp
    · intro out hmem
      rcases List.mem_cons.mp hmem with rfl | hmem
      · refine ⟨List.cons_ne_nil _ _, ?_⟩
        simp only [fuHeader, List.length_append, List.length_cons, List.length_nil, List.length_take]
        omega
      · exact ih _ _ out hmem

theorem nalPackets_fits (hmtu : rtpHeaderSize + 3 ≤ mtu) (nal : List UInt8) (marker : Bool) :
    ∀ out ∈ nalPackets mtu nal marker, out.Fits mtu := by
  intro out hmem
  unfold nalPackets at hmem
  split at hmem
  · cases hmem
  · split at hmem
    · rename_i hle
      obtain rfl := List.mem_singleton.mp hmem
      exact ⟨List.cons_ne_nil _ _, by simp only [rtpHeaderSize] at *; omega⟩
    · obtain ⟨hne, hle⟩ := fragmentPackets_fits _ _ _ _ _ _ out hmem
      exact ⟨hne, by simp only [rtpHeaderSize] at *; omega⟩

theorem unitPackets_fits (hmtu : rtpHeaderSize + 3 ≤ mtu) (nals : List (List UInt8)) :
    ∀ out ∈ unitPackets mtu nals, out.Fits mtu := by
  induction nals with
  | nil => simp [unitPackets]
  | cons nal nals ih =>
    intro out hmem
    rcases List.mem_append.mp hmem with hmem | hmem
    · exact nalPackets_fits hmtu nal _ out hmem
    · exact ih out hmem

/-- The last of the packets has this marker and no other has one. -/
def MarkedLast (marker : Bool) (outs : List Outgoing) : Prop :=
  ∃ init last, outs = init ++ [last] ∧ (∀ out ∈ init, out.marker = false) ∧ last.marker = marker

theorem MarkedLast.append (h : MarkedLast false outs) (hmore : MarkedLast marker more) :
    MarkedLast marker (outs ++ more) := by
  obtain ⟨init, last, rfl, hinit, hlast⟩ := h
  obtain ⟨init', last', rfl, hinit', hlast'⟩ := hmore
  refine ⟨init ++ [last] ++ init', last', by simp, ?_, hlast'⟩
  simp only [List.mem_append, List.mem_singleton]
  rintro out ((hmem | rfl) | hmem)
  · exact hinit out hmem
  · exact hlast
  · exact hinit' out hmem

theorem fragmentPackets_marked (hlimit : 0 < limit) (header : UInt8) (marker : Bool)
    (hfuel : rest.length ≤ fuel) (first : Bool) (hne : rest ≠ []) :
    MarkedLast marker (fragmentPackets limit header marker fuel first rest) := by
  induction fuel generalizing first rest with
  | zero => exact absurd (List.eq_nil_of_length_eq_zero (Nat.le_zero.mp hfuel)) hne
  | succ fuel ih =>
    have hpos := List.length_pos_of_ne_nil hne
    by_cases hlast : rest.length ≤ limit
    · rw [fragmentPackets_last _ _ _ _ hne hlast]
      exact ⟨[], _, rfl, by simp, rfl⟩
    · have hdrop : rest.drop limit ≠ [] := by
        rw [Ne, List.drop_eq_nil_iff]
        exact hlast
      have hshort : (rest.drop limit).length ≤ fuel := by
        rw [List.length_drop]
        omega
      obtain ⟨init, last, heq, hinit, hmark⟩ := ih hshort false hdrop
      rw [fragmentPackets_more _ _ _ _ hne hlast, heq]
      refine ⟨_ :: init, last, rfl, ?_, hmark⟩
      intro out hmem
      rcases List.mem_cons.mp hmem with rfl | hmem
      · rfl
      · exact hinit out hmem

theorem nalPackets_marked (hmtu : rtpHeaderSize + 3 ≤ mtu) (marker : Bool) (hne : nal ≠ []) :
    MarkedLast marker (nalPackets mtu nal marker) := by
  cases nal with
  | nil => exact absurd rfl hne
  | cons header body =>
    rw [nalPackets]
    split
    · exact ⟨[], _, rfl, by simp, rfl⟩
    · rename_i hlong
      refine fragmentPackets_marked (by omega) _ _ (Nat.le_refl _) _ ?_
      rintro rfl
      simp only [rtpHeaderSize, List.length_cons, List.length_nil] at *
      omega

theorem unitPackets_marked (hmtu : rtpHeaderSize + 3 ≤ mtu) (hne : nals ≠ [])
    (hnals : ∀ nal ∈ nals, nal ≠ []) : MarkedLast true (unitPackets mtu nals) := by
  induction nals with
  | nil => exact absurd rfl hne
  | cons nal nals ih =>
    have hnal := nalPackets_marked hmtu nals.isEmpty (hnals nal List.mem_cons_self)
    cases nals with
    | nil => simpa [unitPackets] using hnal
    | cons next nals =>
      exact hnal.append (ih (List.cons_ne_nil _ _) fun n hn => hnals n (List.mem_cons_of_mem _ hn))

end NanokvmRdp.Rtp
