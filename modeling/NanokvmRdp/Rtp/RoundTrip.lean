import NanokvmRdp.Rtp.Client
import NanokvmRdp.Rtp.Link

/-!
# The video path returns what was sent

The packets of an access unit, fed in order to a client that expects the
first of them, return the unit at the last packet and nothing before it.
Whole streams of units follow by induction.
-/

namespace NanokvmRdp.Rtp

-- ---------------------------------------------------------------------------
-- Reading packet by packet
-- ---------------------------------------------------------------------------

def receivePackets : RtpClient → List (List UInt8) → List Returned × RtpClient
  | c, [] => ([], c)
  | c, packet :: packets =>
    match receivePacket c packet with
    | (some data, c) =>
      let (units, c') := receivePackets c packets
      (⟨data, c.accessUnitTimestamp, c.accessUnitSsrc, c.losses⟩ :: units, c')
    | (none, c) => receivePackets c packets

theorem receivePackets_append (c : RtpClient) (packets more : List (List UInt8)) :
    receivePackets c (packets ++ more) =
      ((receivePackets c packets).1 ++ (receivePackets (receivePackets c packets).2 more).1,
        (receivePackets (receivePackets c packets).2 more).2) := by
  induction packets generalizing c with
  | nil => rfl
  | cons packet packets ih =>
    rw [List.cons_append, receivePackets, receivePackets]
    rcases receivePacket c packet with ⟨_ | data, c'⟩ <;> simp only [ih, List.cons_append]

def datagramPackets (datagrams : List Datagram) : List (List UInt8) :=
  datagrams.filterMap fun
    | .packet (b :: bytes) => some (b :: bytes)
    | _ => none

theorem datagramPackets_map (h : ∀ packet ∈ packets, packet ≠ []) :
    datagramPackets (packets.map .packet) = packets := by
  induction packets with
  | nil => rfl
  | cons packet packets ih =>
    obtain ⟨b, bytes, rfl⟩ := List.exists_cons_of_ne_nil (h packet List.mem_cons_self)
    exact congrArg _ (ih fun p hp => h p (List.mem_cons_of_mem _ hp))

theorem receivePackets_quiet (h : receivePacket c packet = (none, c')) (packets : List (List UInt8)) :
    receivePackets c (packet :: packets) = receivePackets c' packets := by
  rw [receivePackets, h]

theorem receivePackets_return (h : receivePacket c packet = (some data, c'))
    (packets : List (List UInt8)) :
    receivePackets c (packet :: packets) =
      (⟨data, c'.accessUnitTimestamp, c'.accessUnitSsrc, c'.losses⟩ :: (receivePackets c' packets).1,
        (receivePackets c' packets).2) := by
  rw [receivePackets, h]

/-- What one read does: it takes packets that return nothing, and then one
that returns a unit, or it fails, or it is left waiting. -/
inductive Read (c : RtpClient) (datagrams : List Datagram) :
    ReadResult × RtpClient × List Datagram → Prop
  | unit (init : List (List UInt8)) : datagramPackets datagrams = init ++ last :: datagramPackets rest →
      receivePackets c init = ([], c₁) → receivePacket c₁ last = (some data, c') →
      rest.length < datagrams.length → Read c datagrams (.unit data, c', rest)
  | failed (init : List (List UInt8)) : datagramPackets datagrams = init ++ datagramPackets rest →
      receivePackets c init = ([], c') → rest.length < datagrams.length →
      Read c datagrams (.failed, c', rest)
  | waiting : receivePackets c (datagramPackets datagrams) = ([], c') →
      Read c datagrams (.waiting, c', [])

theorem Read.cons (h : Read c datagrams result)
    (hpackets : datagramPackets (d :: datagrams) = datagramPackets datagrams) :
    Read c (d :: datagrams) result := by
  cases h with
  | unit init hp hinit hlast hlen =>
    exact .unit init (hpackets.trans hp) hinit hlast (Nat.lt_succ_of_lt hlen)
  | failed init hp hinit hlen => exact .failed init (hpackets.trans hp) hinit (Nat.lt_succ_of_lt hlen)
  | waiting hp => exact .waiting (hpackets ▸ hp)

theorem Read.cons_packet (h : Read c' datagrams result)
    (hpackets : datagramPackets (d :: datagrams) = packet :: datagramPackets datagrams)
    (hquiet : receivePacket c packet = (none, c')) : Read c (d :: datagrams) result := by
  cases h with
  | unit init hp hinit hlast hlen =>
    refine .unit (packet :: init) (by rw [hpackets, hp]; rfl) ?_ hlast (Nat.lt_succ_of_lt hlen)
    rw [receivePackets_quiet hquiet, hinit]
  | failed init hp hinit hlen =>
    refine .failed (packet :: init) (by rw [hpackets, hp]; rfl) ?_ (Nat.lt_succ_of_lt hlen)
    rw [receivePackets_quiet hquiet, hinit]
  | waiting hp => exact .waiting (by rw [hpackets, receivePackets_quiet hquiet, hp])

theorem rtpClientReadH264_read (c : RtpClient) (datagrams : List Datagram)
    (hsize : ∀ packet ∈ datagramPackets datagrams, packet.length ≤ 1500) :
    Read c datagrams (rtpClientReadH264 c datagrams) := by
  induction datagrams generalizing c with
  | nil => exact .waiting rfl
  | cons d datagrams ih =>
    cases d with
    | interrupted => exact (ih c hsize).cons rfl
    | failed => exact .failed [] rfl rfl (Nat.lt_succ_self _)
    | packet bytes =>
      cases bytes with
      | nil => exact .failed [] rfl rfl (Nat.lt_succ_self _)
      | cons b bytes =>
        have hpackets : datagramPackets (.packet (b :: bytes) :: datagrams) =
            (b :: bytes) :: datagramPackets datagrams := rfl
        have hwhole : (b :: bytes).take 1500 = b :: bytes :=
          List.take_of_length_le (hsize _ (by rw [hpackets]; exact List.mem_cons_self))
        rw [rtpClientReadH264, hwhole]
        split
        · rename_i heq
          exact .unit [] rfl rfl heq (Nat.lt_succ_self _)
        · rename_i heq
          refine (ih _ fun packet hmem => hsize packet ?_).cons_packet hpackets heq
          rw [hpackets]
          exact List.mem_cons_of_mem _ hmem

theorem readUnits_eq (c : RtpClient) (hfuel : datagrams.length < fuel)
    (hsize : ∀ packet ∈ datagramPackets datagrams, packet.length ≤ 1500) :
    readUnits fuel c datagrams = receivePackets c (datagramPackets datagrams) := by
  induction fuel generalizing c datagrams with
  | zero => exact absurd hfuel (Nat.not_lt_zero _)
  | succ fuel ih =>
    have hread := rtpClientReadH264_read c datagrams hsize
    rw [readUnits]
    generalize rtpClientReadH264 c datagrams = result at hread ⊢
    cases hread with
    | unit init hp hinit hlast hlen =>
      rw [hp] at hsize
      rw [hp, receivePackets_append, hinit, receivePackets_return hlast]
      simp only
      rw [ih _ (by omega) fun packet hmem => hsize packet (by simp [hmem])]
      rfl
    | failed init hp hinit hlen =>
      rw [hp] at hsize
      rw [hp, receivePackets_append, hinit]
      simp only
      rw [ih _ (by omega) fun packet hmem => hsize packet (by simp [hmem])]
      rfl
    | waiting hp => rw [hp]

-- ---------------------------------------------------------------------------
-- The packets of one access unit
-- ---------------------------------------------------------------------------

/-- These packets complete a NAL unit: the client has gathered `unit` after
them, and the marker returns it. -/
def Arrives (c : RtpClient) (packets : List (List UInt8)) (sequence : UInt16) (lost : UInt32)
    (timestamp : UInt32) (unit : List UInt8) (ssrc : UInt32) (marker : Bool) : Prop :=
  ∃ c', receivePackets c packets = (if marker then [⟨unit, timestamp, ssrc, lost⟩] else [], c') ∧
    NalArrived c' sequence lost timestamp unit ssrc marker

theorem Arrives.single {sequence : UInt16}
    (h : receivePacket c packet = (if marker then some unit else none, c'))
    (harrived : NalArrived c' sequence lost timestamp unit ssrc marker) :
    Arrives c [packet] sequence lost timestamp unit ssrc marker := by
  refine ⟨c', ?_, harrived⟩
  cases marker with
  | false => exact receivePackets_quiet h []
  | true =>
    have hlost := (harrived.ready rfl).losses_eq
    rw [receivePackets_return h [], harrived.timestamp_eq rfl, harrived.ssrc_eq rfl, hlost]
    rfl

def Delivers (c : RtpClient) (packets : List (List UInt8)) (nal : List UInt8) (timestamp : UInt32)
    (marker : Bool) (ssrc : UInt32) (sequence : UInt16) : Prop :=
  ∃ init q payload r, packets = init ++ [rtpPacket q payload marker timestamp] ∧ q.ssrc = ssrc ∧
    receivePackets c init = ([], { c with reassembler := r }) ∧
    HandsOver { c with reassembler := r } (rtpPacket q payload marker timestamp) nal timestamp marker
      sequence

theorem fragments_deliver {c : RtpClient} (h : c.reassembler.Expects p.sequence) (hlimit : 0 < limit)
    (header : UInt8) (first marker : Bool) (fragments : List UInt8)
    (hcollected : first = true ∨ c.reassembler.Collected timestamp fragments)
    (hfuel : rest.length ≤ fuel) (hne : rest ≠ [])
    (hnal : (if first then [header] else fragments) ++ rest = nal)
    (hfit : nal.length ≤ rtpH264MaxNal) :
    Delivers c (packetsFrom p timestamp (fragmentPackets limit header marker fuel first rest)) nal
      timestamp marker p.ssrc
      (p.after (fragmentPackets limit header marker fuel first rest).length).sequence := by
  induction fuel generalizing c p first fragments rest with
  | zero => exact absurd (List.eq_nil_of_length_eq_zero (Nat.le_zero.mp hfuel)) hne
  | succ fuel ih =>
    have hpos := List.length_pos_of_ne_nil hne
    by_cases hlast : rest.length ≤ limit
    · rw [fragmentPackets_last _ _ _ _ hne hlast]
      exact ⟨[], p, _, c.reassembler, rfl, rfl, rfl,
        handsOver_lastFragment h header first hcollected hne marker hnal hfit⟩
    · -- A full fragment extends the collected bytes by the next `limit` bytes.
      rw [fragmentPackets_more _ _ _ _ hne hlast]
      have htake : rest.take limit ≠ [] := by
        rw [Ne, List.take_eq_nil_iff, not_or]
        exact ⟨by omega, hne⟩
      have hdrop : rest.drop limit ≠ [] := by
        rw [Ne, List.drop_eq_nil_iff]
        exact hlast
      have hlen := congrArg List.length hnal
      rw [List.length_append] at hlen
      obtain ⟨r₁, hquiet, hcollected₁, hexpects₁⟩ :=
        receivePacket_fragment h header first hcollected htake
          (by rw [List.length_append, List.length_take]; omega)
      obtain ⟨init, q, payload, r, hpackets, hssrc, hinit, hhands⟩ :=
        ih (c := { c with reassembler := r₁ }) (p := p.next) hexpects₁ false _ (.inr hcollected₁)
          (by rw [List.length_drop]; omega) hdrop
          (by rw [← hnal, if_neg Bool.false_ne_true, List.append_assoc, List.take_append_drop])
      refine ⟨_ :: init, q, payload, r, by rw [packetsFrom, hpackets]; rfl, hssrc, ?_, hhands⟩
      rw [receivePackets_quiet hquiet, hinit]

theorem nal_delivers {c : RtpClient} (h : c.reassembler.Expects p.sequence)
    (htype : 1 ≤ nalType nal ∧ nalType nal ≤ 23) (hfit : nal.length ≤ rtpH264MaxNal)
    (timestamp : UInt32) (marker : Bool) :
    Delivers c (packetsFrom p timestamp (nalPackets p.mtu.toNat nal marker)) nal timestamp marker p.ssrc
      (p.after (nalPackets p.mtu.toNat nal marker).length).sequence := by
  have hmtu := p.le_mtu
  cases nal with
  | nil => exact absurd htype.1 (by decide)
  | cons header body =>
    rw [nalPackets]
    split
    · exact ⟨[], p, _, c.reassembler, rfl, rfl, rfl, handsOver_single h htype marker timestamp⟩
    · rename_i hlong
      refine fragments_deliver h (by omega) header true marker [] (.inl rfl) (Nat.le_refl _) ?_ rfl hfit
      rintro rfl
      simp only [rtpHeaderSize, List.length_cons, List.length_nil] at *
      omega

theorem nal_arrives (h : c.Gathering p.sequence lost timestamp unit []) (nal : Nal) (marker : Bool)
    (hfit : unit.length + (4 + nal.bytes.length) ≤ rtpH264MaxNal) :
    Arrives c (packetsFrom p timestamp (nalPackets p.mtu.toNat nal.bytes marker))
      (p.after (nalPackets p.mtu.toNat nal.bytes marker).length).sequence lost timestamp
      (unit ++ ([0, 0, 0, 1] ++ nal.bytes)) p.ssrc marker := by
  obtain ⟨init, q, payload, r, hpackets, hssrc, hinit, hhands⟩ :=
    nal_delivers h.expects nal.type_range (by omega) timestamp marker
  have hholds : RtpClient.Holds { c with reassembler := r } timestamp unit := h.holds
  obtain ⟨c', hreceive, harrived⟩ := receivePacket_saveNal hholds hfit hhands
  rw [hssrc, h.losses_eq] at harrived
  obtain ⟨c', hlast, harrived⟩ := Arrives.single hreceive harrived
  refine ⟨c', ?_, harrived⟩
  rw [hpackets, receivePackets_append, hinit, hlast, List.nil_append]

theorem nals_return (h : c.Gathering p.sequence lost timestamp unit []) (hne : nals ≠ [])
    (hfit : unit.length + annexBSize nals ≤ rtpH264MaxNal) :
    ∃ c', receivePackets c
        (packetsFrom p timestamp (unitPackets p.mtu.toNat (nals.map fun nal => nal.2.bytes))) =
        ([⟨unit ++ nals.flatMap fun nal => startCode true ++ nal.2.bytes, timestamp, p.ssrc, lost⟩],
          c') ∧
      c'.Ready (p.after (unitPackets p.mtu.toNat (nals.map fun nal => nal.2.bytes)).length).sequence
        lost := by
  induction nals generalizing c p unit with
  | nil => exact absurd rfl hne
  | cons nal nals ih =>
    have hsize : annexBSize (nal :: nals) = 4 + nal.2.bytes.length + annexBSize nals := rfl
    obtain ⟨c₁, hreceive, harrived⟩ := nal_arrives h nal.2 nals.isEmpty (by omega)
    rw [List.map_cons, unitPackets, List.isEmpty_map, packetsFrom_append, receivePackets_append,
      hreceive, List.length_append, RtpH264Packetizer.after_add]
    cases nals with
    | nil =>
      refine ⟨c₁, ?_, harrived.ready rfl⟩
      simp [unitPackets, packetsFrom, receivePackets, startCode]
    | cons next nals =>
      obtain ⟨c', hrest, hready⟩ := ih
        (p := p.after (nalPackets p.mtu.toNat nal.2.bytes (next :: nals).isEmpty).length)
        (harrived.gathering rfl) (List.cons_ne_nil _ _)
        (by simp only [List.length_append, List.length_cons, List.length_nil]; omega)
      rw [RtpH264Packetizer.mtu_after] at hrest hready
      refine ⟨c', ?_, hready⟩
      simp only [hrest]
      simp [startCode]

/-- An access unit arrives complete at a client that expects its first packet. -/
theorem unit_returns (h : c.Ready p.sequence lost) (unit : AccessUnit) (timestamp : UInt32) :
    ∃ c', receivePackets c (packetsFrom p timestamp (unit.packets p.mtu.toNat)) =
        ([⟨unit.normalised, timestamp, p.ssrc, lost⟩], c') ∧
      c'.Ready (p.after (unit.packets p.mtu.toNat).length).sequence lost :=
  nals_return (h.gathering timestamp) unit.ne_nil (by rw [List.length_nil, Nat.zero_add]; exact unit.fits)

-- ---------------------------------------------------------------------------
-- Whole streams
-- ---------------------------------------------------------------------------

theorem UnitLog.complete (h : UnitLog p index unit timestamp entries)
    (haccepted : ∀ e ∈ entries, e.accepted = true) :
    entries.map LogEntry.packet = packetsFrom p timestamp (unit.packets p.mtu.toNat) ∧
      entries.length = (unit.packets p.mtu.toNat).length := by
  have hlen : entries.length = (unit.packets p.mtu.toNat).length := by
    rcases h.ending with hlen | ⟨init, last, rfl, hlast⟩
    · exact hlen
    · rw [haccepted last (by simp)] at hlast
      cases hlast
  exact ⟨h.packets.eq_of_length (by rw [List.length_map, length_packetsFrom, hlen]), hlen⟩

theorem sentLog_returns (h : SentLog p index units log)
    (haccepted : ∀ e ∈ log, e.accepted = true) (hready : c.Ready p.sequence lost) :
    (receivePackets c (log.map LogEntry.packet)).1 =
      units.map fun unit => ⟨unit.1.normalised, unit.2, p.ssrc, lost⟩ := by
  induction h generalizing c with
  | nil => rfl
  | @cons p index unit timestamp entries units rest hunit hrest ih =>
    obtain ⟨hpackets, hlen⟩ := hunit.complete fun e he => haccepted e (List.mem_append_left _ he)
    obtain ⟨c', hreceive, hready'⟩ := unit_returns hready unit timestamp
    have htail := ih (fun e he => haccepted e (List.mem_append_right _ he)) (c := c')
      (by rw [hlen]; exact hready')
    rw [RtpH264Packetizer.ssrc_after] at htail
    rw [List.map_append, hpackets, receivePackets_append, hreceive]
    simp only [htail, List.map_cons]
    rfl

theorem sentLog_packets (h : SentLog p index units log) :
    ∀ e ∈ log, e.packet ≠ [] ∧ e.packet.length ≤ p.mtu.toNat := by
  induction h with
  | nil => simp
  | @cons p index unit timestamp entries units rest hunit hrest ih =>
    intro e he
    rcases List.mem_append.mp he with he | he
    · have hmem := hunit.packets.mem (List.mem_map_of_mem he)
      exact packetsFrom_fits (unit.packets_fits p) hmem
    · simpa using ih e he

/-- Every list of access units sent through the packetizer comes out of a
fresh client as it was, in packets of at most the effective mtu. -/
theorem readUnits_sendUnits (mtu : UInt16) (ssrc : UInt32) (sequence : UInt16)
    (units : List (AccessUnit × UInt32)) :
    let sent := sendUnits units { rtpH264PacketizerInit mtu ssrc with sequence }
      { answers := fun _ => true }
    let log := sent.2.2.log
    (readUnits (log.length + 1) {} ((log.map LogEntry.packet).map .packet)).1 =
        units.map (fun unit => ⟨unit.1.normalised, unit.2, ssrc, 0⟩) ∧
      sent.1 = units.map (fun _ => true) ∧
      ∀ e ∈ log, e.packet.length ≤ (effectiveMtu mtu).toNat := by
  obtain ⟨log, hlog, hsent, hanswers, hok⟩ := sendUnits_sentLog units
    { rtpH264PacketizerInit mtu ssrc with sequence } { answers := fun _ => true }
  have haccepted : ∀ e ∈ log, e.accepted = true := fun e he => (hanswers e he).choose_spec
  have hpackets := sentLog_packets hsent
  simp only [hlog, List.nil_append]
  refine ⟨?_, hok haccepted, fun e he => (hpackets e he).2⟩
  have hdatagrams : datagramPackets ((log.map LogEntry.packet).map .packet) =
      log.map LogEntry.packet := by
    refine datagramPackets_map fun packet hmem => ?_
    obtain ⟨e, he, rfl⟩ := List.mem_map.mp hmem
    exact (hpackets e he).1
  rw [readUnits_eq _ (by simp) ?_, hdatagrams]
  · exact sentLog_returns hsent haccepted (c := {}) ⟨fun h => absurd h (by decide), rfl, rfl⟩
  · rw [hdatagrams]
    intro packet hmem
    obtain ⟨e, he, rfl⟩ := List.mem_map.mp hmem
    have hmtu := effectiveMtu_le mtu
    exact (hpackets e he).2.trans (hmtu.trans (by decide))

end NanokvmRdp.Rtp
