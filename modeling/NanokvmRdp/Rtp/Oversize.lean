import NanokvmRdp.Rtp.RoundTrip

/-!
# Access units beyond the limit

The packets of any NAL units of one access unit, received without loss.
`save_nal` adds the start code and the NAL unit one after the other, each if it
fits; `rtp_client_read_h264` skips a packet whose NAL unit was refused and goes
on with the next. The unit it returns has a hole if a NAL unit in the middle
was refused and the last one still fits.
-/

namespace NanokvmRdp.Rtp

/-- What `save_nal` leaves of the gathered unit. -/
def gatherNal (unit nal : List UInt8) : List UInt8 :=
  if rtpH264MaxNal < unit.length + 4 then unit
  else if rtpH264MaxNal < unit.length + (4 + nal.length) then unit ++ [0, 0, 0, 1]
  else unit ++ ([0, 0, 0, 1] ++ nal)

def gatheredSize (size : Nat) (nal : List UInt8) : Nat :=
  if rtpH264MaxNal < size + 4 then size
  else if rtpH264MaxNal < size + (4 + nal.length) then size + 4
  else size + (4 + nal.length)

def wholeUnit (nals : List (List UInt8)) : List UInt8 :=
  nals.flatMap fun nal => [0, 0, 0, 1] ++ nal

def wholeSize (nals : List (List UInt8)) : Nat := (nals.map fun nal => 4 + nal.length).sum

def RtpClient.Keeps (c : RtpClient) (timestamp : UInt32) (unit : List UInt8) : Prop :=
  (startUnit c timestamp).accessUnit.contents = unit

def Sendable (nal : List UInt8) : Prop :=
  (1 ≤ nalType nal ∧ nalType nal ≤ 23) ∧ nal.length ≤ rtpH264MaxNal

instance (nal : List UInt8) : Decidable (Sendable nal) := by
  unfold Sendable
  infer_instance

-- ---------------------------------------------------------------------------
-- One NAL unit
-- ---------------------------------------------------------------------------

theorem appendAccessUnit_refused (c : RtpClient) (data : List UInt8)
    (h : rtpH264MaxNal < c.accessUnit.contents.length + data.length) :
    appendAccessUnit c data = (false, c) := by
  have hle := c.accessUnit.length_le_limit
  have hnone : c.accessUnit.append? (accessUnitCapacity c.accessUnit.capacity c.accessUnitCapacityHint)
      data = none := by
    rw [BoundedBuffer.append?, dif_pos (by omega)]
  rw [appendAccessUnit, hnone]

theorem startUnit_fields (c : RtpClient) (timestamp : UInt32) :
    (startUnit c timestamp).haveAccessUnit = true ∧
      (startUnit c timestamp).accessUnitTimestamp = timestamp ∧
      (startUnit c timestamp).losses = c.losses := by
  unfold startUnit
  split
  · exact ⟨rfl, rfl, rfl⟩
  · rename_i hkept
    simp only [Bool.or_eq_true, Bool.not_eq_true', bne_iff_ne, ne_eq, not_or, Bool.not_eq_false,
      not_not] at hkept
    exact ⟨hkept.1, hkept.2, rfl⟩

structure Saved (c : RtpClient) (timestamp : UInt32) (unit : List UInt8) (losses : UInt32) : Prop where
  haveAccessUnit : c.haveAccessUnit = true
  timestamp_eq : c.accessUnitTimestamp = timestamp
  contents_eq : c.accessUnit.contents = unit
  losses_eq : c.losses = losses

theorem Saved.keeps (h : Saved c timestamp unit lost) : c.Keeps timestamp unit := by
  rw [RtpClient.Keeps, startUnit, h.haveAccessUnit, h.timestamp_eq]
  simpa using h.contents_eq

theorem saveNal_gathers {c : RtpClient} (h : c.Keeps timestamp unit) (nal : List UInt8) (marker : Bool) :
    ∃ c', saveNal c nal timestamp marker =
        (decide (unit.length + (4 + nal.length) ≤ rtpH264MaxNal), c') ∧
      Saved c' timestamp (gatherNal unit nal) c.losses := by
  obtain ⟨hhave, htime, hlosses⟩ := startUnit_fields c timestamp
  rw [RtpClient.Keeps] at h
  unfold saveNal gatherNal
  generalize startUnit c timestamp = started at h hhave htime hlosses ⊢
  have hcodeLength : ([0, 0, 0, 1] : List UInt8).length = 4 := rfl
  by_cases hcode : rtpH264MaxNal < unit.length + 4
  · rw [appendAccessUnit_refused started [0, 0, 0, 1] (by rw [h]; exact hcode), if_pos hcode,
      decide_eq_false (by omega)]
    exact ⟨started, rfl, hhave, htime, h, hlosses⟩
  · obtain ⟨first, hfirst, hfirstContents⟩ := appendAccessUnit_fits started [0, 0, 0, 1]
      (by rw [h]; exact Nat.not_lt.mp hcode)
    rw [h] at hfirstContents
    have hlength : first.contents.length = unit.length + 4 := by
      rw [hfirstContents, List.length_append, hcodeLength]
    rw [if_neg hcode, hfirst]
    by_cases hnal : rtpH264MaxNal < unit.length + (4 + nal.length)
    · have hrefused := appendAccessUnit_refused { started with accessUnit := first } nal
        (by rw [hlength]; omega)
      simp only [hrefused]
      rw [if_pos hnal, decide_eq_false (by omega)]
      exact ⟨_, rfl, hhave, htime, hfirstContents, hlosses⟩
    · obtain ⟨second, hsecond, hsecondContents⟩ :=
        appendAccessUnit_fits { started with accessUnit := first } nal (by rw [hlength]; omega)
      simp only [hsecond]
      rw [if_neg hnal, decide_eq_true (by omega)]
      refine ⟨_, rfl, hhave, htime, ?_, hlosses⟩
      rw [hsecondContents, hfirstContents, List.append_assoc]

/-- What the packets of one NAL unit return, and what they leave to the next. -/
theorem nal_outcome {c : RtpClient} (hexpects : c.reassembler.Expects p.sequence)
    (hkeeps : c.Keeps timestamp unit) (hnal : Sendable nal) (marker : Bool) :
    ∃ c', receivePackets c (packetsFrom p timestamp (nalPackets p.mtu.toNat nal marker)) =
        (if marker ∧ unit.length + (4 + nal.length) ≤ rtpH264MaxNal then
          [⟨unit ++ ([0, 0, 0, 1] ++ nal), timestamp, p.ssrc, c.losses⟩] else [], c') ∧
      c'.reassembler.Expects (p.after (nalPackets p.mtu.toNat nal marker).length).sequence ∧
      (marker = false → c'.Keeps timestamp (gatherNal unit nal)) ∧ c'.losses = c.losses := by
  obtain ⟨init, q, payload, r, hpackets, hssrc, hinit, r', hexpects', hpush⟩ :=
    nal_delivers hexpects hnal.1 hnal.2 timestamp marker
  have hkeeps' : RtpClient.Keeps { c with reassembler := r } timestamp unit := by
    rw [RtpClient.Keeps, ← hkeeps]
    unfold startUnit
    split <;> rfl
  obtain ⟨c₁, hsave, hsaved⟩ := saveNal_gathers hkeeps' nal marker
  have hmarker := hasMarker_rtpPacket q payload marker timestamp
  have hreceive : receivePacket { c with reassembler := r } (rtpPacket q payload marker timestamp) =
      takeUnit { c₁ with reassembler := r' } (decide (unit.length + (4 + nal.length) ≤ rtpH264MaxNal))
        (rtpPacket q payload marker timestamp) := by
    rw [receivePacket, hpush, hsave]
  rw [hpackets, receivePackets_append, hinit]
  simp only [List.nil_append]
  by_cases hreturns : marker = true ∧ unit.length + (4 + nal.length) ≤ rtpH264MaxNal
  · obtain ⟨hmark, hfits⟩ := hreturns
    have hcontents : c₁.accessUnit.contents = unit ++ ([0, 0, 0, 1] ++ nal) := by
      rw [hsaved.contents_eq, gatherNal, if_neg (by omega), if_neg (by omega)]
    obtain ⟨c', htake, -, hre, hlost, htime, hssrc'⟩ :=
      takeUnit_unit (hmarker.trans hmark) { c₁ with reassembler := r' } hcontents (by simp)
    rw [decide_eq_true hfits, htake] at hreceive
    rw [receivePackets_return hreceive, if_pos ⟨hmark, hfits⟩]
    refine ⟨c', ?_, hre ▸ hexpects', fun hno => ?_, hlost.trans hsaved.losses_eq⟩
    · rw [htime, hssrc', hlost, hsaved.timestamp_eq, hsaved.losses_eq, ssrc_rtpPacket, hssrc]
      rfl
    · rw [hno] at hmark
      cases hmark
  · have hquiet : takeUnit { c₁ with reassembler := r' }
        (decide (unit.length + (4 + nal.length) ≤ rtpH264MaxNal))
        (rtpPacket q payload marker timestamp) = (none, { c₁ with reassembler := r' }) := by
      unfold takeUnit
      rw [hmarker]
      by_cases hmark : marker = true
      · have hrefused : ¬ unit.length + (4 + nal.length) ≤ rtpH264MaxNal := fun hfits =>
          hreturns ⟨hmark, hfits⟩
        rw [decide_eq_false hrefused]
        rfl
      · rw [Bool.eq_false_of_not_eq_true hmark]
        split <;> rfl
    rw [hquiet] at hreceive
    rw [receivePackets_quiet hreceive, if_neg hreturns]
    refine ⟨_, rfl, hexpects', fun _ => ?_, hsaved.losses_eq⟩
    exact Saved.keeps ⟨hsaved.haveAccessUnit, hsaved.timestamp_eq, hsaved.contents_eq, hsaved.losses_eq⟩

-- ---------------------------------------------------------------------------
-- The whole unit
-- ---------------------------------------------------------------------------

/-- The last NAL unit decides whether anything is returned. -/
theorem nals_outcome {c : RtpClient} (hexpects : c.reassembler.Expects p.sequence)
    (hkeeps : c.Keeps timestamp unit) (hinit : ∀ nal ∈ init, Sendable nal) (hlast : Sendable last) :
    (receivePackets c (packetsFrom p timestamp (unitPackets p.mtu.toNat (init ++ [last])))).1 =
      if (init.foldl gatherNal unit).length + (4 + last.length) ≤ rtpH264MaxNal then
        [⟨init.foldl gatherNal unit ++ ([0, 0, 0, 1] ++ last), timestamp, p.ssrc, c.losses⟩]
      else [] := by
  induction init generalizing c p unit with
  | nil =>
    obtain ⟨c', hreceive, -, -, -⟩ := nal_outcome hexpects hkeeps hlast true
    have hpackets : unitPackets p.mtu.toNat ([] ++ [last]) = nalPackets p.mtu.toNat last true := by
      simp [unitPackets]
    rw [hpackets, hreceive]
    by_cases hfits : unit.length + (4 + last.length) ≤ rtpH264MaxNal
    · rw [if_pos ⟨rfl, hfits⟩]
      exact (if_pos hfits).symm
    · rw [if_neg fun h => hfits h.2]
      exact (if_neg hfits).symm
  | cons nal init ih =>
    obtain ⟨c₁, hreceive, hexpects₁, hkeeps₁, hlosses₁⟩ :=
      nal_outcome hexpects hkeeps (hinit nal List.mem_cons_self) false
    have hpackets : unitPackets p.mtu.toNat (nal :: init ++ [last]) =
        nalPackets p.mtu.toNat nal false ++ unitPackets p.mtu.toNat (init ++ [last]) := by
      rw [List.cons_append, unitPackets, List.isEmpty_eq_false_iff.mpr (by simp)]
    have hrest := ih (p := p.after (nalPackets p.mtu.toNat nal false).length) hexpects₁
      (hkeeps₁ rfl) fun n hn => hinit n (List.mem_cons_of_mem _ hn)
    rw [RtpH264Packetizer.mtu_after, RtpH264Packetizer.ssrc_after, hlosses₁] at hrest
    rw [if_neg fun h => Bool.false_ne_true h.1] at hreceive
    rw [hpackets, packetsFrom_append, receivePackets_append, hreceive]
    exact hrest

theorem length_gatherNal (unit nal : List UInt8) :
    (gatherNal unit nal).length = gatheredSize unit.length nal := by
  unfold gatherNal gatheredSize
  split
  · rfl
  · split
    · rw [List.length_append]
      rfl
    · simp only [List.length_append, List.length_cons, List.length_nil]

theorem length_foldl_gatherNal (nals : List (List UInt8)) (unit : List UInt8) :
    (nals.foldl gatherNal unit).length = nals.foldl gatheredSize unit.length := by
  induction nals generalizing unit with
  | nil => rfl
  | cons nal nals ih => rw [List.foldl_cons, List.foldl_cons, ih, length_gatherNal]

theorem foldl_gatheredSize_le (nals : List (List UInt8)) (h : size ≤ rtpH264MaxNal) :
    nals.foldl gatheredSize size ≤ rtpH264MaxNal := by
  induction nals generalizing size with
  | nil => exact h
  | cons nal nals ih =>
    refine ih ?_
    unfold gatheredSize
    split
    · exact h
    · split <;> omega

theorem length_wholeUnit (nals : List (List UInt8)) : (wholeUnit nals).length = wholeSize nals := by
  rw [wholeUnit, List.length_flatMap, wholeSize]
  refine congrArg List.sum (List.map_congr_left fun nal _ => ?_)
  rw [List.length_append]
  rfl

theorem foldl_gatherNal_whole (nals : List (List UInt8)) (unit : List UInt8)
    (hunit : unit.length ≤ rtpH264MaxNal) :
    nals.foldl gatherNal unit = unit ++ wholeUnit nals ↔
      unit.length + wholeSize nals ≤ rtpH264MaxNal := by
  constructor
  · intro h
    have hlength := congrArg List.length h
    have hle := foldl_gatheredSize_le nals hunit
    rw [length_foldl_gatherNal, List.length_append, length_wholeUnit] at hlength
    omega
  · intro hfits
    clear hunit
    induction nals generalizing unit with
    | nil => simp [wholeUnit]
    | cons nal nals ih =>
      have hsize : wholeSize (nal :: nals) = 4 + nal.length + wholeSize nals := rfl
      have hgather : gatherNal unit nal = unit ++ ([0, 0, 0, 1] ++ nal) := by
        rw [gatherNal, if_neg (by omega), if_neg (by omega)]
      rw [List.foldl_cons, hgather, ih _ (by
        simp only [List.length_append, List.length_cons, List.length_nil]
        omega)]
      simp [wholeUnit]

theorem wholeSize_concat (init : List (List UInt8)) (last : List UInt8) :
    wholeSize (init ++ [last]) = wholeSize init + (4 + last.length) := by
  simp [wholeSize]

theorem forall_last_iff {P : List α → α → Prop} {init : List α} {last : α} :
    (∀ init' last', init ++ [last] = init' ++ [last'] → P init' last') ↔ P init last := by
  refine ⟨fun h => h init last rfl, fun h init' last' heq => ?_⟩
  obtain ⟨rfl, hsingle⟩ := List.append_inj' heq rfl
  rw [← List.singleton_inj.mp hsingle]
  exact h

theorem keeps_nil {c : RtpClient} (h : c.haveAccessUnit = false ∨ c.accessUnitTimestamp ≠ timestamp) :
    c.Keeps timestamp [] := by
  have hnew : (!c.haveAccessUnit || c.accessUnitTimestamp != timestamp) = true := by
    simpa using h
  rw [RtpClient.Keeps, startUnit, if_pos hnew]
  rfl

/-- A client that expects the first packet and has nothing of the unit yet returns
the whole unit or nothing exactly if the unit fits, or the last NAL unit does not
fit behind what was kept of the others. -/
theorem whole_unit_or_none_iff (c : RtpClient) (p : RtpH264Packetizer) (timestamp : UInt32)
    (nals : List (List UInt8)) (hnals : ∀ nal ∈ nals, Sendable nal)
    (hexpects : c.reassembler.Expects p.sequence)
    (hfresh : c.haveAccessUnit = false ∨ c.accessUnitTimestamp ≠ timestamp)
    (datagrams : List Datagram)
    (harrive : datagramPackets datagrams = packetsFrom p timestamp (unitPackets p.mtu.toNat nals)) :
    let units := (readUnits (datagrams.length + 1) c datagrams).1
    (units = [] ∨ units = [⟨wholeUnit nals, timestamp, p.ssrc, c.losses⟩]) ↔
      wholeSize nals ≤ rtpH264MaxNal ∨ ∀ init last, nals = init ++ [last] →
        rtpH264MaxNal < init.foldl gatheredSize 0 + (4 + last.length) := by
  intro units
  have hsize : ∀ packet ∈ datagramPackets datagrams, packet.length ≤ 1500 := by
    intro packet hmem
    rw [harrive] at hmem
    have hfits := (packetsFrom_fits (unitPackets_fits p.le_mtu nals) hmem).2
    exact (hfits.trans p.mtu_le).trans (by decide)
  have hunits : units = (receivePackets c (packetsFrom p timestamp (unitPackets p.mtu.toNat nals))).1 := by
    rw [← harrive, ← readUnits_eq c (Nat.lt_succ_self _) hsize]
  rw [hunits]
  rcases List.eq_nil_or_concat nals with rfl | ⟨init, last, rfl⟩
  · simp [unitPackets, packetsFrom, receivePackets, wholeSize]
  · rw [List.concat_eq_append] at hnals hunits ⊢
    rw [nals_outcome hexpects (keeps_nil hfresh) (fun nal hmem => hnals nal (by simp [hmem]))
      (hnals last (by simp))]
    have hgathered := foldl_gatherNal_whole init [] (Nat.zero_le _)
    have hlength := length_foldl_gatherNal init []
    rw [List.length_nil] at hgathered hlength
    rw [hlength]
    rw [forall_last_iff (P := fun init last =>
      rtpH264MaxNal < init.foldl gatheredSize 0 + (4 + last.length)), wholeSize_concat]
    by_cases hfits : init.foldl gatheredSize 0 + (4 + last.length) ≤ rtpH264MaxNal
    · have hiff : init.foldl gatherNal [] ++ ([0, 0, 0, 1] ++ last) = wholeUnit (init ++ [last]) ↔
          init.foldl gatherNal [] = [] ++ wholeUnit init := by
        simp [wholeUnit]
      rw [if_pos hfits, or_iff_right (List.cons_ne_nil _ _), or_iff_left (Nat.not_lt.mpr hfits)]
      simp only [List.cons.injEq, Returned.mk.injEq, and_true]
      rw [hiff, hgathered]
      refine ⟨fun h => ?_, fun h => by omega⟩
      have hall := congrArg List.length (hgathered.mpr h)
      rw [hlength, List.nil_append, length_wholeUnit] at hall
      omega
    · rw [if_neg hfits]
      simp [Nat.not_le.mp hfits]

theorem small_unit_whole :
    let p := rtpH264PacketizerInit 1200 42
    let nals : List (List UInt8) := [[0x67], [0x65]]
    let datagrams := (packetsFrom p 7 (unitPackets p.mtu.toNat nals)).map .packet
    (∀ nal ∈ nals, Sendable nal) ∧
      let units := (readUnits (datagrams.length + 1) {} datagrams).1
      (units = [] ∨ units = [⟨wholeUnit nals, 7, 42, 0⟩]) :=
  ⟨by decide, (whole_unit_or_none_iff {} (rtpH264PacketizerInit 1200 42) 7 [[0x67], [0x65]] (by decide)
    nofun (.inl rfl) _ (datagramPackets_map fun packet hmem =>
      (packetsFrom_fits (unitPackets_fits (RtpH264Packetizer.le_mtu _) _) hmem).1)).mpr
        (.inl (by decide))⟩

def oversizedUnit (body : List UInt8) : List (List UInt8) := [[0x67], 0x65 :: body, [0x41]]

theorem sendable_oversizedUnit (h : body.length + 1 = rtpH264MaxNal) :
    ∀ nal ∈ oversizedUnit body, Sendable nal := by
  have htype : (1 : UInt8) ≤ 0x65 &&& 0x1f ∧ 0x65 &&& 0x1f ≤ (23 : UInt8) := by decide
  have hbody : Sendable (0x65 :: body) := ⟨htype, Nat.le_of_eq h⟩
  simp only [oversizedUnit, List.mem_cons, List.not_mem_nil, or_false, forall_eq_or_imp, forall_eq]
  exact ⟨by decide, hbody, by decide⟩

theorem receivePackets_oversizedUnit (h : body.length + 1 = rtpH264MaxNal) :
    let p := rtpH264PacketizerInit 1200 42
    (receivePackets {} (packetsFrom p 7 (unitPackets p.mtu.toNat (oversizedUnit body)))).1 =
      [⟨[0, 0, 0, 1, 0x67, 0, 0, 0, 1, 0, 0, 0, 1, 0x41], 7, 42, 0⟩] := by
  intro p
  have hnals := sendable_oversizedUnit h
  have hfirst : gatherNal [] [0x67] = [0, 0, 0, 1, 0x67] := by decide
  have hmiddle : gatherNal [0, 0, 0, 1, 0x67] (0x65 :: body) = [0, 0, 0, 1, 0x67, 0, 0, 0, 1] := by
    have hlong : rtpH264MaxNal < 5 + (4 + (0x65 :: body).length) := by
      rw [List.length_cons, h]
      omega
    rw [gatherNal, if_neg (by decide)]
    exact if_pos hlong
  have hinit : ∀ nal ∈ [[0x67], 0x65 :: body], Sendable nal := fun nal hmem =>
    hnals nal (List.mem_append_left [[0x41]] hmem)
  have houtcome := nals_outcome (c := {}) (p := p) nofun (keeps_nil (.inl rfl) : RtpClient.Keeps {} 7 [])
    hinit (hnals [0x41] (by simp [oversizedUnit]))
  rw [List.foldl_cons, List.foldl_cons, List.foldl_nil, hfirst, hmiddle, if_pos (by decide)] at houtcome
  exact houtcome

/-- The NAL unit in the middle is refused behind its start code, and the unit is
returned with the last one. -/
theorem oversized_unit_has_hole :
    let p := rtpH264PacketizerInit 1200 42
    let nals := oversizedUnit (List.replicate (rtpH264MaxNal - 1) 0)
    let datagrams := (packetsFrom p 7 (unitPackets p.mtu.toNat nals)).map .packet
    (∀ nal ∈ nals, Sendable nal) ∧
      (readUnits (datagrams.length + 1) {} datagrams).1 =
        [⟨[0, 0, 0, 1, 0x67, 0, 0, 0, 1, 0, 0, 0, 1, 0x41], 7, 42, 0⟩] := by
  have hfull : (List.replicate (rtpH264MaxNal - 1) (0 : UInt8)).length + 1 = rtpH264MaxNal := by
    rw [List.length_replicate]
    exact Nat.sub_add_cancel (by decide)
  generalize List.replicate (rtpH264MaxNal - 1) (0 : UInt8) = body at hfull ⊢
  intro p nals datagrams
  refine ⟨sendable_oversizedUnit hfull, ?_⟩
  have hfits (packet : List UInt8) (hmem : packet ∈ packetsFrom p 7 (unitPackets p.mtu.toNat nals)) :=
    packetsFrom_fits (unitPackets_fits p.le_mtu nals) hmem
  have hpackets : datagramPackets datagrams = packetsFrom p 7 (unitPackets p.mtu.toNat nals) :=
    datagramPackets_map fun packet hmem => (hfits packet hmem).1
  rw [readUnits_eq {} (Nat.lt_succ_self _) fun packet hmem =>
    ((hfits packet (hpackets ▸ hmem)).2.trans p.mtu_le).trans (by decide), hpackets]
  exact receivePackets_oversizedUnit hfull

end NanokvmRdp.Rtp
