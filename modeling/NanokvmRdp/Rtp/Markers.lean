import NanokvmRdp.Rtp.Link
import NanokvmRdp.Rtp.Reassembler

/-!
# One marker per access unit

`rtp_h264_packetize_access_unit` over arbitrary bytes. It sends the NAL units
between the start codes of the buffer, up to one that is too long. The marker
goes to the NAL unit that ends where the buffer ends; behind a start code at
the very end there is none, and the unit is sent without a marker.
-/

namespace NanokvmRdp.Rtp

-- ---------------------------------------------------------------------------
-- The NAL units between start codes
-- ---------------------------------------------------------------------------

def cutNals : Nat → List UInt8 → List (List UInt8)
  | 0, _ => []
  | fuel + 1, rest =>
    if rest = [] then []
    else
      let (nal, next) := splitNal (rest.drop (startCodeLength rest))
      if nal = [] then cutNals fuel next else nal :: cutNals fuel next

/-- The NAL units of any buffer. Without a start code it is one. -/
def unitNals (data : List UInt8) : List (List UInt8) :=
  if data = [] then []
  else if skipToStartCode data = [] then [data]
  else cutNals data.length (skipToStartCode data)

def EndsInStartCode (data : List UInt8) : Prop := [0, 0, 1] <:+ data

instance (data : List UInt8) : Decidable (EndsInStartCode data) := by
  unfold EndsInStartCode
  infer_instance

def AtStartCode (data : List UInt8) : Prop := data = [] ∨ startCodeLength data ≠ 0

theorem startCode_of_ne_zero (h : startCodeLength data ≠ 0) :
    ∃ long, data = startCode long ++ data.drop (startCodeLength data) := by
  unfold startCodeLength at h ⊢
  split at h
  · exact ⟨false, rfl⟩
  · exact ⟨true, rfl⟩
  · exact absurd rfl h

theorem splitNal_append (data : List UInt8) : (splitNal data).1 ++ (splitNal data).2 = data := by
  induction data with
  | nil => rfl
  | cons b rest ih =>
    rw [splitNal]
    split
    · simp only [List.cons_append, ih]
    · rfl

theorem atStartCode_splitNal (data : List UInt8) : AtStartCode (splitNal data).2 := by
  induction data with
  | nil => exact .inl rfl
  | cons b rest ih =>
    rw [splitNal]
    split
    · exact ih
    · exact .inr ‹_›

theorem not_endsInStartCode_cons (hcode : startCodeLength (b :: rest) = 0)
    (h : ¬ EndsInStartCode rest) : ¬ EndsInStartCode (b :: rest) := by
  rw [EndsInStartCode, List.suffix_cons_iff]
  rintro (heq | hsuffix)
  · rw [← heq] at hcode
    exact absurd hcode (by decide)
  · exact h hsuffix

theorem not_endsInStartCode_splitNal (h : (splitNal data).2 = []) : ¬ EndsInStartCode data := by
  induction data with
  | nil => decide
  | cons b rest ih =>
    rw [splitNal] at h
    split at h
    · exact not_endsInStartCode_cons ‹_› (ih h)
    · cases h

theorem not_endsInStartCode_skip (h : skipToStartCode data = []) : ¬ EndsInStartCode data := by
  induction data with
  | nil => decide
  | cons b rest ih =>
    rw [skipToStartCode] at h
    split at h
    · cases h
    · exact not_endsInStartCode_cons (not_not.mp ‹_›) (ih h)

theorem atStartCode_skip (data : List UInt8) : AtStartCode (skipToStartCode data) := by
  induction data with
  | nil => exact .inl rfl
  | cons b rest ih =>
    rw [skipToStartCode]
    split
    · exact .inr ‹_›
    · exact ih

theorem skipToStartCode_suffix (data : List UInt8) : skipToStartCode data <:+ data := by
  induction data with
  | nil => exact List.suffix_rfl
  | cons b rest ih =>
    rw [skipToStartCode]
    split
    · exact List.suffix_rfl
    · exact ih.trans (List.suffix_cons b rest)

theorem endsInStartCode_of_suffix (hsuffix : rest <:+ data) (hcode : AtStartCode rest) (hne : rest ≠ []) :
    EndsInStartCode data ↔ EndsInStartCode rest := by
  refine ⟨fun h => List.suffix_of_suffix_length_le h hsuffix ?_, fun h => h.trans hsuffix⟩
  obtain ⟨long, heq⟩ := startCode_of_ne_zero (hcode.resolve_left hne)
  have hcodeLength : 3 ≤ (startCode long).length := by cases long <;> decide
  rw [heq, List.length_append]
  exact Nat.le_add_right_of_le hcodeLength

theorem endsInStartCode_startCode (long : Bool) (tail : List UInt8) :
    EndsInStartCode (startCode long ++ tail) ↔ tail = [] ∨ EndsInStartCode tail := by
  -- A suffix that straddles the start code would have its 1 in place of a zero.
  match tail with
  | [] => cases long <;> decide
  | [a] => cases long <;> simp [startCode, EndsInStartCode, List.suffix_cons_iff]
  | [a, b] => cases long <;> simp [startCode, EndsInStartCode, List.suffix_cons_iff]
  | a :: b :: c :: tail =>
    have hiff : EndsInStartCode (startCode long ++ a :: b :: c :: tail) ↔
        EndsInStartCode (a :: b :: c :: tail) :=
      ⟨fun h => List.suffix_of_suffix_length_le h (List.suffix_append _ _) (by simp),
        fun h => h.trans (List.suffix_append _ _)⟩
    simp [hiff]

theorem cut_cases (h : startCodeLength rest ≠ 0) :
    ∃ long nal next, rest = startCode long ++ (nal ++ next) ∧ AtStartCode next ∧
      splitNal (rest.drop (startCodeLength rest)) = (nal, next) ∧
      (next = [] → (EndsInStartCode rest ↔ nal = [])) ∧
      (next ≠ [] → (EndsInStartCode rest ↔ EndsInStartCode next)) := by
  obtain ⟨long, heq⟩ := startCode_of_ne_zero h
  generalize htail : rest.drop (startCodeLength rest) = tail at heq
  have happend := splitNal_append tail
  have hcode := atStartCode_splitNal tail
  have hends : EndsInStartCode rest ↔ tail = [] ∨ EndsInStartCode tail :=
    heq ▸ endsInStartCode_startCode long tail
  refine ⟨long, (splitNal tail).1, (splitNal tail).2, by rw [happend]; exact heq, hcode, rfl,
    fun hnil => ?_, fun hne => ?_⟩
  · rw [hends, or_iff_left (not_endsInStartCode_splitNal hnil)]
    rw [hnil, List.append_nil] at happend
    rw [happend]
  · refine endsInStartCode_of_suffix ?_ hcode hne
    rw [heq, ← happend, ← List.append_assoc]
    simp only [happend]
    exact List.suffix_append _ _

theorem endsInStartCode_of_cutNals (hcode : AtStartCode rest) (hfuel : rest.length ≤ fuel)
    (hne : rest ≠ []) (h : cutNals fuel rest = []) : EndsInStartCode rest := by
  induction fuel generalizing rest with
  | zero => exact absurd (List.eq_nil_of_length_eq_zero (Nat.le_zero.mp hfuel)) hne
  | succ fuel ih =>
    obtain ⟨long, nal, next, heq, hnext, hsplit, hlast, hmore⟩ :=
      cut_cases (hcode.resolve_left hne)
    have hshort : next.length ≤ fuel := by
      have hpos : 0 < (startCode long).length := by cases long <;> decide
      rw [heq, List.length_append, List.length_append] at hfuel
      omega
    simp only [cutNals, if_neg hne, hsplit] at h
    split at h
    · by_cases hnil : next = []
      · exact (hlast hnil).mpr ‹_›
      · exact (hmore hnil).mpr (ih hnext hshort hnil h)
    · cases h

-- ---------------------------------------------------------------------------
-- The packets
-- ---------------------------------------------------------------------------

def nalFits (nal : List UInt8) : Bool := decide (nal.length ≤ rtpH264MaxNal)

/-- The packets of NAL units up to the first that is too long. `mark` says
whether the last NAL unit gets the marker. -/
def sentPackets (mtu : Nat) (mark : Bool) : List (List UInt8) → List Outgoing
  | [] => []
  | nal :: nals =>
    if nalFits nal then nalPackets mtu nal (mark && nals.isEmpty) ++ sentPackets mtu mark nals else []

def sendNals (timestamp : UInt32) (callback : σ → List UInt8 → Bool × σ) (mark sent : Bool)
    (nals : List (List UInt8)) (p : RtpH264Packetizer) (context : σ) : Bool × RtpH264Packetizer × σ :=
  match emitAll timestamp callback (sentPackets p.mtu.toNat mark nals) p context with
  | (false, p, context) => (false, p, context)
  | (true, p, context) => (nals.all nalFits && (sent || !nals.isEmpty), p, context)

theorem sendNals_cons (timestamp : UInt32) (callback : σ → List UInt8 → Bool × σ) (mark sent : Bool)
    (hne : nal ≠ []) (nals : List (List UInt8)) (p : RtpH264Packetizer) (context : σ) :
    sendNals timestamp callback mark sent (nal :: nals) p context =
      match rtpH264PacketizeMarker p nal timestamp (mark && nals.isEmpty) callback context with
      | (false, p, context) => (false, p, context)
      | (true, p, context) => sendNals timestamp callback mark true nals p context := by
  cases hfits : nalFits nal with
  | false =>
    have hlong : nal.length > rtpH264MaxNal := by simpa [nalFits] using hfits
    cases nal with
    | nil => exact absurd rfl hne
    | cons header body =>
      simp only [sendNals, sentPackets, hfits, Bool.false_eq_true, if_false, emitAll, List.all_cons,
        Bool.false_and, rtpH264PacketizeMarker, if_pos hlong]
  | true =>
    have hlen : nal.length ≤ rtpH264MaxNal := by simpa [nalFits] using hfits
    rw [rtpH264PacketizeMarker_eq p nal timestamp _ callback context hne hlen]
    simp only [sendNals, sentPackets, hfits, if_true, emitAll_append, List.all_cons, Bool.true_and]
    have hmtu := emitAll_mtu timestamp callback (nalPackets p.mtu.toNat nal (mark && nals.isEmpty)) p
      context
    generalize emitAll timestamp callback (nalPackets p.mtu.toNat nal (mark && nals.isEmpty)) p
      context = result at hmtu ⊢
    obtain ⟨ok, p', context'⟩ := result
    cases ok with
    | false => rfl
    | true =>
      simp only at hmtu ⊢
      simp [hmtu]

theorem sendNals_nil (timestamp : UInt32) (callback : σ → List UInt8 → Bool × σ) (mark sent : Bool)
    (p : RtpH264Packetizer) (context : σ) :
    sendNals timestamp callback mark sent [] p context = (sent, p, context) := by
  simp [sendNals, sentPackets, emitAll]

theorem packetizeNals_cut (timestamp : UInt32) (callback : σ → List UInt8 → Bool × σ)
    (hcode : AtStartCode rest) (hfuel : rest.length ≤ fuel) (sent : Bool) (p : RtpH264Packetizer)
    (context : σ) :
    packetizeNals timestamp callback fuel sent rest p context =
      sendNals timestamp callback (!decide (EndsInStartCode rest)) sent (cutNals fuel rest) p
        context := by
  induction fuel generalizing rest sent p context with
  | zero => rw [packetizeNals, cutNals, sendNals_nil]
  | succ fuel ih =>
    by_cases hne : rest = []
    · rw [packetizeNals, if_pos hne, cutNals, if_pos hne, sendNals_nil]
    · have hzero := hcode.resolve_left hne
      obtain ⟨long, nal, next, heq, hnext, hsplit, hlast, hmore⟩ := cut_cases hzero
      have hshort : next.length ≤ fuel := by
        have hpos : 0 < (startCode long).length := by cases long <;> decide
        rw [heq, List.length_append, List.length_append] at hfuel
        omega
      simp only [packetizeNals, cutNals, if_neg hne, if_neg hzero, hsplit]
      by_cases hnext' : next = []
      · subst hnext'
        have hcut : cutNals fuel [] = [] := by cases fuel <;> simp [cutNals]
        have hdone : ∀ sent p context,
            packetizeNals timestamp callback fuel sent [] p context = (sent, p, context) := by
          intro sent p context
          cases fuel <;> simp [packetizeNals]
        by_cases hnal : nal = []
        · rw [if_pos hnal, if_pos hnal, hcut, hdone, sendNals_nil]
        · have hmark : (!decide (EndsInStartCode rest)) = true := by simpa [hlast] using hnal
          simp only [if_neg hnal, hcut, hdone, hmark, sendNals_cons _ _ _ _ hnal, sendNals_nil]
          rfl
      · have hends : decide (EndsInStartCode rest) = decide (EndsInStartCode next) :=
          decide_eq_decide.mpr (hmore hnext')
        rw [hends]
        split
        · exact ih hnext hshort sent p context
        · -- The marker is not for this NAL: if no other follows, the rest is start codes.
          have hmark : (!decide (EndsInStartCode next) && (cutNals fuel next).isEmpty) = next.isEmpty := by
            rw [List.isEmpty_eq_false_iff.mpr hnext']
            cases hcut : cutNals fuel next with
            | nil => simp [endsInStartCode_of_cutNals hnext hshort hnext' hcut]
            | cons => exact Bool.and_false _
          rw [sendNals_cons _ _ _ _ ‹_›, hmark]
          rcases rtpH264PacketizeMarker p nal timestamp next.isEmpty callback context with
            ⟨ok, p', context'⟩
          cases ok with
          | false => rfl
          | true => exact ih hnext hshort true p' context'

/-- Packetizing any buffer sends its NAL units. The last is marked unless the
buffer ends in a start code. -/
theorem rtpH264PacketizeAccessUnit_cut (p : RtpH264Packetizer) (data : List UInt8)
    (timestamp : UInt32) (callback : σ → List UInt8 → Bool × σ) (context : σ) :
    rtpH264PacketizeAccessUnit p data timestamp callback context =
      sendNals timestamp callback (!decide (EndsInStartCode data)) false (unitNals data) p context := by
  unfold rtpH264PacketizeAccessUnit unitNals
  split
  · rw [sendNals_nil]
  · split
    · rename_i hne hskip
      have hmark : (!decide (EndsInStartCode data)) = true := by simp [not_endsInStartCode_skip hskip]
      rw [sendNals_cons _ _ _ _ hne, hmark]
      simp only [rtpH264Packetize, sendNals_nil, List.isEmpty_nil, Bool.and_true]
      rcases rtpH264PacketizeMarker p data timestamp true callback context with ⟨ok, p', context'⟩
      cases ok <;> rfl
    · rename_i hskip
      have hsuffix := skipToStartCode_suffix data
      rw [packetizeNals_cut _ _ (atStartCode_skip data) hsuffix.length_le]
      have hends : decide (EndsInStartCode data) = decide (EndsInStartCode (skipToStartCode data)) :=
        decide_eq_decide.mpr (endsInStartCode_of_suffix hsuffix (atStartCode_skip data) hskip)
      rw [hends]

-- ---------------------------------------------------------------------------
-- The markers
-- ---------------------------------------------------------------------------

theorem cutNals_ne_nil (fuel : Nat) (rest : List UInt8) : ∀ nal ∈ cutNals fuel rest, nal ≠ [] := by
  induction fuel generalizing rest with
  | zero => simp [cutNals]
  | succ fuel ih =>
    simp only [cutNals]
    split
    · simp
    · split
      · exact ih _
      · simp only [List.mem_cons, forall_eq_or_imp]
        exact ⟨‹_›, ih _⟩

theorem unitNals_ne_nil (data : List UInt8) : ∀ nal ∈ unitNals data, nal ≠ [] := by
  unfold unitNals
  split
  · simp
  · split
    · simpa using ‹_›
    · exact cutNals_ne_nil _ _

theorem sentPackets_fits (hmtu : rtpHeaderSize + 3 ≤ mtu) (mark : Bool) (nals : List (List UInt8)) :
    ∀ out ∈ sentPackets mtu mark nals, out.Fits mtu := by
  induction nals with
  | nil => simp [sentPackets]
  | cons nal nals ih =>
    rw [sentPackets]
    split
    · intro out hmem
      exact (List.mem_append.mp hmem).elim (nalPackets_fits hmtu nal _ out) (ih out)
    · simp

theorem MarkedLast.unmarked (h : MarkedLast false outs) : ∀ out ∈ outs, out.marker = false := by
  obtain ⟨init, last, rfl, hinit, hlast⟩ := h
  intro out hmem
  rcases List.mem_append.mp hmem with hmem | hmem
  · exact hinit out hmem
  · rw [List.mem_singleton.mp hmem]
    exact hlast

/-- When every NAL unit is sent, the last packet has the marker. -/
theorem sentPackets_marked (hmtu : rtpHeaderSize + 3 ≤ mtu) (mark : Bool) (hne : nals ≠ [])
    (hnals : ∀ nal ∈ nals, nal ≠ []) (hfits : nals.all nalFits = true) :
    MarkedLast mark (sentPackets mtu mark nals) := by
  induction nals with
  | nil => exact absurd rfl hne
  | cons nal nals ih =>
    rw [List.all_cons, Bool.and_eq_true] at hfits
    rw [sentPackets, if_pos hfits.1]
    have hnal := nalPackets_marked hmtu (mark && nals.isEmpty) (hnals nal List.mem_cons_self)
    cases nals with
    | nil => simpa [sentPackets] using hnal
    | cons next nals =>
      rw [List.isEmpty_cons, Bool.and_false] at hnal ⊢
      exact hnal.append (ih (List.cons_ne_nil _ _) (fun n hn => hnals n (List.mem_cons_of_mem _ hn))
        hfits.2)

theorem sentPackets_unmarked (hmtu : rtpHeaderSize + 3 ≤ mtu) (mark : Bool)
    (hnals : ∀ nal ∈ nals, nal ≠ []) (hlong : nals.all nalFits = false) :
    ∀ out ∈ sentPackets mtu mark nals, out.marker = false := by
  induction nals with
  | nil => cases hlong
  | cons nal nals ih =>
    cases hfits : nalFits nal with
    | false => simp [sentPackets, hfits]
    | true =>
      rw [List.all_cons, hfits, Bool.true_and] at hlong
      have hmore : nals.isEmpty = false := by
        cases nals with
        | nil => cases hlong
        | cons => rfl
      rw [sentPackets, if_pos hfits, hmore, Bool.and_false]
      intro out hmem
      rcases List.mem_append.mp hmem with hmem | hmem
      · exact (nalPackets_marked hmtu false (hnals nal List.mem_cons_self)).unmarked out hmem
      · exact ih (fun n hn => hnals n (List.mem_cons_of_mem _ hn)) hlong out hmem

-- ---------------------------------------------------------------------------
-- What the callback sees
-- ---------------------------------------------------------------------------

theorem hasMarker_packetsFrom (h : packet ∈ packetsFrom p timestamp outs) :
    ∃ out ∈ outs, hasMarker packet = out.marker := by
  induction outs generalizing p with
  | nil => cases h
  | cons out outs ih =>
    rcases List.mem_cons.mp h with rfl | h
    · exact ⟨out, List.mem_cons_self, hasMarker_rtpPacket ..⟩
    · obtain ⟨more, hmem, heq⟩ := ih h
      exact ⟨more, List.mem_cons_of_mem _ hmem, heq⟩

theorem offered_accepted (h : (offered answers unit n packets).all LogEntry.accepted = true) :
    (offered answers unit n packets).map LogEntry.packet = packets := by
  refine (offered_packets answers unit n packets).eq_of_length ?_
  rw [List.length_map]
  rcases offered_ending answers unit n packets with hlength | ⟨init, last, heq, hlast⟩
  · exact hlength
  · rw [heq] at h
    simp [hlast] at h

theorem offered_last (hmem : e ∈ offered answers unit n (init ++ [last]))
    (haccepted : e.accepted = true) :
    e.packet ∈ init ∨ (offered answers unit n (init ++ [last])).all LogEntry.accepted = true := by
  induction init generalizing n with
  | nil =>
    rw [List.nil_append, offered] at hmem ⊢
    have hanswer : answers n = true := by
      rcases List.mem_cons.mp hmem with rfl | hmem
      · exact haccepted
      · split at hmem
        · assumption
        · cases hmem
    simp [hanswer, offered]
  | cons packet init ih =>
    rw [List.cons_append, offered] at hmem ⊢
    rcases List.mem_cons.mp hmem with rfl | hmem
    · exact .inl List.mem_cons_self
    · split at hmem
      · rename_i hanswer
        rcases ih hmem with hinit | hall
        · exact .inl (List.mem_cons_of_mem _ hinit)
        · exact .inr (by simp only [hanswer, if_true, List.all_cons, Bool.true_and, hall])
      · cases hmem

/-- What one call of `rtp_h264_packetize_access_unit` gave the callback. -/
structure OneMarker (p : RtpH264Packetizer) (ok : Bool) (log : List LogEntry) : Prop where
  last : ok = true → ∃ init last, log = init ++ [last] ∧ hasMarker last.packet = true ∧
    ∀ e ∈ init, hasMarker e.packet = false
  sequences : ok = true → ∀ i e, log[i]? = some e →
    e.accepted = true ∧ readU16At e.packet 2 = p.sequence + UInt16.ofNat i
  refused : ok = false → ∀ e ∈ log, e.accepted = true → hasMarker e.packet = false

theorem sendNals_offer (timestamp : UInt32) (mark : Bool) (nals : List (List UInt8))
    (p : RtpH264Packetizer) (answers : Nat → Bool) :
    let entries := offered answers 0 0 (packetsFrom p timestamp (sentPackets p.mtu.toNat mark nals))
    sendNals timestamp Link.offer mark false nals p { answers } =
      (entries.all LogEntry.accepted && (nals.all nalFits && !nals.isEmpty), p.after entries.length,
        { answers, log := entries }) := by
  have hemit := emitAll_offer timestamp (sentPackets p.mtu.toNat mark nals) p { answers }
    fun out hout =>
      have hfit := sentPackets_fits p.le_mtu mark nals out hout
      ⟨hfit.1, hfit.2.trans p.mtu_le⟩
  simp only [List.length_nil, List.nil_append] at hemit
  simp only [sendNals, hemit]
  generalize offered answers 0 0 _ = entries
  cases entries.all LogEntry.accepted <;> rfl

theorem oneMarker_marked (p : RtpH264Packetizer) (timestamp : UInt32) (answers : Nat → Bool)
    (hnals : ∀ nal ∈ nals, nal ≠ []) (hfits : nals.all nalFits = true) (hne : nals ≠ []) :
    let entries := offered answers 0 0 (packetsFrom p timestamp (sentPackets p.mtu.toNat true nals))
    OneMarker p (entries.all LogEntry.accepted) entries := by
  intro entries
  obtain ⟨init, last, houts, hinit, hlast⟩ := sentPackets_marked p.le_mtu true hne hnals hfits
  have hpackets : entries = offered answers 0 0 (packetsFrom p timestamp init ++
      [rtpPacket (p.after init.length) last.payload last.marker timestamp]) := by
    have happend := packetsFrom_append p timestamp init [last]
    rw [← houts] at happend
    exact congrArg (offered answers 0 0) happend
  have hunmarked : ∀ packet ∈ packetsFrom p timestamp init, hasMarker packet = false := by
    intro packet hmem
    obtain ⟨out, hout, heq⟩ := hasMarker_packetsFrom hmem
    exact heq.trans (hinit out hout)
  refine ⟨fun hall => ?_, fun hall i e hi => ⟨?_, ?_⟩, fun hno e hmem haccepted => ?_⟩
  · have hmap := offered_accepted (hpackets ▸ hall)
    rw [← hpackets] at hmap
    obtain ⟨front, back, heq, hfront, hback⟩ := List.map_eq_append_iff.mp hmap
    obtain ⟨e, rfl, he⟩ := List.map_eq_singleton_iff.mp hback
    refine ⟨front, e, heq, ?_, fun e' hmem => hunmarked _ ?_⟩
    · rw [he, hasMarker_rtpPacket]
      exact hlast
    · rw [← hfront]
      exact List.mem_map_of_mem hmem
  · exact List.all_eq_true.mp hall e (List.mem_of_getElem? hi)
  · have hpacket : (packetsFrom p timestamp (sentPackets p.mtu.toNat true nals))[i]? = some e.packet := by
      rw [← offered_accepted hall, List.getElem?_map, hi]
      rfl
    rw [packetsFrom_getElem?, Option.map_eq_some_iff] at hpacket
    obtain ⟨out, -, heq⟩ := hpacket
    rw [← heq, sequence_rtpPacket, after_sequence]
  · rw [hpackets] at hmem hno
    rcases offered_last hmem haccepted with hmem | hall
    · exact hunmarked _ hmem
    · rw [hall] at hno
      cases hno

theorem oneMarker_stopped (p : RtpH264Packetizer) (timestamp : UInt32) (answers : Nat → Bool)
    (hnals : ∀ nal ∈ nals, nal ≠ []) (mark : Bool)
    (hfail : (nals.all nalFits && !nals.isEmpty) = false) :
    OneMarker p false
      (offered answers 0 0 (packetsFrom p timestamp (sentPackets p.mtu.toNat mark nals))) := by
  refine ⟨nofun, nofun, fun _ e hmem _ => ?_⟩
  have hpacket := (offered_packets answers 0 0
    (packetsFrom p timestamp (sentPackets p.mtu.toNat mark nals))).subset (List.mem_map_of_mem hmem)
  obtain ⟨out, hout, heq⟩ := hasMarker_packetsFrom hpacket
  rw [heq]
  cases nals with
  | nil => cases hout
  | cons nal nals =>
    exact sentPackets_unmarked p.le_mtu mark hnals (by simpa using hfail) out hout

theorem oneMarker_offered (p : RtpH264Packetizer) (timestamp : UInt32) (answers : Nat → Bool)
    (hnals : ∀ nal ∈ nals, nal ≠ [])
    (h : mark = true ∨ nals = [] ∨ nals.all nalFits = false) :
    let entries := offered answers 0 0 (packetsFrom p timestamp (sentPackets p.mtu.toNat mark nals))
    OneMarker p (entries.all LogEntry.accepted && (nals.all nalFits && !nals.isEmpty)) entries := by
  intro entries
  cases hsent : nals.all nalFits && !nals.isEmpty with
  | false =>
    rw [Bool.and_false]
    exact oneMarker_stopped p timestamp answers hnals mark hsent
  | true =>
    simp only [Bool.and_eq_true, Bool.not_eq_true', List.isEmpty_eq_false_iff] at hsent
    obtain ⟨hfits, hne⟩ := hsent
    obtain rfl : mark = true := by
      rcases h with h | h | h
      · exact h
      · exact absurd h hne
      · rw [h] at hfits
        cases hfits
    rw [Bool.and_true]
    exact oneMarker_marked p timestamp answers hnals hfits hne

/-- A call sends one marker, on its last packet, exactly if the buffer does not
end in a start code, or has no NAL unit, or has one that is too long. -/
theorem one_marker_iff (p : RtpH264Packetizer) (data : List UInt8) (timestamp : UInt32) :
    (∀ answers : Nat → Bool,
      let result := rtpH264PacketizeAccessUnit p data timestamp Link.offer { answers }
      OneMarker p result.1 result.2.2.log) ↔
    ¬ EndsInStartCode data ∨ unitNals data = [] ∨
      ∃ nal ∈ unitNals data, rtpH264MaxNal < nal.length := by
  simp only [rtpH264PacketizeAccessUnit_cut, sendNals_offer]
  have hlong : (unitNals data).all nalFits = false ↔
      ∃ nal ∈ unitNals data, rtpH264MaxNal < nal.length := by
    simp [List.all_eq_false, nalFits]
  rw [← hlong]
  refine ⟨fun h => ?_, fun h answers => ?_⟩
  · by_contra hbad
    simp only [not_or, not_not, Bool.not_eq_false] at hbad
    obtain ⟨hends, hne, hfits⟩ := hbad
    -- Every packet is taken, and the last has no marker.
    obtain ⟨hlast, -, -⟩ := h fun _ => true
    have hunmarked := sentPackets_marked p.le_mtu false hne (unitNals_ne_nil data) hfits |>.unmarked
    simp only [hends, decide_true, Bool.not_true] at hlast
    have hall : (offered (fun _ => true) 0 0 (packetsFrom p timestamp
        (sentPackets p.mtu.toNat false (unitNals data)))).all LogEntry.accepted = true := by
      refine List.all_eq_true.mpr fun e hmem => ?_
      obtain ⟨-, m, hm⟩ := offered_mem hmem
      exact hm
    rw [hall, hfits, List.isEmpty_eq_false_iff.mpr hne] at hlast
    obtain ⟨init, last, heq, hmark, -⟩ := hlast rfl
    have hmem : last.packet ∈ packetsFrom p timestamp
        (sentPackets p.mtu.toNat false (unitNals data)) := by
      rw [← offered_accepted hall, heq]
      simp
    obtain ⟨out, hout, hmarker⟩ := hasMarker_packetsFrom hmem
    rw [hmarker, hunmarked out hout] at hmark
    cases hmark
  · refine oneMarker_offered p timestamp answers (unitNals_ne_nil data) ?_
    simpa using h

/-- A start code behind the last NAL unit: the call succeeds and no packet has
the marker. -/
theorem trailing_start_code_unmarked :
    let result := rtpH264PacketizeAccessUnit (rtpH264PacketizerInit 1200 42) [0, 0, 1, 0x41, 0, 0, 1] 7
      Link.offer { answers := fun _ => true }
    result.1 = true ∧ result.2.2.log.length = 1 ∧
      ∀ e ∈ result.2.2.log, e.accepted = true ∧ hasMarker e.packet = false := by
  decide

end NanokvmRdp.Rtp
