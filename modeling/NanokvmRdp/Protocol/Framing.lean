import NanokvmRdp.Protocol.Receive

/-!
# Framing does not depend on fragmentation

Both receivers read a stream as `parseAll` does. For the non-blocking one
the induction is on what is left to read, counting the bytes its reader
holds: every call yields the next message, waits at an empty read it then
leaves behind, or reaches a state in which all later calls give the same
answer.
-/

namespace NanokvmRdp.Protocol

-- ---------------------------------------------------------------------------
-- Headers and longer streams
-- ---------------------------------------------------------------------------

theorem exists_header (h : 4 ≤ data.length) :
    ∃ a b c d tail, data = a :: b :: c :: d :: tail := by
  match data, h with
  | a :: b :: c :: d :: tail, _ => exact ⟨a, b, c, d, tail, rfl⟩

theorem headerLength_append (rest : List UInt8) (h : 4 ≤ data.length) :
    headerLength (data ++ rest) = headerLength data := by
  obtain ⟨a, b, c, d, tail, rfl⟩ := exists_header h
  rfl

theorem headerValid_append (rest : List UInt8) (h : 4 ≤ data.length) :
    HeaderValid (data ++ rest) ↔ HeaderValid data := by
  unfold HeaderValid
  rw [headerLength_append rest h]
  obtain ⟨a, b, c, d, tail, rfl⟩ := exists_header h
  exact Iff.rfl

theorem parse_invalid (rest : List UInt8) (h : 4 ≤ data.length) (hv : ¬ HeaderValid data) :
    parse (data ++ rest) = .invalid := by
  have hlen : ¬ (data ++ rest).length < 4 := by
    rw [List.length_append]
    omega
  rw [parse, if_neg hlen, dif_neg (mt (headerValid_append rest h).mp hv)]

theorem parse_complete (rest : List UInt8) (hv : HeaderValid data)
    (h : data.length = 4 + headerLength data) :
    parse (data ++ rest) = .message (messageAt data hv) rest := by
  have h4 : 4 ≤ data.length := by omega
  have hlen : ¬ (data ++ rest).length < 4 := by
    rw [List.length_append]
    omega
  have hbody : ¬ (data ++ rest).length < 4 + headerLength data := by
    rw [List.length_append]
    omega
  have hm : messageAt (data ++ rest) ((headerValid_append rest h4).mpr hv) = messageAt data hv := by
    obtain ⟨a, b, c, d, tail, rfl⟩ := exists_header h4
    simp only [messageAt, headerLength_append rest h4, ControlMessage.mk.injEq]
    refine ⟨rfl, ?_⟩
    have ht : headerLength (a :: b :: c :: d :: tail) = tail.length := by
      simp only [List.length_cons] at h
      omega
    rw [ht]
    simp
  rw [parse, if_neg hlen, dif_pos ((headerValid_append rest h4).mpr hv),
    headerLength_append rest h4, if_neg hbody, hm, ← h, List.drop_left]

theorem parse_frame (m : ControlMessage) (rest : List UInt8) :
    parse (frame m.type m.payload ++ rest) = .message m rest := by
  have hfits := m.fits
  have hword : m.payload.length.toUInt16.toNat = m.payload.length := by
    simp only [controlMaxPayload] at hfits
    exact Nat.mod_eq_of_lt (by omega)
  have hl : headerLength (frame m.type m.payload) = m.payload.length := by
    have hr : protocolReadU16 ((frame m.type m.payload).drop 2) = m.payload.length.toUInt16 :=
      protocolReadU16_write _ m.payload
    rw [headerLength, hr, hword]
  have hv : HeaderValid (frame m.type m.payload) := ⟨rfl, hl ▸ hfits⟩
  rw [parse_complete rest hv (by rw [hl]; simp [frame]; omega)]
  congr 1
  cases m
  simp only [messageAt, hl, ControlMessage.mk.injEq]
  exact ⟨rfl, by simp [frame, protocolWriteU16, BigEndian.writeU16]⟩

-- ---------------------------------------------------------------------------
-- The partial frame between calls
-- ---------------------------------------------------------------------------

/-- The reader holds at most the frame it is collecting. -/
def ControlReader.Ok (r : ControlReader) : Prop :=
  r.used ≤ 4 ∨ (HeaderValid r.data ∧ r.used ≤ 4 + headerLength r.data)

theorem ControlReader.Ok.used_le {r : ControlReader} (h : r.Ok) :
    r.used ≤ 4 + controlMaxPayload := by
  rcases h with h | ⟨hv, h⟩
  · exact h.trans (Nat.le_add_right _ _)
  · exact h.trans (Nat.add_le_add_left hv.2 4)

def pendingBytes (r : ControlReader) (s : Socket) : List UInt8 := r.data ++ s.bytes

def work (r : ControlReader) (s : Socket) : Nat := r.used + s.size

/-- What one turn of the loop can do, from a reader that is in order. -/
inductive Turn (r : ControlReader) (s : Socket) : Option Received × ControlReader × Socket → Prop
  | read : r'.Ok → pendingBytes r' s' = pendingBytes r s → work r' s' ≤ work r s →
      s'.eof = s.eof → Turn r s (none, r', s')
  | message : parse (pendingBytes r s) = .message m s.bytes → work {} s < work r s →
      Turn r s (some (.message m), {}, s)
  | empty : pendingBytes r s' = pendingBytes r s → work r s' < work r s → s'.eof = s.eof →
      Turn r s (some .pending, r, s')
  | silent : parse (pendingBytes r s) = .short → s.eof = false → Turn r s (some .pending, r, s)
  | closed : parse (pendingBytes r s) = .short → s.eof = true → Turn r s (some .broken, r, s)
  | invalid : parse (pendingBytes r s) = .invalid → Turn r s (some .broken, r, s)

/-- The reader is short of the header, or of the payload it announces. -/
def ControlReader.Missing (r : ControlReader) : Prop :=
  r.used < 4 ∨ (HeaderValid r.data ∧ r.used < 4 + headerLength r.data)

theorem parse_short_of_missing (h : r.Missing) (hs : s.events = []) :
    parse (pendingBytes r s) = .short := by
  have hb : pendingBytes r s = r.data := by simp [pendingBytes, Socket.bytes, hs]
  unfold ControlReader.Missing ControlReader.used at h
  rw [hb, parse]
  rcases h with h | ⟨hv, h⟩
  · rw [if_pos h]
  · simp only [hv, h, dite_true, ite_true, ite_self]

theorem ControlReader.Ok.missing {r : ControlReader} (hr : r.Ok)
    (hgood : ¬ (4 ≤ r.used ∧ ¬ HeaderValid r.data))
    (hpart : ¬ (4 ≤ r.used ∧ HeaderValid r.data ∧ r.used = 4 + headerLength r.data)) :
    r.Missing := by
  by_cases h4 : 4 ≤ r.used
  · have hv : HeaderValid r.data := by
      by_contra hv
      exact hgood ⟨h4, hv⟩
    have hne : r.used ≠ 4 + headerLength r.data := fun he => hpart ⟨h4, hv, he⟩
    rcases hr with h | ⟨-, h⟩ <;> exact .inr ⟨hv, by omega⟩
  · exact .inl (by omega)

theorem ControlReader.Missing.append_ok {r : ControlReader} (h : r.Missing)
    (hle : bytes.length ≤ (if 4 ≤ r.used then 4 + headerLength r.data else 4) - r.used) :
    (⟨r.data ++ bytes⟩ : ControlReader).Ok := by
  have hused : (⟨r.data ++ bytes⟩ : ControlReader).used = r.used + bytes.length := by
    simp [ControlReader.used]
  unfold ControlReader.Ok
  rw [hused]
  by_cases h4 : 4 ≤ r.used
  · rw [if_pos h4] at hle
    rcases h with h | ⟨hv, hlt⟩
    · omega
    · rw [headerValid_append bytes h4, headerLength_append bytes h4]
      exact .inr ⟨hv, by omega⟩
  · rw [if_neg h4] at hle
    exact .inl (by omega)

theorem receiveTurn_turn (hr : r.Ok) (s : Socket) : Turn r s (receiveTurn r s) := by
  unfold receiveTurn
  split
  · rename_i hbad
    exact .invalid (parse_invalid _ hbad.1 hbad.2)
  · rename_i hgood
    split
    · rename_i hfull
      refine .message (parse_complete _ hfull.2.1 hfull.2.2) ?_
      have hempty : ControlReader.used {} = 0 := rfl
      simp only [work, hempty]
      omega
    · rename_i hpart
      have hmiss := hr.missing hgood hpart
      simp only
      rcases recv_cases _ s with ⟨hev, h⟩ | ⟨t, h, hb, hs, he⟩ | ⟨t, h, hb, hs, he⟩ |
        ⟨bytes, t, h, hpos, hle, hb, hs, he⟩ <;> rw [h]
      · cases heof : s.eof with
        | true => exact .closed (parse_short_of_missing hmiss hev) heof
        | false => exact .silent (parse_short_of_missing hmiss hev) heof
      · exact .read hr (by simp [pendingBytes, hb]) (by simp only [work]; omega) he
      · exact .empty (by simp [pendingBytes, hb]) (by simp only [work]; omega) he
      · refine .read (hmiss.append_ok ?_) (by simp [pendingBytes, hb]) ?_ he
        · have hneed : r.used < if 4 ≤ r.used then 4 + headerLength r.data else 4 := by
            rcases hmiss with h4 | ⟨-, hlt⟩ <;> split <;> omega
          omega
        · simp only [work, ControlReader.used, List.length_append]
          omega

-- ---------------------------------------------------------------------------
-- One call
-- ---------------------------------------------------------------------------

theorem receiveCalls_fixed (h : protocolReceiveAvailable r s = (v, r, s)) (n : Nat) :
    receiveCalls n r s = List.replicate n v := by
  induction n with
  | zero => rfl
  | succ n ih => rw [receiveCalls, h, List.replicate_succ, ← ih]

inductive Call (r : ControlReader) (s : Socket) : Received × ControlReader × Socket → Prop
  | message : r'.Ok → parse (pendingBytes r s) = .message m (pendingBytes r' s') →
      work r' s' < work r s → s'.eof = s.eof → Call r s (.message m, r', s')
  | empty : r'.Ok → pendingBytes r' s' = pendingBytes r s → work r' s' < work r s →
      s'.eof = s.eof → Call r s (.pending, r', s')
  | silent : parse (pendingBytes r s) = .short → s.eof = false →
      protocolReceiveAvailable r' s' = (.pending, r', s') → Call r s (.pending, r', s')
  | closed : parse (pendingBytes r s) = .short → s.eof = true →
      protocolReceiveAvailable r' s' = (.broken, r', s') → Call r s (.broken, r', s')
  | invalid : parse (pendingBytes r s) = .invalid →
      protocolReceiveAvailable r' s' = (.broken, r', s') → Call r s (.broken, r', s')

theorem protocolReceiveAvailable_call (hr : r.Ok) (s : Socket) :
    Call r s (protocolReceiveAvailable r s) := by
  induction hk : s.size using Nat.strongRecOn generalizing r s with
  | ind k ih =>
    subst hk
    cases ht : receiveTurn r s with
    | mk result state =>
      obtain ⟨r', s'⟩ := state
      have hturn := receiveTurn_turn hr s
      rw [ht] at hturn
      cases result with
      | none =>
        rw [protocolReceiveAvailable_none ht]
        cases hturn with
        | read hok hb hw he =>
          have hcall := ih _ (receiveTurn_size ht) hok s' rfl
          generalize protocolReceiveAvailable r' s' = final at hcall ⊢
          cases hcall with
          | message hok' hp hw' he' => exact .message hok' (hb ▸ hp) (by omega) (he'.trans he)
          | empty hok' hb' hw' he' => exact .empty hok' (hb'.trans hb) (by omega) (he'.trans he)
          | silent hp he' hfix => exact .silent (hb ▸ hp) (he ▸ he') hfix
          | closed hp he' hfix => exact .closed (hb ▸ hp) (he ▸ he') hfix
          | invalid hp hfix => exact .invalid (hb ▸ hp) hfix
      | some result =>
        have hcall := protocolReceiveAvailable_some ht
        rw [hcall]
        cases hturn with
        | message hp hw => exact .message (.inl (Nat.zero_le _)) hp hw rfl
        | empty hb hw he => exact .empty hr hb hw he
        | silent hp he => exact .silent hp he hcall
        | closed hp he => exact .closed hp he hcall
        | invalid hp => exact .invalid hp hcall

-- ---------------------------------------------------------------------------
-- Runs of calls
-- ---------------------------------------------------------------------------

/-- The verdict on a stream: only a frame that is cut short on an open
connection is worth waiting for. -/
def Ending.verdict : Ending → Bool → Verdict
  | .short, false => .waiting
  | .short, true => .broken
  | .invalid, _ => .broken

def Verdict.received : Verdict → Received
  | .waiting => .pending
  | .broken => .broken

theorem messages_cons_message (m : ControlMessage) (rs : List Received) :
    messages (.message m :: rs) = m :: messages rs := rfl

theorem messages_cons_pending (rs : List Received) : messages (.pending :: rs) = messages rs := rfl

theorem receiveCalls_succ (h : protocolReceiveAvailable r s = (x, r', s')) (n : Nat) :
    receiveCalls (n + 1) r s = x :: receiveCalls n r' s' := by
  rw [receiveCalls, h]

/-- Repeated calls yield the frames of the stream and then one verdict. -/
theorem receiveCalls_parseAll (hr : r.Ok) (s : Socket) :
    ∃ k, messages (receiveCalls k r s) = (parseAll (pendingBytes r s)).1 ∧
      ∀ n, receiveCalls (k + n) r s = receiveCalls k r s ++
        List.replicate n ((parseAll (pendingBytes r s)).2.verdict s.eof).received := by
  induction hk : work r s using Nat.strongRecOn generalizing r s with
  | ind k ih =>
    subst hk
    cases hc : protocolReceiveAvailable r s with
    | mk x state =>
      obtain ⟨r', s'⟩ := state
      have hcall := protocolReceiveAvailable_call hr s
      rw [hc] at hcall
      -- A call that ends the run: no message, and the same answer from then on.
      have hstop : ∀ v, protocolReceiveAvailable r' s' = (v, r', s') → x = v →
          messages [x] = (parseAll (pendingBytes r s)).1 →
          v = ((parseAll (pendingBytes r s)).2.verdict s.eof).received →
          ∃ k, messages (receiveCalls k r s) = (parseAll (pendingBytes r s)).1 ∧
            ∀ n, receiveCalls (k + n) r s = receiveCalls k r s ++
              List.replicate n ((parseAll (pendingBytes r s)).2.verdict s.eof).received := by
        intro v hfix hx hm hv
        refine ⟨1, by rw [receiveCalls_succ hc]; exact hm, fun n => ?_⟩
        rw [Nat.add_comm, receiveCalls_succ hc, receiveCalls_succ hc, receiveCalls_fixed hfix, ← hv]
        rfl
      cases hcall with
      | message hok hp hw he =>
        obtain ⟨k, hm, hn⟩ := ih _ hw hok s' rfl
        rw [parseAll_message hp]
        refine ⟨k + 1, ?_, fun n => ?_⟩
        · rw [receiveCalls_succ hc, messages_cons_message, hm]
        · rw [Nat.add_right_comm, receiveCalls_succ hc, receiveCalls_succ hc, hn n, he]
          rfl
      | empty hok hb hw he =>
        obtain ⟨k, hm, hn⟩ := ih _ hw hok s' rfl
        rw [hb] at hm hn
        refine ⟨k + 1, ?_, fun n => ?_⟩
        · rw [receiveCalls_succ hc, messages_cons_pending, hm]
        · rw [Nat.add_right_comm, receiveCalls_succ hc, receiveCalls_succ hc, hn n, he]
          rfl
      | silent hp he hfix =>
        exact hstop _ hfix rfl (by rw [parseAll_short hp]; rfl) (by rw [parseAll_short hp, he]; rfl)
      | closed hp he hfix =>
        exact hstop _ hfix rfl (by rw [parseAll_short hp]; rfl) (by rw [parseAll_short hp, he]; rfl)
      | invalid hp hfix =>
        exact hstop _ hfix rfl (by rw [parseAll_invalid hp]; rfl) (by rw [parseAll_invalid hp]; rfl)

def turns : Nat → ControlReader → Socket → ControlReader × Socket
  | 0, r, s => (r, s)
  | n + 1, r, s => turns n (receiveTurn r s).2.1 (receiveTurn r s).2.2

theorem receiveTurn_ok (hr : r.Ok) (s : Socket) : (receiveTurn r s).2.1.Ok := by
  have hturn := receiveTurn_turn hr s
  generalize receiveTurn r s = after at hturn ⊢
  cases hturn with
  | read hok => exact hok
  | message => exact .inl (Nat.zero_le _)
  | empty | silent | closed | invalid => exact hr

theorem turns_ok (n : Nat) (hr : r.Ok) (s : Socket) : (turns n r s).1.Ok := by
  induction n generalizing r s with
  | zero => exact hr
  | succ n ih => exact ih (receiveTurn_ok hr s) _

-- ---------------------------------------------------------------------------
-- The blocking receiver
-- ---------------------------------------------------------------------------

inductive Receive (s : Socket) : Blocking ControlMessage → Prop
  | message : parse s.bytes = .message m s'.bytes → s'.size < s.size → s'.eof = s.eof →
      s'.Blocking → Receive s (.done m s')
  | waiting : parse s.bytes = .short → s.eof = false → Receive s .blocked
  | closed : parse s.bytes = .short → s.eof = true → Receive s .failed
  | invalid : parse s.bytes = .invalid → Receive s .failed

theorem parse_short_of_payload (hv : HeaderValid header) (h4 : header.length = 4)
    (h : rest.length < headerLength header) : parse (header ++ rest) = .short := by
  have hlen : ¬ (header ++ rest).length < 4 := by
    rw [List.length_append]
    omega
  have hbody : (header ++ rest).length < 4 + headerLength header := by
    rw [List.length_append]
    omega
  rw [parse, if_neg hlen, dif_pos ((headerValid_append rest h4.ge).mpr hv),
    headerLength_append rest h4.ge, if_pos hbody]

theorem parse_header_payload (hv : HeaderValid header) (h4 : header.length = 4)
    (h : payload.length = headerLength header) (hfits : payload.length ≤ controlMaxPayload)
    (rest : List UInt8) :
    parse (header ++ (payload ++ rest)) = .message ⟨header.getD 1 0, payload, hfits⟩ rest := by
  have hvalid := (headerValid_append payload h4.ge).mpr hv
  have hlength := headerLength_append payload h4.ge
  have hm : messageAt (header ++ payload) hvalid = ⟨header.getD 1 0, payload, hfits⟩ := by
    have htype : (header ++ payload).getD 1 0 = header.getD 1 0 := by
      obtain ⟨a, b, c, d, tail, rfl⟩ := exists_header h4.ge
      rfl
    simp only [messageAt, ControlMessage.mk.injEq]
    refine ⟨htype, ?_⟩
    rw [hlength, ← h4, List.drop_left, ← h, List.take_length]
  rw [← List.append_assoc, parse_complete rest hvalid (by rw [List.length_append]; omega), hm]

theorem protocolReceive_receive (hb : s.Blocking) : Receive s (protocolReceive s) := by
  unfold protocolReceive
  rcases readAll_cases 4 s with ⟨header, t, hd, hbytes, hsize, heof, hbl⟩ | ⟨hd, hlen, heof⟩ |
    ⟨hd, hlen⟩ <;> rw [hd] <;> simp only
  · split
    · rename_i hv
      rcases readAll_cases (headerLength header.1) t with
        ⟨payload, u, hp, hpbytes, hpsize, hpeof, hpbl⟩ | ⟨hp, hplen, hpeof⟩ | ⟨hp, hplen⟩ <;>
        rw [hp] <;> simp only
      · refine .message ?_ (by omega) (hpeof.trans heof) (hpbl (hbl hb))
        rw [hbytes, hpbytes]
        exact parse_header_payload hv header.2 payload.2 _ _
      · refine .waiting ?_ (heof ▸ hpeof)
        rw [hbytes]
        exact parse_short_of_payload hv header.2 hplen
      · refine .closed ?_ (heof ▸ (hplen (hbl hb)).2)
        rw [hbytes]
        exact parse_short_of_payload hv header.2 (hplen (hbl hb)).1
    · rename_i hv
      refine .invalid ?_
      rw [hbytes]
      exact parse_invalid _ header.2.ge hv
  · exact .waiting (if_pos hlen) heof
  · exact .closed (if_pos (hlen hb).1) (hlen hb).2

theorem receiveAll_done (h : protocolReceive s = .done m s') :
    receiveAll s = (m :: (receiveAll s').1, (receiveAll s').2) := by
  rw [receiveAll]
  split <;> rename_i heq <;> rw [h] at heq <;> cases heq
  rfl

theorem receiveAll_blocked (h : protocolReceive s = .blocked) : receiveAll s = ([], .waiting) := by
  rw [receiveAll]
  split <;> rename_i heq <;> rw [h] at heq <;> cases heq

theorem receiveAll_failed (h : protocolReceive s = .failed) : receiveAll s = ([], .broken) := by
  rw [receiveAll]
  split <;> rename_i heq <;> rw [h] at heq <;> cases heq

theorem receiveAll_parseAll (hb : s.Blocking) :
    receiveAll s = ((parseAll s.bytes).1, (parseAll s.bytes).2.verdict s.eof) := by
  induction hk : s.size using Nat.strongRecOn generalizing s with
  | ind k ih =>
    subst hk
    have hreceive := protocolReceive_receive hb
    cases hc : protocolReceive s with
    | done m s' =>
      rw [hc] at hreceive
      cases hreceive with
      | message hp hs he hb' =>
        rw [receiveAll_done hc, parseAll_message hp, ih _ hs hb' rfl, he]
    | blocked =>
      rw [hc] at hreceive
      cases hreceive with
      | waiting hp he => rw [receiveAll_blocked hc, parseAll_short hp, he]; rfl
    | failed =>
      rw [hc] at hreceive
      rw [receiveAll_failed hc]
      cases hreceive with
      | closed hp he => rw [parseAll_short hp, he]; rfl
      | invalid hp => rw [parseAll_invalid hp]; rfl

-- ---------------------------------------------------------------------------
-- What was sent is what is received
-- ---------------------------------------------------------------------------

def sendAll (sink : Sink) : List ControlMessage → Bool × Sink
  | [] => (true, sink)
  | m :: ms => match protocolSend sink m.type m.payload with
    | (true, sink) => sendAll sink ms
    | (false, sink) => (false, sink)

theorem sendAll_written (h : sendAll sink ms = (true, sink')) :
    sink'.written = sink.written ++ ms.flatMap fun m => frame m.type m.payload := by
  induction ms generalizing sink with
  | nil =>
    cases h
    simp
  | cons m ms ih =>
    rw [sendAll] at h
    cases hs : protocolSend sink m.type m.payload with
    | mk ok after =>
      cases ok with
      | false => simp [hs] at h
      | true =>
        have hone := (protocolSend_ok (by rw [hs])).2
        rw [hs] at h hone
        rw [ih h, hone, List.flatMap_cons, List.append_assoc]

theorem parseAll_frames (ms : List ControlMessage) :
    parseAll (ms.flatMap fun m => frame m.type m.payload) = (ms, .short) := by
  induction ms with
  | nil => exact parseAll_short rfl
  | cons m ms ih =>
    rw [List.flatMap_cons, parseAll_message (parse_frame m _), ih]

/-- However `recv` cuts a stream, repeated `protocol_receive_available` calls
yield the messages that `protocol_receive` yields on the whole of it and then
its verdict forever, holding at most one frame; and a stream that
`protocol_send` wrote yields what was sent. -/
theorem receiveCalls_receiveAll (cut whole : Socket) (hb : whole.Blocking)
    (hbytes : cut.bytes = whole.bytes) (heof : cut.eof = whole.eof) :
    (∃ k, messages (receiveCalls k {} cut) = (receiveAll whole).1 ∧
      ∀ n, receiveCalls (k + n) {} cut =
        receiveCalls k {} cut ++ List.replicate n (receiveAll whole).2.received) ∧
    (∀ n, (turns n {} cut).1.used ≤ 4 + controlMaxPayload) ∧
    (∀ answers sent sink, sendAll { answers } sent = (true, sink) → cut.bytes = sink.written →
      receiveAll whole = (sent, if whole.eof then .broken else .waiting)) := by
  have hok : ControlReader.Ok {} := .inl (Nat.zero_le _)
  have hpending : pendingBytes {} cut = whole.bytes := hbytes
  rw [receiveAll_parseAll hb]
  refine ⟨?_, fun n => (turns_ok n hok cut).used_le, ?_⟩
  · have hcalls := receiveCalls_parseAll hok cut
    rwa [hpending, heof] at hcalls
  · intro answers sent sink hsend hwritten
    rw [← hbytes, hwritten, sendAll_written hsend, List.nil_append, parseAll_frames]
    cases whole.eof <;> rfl

theorem receiveCalls_receiveAll_cut_header :
    ∃ k, messages (receiveCalls k {}
        ⟨[.data 1 [10], .eintr, .eagain, .data 0 [0, 1]], false⟩) =
        (receiveAll ⟨[.data 1 [10, 0, 0, 1]], false⟩).1 ∧
      ∀ n, receiveCalls (k + n) {} ⟨[.data 1 [10], .eintr, .eagain, .data 0 [0, 1]], false⟩ =
        receiveCalls k {} ⟨[.data 1 [10], .eintr, .eagain, .data 0 [0, 1]], false⟩ ++
          List.replicate n (receiveAll ⟨[.data 1 [10, 0, 0, 1]], false⟩).2.received :=
  (receiveCalls_receiveAll ⟨[.data 1 [10], .eintr, .eagain, .data 0 [0, 1]], false⟩
    ⟨[.data 1 [10, 0, 0, 1]], false⟩ (by simp [Socket.Blocking]) rfl rfl).1

end NanokvmRdp.Protocol
