import NanokvmRdp.Protocol.Framing

/-!
# Frames taken off a stream

`Consumed bytes taken left` says that reading `taken` off `bytes` leaves
`left`. A connection whose bytes still arrive is described by it at any time:
what was handled, and what the reader and the socket hold.
-/

namespace NanokvmRdp.Protocol

inductive Consumed : List UInt8 → List ControlMessage → List UInt8 → Prop
  | done (bytes : List UInt8) : Consumed bytes [] bytes
  | frame : parse bytes = .message m rest → Consumed rest taken left →
      Consumed bytes (m :: taken) left

namespace Consumed

theorem concat (h : Consumed bytes taken left) (hparse : parse left = .message m rest) :
    Consumed bytes (taken ++ [m]) rest := by
  induction h with
  | done => exact .frame hparse (.done rest)
  | frame hfirst _ ih => exact .frame hfirst (ih hparse)

theorem split_of_parse (h : parse bytes = .message m rest) :
    ∃ first, ∃ hvalid : HeaderValid first,
      first.length = 4 + headerLength first ∧ messageAt first hvalid = m ∧ bytes = first ++ rest := by
  have hparse := h
  unfold parse at h
  split at h
  · cases h
  split at h
  case isFalse => cases h
  case isTrue hlen hvalid =>
    split at h
    · cases h
    case isFalse hbody =>
      obtain ⟨-, hrest⟩ := Parsed.message.inj h
      have hsplit : bytes = bytes.take (4 + headerLength bytes) ++ rest := by
        rw [← hrest, List.take_append_drop]
      generalize hfirst : bytes.take (4 + headerLength bytes) = first at hsplit
      have hlength : first.length = 4 + headerLength bytes := by
        rw [← hfirst, List.length_take]
        omega
      have hsame : headerLength bytes = headerLength first := by
        rw [hsplit, headerLength_append rest (by omega)]
      have hvalid' : HeaderValid first := by
        rw [hsplit, headerValid_append rest (by omega)] at hvalid
        exact hvalid
      rw [hsame] at hlength
      refine ⟨first, hvalid', hlength, ?_, hsplit⟩
      rw [hsplit, parse_complete rest hvalid' hlength] at hparse
      exact (Parsed.message.inj hparse).1

theorem parse_append (h : parse bytes = .message m rest) (more : List UInt8) :
    parse (bytes ++ more) = .message m (rest ++ more) := by
  obtain ⟨first, hvalid, hlength, rfl, rfl⟩ := split_of_parse h
  rw [List.append_assoc, parse_complete (rest ++ more) hvalid hlength]

theorem append (h : Consumed bytes taken left) (more : List UInt8) :
    Consumed (bytes ++ more) taken (left ++ more) := by
  induction h with
  | done => exact .done _
  | frame hfirst _ ih => exact .frame (parse_append hfirst more) ih

theorem parseAll_eq (h : Consumed bytes taken left) :
    parseAll bytes = (taken ++ (parseAll left).1, (parseAll left).2) := by
  induction h with
  | done => rfl
  | frame hfirst _ ih => rw [parseAll_message hfirst, ih]; rfl

end Consumed

-- ---------------------------------------------------------------------------
-- One call on a connection that goes on
-- ---------------------------------------------------------------------------

/-- What a call of `protocol_receive_available` says and leaves behind, whatever
its result. -/
inductive Left (r : ControlReader) (s : Socket) : Received × ControlReader × Socket → Prop
  | message : r'.Ok → parse (pendingBytes r s) = .message m (pendingBytes r' s') → s'.eof = s.eof →
      Left r s (.message m, r', s')
  | pending : r'.Ok → pendingBytes r' s' = pendingBytes r s → s'.eof = s.eof → Left r s (.pending, r', s')
  | closed : parse (pendingBytes r s) = .short → s.eof = true → Left r s (.broken, r', s')
  | invalid : parse (pendingBytes r s) = .invalid → Left r s (.broken, r', s')

theorem protocolReceiveAvailable_left (hr : r.Ok) (s : Socket) :
    Left r s (protocolReceiveAvailable r s) := by
  induction hk : s.size using Nat.strongRecOn generalizing r s with
  | ind k ih =>
    subst hk
    have hturn := receiveTurn_turn hr s
    cases ht : receiveTurn r s with
    | mk result state =>
      obtain ⟨r', s'⟩ := state
      rw [ht] at hturn
      cases result with
      | none =>
        rw [protocolReceiveAvailable_none ht]
        cases hturn with
        | read hok hbytes _ heof =>
          have hcall := ih _ (receiveTurn_size ht) hok s' rfl
          generalize protocolReceiveAvailable r' s' = final at hcall ⊢
          cases hcall with
          | message hok' hparse heof' => exact .message hok' (hbytes ▸ hparse) (heof'.trans heof)
          | pending hok' hbytes' heof' => exact .pending hok' (hbytes'.trans hbytes) (heof'.trans heof)
          | closed hparse heof' => exact .closed (hbytes ▸ hparse) (heof ▸ heof')
          | invalid hparse => exact .invalid (hbytes ▸ hparse)
      | some result =>
        rw [protocolReceiveAvailable_some ht]
        cases hturn with
        | message hparse _ => exact .message (.inl (Nat.zero_le _)) hparse rfl
        | empty hbytes _ heof => exact .pending hr hbytes heof
        | silent _ _ => exact .pending hr rfl rfl
        | closed hparse heof => exact .closed hparse heof
        | invalid hparse => exact .invalid hparse

-- ---------------------------------------------------------------------------
-- A socket that does not make the reader wait
-- ---------------------------------------------------------------------------

end NanokvmRdp.Protocol
