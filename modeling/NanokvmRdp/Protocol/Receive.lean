import NanokvmRdp.Protocol.Frame

/-!
# The two control receivers

`protocol_receive_available` keeps a partial frame between calls and never
blocks; `protocol_receive` blocks until it has a whole frame. A socket is the
list of things `recv` will see: runs of bytes, signals and empty reads, and
after them either silence or the end of the stream. A read takes at most
what it asks for and leaves the rest of a run in place, so every way the
kernel may cut a stream is some list of runs.
-/

namespace NanokvmRdp.Protocol

inductive RecvEvent where
  | data (first : UInt8) (more : List UInt8)
  | eintr
  | eagain
  deriving DecidableEq, Repr

def RecvEvent.bytes : RecvEvent → List UInt8
  | .data first more => first :: more
  | .eintr | .eagain => []

def RecvEvent.size : RecvEvent → Nat
  | .data _ more => more.length + 1
  | .eintr | .eagain => 1

structure Socket where
  events : List RecvEvent
  eof : Bool
  deriving Repr

def Socket.bytes (s : Socket) : List UInt8 := s.events.flatMap RecvEvent.bytes

def Socket.size (s : Socket) : Nat := (s.events.map RecvEvent.size).sum

inductive RecvResult where
  | got (bytes : List UInt8)
  | eintr
  | eagain
  | closed
  deriving DecidableEq, Repr

/-- One `recv` of at most `more + 1` bytes on a non-blocking socket. -/
def recv (more : Nat) (s : Socket) : RecvResult × Socket :=
  match s.events with
  | [] => (if s.eof then .closed else .eagain, s)
  | .eintr :: events => (.eintr, { s with events })
  | .eagain :: events => (.eagain, { s with events })
  | .data first rest :: events =>
    (.got (first :: rest.take more),
      match rest.drop more with
      | [] => { s with events }
      | next :: left => { s with events := .data next left :: events })

theorem recv_cases (more : Nat) (s : Socket) :
    (s.events = [] ∧ recv more s = (if s.eof then .closed else .eagain, s)) ∨
    (∃ s', recv more s = (.eintr, s') ∧ s'.bytes = s.bytes ∧ s'.size < s.size ∧ s'.eof = s.eof) ∨
    (∃ s', recv more s = (.eagain, s') ∧ s'.bytes = s.bytes ∧ s'.size < s.size ∧ s'.eof = s.eof) ∨
    (∃ bytes s', recv more s = (.got bytes, s') ∧ 0 < bytes.length ∧ bytes.length ≤ more + 1 ∧
      s.bytes = bytes ++ s'.bytes ∧ s.size = bytes.length + s'.size ∧ s'.eof = s.eof) := by
  obtain ⟨events, eof⟩ := s
  cases events with
  | nil => exact .inl ⟨rfl, rfl⟩
  | cons e events =>
    cases e with
    | eintr => exact .inr (.inl ⟨⟨events, eof⟩, rfl, rfl, by simp [Socket.size, RecvEvent.size], rfl⟩)
    | eagain =>
      exact .inr (.inr (.inl ⟨⟨events, eof⟩, rfl, rfl, by simp [Socket.size, RecvEvent.size], rfl⟩))
    | data first rest =>
      refine .inr (.inr (.inr ⟨first :: rest.take more, _, rfl, by simp, by simp, ?_⟩))
      -- The unread end of the run stays in front of the later events.
      have hsplit := List.take_append_drop more rest
      have hlen : (rest.take more).length + (rest.drop more).length = rest.length := by
        rw [← List.length_append, hsplit]
      cases hd : rest.drop more with
      | nil =>
        rw [hd] at hsplit hlen
        simp only [List.append_nil] at hsplit
        simp only [Socket.bytes, Socket.size, List.flatMap_cons, RecvEvent.bytes, List.map_cons,
          RecvEvent.size, List.sum_cons, List.length_cons]
        exact ⟨by rw [hsplit], by rw [hsplit], trivial⟩
      | cons next left =>
        rw [hd] at hsplit hlen
        simp only [List.length_cons] at hlen
        simp only [Socket.bytes, Socket.size, List.flatMap_cons, RecvEvent.bytes, List.map_cons,
          RecvEvent.size, List.sum_cons, List.length_cons]
        refine ⟨?_, by omega, trivial⟩
        conv_lhs => rw [← hsplit]
        simp

-- ---------------------------------------------------------------------------
-- protocol_receive_available
-- ---------------------------------------------------------------------------

structure ControlReader where
  data : List UInt8 := []
  deriving DecidableEq, Repr

def ControlReader.used (r : ControlReader) : Nat := r.data.length

inductive Received where
  | message (m : ControlMessage)
  | pending
  | broken
  deriving DecidableEq, Repr

/-- One turn of the loop: check what the reader holds, then read. `none`
goes round again. -/
def receiveTurn (r : ControlReader) (s : Socket) : Option Received × ControlReader × Socket :=
  if 4 ≤ r.used ∧ ¬ HeaderValid r.data then (some .broken, r, s)
  else if h : 4 ≤ r.used ∧ HeaderValid r.data ∧ r.used = 4 + headerLength r.data then
    (some (.message (messageAt r.data h.2.1)), {}, s)
  else
    let needed := if 4 ≤ r.used then 4 + headerLength r.data else 4
    match recv (needed - r.used - 1) s with
    | (.got bytes, s) => (none, ⟨r.data ++ bytes⟩, s)
    | (.eintr, s) => (none, r, s)
    | (.eagain, s) => (some .pending, r, s)
    | (.closed, s) => (some .broken, r, s)

theorem receiveTurn_size (h : receiveTurn r s = (none, r', s')) : s'.size < s.size := by
  unfold receiveTurn at h
  split at h
  · cases h
  · split at h
    · cases h
    · simp only at h
      rcases recv_cases _ s with ⟨-, hr⟩ | ⟨t, hr, -, hs, -⟩ | ⟨t, hr, -, hs, -⟩ |
        ⟨bytes, t, hr, hpos, -, -, hs, -⟩
      · rw [hr] at h
        cases he : s.eof <;> simp [he] at h
      · rw [hr] at h
        cases h
        exact hs
      · rw [hr] at h
        cases h
      · rw [hr] at h
        cases h
        omega

def protocolReceiveAvailable (r : ControlReader) (s : Socket) : Received × ControlReader × Socket :=
  match _ht : receiveTurn r s with
  | (some result, r', s') => (result, r', s')
  | (none, r', s') => protocolReceiveAvailable r' s'
termination_by s.size
decreasing_by exact receiveTurn_size _ht

theorem protocolReceiveAvailable_some (h : receiveTurn r s = (some result, r', s')) :
    protocolReceiveAvailable r s = (result, r', s') := by
  rw [protocolReceiveAvailable]
  split <;> rename_i heq <;> rw [h] at heq <;> cases heq
  rfl

theorem protocolReceiveAvailable_none (h : receiveTurn r s = (none, r', s')) :
    protocolReceiveAvailable r s = protocolReceiveAvailable r' s' := by
  rw [protocolReceiveAvailable]
  split <;> rename_i heq <;> rw [h] at heq <;> cases heq
  rfl

/-- The results of `n` calls in a row, as the agent's main loop makes them. -/
def receiveCalls : Nat → ControlReader → Socket → List Received
  | 0, _, _ => []
  | n + 1, r, s =>
    let (result, r', s') := protocolReceiveAvailable r s
    result :: receiveCalls n r' s'

def messages (results : List Received) : List ControlMessage :=
  results.filterMap fun
    | .message m => some m
    | _ => none

-- ---------------------------------------------------------------------------
-- protocol_receive
-- ---------------------------------------------------------------------------

/-- A blocking read either ends, waits for bytes that never come, or fails. -/
inductive Blocking (α : Type) where
  | done (a : α) (s : Socket)
  | blocked
  | failed

theorem recv_got (h : recv more s = (.got bytes, s')) : 0 < bytes.length ∧ bytes.length ≤ more + 1 ∧
    s.bytes = bytes ++ s'.bytes ∧ s.size = bytes.length + s'.size ∧ s'.eof = s.eof := by
  rcases recv_cases more s with ⟨-, hr⟩ | ⟨t, hr, -⟩ | ⟨t, hr, -⟩ | ⟨b, t, hr, hrest⟩ <;> rw [hr] at h
  · cases he : s.eof <;> simp [he] at h
  · cases h
  · cases h
  · cases h
    exact hrest

theorem recv_eintr (h : recv more s = (.eintr, s')) :
    s'.bytes = s.bytes ∧ s'.size < s.size ∧ s'.eof = s.eof := by
  rcases recv_cases more s with ⟨-, hr⟩ | ⟨t, hr, hrest⟩ | ⟨t, hr, -⟩ | ⟨b, t, hr, -⟩ <;> rw [hr] at h
  · cases he : s.eof <;> simp [he] at h
  · cases h
    exact hrest
  · cases h
  · cases h

theorem length_got_append (hr : recv n s = (.got bytes, s'))
    (more : { data : List UInt8 // data.length = n + 1 - bytes.length }) :
    (bytes ++ more.1).length = n + 1 := by
  have hgot := (recv_got hr).2.1
  rw [List.length_append, more.2]
  omega

/-- `read_all` of `n` bytes. A receive timeout shows as `eagain` and fails it. -/
def readAll (n : Nat) (s : Socket) : Blocking { data : List UInt8 // data.length = n } :=
  match n with
  | 0 => .done ⟨[], rfl⟩ s
  | n + 1 =>
    if s.events = [] ∧ s.eof = false then .blocked
    else match hr : recv n s with
      | (.got bytes, s') =>
        match readAll (n + 1 - bytes.length) s' with
        | .done more s'' => .done ⟨bytes ++ more.1, length_got_append hr more⟩ s''
        | .blocked => .blocked
        | .failed => .failed
      | (.eintr, s') => readAll (n + 1) s'
      | (.eagain, _) => .failed
      | (.closed, _) => .failed
termination_by s.size
decreasing_by
  · have := recv_got hr
    omega
  · exact (recv_eintr hr).2.1

def protocolReceive (s : Socket) : Blocking ControlMessage :=
  match readAll 4 s with
  | .done header s' =>
    if h : HeaderValid header.1 then
      match readAll (headerLength header.1) s' with
      | .done payload s'' => .done ⟨header.1.getD 1 0, payload.1, by rw [payload.2]; exact h.2⟩ s''
      | .blocked => .blocked
      | .failed => .failed
    else .failed
  | .blocked => .blocked
  | .failed => .failed

theorem readAll_got (hq : ¬ (s.events = [] ∧ s.eof = false)) (hr : recv n s = (.got bytes, s')) :
    readAll (n + 1) s = match readAll (n + 1 - bytes.length) s' with
      | .done more s'' => .done ⟨bytes ++ more.1, length_got_append hr more⟩ s''
      | .blocked => .blocked
      | .failed => .failed := by
  rw [readAll, if_neg hq]
  split <;> rename_i heq <;> rw [hr] at heq <;> cases heq
  rfl

theorem readAll_eintr (hq : ¬ (s.events = [] ∧ s.eof = false)) (hr : recv n s = (.eintr, s')) :
    readAll (n + 1) s = readAll (n + 1) s' := by
  rw [readAll, if_neg hq]
  split <;> rename_i heq <;> rw [hr] at heq <;> cases heq
  rfl

theorem readAll_stop (hq : ¬ (s.events = [] ∧ s.eof = false))
    (hr : recv n s = (.eagain, s') ∨ recv n s = (.closed, s')) : readAll (n + 1) s = .failed := by
  rw [readAll, if_neg hq]
  split
  · rename_i heq
    rcases hr with hr | hr <;> rw [hr] at heq <;> cases heq
  · rename_i heq
    rcases hr with hr | hr <;> rw [hr] at heq <;> cases heq
  · rfl
  · rfl

def Socket.Blocking (s : Socket) : Prop := RecvEvent.eagain ∉ s.events

theorem Socket.Blocking.of_recv {s s' : Socket} (h : s.Blocking)
    (hr : recv more s = (result, s')) : s'.Blocking := by
  unfold recv at hr
  split at hr
  · cases hr
    exact h
  all_goals
    rename_i hev
    have hrest := fun hm => h (hev ▸ List.mem_cons_of_mem _ hm)
    cases hr
  · exact hrest
  · exact hrest
  · split
    · exact hrest
    · simpa [Blocking] using hrest

theorem Socket.Blocking.recv_ne_eagain {s : Socket} (h : s.Blocking) (heof : s.eof = true) :
    recv more s ≠ (.eagain, s') := by
  intro hr
  unfold recv at hr
  split at hr
  · rw [heof] at hr
    cases hr
  · cases hr
  · rename_i hev
    exact h (hev ▸ List.mem_cons_self)
  · cases hr

/-- What `read_all` can do: deliver the next `n` bytes, or run out of them
and wait or fail as the stream ends. A timeout is the only other failure. -/
theorem readAll_cases (n : Nat) (s : Socket) :
    (∃ data s', readAll n s = .done data s' ∧ s.bytes = data.1 ++ s'.bytes ∧
      n + s'.size ≤ s.size ∧ s'.eof = s.eof ∧ (s.Blocking → s'.Blocking)) ∨
    (readAll n s = .blocked ∧ s.bytes.length < n ∧ s.eof = false) ∨
    (readAll n s = .failed ∧ (s.Blocking → s.bytes.length < n ∧ s.eof = true)) := by
  induction hk : s.size using Nat.strongRecOn generalizing n s with
  | ind k ih =>
    subst hk
    cases n with
    | zero => exact .inl ⟨⟨[], rfl⟩, s, by rw [readAll], rfl, by omega, rfl, id⟩
    | succ n =>
      by_cases hq : s.events = [] ∧ s.eof = false
      · refine .inr (.inl ⟨by rw [readAll, if_pos hq], ?_, hq.2⟩)
        simp [Socket.bytes, hq.1]
      cases hev : s.events with
      | nil =>
        have he : s.eof = true := by
          cases h : s.eof with
          | true => rfl
          | false => exact absurd ⟨hev, h⟩ hq
        have hr : recv n s = (.closed, s) := by simp [recv, hev, he]
        refine .inr (.inr ⟨readAll_stop hq (.inr hr), fun _ => ⟨?_, he⟩⟩)
        simp [Socket.bytes, hev]
      | cons e events =>
        cases e with
        | eagain =>
          refine .inr (.inr ⟨readAll_stop hq (.inl (by simp [recv, hev]; rfl)), fun hb => ?_⟩)
          exact absurd (by simp [hev]) hb
        | eintr =>
          have hr : recv n s = (.eintr, { s with events }) := by simp [recv, hev]
          obtain ⟨hb, hs, he⟩ := recv_eintr hr
          have hbl : s.Blocking → Socket.Blocking { s with events } := fun h => h.of_recv hr
          rw [readAll_eintr hq hr]
          rcases ih _ hs (n + 1) _ rfl with ⟨d, t, h, hd, hsz, heq, hbt⟩ | ⟨h, hl, heq⟩ | ⟨h, hl⟩
          · exact .inl ⟨d, t, h, hb ▸ hd, by omega, heq.trans he, hbt ∘ hbl⟩
          · exact .inr (.inl ⟨h, hb ▸ hl, he ▸ heq⟩)
          · exact .inr (.inr ⟨h, fun hbk => ⟨hb ▸ (hl (hbl hbk)).1, he ▸ (hl (hbl hbk)).2⟩⟩)
        | data first rest =>
          obtain ⟨s', hr⟩ : ∃ s', recv n s = (.got (first :: rest.take n), s') := by
            simp [recv, hev]
          obtain ⟨hpos, hle, hb, hs, he⟩ := recv_got hr
          have hbl : s.Blocking → s'.Blocking := fun h => h.of_recv hr
          rw [readAll_got hq hr]
          rcases ih _ (by omega : s'.size < s.size) (n + 1 - (first :: rest.take n).length) s' rfl with
            ⟨d, t, h, hd, hsz, heq, hbt⟩ | ⟨h, hl, heq⟩ | ⟨h, hl⟩
          · refine .inl ⟨_, t, by rw [h], ?_, by omega, heq.trans he, hbt ∘ hbl⟩
            simp only [hb, hd, List.append_assoc]
          · refine .inr (.inl ⟨by rw [h], ?_, he ▸ heq⟩)
            rw [hb, List.length_append]
            omega
          · refine .inr (.inr ⟨by rw [h], fun hbk => ⟨?_, he ▸ (hl (hbl hbk)).2⟩⟩)
            have := (hl (hbl hbk)).1
            rw [hb, List.length_append]
            omega

theorem readAll_done {data : { data : List UInt8 // data.length = n }}
    (h : readAll n s = .done data s') : n + s'.size ≤ s.size := by
  rcases readAll_cases n s with ⟨d, t, hd, -, hs, -⟩ | ⟨hd, -⟩ | ⟨hd, -⟩ <;> rw [h] at hd <;> cases hd
  exact hs

theorem protocolReceive_size (h : protocolReceive s = .done m s') : s'.size < s.size := by
  unfold protocolReceive at h
  split at h
  · rename_i header t ht
    have hhead := readAll_done ht
    split at h
    · split at h
      · rename_i payload u hu
        cases h
        have hpay := readAll_done hu
        omega
      · cases h
      · cases h
    · cases h
  · cases h
  · cases h

/-- How a run of `protocol_receive` calls ends: waiting in one, or with the
first that returns false. -/
inductive Verdict where
  | waiting
  | broken
  deriving DecidableEq, Repr

def receiveAll (s : Socket) : List ControlMessage × Verdict :=
  match _hp : protocolReceive s with
  | .done m s' =>
    let (ms, v) := receiveAll s'
    (m :: ms, v)
  | .blocked => ([], .waiting)
  | .failed => ([], .broken)
termination_by s.size
decreasing_by exact protocolReceive_size _hp

end NanokvmRdp.Protocol
