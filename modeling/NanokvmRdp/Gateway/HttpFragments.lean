import NanokvmRdp.Gateway.HttpRequest

/-!
# Fragments of a request

How `recv` cuts a connection into pieces decides how much of the body is in the
array of the header when its length is read. No access is outside of an array,
and the bytes of the body are those behind the blank line whatever the pieces
are; only the length may be read from the body itself, since `strtoul` skips
line ends: behind a `Content-Length` with a blank value it goes on into what
follows the line.
-/

namespace NanokvmRdp.Gateway

open Protocol CString

-- ---------------------------------------------------------------------------
-- The length
-- ---------------------------------------------------------------------------

theorem skipBlanks_append (text tail : List UInt8) :
    skipBlanks (text ++ (crlf2 ++ tail)) = skipBlanks text ++ (crlf2 ++ tail) := by
  unfold skipBlanks
  rw [List.dropWhile_append]
  split
  · rename_i hblank
    rw [List.isEmpty_iff.mp hblank]
    rfl
  · rfl

theorem exists_namesHeader (name : List UInt8) {line : List UInt8} {span : Nat}
    (h : span ≤ line.length) : ∃ named, (named = true → name.length + 1 ≤ line.length) ∧
      ∀ more, namesHeader name (line ++ more) span = some named := by
  by_cases hlong : name.length + 1 < span
  · have hname : name.length ≤ line.length := by omega
    have hchar : ∀ more, charAt (line ++ more) name.length = charAt line name.length := by
      intro more
      unfold charAt
      rw [List.append_assoc, List.getElem?_append_left (by omega),
        List.getElem?_append_left (by omega)]
    obtain ⟨c, hc⟩ : ∃ c, charAt line name.length = some c := by
      have hinside : name.length < (line ++ [0]).length := by
        rw [List.length_append]
        omega
      exact ⟨_, List.getElem?_eq_getElem hinside⟩
    refine ⟨sameLetters line name name.length && c == colon, fun _ => by omega, fun more => ?_⟩
    have hsame : sameLetters (line ++ more) name name.length =
        sameLetters line name name.length := by
      rw [sameLetters, sameLetters, List.take_append_of_le_length hname]
    rw [namesHeader, hsame, hchar, hc]
    cases sameLetters line name name.length <;> simp [hlong]
  · refine ⟨false, fun hfalse => absurd hfalse Bool.false_ne_true, fun more => ?_⟩
    rw [namesHeader, if_neg fun hboth => hlong hboth.1]

theorem exists_headerValue (name header : List UInt8) : ∃ value : Option (List UInt8),
    ∀ tail, headerValue name (header ++ (crlf2 ++ tail)) =
      some (value.map fun text => text ++ (crlf2 ++ tail)) := by
  induction hlength : header.length using Nat.strongRecOn generalizing header with
  | ind length ih =>
    subst hlength
    obtain ⟨later, hfound, before, rfl⟩ :=
      exists_strstr (show crlf <+: crlf2 from ⟨crlf, rfl⟩) header
    have hline : ∀ tail, strstr crlf (before ++ later ++ (crlf2 ++ tail)) =
        some (later ++ (crlf2 ++ tail)) := by
      intro tail
      have hmore := strstr_append hfound tail
      simpa only [List.append_assoc] using hmore
    cases before with
    | nil =>
      -- an empty line
      exact ⟨none, fun tail => headerValue_blank (hline tail)⟩
    | cons first before =>
      have hne : ∀ tail : List UInt8, (later ++ (crlf2 ++ tail)).length ≠
          (first :: before ++ later ++ (crlf2 ++ tail)).length := by
        intro tail
        simp only [List.length_append, List.length_cons]
        omega
      have hspan : ∀ tail : List UInt8, (first :: before ++ later ++ (crlf2 ++ tail)).length -
          (later ++ (crlf2 ++ tail)).length = (first :: before).length := by
        intro tail
        simp only [List.length_append, List.length_cons]
        omega
      obtain ⟨named, hlong, hnamed⟩ := exists_namesHeader name
        (show (first :: before).length ≤ (first :: before ++ later).length by simp)
      cases named with
      | true =>
        refine ⟨some (skipBlanks ((first :: before ++ later).drop (name.length + 1))), fun tail => ?_⟩
        rw [(headerValue_line (hline tail) (hne tail)).1 (by rw [hspan]; exact hnamed _),
          List.drop_append_of_le_length (hlong rfl), skipBlanks_append, Option.map_some]
      | false =>
        have hnext : ∀ tail, headerValue name (first :: before ++ later ++ (crlf2 ++ tail)) =
            headerValue name ((later ++ (crlf2 ++ tail)).drop 2) := fun tail =>
          (headerValue_line (hline tail) (hne tail)).2 (by rw [hspan]; exact hnamed _)
        match later with
        | [] =>
          -- the blank line
          exact ⟨none, fun tail => (hnext tail).trans (headerValue_blank rfl)⟩
        | [c] =>
          obtain ⟨hstart, -⟩ := strstr_eq_some hfound
          exact absurd hstart (by simp [crlf, crlf2])
        | _ :: _ :: later =>
          obtain ⟨value, hvalue⟩ := ih later.length (by simp; omega) later rfl
          exact ⟨value, fun tail => (hnext tail).trans (hvalue tail)⟩

def lengthText (header : List UInt8) : Option (List UInt8) :=
  (headerValue contentLengthName (header ++ crlf2)).join

def firstLine (text : List UInt8) : List UInt8 :=
  text.take (text.length - ((strstr crlf text).getD []).length)

def statedLength (header : List UInt8) : Nat :=
  ((lengthText header).map fun text => strtoul (firstLine text)).getD 0

/-- The length that is found with `tail` behind the blank line. -/
def lengthWith (header tail : List UInt8) : Nat :=
  ((lengthText header).map fun text => strtoul (text ++ tail)).getD 0

theorem headerValue_lengthText (header tail : List UInt8) :
    headerValue contentLengthName (header ++ (crlf2 ++ tail)) =
      some ((lengthText header).map (· ++ tail)) := by
  obtain ⟨value, hvalue⟩ := exists_headerValue contentLengthName header
  have hnone := hvalue []
  rw [List.append_nil] at hnone
  rw [hvalue tail, lengthText, hnone, Option.join_some, Option.map_map]
  simp only [Function.comp_def, List.append_assoc]

theorem lengthText_line (h : lengthText header = some text) :
    ∃ after, text = firstLine text ++ 13 :: after := by
  obtain ⟨value, hvalue⟩ := exists_headerValue contentLengthName header
  have hnone := hvalue []
  rw [List.append_nil] at hnone
  rw [lengthText, hnone, Option.join_some, Option.map_eq_some_iff] at h
  obtain ⟨front, -, rfl⟩ := h
  obtain ⟨later, hfound, before, rfl⟩ :=
    exists_strstr (show crlf <+: crlf2 from ⟨crlf, rfl⟩) front
  obtain ⟨⟨after, hafter⟩, -⟩ := strstr_eq_some hfound
  refine ⟨10 :: after, ?_⟩
  have hsplit : before ++ later ++ crlf2 = before ++ (later ++ crlf2) := List.append_assoc ..
  rw [firstLine, hfound, Option.getD_some, hsplit, List.length_append, Nat.add_sub_cancel,
    List.take_left, ← hafter]
  rfl

def lengthBehind (header tail : List UInt8) : Nat :=
  ((lengthText header).map fun text =>
    if (firstLine text).all isSpace then strtoul (text ++ tail) else 0).getD 0

theorem lengthWith_cases (header tail : List UInt8) :
    (lengthBehind header tail = 0 ∧ lengthWith header tail = statedLength header) ∨
      (statedLength header = 0 ∧ lengthWith header tail = lengthBehind header tail) := by
  unfold lengthWith statedLength lengthBehind
  cases htext : lengthText header with
  | none => exact .inl ⟨rfl, rfl⟩
  | some text =>
    obtain ⟨after, hafter⟩ := lengthText_line htext
    simp only [Option.map_some, Option.getD_some]
    cases hspaces : (firstLine text).all isSpace with
    | true =>
      have hskip := strtoul_append_spaces (List.all_eq_true.mp hspaces) []
      rw [List.append_nil] at hskip
      exact .inr ⟨hskip, rfl⟩
    | false =>
      obtain ⟨b, hb, hspace⟩ := List.all_eq_false.mp hspaces
      have hstop : strtoul (firstLine text ++ 13 :: (after ++ tail)) = strtoul (firstLine text) :=
        strtoul_append_stop ⟨b, hb, Bool.eq_false_iff.mpr hspace⟩ (by decide) _
      refine .inl ⟨rfl, ?_⟩
      conv_lhs => rw [hafter]
      rw [List.append_assoc]
      exact hstop

theorem lengthBehind_mono {front tail : List UInt8} (h : front <+: tail)
    (hzero : lengthBehind header tail = 0) : lengthBehind header front = 0 := by
  unfold lengthBehind at hzero ⊢
  cases htext : lengthText header with
  | none => rfl
  | some text =>
    rw [htext, Option.map_some, Option.getD_some] at hzero
    rw [Option.map_some, Option.getD_some]
    split
    · rename_i hspaces
      rw [if_pos hspaces] at hzero
      exact strtoul_eq_zero_mono ((List.prefix_append_right_inj text).mpr h) hzero
    · rfl

-- ---------------------------------------------------------------------------
-- Connections
-- ---------------------------------------------------------------------------

/-- The client sends the stream and closes. What `recv` sees of it are pieces, with signals in
between; no receive runs into its timeout. -/
structure Conveys (s : Socket) (stream : List UInt8) : Prop where
  bytes_eq : s.bytes = stream
  ends : s.eof = true
  blocking : s.Blocking

theorem load_room (front : List UInt8) {room : List UInt8} {count : Nat} (h : count ≤ room.length) :
    Memory.load (front ++ room) front.length count = some (room.take count) := by
  rw [Memory.load_eq_some (by rw [List.length_append]; omega), List.drop_left]

theorem recvInto_got {s s' : Socket} {room bytes : List UInt8} {count : Nat} (front : List UInt8)
    (hcount : 0 < count) (hroom : count ≤ room.length)
    (hr : recv (count - 1) s = (.got bytes, s')) :
    recvInto (front ++ room) front.length count s =
      some (.got bytes, front ++ (bytes ++ room.drop bytes.length), s') := by
  obtain ⟨-, hle, -⟩ := recv_got hr
  rw [recvInto, load_room front hroom, hr]
  simp only [Option.bind_some]
  rw [Memory.store_append front (by omega), Option.map_some]

theorem recvInto_cases {s : Socket} {room stream : List UInt8} {count : Nat} (front : List UInt8)
    (h : Conveys s stream) (hcount : 0 < count) (hroom : count ≤ room.length) :
    (stream = [] ∧
      recvInto (front ++ room) front.length count s = some (.closed, front ++ room, s)) ∨
    (∃ s', recvInto (front ++ room) front.length count s = some (.eintr, front ++ room, s') ∧
      Conveys s' stream ∧ s'.size < s.size) ∨
    ∃ bytes rest s', recvInto (front ++ room) front.length count s =
        some (.got bytes, front ++ (bytes ++ room.drop bytes.length), s') ∧
      stream = bytes ++ rest ∧ Conveys s' rest ∧ 0 < bytes.length ∧ bytes.length ≤ count ∧
      s'.size < s.size := by
  rcases recv_cases (count - 1) s with ⟨hevents, hr⟩ | ⟨s', hr, hbytes, hsize, heof⟩ |
    ⟨s', hr, -⟩ | ⟨bytes, s', hr, hpos, hle, hbytes, hsize, heof⟩
  · left
    rw [recvInto, load_room front hroom, hr, h.ends]
    refine ⟨?_, rfl⟩
    rw [← h.bytes_eq, Socket.bytes, hevents]
    rfl
  · right; left
    rw [recvInto, load_room front hroom, hr]
    exact ⟨s', rfl, ⟨hbytes.trans h.bytes_eq, heof.trans h.ends, h.blocking.of_recv hr⟩, hsize⟩
  · exact absurd hr (h.blocking.recv_ne_eagain h.ends)
  · right; right
    exact ⟨bytes, s'.bytes, s', recvInto_got front hcount hroom hr, h.bytes_eq.symm.trans hbytes,
      ⟨rfl, heof.trans h.ends, h.blocking.of_recv hr⟩, hpos, by omega, by omega⟩

theorem readBody_eq {s : Socket} {rest front : List UInt8} {fuel missing contentLength : Nat}
    (h : Conveys s rest) (hfuel : s.size < fuel) (hlength : front.length + missing = contentLength) :
    readBody contentLength fuel (front ++ List.replicate (missing + 1) 0) front.length s =
      some (if rest.length < missing then none else some (front ++ (rest.take missing ++ [0]))) := by
  induction fuel generalizing s rest front missing with
  | zero => omega
  | succ fuel ih =>
    cases missing with
    | zero => simp [readBody, ← hlength]
    | succ missing =>
      have hopen : front.length < contentLength := by omega
      have hcount : contentLength - front.length = missing + 1 := by omega
      have hroom : missing + 1 ≤ (List.replicate (missing + 1 + 1) (0 : UInt8)).length := by simp
      rw [readBody, if_pos hopen, hcount]
      rcases recvInto_cases front h (Nat.succ_pos missing) hroom with
        ⟨rfl, hrecv⟩ | ⟨s', hrecv, hs', hsize⟩ | ⟨bytes, rest', s', hrecv, rfl, hs', hpos, hle, hsize⟩
      · rw [hrecv]
        simp
      · rw [hrecv]
        exact ih hs' (by omega) hlength
      · rw [hrecv]
        have hnext := ih hs' (by omega)
          (show (front ++ bytes).length + (missing + 1 - bytes.length) = contentLength by
            rw [List.length_append]
            omega)
        have hleft : missing + 1 + 1 - bytes.length = missing + 1 - bytes.length + 1 := by omega
        have hshort : (bytes ++ rest').length < missing + 1 ↔
            rest'.length < missing + 1 - bytes.length := by
          rw [List.length_append]
          omega
        rw [List.length_append, List.append_assoc] at hnext
        simp only [List.drop_replicate, hleft, hnext, hshort, List.take_append,
          List.take_of_length_le hle, List.append_assoc]

theorem readHeader_got {s s' : Socket} {front room bytes : List UInt8}
    (hopen : front.length < httpApiMaxHeader)
    (hroom : front.length + room.length = httpApiMaxHeader + 1)
    (hle : bytes.length ≤ httpApiMaxHeader - front.length)
    (hrecv : recvInto (front ++ room) front.length (httpApiMaxHeader - front.length) s =
      some (.got bytes, front ++ (bytes ++ room.drop bytes.length), s')) (fuel : Nat) :
    readHeader (fuel + 1) (front ++ room) front.length s =
      if (strstr crlf2 (textOf (front ++ bytes))).isSome then
        some (.read (front ++ bytes ++ 0 :: (room.drop bytes.length).drop 1)
          (front ++ bytes).length s')
      else
        readHeader fuel (front ++ bytes ++ 0 :: (room.drop bytes.length).drop 1)
          (front ++ bytes).length s' := by
  have hstore : Memory.store (front ++ bytes ++ room.drop bytes.length) (front ++ bytes).length [0] =
      some (front ++ bytes ++ 0 :: (room.drop bytes.length).drop 1) := by
    refine Memory.store_append (front ++ bytes) ?_
    rw [List.length_drop, List.length_singleton]
    omega
  rw [readHeader, if_pos hopen, hrecv]
  simp only [← List.length_append, ← List.append_assoc, hstore, Option.bind_some,
    terminated_append_zero]

/-- The first loop ends with the connection, or with the bytes received so far and a terminator in
the array: as soon as they have a blank line, or when the array is full. -/
theorem readHeader_cases {s : Socket} {rest : List UInt8} {fuel : Nat} (front room : List UInt8)
    (h : Conveys s rest) (hfuel : s.size < fuel) (hfront : front.length ≤ httpApiMaxHeader)
    (hroom : front.length + room.length = httpApiMaxHeader + 1)
    (hfull : front.length = httpApiMaxHeader → room = [0])
    (hnone : strstr crlf2 (textOf front) = none) :
    (readHeader fuel (front ++ room) front.length s = some .closed ∧
      (front ++ rest).length < httpApiMaxHeader ∧ strstr crlf2 (textOf (front ++ rest)) = none) ∨
    ∃ got room' rest' s', readHeader fuel (front ++ room) front.length s =
        some (.read (got ++ 0 :: room') got.length s') ∧
      front ++ rest = got ++ rest' ∧ Conveys s' rest' ∧ got.length ≤ httpApiMaxHeader ∧
      ((strstr crlf2 (textOf got)).isSome = true ∨ got.length = httpApiMaxHeader) := by
  induction fuel generalizing s rest front room with
  | zero => omega
  | succ fuel ih =>
    by_cases hopen : front.length < httpApiMaxHeader
    · rcases recvInto_cases front h (show 0 < httpApiMaxHeader - front.length by omega)
          (show httpApiMaxHeader - front.length ≤ room.length by omega) with
        ⟨rfl, hrecv⟩ | ⟨s', hrecv, hs', hsize⟩ | ⟨bytes, rest', s', hrecv, rfl, hs', hpos, hle, hsize⟩
      · left
        rw [readHeader, if_pos hopen, hrecv, List.append_nil]
        exact ⟨rfl, hopen, hnone⟩
      · rw [readHeader, if_pos hopen, hrecv]
        exact ih front room hs' (by omega) hfront hroom hfull hnone
      · have hlength : (front ++ bytes).length = front.length + bytes.length := List.length_append
        rw [readHeader_got hopen hroom hle hrecv, ← List.append_assoc front bytes rest']
        split
        · rename_i hfound
          exact .inr ⟨_, _, rest', s', rfl, rfl, hs', by omega, .inl hfound⟩
        · rename_i hnone'
          refine ih _ _ hs' (by omega) (by omega) ?_ (fun hmax => ?_)
            (Option.not_isSome_iff_eq_none.mp hnone')
          · simp only [List.length_cons, List.length_drop]
            omega
          · rw [List.drop_drop, List.drop_eq_nil_of_le]
            omega
    · have hmax : front.length = httpApiMaxHeader := by omega
      right
      rw [readHeader, if_neg hopen, hfull hmax]
      exact ⟨front, [], rest, s, rfl, rfl, h, by omega, .inr hmax⟩

-- ---------------------------------------------------------------------------
-- What a stream asks for
-- ---------------------------------------------------------------------------

def headerOf (stream : List UInt8) : Option (List UInt8 × List UInt8) :=
  let text := textOf (stream.take httpApiMaxHeader)
  (strstr crlf2 text).map fun found =>
    let headerEnd := text.length - found.length
    (text.take headerEnd, stream.drop (headerEnd + crlf2.length))

/-- The text behind the blank line that the array has room for. -/
def window (header rest : List UInt8) : List UInt8 :=
  textOf (rest.take (httpApiMaxHeader - (header.length + crlf2.length)))

def served (calloc : Nat → Bool) (header rest : List UInt8) (length : Nat) : Served :=
  if length > httpApiMaxBody then .answer (.error 413 "body")
  else if !calloc (length + 1) then .closed
  else if rest.length < length then .closed
  else .request header (rest.take length ++ [0])

/-- The request of a stream, with the length that its header states. -/
def requestOf (calloc : Nat → Bool) (stream : List UInt8) : Served :=
  match headerOf stream with
  | none => .closed
  | some (header, rest) => served calloc header rest (statedLength header)

theorem headerOf_eq {got found : List UInt8} (h : strstr crlf2 (textOf got) = some found)
    (hle : got.length ≤ httpApiMaxHeader) :
    ∃ header more, got = header ++ (crlf2 ++ more) ∧ 0 ∉ header ∧
      textOf got = header ++ (crlf2 ++ textOf more) ∧ found = crlf2 ++ textOf more ∧
      ∀ rest, headerOf (got ++ rest) = some (header, more ++ rest) := by
  obtain ⟨⟨tail, rfl⟩, header, htext⟩ := strstr_eq_some h
  have hzero : 0 ∉ header ++ crlf2 := by
    intro hmem
    apply zero_notMem_textOf got
    rw [← htext, ← List.append_assoc]
    exact List.mem_append_left _ hmem
  obtain ⟨cut, hcut⟩ : textOf got <+: got := List.takeWhile_prefix _
  obtain ⟨more, rfl⟩ : ∃ more, got = header ++ crlf2 ++ more := by
    refine ⟨tail ++ cut, ?_⟩
    rw [← hcut, ← htext]
    simp only [List.append_assoc]
  rw [textOf_append hzero, ← List.append_assoc] at htext
  cases List.append_cancel_left htext
  refine ⟨header, more, by rw [List.append_assoc], fun hmem => hzero (List.mem_append_left _ hmem),
    by rw [textOf_append hzero, List.append_assoc], rfl, fun rest => ?_⟩
  -- what follows in the array does not move the blank line
  obtain ⟨later, hlater⟩ := textOf_mono
    (List.prefix_append (header ++ crlf2 ++ more) (rest.take (httpApiMaxHeader -
      (header ++ crlf2 ++ more).length)))
  have htake : textOf ((header ++ crlf2 ++ more ++ rest).take httpApiMaxHeader) =
      header ++ (crlf2 ++ textOf more ++ later) := by
    rw [List.take_append, List.take_of_length_le hle, ← hlater, textOf_append hzero]
    simp only [List.append_assoc]
  have hfound : strstr crlf2 (header ++ (crlf2 ++ textOf more ++ later)) =
      some (crlf2 ++ textOf more ++ later) := by
    rw [textOf_append hzero] at h
    have hmore := strstr_append h later
    simpa only [List.append_assoc] using hmore
  have hend : (header ++ (crlf2 ++ textOf more ++ later)).length -
      (crlf2 ++ textOf more ++ later).length = header.length := by
    rw [List.length_append, Nat.add_sub_cancel]
  simp only [headerOf, htake, hfound, hend, Option.map_some]
  rw [List.take_left, List.append_assoc _ more rest, ← List.length_append, List.drop_left]

theorem load_body (header more room : List UInt8) (length : Nat) :
    Memory.load (header ++ ([0, 10, 13, 10] ++ (more ++ room))) (header.length + crlf2.length)
      (more.take length).length = some (more.take length) := by
  have hbehind := Memory.load_append (header ++ [0, 10, 13, 10]) (more.take length)
    (more.drop length ++ room)
  rwa [← List.append_assoc (more.take length), List.take_append_drop, List.append_assoc,
    List.length_append] at hbehind

theorem store_body {bytes : List UInt8} {length : Nat} (h : bytes.length ≤ length) :
    Memory.store (List.replicate (length + 1) 0) 0 bytes =
      some (bytes ++ List.replicate (length - bytes.length + 1) 0) := by
  have hroom : bytes.length ≤ (List.replicate (length + 1) (0 : UInt8)).length := by
    rw [List.length_replicate]
    omega
  rw [← Nat.sub_add_comm h, ← List.drop_replicate]
  exact Memory.store_append [] hroom

theorem serveBody_eq {s : Socket} {rest header more room : List UInt8} (h : Conveys s rest)
    (hheader : 0 ∉ header) (hle : (header ++ (crlf2 ++ more)).length ≤ httpApiMaxHeader)
    (calloc : Nat → Bool) (length : Nat) :
    serveBody calloc length (header ++ ([0, 10, 13, 10] ++ (more ++ room)))
        (header.length + crlf2.length) (header ++ (crlf2 ++ more)).length s =
      some (served calloc header (more ++ rest) length) := by
  unfold serveBody served
  split
  · rfl
  · split
    · rfl
    · have hheld : Memory.sizeSub (header ++ (crlf2 ++ more)).length
          (header.length + crlf2.length) = more.length := by
        have hbound : httpApiMaxHeader < 2 ^ 64 := by decide
        simp only [List.length_append] at hle ⊢
        rw [Memory.sizeSub_of_le (by omega) (by omega)]
        omega
      have hinitial : (if more.length < length then more.length else length) =
          (more.take length).length := by
        rw [List.length_take]
        split <;> omega
      simp only [hheld, hinitial, load_body, store_body (List.length_take_le _ _), Option.bind_some]
      rw [readBody_eq h (Nat.lt_succ_self _) (by rw [List.length_take]; omega)]
      have hmissing : length - (more.take length).length = length - more.length := by
        rw [List.length_take]
        omega
      have hshort : rest.length < length - more.length ↔ (more ++ rest).length < length := by
        rw [List.length_append]
        omega
      have hterminated : terminated (header ++ ([0, 10, 13, 10] ++ (more ++ room))) = some header := by
        rw [List.cons_append, terminated_append_zero, textOf_eq_self hheader]
      simp only [hmissing, hshort, Option.bind_some]
      by_cases hends : (more ++ rest).length < length
      · rw [if_pos hends, if_pos hends]
      · rw [if_neg hends, if_neg hends, List.take_append, List.append_assoc]
        simp only [hterminated, Option.map_some]

theorem serve_of_read {s s' : Socket} {got room rest found : List UInt8} (calloc : Nat → Bool)
    (hread : readHeader (s.size + 1) request 0 s = some (.read (got ++ 0 :: room) got.length s'))
    (hs' : Conveys s' rest) (hle : got.length ≤ httpApiMaxHeader)
    (hfound : strstr crlf2 (textOf got) = some found) :
    ∃ header more, got = header ++ (crlf2 ++ more) ∧
      headerOf (got ++ rest) = some (header, more ++ rest) ∧
      serveClient calloc request s =
        some (served calloc header (more ++ rest) (lengthWith header (textOf more))) := by
  obtain ⟨header, more, rfl, hzero, htext, rfl, hheader⟩ := headerOf_eq hfound hle
  refine ⟨header, more, rfl, hheader rest, ?_⟩
  have hend : (textOf (header ++ (crlf2 ++ more))).length - (crlf2 ++ textOf more).length =
      header.length := by
    rw [htext, List.length_append, Nat.add_sub_cancel]
  have hstore : Memory.store (header ++ (crlf2 ++ more) ++ 0 :: room) header.length [0] =
      some (header ++ ([0, 10, 13, 10] ++ (more ++ 0 :: room))) := by
    rw [List.append_assoc, Memory.store_append header (by simp [crlf2])]
    simp [crlf2]
  rw [serveClient, hread, Option.bind_some]
  simp only [terminated_append_zero, Option.bind_some, hfound, hend]
  rw [htext, headerValue_lengthText, Option.bind_some, hstore, Option.bind_some,
    serveBody_eq hs' hzero hle, Option.map_map]
  rfl

-- ---------------------------------------------------------------------------
-- Whole connections
-- ---------------------------------------------------------------------------

/-- Whatever the pieces are, `serve_client` differs only in the text it finds the length in. -/
theorem serveClient_cases {s : Socket} {stream request : List UInt8} (h : Conveys s stream)
    (hrequest : request.length = httpApiMaxHeader + 1) (calloc : Nat → Bool) :
    (headerOf stream = none ∧ serveClient calloc request s = some .closed) ∨
      ∃ header rest tail, headerOf stream = some (header, rest) ∧ tail <+: window header rest ∧
        serveClient calloc request s =
          some (served calloc header rest (lengthWith header tail)) := by
  have hread := readHeader_cases [] request h (Nat.lt_succ_self _) (Nat.zero_le _)
    (by rw [hrequest]; exact Nat.zero_add _) (fun hzero => by cases hzero) rfl
  simp only [List.nil_append, List.length_nil, Nat.succ_eq_add_one] at hread
  rcases hread with ⟨hclosed, hshort, hnone⟩ |
    ⟨got, room, rest, s', hread, rfl, hs', hle, hblank⟩
  · left
    constructor
    · rw [headerOf, List.take_of_length_le (Nat.le_of_lt hshort), hnone]
      rfl
    · rw [serveClient, hclosed]
      rfl
  · cases hfound : strstr crlf2 (textOf got) with
    | some found =>
      obtain ⟨header, more, rfl, hheader, hserve⟩ := serve_of_read calloc hread hs' hle hfound
      refine .inr ⟨header, more ++ rest, textOf more, hheader, textOf_mono ?_, hserve⟩
      rw [List.prefix_take_iff]
      refine ⟨List.prefix_append more rest, ?_⟩
      simp only [List.length_append] at hle
      omega
    | none =>
      -- a full array without a blank line
      rw [hfound] at hblank
      have hfull := hblank.resolve_left Bool.false_ne_true
      left
      constructor
      · rw [headerOf, ← hfull, List.take_left, hfound]
        rfl
      · rw [serveClient, hread, Option.bind_some]
        simp only [terminated_append_zero, Option.bind_some, hfound]

theorem conveys_data (first : UInt8) (more : List UInt8) :
    Conveys ⟨[.data first more], true⟩ (first :: more) :=
  ⟨by simp [Socket.bytes, RecvEvent.bytes], rfl, by simp [Socket.Blocking]⟩

theorem recv_at_once (first : UInt8) (more : List UInt8) :
    ∃ s', recv (httpApiMaxHeader - 1) ⟨[.data first more], true⟩ =
        (.got ((first :: more).take httpApiMaxHeader), s') ∧
      Conveys s' ((first :: more).drop httpApiMaxHeader) := by
  obtain ⟨s', hr⟩ : ∃ s', recv (httpApiMaxHeader - 1) ⟨[.data first more], true⟩ =
      (.got ((first :: more).take httpApiMaxHeader), s') := ⟨_, rfl⟩
  obtain ⟨hbytes, hends, hblocking⟩ := conveys_data first more
  obtain ⟨-, -, hsplit, -, heof⟩ := recv_got hr
  rw [hbytes] at hsplit
  nth_rewrite 1 [← List.take_append_drop httpApiMaxHeader (first :: more)] at hsplit
  exact ⟨s', hr, (List.append_cancel_left hsplit).symm, heof.trans hends, hblocking.of_recv hr⟩

theorem serveClient_at_once {header rest request more : List UInt8} {first : UInt8}
    (h : headerOf (first :: more) = some (header, rest))
    (hrequest : request.length = httpApiMaxHeader + 1) (calloc : Nat → Bool) :
    serveClient calloc request ⟨[.data first more], true⟩ =
      some (served calloc header rest (lengthWith header (window header rest))) := by
  obtain ⟨s', hr, hs'⟩ := recv_at_once first more
  obtain ⟨-, hle, -⟩ := recv_got hr
  generalize (⟨[.data first more], true⟩ : Socket) = s at hr
  generalize first :: more = stream at h hr hs' hle
  have hheader := h
  rw [headerOf, Option.map_eq_some_iff] at hheader
  obtain ⟨found, hfound, -⟩ := hheader
  have hread := readHeader_got (show ([] : List UInt8).length < httpApiMaxHeader by decide)
    (by rw [hrequest]; exact Nat.zero_add _) hle
    (recvInto_got [] (by decide) (by rw [hrequest]; decide) hr) s.size
  rw [List.nil_append, List.nil_append, hfound, Option.isSome_some, if_pos rfl] at hread
  obtain ⟨header', behind, hgot, hheader', hserve⟩ := serve_of_read calloc hread hs' hle hfound
  rw [List.take_append_drop, h, Option.some.injEq, Prod.mk.injEq] at hheader'
  obtain ⟨rfl, rfl⟩ := hheader'
  -- the piece ends where the array does, or where the stream does
  have hwindow : (behind ++ stream.drop httpApiMaxHeader).take
      (httpApiMaxHeader - (header.length + crlf2.length)) = behind := by
    have hlength := congrArg List.length hgot
    simp only [List.length_take, List.length_append] at hlength
    rw [List.take_append, List.take_of_length_le (by omega), List.append_right_eq_self,
      List.take_eq_nil_iff, List.drop_eq_nil_iff]
    omega
  rw [hserve, window, hwindow]

/-- What `strtoul` finds behind the line of a `Content-Length` that states none. -/
def strayLength (stream : List UInt8) : Nat :=
  match headerOf stream with
  | none => 0
  | some (header, rest) => lengthBehind header (window header rest)

theorem served_ne_served_zero (header : List UInt8) {rest : List UInt8} {length : Nat}
    (h : length ≠ 0) :
    served (fun _ => true) header rest length ≠ served (fun _ => true) header rest 0 := by
  have hzero : served (fun _ => true) header rest 0 = .request header [0] := by
    simp [served]
  rw [hzero, served]
  split
  · exact Served.noConfusion
  · simp only [Bool.not_true, Bool.false_eq_true, if_false]
    split
    · exact Served.noConfusion
    · intro heq
      injection heq with _ hbody
      have hlength := congrArg List.length hbody
      rw [List.length_append, List.length_take, List.length_singleton] at hlength
      omega

/-- No access is ever outside of an array. The request is the one the stream asks for, however it
is cut into pieces, if and only if nothing behind a blank `Content-Length` passes for a length. -/
theorem requests_independent_of_pieces_iff (stream : List UInt8) :
    (∀ calloc request s, request.length = httpApiMaxHeader + 1 → Conveys s stream →
      (serveClient calloc request s).isSome = true) ∧
    ((∀ calloc request s, request.length = httpApiMaxHeader + 1 → Conveys s stream →
      serveClient calloc request s = some (requestOf calloc stream)) ↔ strayLength stream = 0) := by
  refine ⟨?_, ?_, ?_⟩
  · intro calloc request s hrequest hs
    rcases serveClient_cases hs hrequest calloc with ⟨-, hserve⟩ | ⟨header, rest, tail, -, -, hserve⟩
    all_goals
      rw [hserve]
      rfl
  · intro hsame
    unfold strayLength
    split
    · rfl
    · rename_i header rest hheader
      cases stream with
      | nil => cases hheader
      | cons first more =>
        have hrequest : (List.replicate (httpApiMaxHeader + 1) (0 : UInt8)).length =
            httpApiMaxHeader + 1 := List.length_replicate
        have hserve := serveClient_at_once hheader hrequest fun _ => true
        rw [hsame _ _ _ hrequest (conveys_data first more), requestOf, hheader,
          Option.some.injEq] at hserve
        rcases lengthWith_cases header (window header rest) with ⟨hnone, -⟩ | ⟨hzero, hlength⟩
        · exact hnone
        · by_contra hstray
          simp only [hzero, hlength] at hserve
          exact served_ne_served_zero header hstray hserve.symm
  · intro hstray calloc request s hrequest hs
    rcases serveClient_cases hs hrequest calloc with
      ⟨hnone, hserve⟩ | ⟨header, rest, tail, hheader, htail, hserve⟩
    · rw [hserve, requestOf, hnone]
    · rw [strayLength, hheader] at hstray
      have hbehind := lengthBehind_mono htail hstray
      rw [hserve, requestOf, hheader]
      rcases lengthWith_cases header tail with ⟨-, hlength⟩ | ⟨hzero, hlength⟩
      · rw [hlength]
      · simp only [hlength, hbehind, hzero]

def pieces (chunks : List (List UInt8)) : Socket where
  events := chunks.filterMap fun
    | [] => none
    | first :: more => some (.data first more)
  eof := true

theorem conveys_pieces (chunks : List (List UInt8)) : Conveys (pieces chunks) chunks.flatten := by
  refine ⟨?_, rfl, ?_⟩
  · induction chunks with
    | nil => rfl
    | cons chunk chunks ih =>
      cases chunk with
      | nil => exact ih
      | cons first more => exact congrArg (first :: more ++ ·) ih
  · rw [Socket.Blocking, pieces, List.mem_filterMap]
    rintro ⟨chunk, -, hchunk⟩
    cases chunk <;> cases hchunk

def exampleHeader (length : List UInt8) : List UInt8 :=
  [0x47, 0x20, 0x2f] ++ crlf ++ contentLengthName ++ [colon, 0x20] ++ length

def exampleBody : List UInt8 := [0x35, 0x68, 0x65, 0x6c, 0x6c, 0x6f]

theorem requests_independent_of_pieces_one :
    strayLength (exampleHeader [0x31] ++ (crlf2 ++ exampleBody)) = 0 ∧
    serveClient (fun _ => true) (List.replicate 8193 0)
      (pieces [exampleHeader [0x31], crlf2 ++ exampleBody]) =
        some (.request (exampleHeader [0x31]) [0x35, 0]) := by
  have hstray : strayLength (exampleHeader [0x31] ++ (crlf2 ++ exampleBody)) = 0 := by
    decide +kernel
  refine ⟨hstray, ?_⟩
  have hserve := (requests_independent_of_pieces_iff _).2.mpr hstray (fun _ => true)
    (List.replicate 8193 0) (pieces [exampleHeader [0x31], crlf2 ++ exampleBody])
    List.length_replicate (conveys_pieces _)
  rw [hserve]
  decide +kernel

/-- A blank length and the body in one piece give a length out of the body; in two pieces they
do not. -/
theorem length_read_from_body :
    Conveys (pieces [exampleHeader [] ++ (crlf2 ++ exampleBody)])
      (exampleHeader [] ++ (crlf2 ++ exampleBody)) ∧
    Conveys (pieces [exampleHeader [], crlf2, exampleBody])
      (exampleHeader [] ++ (crlf2 ++ exampleBody)) ∧
    serveClient (fun _ => true) (List.replicate 8193 0)
      (pieces [exampleHeader [] ++ (crlf2 ++ exampleBody)]) =
        some (.request (exampleHeader []) [0x35, 0x68, 0x65, 0x6c, 0x6c, 0]) ∧
    serveClient (fun _ => true) (List.replicate 8193 0)
      (pieces [exampleHeader [], crlf2, exampleBody]) = some (.request (exampleHeader []) [0]) := by
  refine ⟨conveys_pieces _, conveys_pieces _, ?_, ?_⟩
  · decide +kernel
  · decide +kernel

end NanokvmRdp.Gateway
