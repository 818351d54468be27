import NanokvmRdp.Gateway.JsonText
import NanokvmRdp.Protocol.Receive

/-!
# Requests over HTTP

`serve_client` and `header_value` of `http_api.c`: the header is read into an
array until it holds a blank line, the length of the body is taken from it, and
the body is what is left in the array with as many bytes more as are missing.
Every access to an array is checked.
-/

namespace NanokvmRdp.Gateway

open Protocol CString

def httpApiMaxHeader : Nat := 8192
def httpApiMaxBody : Nat := 65536

def crlf : List UInt8 := [13, 10]
def crlf2 : List UInt8 := [13, 10, 13, 10]

def contentLengthName : List UInt8 :=
  [0x43, 0x6f, 0x6e, 0x74, 0x65, 0x6e, 0x74, 0x2d, 0x4c, 0x65, 0x6e, 0x67, 0x74, 0x68]

-- ---------------------------------------------------------------------------
-- Headers
-- ---------------------------------------------------------------------------

def namesHeader (name line : List UInt8) (span : Nat) : Checked Bool :=
  if name.length + 1 < span ∧ sameLetters line name name.length then
    (charAt line name.length).map (· == colon)
  else some false

def skipBlanks (text : List UInt8) : List UInt8 := text.dropWhile fun b => b = 32 || b = 9

/-- `header_value`, from a line on. -/
def headerValue (name line : List UInt8) : Checked (Option (List UInt8)) :=
  if line = [] then some none
  else match _hfound : strstr crlf line with
    | none => some none
    | some found =>
      if found.length = line.length then some none
      else match namesHeader name line (line.length - found.length) with
        | none => none
        | some true => some (some (skipBlanks (line.drop (name.length + 1))))
        | some false => headerValue name (found.drop 2)
termination_by line.length
decreasing_by
  obtain ⟨hstart, hsuffix⟩ := strstr_eq_some _hfound
  have hshort := hstart.length_le
  have hle := hsuffix.length_le
  rw [crlf, List.length_cons, List.length_singleton] at hshort
  rw [List.length_drop]
  omega

section

variable {name line found : List UInt8}

theorem headerValue_blank (h : strstr crlf line = some line) : headerValue name line = some none := by
  rw [headerValue]
  split
  · rfl
  · split
    · rfl
    · rename_i found hfound
      rw [h, Option.some.injEq] at hfound
      exact if_pos (hfound ▸ rfl)

theorem headerValue_line (h : strstr crlf line = some found) (hne : found.length ≠ line.length) :
    (namesHeader name line (line.length - found.length) = some true →
      headerValue name line = some (some (skipBlanks (line.drop (name.length + 1))))) ∧
    (namesHeader name line (line.length - found.length) = some false →
      headerValue name line = headerValue name (found.drop 2)) := by
  rw [headerValue, if_neg (by rintro rfl; cases h)]
  split
  · rename_i hnone
    rw [h] at hnone
    cases hnone
  · rename_i found' hfound
    rw [h, Option.some.injEq] at hfound
    subst hfound
    constructor <;> intro hnamed <;> rw [if_neg hne, hnamed]

end

-- ---------------------------------------------------------------------------
-- Reading
-- ---------------------------------------------------------------------------

/-- `recv` into an array, which has to have all the room that is offered. -/
def recvInto (memory : List UInt8) (offset count : Nat) (s : Socket) :
    Checked (RecvResult × List UInt8 × Socket) :=
  (Memory.load memory offset count).bind fun _ =>
    match recv (count - 1) s with
    | (.got bytes, s) => (Memory.store memory offset bytes).map fun memory => (.got bytes, memory, s)
    | (result, s) => some (result, memory, s)

inductive HeaderRead where
  | closed
  | read (request : List UInt8) (used : Nat) (s : Socket)

/-- The first loop of `serve_client`. A timeout is an error. -/
def readHeader : Nat → List UInt8 → Nat → Socket → Checked HeaderRead
  | 0, _, _, _ => none
  | fuel + 1, request, used, s =>
    if used < httpApiMaxHeader then
      match recvInto request used (httpApiMaxHeader - used) s with
      | none => none
      | some (.eintr, request, s) => readHeader fuel request used s
      | some (.eagain, _, _) => some .closed
      | some (.closed, _, _) => some .closed
      | some (.got bytes, request, s) =>
        (Memory.store request (used + bytes.length) [0]).bind fun request =>
          (terminated request).bind fun text =>
            if (strstr crlf2 text).isSome then some (.read request (used + bytes.length) s)
            else readHeader fuel request (used + bytes.length) s
    else some (.read request used s)

/-- The second loop; `none` inside if the connection ends before the body does. -/
def readBody (contentLength : Nat) : Nat → List UInt8 → Nat → Socket → Checked (Option (List UInt8))
  | 0, _, _, _ => none
  | fuel + 1, body, filled, s =>
    if filled < contentLength then
      match recvInto body filled (contentLength - filled) s with
      | none => none
      | some (.eintr, body, s) => readBody contentLength fuel body filled s
      | some (.eagain, _, _) => some none
      | some (.closed, _, _) => some none
      | some (.got bytes, body, s) => readBody contentLength fuel body (filled + bytes.length) s
    else some (some body)

/-- A connection ends with a request for `handle_request`, with its header and the array of its
body, or with another answer, or with none. -/
inductive Served where
  | request (header body : List UInt8)
  | answer (answer : HttpAnswer)
  | closed
  deriving DecidableEq, Repr

def serveBody (calloc : Nat → Bool) (contentLength : Nat) (request : List UInt8) (inlineBody : Nat)
    (used : Nat) (s : Socket) : Checked Served :=
  if contentLength > httpApiMaxBody then some (.answer (.error 413 "body"))
  else if !calloc (contentLength + 1) then some .closed
  else
    let held := Memory.sizeSub used inlineBody
    let initial := if held < contentLength then held else contentLength
    (Memory.load request inlineBody initial).bind fun bytes =>
      (Memory.store (List.replicate (contentLength + 1) 0) 0 bytes).bind fun body =>
        (readBody contentLength (s.size + 1) body initial s).bind fun
          | none => some .closed
          | some body => (terminated request).map fun header => .request header body

/-- `serve_client`. `request` is the array on the stack as it was found, and `calloc` says which
sizes can be allocated. -/
def serveClient (calloc : Nat → Bool) (request : List UInt8) (s : Socket) : Checked Served :=
  (readHeader (s.size + 1) request 0 s).bind fun
    | .closed => some .closed
    | .read request used s =>
      (terminated request).bind fun text =>
        match strstr crlf2 text with
        | none => some .closed
        | some found =>
          let headerEnd := text.length - found.length
          (headerValue contentLengthName text).bind fun lengthHeader =>
            let contentLength := (lengthHeader.map strtoul).getD 0
            (Memory.store request headerEnd [0]).bind fun request =>
              serveBody calloc contentLength request (headerEnd + crlf2.length) used s

end NanokvmRdp.Gateway
