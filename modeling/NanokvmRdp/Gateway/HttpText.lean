import NanokvmRdp.Gateway.InputRouter

/-!
# Text over HTTP

`handle_text` of `http_api.c`, behind the decoding of the JSON string: the text
is cut into characters of one to three bytes, each of which becomes a message
of the input router.
-/

namespace NanokvmRdp.Gateway

open Protocol

inductive HttpAnswer where
  | ok (ok : Bool)
  | error (status : Nat) (text : String)
  deriving DecidableEq, Repr

/-- The character at the front of the text, and the text behind it. Only the
first byte is looked at for the length. -/
def textCharacter : List UInt8 → Option (UInt32 × List UInt8)
  | [] => none
  | first :: text =>
    if first < 0x80 then some (first.toUInt32, text)
    else if first &&& 0xe0 = 0xc0 ∧ 1 ≤ text.length then
      some ((first &&& 0x1f).toUInt32 <<< 6 ||| (text.getD 0 0 &&& 0x3f).toUInt32, text.drop 1)
    else if first &&& 0xf0 = 0xe0 ∧ 2 ≤ text.length then
      some ((first &&& 0x0f).toUInt32 <<< 12 ||| (text.getD 0 0 &&& 0x3f).toUInt32 <<< 6 |||
        (text.getD 1 0 &&& 0x3f).toUInt32, text.drop 2)
    else none

/-- The loop of `handle_text`. Message number `n` is delivered if `delivers n`
holds; `sent` are the messages handed to `send_control` so far. -/
def textLoop (delivers : Nat → Bool) :
    Nat → List UInt8 → List ControlMessage → List ControlMessage × HttpAnswer
  | _, [], sent => (sent, .ok true)
  | 0, _, sent => (sent, .ok true)
  | fuel + 1, text, sent =>
    match textCharacter text with
    | none => (sent, .error 400 "utf-8")
    | some (codepoint, rest) =>
      if codepoint = 0 ∨ codepoint > 0xffff then (sent, .error 400 "bmp-only")
      else
        match InputRouter.unicode codepoint.toUInt16 false with
        | none => (sent, .ok false)
        | some none => textLoop delivers fuel rest sent
        | some (some message) =>
          if delivers sent.length then textLoop delivers fuel rest (sent ++ [message])
          else (sent ++ [message], .ok false)

def textMaxLength : Nat := 1023

/-- `handle_text` on the decoded string. A character takes at least one byte. -/
def handleText (delivers : Nat → Bool) (text : List UInt8) : List ControlMessage × HttpAnswer :=
  textLoop delivers text.length text []

end NanokvmRdp.Gateway
