import SyntaxPanel.Json.Read
import SyntaxPanel.Server.Encode
import SyntaxPanel.Text.Utf8

/-! Messages on a stream of bytes.
A message is sent with header lines in front of it, of which one tells its length in bytes, and
an empty line between. Input that is not framed like that cannot be followed any further. -/
namespace SyntaxPanel

inductive FrameError where
  | malformedHeader (line : String)
  | notText
  | emptyLength
  | invalidLength
  | lengthTooLarge
  | noLength
  | incomplete
  | payloadNotText (error : Text.Utf8Error)
  | malformedPayload (error : Json.ReadError)
  | noMessage
deriving DecidableEq, Repr

namespace FrameError

def listPayload (what : String) (line column : Nat) : String :=
  "malformed LSP payload: Error(" ++ Text.quote what ++ ", line: " ++ toString line ++
    ", column: " ++ toString column ++ ")"

def message : FrameError → String
  | malformedHeader line => "malformed header: " ++ Text.quote line
  | notText => "stream did not contain valid UTF-8"
  | emptyLength => "cannot parse integer from empty string"
  | invalidLength => "invalid digit found in string"
  | lengthTooLarge => "number too large to fit in target type"
  | noLength => "no Content-Length"
  | incomplete => "failed to fill whole buffer"
  | payloadNotText error => error.message
  | malformedPayload error => listPayload error.problem.message error.line error.column
  | noMessage => listPayload "data did not match any variant of untagged enum Message" 0 0

end FrameError

namespace Frame

inductive Next where
  | message (m : Message) (rest : List UInt8)
  | done
  | wait
  | broken (error : FrameError)
deriving DecidableEq, Repr

def takeLine : List UInt8 → Option (List UInt8 × List UInt8)
  | [] => none
  | b :: rest =>
    if b = 10 then some ([b], rest)
    else (takeLine rest).map fun (line, after) => (b :: line, after)

def splitHeader : List Char → Option (List Char × List Char)
  | ':' :: ' ' :: rest => some ([], rest)
  | [] => none
  | c :: rest => (splitHeader rest).map fun (name, value) => (c :: name, value)

def readLength (cs : List Char) : Except FrameError Nat :=
  let number (cs : List Char) : Except FrameError Nat :=
    match Json.digits Json.digitsLimit 0 cs with
    | (n, _, []) => .ok n
    | (_, _, c :: _) => .error (if c.isDigit then .lengthTooLarge else .invalidLength)
  match cs with
  | [] => .error .emptyLength
  | ['+'] => .error .invalidLength
  | '+' :: cs => number cs
  | cs => number cs

def isLengthHeader (name : List Char) : Bool :=
  String.ofList (name.map Char.toLower) == "content-length"

def headerLength (line : List Char) : Except FrameError (Option Nat) :=
  match splitHeader line with
  | none => .error (.malformedHeader (String.ofList line))
  | some (name, value) =>
    if isLengthHeader name then (readLength value).map some else .ok none

def headerText (line : List UInt8) : Except FrameError (List Char) :=
  match Text.decodeUtf8 line with
  | .error _ => .error .notText
  | .ok cs =>
    match cs.reverse with
    | '\n' :: '\r' :: rest => .ok rest.reverse
    | _ => .error (.malformedHeader (String.ofList cs))

def readPayload (bs : List UInt8) : Except FrameError Message := do
  let cs ← (Text.decodeUtf8 bs).mapError .payloadNotText
  let (value, rest) ← (Json.readPrefix? cs).mapError .malformedPayload
  match Message.ofJson? value with
  | none => .error .noMessage
  | some m => do
    (Json.checkEnd cs rest).mapError .malformedPayload
    return m

def takePayload (closed : Bool) (length : Option Nat) (bs : List UInt8) : Next :=
  match length with
  | none => .broken .noLength
  | some n =>
    if bs.length < n then if closed then .broken .incomplete else .wait
    else match readPayload (bs.take n) with
      | .error e => .broken e
      | .ok m => .message m (bs.drop n)

/-- Reads header lines up to the empty one; `fuel` bounds their number. The last length told
counts. -/
def nextFrom (closed : Bool) : Nat → Option Nat → List UInt8 → Next
  | 0, _, _ => .done
  | fuel + 1, length, bs =>
    match takeLine bs with
    | none =>
      if !closed then .wait
      else if bs = [] then .done
      else match headerText bs with
        | .error e => .broken e
        | .ok line => .broken (.malformedHeader (String.ofList line))
    | some (line, rest) =>
      match headerText line with
      | .error e => .broken e
      | .ok [] => takePayload closed length rest
      | .ok cs =>
        match headerLength cs with
        | .error e => .broken e
        | .ok told => nextFrom closed fuel (told.or length) rest

def next (closed : Bool) (bs : List UInt8) : Next := nextFrom closed (bs.length + 1) none bs

end Frame

namespace Outgoing

def sentFields (o : Outgoing) : List (String × Json) := ("jsonrpc", .str "2.0") :: o.fields

def payload (o : Outgoing) : String := (Json.obj o.sentFields).compact

def frame (o : Outgoing) : String :=
  "Content-Length: " ++ toString (Text.bytes o.payload.toList) ++ "\r\n\r\n" ++ o.payload

end Outgoing

end SyntaxPanel
