namespace SyntaxPanel.Text

structure Utf8Error where
  valid : Nat
  wrong : Option Nat
deriving DecidableEq, Repr

def Utf8Error.message (e : Utf8Error) : String :=
  match e.wrong with
  | some n => "invalid utf-8 sequence of " ++ toString n ++ " bytes from index " ++ toString e.valid
  | none => "incomplete utf-8 byte sequence from index " ++ toString e.valid

/-- The bytes of a character: how many follow the first one, which second ones are allowed, and
the bits of the first one. -/
structure Lead where
  following : Nat
  least : UInt8 := 0x80
  greatest : UInt8 := 0xBF
  bits : Nat

def lead? (b : UInt8) : Option Lead :=
  let n := b.toNat
  if n < 0x80 then some { following := 0, bits := n }
  else if n < 0xC2 then none
  else if n < 0xE0 then some { following := 1, bits := n - 0xC0 }
  else if n = 0xE0 then some { following := 2, least := 0xA0, bits := 0 }
  else if n = 0xED then some { following := 2, greatest := 0x9F, bits := 0xD }
  else if n < 0xF0 then some { following := 2, bits := n - 0xE0 }
  else if n = 0xF0 then some { following := 3, least := 0x90, bits := 0 }
  else if n < 0xF4 then some { following := 3, bits := n - 0xF0 }
  else if n = 0xF4 then some { following := 3, greatest := 0x8F, bits := 4 }
  else none

def following (bits : Nat) (least greatest : UInt8) :
    Nat → List UInt8 → Nat → Except (Option Nat) (Nat × List UInt8)
  | 0, rest, _ => .ok (bits, rest)
  | _ + 1, [], _ => .error none
  | count + 1, b :: rest, read =>
    if least ≤ b ∧ b ≤ greatest then
      following (bits * 0x40 + (b.toNat - 0x80)) 0x80 0xBF count rest (read + 1)
    else .error (some read)

/-- Reads characters; `fuel` bounds their number and `valid` counts the bytes before them. -/
def decodeFrom : Nat → Nat → List UInt8 → Except Utf8Error (List Char)
  | 0, _, _ => .ok []
  | _ + 1, _, [] => .ok []
  | fuel + 1, valid, b :: rest =>
    match lead? b with
    | none => .error ⟨valid, some 1⟩
    | some lead =>
      match following lead.bits lead.least lead.greatest lead.following rest 1 with
      | .error wrong => .error ⟨valid, wrong⟩
      | .ok (code, rest) =>
        (decodeFrom fuel (valid + 1 + lead.following) rest).map (Char.ofNat code :: ·)

def decodeUtf8 (bs : List UInt8) : Except Utf8Error (List Char) := decodeFrom bs.length 0 bs

end SyntaxPanel.Text
