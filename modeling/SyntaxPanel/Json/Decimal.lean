import SyntaxPanel.Binary

namespace SyntaxPanel

/-- The number `digits * 10 ^ exponent` with a sign. A zero has the exponent zero, and other
digits do not end in a zero. -/
structure Decimal where
  negative : Bool
  digits : Nat
  exponent : Int
deriving DecidableEq, Repr

namespace Decimal

open Binary

def neighbours (num den : Nat) (place : Int) : List Nat :=
  let (n, d) := scale num den 10 (-place)
  let q := n / d
  if n % d = 0 then [q]
  else if roundDiv n d = q then [q, q + 1] else [q + 1, q]

def strip : Nat → Nat → Int → Nat × Int
  | 0, digits, exponent => (digits, exponent)
  | fuel + 1, digits, exponent =>
    if digits ≠ 0 ∧ digits % 10 = 0 then strip fuel (digits / 10) (exponent + 1)
    else (digits, exponent)

def ofBinary (negative : Bool) (b : Binary) : Decimal :=
  let (num, den) := scale b.significand 1 2 b.exponent
  let top : Int := (Nat.log2 num : Int) * 30103 / 100000 - (Nat.log2 den : Int) * 30103 / 100000 + 2
  let places := (List.range 24).map fun (k : Nat) => top - (k : Int)
  let found := places.findSome? fun place =>
    (neighbours num den place).findSome? fun q =>
      let (x, y) := scale q 1 10 place
      if q ≠ 0 ∧ b.covers x y then some (q, place) else none
  match found with
  | some (digits, place) =>
    let (digits, exponent) := strip 20 digits place
    ⟨negative, digits, exponent⟩
  | none => ⟨negative, 0, 0⟩

def ofDigits? (negative : Bool) (digits : Nat) (exponent : Int) : Option Decimal :=
  (Binary.nearest? digits 1).bind fun b =>
    (b.shiftTen? exponent).map fun b =>
      if b.significand = 0 then ⟨negative, 0, 0⟩ else ofBinary negative b

/-- Positional where the point falls within the first sixteen digits or at most five places
before them, otherwise with an exponent that shows its sign. -/
def text (d : Decimal) : String :=
  let digits := Nat.toDigits 10 d.digits
  let point : Int := digits.length + d.exponent
  let zeros (n : Int) : List Char := List.replicate n.toNat '0'
  let body : List Char :=
    if d.digits = 0 then ['0', '.', '0']
    else if 0 ≤ d.exponent ∧ point ≤ 16 then digits ++ zeros d.exponent ++ ['.', '0']
    else if 0 < point ∧ point ≤ 16 then digits.take point.toNat ++ ['.'] ++ digits.drop point.toNat
    else if -5 < point ∧ point ≤ 0 then ['0', '.'] ++ zeros (-point) ++ digits
    else
      let tail := if digits.length ≤ 1 then [] else '.' :: digits.drop 1
      let power := if point ≤ 0 then '-' :: Nat.toDigits 10 (1 - point).toNat
        else '+' :: Nat.toDigits 10 (point - 1).toNat
      digits.take 1 ++ tail ++ 'e' :: power
  (if d.negative then "-" else "") ++ String.ofList body

end Decimal

end SyntaxPanel
