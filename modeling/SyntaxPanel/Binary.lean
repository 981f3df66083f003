/-! Floating point numbers of 53 bits, without their sign. All of it is exact arithmetic on
naturals: an operation computes the true result as a fraction and rounds it once, to the nearest
number and from a tie to the even one. -/
namespace SyntaxPanel

/-- The number `significand * 2 ^ exponent`. -/
structure Binary where
  significand : Nat
  exponent : Int
deriving DecidableEq, Repr

namespace Binary

def roundDiv (num den : Nat) : Nat :=
  let q := num / den
  let twice := 2 * (num % den)
  if twice < den then q else if twice > den then q + 1 else if q % 2 = 0 then q else q + 1

def scale (num den base : Nat) (power : Int) : Nat × Nat :=
  if 0 ≤ power then (num * Nat.pow base power.toNat, den)
  else (num, den * Nat.pow base (-power).toNat)

def leastExponent : Int := -1074

def greatestExponent : Int := 971

def leastSignificand : Nat := Nat.pow 2 52

/-- The number nearest to `num / den`, as if there were no greatest one. -/
def round (num den : Nat) : Binary :=
  let guess : Int := (Nat.log2 num : Int) - Nat.log2 den - 52
  let (n, d) := scale num den 2 (-guess)
  let fitted :=
    if n / d < leastSignificand then guess - 1
    else if n / d < 2 * leastSignificand then guess else guess + 1
  let exponent := max fitted leastExponent
  let (n, d) := scale num den 2 (-exponent)
  let significand := roundDiv n d
  if significand = 2 * leastSignificand then ⟨leastSignificand, exponent + 1⟩
  else ⟨significand, exponent⟩

def nearest? (num den : Nat) : Option Binary :=
  let b := round num den
  if b.exponent > greatestExponent then none else some b

def align (b c : Binary) : Nat × Nat × Int :=
  let exponent := min b.exponent c.exponent
  (b.significand * Nat.pow 2 (b.exponent - exponent).toNat,
    c.significand * Nat.pow 2 (c.exponent - exponent).toNat, exponent)

def less (b c : Binary) : Bool :=
  let (x, y, _) := b.align c
  x < y

def add (b c : Binary) : Binary :=
  let (x, y, exponent) := b.align c
  let (num, den) := scale (x + y) 1 2 exponent
  round num den

def divide (b : Binary) (n : Nat) : Binary :=
  let (num, den) := scale b.significand n 2 b.exponent
  round num den

/-- Whether `x / y` has `b` as its nearest number. -/
def covers (b : Binary) (x y : Nat) : Bool :=
  let (n, d) := scale x y 2 (-b.exponent)
  -- all three are in quarters of the last place
  let value := 4 * n
  let lower := if b.significand = leastSignificand ∧ b.exponent > leastExponent
    then 4 * b.significand - 1 else 4 * b.significand - 2
  let upper := 4 * b.significand + 2
  if b.significand % 2 = 0 then lower * d ≤ value && value ≤ upper * d
  else lower * d < value && value < upper * d

def greatestTen : Nat := 308

def timesTen? (b : Binary) (power : Nat) : Option Binary :=
  (nearest? (Nat.pow 10 power) 1).bind fun ten =>
    let (num, den) := scale (b.significand * ten.significand) 1 2 (b.exponent + ten.exponent)
    nearest? num den

def overTen? (b : Binary) (power : Nat) : Option Binary :=
  (nearest? (Nat.pow 10 power) 1).bind fun ten =>
    let (num, den) := scale b.significand ten.significand 2 (b.exponent - ten.exponent)
    nearest? num den

/-- The number times `10 ^ power`, in as few steps as there are powers of ten for; none if the
result is too large. Each step rounds, so the result need not be the nearest number. -/
def shiftTen? (b : Binary) (power : Int) : Option Binary :=
  if b.significand = 0 then some b
  else if power > greatestTen then none
  else if 0 ≤ power then b.timesTen? power.toNat
  else if -(greatestTen : Int) ≤ power then b.overTen? (-power).toNat
  else (b.overTen? greatestTen).bind fun b => b.shiftTen? (power + greatestTen)
termination_by (-power).toNat
decreasing_by simp only [greatestTen] at *; omega

end Binary

end SyntaxPanel
