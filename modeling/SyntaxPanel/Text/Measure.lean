import SyntaxPanel.Fault

/-! The size of a text in UTF-8 bytes and in UTF-16 code units, and cuts at a byte offset.
A text is a list of characters here. A byte offset counts the bytes before it, so only the
offsets between two characters are places where a text can be cut. -/
namespace SyntaxPanel.Text

def total (size : Char → Nat) : List Char → Nat
  | [] => 0
  | c :: cs => size c + total size cs

def bytes : List Char → Nat
  | [] => 0
  | c :: cs => c.utf8Size + bytes cs

def unitsOf (c : Char) : Nat := if c.utf8Size = 4 then 2 else 1

def units : List Char → Nat
  | [] => 0
  | c :: cs => unitsOf c + units cs

/-- The two sides of a byte offset; none past the end or inside a character. -/
def splitAt? : List Char → Nat → Option (List Char × List Char)
  | cs, 0 => some ([], cs)
  | [], _ + 1 => none
  | c :: cs, n + 1 =>
    if c.utf8Size ≤ n + 1 then
      (splitAt? cs (n + 1 - c.utf8Size)).map fun (before, after) => (c :: before, after)
    else none

def cut (cs : List Char) (n : Nat) : Except Fault (List Char × List Char) :=
  match splitAt? cs n with
  | some sides => .ok sides
  | none => .error (if bytes cs < n then .pastEnd else .insideCharacter)

def slice? (cs : List Char) (start stop : Nat) : Option (List Char) :=
  if start ≤ stop then
    (splitAt? cs start).bind fun (_, after) => (splitAt? after (stop - start)).map Prod.fst
  else none

/-- The characters that end within the first `n` bytes. -/
def within : List Char → Nat → List Char
  | [], _ => []
  | c :: cs, n => if c.utf8Size ≤ n then c :: within cs (n - c.utf8Size) else []

theorem bytes_append (a b : List Char) : bytes (a ++ b) = bytes a + bytes b := by
  induction a with
  | nil => simp only [List.nil_append, bytes, Nat.zero_add]
  | cons c a ih => simp only [List.cons_append, bytes, ih, Nat.add_assoc]

theorem units_append (a b : List Char) : units (a ++ b) = units a + units b := by
  induction a with
  | nil => simp only [List.nil_append, units, Nat.zero_add]
  | cons c a ih => simp only [List.cons_append, units, ih, Nat.add_assoc]

theorem splitAt?_eq_some_iff {cs a b : List Char} {n : Nat} :
    splitAt? cs n = some (a, b) ↔ cs = a ++ b ∧ bytes a = n := by
  induction cs generalizing n a b with
  | nil =>
    cases n with
    | zero =>
      cases a with
      | nil => simp [splitAt?, bytes, eq_comm]
      | cons c a => simp [splitAt?]
    | succ n => cases a <;> simp [splitAt?, bytes]
  | cons c cs ih =>
    have pos := c.utf8Size_pos
    cases n with
    | zero =>
      cases a with
      | nil => simp [splitAt?, bytes, eq_comm]
      | cons d a =>
        have dpos := d.utf8Size_pos
        simp [splitAt?, bytes]
        omega
    | succ n =>
      by_cases fits : c.utf8Size ≤ n + 1
      · simp only [splitAt?, if_pos fits, Option.map_eq_some_iff, Prod.exists, Prod.mk.injEq, ih]
        constructor
        · rintro ⟨a', b', ⟨rfl, size⟩, rfl, rfl⟩
          refine ⟨rfl, ?_⟩
          simp only [bytes, size]
          omega
        · rintro ⟨h, size⟩
          cases a with
          | nil => simp [bytes] at size
          | cons d a =>
            obtain ⟨rfl, rfl⟩ := List.cons.inj h
            refine ⟨a, b, ⟨rfl, ?_⟩, rfl, rfl⟩
            simp only [bytes] at size
            omega
      · simp only [splitAt?, if_neg fits]
        constructor
        · intro h; cases h
        · rintro ⟨h, size⟩
          cases a with
          | nil => simp [bytes] at size
          | cons d a =>
            obtain ⟨rfl, rfl⟩ := List.cons.inj h
            simp only [bytes] at size
            omega

end SyntaxPanel.Text

namespace SyntaxPanel

structure Span where
  start : Nat
  stop : Nat
  start_le_stop : start ≤ stop := by omega
deriving DecidableEq, Repr

namespace Span

def ofBounds? (start stop : Nat) : Except Fault Span :=
  if h : start ≤ stop then .ok ⟨start, stop, h⟩ else .error .reversedSpan

end Span

end SyntaxPanel

namespace SyntaxPanel.Unicode

abbrev Ranges := List (Nat × Nat)

def Ranges.has (ranges : Ranges) (c : Char) : Bool :=
  ranges.any fun (first, last) => first ≤ c.toNat && c.toNat ≤ last

end SyntaxPanel.Unicode
