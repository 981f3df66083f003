import Mathlib.Tactic.SplitIfs
import SyntaxPanel.Text.Quoted

namespace SyntaxPanel.Text

section Separated

variable {α : Type} {mark : α} {a b x y : List α}

theorem append_mark_inj (fresh : mark ∉ a) (fresh' : mark ∉ b)
    (same : a ++ mark :: x = b ++ mark :: y) : a = b ∧ x = y := by
  induction a generalizing b with
  | nil =>
    cases b with
    | nil => exact ⟨rfl, (List.cons.inj same).2⟩
    | cons c b => exact absurd ((List.cons.inj same).1 ▸ List.mem_cons_self) fresh'
  | cons c a ih =>
    cases b with
    | nil => exact absurd ((List.cons.inj same).1 ▸ List.mem_cons_self) fresh
    | cons d b =>
      obtain ⟨rfl, rest⟩ := List.cons.inj same
      obtain ⟨rfl, rfl⟩ := ih (fun mem => fresh (List.mem_cons_of_mem c mem))
        (fun mem => fresh' (List.mem_cons_of_mem c mem)) rest
      exact ⟨rfl, rfl⟩

theorem append_mark_inj_last (fresh : mark ∉ x) (fresh' : mark ∉ y)
    (same : a ++ mark :: x = b ++ mark :: y) : a = b ∧ x = y := by
  have mirrored : x.reverse ++ mark :: a.reverse = y.reverse ++ mark :: b.reverse := by
    simpa using congrArg List.reverse same
  obtain ⟨behind, before⟩ := append_mark_inj (by simpa using fresh) (by simpa using fresh') mirrored
  exact ⟨List.reverse_inj.mp before, List.reverse_inj.mp behind⟩

theorem replicate_append_inj {m n : Nat} (other : ∃ c ∈ x.head?, c ≠ mark)
    (other' : ∃ c ∈ y.head?, c ≠ mark)
    (same : List.replicate m mark ++ x = List.replicate n mark ++ y) : m = n ∧ x = y := by
  have marked {n : Nat} {rest : List α} :
      ¬ ∃ c ∈ (List.replicate (n + 1) mark ++ rest).head?, c ≠ mark := by
    rintro ⟨c, head, apart⟩
    exact apart (Option.some.inj head).symm
  induction m generalizing n with
  | zero =>
    cases n with
    | zero => exact ⟨rfl, same⟩
    | succ n =>
      have same : x = _ := same
      exact absurd (same ▸ other) marked
  | succ m ih =>
    cases n with
    | zero =>
      have same : _ = y := same
      exact absurd (same ▸ other') marked
    | succ n =>
      obtain ⟨rfl, rest⟩ := ih (List.cons.inj same).2
      exact ⟨rfl, rest⟩

end Separated

theorem notMem_toDigits {base : Nat} {c : Char} (large : 1 < base) (small : base ≤ 16)
    (other : ∀ d < 16, c ≠ Nat.digitChar d) (n : Nat) : c ∉ Nat.toDigits base n := by
  induction n using Nat.strongRecOn with
  | ind n ih =>
    rw [Nat.toDigits_eq_if large]
    split
    · rw [List.mem_singleton]
      exact other n (by omega)
    · rw [List.mem_append, List.mem_singleton, not_or]
      have rest : n % base < base := Nat.mod_lt n (by omega)
      exact ⟨ih _ (Nat.div_lt_self (by omega) large), other _ (by omega)⟩

theorem digitChar_inj {m n : Nat} (hm : m < 16) (hn : n < 16)
    (same : Nat.digitChar m = Nat.digitChar n) : m = n := by
  have all : ∀ m < 16, ∀ n < 16, Nat.digitChar m = Nat.digitChar n → m = n := by decide
  exact all m hm n hn same

theorem toDigits_inj {base m n : Nat} (large : 1 < base) (small : base ≤ 16)
    (same : Nat.toDigits base m = Nat.toDigits base n) : m = n := by
  have some_digit (k : Nat) : Nat.toDigits base k ≠ [] := by
    rw [Nat.toDigits_eq_if large]
    split <;> simp
  induction m using Nat.strongRecOn generalizing n with
  | ind m ih =>
    rw [Nat.toDigits_eq_if large, Nat.toDigits_eq_if large (n := n)] at same
    have hm : m % base < base := Nat.mod_lt m (by omega)
    have hn : n % base < base := Nat.mod_lt n (by omega)
    split_ifs at same with short short' short'
    · exact digitChar_inj (by omega) (by omega) (List.cons.inj same).1
    -- A single digit has nothing in front of it, but a longer number has.
    · have same : [] ++ _ = _ ++ _ := same
      exact absurd (List.append_inj' same rfl).1.symm (some_digit _)
    · have same : _ ++ _ = [] ++ _ := same
      exact absurd (List.append_inj' same rfl).1 (some_digit _)
    · obtain ⟨front, last⟩ := List.append_inj' same rfl
      have upper := ih _ (Nat.div_lt_self (by omega) large) front
      have lower := digitChar_inj (by omega) (by omega) (List.cons.inj last).1
      rw [← Nat.div_add_mod m base, ← Nat.div_add_mod n base, upper, lower]

def unmarked : Char → Char
  | 'n' => '\n'
  | 'r' => '\r'
  | 't' => '\t'
  | '0' => '\x00'
  | c => c

inductive Writes (c : Char) : List Char → Prop where
  | plain (visible : c ≠ '\\') (inLine : c ≠ '\n') : Writes c [c]
  | marked {mark : Char} (listed : mark ∈ ['"', '\\', 'n', 'r', 't', '0'])
      (meant : unmarked mark = c) : Writes c ['\\', mark]
  | number : Writes c ('\\' :: 'u' :: '\x7b' :: (hex c.toNat ++ ['\x7d']))

theorem writes_escaped (c : Char) : Writes c (escaped c) := by
  unfold escaped
  split_ifs with quote newline back tab zero printable
  · simp only [Bool.or_eq_true, decide_eq_true_eq] at quote
    rcases quote with rfl | rfl
    · exact .marked (by decide) rfl
    · exact .marked (by decide) rfl
  · subst newline
    exact .marked (by decide) rfl
  · subst back
    exact .marked (by decide) rfl
  · subst tab
    exact .marked (by decide) rfl
  · obtain rfl : c = '\x00' := Char.toNat_inj.mp zero
    exact .marked (by decide) rfl
  · simp only [Bool.or_eq_true, decide_eq_true_eq, not_or] at quote
    exact .plain quote.2 newline
  · exact .number

theorem Writes.append_inj {c d : Char} {written written' x y : List Char} (first : Writes c written)
    (second : Writes d written') (same : written ++ x = written' ++ y) : c = d ∧ x = y := by
  cases first with
  | plain visible =>
    cases second with
    | plain =>
      cases same
      exact ⟨rfl, rfl⟩
    | marked => exact absurd (List.cons.inj same).1 visible
    | number => exact absurd (List.cons.inj same).1 visible
  | marked listed meant =>
    cases second with
    | plain visible => exact absurd (List.cons.inj same).1.symm visible
    | marked listed' meant' =>
      cases same
      exact ⟨meant.symm.trans meant', rfl⟩
    | number =>
      obtain rfl := (List.cons.inj (List.cons.inj same).2).1
      exact absurd listed (by decide)
  | number =>
    cases second with
    | plain visible => exact absurd (List.cons.inj same).1.symm visible
    | marked listed meant =>
      obtain rfl := (List.cons.inj (List.cons.inj same).2).1
      exact absurd listed (by decide)
    | number =>
      have other : ∀ d < 16, '\x7d' ≠ Nat.digitChar d := by decide
      have numbers : hex c.toNat ++ '\x7d' :: x = hex d.toNat ++ '\x7d' :: y := by
        simpa using same
      obtain ⟨digits, rest⟩ := append_mark_inj
        (notMem_toDigits (by decide) (by decide) other c.toNat)
        (notMem_toDigits (by decide) (by decide) other d.toNat) numbers
      exact ⟨Char.toNat_inj.mp (toDigits_inj (by decide) (by decide) digits), rest⟩

theorem Writes.ne_nil {c : Char} {written : List Char} (writes : Writes c written) :
    written ≠ [] := by
  cases writes <;> exact List.cons_ne_nil _ _

theorem newline_notMem_escaped (c : Char) : '\n' ∉ escaped c := by
  have writes := writes_escaped c
  generalize escaped c = written at writes
  cases writes with
  | plain visible inLine => simpa [eq_comm] using inLine
  | marked listed meant =>
    simp only [List.mem_cons, List.not_mem_nil, or_false] at listed
    rcases listed with rfl | rfl | rfl | rfl | rfl | rfl <;> decide
  | number =>
    have digits : '\n' ∉ hex c.toNat := notMem_toDigits (by decide) (by decide) (by decide) c.toNat
    simpa using digits

theorem newline_notMem_quoted (cs : List Char) : '\n' ∉ quoted cs := by
  simp [quoted, newline_notMem_escaped]

theorem flatMap_escaped_inj {cs ds : List Char}
    (same : cs.flatMap escaped = ds.flatMap escaped) : cs = ds := by
  induction cs generalizing ds with
  | nil =>
    cases ds with
    | nil => rfl
    | cons d ds => exact absurd (List.append_eq_nil_iff.mp same.symm).1 (writes_escaped d).ne_nil
  | cons c cs ih =>
    cases ds with
    | nil => exact absurd (List.append_eq_nil_iff.mp same).1 (writes_escaped c).ne_nil
    | cons d ds =>
      obtain ⟨rfl, rest⟩ := (writes_escaped c).append_inj (writes_escaped d) same
      rw [ih rest]

theorem quoted_inj {cs ds : List Char} (same : quoted cs = quoted ds) : cs = ds :=
  flatMap_escaped_inj (List.append_cancel_right (List.cons.inj same).2)

end SyntaxPanel.Text
