import SyntaxPanel.Proofs.Text.Line

namespace SyntaxPanel.Text

theorem unitsOf_pos (c : Char) : 0 < unitsOf c := by
  unfold unitsOf
  split <;> omega

theorem unitsOf_add_surplus (c : Char) : unitsOf c + surplus c = c.utf8Size := by
  have pos := c.utf8Size_pos
  unfold surplus unitsOf
  split <;> omega

theorem units_add_surplus (cs : List Char) : units cs + total surplus cs = bytes cs := by
  induction cs with
  | nil => rfl
  | cons c cs ih =>
    have one := unitsOf_add_surplus c
    simp only [units, total, bytes]
    omega

theorem units_le_bytes (cs : List Char) : units cs ≤ bytes cs := by
  have size := units_add_surplus cs
  omega

theorem units_pos {cs : List Char} (some_char : cs ≠ []) : 0 < units cs := by
  cases cs with
  | nil => exact absurd rfl some_char
  | cons c cs => exact Nat.add_pos_left (unitsOf_pos c) _

theorem utf8Size_of_isTerminator {c : Char} (terminator : isTerminator c) : c.utf8Size = 1 := by
  rcases (Bool.or_eq_true _ _).mp terminator with newline | return'
  · rw [of_decide_eq_true newline]
    rfl
  · rw [of_decide_eq_true return']
    rfl

theorem within_append (a b : List Char) : within (a ++ b) (bytes a) = a := by
  induction a with
  | nil =>
    cases b with
    | nil => rfl
    | cons c b =>
      have pos := c.utf8Size_pos
      exact if_neg (by simp only [bytes]; omega)
  | cons c a ih => simp [within, bytes, ih]

theorem within_of_le {cs : List Char} {n : Nat} (le : bytes cs ≤ n) : within cs n = cs := by
  induction cs generalizing n with
  | nil => rfl
  | cons c cs ih =>
    rw [bytes] at le
    rw [within, if_pos (by omega), ih (by omega)]

theorem bytes_le_of_prefix {a b : List Char} (h : a <+: b) : bytes a ≤ bytes b := by
  obtain ⟨more, rfl⟩ := h
  rw [bytes_append]
  exact Nat.le_add_right _ _

theorem bytes_within_of_prefix {line part left : List Char} (h : part <+: line)
    (h' : left <+: line) : bytes (within part (bytes left)) = min (bytes left) (bytes part) := by
  rcases List.prefix_or_prefix_of_prefix h' h with ⟨more, rfl⟩ | shorter
  · rw [within_append, bytes_append, Nat.min_eq_left (Nat.le_add_right _ _)]
  · have le := bytes_le_of_prefix shorter
    rw [within_of_le le, Nat.min_eq_right le]

theorem unitColumn_append (left right : List Char) :
    unitColumn (left ++ right) (bytes left) = units left := by
  have size := units_add_surplus left
  rw [unitColumn, surplusWithin, within_append]
  omega

theorem byteColumnFrom?_cons (c : Char) (cs : List Char) {start n : Nat}
    (told : start + unitsOf c + n ≤ columnLimit) :
    byteColumnFrom? start (start + unitsOf c + n) (c :: cs) =
      if start + c.utf8Size + n ≤ columnLimit then
        byteColumnFrom? (start + c.utf8Size) (start + c.utf8Size + n) cs
      else none := by
  have size := unitsOf_add_surplus c
  have pos := unitsOf_pos c
  by_cases narrow : c.utf8Size = 1
  · have single : unitsOf c = 1 := by omega
    rw [single] at told ⊢
    rw [byteColumnFrom?, narrow, if_pos rfl, if_pos told]
  · have before : start < start + unitsOf c + n := by omega
    have moved : start + unitsOf c + n + surplus c = start + c.utf8Size + n := by omega
    rw [byteColumnFrom?, if_neg narrow, if_pos before, moved]

theorem byteColumnFrom?_append (left right : List Char) (start : Nat) {n : Nat}
    (reached : start + bytes left + n ≤ columnLimit) :
    byteColumnFrom? start (start + units left + n) (left ++ right) =
      byteColumnFrom? (start + bytes left) (start + bytes left + n) right := by
  induction left generalizing start with
  | nil => rfl
  | cons c left ih =>
    have size := unitsOf_add_surplus c
    have le := units_le_bytes left
    rw [bytes, ← Nat.add_assoc] at reached
    rw [units, ← Nat.add_assoc, Nat.add_assoc (start + unitsOf c), List.cons_append,
      byteColumnFrom?_cons c (left ++ right) (by omega), if_pos (by omega), ← Nat.add_assoc,
      ih _ reached, bytes, ← Nat.add_assoc]

theorem byteColumnFrom?_passed (left right : List Char) {start n : Nat}
    (told : start + units left + n ≤ columnLimit)
    (passed : columnLimit < start + bytes left + n) :
    byteColumnFrom? start (start + units left + n) (left ++ right) = none := by
  induction left generalizing start with
  | nil => exact absurd told (Nat.not_le_of_lt passed)
  | cons c left ih =>
    rw [units, ← Nat.add_assoc] at told
    rw [bytes, ← Nat.add_assoc] at passed
    rw [units, ← Nat.add_assoc, Nat.add_assoc (start + unitsOf c), List.cons_append,
      byteColumnFrom?_cons c (left ++ right) (by omega)]
    split
    · rename_i reached
      rw [← Nat.add_assoc] at reached ⊢
      exact ih reached passed
    · rfl

theorem byteColumnFrom?_of_le {cs : List Char} {start column : Nat} (le : column ≤ start) :
    byteColumnFrom? start column cs = some column := by
  induction cs generalizing start with
  | nil => rfl
  | cons c cs ih =>
    rw [byteColumnFrom?]
    split
    · exact ih (by omega)
    · rw [if_neg (by omega)]

theorem byteColumnFrom?_narrow {cs : List Char} (narrow : ∀ c ∈ cs, c.utf8Size = 1)
    (start column : Nat) : byteColumnFrom? start column cs = some column := by
  induction cs generalizing start with
  | nil => rfl
  | cons c cs ih =>
    rw [byteColumnFrom?, if_pos (narrow c List.mem_cons_self)]
    exact ih (fun c mem => narrow c (List.mem_cons_of_mem _ mem)) _

theorem byteColumn?_append (left right : List Char) (fits : bytes left ≤ columnLimit) :
    byteColumn? (left ++ right) (units left) = some (bytes left) := by
  have walked := byteColumnFrom?_append left right 0 (n := 0) (by omega)
  simp only [Nat.zero_add, Nat.add_zero] at walked
  rw [byteColumn?, walked, byteColumnFrom?_of_le (Nat.le_refl _)]

theorem LineAt.byteColumn?_past {cs before line after : List Char}
    (found : LineAt cs before line after) {n : Nat}
    (told : units (line.rdropWhile isTerminator) + n ≤ columnLimit) :
    byteColumn? (line ++ after.take 1) (units (line.rdropWhile isTerminator) + n) =
      if bytes (line.rdropWhile isTerminator) + n ≤ columnLimit then
        some (bytes (line.rdropWhile isTerminator) + n)
      else none := by
  have parts : line ++ after.take 1 = line.rdropWhile isTerminator ++
      (line.rtakeWhile isTerminator ++ after.take 1) := by
    rw [← List.append_assoc, List.rdropWhile_append_rtakeWhile]
  have narrow : ∀ c ∈ line.rtakeWhile isTerminator ++ after.take 1, c.utf8Size = 1 := by
    intro c mem
    apply utf8Size_of_isTerminator
    rcases List.mem_append.mp mem with mem | mem
    · exact List.mem_rtakeWhile_imp mem
    · rcases found.ends with rfl | ⟨later, rfl⟩
      · cases mem
      · rw [List.mem_singleton.mp mem]
        rfl
  rw [← Nat.zero_add (units _)] at told ⊢
  rw [byteColumn?, parts]
  split
  · rename_i reached
    rw [byteColumnFrom?_append _ _ 0 (by omega), byteColumnFrom?_narrow narrow, Nat.zero_add]
  · exact byteColumnFrom?_passed _ _ told (by omega)

theorem within_inside (left right : List Char) (c : Char) {k : Nat} (inside : k < c.utf8Size) :
    within (left ++ c :: right) (bytes left + k) = left := by
  induction left with
  | nil => exact if_neg (by simp only [bytes]; omega)
  | cons b left ih =>
    have fits : b.utf8Size ≤ bytes (b :: left) + k := by
      rw [bytes]
      omega
    have rest : bytes (b :: left) + k - b.utf8Size = bytes left + k := by
      rw [bytes]
      omega
    rw [List.cons_append, within, if_pos fits, rest, ih]

theorem byteColumn?_inside (left right : List Char) (c : Char) {n : Nat}
    (inside : n < unitsOf c) (fits : bytes left + c.utf8Size ≤ columnLimit) :
    ∃ k < c.utf8Size,
      byteColumn? (left ++ c :: right) (units left + n) = some (bytes left + k) := by
  have size := unitsOf_add_surplus c
  cases n with
  | zero => exact ⟨0, c.utf8Size_pos, byteColumn?_append left (c :: right) (by omega)⟩
  | succ n =>
    -- Only a pair of code units has an inside, and its character takes four bytes.
    have pair : n = 0 ∧ c.utf8Size = 4 ∧ surplus c = 2 := by
      by_cases wide : c.utf8Size = 4
      · rw [unitsOf, if_pos wide] at inside size
        omega
      · rw [unitsOf, if_neg wide] at inside
        omega
    obtain ⟨rfl, wide, more⟩ := pair
    have walked := byteColumnFrom?_append left (c :: right) 0 (n := 1) (by omega)
    simp only [Nat.zero_add] at walked
    have told : bytes left + 1 + surplus c ≤ columnLimit := by omega
    refine ⟨3, by omega, ?_⟩
    rw [byteColumn?, walked, byteColumnFrom?, if_neg (by omega), if_pos (Nat.lt_succ_self _),
      if_pos told, byteColumnFrom?_of_le (by omega), more]

/-- The longest beginning of a text that takes at most `n` code units. -/
structure LongestWithin (cs : List Char) (n : Nat) (kept : List Char) : Prop where
  begins : kept <+: cs
  fits : units kept ≤ n
  longest : ∀ other, other <+: cs → units other ≤ n → other <+: kept

theorem longestWithin_self {cs : List Char} {n : Nat} (fits : units cs ≤ n) :
    LongestWithin cs n cs :=
  ⟨List.prefix_rfl, fits, fun _ begins _ => begins⟩

theorem longestWithin_inside {left right : List Char} {c : Char} {n : Nat}
    (inside : n < unitsOf c) : LongestWithin (left ++ c :: right) (units left + n) left := by
  refine ⟨List.prefix_append _ _, Nat.le_add_right _ _, ?_⟩
  intro other begins fits
  rcases List.prefix_or_prefix_of_prefix begins (List.prefix_append left (c :: right)) with
    shorter | ⟨more, rfl⟩
  · exact shorter
  · cases more with
    | nil => exact (List.append_nil left).symm ▸ List.prefix_rfl
    | cons d more =>
      -- A longer beginning has all of the character, so it takes too many units.
      obtain ⟨rfl, -⟩ := List.cons_prefix_cons.mp ((List.prefix_append_right_inj left).mp begins)
      rw [units_append, units] at fits
      omega

theorem exists_at_units {cs : List Char} {n : Nat} (le : n ≤ units cs) :
    n = units cs ∨ ∃ left c right k, cs = left ++ c :: right ∧ k < unitsOf c ∧
      n = units left + k := by
  induction cs generalizing n with
  | nil => exact .inl (Nat.le_zero.mp le)
  | cons c cs ih =>
    rw [units] at le
    by_cases inside : n < unitsOf c
    · exact .inr ⟨[], c, cs, n, rfl, inside, (Nat.zero_add n).symm⟩
    · rcases ih (n := n - unitsOf c) (by omega) with all | ⟨left, d, right, k, rfl, within, at_k⟩
      · refine .inl ?_
        rw [units]
        omega
      · refine .inr ⟨c :: left, d, right, k, rfl, within, ?_⟩
        rw [units]
        omega

end SyntaxPanel.Text
