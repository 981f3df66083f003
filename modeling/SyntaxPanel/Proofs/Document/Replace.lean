import SyntaxPanel.Proofs.Document.Position

/-! Spans that are told by positions and then replaced. A place behind a `'\r'` is told with the
column behind it, but where nothing more than such characters is left of the line that column lies
past the content, and is read as the end of the content. All other places are read where they were
told. -/
namespace SyntaxPanel

namespace Text

/-- The place between `a` and `b` is behind a `'\r'`, with no other character up to the end of its
line. -/
def BehindContent (a b : List Char) : Prop :=
  a.getLast? = some '\r' ∧ ∀ c ∈ b.takeWhile (· != '\n'), c = '\r'

instance (a b : List Char) : Decidable (BehindContent a b) :=
  inferInstanceAs (Decidable (_ ∧ _))

def readBack (a b : List Char) : List Char :=
  if (b.takeWhile (· != '\n')).all (· == '\r') then a.rdropWhile (· == '\r') else a

theorem readBack_of_returns {a b : List Char}
    (returns : ∀ c ∈ b.takeWhile (· != '\n'), c = '\r') :
    readBack a b = a.rdropWhile (· == '\r') :=
  if_pos (by simpa only [List.all_eq_true, beq_iff_eq] using returns)

theorem readBack_of_other {a b : List Char}
    (other : ¬ ∀ c ∈ b.takeWhile (· != '\n'), c = '\r') : readBack a b = a :=
  if_neg (by simpa only [List.all_eq_true, beq_iff_eq] using other)

theorem rdropWhile_append {p : Char → Bool} (a b : List Char) : (a ++ b).rdropWhile p =
    if b.rdropWhile p = [] then a.rdropWhile p else a ++ b.rdropWhile p := by
  simp only [List.rdropWhile, List.reverse_append, List.dropWhile_append, List.isEmpty_iff,
    List.reverse_eq_nil_iff]
  split
  · rfl
  · rw [List.reverse_append, List.reverse_reverse]

theorem rdropWhile_returns {cs : List Char} :
    cs.rdropWhile (· == '\r') = [] ↔ ∀ c ∈ cs, c = '\r' := by
  simp only [List.rdropWhile_eq_nil_iff, beq_iff_eq]

theorem rdropWhile_of_unbroken {line : List Char} (unbroken : '\n' ∉ line) :
    line.rdropWhile isTerminator = line.rdropWhile (· == '\r') := by
  induction line using List.reverseRecOn with
  | nil => rfl
  | append_singleton line c ih =>
    simp only [List.mem_append, List.mem_singleton, not_or] at unbroken
    by_cases return' : c = '\r'
    · subst return'
      rw [List.rdropWhile_concat_pos _ _ _ rfl, List.rdropWhile_concat_pos _ _ _ rfl,
        ih unbroken.1]
    · have other : ¬ isTerminator c = true := by
        simp [isTerminator, return', Ne.symm unbroken.2]
      rw [List.rdropWhile_concat_neg _ _ _ other,
        List.rdropWhile_concat_neg _ _ _ (by simpa using return')]

theorem rdropWhile_of_startsLine {before left : List Char} (starts : StartsLine before) :
    (before ++ left).rdropWhile (· == '\r') = before ++ left.rdropWhile (· == '\r') := by
  have kept : before.rdropWhile (· == '\r') = before := by
    rcases starts with rfl | ⟨earlier, rfl⟩
    · rfl
    · exact List.rdropWhile_concat_neg _ _ _ (by decide)
  rw [rdropWhile_append, kept]
  split
  · rename_i all
    rw [all, List.append_nil]
  · rfl

theorem takeWhile_of_endsLine {right after : List Char} (unbroken : '\n' ∉ right)
    (ends : EndsLine after) : (right ++ after).takeWhile (· != '\n') = right := by
  induction right with
  | nil =>
    rcases ends with rfl | ⟨later, rfl⟩
    · rfl
    · rfl
  | cons c right ih =>
    obtain ⟨terminator, unbroken⟩ := not_or.mp (mt List.mem_cons.mpr unbroken)
    rw [List.cons_append, List.takeWhile_cons_of_pos (by simpa using Ne.symm terminator),
      ih unbroken]

theorem readBack_isPrefix (a b : List Char) : readBack a b <+: a := by
  unfold readBack
  split
  · exact List.rdropWhile_prefix _ _
  · exact List.prefix_rfl

theorem readBack_eq_self_iff {a b : List Char} : readBack a b = a ↔ ¬ BehindContent a b := by
  unfold BehindContent
  by_cases returns : ∀ c ∈ b.takeWhile (· != '\n'), c = '\r'
  · rw [readBack_of_returns returns, List.rdropWhile_eq_self_iff, and_iff_left returns]
    cases a using List.reverseRecOn with
    | nil => simp
    | append_singleton a c => simp
  · exact ⟨fun _ behind => returns behind.2, fun _ => readBack_of_other returns⟩

theorem readBack_mono (before middle after : List Char) :
    readBack before (middle ++ after) <+: readBack (before ++ middle) after := by
  by_cases returns : ∀ c ∈ after.takeWhile (· != '\n'), c = '\r'
  · rw [readBack_of_returns returns, rdropWhile_append]
    split
    · rename_i all
      rw [rdropWhile_returns] at all
      have unbroken : ∀ c ∈ middle, (c != '\n') = true := by
        intro c mem
        rw [all c mem]
        rfl
      have both : ∀ c ∈ (middle ++ after).takeWhile (· != '\n'), c = '\r' := by
        rw [List.takeWhile_append_of_pos unbroken]
        intro c mem
        exact (List.mem_append.mp mem).elim (all c) (returns c)
      exact readBack_of_returns both ▸ List.prefix_rfl
    · exact (readBack_isPrefix _ _).trans (List.prefix_append _ _)
  · rw [readBack_of_other returns]
    exact (readBack_isPrefix _ _).trans (List.prefix_append _ _)

theorem prefix_eq_of_bytes {a b cs : List Char} (h : a <+: cs) (h' : b <+: cs)
    (same : bytes a = bytes b) : a = b := by
  rcases List.prefix_or_prefix_of_prefix h h' with ⟨more, rfl⟩ | ⟨more, rfl⟩
  · have nothing : bytes more = 0 := by
      rw [bytes_append] at same
      omega
    rw [eq_nil_of_bytes nothing, List.append_nil]
  · have nothing : bytes more = 0 := by
      rw [bytes_append] at same
      omega
    rw [eq_nil_of_bytes nothing, List.append_nil]

theorem bytes_readBack_eq_iff {a b : List Char} :
    bytes (readBack a b) = bytes a ↔ ¬ BehindContent a b := by
  rw [← readBack_eq_self_iff]
  exact ⟨prefix_eq_of_bytes (readBack_isPrefix a b) List.prefix_rfl, congrArg bytes⟩

/-- The place between `a` and `b` is between the two characters of one line end. -/
def InsideLineEnd (a b : List Char) : Prop := a.getLast? = some '\r' ∧ b.head? = some '\n'

end Text

open Text (BehindContent readBack LineAt bytes units isTerminator columnLimit)

def Span.behind (before middle : List Char) : Span :=
  ⟨bytes before, bytes (before ++ middle), Text.bytes_le_of_prefix (List.prefix_append _ _)⟩

namespace Document

variable {d : Document} {a b before middle after : List Char}

/-- The position of a place is read as that place, or as the one before the last `'\r'`s of its
line if it is among them. -/
theorem offset_of_position (fits : d.length ≤ columnLimit) (parts : d.chars = a ++ b) :
    ∃ p, d.position (bytes a) = .ok p ∧ d.offset p = bytes (readBack a b) := by
  obtain ⟨before, left, right, after, rfl, found⟩ := Text.exists_lineAt a b
  rw [← parts] at found
  have unbroken : '\n' ∉ left ∧ '\n' ∉ right := by simpa using found.unbroken
  have rest : b = right ++ after := by
    have same := parts.symm.trans found.parts
    simpa [List.append_assoc] using same
  have to_end : b.takeWhile (· != '\n') = right := by
    rw [rest, Text.takeWhile_of_endsLine unbroken.2 found.ends]
  refine ⟨_, position_append parts found.starts unbroken.1, ?_⟩
  rw [offset_units fits found, Text.rdropWhile_of_unbroken found.unbroken, Text.rdropWhile_append]
  split
  · -- The line ends in carriage returns, and the place is among them or before the first.
    rename_i returns
    rw [Text.rdropWhile_returns, ← to_end] at returns
    have le := Text.bytes_le_of_prefix (List.rdropWhile_prefix (· == '\r') left)
    rw [Text.readBack_of_returns returns, Text.rdropWhile_of_startsLine found.starts,
      Text.bytes_append, Text.bytes_append]
    omega
  · rename_i other
    rw [Text.rdropWhile_returns, ← to_end] at other
    rw [Text.readBack_of_other other, Text.bytes_append, Text.bytes_append]
    omega

theorem applyChange_told (fits : d.length ≤ columnLimit)
    (parts : d.chars = before ++ middle ++ after) (text : String) :
    ∃ r rest d' e, d.range (.behind before middle) = .ok r ∧
      d.applyChange ⟨some r, text⟩ = .ok (d', some e) ∧
      e.start = bytes (readBack before (middle ++ after)) ∧
      e.oldEnd = bytes (readBack (before ++ middle) after) ∧
      d.chars = readBack (before ++ middle) after ++ rest ∧
      d'.chars = readBack before (middle ++ after) ++ text.toList ++ rest := by
  have parts' : d.chars = before ++ (middle ++ after) := by rw [parts, List.append_assoc]
  obtain ⟨start, toldStart, readStart⟩ := offset_of_position fits parts'
  obtain ⟨stop, toldStop, readStop⟩ := offset_of_position fits parts
  have ordered := Text.readBack_mono before middle after
  obtain ⟨first, removed, rest, cut, atFirst, atSecond, spliced⟩ :=
    d.spliceRange_eq ⟨start, stop⟩ text
  rw [readStart] at atFirst
  rw [readStart, readStop, Nat.max_eq_left (Text.bytes_le_of_prefix ordered)] at atSecond
  have inside : readBack (before ++ middle) after <+: d.chars :=
    (Text.readBack_isPrefix _ _).trans ⟨after, parts.symm⟩
  have second : first ++ removed = readBack (before ++ middle) after :=
    Text.prefix_eq_of_bytes ⟨rest, cut.symm⟩ inside atSecond
  rw [← second] at ordered
  have same : first = readBack before (middle ++ after) :=
    Text.prefix_eq_of_bytes (List.prefix_append _ _) ordered atFirst
  refine ⟨⟨start, stop⟩, rest, d.setText (String.ofList (first ++ text.toList ++ rest)),
    .behind first removed text.toList, range_eq_ok_iff.mpr ⟨toldStart, toldStop⟩, ?_, atFirst,
    atSecond, by rw [cut, second], by rw [chars_setText, same]⟩
  simp only [applyChange, spliced]
  rfl

/-- A span is replaced just as it was told, unless one of its ends is behind the content of its
line: such an end is not found again. So the whole text is replaced but for the `'\r'`s at its
end. -/
theorem told_span_replaced (d : Document) (fits : d.length < 4294967296) (text : String) :
    (∀ before middle after, d.chars = before ++ middle ++ after →
      ∃ r d' e, d.range (.behind before middle) = .ok r ∧
        d.applyChange ⟨some r, text⟩ = .ok (d', some e) ∧
        (e.start = bytes before ↔ ¬ BehindContent before (middle ++ after)) ∧
        (e.oldEnd = bytes (before ++ middle) ↔ ¬ BehindContent (before ++ middle) after) ∧
        (¬ BehindContent before (middle ++ after) → ¬ BehindContent (before ++ middle) after →
          d'.chars = before ++ text.toList ++ after)) ∧
    ∃ r d' e full, d.range (.behind [] d.chars) = .ok r ∧
      d.applyChange ⟨some r, text⟩ = .ok (d', some e) ∧
      d.applyChange ⟨none, text⟩ = .ok (full, none) ∧
      d'.chars = full.chars ++ d.chars.rtakeWhile (· == '\r') := by
  have small : d.length ≤ columnLimit := Nat.le_of_lt_succ fits
  constructor
  · intro before middle after parts
    obtain ⟨r, rest, d', e, told, changed, start, oldEnd, cut, result⟩ :=
      applyChange_told small parts text
    refine ⟨r, d', e, told, changed, ?_, ?_, ?_⟩
    · rw [start, Text.bytes_readBack_eq_iff]
    · rw [oldEnd, Text.bytes_readBack_eq_iff]
    · intro first second
      rw [Text.readBack_eq_self_iff.mpr second, parts] at cut
      rw [result, Text.readBack_eq_self_iff.mpr first, ← List.append_cancel_left cut]
  · have parts : d.chars = [] ++ d.chars ++ [] := by simp
    obtain ⟨r, rest, d', e, told, changed, -, -, cut, result⟩ :=
      applyChange_told small parts text
    refine ⟨r, d', e, d.setText text, told, changed, rfl, ?_⟩
    have whole : d.chars.rdropWhile (· == '\r') ++ d.chars.rtakeWhile (· == '\r') = d.chars :=
      List.rdropWhile_append_rtakeWhile
    have last : readBack ([] ++ d.chars) [] = d.chars.rdropWhile (· == '\r') :=
      Text.readBack_of_returns fun _ impossible => nomatch impossible
    rw [last] at cut
    rw [List.append_cancel_left (whole.trans cut), result,
      List.prefix_nil.mp (Text.readBack_isPrefix [] _)]
    rfl

def returning : Document := ⟨"a.ts", "é\r\nb\r"⟩

theorem told_span_replaced_returning :
    returning.length < 4294967296 ∧
    returning.chars = ['é', '\r', '\n'] ++ ['b'] ++ ['\r'] ∧
    ¬ BehindContent ['é', '\r', '\n'] ['b', '\r'] ∧
    ¬ BehindContent ['é', '\r', '\n', 'b'] ['\r'] ∧
    (∃ r d' e, returning.range (.behind ['é', '\r', '\n'] ['b']) = .ok r ∧
      returning.applyChange ⟨some r, "cd"⟩ = .ok (d', some e) ∧
      e.start = 4 ∧ e.oldEnd = 5 ∧ d'.chars = ['é', '\r', '\n', 'c', 'd', '\r']) ∧
    ∃ r d' e, returning.range (.behind [] returning.chars) = .ok r ∧
      returning.applyChange ⟨some r, "cd"⟩ = .ok (d', some e) ∧ d'.chars = ['c', 'd', '\r'] := by
  have fits : returning.length < 4294967296 := by decide
  have first : ¬ BehindContent ['é', '\r', '\n'] ['b', '\r'] := by decide
  have second : ¬ BehindContent ['é', '\r', '\n', 'b'] ['\r'] := by decide
  obtain ⟨spans, whole⟩ := told_span_replaced returning fits "cd"
  obtain ⟨r, d', e, told, changed, start, oldEnd, result⟩ :=
    spans ['é', '\r', '\n'] ['b'] ['\r'] rfl
  obtain ⟨r', d'', e', full, told', changed', fresh, result'⟩ := whole
  cases fresh
  exact ⟨fits, rfl, first, second,
    ⟨r, d', e, told, changed, start.mpr first, oldEnd.mpr second, result first second⟩,
    r', d'', e', told', changed', result'⟩

/-- Not all spans that spare the line ends are replaced as they were told: a carriage return at the
end of a text is left over. -/
theorem told_span_missed : ¬ ∀ (d : Document) (before middle after : List Char) (text : String),
    d.length < 4294967296 → d.chars = before ++ middle ++ after →
    ¬ Text.InsideLineEnd before (middle ++ after) → ¬ Text.InsideLineEnd (before ++ middle) after →
    ∃ r d' e, d.range (.behind before middle) = .ok r ∧
      d.applyChange ⟨some r, text⟩ = .ok (d', some e) ∧
      d'.chars = before ++ text.toList ++ after ∧
      e.start = bytes before ∧ e.oldEnd = bytes (before ++ middle) := by
  intro exact_everywhere
  obtain ⟨r, d', e, told, changed, -, -, oldEnd⟩ := exact_everywhere ⟨"a.ts", "a\r"⟩ []
    ['a', '\r'] [] "b" (by decide) rfl (fun inside => nomatch inside.1)
    (fun inside => nomatch inside.2)
  have position : r = ⟨⟨0, 0⟩, ⟨0, 2⟩⟩ := (Except.ok.inj told).symm
  subst position
  have edit : e = Edit.behind [] ['a'] ['b'] :=
    (Option.some.inj (Prod.mk.inj (Except.ok.inj changed)).2).symm
  rw [edit] at oldEnd
  revert oldEnd
  decide

end Document

end SyntaxPanel
