import SyntaxPanel.Text.Path

namespace SyntaxPanel.Text

def Stays (part : List Char) : Prop := part = [] ∨ part = ['.']

inductive Idle : List Char → Prop where
  | nothing : Idle []
  | separator {rest : List Char} (idle : Idle rest) : Idle ('/' :: rest)
  | step {rest : List Char} (idle : Idle rest) : Idle ('/' :: '.' :: rest)

/-- What stands around the last part of a path that leads anywhere. -/
structure Around (front name rest : List Char) : Prop where
  starts : front = [] ∨ ∃ dir, front = dir ++ ['/']
  whole : '/' ∉ name
  leads : ¬ Stays name
  idle : Idle rest

def LastPart (path name : List Char) : Prop :=
  ∃ front rest, Around front name rest ∧ path = front ++ name ++ rest

variable {path front name rest part stem extension : List Char}

theorem segments_eq_splitOn (sep : Char) (cs : List Char) : segments sep cs = cs.splitOn sep := by
  induction cs with
  | nil => simp [segments]
  | cons c cs ih =>
    obtain ⟨part, others, cut⟩ := List.exists_cons_of_ne_nil (List.splitOn_ne_nil sep cs)
    rw [segments, List.splitOn_cons_eq_if_modifyHead, ih, cut]
    simp

theorem notMem_of_mem_segments {sep : Char} {cs : List Char} (mem : part ∈ segments sep cs) :
    sep ∉ part := by
  induction cs generalizing part with
  | nil => simp_all [segments]
  | cons c cs ih =>
    rw [segments_eq_splitOn] at ih mem
    obtain ⟨first, others, cut⟩ := List.exists_cons_of_ne_nil (List.splitOn_ne_nil sep cs)
    rw [List.splitOn_cons_eq_if_modifyHead] at mem
    by_cases same : c = sep
    · rcases List.mem_cons.mp (by simpa [same] using mem) with rfl | mem
      · simp
      · exact ih mem
    · rw [cut] at ih mem
      rcases List.mem_cons.mp (by simpa [same] using mem) with rfl | mem
      · simpa [Ne.symm same] using ih List.mem_cons_self
      · exact ih (List.mem_cons_of_mem first mem)

theorem components_append (front rest : List Char) :
    components (front ++ '/' :: rest) = components front ++ components rest := by
  simp only [components, segments_eq_splitOn, List.splitOn_append_cons_self, List.filter_append]

theorem components_of_whole (whole : '/' ∉ name) (leads : ¬ Stays name) :
    components name = [name] := by
  simpa [components, segments_eq_splitOn, List.splitOn_eq_singleton whole, Stays] using leads

theorem components_append_idle (idle : Idle rest) (path : List Char) :
    components (path ++ rest) = components path := by
  have skips {part : List Char} (none : components part = []) (path : List Char) :
      components (path ++ '/' :: part) = components path := by
    rw [components_append, none, List.append_nil]
  induction idle generalizing path with
  | nothing => rw [List.append_nil]
  | @separator rest _ ih =>
    calc components (path ++ '/' :: rest) = components (path ++ ['/'] ++ rest) := by simp
      _ = components (path ++ ['/']) := ih _
      _ = components path := skips (by simp [components, segments]) path
  | @step rest _ ih =>
    calc components (path ++ '/' :: '.' :: rest) = components (path ++ ['/', '.'] ++ rest) := by
          simp
      _ = components (path ++ ['/', '.']) := ih _
      _ = components path := skips (by simp [components, segments]) path

theorem getLast?_components (around : Around front name rest) :
    (components (front ++ name ++ rest)).getLast? = some name := by
  rw [components_append_idle around.idle]
  have last := components_of_whole around.whole around.leads
  rcases around.starts with rfl | ⟨dir, rfl⟩
  · simp [last]
  · rw [List.append_assoc, List.singleton_append, components_append, last]
    simp

theorem intercalate_around (sep : Char) (before after : List (List Char)) (part : List Char) :
    [sep].intercalate (before ++ part :: after) =
      before.flatMap (· ++ [sep]) ++ part ++ after.flatMap (sep :: ·) := by
  induction before with
  | nil =>
    induction after generalizing part with
    | nil => simp
    | cons next after ih =>
      simp only [List.nil_append] at ih ⊢
      rw [List.intercalate_cons_cons, ih next]
      simp
  | cons first before ih =>
    rw [List.cons_append, List.intercalate_cons_of_ne_nil (by simp), ih]
    simp

theorem idle_flatMap {parts : List (List Char)} (stay : ∀ part ∈ parts, Stays part) :
    Idle (parts.flatMap ('/' :: ·)) := by
  induction parts with
  | nil => exact .nothing
  | cons part parts ih =>
    have others := ih fun other mem => stay other (List.mem_cons_of_mem part mem)
    rcases stay part List.mem_cons_self with rfl | rfl
    · exact .separator others
    · exact .step others

theorem starts_flatMap (parts : List (List Char)) :
    parts.flatMap (· ++ ['/']) = [] ∨ ∃ dir, parts.flatMap (· ++ ['/']) = dir ++ ['/'] := by
  rcases List.eq_nil_or_concat parts with rfl | ⟨parts, part, rfl⟩
  · exact .inl rfl
  · exact .inr ⟨parts.flatMap (· ++ ['/']) ++ part, by simp⟩

theorem getLast?_components_eq_some_iff :
    (components path).getLast? = some name ↔ LastPart path name := by
  constructor
  · intro last
    obtain ⟨others, last⟩ := List.getLast?_eq_some_iff.mp last
    obtain ⟨before, behind, cut, -, kept⟩ := List.filter_eq_append_iff.mp last
    obtain ⟨between, after, rfl, -, leads, dropped⟩ := List.filter_eq_cons_iff.mp kept
    rw [← List.append_assoc] at cut
    have mem : name ∈ segments '/' path := by simp [cut]
    have stay : ∀ part ∈ after, Stays part := by
      intro part mem
      have idle := List.filter_eq_nil_iff.mp dropped part mem
      simpa [Stays, Decidable.imp_iff_not_or] using idle
    refine ⟨(before ++ between).flatMap (· ++ ['/']), after.flatMap ('/' :: ·), ?_, ?_⟩
    · exact ⟨starts_flatMap _, notMem_of_mem_segments mem, by simpa [Stays] using leads,
        idle_flatMap stay⟩
    · rw [← intercalate_around, ← cut, segments_eq_splitOn, List.intercalate_splitOn]
  · rintro ⟨front, rest, around, rfl⟩
    exact getLast?_components around

theorem splitAtLastDot?_eq_none_iff : splitAtLastDot? name = none ↔ '.' ∉ name := by
  induction name with
  | nil => simp [splitAtLastDot?]
  | cons c name ih =>
    rw [splitAtLastDot?, List.mem_cons, not_or, ← ih]
    cases splitAtLastDot? name <;> simp [eq_comm]

theorem splitAtLastDot?_eq_some_iff : splitAtLastDot? name = some (stem, extension) ↔
    name = stem ++ '.' :: extension ∧ '.' ∉ extension := by
  constructor
  · intro cut
    induction name generalizing stem with
    | nil => cases cut
    | cons c name ih =>
      rw [splitAtLastDot?] at cut
      split at cut
      · rename_i earlier
        cases cut
        obtain ⟨rfl, undotted⟩ := ih earlier
        exact ⟨rfl, undotted⟩
      · rename_i undotted
        split at cut
        · rename_i dot
          cases cut
          exact ⟨by rw [dot, List.nil_append], splitAtLastDot?_eq_none_iff.mp undotted⟩
        · cases cut
  · rintro ⟨rfl, undotted⟩
    induction stem with
    | nil => simp [splitAtLastDot?, splitAtLastDot?_eq_none_iff.mpr undotted]
    | cons c stem ih => simp [splitAtLastDot?, ih]

/-- What stands around a name with this stem and, behind its last dot, this extension. The step to
the parent is no name, though it has dots. -/
structure Dotted (front stem extension rest : List Char) : Prop where
  around : Around front (stem ++ '.' :: extension) rest
  named : stem ++ '.' :: extension ≠ ['.', '.']
  fronted : stem ≠ []
  undotted : '.' ∉ extension

def Extended (path stem extension : List Char) : Prop :=
  ∃ front rest, Dotted front stem extension rest ∧
    path = front ++ (stem ++ '.' :: extension) ++ rest

theorem fileName?_eq_some_iff :
    fileName? path = some name ↔ LastPart path name ∧ name ≠ ['.', '.'] := by
  rw [← getLast?_components_eq_some_iff, fileName?]
  cases (components path).getLast? with
  | none => simp
  | some last =>
    by_cases parent : last = ['.', '.']
    · simp only [if_pos parent, Option.some.injEq]
      exact ⟨nofun, fun ⟨same, named⟩ => absurd parent (same ▸ named)⟩
    · simp only [if_neg parent, Option.some.injEq]
      exact ⟨fun same => ⟨same, same ▸ parent⟩, And.left⟩

theorem extension?_eq_some_iff :
    extension? path = some extension ↔ ∃ stem, Extended path stem extension := by
  constructor
  · intro found
    rw [extension?] at found
    split at found
    · rename_i first stem extension cut
      cases found
      obtain ⟨name, read, cut⟩ := Option.bind_eq_some_iff.mp cut
      obtain ⟨rfl, undotted⟩ := splitAtLastDot?_eq_some_iff.mp cut
      obtain ⟨⟨front, rest, around, whole⟩, named⟩ := fileName?_eq_some_iff.mp read
      exact ⟨_, front, rest, ⟨around, named, by simp, undotted⟩, whole⟩
    · cases found
  · rintro ⟨stem, front, rest, dotted, rfl⟩
    have last : LastPart _ _ := ⟨front, rest, dotted.around, rfl⟩
    have read := fileName?_eq_some_iff.mpr ⟨last, dotted.named⟩
    obtain ⟨first, stem, rfl⟩ := List.exists_cons_of_ne_nil dotted.fronted
    rw [extension?, read, Option.bind_some,
      splitAtLastDot?_eq_some_iff.mpr ⟨rfl, dotted.undotted⟩]

theorem extension?_congr {path' : List Char}
    (same : (components path).getLast? = (components path').getLast?) :
    extension? path = extension? path' := by
  simp only [extension?, fileName?, same]

end SyntaxPanel.Text
