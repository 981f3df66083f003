import Mathlib.Data.List.Forall2
import SyntaxPanel.Compiler
import SyntaxPanel.Proofs.Text.Path

namespace SyntaxPanel

namespace Text

def Capital (upper lower : Char) : Prop :=
  'A' ≤ upper ∧ upper ≤ 'Z' ∧ lower.toNat = upper.toNat + 32

/-- The same letter but for its case, which only the letters from A to Z have. -/
def SameLetter (a b : Char) : Prop := a = b ∨ Capital a b ∨ Capital b a

theorem capital_iff {upper lower : Char} : Capital upper lower ↔
    65 ≤ upper.toNat ∧ upper.toNat ≤ 90 ∧ lower.toNat = upper.toNat + 32 := by
  simp [Capital, Char.le_def, UInt32.le_iff_toNat_le, ← Char.toNat_val]

theorem toNat_toLower (c : Char) :
    c.toLower.toNat = if 65 ≤ c.toNat ∧ c.toNat ≤ 90 then c.toNat + 32 else c.toNat := by
  delta Char.toLower
  simp only [ge_iff_le, UInt32.le_iff_toNat_le]
  change (if _ : 65 ≤ c.toNat ∧ c.toNat ≤ 90 then _ else c).toNat = _
  split
  · rename_i capital
    change (c.val + 32).toNat = c.val.toNat + 32
    rw [UInt32.toNat_add]
    apply Nat.mod_eq_of_lt
    have bound : c.val.toNat ≤ 90 := capital.2
    simp only [UInt32.reduceToNat]
    omega
  · rfl

theorem toLower_eq_iff {a b : Char} : a.toLower = b.toLower ↔ SameLetter a b := by
  rw [← Char.toNat_inj, toNat_toLower, toNat_toLower, SameLetter, capital_iff, capital_iff,
    ← Char.toNat_inj]
  split <;> split <;> omega

theorem map_toLower_eq_iff {a b : List Char} :
    a.map Char.toLower = b.map Char.toLower ↔ List.Forall₂ SameLetter a b := by
  rw [← List.forall₂_eq_eq_eq, List.forall₂_map_left_iff, List.forall₂_map_right_iff]
  simp only [toLower_eq_iff]

theorem sameLetter_of_low {a b : Char} (low : b.toNat < 65) (same : SameLetter a b) : a = b := by
  rw [SameLetter, capital_iff, capital_iff] at same
  rcases same with same | _ | _
  · exact same
  · omega
  · omega

theorem notMem_of_sameLetter {c : Char} {a b : List Char} (low : c.toNat < 65)
    (same : List.Forall₂ SameLetter a b) (fresh : c ∉ a) : c ∉ b := by
  induction same with
  | nil => exact fresh
  | cons first _ ih =>
    simp only [List.mem_cons, not_or] at fresh ⊢
    refine ⟨?_, ih fresh.2⟩
    rintro rfl
    exact fresh.1 (sameLetter_of_low low first).symm

theorem Dotted.recased {front stem extension extension' rest : List Char}
    (dotted : Dotted front stem extension rest)
    (same : List.Forall₂ SameLetter extension extension') :
    Dotted front stem extension' rest := by
  obtain ⟨⟨starts, whole, leads, idle⟩, named, fronted, undotted⟩ := dotted
  obtain ⟨first, stem, rfl⟩ := List.exists_cons_of_ne_nil fronted
  simp only [List.mem_append, List.mem_cons, not_or] at whole
  refine ⟨⟨starts, ?_, by simp [Stays], idle⟩, ?_, fronted,
    notMem_of_sameLetter (by decide) same undotted⟩
  · simp only [List.mem_append, List.mem_cons, not_or]
    exact ⟨whole.1, whole.2.1, notMem_of_sameLetter (by decide) same whole.2.2⟩
  · -- A name of two dots has nothing behind the last one, whose case might have changed.
    intro parent
    cases same with
    | nil => exact named parent
    | cons _ _ =>
      have size := congrArg List.length parent
      simp only [List.cons_append, List.length_cons, List.length_append, List.length_nil] at size
      omega

end Text

namespace Dialect

open Text

def marks : List (String × Dialect) :=
  [("ts", typescript), ("mts", typescript), ("cts", typescript), ("tsx", tsx), ("js", javascript),
   ("mjs", javascript), ("cjs", javascript), ("jsx", javascript)]

theorem ofExtension?_eq_some_iff {extension : String} {d : Dialect} :
    ofExtension? extension = some d ↔ (extension, d) ∈ marks := by
  constructor
  · intro found
    have listed := List.find?_some found
    cases d <;> simpa [extensions, marks] using listed
  · intro marked
    have all : ∀ mark ∈ marks, ofExtension? mark.1 = some mark.2 := by decide
    exact all _ marked

theorem ofPath?_eq_some_iff {path : String} {d : Dialect} : ofPath? path = some d ↔
    ∃ stem extension mark, Extended path.toList stem extension ∧
      List.Forall₂ SameLetter extension mark.toList ∧ (mark, d) ∈ marks := by
  have small : ∀ mark ∈ marks, mark.1.toList.map Char.toLower = mark.1.toList := by decide
  simp only [ofPath?, Option.bind_eq_some_iff, extension?_eq_some_iff, ofExtension?_eq_some_iff]
  constructor
  · rintro ⟨extension, ⟨stem, extended⟩, marked⟩
    have same := small _ marked
    refine ⟨stem, extension, _, extended, map_toLower_eq_iff.mp ?_, marked⟩
    rw [same, String.toList_ofList]
  · rintro ⟨stem, extension, mark, extended, same, marked⟩
    refine ⟨extension, ⟨stem, extended⟩, ?_⟩
    rw [map_toLower_eq_iff.mpr same, small _ marked, String.ofList_toList]
    exact marked

theorem ofPath?_congr {path path' : String}
    (same : (components path.toList).getLast? = (components path'.toList).getLast?) :
    ofPath? path = ofPath? path' := by
  simp only [ofPath?, extension?_congr same]

/-- The dialect is that of the extension of the name that the path ends in, if the name has an
extension that stands for one. It is kept under whatever directory, behind whatever case of the
extension, and in front of separators and steps that stay in place. The one compiler does not look
at it, and the other falls back where there is none. -/
theorem dialect_by_extension (path : String) :
    (∀ d, ofPath? path = some d ↔ ∃ stem extension mark, Extended path.toList stem extension ∧
      List.Forall₂ SameLetter extension mark.toList ∧ (mark, d) ∈ marks) ∧
    (∀ name dir, LastPart path.toList name → ofPath? (dir ++ "/" ++ path) = ofPath? path) ∧
    (∀ front stem extension extension' rest, Dotted front stem extension rest →
      path = .ofList (front ++ (stem ++ '.' :: extension) ++ rest) →
      List.Forall₂ SameLetter extension extension' →
      ofPath? (.ofList (front ++ (stem ++ '.' :: extension') ++ rest)) = ofPath? path) ∧
    (∀ rest, Idle rest → ofPath? (path ++ .ofList rest) = ofPath? path) ∧
    Compiler.javascript.dialect path = javascript ∧
    ∀ d, Compiler.typescript.dialect path = d ↔
      ofPath? path = some d ∨ ofPath? path = none ∧ d = typescript := by
  refine ⟨fun d => ofPath?_eq_some_iff, ?_, ?_, ?_, rfl, ?_⟩
  · intro name dir last
    apply ofPath?_congr
    have found := getLast?_components_eq_some_iff.mpr last
    have parts : (dir ++ "/" ++ path).toList = dir.toList ++ '/' :: path.toList := by simp
    rw [parts, components_append, List.getLast?_append, found, Option.some_or]
  · rintro front stem extension extension' rest dotted rfl same
    have small := map_toLower_eq_iff.mpr same
    have found := extension?_eq_some_iff.mpr ⟨stem, front, rest, dotted, rfl⟩
    have found' := extension?_eq_some_iff.mpr ⟨stem, front, rest, dotted.recased same, rfl⟩
    simp only [ofPath?, String.toList_ofList, found, found', Option.bind_some, small]
  · intro rest idle
    apply ofPath?_congr
    rw [String.toList_append, String.toList_ofList, components_append_idle idle]
  · intro d
    cases found : ofPath? path with
    | none => simp [Compiler.dialect, found, eq_comm]
    | some picked => simp [Compiler.dialect, found]

theorem dotted_shouted :
    Dotted "src/".toList "view".toList "TSX".toList "/./".toList := by
  refine ⟨⟨.inr ⟨"src".toList, rfl⟩, by decide, by simp [Stays], ?_⟩, by decide, by decide,
    by decide⟩
  exact .step (.separator .nothing)

theorem dialect_by_extension_shouted :
    (∃ front stem extension rest, Dotted front stem extension rest ∧
      "src/view.TSX/./" = String.ofList (front ++ (stem ++ '.' :: extension) ++ rest)) ∧
    ofPath? "src/view.TSX/./" = some tsx ∧ ofPath? "src/view.tsx/./" = some tsx ∧
    ofPath? "lib/src/view.TSX/./" = some tsx ∧ ofPath? "src/view.TSX/.///." = some tsx := by
  have same : List.Forall₂ SameLetter "TSX".toList "tsx".toList := map_toLower_eq_iff.mp (by decide)
  obtain ⟨picks, below, cased, before, -⟩ := dialect_by_extension "src/view.TSX/./"
  have found := (picks tsx).mpr ⟨_, _, "tsx", ⟨_, _, dotted_shouted, rfl⟩, same, by decide⟩
  refine ⟨⟨_, _, _, _, dotted_shouted, rfl⟩, found, ?_, ?_, ?_⟩
  · exact (cased _ _ _ _ _ dotted_shouted rfl same).trans found
  · exact (below _ "lib" ⟨_, _, dotted_shouted.around, rfl⟩).trans found
  · exact (before "//.".toList (.separator (.step .nothing))).trans found

end Dialect

end SyntaxPanel
