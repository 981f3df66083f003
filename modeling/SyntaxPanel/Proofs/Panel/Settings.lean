import SyntaxPanel.Panel.Config
import SyntaxPanel.Proofs.Json.Fields

namespace SyntaxPanel

/-- A policy is written as its name, or as an object with the name as its only field and null in
it. -/
inductive ReparsePolicy.Written : Json → ReparsePolicy → Prop where
  | incremental : Written (.str "incremental") incremental
  | full : Written (.str "full") full
  | incrementalField : Written (.obj [("incremental", .null)]) incremental
  | fullField : Written (.obj [("full", .null)]) full

section Settings

variable {α : Type} (writes : Json → α → Prop) (fields : List (String × Json)) (name : String)

/-- A setting that can be read: there is at most one field of its name, with null or a value. -/
def Legible : Prop :=
  (fields.filter (·.1 = name)).length ≤ 1 ∧
    ∀ j, (name, j) ∈ fields → j = .null ∨ ∃ a, writes j a

/-- A setting after an object was taken into account: what is written in its field, unless there is
none or null in it, and what it was before otherwise. -/
structure Overridden (old new : α) : Prop where
  set : ∀ j, (name, j) ∈ fields → j ≠ .null → writes j new
  kept : (∀ j, (name, j) ∈ fields → j = .null) → new = old

end Settings

namespace Json.Fields

variable {α : Type} {writes : Json → α → Prop} {d : Decoder α} {record name : String}
  {names : List String} {fields : List (String × Json)}

theorem exists_optional_iff (reads : ∀ j a, d j = .ok a ↔ writes j a) :
    (∃ o, optional ⟨record, names, .inl fields⟩ name d = .ok o) ↔ Legible writes fields name := by
  simp only [optional_object_eq_ok_iff]
  constructor
  · rintro ⟨o, found, looked, read⟩
    constructor
    · rw [lookup_eq_ok_iff.mp looked]
      cases found <;> simp
    · intro j mem
      obtain rfl := (mem_iff_of_lookup looked j).mp mem
      by_cases null : j = .null
      · exact .inl null
      · obtain ⟨a, read, -⟩ := (decodeOption_eq_ok_iff null).mp read
        exact .inr ⟨a, (reads j a).mp read⟩
  · rintro ⟨single, known⟩
    obtain ⟨found, looked⟩ : ∃ found, lookup ⟨record, names, .inl fields⟩ name = .ok found :=
      exists_lookup single
    cases found with
    | none => exact ⟨none, none, looked, rfl⟩
    | some j =>
      by_cases null : j = .null
      · subst null
        exact ⟨none, some .null, looked, rfl⟩
      · have value := known j ((mem_iff_of_lookup looked j).mpr rfl)
        obtain ⟨a, written⟩ := value.resolve_left null
        exact ⟨some a, some j, looked,
          (decodeOption_eq_ok_iff null).mpr ⟨a, (reads j a).mpr written, rfl⟩⟩

theorem overridden_of_optional {o : Option α} (reads : ∀ j a, d j = .ok a ↔ writes j a)
    (read : optional ⟨record, names, .inl fields⟩ name d = .ok o) (old : α) :
    Overridden writes fields name old (o.getD old) := by
  obtain ⟨found, looked, read⟩ := optional_object_eq_ok_iff.mp read
  constructor
  · intro j mem set
    obtain rfl := (mem_iff_of_lookup looked j).mp mem
    obtain ⟨a, told, rfl⟩ := (decodeOption_eq_ok_iff set).mp read
    exact (reads j a).mp told
  · intro unset
    cases found with
    | none =>
      cases read
      rfl
    | some j =>
      cases unset j ((mem_iff_of_lookup looked j).mpr rfl)
      cases read
      rfl

theorem optional_of_withDefault {default a : α} (refuses : ∀ a, d .null ≠ .ok a)
    {record' : String} {names' : List String}
    (read : withDefault ⟨record', names', .inl fields⟩ name d default = .ok a) :
    ∃ o, optional ⟨record, names, .inl fields⟩ name d = .ok o ∧ o.getD default = a := by
  obtain ⟨found, looked, read⟩ := withDefault_eq_ok_iff.mp read
  cases found with
  | none =>
    cases read
    exact ⟨none, optional_object_eq_ok_iff.mpr ⟨none, looked, rfl⟩, rfl⟩
  | some j =>
    have set : j ≠ .null := by
      rintro rfl
      exact refuses a read
    have told := (decodeOption_eq_ok_iff set).mpr ⟨a, read, rfl⟩
    exact ⟨some a, optional_object_eq_ok_iff.mpr ⟨some j, looked, told⟩, rfl⟩

end Json.Fields

theorem ReparsePolicy.decode_eq_ok_iff {j : Json} {p : ReparsePolicy} :
    decode j = .ok p ↔ Written j p := by
  constructor
  · intro read
    unfold decode at read
    split at read
    · cases read
    · rename_i s named
      obtain ⟨member, written⟩ := Json.decodeName_eq_ok_iff.mp named
      simp only [all, List.map_cons, List.map_nil, List.mem_cons, List.not_mem_nil, or_false]
        at member
      rcases member with rfl | rfl
      · cases read
        rcases written with rfl | rfl
        · exact .incremental
        · exact .incrementalField
      · cases read
        rcases written with rfl | rfl
        · exact .full
        · exact .fullField
  · intro written
    cases written <;> rfl

variable {fields : List (String × Json)} {o : InitializationOptions} {c : Config}

open Json.Fields

theorem InitializationOptions.decode_obj_eq_ok_iff : decode (.obj fields) = .ok o ↔
    optional ⟨"InitializationOptions", ["compiler", "reparse"], .inl fields⟩ "compiler"
      Json.decodeString = .ok o.compiler ∧
    optional ⟨"InitializationOptions", ["compiler", "reparse"], .inl fields⟩ "reparse"
      ReparsePolicy.decode = .ok o.reparse := by
  simp only [decode, Json.openRecord, bind_eq_ok]
  constructor
  · rintro ⟨_, ⟨⟩, compiler, first, reparse, second, _, ⟨⟩, ⟨⟩⟩
    exact ⟨first, second⟩
  · rintro ⟨first, second⟩
    exact ⟨_, rfl, _, first, _, second, _, rfl, rfl⟩

theorem InitializationOptions.exists_decode_iff : (∃ o, decode (.obj fields) = .ok o) ↔
    Legible Json.IsText fields "compiler" ∧ Legible ReparsePolicy.Written fields "reparse" := by
  rw [← exists_optional_iff fun _ _ => Json.decodeString_eq_ok_iff,
    ← exists_optional_iff fun _ _ => ReparsePolicy.decode_eq_ok_iff]
  simp only [decode_obj_eq_ok_iff]
  constructor
  · rintro ⟨o, first, second⟩
    exact ⟨⟨_, first⟩, _, second⟩
  · rintro ⟨⟨compiler, first⟩, reparse, second⟩
    exact ⟨⟨compiler, reparse⟩, first, second⟩

theorem InitializationOptions.overridden_of_decode (read : decode (.obj fields) = .ok o)
    (c : Config) : Overridden Json.IsText fields "compiler" c.compiler (o.apply c).compiler ∧
      Overridden ReparsePolicy.Written fields "reparse" c.reparse (o.apply c).reparse := by
  obtain ⟨first, second⟩ := decode_obj_eq_ok_iff.mp read
  exact ⟨overridden_of_optional (fun _ _ => Json.decodeString_eq_ok_iff) first c.compiler,
    overridden_of_optional (fun _ _ => ReparsePolicy.decode_eq_ok_iff) second c.reparse⟩

theorem Config.exists_options_of_decode (read : decode (.obj fields) = .ok c) :
    ∃ o, InitializationOptions.decode (.obj fields) = .ok o ∧ o.apply {} = c := by
  simp only [decode, Json.openRecord, bind_eq_ok] at read
  obtain ⟨_, ⟨⟩, compiler, first, reparse, second, _, ⟨⟩, ⟨⟩⟩ := read
  obtain ⟨compiler, first, rfl⟩ := optional_of_withDefault nofun first
  obtain ⟨reparse, second, rfl⟩ := optional_of_withDefault nofun second
  exact ⟨⟨compiler, reparse⟩, InitializationOptions.decode_obj_eq_ok_iff.mpr ⟨first, second⟩, rfl⟩

end SyntaxPanel
