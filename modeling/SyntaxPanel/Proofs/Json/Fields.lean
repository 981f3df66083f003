import Mathlib.Data.List.Forall2
import SyntaxPanel.Json.Check

namespace SyntaxPanel

namespace Json

theorem decodeName_eq_ok_iff {known : List String} {j : Json} {s : String} :
    decodeName known j = .ok s ↔ s ∈ known ∧ (j = .str s ∨ j = .obj [(s, .null)]) := by
  constructor
  · intro read
    unfold decodeName at read
    split at read
    · split at read
      · rename_i member
        cases read
        exact ⟨member, .inl rfl⟩
      · cases read
    · rename_i inner
      split at read
      · rename_i member
        cases inner with
        | null =>
          cases read
          exact ⟨member, .inr rfl⟩
        | _ => cases read
      · cases read
    · cases read
    · cases read
  · rintro ⟨member, rfl | rfl⟩
    · simp [decodeName, member]
    · simp [decodeName, member, decodeNull, Except.map]

theorem decodeOption_eq_ok_iff {α : Type} {d : Decoder α} {j : Json} {o : Option α}
    (set : j ≠ .null) : decodeOption d j = .ok o ↔ ∃ a, d j = .ok a ∧ o = some a := by
  have plain : decodeOption d j = (d j).map some := by
    cases j with
    | null => exact absurd rfl set
    | _ => rfl
  rw [plain]
  cases d j <;> simp [Except.map, eq_comm]

namespace Fields

variable {α : Type} {d : Decoder α} {record name other : String} {names : List String}
  {fields before after : List (String × Json)} {o : Option α} {j : Json}

theorem lookup_eq_ok_iff {found : Option Json} :
    lookup ⟨record, names, .inl fields⟩ name = .ok found ↔
      fields.filter (·.1 = name) = found.toList.map (name, ·) := by
  have named : ∀ entry ∈ fields.filter (·.1 = name), entry.1 = name := by simp
  simp only [lookup]
  generalize fields.filter (·.1 = name) = met at named
  match met, named with
  | [], _ => cases found <;> simp
  | [(other, j)], named =>
    obtain rfl : other = name := named _ List.mem_cons_self
    cases found <;> simp
  | _ :: _ :: _, _ => cases found <;> simp

theorem mem_iff_of_lookup {found : Option Json}
    (looked : lookup ⟨record, names, .inl fields⟩ name = .ok found) (j : Json) :
    (name, j) ∈ fields ↔ found = some j := by
  have met : (name, j) ∈ fields.filter (·.1 = name) ↔ (name, j) ∈ fields := by simp
  rw [← met, lookup_eq_ok_iff.mp looked]
  cases found <;> simp [eq_comm]

theorem exists_lookup (single : (fields.filter (·.1 = name)).length ≤ 1) :
    ∃ found, lookup ⟨record, names, .inl fields⟩ name = .ok found := by
  simp only [lookup]
  generalize fields.filter (·.1 = name) = met at single
  match met, single with
  | [], _ => exact ⟨none, rfl⟩
  | [(_, j)], _ => exact ⟨some j, rfl⟩

/-- The value of a field while its record is read. Only an object may leave a field out. -/
def Gives (f : Fields) (name : String) (value : Option Json) : Prop :=
  f.lookup name = .ok value ∧ (value = none → ∃ fields, f.written = .inl fields)

theorem required_eq_ok_iff {f : Fields} {a : α} :
    f.required name d = .ok a ↔ ∃ j, f.Gives name (some j) ∧ d j = .ok a := by
  rw [required, bind_eq_ok]
  constructor
  · rintro ⟨value, looked, read⟩
    split at read
    · exact ⟨_, ⟨looked, nofun⟩, read⟩
    · cases read
    · cases read
  · rintro ⟨j, ⟨looked, -⟩, read⟩
    exact ⟨some j, looked, read⟩

theorem optional_eq_ok_iff {f : Fields} : f.optional name d = .ok o ↔
    ∃ found, f.Gives name found ∧ found.elim (.ok none) (decodeOption d) = .ok o := by
  obtain ⟨record, names, written⟩ := f
  rw [optional, bind_eq_ok]
  constructor
  · rintro ⟨found, looked, read⟩
    cases found with
    | some j => exact ⟨some j, ⟨looked, nofun⟩, read⟩
    | none =>
      cases written with
      | inl fields => exact ⟨none, ⟨looked, fun _ => ⟨fields, rfl⟩⟩, read⟩
      | inr items => cases read
  · rintro ⟨found, ⟨looked, left⟩, read⟩
    refine ⟨found, looked, ?_⟩
    cases found with
    | some j => exact read
    | none =>
      obtain ⟨fields, rfl⟩ := left rfl
      exact read

theorem gives_object {found : Option Json} : Gives ⟨record, names, .inl fields⟩ name found ↔
    lookup ⟨record, names, .inl fields⟩ name = .ok found :=
  ⟨And.left, fun looked => ⟨looked, fun _ => ⟨fields, rfl⟩⟩⟩

theorem optional_object_eq_ok_iff : optional ⟨record, names, .inl fields⟩ name d = .ok o ↔
    ∃ found, lookup ⟨record, names, .inl fields⟩ name = .ok found ∧
      found.elim (.ok none) (decodeOption d) = .ok o := by
  simp only [optional_eq_ok_iff, gives_object]

theorem withDefault_eq_ok_iff {f : Fields} {default a : α} :
    f.withDefault name d default = .ok a ↔
      ∃ found, f.lookup name = .ok found ∧ found.elim (.ok default) d = .ok a := by
  rw [withDefault, bind_eq_ok]
  constructor
  · rintro ⟨found, looked, read⟩
    exact ⟨found, looked, by cases found <;> exact read⟩
  · rintro ⟨found, looked, read⟩
    exact ⟨found, looked, by cases found <;> exact read⟩

theorem optional_insert (differ : other ≠ name)
    (read : optional ⟨record, names, .inl (before ++ after)⟩ name d = .ok o) :
    optional ⟨record, names, .inl (before ++ (other, j) :: after)⟩ name d = .ok o := by
  obtain ⟨found, looked, read⟩ := optional_object_eq_ok_iff.mp read
  refine optional_object_eq_ok_iff.mpr ⟨found, ?_, read⟩
  rw [lookup_eq_ok_iff] at looked ⊢
  simpa [List.filter_append, differ] using looked

theorem optional_inserted (apart : ∀ j, (name, j) ∉ before ++ after)
    (read : decodeOption d j = .ok o) :
    optional ⟨record, names, .inl (before ++ (name, j) :: after)⟩ name d = .ok o := by
  refine optional_object_eq_ok_iff.mpr ⟨some j, lookup_eq_ok_iff.mpr ?_, read⟩
  have unnamed : ∀ entry ∈ before ++ after, entry.1 ≠ name := by
    rintro ⟨_, j⟩ mem rfl
    exact apart j mem
  rw [List.forall_mem_append] at unnamed
  have front : before.filter (·.1 = name) = [] := by simpa using unnamed.1
  have back : after.filter (·.1 = name) = [] := by simpa using unnamed.2
  simp [List.filter_append, front, back]

end Fields

/-- A record with a row of values, one for each of its fields: an object in which a field stands
once, or not at all where it has no value, or else the list of all values. -/
inductive Record (names : List String) : Json → List (Option Json) → Prop where
  | object {fields : List (String × Json)} {values : List (Option Json)}
      (once : List.Forall₂ (fun name value =>
        fields.filter (·.1 = name) = value.toList.map (name, ·)) names values) :
      Record names (.obj fields) values
  | list {items : List Json} (complete : items.length = names.length) :
      Record names (.arr items) (items.map some)

inductive Optionally {α : Type} (writes : Json → α → Prop) : Option Json → Option α → Prop where
  | absent : Optionally writes none none
  | null : Optionally writes (some .null) none
  | value {j : Json} {a : α} (set : j ≠ .null) (written : writes j a) :
      Optionally writes (some j) (some a)

section Records

variable {α β γ : Type} {d : Decoder α} {names : List String} {j : Json}
  {values : List (Option Json)}

theorem record_of_gives {items : List Json} {record : String} (distinct : names.Nodup)
    (short : items.length ≤ names.length)
    (given : List.Forall₂ (Fields.Gives ⟨record, names, .inr items⟩) names values) :
    Record names (.arr items) values := by
  rw [List.forall₂_iff_get] at given
  obtain ⟨size, each⟩ := given
  have at_place (i : Nat) (inside : i < values.length) :
      items[i]? = values[i] ∧ values[i] ≠ none := by
    obtain ⟨looked, left⟩ := each i (size ▸ inside) inside
    simp only [Fields.lookup, List.get_eq_getElem, distinct.idxOf_getElem, Except.ok.injEq]
      at looked left
    refine ⟨looked, fun none => ?_⟩
    obtain ⟨_, impossible⟩ := left none
    cases impossible
  have complete : items.length = names.length := by
    refine Nat.le_antisymm short (Nat.le_of_not_lt fun shorter => ?_)
    obtain ⟨same, set⟩ := at_place items.length (size ▸ shorter)
    exact set (same.symm.trans (List.getElem?_eq_none (Nat.le_refl _)))
  have same : values = items.map some := by
    refine List.ext_getElem (by simp [← size, complete]) fun i inside _ => ?_
    obtain ⟨same, -⟩ := at_place i inside
    simp [← same, complete, size ▸ inside]
  exact same ▸ .list complete

theorem record_iff (record : String) (distinct : names.Nodup) : Record names j values ↔
    ∃ f, openRecord record names j = .ok f ∧ List.Forall₂ f.Gives names values ∧
      f.close = .ok () := by
  constructor
  · rintro (⟨once⟩ | ⟨complete⟩)
    · refine ⟨_, rfl, once.imp fun name value same => ?_, rfl⟩
      exact Fields.gives_object.mpr (Fields.lookup_eq_ok_iff.mpr same)
    · rename_i items
      refine ⟨_, rfl, List.forall₂_iff_get.mpr ⟨by simp [complete], ?_⟩, ?_⟩
      · intro i inside _
        refine ⟨?_, by simp⟩
        simp [Fields.lookup, distinct.idxOf_getElem]
      · simp [Fields.close, complete]
  · rintro ⟨f, opened, given, closed⟩
    cases j with
    | obj fields =>
      cases opened
      refine .object (given.imp fun name value there => ?_)
      exact Fields.lookup_eq_ok_iff.mp (Fields.gives_object.mp there)
    | arr items =>
      cases opened
      refine record_of_gives distinct ?_ given
      simp only [Fields.close] at closed
      split at closed
      · assumption
      · cases closed
    | _ => cases opened

theorem one_field_iff (record name : String) {f : α → β} {b : β} :
    (do
      let r ← openRecord record [name] j
      let a ← r.required name d
      r.close
      return f a) = .ok b ↔
      ∃ value a, Record [name] j [some value] ∧ d value = .ok a ∧ b = f a := by
  have distinct : [name].Nodup := by simp
  simp only [bind_eq_ok, Fields.required_eq_ok_iff, record_iff record distinct,
    List.forall₂_cons, List.forall₂_nil_left_iff, and_true]
  constructor
  · rintro ⟨r, opened, a, ⟨value, given, read⟩, _, closed, ⟨⟩⟩
    exact ⟨value, a, ⟨r, opened, given, closed⟩, read, rfl⟩
  · rintro ⟨value, a, ⟨r, opened, given, closed⟩, read, rfl⟩
    exact ⟨r, opened, a, ⟨value, given, read⟩, (), closed, rfl⟩

theorem two_fields_iff (record : String) {first second : String} (differ : first ≠ second)
    {e : Decoder β} {f : α → β → γ} {c : γ} :
    (do
      let r ← openRecord record [first, second] j
      let a ← r.required first d
      let b ← r.required second e
      r.close
      return f a b) = .ok c ↔
      ∃ v w a b, Record [first, second] j [some v, some w] ∧ d v = .ok a ∧ e w = .ok b ∧
        c = f a b := by
  have distinct : [first, second].Nodup := by simpa using differ
  simp only [bind_eq_ok, Fields.required_eq_ok_iff, record_iff record distinct,
    List.forall₂_cons, List.forall₂_nil_left_iff, and_true]
  constructor
  · rintro ⟨r, opened, a, ⟨v, given, read⟩, b, ⟨w, given', read'⟩, _, closed, ⟨⟩⟩
    exact ⟨v, w, a, b, ⟨r, opened, ⟨given, given'⟩, closed⟩, read, read', rfl⟩
  · rintro ⟨v, w, a, b, ⟨r, opened, ⟨given, given'⟩, closed⟩, read, read', rfl⟩
    exact ⟨r, opened, a, ⟨v, given, read⟩, b, ⟨w, given', read'⟩, (), closed, rfl⟩

theorem optionally_iff {writes : Json → α → Prop} (reads : ∀ j a, d j = .ok a ↔ writes j a)
    {found : Option Json} {o : Option α} :
    found.elim (.ok none) (decodeOption d) = .ok o ↔ Optionally writes found o := by
  constructor
  · intro read
    cases found with
    | none =>
      cases read
      exact .absent
    | some j =>
      by_cases null : j = .null
      · subst null
        cases read
        exact .null
      · obtain ⟨a, told, rfl⟩ := (decodeOption_eq_ok_iff null).mp read
        exact .value null ((reads j a).mp told)
  · rintro (_ | _ | ⟨set, written⟩)
    · rfl
    · rfl
    · exact (decodeOption_eq_ok_iff set).mpr ⟨_, (reads _ _).mpr written, rfl⟩

theorem decodeAll_eq_ok_iff {items : List Json} {as : List α} : decodeAll d items = .ok as ↔
    List.Forall₂ (fun item a => d item = .ok a) items as := by
  induction items generalizing as with
  | nil => cases as <;> simp [decodeAll]
  | cons item items ih =>
    cases read : d item with
    | error e => cases as <;> simp [decodeAll, read]
    | ok a =>
      cases rest : decodeAll d items with
      | error e => cases as <;> simp [decodeAll, read, rest, ← ih, Except.map]
      | ok others => cases as <;> simp [decodeAll, read, rest, ← ih, Except.map]

theorem decodeList_eq_ok_iff {as : List α} : decodeList d j = .ok as ↔
    ∃ items, j = .arr items ∧ List.Forall₂ (fun item a => d item = .ok a) items as := by
  cases j with
  | arr items => simp [decodeList, decodeAll_eq_ok_iff]
  | _ => simp [decodeList, wrongKind]

def IsText (j : Json) (s : String) : Prop := j = .str s

theorem decodeString_eq_ok_iff {s : String} : decodeString j = .ok s ↔ j.IsText s := by
  cases j <;> simp [decodeString, wrongKind, IsText]

def IsNat32 (j : Json) (n : Nat) : Prop := j = .int n ∧ n < 4294967296

theorem decodeNat32_eq_ok_iff {n : Nat} : decodeNat32 j = .ok n ↔ j.IsNat32 n := by
  cases j with
  | int i =>
    simp only [decodeNat32, decodeInt, IsNat32, int.injEq]
    split
    · simp only [Except.map, Except.ok.injEq]
      omega
    · simp only [Except.map, reduceCtorEq, false_iff]
      omega
  | _ => simp [decodeNat32, decodeInt, wrongKind, IsNat32, Except.map]

theorem decodeInt32_eq_ok_iff {n : Int} :
    decodeInt32 j = .ok n ↔ j = .int n ∧ -2147483648 ≤ n ∧ n ≤ 2147483647 := by
  cases j with
  | int i =>
    simp only [decodeInt32, decodeInt, int.injEq]
    split
    · simp only [Except.ok.injEq]
      omega
    · simp only [reduceCtorEq, false_iff]
      omega
  | _ => simp [decodeInt32, decodeInt, wrongKind]

theorem decodeBool_eq_ok_iff {b : Bool} : decodeBool j = .ok b ↔ j = .bool b := by
  cases j <;> simp [decodeBool, wrongKind]

end Records

end Json

namespace Check

variable {fields : List Field} {before after : List (String × Json)} {name : String} {j : Json}

theorem object_insert (passes : ∀ f, fields.find? (·.name = name) = some f → f.accept j = .ok ())
    (accepted : object fields (before ++ after) = .ok ()) :
    object fields (before ++ (name, j) :: after) = .ok () := by
  obtain ⟨_, passed, complete⟩ := bind_eq_ok.mp accepted
  rw [forM_eq_ok_iff] at passed complete
  refine bind_eq_ok.mpr ⟨(), forM_eq_ok_iff.mpr ?_, forM_eq_ok_iff.mpr ?_⟩
  · intro entry mem
    rcases List.mem_append.mp mem with mem | mem
    · exact passed entry (List.mem_append_left after mem)
    · rcases List.mem_cons.mp mem with rfl | mem
      · dsimp only
        split
        · exact passes _ ‹_›
        · rfl
      · exact passed entry (List.mem_append_right before mem)
  · intro f mem
    have there := complete f mem
    -- What is missing with the field was missing without it.
    have still : (List.lookup f.name (before ++ (name, j) :: after)).isNone →
        (List.lookup f.name (before ++ after)).isNone := by
      simp only [Option.isNone_iff_eq_none, List.lookup_eq_none_iff, List.forall_mem_append,
        List.forall_mem_cons]
      exact fun ⟨first, _, others⟩ => ⟨first, others⟩
    split at there
    · cases there
    · rename_i complete
      exact if_neg fun missing => complete ⟨missing.1, still missing.2⟩

end Check

end SyntaxPanel
