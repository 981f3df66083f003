import SyntaxPanel.Proofs.Tree.Marks

/-! A dump, read back. Each line tells the depth of its node, its kind, span, mark and description,
and the depths of all lines in a row tell which node is below which. So trees with equal dumps look
alike, node by node. All that is asked of the kinds is that none is empty, starts with a space or
breaks the line; the texts need not be those that the trees were parsed from. -/
namespace SyntaxPanel

open Compiler (identifierKinds)

theorem Span.eq_of_bounds {s s' : Span} (start : s.start = s'.start) (stop : s.stop = s'.stop) :
    s = s' := by
  cases s
  cases s'
  cases start
  cases stop
  rfl

def LegibleKind (kind : String) : Prop :=
  kind ≠ "" ∧ kind.toList.head? ≠ some ' ' ∧ '\n' ∉ kind.toList

instance (kind : String) : Decidable (LegibleKind kind) :=
  inferInstanceAs (Decidable (_ ∧ _ ∧ _))

structure Entry where
  depth : Nat
  kind : String
  span : Span
  error : Bool
  description : Option String

namespace TreeItem

def entry (item : TreeItem) : Entry :=
  ⟨item.path.length, item.kind, item.span, item.error, item.description⟩

variable {compiler compiler' : Compiler} {text text' : String} {path path' : NodePath}
  {n n' : Node}

theorem label_inj
    (same : (ofNode compiler text path n).label = (ofNode compiler' text' path' n').label) :
    n.kind = n'.kind ∧ n.span = n'.span := by
  have space (k : Nat) : ' ' ∉ Nat.toDigits 10 k ++ [')'] := by
    simpa using Text.notMem_toDigits (by decide) (by decide) (by decide) k
  have bracket (k : Nat) : '[' ∉ Nat.toDigits 10 k ++ [','] := by
    simpa using Text.notMem_toDigits (by decide) (by decide) (by decide) k
  have chars := congrArg String.toList same
  have stops : (n.kind.toList ++ ' ' :: '[' :: (Nat.toDigits 10 n.span.start ++ [','])) ++
        ' ' :: (Nat.toDigits 10 n.span.stop ++ [')']) =
      (n'.kind.toList ++ ' ' :: '[' :: (Nat.toDigits 10 n'.span.start ++ [','])) ++
        ' ' :: (Nat.toDigits 10 n'.span.stop ++ [')']) := by
    simpa [toList_label] using chars
  obtain ⟨front, stop⟩ := Text.append_mark_inj_last (space _) (space _) stops
  have starts : (n.kind.toList ++ [' ']) ++ '[' :: (Nat.toDigits 10 n.span.start ++ [',']) =
      (n'.kind.toList ++ [' ']) ++ '[' :: (Nat.toDigits 10 n'.span.start ++ [',']) := by
    simpa using front
  obtain ⟨kind, start⟩ := Text.append_mark_inj_last (bracket _) (bracket _) starts
  have number {m m' : Nat} {c : Char}
      (digits : Nat.toDigits 10 m ++ [c] = Nat.toDigits 10 m' ++ [c]) : m = m' :=
    Text.toDigits_inj (by decide) (by decide) (List.append_cancel_right digits)
  exact ⟨String.toList_inj.mp (List.append_cancel_right kind),
    Span.eq_of_bounds (number start) (number stop)⟩

theorem identifier_of_described {d : String}
    (described : (ofNode compiler text path n).description = some d) :
    n.kind ∈ identifierKinds := by
  unfold ofNode at described
  dsimp only at described
  split at described
  · rename_i listed
    exact List.contains_iff_mem.mp listed
  · cases described

theorem label_closed (compiler : Compiler) (text : String) (path : NodePath)
    (identifier : n.kind ∈ identifierKinds) :
    ∃ front, ')' ∉ front ∧ (ofNode compiler text path n).label.toList = front ++ [')'] := by
  have plain : ∀ kind ∈ identifierKinds, ')' ∉ kind.toList := by decide
  have digits (k : Nat) : ')' ∉ Nat.toDigits 10 k :=
    Text.notMem_toDigits (by decide) (by decide) (by decide) k
  refine ⟨n.kind.toList ++ ' ' :: '[' :: (Nat.toDigits 10 n.span.start ++ ',' :: ' ' ::
    Nat.toDigits 10 n.span.stop), ?_, by simp [toList_label]⟩
  simp [plain n.kind identifier, digits]

theorem quotation_inj
    (same : (ofNode compiler text path n).label.toList ++ (ofNode compiler text path n).quotation =
      (ofNode compiler' text' path' n').label.toList ++
        (ofNode compiler' text' path' n').quotation) :
    (ofNode compiler text path n).label = (ofNode compiler' text' path' n').label ∧
      (ofNode compiler text path n).description =
        (ofNode compiler' text' path' n').description := by
  obtain ⟨front, label⟩ := label_ends compiler text path n
  obtain ⟨front', label'⟩ := label_ends compiler' text' path' n'
  have ends_apart {a b : List Char} : a ++ [')'] ≠ b ++ ['"'] :=
    fun ends => absurd (List.append_inj' ends rfl).2 (by decide)
  have quoted_end (d : String) : ' ' :: Text.quoted d.toList =
      (' ' :: '"' :: d.toList.flatMap Text.escaped) ++ ['"'] := rfl
  unfold quotation at same
  cases shown : (ofNode compiler text path n).description with
  | none =>
    cases shown' : (ofNode compiler' text' path' n').description with
    | none =>
      simp only [shown, shown', List.append_nil] at same
      exact ⟨String.toList_inj.mp same, rfl⟩
    | some d' =>
      simp only [shown, shown', List.append_nil, label, quoted_end, ← List.append_assoc] at same
      exact absurd same ends_apart
  | some d =>
    cases shown' : (ofNode compiler' text' path' n').description with
    | none =>
      simp only [shown, shown', List.append_nil, label', quoted_end, ← List.append_assoc] at same
      exact absurd same.symm ends_apart
    | some d' =>
      -- Both kinds are those of identifiers here, so neither label goes on behind a parenthesis.
      obtain ⟨front, fresh, label⟩ :=
        label_closed compiler text path (identifier_of_described shown)
      obtain ⟨front', fresh', label'⟩ :=
        label_closed compiler' text' path' (identifier_of_described shown')
      have parts : front ++ ')' :: ' ' :: Text.quoted d.toList =
          front' ++ ')' :: ' ' :: Text.quoted d'.toList := by
        simpa [shown, shown', label, label'] using same
      obtain ⟨rfl, quoted⟩ := Text.append_mark_inj fresh fresh' parts
      have described := Text.quoted_inj (List.cons.inj quoted).2
      exact ⟨String.toList_inj.mp (label.trans label'.symm),
        congrArg some (String.toList_inj.mp described)⟩

theorem label_visible (compiler : Compiler) (text : String) (path : NodePath)
    (legible : LegibleKind n.kind) (rest : List Char) :
    ∃ c ∈ ((ofNode compiler text path n).label.toList ++ rest).head?, c ≠ ' ' := by
  obtain ⟨some_char, unspaced, -⟩ := legible
  rw [toList_label]
  cases chars : n.kind.toList with
  | nil => exact absurd (String.toList_eq_nil_iff.mp chars) some_char
  | cons c others =>
    rw [chars] at unspaced
    exact ⟨c, rfl, fun same => unspaced (congrArg some same)⟩

theorem line_eq_iff (legible : LegibleKind n.kind) (legible' : LegibleKind n'.kind) :
    (ofNode compiler text path n).line = (ofNode compiler' text' path' n').line ↔
      (ofNode compiler text path n).entry = (ofNode compiler' text' path' n').entry := by
  constructor
  · intro same
    obtain ⟨front, label⟩ := label_ends compiler text path n
    obtain ⟨front', label'⟩ := label_ends compiler' text' path' n'
    -- The mark is read first. Without it a line ends with the quotation, if there is one.
    have flags : (ofNode compiler text path n).error = (ofNode compiler' text' path' n').error := by
      rw [Bool.eq_iff_iff, ← marked_line_iff label, ← marked_line_iff label', same]
    have marks : (ofNode compiler text path n).mark = (ofNode compiler' text' path' n').mark := by
      rw [mark, flags, mark]
    have chars := congrArg String.toList same
    rw [toList_line, toList_line] at chars
    obtain ⟨depth, shown⟩ := Text.replicate_append_inj (label_visible compiler text path legible _)
      (label_visible compiler' text' path' legible' _) chars
    simp only [marks, ← List.append_assoc, List.append_left_inj] at shown
    obtain ⟨labels, described⟩ := quotation_inj shown
    obtain ⟨kind, span⟩ := label_inj labels
    exact Entry.mk.injEq .. ▸
      ⟨Nat.eq_of_mul_eq_mul_left (by decide) depth, kind, span, flags, described⟩
  · intro same
    obtain ⟨depth, kind, span, flags, described⟩ := Entry.mk.inj same
    have labels :
        (ofNode compiler text path n).label = (ofNode compiler' text' path' n').label := by
      have kind : n.kind = n'.kind := kind
      have span : n.span = n'.span := span
      simp only [ofNode, kind, span]
    rw [line, line, labels, described, flags, depth]

theorem entry_eq_iff :
    (ofNode compiler text path n).entry = (ofNode compiler' text' path' n').entry ↔
    path.length = path'.length ∧ n.kind = n'.kind ∧ n.span = n'.span ∧
      n.isFlagged = n'.isFlagged ∧
      (n.kind ∈ identifierKinds → sourceText? text n.span = sourceText? text' n'.span) := by
  simp only [entry, ofNode, Compiler.isIdentifier, Entry.mk.injEq, List.contains_iff_mem]
  constructor
  · rintro ⟨depth, kind, span, flags, described⟩
    refine ⟨depth, kind, span, flags, ?_⟩
    intro identifier
    rwa [if_pos identifier, if_pos (kind ▸ identifier)] at described
  · rintro ⟨depth, kind, span, flags, described⟩
    refine ⟨depth, kind, span, flags, ?_⟩
    rw [← kind]
    split
    · rename_i identifier
      exact described identifier
    · rfl

end TreeItem

namespace Node

mutual

/-- Two trees, each over a text of its own, of one shape and with the same to be seen of each
node. -/
def LooksLike (text text' : String) : Node → Node → Prop
  | mk kind span missing children, mk kind' span' missing' children' =>
    kind = kind' ∧ span = span' ∧
    (mk kind span missing children).isFlagged = (mk kind' span' missing' children').isFlagged ∧
    (kind ∈ identifierKinds → sourceText? text span = sourceText? text' span') ∧
    AllLookLike text text' children children'

def AllLookLike (text text' : String) : List Node → List Node → Prop
  | [], [] => True
  | n :: rest, n' :: rest' => LooksLike text text' n n' ∧ AllLookLike text text' rest rest'
  | _, _ => False

end

def entries (compiler : Compiler) (text : String) (met : List (NodePath × Node)) : List Entry :=
  met.map fun (path, n) => (TreeItem.ofNode compiler text path n).entry

theorem entries_append (compiler : Compiler) (text : String) (met later : List (NodePath × Node)) :
    entries compiler text (met ++ later) =
      entries compiler text met ++ entries compiler text later := List.map_append

def Within (depth : Nat) (row : List Entry) : Prop := ∀ e ∈ row.head?, e.depth ≤ depth

variable (compiler compiler' : Compiler) (text text' : String)

theorem within_entries (base : NodePath) (k : Nat) (children : List Node) {rest : List Entry}
    (shallow : Within base.length rest) :
    Within (base.length + 1) (entries compiler text (preorderFrom base k children) ++ rest) := by
  rintro e first
  cases children with
  | nil => exact Nat.le_succ_of_le (shallow e first)
  | cons n others =>
    cases n
    cases first
    exact Nat.le_of_eq List.length_append

/-- A child stands deeper than all that can follow what is below its parent. -/
theorem not_within_children (base : NodePath) (k : Nat) (n : Node) (others : List Node)
    (rest : List Entry) : ¬ Within base.length
      (entries compiler text (preorderFrom base k (n :: others)) ++ rest) := by
  intro shallow
  cases n
  have deep : (base ++ [k]).length ≤ base.length := shallow _ rfl
  rw [List.length_append, List.length_singleton] at deep
  omega

mutual

theorem looksLike_of_entries (base : NodePath) : (n n' : Node) → {rest rest' : List Entry} →
    Within base.length rest → Within base.length rest' →
    entries compiler text (n.preorder base) ++ rest =
      entries compiler' text' (n'.preorder base) ++ rest' →
    n.LooksLike text text' n' ∧ rest = rest'
  | mk kind span missing children, mk kind' span' missing' children', rest, rest', shallow,
      shallow', same => by
    simp only [preorder] at same
    obtain ⟨first, below⟩ := List.cons.inj same
    obtain ⟨-, sameKind, sameSpan, flags, described⟩ := TreeItem.entry_eq_iff.mp first
    obtain ⟨all, later⟩ :=
      allLookLike_of_entries base 0 children children' shallow shallow' below
    exact ⟨⟨sameKind, sameSpan, flags, described, all⟩, later⟩

theorem allLookLike_of_entries (base : NodePath) (k : Nat) : (children children' : List Node) →
    {rest rest' : List Entry} → Within base.length rest → Within base.length rest' →
    entries compiler text (preorderFrom base k children) ++ rest =
      entries compiler' text' (preorderFrom base k children') ++ rest' →
    AllLookLike text text' children children' ∧ rest = rest'
  | [], [], rest, rest', shallow, shallow', same => ⟨trivial, same⟩
  | [], n' :: others', rest, rest', shallow, shallow', same => by
    have same : rest = _ := same
    exact absurd (same ▸ shallow) (not_within_children compiler' text' base k n' others' rest')
  | n :: others, [], rest, rest', shallow, shallow', same => by
    have same : _ = rest' := same
    exact absurd (same ▸ shallow') (not_within_children compiler text base k n others rest)
  | n :: others, n' :: others', rest, rest', shallow, shallow', same => by
    simp only [preorderFrom, entries_append, List.append_assoc] at same
    -- A sibling stands as deep as the first child, so it is not taken for something below it.
    have deeper : (base ++ [k]).length = base.length + 1 := List.length_append
    obtain ⟨first, behind⟩ := looksLike_of_entries (base ++ [k]) n n'
      (deeper ▸ within_entries compiler text base (k + 1) others shallow)
      (deeper ▸ within_entries compiler' text' base (k + 1) others' shallow') same
    obtain ⟨all, later⟩ :=
      allLookLike_of_entries base (k + 1) others others' shallow shallow' behind
    exact ⟨⟨first, all⟩, later⟩

end

mutual

theorem entries_of_looksLike (base : NodePath) : (n n' : Node) → n.LooksLike text text' n' →
    entries compiler text (n.preorder base) = entries compiler' text' (n'.preorder base)
  | mk kind span missing children, mk kind' span' missing' children', alike => by
    obtain ⟨sameKind, sameSpan, flags, described, all⟩ := alike
    have first : (TreeItem.ofNode compiler text base (mk kind span missing children)).entry =
        (TreeItem.ofNode compiler' text' base (mk kind' span' missing' children')).entry :=
      TreeItem.entry_eq_iff.mpr ⟨rfl, sameKind, sameSpan, flags, described⟩
    have below := entries_of_allLookLike base 0 children children' all
    simp only [preorder, entries, List.map_cons] at below ⊢
    rw [first, below]

theorem entries_of_allLookLike (base : NodePath) (k : Nat) : (children children' : List Node) →
    AllLookLike text text' children children' →
    entries compiler text (preorderFrom base k children) =
      entries compiler' text' (preorderFrom base k children')
  | [], [], _ => rfl
  | n :: others, n' :: others', alike => by
    simp only [preorderFrom, entries_append]
    rw [entries_of_looksLike (base ++ [k]) n n' alike.1,
      entries_of_allLookLike base (k + 1) others others' alike.2]
  | [], _ :: _, alike => alike.elim
  | _ :: _, [], alike => alike.elim

end

theorem entries_eq_iff {n n' : Node} :
    entries compiler text (n.preorder []) = entries compiler' text' (n'.preorder []) ↔
      n.LooksLike text text' n' := by
  constructor
  · intro same
    have ended : Within ([] : NodePath).length [] := nofun
    exact (looksLike_of_entries compiler compiler' text text' [] n n' ended ended
      (by rw [same])).1
  · exact entries_of_looksLike compiler compiler' text text' [] n n'

def Legible (n : Node) : Prop := ∀ entry ∈ n.preorder [], LegibleKind entry.2.kind

instance (n : Node) : Decidable n.Legible := inferInstanceAs (Decidable (∀ _ ∈ _, _))

theorem Legible.unbroken {n : Node} (legible : n.Legible) :
    ∀ entry ∈ n.preorder [], '\n' ∉ entry.2.kind.toList := by
  intro entry met
  exact (legible entry met).2.2

end Node

namespace TreeView

variable {v v' : TreeView} {t t' : SyntaxTree} {text text' : String}

theorem map_eq_map_iff {α β γ δ : Type} {f : α → γ} {f' : β → γ} {g : α → δ} {g' : β → δ}
    {xs : List α} {ys : List β} (same : ∀ x ∈ xs, ∀ y ∈ ys, f x = f' y ↔ g x = g' y) :
    xs.map f = ys.map f' ↔ xs.map g = ys.map g' := by
  induction xs generalizing ys with
  | nil => cases ys <;> simp
  | cons x xs ih =>
    cases ys with
    | nil => simp
    | cons y ys =>
      have first := same x List.mem_cons_self y List.mem_cons_self
      have others := ih fun x xmem y ymem =>
        same x (List.mem_cons_of_mem _ xmem) y (List.mem_cons_of_mem _ ymem)
      simp only [List.map_cons, List.cons.injEq, first, others]

theorem dump_eq_iff_lines (loaded : v.tree = some t) (loaded' : v'.tree = some t')
    (legible : t.root.Legible) (legible' : t'.root.Legible) :
    v.dump text = v'.dump text' ↔
      (v.items text).map TreeItem.line = (v'.items text').map TreeItem.line := by
  constructor
  · intro same
    have rows := congrArg (fun dump => Text.lines dump.toList) same
    simp only [lines_dump loaded legible.unbroken, lines_dump loaded' legible'.unbroken] at rows
    have chars (item : TreeItem) : item.line.toList = (String.toList ∘ TreeItem.line) item := rfl
    simp only [chars, ← List.map_map] at rows
    exact (List.map_inj_right fun _ _ => String.toList_inj.mp).mp (List.append_cancel_right rows)
  · exact congrArg String.join

theorem lines_eq_iff_entries (loaded : v.tree = some t) (loaded' : v'.tree = some t')
    (legible : t.root.Legible) (legible' : t'.root.Legible) :
    (v.items text).map TreeItem.line = (v'.items text').map TreeItem.line ↔
      Node.entries v.compiler text (t.root.preorder []) =
        Node.entries v'.compiler text' (t'.root.preorder []) := by
  rw [items_of_loaded loaded, items_of_loaded loaded', List.map_map, List.map_map]
  apply map_eq_map_iff
  rintro ⟨path, n⟩ met ⟨path', n'⟩ met'
  exact TreeItem.line_eq_iff (legible _ met) (legible' _ met')

/-- Two trees with legible kinds have the same dump just if they look alike. A dump has one line for
each node, which is the line of its item, and its lines are in the order of the paths. -/
theorem dump_determines (loaded : v.tree = some t) (loaded' : v'.tree = some t')
    (legible : t.root.Legible) (legible' : t'.root.Legible) (text text' : String) :
    (v.dump text = v'.dump text' ↔ t.root.LooksLike text text' t'.root) ∧
    ∃ paths : List NodePath, paths.Pairwise (· < ·) ∧
      (∀ path, path ∈ paths ↔ (v.node? path).isSome = true) ∧ paths.length = t.root.size ∧
      ∃ items : List TreeItem,
        paths.map (fun path => v.describe path text) = items.map some ∧
        Text.lines (v.dump text).toList = items.map (fun item => item.line.toList) ++ [[]] := by
  constructor
  · rw [dump_eq_iff_lines loaded loaded' legible legible',
      lines_eq_iff_entries loaded loaded' legible legible', Node.entries_eq_iff]
  · refine ⟨(t.root.preorder []).map Prod.fst, Node.preorder_sorted [] t.root, ?_, ?_,
      v.items text, describe_paths loaded text, lines_dump loaded legible.unbroken text⟩
    · intro path
      simp [node?, loaded, Node.mem_preorder_iff, Option.isSome_iff_exists]
    · rw [List.length_map, Node.length_preorder]

def nestedMissing : TreeView where
  compiler := .javascript
  tree := nestedErrors.tree.map fun t =>
    { t with root := .mk t.root.kind t.root.span true t.root.children }

theorem dump_determines_nested : ∃ t t', nestedErrors.tree = some t ∧
    nestedMissing.tree = some t' ∧ t.root.Legible ∧ t'.root.Legible ∧
    nestedErrors.dump "enum \x7b A B \x7d" = nestedMissing.dump "enum < A B >" := by
  refine ⟨_, _, rfl, rfl, by decide +kernel, by decide +kernel, ?_⟩
  refine (dump_determines rfl rfl (by decide +kernel) (by decide +kernel) _ _).1.mpr ?_
  refine ⟨rfl, rfl, rfl, by decide +kernel, ?_⟩
  exact ⟨⟨rfl, rfl, rfl, by decide +kernel, trivial⟩,
    ⟨rfl, rfl, rfl, by decide +kernel, ⟨rfl, rfl, rfl, by decide +kernel, trivial⟩, trivial⟩,
    ⟨rfl, rfl, rfl, by decide +kernel, trivial⟩, ⟨rfl, rfl, rfl, by decide +kernel, trivial⟩,
    ⟨rfl, rfl, rfl, by decide +kernel, trivial⟩, trivial⟩

end TreeView

end SyntaxPanel
