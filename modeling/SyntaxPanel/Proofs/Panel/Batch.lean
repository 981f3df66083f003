import SyntaxPanel.Panel.Session
import SyntaxPanel.Proofs.Document.Splice

/-! A batch of changes, and the tree that has to follow it.
A batch never breaks down, and it may be delivered in parts. If a tree is the one of the document
before the batch, then either policy brings it to the one of the document after it; which of the
two ways it went is told with it. What a parser answers is not described here; what is asked of it
is that a reparse agrees with a parse. -/
namespace SyntaxPanel

/-- Given the tree of the old text and every edit that led from there to the new text, the parser
answers what it answers for the new text alone. -/
def Parser.ReparseAgrees (P : Parser) : Prop :=
  ∀ (dialect : Dialect) (old new : String) (edits : List Edit),
    EditsLead edits old.toList new.toList →
      P.reparse { dialect, root := P.parse dialect old, edits } new = P.parse dialect new

/-- The same of one tree of the old text: told of edits that lead to a new text, it becomes the
parse of that text in its own dialect. -/
def SyntaxTree.UpdatesFrom (P : Parser) (t : SyntaxTree) (old : String) : Prop :=
  ∀ (new : String) (edits : List Edit), EditsLead edits old.toList new.toList →
    P.reparse (edits.foldl SyntaxTree.edit t) new = P.parse t.dialect new

def Document.tree (P : Parser) (compiler : Compiler) (d : Document) : SyntaxTree where
  dialect := compiler.dialect d.path
  root := P.parse (compiler.dialect d.path) d.text

theorem Parser.ofTable_reparseAgrees (known : List KnownTree) :
    (Parser.ofTable known).ReparseAgrees := fun _ _ _ _ _ => rfl

def Node.letter : Node :=
  .mk "program" ⟨0, 1, Nat.zero_le 1⟩ false
    [.mk "expression_statement" ⟨0, 1, Nat.zero_le 1⟩ false
      [.mk "identifier" ⟨0, 1, Nat.zero_le 1⟩ false []]]

def Parser.letters : Parser :=
  .ofTable ([Dialect.typescript, .tsx, .javascript].flatMap fun dialect =>
    ["x", "y", "z"].map fun text => { dialect, text, root := .letter })

theorem Parser.letters_reparseAgrees : Parser.letters.ReparseAgrees := ofTable_reparseAgrees _

theorem foldl_edit (t : SyntaxTree) (edits : List Edit) :
    edits.foldl SyntaxTree.edit t = { t with edits := t.edits ++ edits } := by
  induction edits generalizing t with
  | nil => simp only [List.foldl_nil, List.append_nil]
  | cons e edits ih => simp only [List.foldl_cons, ih, SyntaxTree.edit, List.append_assoc,
      List.singleton_append]

theorem Parser.ReparseAgrees.updatesFrom {P : Parser} (agrees : P.ReparseAgrees)
    (compiler : Compiler) (d : Document) : (d.tree P compiler).UpdatesFrom P d.text := by
  intro new edits lead
  rw [foldl_edit]
  exact agrees _ _ _ _ lead

theorem allEdits?_cons (edit : Option Edit) (edits : List (Option Edit)) :
    allEdits? (edit :: edits) = edit.bind fun e => (allEdits? edits).map (e :: ·) := by
  cases edit with
  | none => rfl
  | some e => cases rest : allEdits? edits <;> simp_all [allEdits?]

namespace Document

open Text (bytes)

theorem applyChanges_cons (d : Document) (c : ContentChange) (rest : List ContentChange) :
    d.applyChanges (c :: rest) = d.applyChange c >>= fun (d', edit) =>
      d'.applyChanges rest >>= fun (d'', edits) => pure (d'', edit :: edits) := rfl

theorem applyChanges_ok (d : Document) (changes : List ContentChange) :
    ∃ d' edits, d.applyChanges changes = .ok (d', edits) ∧ d'.path = d.path ∧
      edits.length = changes.length ∧
      (∀ es, allEdits? edits = some es → EditsLead es d.chars d'.chars) := by
  induction changes generalizing d with
  | nil =>
    refine ⟨d, [], rfl, rfl, rfl, ?_⟩
    intro es all
    obtain rfl : [] = es := Option.some.inj all
    exact .nil d.chars
  | cons c rest ih =>
    obtain ⟨middle, edit, first, path, leads⟩ := d.applyChange_ok c
    obtain ⟨last, edits, second, samePath, size, lead⟩ := ih middle
    refine ⟨last, edit :: edits, ?_, samePath.trans path, by simp only [List.length_cons, size], ?_⟩
    · rw [applyChanges_cons, first]
      simp only [bind, Except.bind, second]
      rfl
    · intro es all
      simp only [allEdits?_cons, Option.bind_eq_some_iff, Option.map_eq_some_iff] at all
      obtain ⟨e, reported, es', all, rfl⟩ := all
      exact .cons (leads e reported) (lead es' all)

/-- What some changes make of a document, one after the other: each replaces the whole text, or what
lies between two places of the text that it finds. -/
inductive Revised : Document → List ContentChange → Document → Prop where
  | unchanged (d : Document) : Revised d [] d
  | replaced {d d' : Document} {text : String} {rest : List ContentChange}
      (later : Revised ⟨d.path, text⟩ rest d') : Revised d (⟨none, text⟩ :: rest) d'
  | spliced {d d' : Document} {r : Range} {text : String} {rest : List ContentChange}
      {before removed after : List Char} (parts : d.chars = before ++ removed ++ after)
      (start : bytes before = d.offset r.start)
      (stop : bytes (before ++ removed) = max (d.offset r.stop) (d.offset r.start))
      (later : Revised ⟨d.path, .ofList (before ++ text.toList ++ after)⟩ rest d') :
      Revised d (⟨some r, text⟩ :: rest) d'

theorem revised_of_applyChanges {d d' : Document} {changes : List ContentChange}
    {edits : List (Option Edit)} (applied : d.applyChanges changes = .ok (d', edits)) :
    Revised d changes d' := by
  induction changes generalizing d edits with
  | nil =>
    cases applied
    exact .unchanged _
  | cons c rest ih =>
    rw [applyChanges_cons, bind_eq_ok] at applied
    obtain ⟨⟨middle, edit⟩, first, later⟩ := applied
    obtain ⟨⟨last, more⟩, second, result⟩ := bind_eq_ok.mp later
    cases result
    have others := ih second
    obtain ⟨range, text⟩ := c
    cases range with
    | none =>
      cases first
      exact .replaced others
    | some r =>
      obtain ⟨before, removed, after, parts, start, stop, known⟩ := d.spliceRange_eq r text
      simp only [applyChange, known] at first
      cases first
      exact .spliced parts start stop others

theorem isSome_of_applyChange {d d' : Document} {c : ContentChange} {edit : Option Edit}
    (applied : d.applyChange c = .ok (d', edit)) : edit.isSome = c.range.isSome := by
  unfold applyChange at applied
  cases located : c.range with
  | none =>
    rw [located] at applied
    cases applied
    rfl
  | some r =>
    simp only [located, bind_eq_ok] at applied
    obtain ⟨_, _, result⟩ := applied
    cases result
    rfl

theorem length_allEdits? {d d' : Document} {changes : List ContentChange}
    {edits : List (Option Edit)} (applied : d.applyChanges changes = .ok (d', edits)) :
    (allEdits? edits).map List.length =
      if ∀ c ∈ changes, c.range ≠ none then some changes.length else none := by
  induction changes generalizing d edits with
  | nil =>
    cases applied
    rfl
  | cons c rest ih =>
    rw [applyChanges_cons, bind_eq_ok] at applied
    obtain ⟨⟨middle, edit⟩, first, later⟩ := applied
    obtain ⟨⟨last, more⟩, second, result⟩ := bind_eq_ok.mp later
    cases result
    have located := isSome_of_applyChange first
    have others := ih second
    rw [allEdits?_cons]
    cases edit with
    | none =>
      have full : c.range = none := by simpa using located.symm
      simp [full]
    | some e =>
      have partly : c.range ≠ none := by
        rw [← Option.isSome_iff_ne_none, ← located]
        rfl
      have later_lengths : ((allEdits? more).map (e :: ·)).map List.length =
          ((allEdits? more).map List.length).map (· + 1) := by
        cases allEdits? more <;> rfl
      rw [Option.bind_some, later_lengths, others]
      simp only [List.forall_mem_cons, partly, true_and, List.length_cons, not_false_eq_true, ne_eq]
      split <;> rfl

theorem edits_eq_nil_iff {d d' : Document} {changes : List ContentChange}
    {edits : List (Option Edit)} (applied : d.applyChanges changes = .ok (d', edits)) :
    edits = [] ↔ changes = [] := by
  obtain ⟨_, _, known, -, size, -⟩ := d.applyChanges_ok changes
  cases known.symm.trans applied
  rw [← List.length_eq_zero_iff, size, List.length_eq_zero_iff]

theorem applyChanges_append (d : Document) (first second : List ContentChange) :
    d.applyChanges (first ++ second) = d.applyChanges first >>= fun (d', edits) =>
      d'.applyChanges second >>= fun (d'', more) => pure (d'', edits ++ more) := by
  induction first generalizing d with
  | nil =>
    obtain ⟨d', edits, applied, -⟩ := d.applyChanges_ok second
    simp only [List.nil_append, applyChanges, applied, bind, Except.bind, pure, Except.pure]
  | cons c first ih =>
    obtain ⟨d₁, edit, applied, -⟩ := d.applyChange_ok c
    obtain ⟨d₂, edits, others, -⟩ := d₁.applyChanges_ok first
    obtain ⟨d₃, more, rest, -⟩ := d₂.applyChanges_ok second
    simp only [List.cons_append, applyChanges_cons, applied, ih, others, rest, bind, Except.bind,
      pure, Except.pure]

end Document

namespace TreeView

variable {P : Parser}

theorem update_nil (policy : ReparsePolicy) (v : TreeView) (d : Document) :
    v.update P policy d [] = (v, .untouched) := rfl

theorem update_touched (P : Parser) (v : TreeView) (policy : ReparsePolicy) (d : Document)
    {edits : List (Option Edit)} (some_edit : edits ≠ []) :
    (v.update P policy d edits).2 ≠ .untouched := by
  unfold update
  rw [if_neg some_edit]
  split <;> exact nofun

theorem compiler_update (P : Parser) (v : TreeView) (policy : ReparsePolicy) (d : Document)
    (edits : List (Option Edit)) : (v.update P policy d edits).1.compiler = v.compiler := by
  unfold update
  split
  · rfl
  · split
    · unfold applyEdits
      split <;> rfl
    · rfl

theorem applyEdits_eq_parse {v : TreeView} {d d' : Document}
    (dialect : ∀ t ∈ v.tree, t.dialect = v.compiler.dialect d.path)
    (updates : ∀ t ∈ v.tree, t.UpdatesFrom P d.text) (path : d'.path = d.path) {edits : List Edit}
    (lead : EditsLead edits d.chars d'.chars) :
    v.applyEdits P edits d'.text d'.path = v.parse P d'.text d'.path := by
  unfold applyEdits
  split
  · rfl
  · rename_i t loaded
    have updated := updates t loaded d'.text edits lead
    simp only [updated, dialect t loaded, parse, path]

theorem update_eq_parse_of_updates (policy : ReparsePolicy) {v : TreeView} {d d' : Document}
    {changes : List ContentChange} {edits : List (Option Edit)}
    (dialect : ∀ t ∈ v.tree, t.dialect = v.compiler.dialect d.path)
    (updates : ∀ t ∈ v.tree, t.UpdatesFrom P d.text)
    (applied : d.applyChanges changes = .ok (d', edits)) (some_change : changes ≠ []) :
    (v.update P policy d' edits).1 = v.parse P d'.text d'.path := by
  have some_edit : edits ≠ [] := fun empty => some_change ((d.edits_eq_nil_iff applied).mp empty)
  obtain ⟨_, _, known, path, -, leads⟩ := d.applyChanges_ok changes
  cases known.symm.trans applied
  unfold update
  rw [if_neg some_edit]
  split
  · rename_i es _ all
    exact applyEdits_eq_parse dialect updates path (leads es all)
  · rfl

theorem update_eq_parse (agrees : P.ReparseAgrees) (policy : ReparsePolicy) {v : TreeView}
    {d d' : Document} {changes : List ContentChange} {edits : List (Option Edit)}
    (loaded : v.tree = some (d.tree P v.compiler))
    (applied : d.applyChanges changes = .ok (d', edits)) (some_change : changes ≠ []) :
    (v.update P policy d' edits).1 = v.parse P d'.text d'.path := by
  have only {t : SyntaxTree} (mem : t ∈ v.tree) : d.tree P v.compiler = t :=
    Option.some.inj (loaded.symm.trans mem)
  refine update_eq_parse_of_updates policy ?_ ?_ applied some_change
  · rintro t mem
    obtain rfl := only mem
    rfl
  · rintro t mem
    obtain rfl := only mem
    exact agrees.updatesFrom v.compiler d

theorem update_told (policy : ReparsePolicy) (v : TreeView) {d d' : Document}
    {changes : List ContentChange} {edits : List (Option Edit)}
    (applied : d.applyChanges changes = .ok (d', edits)) (some_change : changes ≠ []) :
    (v.update P policy d' edits).2 =
      if policy = .incremental ∧ v.isLoaded = true ∧ ∀ c ∈ changes, c.range ≠ none then
        .incremental changes.length
      else .reparsed := by
  have some_edit : edits ≠ [] := fun empty => some_change ((d.edits_eq_nil_iff applied).mp empty)
  have lengths := Document.length_allEdits? applied
  unfold update
  rw [if_neg some_edit]
  by_cases partly : ∀ c ∈ changes, c.range ≠ none
  · rw [if_pos partly] at lengths
    obtain ⟨es, all, size⟩ := Option.map_eq_some_iff.mp lengths
    simp only [all, eq_true partly, and_true, ← size]
    cases policy <;> cases v.isLoaded <;> rfl
  · rw [if_neg partly, Option.map_eq_none_iff] at lengths
    simp only [lengths, eq_false partly, and_false, if_false]
    cases policy <;> cases v.isLoaded <;> rfl

end TreeView

section Outcome

variable {P : Parser} {d : Document} {view : Option TreeView}

/-- What a batch makes of a document and of the tree that is passed with it, if any. The changes are
made in order. Without a tree or a change nothing but the document is touched; else the tree is
brought to the parse of the final text. -/
theorem applyBatch_outcome (policy : ReparsePolicy) (changes : List ContentChange)
    (dialect : ∀ v ∈ view, ∀ t ∈ v.tree, t.dialect = v.compiler.dialect d.path)
    (updates : ∀ v ∈ view, ∀ t ∈ v.tree, t.UpdatesFrom P d.text) :
    ∃ d' view' update, applyBatch P policy d changes view = .ok (d', view', update) ∧
      d.Revised changes d' ∧ d'.path = d.path ∧
      (view = none ∨ changes = [] → update = .untouched ∧ view' = view) ∧
      ∀ v, view = some v → changes ≠ [] →
        view' = some { v with tree := some (d'.tree P v.compiler) } ∧
        update = if policy = .incremental ∧ v.isLoaded = true ∧ ∀ c ∈ changes, c.range ≠ none then
            .incremental changes.length
          else .reparsed := by
  obtain ⟨d', edits, applied, path, -⟩ := d.applyChanges_ok changes
  have revised := Document.revised_of_applyChanges applied
  cases view with
  | none =>
    refine ⟨d', none, .untouched, ?_, revised, path, fun _ => ⟨rfl, rfl⟩, nofun⟩
    simp only [applyBatch, applied, bind, Except.bind, pure, Except.pure]
  | some v =>
    refine ⟨d', some (v.update P policy d' edits).1, (v.update P policy d' edits).2, ?_, revised,
      path, ?_, ?_⟩
    · simp only [applyBatch, applied, bind, Except.bind, pure, Except.pure]
    · rintro (impossible | empty)
      · cases impossible
      · rw [(d.edits_eq_nil_iff applied).mpr empty, TreeView.update_nil]
        exact ⟨rfl, rfl⟩
    · rintro _ ⟨⟩ some_change
      rw [TreeView.update_told policy v applied some_change,
        TreeView.update_eq_parse_of_updates policy (dialect v rfl) (updates v rfl) applied
          some_change]
      exact ⟨rfl, rfl⟩

theorem applyBatch_outcome_renaming :
    let view : TreeView :=
      { compiler := .typescript, tree := some { dialect := .tsx, root := .letter } }
    let changes : List ContentChange :=
      [⟨some ⟨⟨0, 0⟩, ⟨0, 1⟩⟩, "y"⟩, ⟨some ⟨⟨0, 0⟩, ⟨0, 1⟩⟩, "z"⟩]
    (∀ v ∈ some view, ∀ t ∈ v.tree, t.dialect = v.compiler.dialect "a.tsx") ∧
    (∀ v ∈ some view, ∀ t ∈ v.tree, t.UpdatesFrom .letters "x") ∧
    applyBatch .letters .incremental ⟨"a.tsx", "x"⟩ changes (some view) =
      .ok (⟨"a.tsx", "z"⟩, some { view with tree := some { dialect := .tsx, root := .letter } },
        .incremental 2) ∧
    Document.Revised ⟨"a.tsx", "x"⟩ changes ⟨"a.tsx", "z"⟩ := by
  intro view changes
  have dialect : ∀ v ∈ some view, ∀ t ∈ v.tree, t.dialect = v.compiler.dialect "a.tsx" := by
    rintro _ ⟨⟩ _ ⟨⟩
    decide +kernel
  have updates : ∀ v ∈ some view, ∀ t ∈ v.tree, t.UpdatesFrom .letters "x" := by
    rintro _ ⟨⟩ _ ⟨⟩ new edits -
    rw [foldl_edit]
    rfl
  obtain ⟨d', _, _, done, revised, -, -, touched⟩ :=
    applyBatch_outcome (d := ⟨"a.tsx", "x"⟩) .incremental changes dialect updates
  obtain ⟨rfl, rfl⟩ := touched view rfl (by simp [changes])
  have text : (applyBatch .letters .incremental ⟨"a.tsx", "x"⟩ changes (some view)).toOption.map
      Prod.fst = some ⟨"a.tsx", "z"⟩ := by
    decide +kernel
  rw [done] at text
  cases text
  exact ⟨dialect, updates, done, revised⟩

end Outcome

end SyntaxPanel
