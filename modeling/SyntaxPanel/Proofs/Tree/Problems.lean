import SyntaxPanel.Proofs.Tree.Walk

namespace SyntaxPanel

namespace Node

/-- No `ERROR` node is passed on the way down a path. -/
def Exposes (n : Node) (path : NodePath) : Prop :=
  ∀ up above, up <+: path → up ≠ path → n.at? up = some above → above.isError = false

theorem exposes_nil (n : Node) : n.Exposes [] := by
  intro up above before proper
  exact absurd (List.prefix_nil.mp before) proper

theorem exposes_cons {n child : Node} {i : Nat} {path : NodePath}
    (found : n.children[i]? = some child) :
    n.Exposes (i :: path) ↔ n.isError = false ∧ child.Exposes path := by
  constructor
  · intro exposed
    refine ⟨exposed [] n List.nil_prefix (List.cons_ne_nil i path).symm rfl, ?_⟩
    intro up above before proper led
    refine exposed (i :: up) above (List.cons_prefix_cons.mpr ⟨rfl, before⟩) ?_ ?_
    · exact fun same => proper (List.cons.inj same).2
    · rw [at?_cons, found]
      exact led
  · rintro ⟨clean, exposed⟩ up above before proper led
    cases up with
    | nil =>
      obtain rfl : n = above := Option.some.inj led
      exact clean
    | cons j up =>
      obtain ⟨rfl, within⟩ := List.cons_prefix_cons.mp before
      rw [at?_cons, found] at led
      exact exposed up above within (fun same => proper (by rw [same])) led

mutual

/-- What is seen of a tree from above, in the order of the walk: nothing below an `ERROR` node. -/
def surface (path : NodePath) : Node → List (NodePath × Node)
  | mk kind span missing children =>
    (path, mk kind span missing children) ::
      if kind == "ERROR" then [] else surfaceFrom path 0 children

def surfaceFrom (path : NodePath) (index : Nat) : List Node → List (NodePath × Node)
  | [] => []
  | n :: rest => surface (path ++ [index]) n ++ surfaceFrom path (index + 1) rest

end

mutual

theorem surface_sublist (base : NodePath) : (n : Node) →
    (n.surface base).Sublist (n.preorder base)
  | mk kind span missing children => by
    rw [surface, preorder]
    refine List.Sublist.cons_cons _ ?_
    split
    · exact List.nil_sublist _
    · exact surfaceFrom_sublist base 0 children

theorem surfaceFrom_sublist (base : NodePath) (k : Nat) : (children : List Node) →
    (surfaceFrom base k children).Sublist (preorderFrom base k children)
  | [] => List.Sublist.refl _
  | n :: rest => by
    rw [surfaceFrom, preorderFrom]
    exact (surface_sublist (base ++ [k]) n).append (surfaceFrom_sublist base (k + 1) rest)

end

mutual

theorem exposes_of_mem_surface (base : NodePath) : (n : Node) → {entry : NodePath × Node} →
    entry ∈ n.surface base → ∃ rest, entry.1 = base ++ rest ∧ n.at? rest = some entry.2 ∧
      n.Exposes rest
  | mk kind span missing children, entry, mem => by
    rw [surface, List.mem_cons] at mem
    rcases mem with rfl | mem
    · exact ⟨[], (List.append_nil base).symm, rfl, exposes_nil _⟩
    · split at mem
      · cases mem
      · rename_i clean
        obtain ⟨i, child, rest, found, same, led, exposed⟩ :=
          exposes_of_mem_surfaceFrom base 0 children mem
        refine ⟨i :: rest, by rw [same, Nat.zero_add], ?_, ?_⟩
        · rw [at?_cons, Node.children, found]
          exact led
        · exact (exposes_cons found).mpr ⟨Bool.eq_false_iff.mpr clean, exposed⟩

theorem exposes_of_mem_surfaceFrom (base : NodePath) (k : Nat) : (children : List Node) →
    {entry : NodePath × Node} → entry ∈ surfaceFrom base k children →
    ∃ i child rest, children[i]? = some child ∧ entry.1 = base ++ (k + i) :: rest ∧
      child.at? rest = some entry.2 ∧ child.Exposes rest
  | [], entry, mem => by cases mem
  | n :: others, entry, mem => by
    rw [surfaceFrom, List.mem_append] at mem
    rcases mem with mem | mem
    · obtain ⟨rest, same, led, exposed⟩ := exposes_of_mem_surface (base ++ [k]) n mem
      exact ⟨0, n, rest, rfl, by rw [same]; simp, led, exposed⟩
    · obtain ⟨i, child, rest, found, same, led, exposed⟩ :=
        exposes_of_mem_surfaceFrom base (k + 1) others mem
      exact ⟨i + 1, child, rest, found, by rw [same]; congr 2; omega, led, exposed⟩

end

theorem mem_surfaceFrom {base : NodePath} {entry : NodePath × Node} {children : List Node}
    {child : Node} {i k : Nat} (found : children[i]? = some child)
    (mem : entry ∈ child.surface (base ++ [k + i])) : entry ∈ surfaceFrom base k children := by
  induction children generalizing i k with
  | nil => simp at found
  | cons n rest ih =>
    rw [surfaceFrom, List.mem_append]
    cases i with
    | zero =>
      obtain rfl : n = child := by simpa using found
      exact .inl mem
    | succ i =>
      have later : rest[i]? = some child := by simpa using found
      have shifted : k + 1 + i = k + (i + 1) := by omega
      exact .inr (ih later (shifted ▸ mem))

theorem mem_surface {n found : Node} {base path : NodePath} (led : n.at? path = some found)
    (exposed : n.Exposes path) : (base ++ path, found) ∈ n.surface base := by
  induction path generalizing n base with
  | nil =>
    obtain rfl : n = found := Option.some.inj led
    obtain ⟨kind, span, missing, children⟩ := n
    rw [List.append_nil, surface]
    exact List.mem_cons_self
  | cons i path ih =>
    rw [at?_cons] at led
    obtain ⟨child, at_i, led⟩ := Option.bind_eq_some_iff.mp led
    obtain ⟨clean, exposed⟩ := (exposes_cons at_i).mp exposed
    have below : (base ++ [0 + i] ++ path, found) ∈ child.surface (base ++ [0 + i]) :=
      ih led exposed
    rw [List.append_assoc, Nat.zero_add, List.singleton_append] at below
    obtain ⟨kind, span, missing, children⟩ := n
    have open' : ¬ (kind == "ERROR") = true := Bool.eq_false_iff.mp clean
    rw [surface, List.mem_cons, if_neg open']
    exact .inr (mem_surfaceFrom at_i (by rwa [Nat.zero_add]))

theorem mem_surface_iff {root n : Node} {path : NodePath} :
    (path, n) ∈ root.surface [] ↔ root.at? path = some n ∧ root.Exposes path := by
  constructor
  · intro mem
    obtain ⟨rest, same, led, exposed⟩ := exposes_of_mem_surface [] root mem
    obtain rfl : path = rest := same
    exact ⟨led, exposed⟩
  · rintro ⟨led, exposed⟩
    have mem : ([] ++ path, n) ∈ root.surface [] := mem_surface led exposed
    exact mem

mutual

theorem hasError_iff_mem (base : NodePath) : (n : Node) →
    (n.hasError = true ↔ ∃ entry ∈ n.preorder base, entry.2.isFlagged = true)
  | mk kind span missing children => by
    have below := anyHasError_iff_mem base 0 children
    rw [hasError, preorder, List.exists_mem_cons_iff, ← below, Bool.or_eq_true]
    rfl

theorem anyHasError_iff_mem (base : NodePath) (k : Nat) : (children : List Node) →
    (anyHasError children = true ↔
      ∃ entry ∈ preorderFrom base k children, entry.2.isFlagged = true)
  | [] => by simp [anyHasError, preorderFrom]
  | n :: rest => by
    have here := hasError_iff_mem (base ++ [k]) n
    have later := anyHasError_iff_mem base (k + 1) rest
    simp only [anyHasError, preorderFrom, Bool.or_eq_true, here, later, List.mem_append,
      or_and_right, exists_or]

end

theorem hasError_iff {n : Node} :
    n.hasError = true ↔ ∃ path m, n.at? path = some m ∧ m.isFlagged = true := by
  rw [hasError_iff_mem []]
  constructor
  · rintro ⟨⟨path, m⟩, mem, flagged⟩
    exact ⟨path, m, mem_preorder_iff.mp mem, flagged⟩
  · rintro ⟨path, m, led, flagged⟩
    exact ⟨(path, m), mem_preorder_iff.mpr led, flagged⟩

def diagnosis (n : Node) : Diagnostic :=
  if n.isError then ⟨"unexpected syntax", n.span⟩ else ⟨"missing `" ++ n.kind ++ "`", n.span⟩

theorem problem?_eq (n : Node) :
    n.problem? = if n.isFlagged then some n.diagnosis else none := by
  unfold problem? isFlagged diagnosis
  cases n.isError <;> cases n.missing <;> rfl

mutual

def report : Node → List Diagnostic
  | mk kind span missing children =>
    (mk kind span missing children).problem?.toList ++
      if kind == "ERROR" then [] else reportAll children

def reportAll : List Node → List Diagnostic
  | [] => []
  | n :: rest => n.report ++ reportAll rest

end

theorem reportAll_append (a b : List Node) : reportAll (a ++ b) = reportAll a ++ reportAll b := by
  induction a with
  | nil => rfl
  | cons n a ih => rw [List.cons_append, reportAll, reportAll, ih, List.append_assoc]

mutual

theorem report_eq_surface (base : NodePath) : (n : Node) →
    n.report = (n.surface base).filterMap fun entry => entry.2.problem?
  | mk kind span missing children => by
    have below := reportAll_eq_surface base 0 children
    rw [report, surface, List.filterMap_cons]
    cases (mk kind span missing children).problem? <;> split <;> simp [below]

theorem reportAll_eq_surface (base : NodePath) (k : Nat) : (children : List Node) →
    reportAll children = (surfaceFrom base k children).filterMap fun entry => entry.2.problem?
  | [] => rfl
  | n :: rest => by
    rw [reportAll, surfaceFrom, List.filterMap_append, report_eq_surface (base ++ [k]) n,
      reportAll_eq_surface base (k + 1) rest]

end

theorem report_of_clean {n : Node} (clean : n.hasError = false) : n.report = [] := by
  rw [report_eq_surface [], List.filterMap_eq_nil_iff]
  intro entry mem
  have unflagged : ¬ entry.2.isFlagged = true := by
    intro flagged
    have met := (surface_sublist [] n).subset mem
    rw [(hasError_iff_mem [] n).mpr ⟨entry, met, flagged⟩] at clean
    cases clean
  rw [problem?_eq, if_neg unflagged]

theorem reportAll_of_clean {children : List Node} (clean : anyHasError children = false) :
    reportAll children = [] := by
  induction children with
  | nil => rfl
  | cons n rest ih =>
    obtain ⟨first, later⟩ := Bool.or_eq_false_iff.mp clean
    rw [reportAll, report_of_clean first, ih later, List.nil_append]

theorem report_eq_opened (n : Node) :
    n.report = n.problem?.toList ++ reportAll (if n.isOpen then n.children else []) := by
  obtain ⟨kind, span, missing, children⟩ := n
  rw [report, isOpen, isError, hasError, Node.kind, Node.children]
  by_cases error : (kind == "ERROR") = true
  · simp [error, reportAll]
  · cases below : anyHasError children with
    | true => simp [error]
    | false =>
      rw [if_neg error, reportAll_of_clean below]
      split
      · rw [reportAll_of_clean below]
      · rfl

theorem report_eq_flagged (n : Node) :
    n.report = ((n.surface []).filter (·.2.isFlagged)).map (·.2.diagnosis) := by
  simp only [report_eq_surface [] n, problem?_eq, ← List.filterMap_filter]
  exact congrFun List.filterMap_eq_map _

end Node

namespace Cursor

/-- The places that a walk stops at, up to its end. -/
inductive Walks : Cursor → List Cursor → Prop where
  | last {c : Cursor} (ends : c.next? = none) : Walks c [c]
  | step {c next : Cursor} {stops : List Cursor} (moved : c.next? = some next)
      (rest : Walks next stops) : Walks c (c :: stops)

theorem walk_eq_report (c : Cursor) : c.walk = Node.reportAll (ahead (some c)) := by
  induction size : c.remaining using Nat.strongRecOn generalizing c with
  | ind bound ih =>
    rw [ahead, Node.reportAll, Node.report_eq_opened, List.append_assoc, ← Node.reportAll_append,
      ← ahead_next, walk]
    cases moved : c.next? with
    | none => rfl
    | some next =>
      have less := remaining_lt_of_next moved
      exact congrArg _ (ih _ (size ▸ less) next rfl)

theorem exists_walks (c : Cursor) : ∃ stops, Walks c stops ∧ stops.length ≤ c.remaining ∧
    c.walk = stops.flatMap fun stop => stop.node.problem?.toList := by
  induction size : c.remaining using Nat.strongRecOn generalizing c with
  | ind bound ih =>
    rw [walk]
    cases moved : c.next? with
    | none =>
      have some_node : 0 < c.remaining := by
        rw [remaining, ahead, Node.sizeAll, Node.size_eq]
        omega
      refine ⟨[c], .last moved, ?_, by simp⟩
      rw [List.length_singleton]
      omega
    | some next =>
      have less := remaining_lt_of_next moved
      obtain ⟨stops, rest, few, gathered⟩ := ih _ (size ▸ less) next rfl
      refine ⟨c :: stops, .step moved rest, ?_, ?_⟩
      · rw [List.length_cons]
        omega
      · simp only [gathered, List.flatMap_cons]

end Cursor

namespace Node

theorem problems_eq_flagged (root : Node) :
    root.problems = ((root.surface []).filter (·.2.isFlagged)).map (·.2.diagnosis) := by
  rw [problems, Cursor.walk_eq_report, ← report_eq_flagged]
  exact List.append_nil _

/-- The walk from the root ends, and it reports one after the other and once each the flagged nodes
that have no `ERROR` node above them. -/
theorem walk_reports_exposed (root : Node) :
    (∃ stops, Cursor.Walks { node := root } stops ∧ stops.length ≤ root.size ∧
      root.problems = stops.flatMap fun stop => stop.node.problem?.toList) ∧
    (∀ n : Node, n.hasError = true ↔ ∃ below m, n.at? below = some m ∧ m.isFlagged = true) ∧
    ∃ reported : List (NodePath × Node),
      (reported.map Prod.fst).Pairwise (· < ·) ∧
      (∀ path n, (path, n) ∈ reported ↔ root.at? path = some n ∧
        (n.isError = true ∨ n.missing = true) ∧
        ∀ up above, up <+: path → up ≠ path → root.at? up = some above →
          above.isError = false) ∧
      root.problems = reported.map fun (_, n) =>
        if n.isError then ⟨"unexpected syntax", n.span⟩
        else ⟨"missing `" ++ n.kind ++ "`", n.span⟩ := by
  refine ⟨?_, fun _ => hasError_iff, (root.surface []).filter (·.2.isFlagged), ?_, ?_, ?_⟩
  · obtain ⟨stops, walks, few, gathered⟩ := Cursor.exists_walks { node := root }
    exact ⟨stops, walks, few, gathered⟩
  · have sub := (List.filter_sublist (p := (·.2.isFlagged))).trans (surface_sublist [] root)
    exact (preorder_sorted [] root).sublist (sub.map Prod.fst)
  · intro path n
    rw [List.mem_filter, mem_surface_iff, isFlagged, Bool.or_eq_true]
    exact ⟨fun ⟨⟨led, exposed⟩, flagged⟩ => ⟨led, flagged, exposed⟩,
      fun ⟨led, flagged, exposed⟩ => ⟨⟨led, exposed⟩, flagged⟩⟩
  · exact problems_eq_flagged root

end Node

end SyntaxPanel
