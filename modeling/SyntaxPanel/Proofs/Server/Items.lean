import SyntaxPanel.Proofs.Server.Serving
import SyntaxPanel.Proofs.Tree.Walk

namespace SyntaxPanel

def countLimit : Nat := 4294967295

def Node.Counted (n : Node) : Prop := ∀ entry ∈ n.preorder [], entry.2.children.length ≤ countLimit

instance (n : Node) : Decidable n.Counted := inferInstanceAs (Decidable (∀ _ ∈ _, _))

def Parser.CountsChildren (P : Parser) : Prop :=
  ∀ dialect text root, P.Answers dialect text root → root.Counted

theorem Parser.ofTable_countsChildren {known : List KnownTree}
    (counted : ∀ k ∈ known, k.root.Counted) : (ofTable known).CountsChildren := by
  intro dialect text root answered
  rcases answers_ofTable answered with ⟨k, mem, rfl, rfl⟩ | rfl
  · exact counted k mem
  · intro entry mem
    obtain rfl : entry = ([], .unparsed text) := List.mem_singleton.mp mem
    exact Nat.zero_le _

theorem Node.Counted.index_le {root : Node} (counted : root.Counted) {path : NodePath}
    (there : (root.at? path).isSome) : ∀ i ∈ path, i ≤ countLimit := by
  intro i mem
  obtain ⟨up, rest, rfl⟩ := List.append_of_mem mem
  obtain ⟨n, child, found, at_i⟩ := child_of_below there
  have few := counted _ (mem_preorder_iff.mpr found)
  exact le_trans (List.getElem?_eq_some_iff.mp at_i).1.le few

namespace Server

def written (path : NodePath) : Json := .arr (path.map .ofNat)

theorem decodeNodePath_written {path : NodePath} (bounded : ∀ i ∈ path, i ≤ countLimit) :
    decodeNodePath (written path) = .ok path := by
  have all : Json.decodeAll Json.decodeNat32 (path.map .ofNat) = .ok path := by
    induction path with
    | nil => rfl
    | cons i rest ih =>
      have small : (i : Int) ≤ 4294967295 := Int.ofNat_le.mpr (bounded i List.mem_cons_self)
      have first : Json.decodeNat32 (.ofNat i) = .ok i := by
        rw [Json.decodeNat32, Json.ofNat, Json.decodeInt, if_pos ⟨Int.natCast_nonneg i, small⟩]
        rfl
      have others := ih fun i mem => bounded i (List.mem_cons_of_mem _ mem)
      rw [List.map_cons, Json.decodeAll, first, others]
      rfl
  exact all

def childrenRequest (id : RequestId) (parent : Option NodePath) : Message :=
  .request ⟨id, Question.childrenMethod, .obj [("parent", (parent.map written).getD .null)]⟩

def describeRequest (id : RequestId) (node : NodePath) : Message :=
  .request ⟨id, Question.describeMethod, .obj [("node", written node)]⟩

theorem decodeChildren_written {parent : Option NodePath}
    (bounded : ∀ i ∈ parent.getD [], i ≤ countLimit) :
    Question.decodeChildren (.obj [("parent", (parent.map written).getD .null)]) =
      .ok (.children parent) := by
  cases parent with
  | none => rfl
  | some path =>
    have read : decodeNodePath (written path) = .ok path := decodeNodePath_written bounded
    have named : Json.decodeOption decodeNodePath (written path) = .ok (some path) := by
      rw [written] at read ⊢
      simp only [Json.decodeOption, read, Except.map]
    simp only [Question.decodeChildren, Json.openRecord, Json.Fields.optional, Json.Fields.lookup,
      Json.Fields.close, List.filter, decide_true, Option.map_some, Option.getD_some, named, bind,
      Except.bind]
    rfl

theorem decodeDescribe_written {node : NodePath} (bounded : ∀ i ∈ node, i ≤ countLimit) :
    Question.decodeDescribe (.obj [("node", written node)]) = .ok (.describe node) := by
  have read : decodeNodePath (written node) = .ok node := decodeNodePath_written bounded
  simp only [Question.decodeDescribe, Json.openRecord, Json.Fields.required, Json.Fields.lookup,
    Json.Fields.close, List.filter, decide_true, read, bind, Except.bind]
  rfl

variable {P : Parser} {s : Session} {d : Document} {t : SyntaxTree}

theorem step_question {sh : Shell} {r : Request} {decode : Decoder Question} {q : Question}
    {a : Answer} (serves : r.method ≠ "shutdown")
    (known : Question.decoder? r.method = some decode) (read : decode r.params = .ok q)
    (asked : ask sh q = .ok a) :
    (running sh).step P (.request r) = .ok (running sh, [.answer r.id a]) := by
  simp only [step, if_neg serves, handleRequest, known, read, asked, bind, Except.bind]
  rfl

theorem placeItem_item {item : TreeItem} {placed : PlacedItem}
    (ok : placeItem s item = .ok placed) : placed.item = item := by
  unfold placeItem at ok
  split at ok
  · cases ok
    rfl
  · obtain ⟨range, -, result⟩ := bind_eq_ok.mp ok
    cases result
    rfl

theorem placeItems_items {items : List TreeItem} {placed : List PlacedItem}
    (ok : placeItems s items = .ok placed) :
    placed.map PlacedItem.item = items ∧ ∀ p ∈ placed, placeItem s p.item = .ok p := by
  induction items generalizing placed with
  | nil =>
    cases ok
    exact ⟨rfl, nofun⟩
  | cons item rest ih =>
    obtain ⟨first, one, ok⟩ := bind_eq_ok.mp ok
    obtain ⟨others, all, result⟩ := bind_eq_ok.mp ok
    cases result
    obtain ⟨same, each⟩ := ih all
    obtain rfl := placeItem_item one
    refine ⟨by rw [List.map_cons, same], ?_⟩
    simp only [List.forall_mem_cons]
    exact ⟨one, each⟩

structure Shown (s : Session) (placed : PlacedItem) : Prop where
  described : s.describe placed.item.path = some placed.item
  at_place : placeItem s placed.item = .ok placed

structure Shows (P : Parser) (s : Session) (d : Document) (t : SyntaxTree) : Prop where
  sound : s.Sound P
  document : s.activeDocument? = some d
  tree : s.view.tree = some t
  counted : t.root.Counted

section Shows

variable (shows : Shows P s d t)
include shows

theorem Shows.describe_eq (path : NodePath) :
    s.describe path = (t.root.at? path).map (TreeItem.ofNode s.view.compiler d.text path) := by
  rw [Session.describe, shows.document, Option.bind_some, TreeView.describe, TreeView.node?,
    shows.tree]

theorem Shows.children_eq {parent : Option NodePath} {n : Node}
    (found : t.root.at? (parent.getD []) = some n) :
    s.children parent = n.childPaths (parent.getD []) := by
  simp only [Session.children, TreeView.children, TreeView.node?, shows.tree, found,
    Node.childPaths]

theorem Shows.found {placed : PlacedItem} (shown : Shown s placed) :
    ∃ n, t.root.at? placed.item.path = some n ∧
      placed.item = TreeItem.ofNode s.view.compiler d.text placed.item.path n := by
  have described := shown.described
  rw [shows.describe_eq] at described
  obtain ⟨n, found, same⟩ := Option.map_eq_some_iff.mp described
  exact ⟨n, found, same.symm⟩

theorem Shows.paths_of_describe {paths : List NodePath}
    (there : ∀ path ∈ paths, (t.root.at? path).isSome) :
    (paths.filterMap s.describe).map TreeItem.path = paths := by
  induction paths with
  | nil => rfl
  | cons path rest ih =>
    obtain ⟨n, found⟩ := Option.isSome_iff_exists.mp (there path List.mem_cons_self)
    have described : s.describe path = some (TreeItem.ofNode s.view.compiler d.text path n) := by
      rw [shows.describe_eq, found, Option.map_some]
    have others := ih fun path mem => there path (List.mem_cons_of_mem _ mem)
    rw [List.filterMap_cons_some described, List.map_cons, others]
    rfl

theorem Shows.children_answer (keeps : P.KeepsToText) {parent : Option NodePath} {n : Node}
    (found : t.root.at? (parent.getD []) = some n) (id : RequestId) :
    ∃ items, (running (.active s)).step P (childrenRequest id parent) =
        .ok (running (.active s), [.answer id (.items items)]) ∧
      items.map (·.item.path) = n.childPaths (parent.getD []) ∧
      ∀ placed ∈ items, Shown s placed := by
  have bounded : ∀ i ∈ parent.getD [], i ≤ countLimit :=
    shows.counted.index_le (by rw [found]; rfl)
  have sound : Shell.Sound P (.active s) := shows.sound
  obtain ⟨answer, asked⟩ := ask_ok keeps sound (.children parent)
  obtain ⟨items, all, result⟩ := bind_eq_ok.mp asked
  cases result
  obtain ⟨same, each⟩ := placeItems_items all
  have there : ∀ path ∈ n.childPaths (parent.getD []), (t.root.at? path).isSome := by
    intro path mem
    obtain ⟨i, -, rfl⟩ := Node.mem_childPaths.mp mem
    exact (Node.snoc_mem_childPaths found).mp mem
  have serves : Question.childrenMethod ≠ "shutdown" := by decide
  refine ⟨items, step_question serves rfl (decodeChildren_written bounded) asked, ?_, ?_⟩
  · calc items.map (·.item.path) = (items.map PlacedItem.item).map TreeItem.path := by
          rw [List.map_map]
          rfl
      _ = n.childPaths (parent.getD []) := by
          rw [same, shows.children_eq found, shows.paths_of_describe there]
  · intro placed mem
    have listed : placed.item ∈ (s.children parent).filterMap s.describe :=
      same ▸ List.mem_map_of_mem mem
    obtain ⟨path, -, described⟩ := List.mem_filterMap.mp listed
    have path_eq : placed.item.path = path := by
      obtain ⟨m, -, item⟩ := Option.map_eq_some_iff.mp (shows.describe_eq path ▸ described)
      rw [← item]
      rfl
    exact ⟨path_eq ▸ described, each placed mem⟩

theorem Shows.describe_answer {placed : PlacedItem} (shown : Shown s placed) (id : RequestId) :
    (running (.active s)).step P (describeRequest id placed.item.path) =
      .ok (running (.active s), [.answer id (.item (some placed))]) := by
  obtain ⟨n, found, -⟩ := shows.found shown
  have bounded := shows.counted.index_le (Option.isSome_of_eq_some found)
  have asked : ask (.active s) (.describe placed.item.path) = .ok (.item (some placed)) := by
    simp only [ask, Shell.session?, shown.described, shown.at_place, bind, Except.bind]
    rfl
  have serves : Question.describeMethod ≠ "shutdown" := by decide
  exact step_question serves rfl (decodeDescribe_written bounded) asked

theorem Shows.children_root (keeps : P.KeepsToText) (id : RequestId) :
    (running (.active s)).step P (childrenRequest id none) =
      (running (.active s)).step P (childrenRequest id (some [])) := by
  have sound : Shell.Sound P (.active s) := shows.sound
  have serves : Question.childrenMethod ≠ "shutdown" := by decide
  obtain ⟨answer, asked⟩ := ask_ok keeps sound (.children none)
  have asked' : ask (.active s) (.children (some [])) = .ok answer := asked
  have read : Question.decodeChildren (.obj [("parent", .null)]) = .ok (.children none) := rfl
  have read' : Question.decodeChildren (.obj [("parent", .arr [])]) =
      .ok (.children (some [])) := rfl
  have by_null : (running (.active s)).step P (childrenRequest id none) =
      .ok (running (.active s), [.answer id answer]) := step_question serves rfl read asked
  have by_path : (running (.active s)).step P (childrenRequest id (some [])) =
      .ok (running (.active s), [.answer id answer]) := step_question serves rfl read' asked'
  exact by_null.trans by_path.symm

end Shows

theorem shows_of_run (counts : P.CountsChildren) {config : Config} {messages : List Message}
    {sent : List (List Outgoing)} {id : DocumentId}
    (ran : (new config).run P messages = .ok (running (.active s), sent))
    (held : s.active = some id) : ∃ d t, s.document? id = some d ∧ Shows P s d t := by
  obtain ⟨compiler, policy, events, effects, heard⟩ := behind_of_run ran s rfl
  have sound := Session.sound_of_run heard
  obtain ⟨d, mirrored⟩ :=
    Option.isSome_iff_exists.mp ((Session.settled_of_run heard id).mp held).2.2
  have document := Session.activeDocument?_eq_some_iff.mpr ⟨id, held, mirrored⟩
  obtain ⟨t, tree, current⟩ := sound.loaded document
  exact ⟨d, t, mirrored, sound, document, tree, counts _ _ _ current.answered⟩

end Server

end SyntaxPanel
