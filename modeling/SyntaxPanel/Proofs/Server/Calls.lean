import SyntaxPanel.Proofs.Json.Fields
import SyntaxPanel.Proofs.Server.Serving

/-! What a message calls the session for: which of its operations, and with what arguments. This is
told of the parameters as they are written, not of how the server reads them. The two agree, and so
do the sessions that they lead to. -/
namespace SyntaxPanel

open Json (Record Optionally IsNat32)

def Uri.Written (j : Json) (u : Uri) : Prop := j = .str u.text

def Position.Written (j : Json) (p : Position) : Prop :=
  ∃ line character, Record ["line", "character"] j [some line, some character] ∧
    IsNat32 line p.line ∧ IsNat32 character p.character

def Range.Written (j : Json) (r : Range) : Prop :=
  ∃ start stop, Record ["start", "end"] j [some start, some stop] ∧
    Position.Written start r.start ∧ Position.Written stop r.stop

def ContentChange.Written (j : Json) (c : ContentChange) : Prop :=
  ∃ range length, Record ["range", "rangeLength", "text"] j [range, length, some (.str c.text)] ∧
    Optionally Range.Written range c.range ∧ ∃ n, Optionally IsNat32 length n

def NodePath.Written (j : Json) (path : NodePath) : Prop :=
  ∃ steps, j = .arr steps ∧ List.Forall₂ IsNat32 steps path

/-- The version of a document, which is read but not used. -/
def IsVersion (n : Int) : Prop := -2147483648 ≤ n ∧ n ≤ 2147483647

/-- An operation of the session, with its arguments, that a message calls for. -/
inductive Message.Calls (P : Parser) : Message → (Session → Outcome) → Prop where
  | opened {params document : Json} {uri : Uri} {language text : String} {version : Int}
      (params_are : Record ["textDocument"] params [some document])
      (document_is : Record ["uri", "languageId", "version", "text"] document
        [some (.str uri.text), some (.str language), some (.int version), some (.str text)])
      (numbered : IsVersion version) :
      Calls P (.notification ⟨"textDocument/didOpen", params⟩)
        fun s => .ok (s.opened P uri.text uri.path text)
  | changed {params document : Json} {items : List Json} {uri : Uri} {version : Int}
      {changes : List ContentChange}
      (params_are : Record ["textDocument", "contentChanges"] params
        [some document, some (.arr items)])
      (document_is : Record ["uri", "version"] document [some (.str uri.text), some (.int version)])
      (numbered : IsVersion version)
      (changes_are : List.Forall₂ ContentChange.Written items changes) :
      Calls P (.notification ⟨"textDocument/didChange", params⟩)
        fun s => s.changed P uri.text changes
  | closed {params document : Json} {uri : Uri}
      (params_are : Record ["textDocument"] params [some document])
      (document_is : Record ["uri"] document [some (.str uri.text)]) :
      Calls P (.notification ⟨"textDocument/didClose", params⟩)
        fun s => .ok (s.closed P uri.text)
  | focused {params : Json} {value : Option Json} {uri : Option Uri}
      (params_are : Record ["uri"] params [value]) (value_is : Optionally Uri.Written value uri) :
      Calls P (.notification ⟨"astview/activeEditorChanged", params⟩)
        fun s => .ok (s.focusedOn P (uri.map Uri.text))
  | visibility {params : Json} {visible : Bool}
      (params_are : Record ["visible"] params [some (.bool visible)]) :
      Calls P (.notification ⟨"astview/visibilityChanged", params⟩)
        fun s => s.setVisible P visible
  | selected {params : Json} {items : List Json} {nodes : List NodePath}
      (params_are : Record ["nodes"] params [some (.arr items)])
      (nodes_are : List.Forall₂ NodePath.Written items nodes) :
      Calls P (.notification ⟨"astview/selectionChanged", params⟩)
        fun s => s.select nodes

/-- The session that some messages lead to, each by the operation that it calls for, if any. -/
inductive Session.Reached (P : Parser) (fresh : Session) : List Message → Session → Prop where
  | start : Reached P fresh [] fresh
  | called {messages : List Message} {m : Message} {s s' : Session} {effects : List Effect}
      {operation : Session → Outcome} (earlier : Reached P fresh messages s)
      (calls : m.Calls P operation) (done : operation s = .ok (s', effects)) :
      Reached P fresh (messages ++ [m]) s'
  | passed {messages : List Message} {m : Message} {s : Session}
      (earlier : Reached P fresh messages s) (uncalled : ∀ operation, ¬ m.Calls P operation) :
      Reached P fresh (messages ++ [m]) s

section Decoders

variable {j : Json} {e : Event}

theorem Uri.eq_text_of_parse {s : String} {u : Uri} (read : parse s = .ok u) : s = u.text := by
  unfold parse at read
  split at read
  · cases read
    rfl
  · cases read

theorem Uri.decode_eq_ok_iff {u : Uri} : decode j = .ok u ↔ Written j u := by
  constructor
  · intro read
    unfold decode at read
    split at read
    · cases read
    · rename_i s text
      obtain rfl := Json.decodeString_eq_ok_iff.mp text
      cases parsed : parse s with
      | error e => rw [parsed] at read; cases read
      | ok u' =>
        rw [parsed] at read
        cases read
        rw [Written, eq_text_of_parse parsed]
  · rintro rfl
    simp only [decode, Json.decodeString, parse_text]
    rfl

theorem decodeNodePath_eq_ok_iff {path : NodePath} :
    decodeNodePath j = .ok path ↔ NodePath.Written j path := by
  simp only [decodeNodePath, Json.decodeList_eq_ok_iff, Json.decodeNat32_eq_ok_iff,
    NodePath.Written]

namespace Event

theorem decodePosition_eq_ok_iff {p : Position} :
    decodePosition j = .ok p ↔ Position.Written j p := by
  refine (Json.two_fields_iff "Position" (by decide)).trans ?_
  simp only [Json.decodeNat32_eq_ok_iff, Position.Written]
  constructor
  · rintro ⟨v, w, line, character, record, first, second, rfl⟩
    exact ⟨v, w, record, first, second⟩
  · rintro ⟨v, w, record, first, second⟩
    exact ⟨v, w, p.line, p.character, record, first, second, rfl⟩

theorem decodeRange_eq_ok_iff {r : Range} : decodeRange j = .ok r ↔ Range.Written j r := by
  refine (Json.two_fields_iff "Range" (by decide)).trans ?_
  simp only [decodePosition_eq_ok_iff, Range.Written]
  constructor
  · rintro ⟨v, w, start, stop, record, first, second, rfl⟩
    exact ⟨v, w, record, first, second⟩
  · rintro ⟨v, w, record, first, second⟩
    exact ⟨v, w, r.start, r.stop, record, first, second, rfl⟩

theorem decodeChange_eq_ok_iff {c : ContentChange} :
    decodeChange j = .ok c ↔ ContentChange.Written j c := by
  have distinct : ["range", "rangeLength", "text"].Nodup := by decide
  have ranges {found o} : found.elim (.ok none) (Json.decodeOption decodeRange) = .ok o ↔
      Optionally Range.Written found o :=
    Json.optionally_iff fun _ _ => decodeRange_eq_ok_iff
  have lengths {found o} : found.elim (.ok none) (Json.decodeOption Json.decodeNat32) = .ok o ↔
      Optionally IsNat32 found o :=
    Json.optionally_iff fun _ _ => Json.decodeNat32_eq_ok_iff
  simp only [decodeChange, bind_eq_ok, Json.Fields.required_eq_ok_iff,
    Json.Fields.optional_eq_ok_iff, Json.decodeString_eq_ok_iff, ranges, lengths,
    ContentChange.Written, Json.record_iff "TextDocumentContentChangeEvent" distinct,
    List.forall₂_cons, List.forall₂_nil_left_iff, and_true]
  constructor
  · rintro ⟨f, opened, range, ⟨v, first, read⟩, n, ⟨w, second, size⟩, text, ⟨_, third, rfl⟩, _,
      closed, ⟨⟩⟩
    exact ⟨v, w, ⟨f, opened, ⟨first, second, third⟩, closed⟩, read, n, size⟩
  · rintro ⟨v, w, ⟨f, opened, ⟨first, second, third⟩, closed⟩, read, n, size⟩
    exact ⟨f, opened, c.range, ⟨v, first, read⟩, n, ⟨w, second, size⟩, c.text, ⟨_, third, rfl⟩, (),
      closed, rfl⟩

theorem decodeTextDocument_eq_ok_iff : decodeTextDocument j = .ok e ↔
    ∃ (uri : Uri) (language text : String) (version : Int),
      Record ["uri", "languageId", "version", "text"] j
        [some (.str uri.text), some (.str language), some (.int version), some (.str text)] ∧
      IsVersion version ∧ e = .opened uri.text uri.path text := by
  have distinct : ["uri", "languageId", "version", "text"].Nodup := by decide
  simp only [decodeTextDocument, bind_eq_ok, Json.Fields.required_eq_ok_iff, Uri.decode_eq_ok_iff,
    Json.decodeString_eq_ok_iff, Json.decodeInt32_eq_ok_iff, IsVersion,
    Json.record_iff "TextDocumentItem" distinct, List.forall₂_cons, List.forall₂_nil_left_iff,
    and_true]
  constructor
  · rintro ⟨f, opened, uri, ⟨_, first, rfl⟩, language, ⟨_, second, rfl⟩, version,
      ⟨_, third, rfl, small⟩, text, ⟨_, fourth, rfl⟩, _, closed, ⟨⟩⟩
    exact ⟨uri, language, text, version, ⟨f, opened, ⟨first, second, third, fourth⟩, closed⟩, small,
      rfl⟩
  · rintro ⟨uri, language, text, version, ⟨f, opened, ⟨first, second, third, fourth⟩, closed⟩,
      small, rfl⟩
    exact ⟨f, opened, uri, ⟨_, first, rfl⟩, language, ⟨_, second, rfl⟩, version,
      ⟨_, third, rfl, small⟩, text, ⟨_, fourth, rfl⟩, (), closed, rfl⟩

theorem decodeOpened_eq_ok_iff : decodeOpened j = .ok e ↔ ∃ document,
    Record ["textDocument"] j [some document] ∧ decodeTextDocument document = .ok e := by
  refine (Json.one_field_iff "DidOpenTextDocumentParams" "textDocument").trans ?_
  constructor
  · rintro ⟨document, event, record, read, rfl⟩
    exact ⟨document, record, read⟩
  · rintro ⟨document, record, read⟩
    exact ⟨document, e, record, read, rfl⟩

theorem decodeVersionedId_eq_ok_iff {uri : Uri} : decodeVersionedId j = .ok uri ↔
    ∃ version, Record ["uri", "version"] j [some (.str uri.text), some (.int version)] ∧
      IsVersion version := by
  refine (Json.two_fields_iff "VersionedTextDocumentIdentifier" (by decide)).trans ?_
  simp only [Uri.decode_eq_ok_iff, Json.decodeInt32_eq_ok_iff, IsVersion]
  constructor
  · rintro ⟨_, _, uri, version, record, rfl, ⟨rfl, small⟩, rfl⟩
    exact ⟨version, record, small⟩
  · rintro ⟨version, record, small⟩
    exact ⟨_, _, uri, version, record, rfl, ⟨rfl, small⟩, rfl⟩

theorem decodeChanged_eq_ok_iff : decodeChanged j = .ok e ↔
    ∃ (document : Json) (items : List Json) (uri : Uri) (version : Int)
      (changes : List ContentChange),
      Record ["textDocument", "contentChanges"] j [some document, some (.arr items)] ∧
      Record ["uri", "version"] document [some (.str uri.text), some (.int version)] ∧
      IsVersion version ∧ List.Forall₂ ContentChange.Written items changes ∧
      e = .changed uri.text changes := by
  refine (Json.two_fields_iff "DidChangeTextDocumentParams" (by decide)).trans ?_
  simp only [decodeVersionedId_eq_ok_iff, Json.decodeList_eq_ok_iff, decodeChange_eq_ok_iff]
  constructor
  · rintro ⟨document, _, uri, changes, record, ⟨version, id, small⟩, ⟨items, rfl, each⟩, rfl⟩
    exact ⟨document, items, uri, version, changes, record, id, small, each, rfl⟩
  · rintro ⟨document, items, uri, version, changes, record, id, small, each, rfl⟩
    exact ⟨document, _, uri, changes, record, ⟨version, id, small⟩, ⟨items, rfl, each⟩, rfl⟩

theorem decodeClosed_eq_ok_iff : decodeClosed j = .ok e ↔ ∃ (document : Json) (uri : Uri),
    Record ["textDocument"] j [some document] ∧ Record ["uri"] document [some (.str uri.text)] ∧
      e = .closed uri.text := by
  have named {document uri} : decodeId document = .ok uri ↔
      Record ["uri"] document [some (.str uri.text)] := by
    refine (Json.one_field_iff "TextDocumentIdentifier" "uri").trans ?_
    simp only [Uri.decode_eq_ok_iff]
    constructor
    · rintro ⟨_, uri, record, rfl, rfl⟩
      exact record
    · exact fun record => ⟨_, uri, record, rfl, rfl⟩
  refine (Json.one_field_iff "DidCloseTextDocumentParams" "textDocument").trans ?_
  simp only [named]

theorem decodeFocused_eq_ok_iff : decodeFocused j = .ok e ↔
    ∃ value uri, Record ["uri"] j [value] ∧ Optionally Uri.Written value uri ∧
      e = .focused (uri.map Uri.text) := by
  have distinct : ["uri"].Nodup := by decide
  have uris {found o} : found.elim (.ok none) (Json.decodeOption Uri.decode) = .ok o ↔
      Optionally Uri.Written found o :=
    Json.optionally_iff fun _ _ => Uri.decode_eq_ok_iff
  simp only [decodeFocused, bind_eq_ok, Json.Fields.optional_eq_ok_iff, uris,
    Json.record_iff "ActiveEditorChangedParams" distinct, List.forall₂_cons,
    List.forall₂_nil_left_iff, and_true]
  constructor
  · rintro ⟨f, opened, uri, ⟨value, given, read⟩, _, closed, ⟨⟩⟩
    exact ⟨value, uri, ⟨f, opened, given, closed⟩, read, rfl⟩
  · rintro ⟨value, uri, ⟨f, opened, given, closed⟩, read, rfl⟩
    exact ⟨f, opened, uri, ⟨value, given, read⟩, (), closed, rfl⟩

theorem decodeVisibility_eq_ok_iff : decodeVisibility j = .ok e ↔
    ∃ visible, Record ["visible"] j [some (.bool visible)] ∧ e = .visibility visible := by
  refine (Json.one_field_iff "VisibilityChangedParams" "visible").trans ?_
  simp only [Json.decodeBool_eq_ok_iff]
  constructor
  · rintro ⟨_, visible, record, rfl, rfl⟩
    exact ⟨visible, record, rfl⟩
  · rintro ⟨visible, record, rfl⟩
    exact ⟨_, visible, record, rfl, rfl⟩

theorem decodeSelected_eq_ok_iff : decodeSelected j = .ok e ↔
    ∃ items nodes, Record ["nodes"] j [some (.arr items)] ∧
      List.Forall₂ NodePath.Written items nodes ∧ e = .selected nodes := by
  refine (Json.one_field_iff "SelectionChangedParams" "nodes").trans ?_
  simp only [Json.decodeList_eq_ok_iff, decodeNodePath_eq_ok_iff]
  constructor
  · rintro ⟨_, nodes, record, ⟨items, rfl, each⟩, rfl⟩
    exact ⟨items, nodes, record, each, rfl⟩
  · rintro ⟨items, nodes, record, each, rfl⟩
    exact ⟨_, nodes, record, ⟨items, rfl, each⟩, rfl⟩

theorem exists_decoder {n : Notification} (told : ofNotification? n = some e) :
    ∃ decode, (n.method, decode) ∈ decoders ∧ decode n.params = .ok e := by
  unfold ofNotification? at told
  split at told
  · cases told
  · rename_i decode known
    obtain ⟨_, _, split, -⟩ := List.lookup_eq_some_iff.mp known
    refine ⟨decode, split ▸ List.mem_append_right _ List.mem_cons_self, ?_⟩
    cases read : decode n.params <;> rw [read] at told <;> cases told
    rfl

end Event

end Decoders

section Calls

variable {P : Parser} {m : Message} {operation : Session → Outcome}

theorem Message.Calls.event (calls : m.Calls P operation) :
    ∃ e, m.event? = some e ∧ operation = fun s => s.step P e := by
  have told {method : String} {params : Json} {decode : Decoder Event} {e : Event}
      (known : Event.decoders.lookup method = some decode) (read : decode params = .ok e) :
      (notification ⟨method, params⟩).event? = some e := by
    simp only [event?, Event.ofNotification?, known, read, Except.toOption]
  cases calls with
  | opened params_are document_is numbered =>
    have read := Event.decodeTextDocument_eq_ok_iff.mpr
      ⟨_, _, _, _, document_is, numbered, rfl⟩
    exact ⟨_, told rfl (Event.decodeOpened_eq_ok_iff.mpr ⟨_, params_are, read⟩), rfl⟩
  | changed params_are document_is numbered changes_are =>
    exact ⟨_, told rfl (Event.decodeChanged_eq_ok_iff.mpr
      ⟨_, _, _, _, _, params_are, document_is, numbered, changes_are, rfl⟩), rfl⟩
  | closed params_are document_is =>
    exact ⟨_, told rfl (Event.decodeClosed_eq_ok_iff.mpr
      ⟨_, _, params_are, document_is, rfl⟩), rfl⟩
  | focused params_are value_is =>
    exact ⟨_, told rfl (Event.decodeFocused_eq_ok_iff.mpr
      ⟨_, _, params_are, value_is, rfl⟩), rfl⟩
  | visibility params_are =>
    exact ⟨_, told rfl (Event.decodeVisibility_eq_ok_iff.mpr ⟨_, params_are, rfl⟩), rfl⟩
  | selected params_are nodes_are =>
    exact ⟨_, told rfl (Event.decodeSelected_eq_ok_iff.mpr
      ⟨_, _, params_are, nodes_are, rfl⟩), rfl⟩

theorem Message.calls_of_event? {e : Event} (told : m.event? = some e) :
    m.Calls P fun s => s.step P e := by
  cases m with
  | request r => cases told
  | response r => cases told
  | notification n =>
    obtain ⟨decode, listed, read⟩ := Event.exists_decoder told
    obtain ⟨method, params⟩ := n
    simp only [Event.decoders, List.mem_cons, Prod.mk.injEq, List.not_mem_nil, or_false] at listed
    rcases listed with ⟨rfl, rfl⟩ | ⟨rfl, rfl⟩ | ⟨rfl, rfl⟩ | ⟨rfl, rfl⟩ | ⟨rfl, rfl⟩ | ⟨rfl, rfl⟩
    · obtain ⟨_, params_are, read⟩ := Event.decodeOpened_eq_ok_iff.mp read
      obtain ⟨_, _, _, _, document_is, numbered, rfl⟩ := Event.decodeTextDocument_eq_ok_iff.mp read
      exact .opened params_are document_is numbered
    · obtain ⟨_, _, _, _, _, params_are, document_is, numbered, changes_are, rfl⟩ :=
        Event.decodeChanged_eq_ok_iff.mp read
      exact .changed params_are document_is numbered changes_are
    · obtain ⟨_, _, params_are, document_is, rfl⟩ := Event.decodeClosed_eq_ok_iff.mp read
      exact .closed params_are document_is
    · obtain ⟨_, _, params_are, value_is, rfl⟩ := Event.decodeFocused_eq_ok_iff.mp read
      exact .focused params_are value_is
    · obtain ⟨_, params_are, rfl⟩ := Event.decodeVisibility_eq_ok_iff.mp read
      exact .visibility params_are
    · obtain ⟨_, _, params_are, nodes_are, rfl⟩ := Event.decodeSelected_eq_ok_iff.mp read
      exact .selected params_are nodes_are

theorem Message.calls_iff :
    m.Calls P operation ↔ ∃ e, m.event? = some e ∧ operation = fun s => s.step P e := by
  refine ⟨Calls.event, ?_⟩
  rintro ⟨e, told, rfl⟩
  exact calls_of_event? told

theorem Message.uncalled_iff : (∀ operation, ¬ m.Calls P operation) ↔ m.event? = none := by
  simp only [calls_iff, Option.eq_none_iff_forall_ne_some]
  constructor
  · exact fun none e told => none _ ⟨e, told, rfl⟩
  · exact fun none operation ⟨e, told, _⟩ => none e told

theorem Session.reached_iff {fresh s : Session} {messages : List Message} :
    Reached P fresh messages s ↔
      ∃ effects, fresh.run P (messages.filterMap Message.event?) = .ok (s, effects) := by
  constructor
  · intro reached
    induction reached with
    | start => exact ⟨[], rfl⟩
    | @called messages m s s' effects operation earlier calls done ih =>
      obtain ⟨sent, ran⟩ := ih
      obtain ⟨e, told, rfl⟩ := calls.event
      refine ⟨sent ++ effects, ?_⟩
      rw [List.filterMap_append, List.filterMap_cons_some told]
      exact run_snoc_ok.mpr ⟨s, sent, effects, ran, done, rfl⟩
    | @passed messages m s earlier uncalled ih =>
      obtain ⟨sent, ran⟩ := ih
      refine ⟨sent, ?_⟩
      rw [List.filterMap_append, List.filterMap_cons_none (Message.uncalled_iff.mp uncalled)]
      simpa using ran
  · -- The last message decides how the session was reached.
    induction messages using List.reverseRecOn generalizing s with
    | nil =>
      rintro ⟨_, ran⟩
      cases ran
      exact .start
    | append_singleton messages m ih =>
      rintro ⟨effects, ran⟩
      cases told : m.event? with
      | none =>
        rw [List.filterMap_append, List.filterMap_cons_none told] at ran
        exact .passed (ih ⟨effects, by simpa using ran⟩) (Message.uncalled_iff.mpr told)
      | some e =>
        rw [List.filterMap_append, List.filterMap_cons_some told] at ran
        obtain ⟨middle, sent, last, first, stepped, rfl⟩ := run_snoc_ok.mp ran
        exact .called (ih ⟨sent, first⟩) (Message.calls_of_event? told) stepped

end Calls

end SyntaxPanel
