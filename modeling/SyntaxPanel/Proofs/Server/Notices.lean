import SyntaxPanel.Proofs.Panel.Naming
import SyntaxPanel.Proofs.Server.Calls
import SyntaxPanel.Server.Encode

/-! The notifications of a server are the effects of its session. The documents of a server are
named by the texts of URIs, which can be read again, so no effect is lost on the way and none is
told of no document instead of its own. -/
namespace SyntaxPanel

def Uri.IsText (id : DocumentId) : Prop := ∃ u : Uri, u.text = id

namespace Event

def NamesUri (e : Event) : Prop := ∀ id, e.document? = some id → Uri.IsText id

theorem namesUri_of_decoders :
    ∀ entry ∈ decoders, ∀ (j : Json) (e : Event), entry.2 j = .ok e → e.NamesUri := by
  simp only [decoders, List.forall_mem_cons]
  refine ⟨?opened, ?changed, ?closed, ?focused, ?visibility, ?selected,
    List.forall_mem_nil _⟩
  case opened =>
    intro j e read
    obtain ⟨_, -, read⟩ := decodeOpened_eq_ok_iff.mp read
    obtain ⟨uri, _, _, _, -, -, rfl⟩ := decodeTextDocument_eq_ok_iff.mp read
    rintro _ ⟨⟩
    exact ⟨uri, rfl⟩
  case changed =>
    intro j e read
    obtain ⟨_, _, uri, _, _, -, -, -, -, rfl⟩ := decodeChanged_eq_ok_iff.mp read
    rintro _ ⟨⟩
    exact ⟨uri, rfl⟩
  case closed =>
    intro j e read
    obtain ⟨_, uri, -, -, rfl⟩ := decodeClosed_eq_ok_iff.mp read
    rintro _ ⟨⟩
    exact ⟨uri, rfl⟩
  case focused =>
    intro j e read
    obtain ⟨_, uri, -, -, rfl⟩ := decodeFocused_eq_ok_iff.mp read
    intro id named
    obtain ⟨uri, -, same⟩ := Option.map_eq_some_iff.mp named
    exact ⟨uri, same⟩
  case visibility =>
    intro j e read
    obtain ⟨_, -, rfl⟩ := decodeVisibility_eq_ok_iff.mp read
    rintro _ ⟨⟩
  case selected =>
    intro j e read
    obtain ⟨_, _, -, -, rfl⟩ := decodeSelected_eq_ok_iff.mp read
    rintro _ ⟨⟩

end Event

theorem Message.namesUri_of_event? {m : Message} {e : Event} (told : m.event? = some e) :
    e.NamesUri := by
  cases m with
  | notification n =>
    obtain ⟨_, listed, read⟩ := Event.exists_decoder told
    exact Event.namesUri_of_decoders _ listed _ _ read
  | request r => cases told
  | response r => cases told

/-- How an effect is told to a client: the method of the notification, and its parameters. -/
def Effect.written : Effect → String × Json
  | treeChanged document => ("astview/treeChanged", .obj [("uri", document.elim .null .str)])
  | highlight request =>
    let position (p : Position) := Json.obj [("character", .int p.character), ("line", .int p.line)]
    let range (r : Range) := Json.obj [("end", position r.stop), ("start", position r.start)]
    ("astview/highlight", .obj
      [("ranges", .arr (request.ranges.map range)), ("uri", .str request.document)])

def Outgoing.notification? : Outgoing → Option (String × Json)
  | notice n => some (n.method, n.params)
  | _ => none

def notifications (out : List Outgoing) : List (String × Json) :=
  out.filterMap Outgoing.notification?

theorem notifications_eq_nil {out : List Outgoing} (silent : ∀ n, .notice n ∉ out) :
    notifications out = [] := by
  rw [notifications, List.filterMap_eq_nil_iff]
  intro o mem
  cases o with
  | notice n => exact absurd mem (silent n)
  | answer id a => rfl
  | refusal id r => rfl

namespace Server

theorem noticeOf?_written {effect : Effect}
    (named : ∀ id, effect.document? = some id → Uri.IsText id) :
    ∃ n, noticeOf? effect = some n ∧ (n.method, n.params) = effect.written := by
  cases effect with
  | treeChanged document =>
    cases document with
    | none => exact ⟨.treeChanged none, rfl, rfl⟩
    | some id =>
      obtain ⟨uri, rfl⟩ := named id rfl
      exact ⟨.treeChanged (some uri), by rw [noticeOf?, Uri.parse?_text], rfl⟩
  | highlight request =>
    obtain ⟨uri, same⟩ := named request.document rfl
    refine ⟨.highlight uri request.ranges, ?_, ?_⟩
    · rw [noticeOf?, ← same, Uri.parse?_text, Option.map_some]
    · rw [Effect.written, ← same]
      rfl

theorem notifications_noticeOf? {effects : List Effect} (named : Named Uri.IsText effects) :
    notifications ((effects.filterMap noticeOf?).map .notice) = effects.map Effect.written := by
  induction effects with
  | nil => rfl
  | cons effect rest ih =>
    obtain ⟨n, told, written⟩ := noticeOf?_written (named effect List.mem_cons_self)
    have others := ih fun effect mem => named effect (List.mem_cons_of_mem _ mem)
    rw [List.filterMap_cons_some told, List.map_cons, List.map_cons, ← others, ← written]
    rfl

variable {P : Parser}

theorem start_resolved {config : Config} {compiler : Compiler}
    (found : Compiler.resolve config.compiler = .ok compiler) :
    start config = (.active (Session.new compiler config.reparse), []) := by
  simp only [start, Shell.activate, found]
  rfl

/-- After a handshake that found its compiler, each message up to the shutdown is followed by one
notification for each effect of the operation that it calls for, in the same order and with the
effect's document and ranges; the operation is that of the session which the messages before lead
to. A message that calls for none is followed by none, and neither is any after the shutdown. -/
theorem notifications_are_effects (keeps : P.KeepsToText) {base config : Config}
    {hello : List Message} {replies : List (List Outgoing)}
    (greeted : (new base).run P hello = .ok (awaitingInitialized config, replies))
    {compiler : Compiler} (found : Compiler.resolve config.compiler = .ok compiler) (j : Json)
    (messages : List Message) :
    ∃ server sent,
      (new base).run P (hello ++ .notification ⟨"initialized", j⟩ :: messages) =
        .ok (server, replies ++ [] :: sent) ∧
      sent.length = messages.length ∧
      ∀ before m after, messages = before ++ m :: after →
        ∃ out, sent[before.length]? = some out ∧
          ((∃ e ∈ before, e.IsShutdown) → notifications out = []) ∧
          ((∀ e ∈ before, ¬ e.IsShutdown) → ∃ s,
            Session.Reached P (Session.new compiler config.reparse) before s ∧
            ((∀ operation, ¬ m.Calls P operation) → notifications out = []) ∧
            ∀ operation, m.Calls P operation → ∃ s' effects, operation s = .ok (s', effects) ∧
              notifications out = effects.map Effect.written) := by
  obtain ⟨server, sent, ran, served⟩ := serve_ok keeps greeted j messages
  rw [start_resolved found] at ran served
  refine ⟨server, sent, ran, length_of_run served, ?_⟩
  rintro before m after rfl
  obtain ⟨middle, _, _, out, first, stepped, there⟩ := run_at served
  refine ⟨out, there, ?_, ?_⟩
  · intro ends
    rw [((stopped_of_run first ends).step stepped).2]
    rfl
  · intro serves
    obtain ⟨s, told, rfl, heard⟩ := session_of_run serves first
    refine ⟨s, Session.reached_iff.mpr ⟨told, heard⟩, ?_⟩
    have names : s.Names Uri.IsText := by
      refine Session.names_of_run heard ?_
      intro e mem
      obtain ⟨m, -, event⟩ := List.mem_filterMap.mp mem
      exact m.namesUri_of_event? event
    rcases (step_served stepped).session with
      ⟨untold, -, silent⟩ | ⟨e, s', effects, event, moved, -, rfl⟩
    · exact ⟨fun _ => notifications_eq_nil silent,
        fun operation calls => absurd calls (Message.uncalled_iff.mpr untold operation)⟩
    · refine ⟨fun uncalled => (uncalled _ (Message.calls_of_event? event)).elim, ?_⟩
      intro operation calls
      obtain ⟨e', event', rfl⟩ := calls.event
      obtain rfl := Option.some.inj (event.symm.trans event')
      exact ⟨s', effects, moved, notifications_noticeOf?
        ((Session.step_stepped moved).names names (m.namesUri_of_event? event)).2⟩

theorem effects_of_reached (operation : Session → Outcome) {fresh s s' : Session}
    {messages : List Message} {effects expected : List Effect}
    (reached : Session.Reached P fresh messages s) (done : operation s = .ok (s', effects))
    (computed : ((fresh.run P (messages.filterMap Message.event?)).toOption.bind fun reached =>
      (operation reached.1).toOption.map Prod.snd) = some expected) : effects = expected := by
  obtain ⟨told, ran⟩ := Session.reached_iff.mp reached
  simp only [ran, Except.toOption, Option.bind_some, done, Option.map_some] at computed
  exact Option.some.inj computed

def typeLetter : Message :=
  let place := Json.obj [("character", .int 1), ("line", .int 0)]
  .notification ⟨"textDocument/didChange", .obj [
    ("contentChanges", .arr [.obj [
      ("range", .obj [("end", place), ("start", place)]), ("text", .str "x")]]),
    ("textDocument", .obj [("uri", .str "file:///a.ts"), ("version", .int 2)])]⟩

def marking : List Message :=
  let uri := Json.str "file:///a.ts"
  [.notification ⟨"textDocument/didOpen", .obj [("textDocument", .obj [
      ("languageId", .str "typescript"), ("text", .str "é"), ("uri", uri), ("version", .int 1)])]⟩,
    .notification ⟨"astview/activeEditorChanged", .obj [("uri", uri)]⟩,
    .notification ⟨"astview/visibilityChanged", .obj [("visible", .bool true)]⟩,
    typeLetter,
    .notification ⟨"astview/selectionChanged", .obj [("nodes", .arr [.arr [.int 0]])]⟩,
    .request ⟨.number 2, "shutdown", .null⟩,
    .notification ⟨"textDocument/didClose", .obj [("textDocument", .obj [("uri", uri)])]⟩]

theorem notifications_are_effects_marking :
    let place (character : Int) := Json.obj [("character", .int character), ("line", .int 0)]
    accents.KeepsToText ∧
    typeLetter.Calls accents (fun s =>
      s.changed accents "file:///a.ts" [⟨some ⟨⟨0, 1⟩, ⟨0, 1⟩⟩, "x"⟩]) ∧
    ∃ server sent typed marked last,
      (new {}).run accents (plainHello :: .notification ⟨"initialized", .null⟩ :: marking) =
        .ok (server, [.answer (.number 1) .capabilities] :: [] :: sent) ∧
      sent[3]? = some typed ∧
      notifications typed = [("astview/treeChanged", .obj [("uri", .str "file:///a.ts")])] ∧
      sent[4]? = some marked ∧
      notifications marked = [("astview/highlight", .obj [
        ("ranges", .arr [.obj [("end", place 2), ("start", place 0)]]),
        ("uri", .str "file:///a.ts")])] ∧
      sent[6]? = some last ∧ notifications last = [] := by
  intro place
  let edit (s : Session) := s.changed accents "file:///a.ts" [⟨some ⟨⟨0, 1⟩, ⟨0, 1⟩⟩, "x"⟩]
  let mark (s : Session) := s.select [[0]]
  have keeps : accents.KeepsToText := Parser.ofTable_keepsToText (by decide +kernel)
  have found : Compiler.resolve ({} : Config).compiler = .ok .typescript := by rfl
  have typing : typeLetter.Calls accents edit :=
    Message.calls_of_event? (e := .changed _ _) (by decide +kernel)
  have marking_is : Message.Calls accents (.notification ⟨"astview/selectionChanged",
      .obj [("nodes", .arr [.arr [.int 0]])]⟩) mark :=
    Message.calls_of_event? (e := .selected _) (by decide +kernel)
  obtain ⟨server, sent, ran, -, each⟩ :=
    notifications_are_effects keeps (plainHello_greets _ {}) found .null marking
  obtain ⟨typed, there, -, serving⟩ := each (marking.take 3) _ (marking.drop 4) rfl
  obtain ⟨s, reached, -, called⟩ := serving (by decide)
  obtain ⟨_, effects, done, told⟩ := called _ typing
  obtain rfl : effects = [.treeChanged (some "file:///a.ts")] :=
    effects_of_reached edit reached done (by decide +kernel)
  obtain ⟨marked, there', -, serving⟩ := each (marking.take 4) _ (marking.drop 5) rfl
  obtain ⟨s', reached', -, called⟩ := serving (by decide)
  obtain ⟨_, effects, done', told'⟩ := called _ marking_is
  obtain rfl : effects = [.highlight ⟨"file:///a.ts", [⟨⟨0, 0⟩, ⟨0, 2⟩⟩]⟩] :=
    effects_of_reached mark reached' done' (by decide +kernel)
  obtain ⟨last, behind, silent, -⟩ := each (marking.take 6) _ [] rfl
  exact ⟨keeps, typing, server, sent, typed, marked, last, ran, there, told, there', told', behind,
    silent (by decide)⟩

end Server

end SyntaxPanel
