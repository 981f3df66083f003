import SyntaxPanel.Proofs.Panel.Progress
import SyntaxPanel.Server

/-! No message breaks a server down, whatever its method and parameters. The parser has to keep to
its text; of the client nothing is asked. Offsets are numbers without a limit here, so texts that
are too long for an offset of 32 bits are not meant. -/
namespace SyntaxPanel

def Shell.Sound (P : Parser) : Shell → Prop
  | inactive => False
  | unavailable _ => True
  | active s => s.Sound P

theorem Shell.activate_sound (P : Parser) (config : Config) :
    (Shell.inactive.activate config).Sound P := by
  unfold activate
  cases Compiler.resolve config.compiler with
  | ok compiler => exact Session.sound_new P compiler config.reparse
  | error reason => trivial

theorem Shell.Sound.step_ok {P : Parser} (keeps : P.KeepsToText) {sh : Shell} (sound : sh.Sound P)
    (e : Event) : ∃ sh' effects, sh.step P e = .ok (sh', effects) ∧ sh'.Sound P := by
  cases sh with
  | inactive => exact sound.elim
  | unavailable reason => exact ⟨.unavailable reason, [], rfl, sound⟩
  | active s =>
    obtain ⟨s', effects, stepped, sound'⟩ := Session.Sound.step_ok keeps sound e
    refine ⟨.active s', effects, ?_, sound'⟩
    simp only [step, stepped, bind, Except.bind]
    rfl

namespace Server

variable {P : Parser}

def Sound (P : Parser) (s : Server) : Prop := ∀ sh, s = running sh → sh.Sound P

theorem placeItem_ok (keeps : P.KeepsToText) {s : Session} (sound : s.Sound P) {path : NodePath}
    {item : TreeItem} (described : s.describe path = some item) :
    ∃ placed, placeItem s item = .ok placed := by
  obtain ⟨d, document, described⟩ := Option.bind_eq_some_iff.mp described
  obtain ⟨n, found, rfl⟩ := Option.map_eq_some_iff.mp described
  obtain ⟨range, told⟩ := sound.range_ok keeps document found
  refine ⟨⟨TreeItem.ofNode s.view.compiler d.text path n, range⟩, ?_⟩
  have covered : (TreeItem.ofNode s.view.compiler d.text path n).span = n.span := rfl
  simp only [placeItem, document, covered, told, bind, Except.bind]
  rfl

theorem placeItems_ok {s : Session} {items : List TreeItem}
    (each : ∀ item ∈ items, ∃ placed, placeItem s item = .ok placed) :
    ∃ placed, placeItems s items = .ok placed := by
  induction items with
  | nil => exact ⟨[], rfl⟩
  | cons item rest ih =>
    obtain ⟨placed, first⟩ := each item List.mem_cons_self
    obtain ⟨others, later⟩ := ih fun item mem => each item (List.mem_cons_of_mem _ mem)
    refine ⟨placed :: others, ?_⟩
    simp only [placeItems, first, later, bind, Except.bind]
    rfl

theorem ask_ok (keeps : P.KeepsToText) {sh : Shell} (sound : sh.Sound P) (q : Question) :
    ∃ answer, ask sh q = .ok answer := by
  cases sh with
  | inactive => exact sound.elim
  | unavailable reason => cases q <;> exact ⟨_, rfl⟩
  | active s =>
    cases q with
    | children parent =>
      obtain ⟨placed, all⟩ : ∃ placed,
          placeItems s ((s.children parent).filterMap s.describe) = .ok placed := by
        apply placeItems_ok
        intro item mem
        obtain ⟨path, -, described⟩ := List.mem_filterMap.mp mem
        exact placeItem_ok keeps sound described
      refine ⟨.items placed, ?_⟩
      simp only [ask, Shell.session?, all, bind, Except.bind]
      rfl
    | describe node =>
      cases described : s.describe node with
      | none =>
        refine ⟨.item none, ?_⟩
        simp only [ask, Shell.session?, described]
      | some item =>
        obtain ⟨placed, one⟩ := placeItem_ok keeps sound described
        refine ⟨.item (some placed), ?_⟩
        simp only [ask, Shell.session?, described, one, bind, Except.bind]
        rfl

theorem handleRequest_ok (keeps : P.KeepsToText) {sh : Shell} (sound : sh.Sound P) (r : Request) :
    ∃ answer, handleRequest sh r = .ok answer := by
  unfold handleRequest
  split
  · exact ⟨_, rfl⟩
  · split
    · exact ⟨_, rfl⟩
    · rename_i q _
      obtain ⟨answer, asked⟩ := ask_ok keeps sound q
      refine ⟨.answer r.id answer, ?_⟩
      simp only [asked, bind, Except.bind]
      rfl

theorem handleNotification_ok (keeps : P.KeepsToText) {sh : Shell} (sound : sh.Sound P)
    (n : Notification) :
    ∃ sh' sent, handleNotification P sh n = .ok (sh', sent) ∧ sh'.Sound P := by
  unfold handleNotification
  split
  · exact ⟨sh, [], rfl, sound⟩
  · rename_i e _
    obtain ⟨sh', effects, stepped, sound'⟩ := sound.step_ok keeps e
    refine ⟨sh', (effects.filterMap noticeOf?).map .notice, ?_, sound'⟩
    simp only [stepped, bind, Except.bind]
    rfl

theorem start_sound (P : Parser) (config : Config) : (start config).1.Sound P := by
  have sound := Shell.activate_sound P config
  unfold start
  dsimp only
  split <;> exact sound

-- In all other states there is no panel behind the connection.
theorem sound_awaitingInitialize (base : Config) : (awaitingInitialize base).Sound P :=
  fun _ same => nomatch same

theorem sound_awaitingInitialized (config : Config) : (awaitingInitialized config).Sound P :=
  fun _ same => nomatch same

theorem sound_awaitingExit : awaitingExit.Sound P := fun _ same => nomatch same

theorem sound_ended (error : Option ServerError) : (ended error).Sound P :=
  fun _ same => nomatch same

theorem sound_running {sh : Shell} (sound : sh.Sound P) : (running sh).Sound P := by
  rintro _ ⟨⟩
  exact sound

theorem sound_handleInitialize (base : Config) (r : Request) :
    (handleInitialize base r).1.Sound P := by
  unfold handleInitialize
  split
  · exact sound_ended _
  · exact sound_awaitingInitialized _

theorem step_ok_before (base : Config) (m : Message) :
    ∃ s' sent, (awaitingInitialize base).step P m = .ok (s', sent) ∧ s'.Sound P := by
  cases m with
  | request r =>
    simp only [step]
    split
    · exact ⟨_, _, rfl, sound_handleInitialize base r⟩
    · exact ⟨_, _, rfl, sound_awaitingInitialize base⟩
  | notification n =>
    simp only [step]
    split
    · exact ⟨_, _, rfl, sound_ended _⟩
    · exact ⟨_, _, rfl, sound_awaitingInitialize base⟩
  | response r =>
    simp only [step]
    exact ⟨_, _, rfl, sound_ended _⟩

theorem step_ok_between (config : Config) (m : Message) :
    ∃ s' sent, (awaitingInitialized config).step P m = .ok (s', sent) ∧ s'.Sound P := by
  cases m with
  | notification n =>
    simp only [step]
    split
    · exact ⟨_, _, rfl, sound_running (start_sound P config)⟩
    · exact ⟨_, _, rfl, sound_ended _⟩
  | request r =>
    simp only [step]
    exact ⟨_, _, rfl, sound_ended _⟩
  | response r =>
    simp only [step]
    exact ⟨_, _, rfl, sound_ended _⟩

theorem step_ok_after (m : Message) :
    ∃ s' sent, awaitingExit.step P m = .ok (s', sent) ∧ s'.Sound P := by
  cases m with
  | notification n =>
    simp only [step]
    split <;> exact ⟨_, _, rfl, sound_ended _⟩
  | request r =>
    simp only [step]
    exact ⟨_, _, rfl, sound_ended _⟩
  | response r =>
    simp only [step]
    exact ⟨_, _, rfl, sound_ended _⟩

theorem step_ok_running (keeps : P.KeepsToText) {sh : Shell} (sound : sh.Sound P) (m : Message) :
    ∃ s' sent, (running sh).step P m = .ok (s', sent) ∧ s'.Sound P := by
  cases m with
  | request r =>
    by_cases shutdown : r.method = "shutdown"
    · refine ⟨awaitingExit, [.answer r.id .done], ?_, sound_awaitingExit⟩
      simp only [step, if_pos shutdown]
    · obtain ⟨answer, handled⟩ := handleRequest_ok keeps sound r
      refine ⟨running sh, [answer], ?_, sound_running sound⟩
      simp only [step, if_neg shutdown, handled, bind, Except.bind]
      rfl
  | notification n =>
    obtain ⟨sh', sent, handled, sound'⟩ := handleNotification_ok keeps sound n
    refine ⟨running sh', sent, ?_, sound_running sound'⟩
    simp only [step, handled, bind, Except.bind]
    rfl
  | response r => exact ⟨running sh, [], rfl, sound_running sound⟩

theorem Sound.step_ok (keeps : P.KeepsToText) {s : Server} (sound : s.Sound P) (m : Message) :
    ∃ s' sent, s.step P m = .ok (s', sent) ∧ s'.Sound P := by
  cases s with
  | awaitingInitialize base => exact step_ok_before base m
  | awaitingInitialized config => exact step_ok_between config m
  | running sh => exact step_ok_running keeps (sound sh rfl) m
  | awaitingExit => exact step_ok_after m
  | ended error => exact ⟨ended error, [], by simp only [step], sound⟩

theorem Sound.run_ok (keeps : P.KeepsToText) {s : Server} (sound : s.Sound P)
    (messages : List Message) : ∃ s' sent, s.run P messages = .ok (s', sent) ∧
      sent.length = messages.length ∧ s'.Sound P := by
  induction messages generalizing s with
  | nil => exact ⟨s, [], rfl, rfl, sound⟩
  | cons m rest ih =>
    obtain ⟨middle, sent, stepped, next⟩ := sound.step_ok keeps m
    obtain ⟨last, later, ran, size, kept⟩ := ih next
    refine ⟨last, sent :: later, ?_, by simp only [List.length_cons, size], kept⟩
    simp only [run, stepped, ran, bind, Except.bind]
    rfl

/-- A server gets to the end of every list of messages, and its panel was started if it serves. -/
theorem run_never_breaks (keeps : P.KeepsToText) (config : Config) (messages : List Message) :
    ∃ server sent, (Server.new config).run P messages = .ok (server, sent) ∧
      sent.length = messages.length ∧ ∀ sh, server = running sh → sh ≠ .inactive := by
  have fresh := sound_awaitingInitialize (P := P) config
  obtain ⟨server, sent, ran, size, sound⟩ := fresh.run_ok keeps messages
  refine ⟨server, sent, ran, size, ?_⟩
  rintro sh served rfl
  exact sound .inactive served

def word (size : Nat) : Node :=
  .mk "program" ⟨0, size, Nat.zero_le size⟩ false
    [.mk "expression_statement" ⟨0, size, Nat.zero_le size⟩ false
      [.mk "identifier" ⟨0, size, Nat.zero_le size⟩ false []]]

def accents : Parser := .ofTable [⟨.typescript, "é", word 2⟩, ⟨.typescript, "éx", word 3⟩]

def typing : List Message :=
  let uri := Json.str "file:///a.ts"
  let place (line character : Nat) :=
    Json.obj [("character", .ofNat character), ("line", .ofNat line)]
  let backwards := Json.obj [("end", place 0 0), ("start", place 7 9)]
  [.request ⟨.number 1, "initialize", .obj [("capabilities", .obj [])]⟩,
    .notification ⟨"initialized", .obj []⟩,
    .notification ⟨"textDocument/didOpen", .obj [("textDocument", .obj [
      ("languageId", .str "typescript"), ("text", .str "é"), ("uri", uri), ("version", .int 1)])]⟩,
    .notification ⟨"astview/activeEditorChanged", .obj [("uri", uri)]⟩,
    .notification ⟨"astview/visibilityChanged", .obj [("visible", .bool true)]⟩,
    .notification ⟨"textDocument/didChange", .obj [
      ("contentChanges", .arr [.obj [("range", backwards), ("text", .str "x")]]),
      ("textDocument", .obj [("uri", uri), ("version", .int 2)])]⟩,
    .request ⟨.number 2, "astview/describe", .obj [("node", .arr [.int 0])]⟩]

def typed : PlacedItem where
  item := .ofNode .typescript "éx" [0] (.mk "expression_statement" ⟨0, 3, Nat.zero_le 3⟩ false
    [.mk "identifier" ⟨0, 3, Nat.zero_le 3⟩ false []])
  range := ⟨⟨0, 0⟩, ⟨0, 2⟩⟩

theorem run_never_breaks_typing : accents.KeepsToText ∧
    ∃ server sent, (Server.new {}).run accents typing = .ok (server, sent) ∧ sent.length = 7 ∧
      (∀ sh, server = running sh → sh ≠ .inactive) ∧
      sent.getLast? = some [.answer (.number 2) (.item (some typed))] := by
  have keeps : accents.KeepsToText := Parser.ofTable_keepsToText (by decide +kernel)
  obtain ⟨server, sent, ran, size, started⟩ := run_never_breaks keeps {} typing
  refine ⟨keeps, server, sent, ran, size, started, ?_⟩
  have last : ((Server.new {}).run accents typing).toOption.bind (·.2.getLast?) = some
      [.answer (.number 2) (.item (some typed))] := by decide +kernel
  rwa [ran] at last

end Server

end SyntaxPanel
