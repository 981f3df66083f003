import SyntaxPanel.Proofs.Server.Notices
import SyntaxPanel.Proofs.Server.Responses

namespace SyntaxPanel

theorem Compiler.resolve_unregistered {name : String}
    (unregistered : ∀ c ∈ registered, c.name ≠ name) : resolve name = .error ⟨name⟩ := by
  have unknown : registered.find? (fun c => c.name == name) = none := by
    rw [List.find?_eq_none]
    intro c mem
    simpa using unregistered c mem
  rw [resolve, unknown]

namespace Message

def IsNotification : Message → Prop
  | notification _ => True
  | _ => False

instance : DecidablePred IsNotification
  | notification _ => isTrue trivial
  | request _ => isFalse id
  | response _ => isFalse id

end Message

namespace Question

theorem children_of_decodeChildren {j : Json} {q : Question} (read : decodeChildren j = .ok q) :
    ∃ parent, q = .children parent := by
  simp only [decodeChildren, bind_eq_ok] at read
  obtain ⟨f, -, parent, -, ⟨⟩, -, result⟩ := read
  cases result
  exact ⟨parent, rfl⟩

theorem describe_of_decodeDescribe {j : Json} {q : Question} (read : decodeDescribe j = .ok q) :
    ∃ node, q = .describe node := by
  simp only [decodeDescribe, bind_eq_ok] at read
  obtain ⟨f, -, node, -, ⟨⟩, -, result⟩ := read
  cases result
  exact ⟨node, rfl⟩

end Question

def Request.FindsNothing (r : Request) (out : List Outgoing) : Prop :=
  (r.method = Question.childrenMethod → ∀ q, Question.decodeChildren r.params = .ok q →
    responses out = [(r.id, .ok (.arr []))]) ∧
  (r.method = Question.describeMethod → ∀ q, Question.decodeDescribe r.params = .ok q →
    responses out = [(r.id, .ok .null)])

theorem Outgoing.isSome_response? {out : List Outgoing} (silent : ∀ n, .notice n ∉ out) :
    ∀ o ∈ out, o.response?.isSome = true := by
  intro o mem
  cases o with
  | answer id a => rfl
  | refusal id r => rfl
  | notice n => exact absurd mem (silent n)

namespace Server

variable {P : Parser} {reason : UnknownCompiler}

theorem start_unresolved {config : Config}
    (failed : Compiler.resolve config.compiler = .error reason) :
    start config = (.unavailable reason,
      [.notice (.showError ("Syntax tree view unavailable: " ++ reason.message))]) := by
  simp only [start, Shell.activate, failed]
  rfl

theorem handleRequest_unavailable (reason : UnknownCompiler) (r : Request) :
    ∃ answer, handleRequest (.unavailable reason) r = .ok answer := by
  unfold handleRequest
  split
  · exact ⟨_, rfl⟩
  · split
    · exact ⟨_, rfl⟩
    · rename_i q _
      cases q <;> exact ⟨_, rfl⟩

theorem Served.unavailable {m : Message} {s' : Server} {out : List Outgoing}
    (served : Served P (.unavailable reason) m s' out) :
    (¬ m.IsShutdown → s' = running (.unavailable reason)) ∧ ∀ n, .notice n ∉ out := by
  rcases served.heard with ⟨-, same, silent⟩ | ⟨e, _, _, -, stepped, rfl, rfl⟩
  · exact ⟨same, silent⟩
  · cases stepped
    exact ⟨fun _ => rfl, by simp⟩

theorem Served.unheard {m : Message} {s' : Server} {out : List Outgoing}
    (served : Served P (.unavailable reason) m s' out) (told : m.IsNotification) : out = [] := by
  cases m with
  | notification n =>
    -- All that is sent are responses, and a notification has none.
    have unanswered : responses out = [] := served.answered
    refine List.eq_nil_iff_forall_not_mem.mpr ?_
    intro o mem
    have response := Outgoing.isSome_response? served.unavailable.2 o mem
    rw [List.filterMap_eq_nil_iff.mp unanswered o mem] at response
    cases response
  | request r => exact told.elim
  | response r => exact told.elim

theorem Served.findsNothing {r : Request} {s' : Server} {out : List Outgoing}
    (served : Served P (.unavailable reason) (.request r) s' out) : r.FindsNothing out := by
  constructor
  · intro method q read
    have known : Question.decoder? r.method = some Question.decodeChildren := by rw [method]; rfl
    obtain ⟨a, asked, rfl⟩ := served.asked known read
    obtain ⟨parent, rfl⟩ := Question.children_of_decodeChildren read
    cases asked
    rfl
  · intro method q read
    have known : Question.decoder? r.method = some Question.decodeDescribe := by rw [method]; rfl
    obtain ⟨a, asked, rfl⟩ := served.asked known read
    obtain ⟨node, rfl⟩ := Question.describe_of_decodeDescribe read
    cases asked
    rfl

theorem step_ok_unavailable (P : Parser) (reason : UnknownCompiler) (m : Message) :
    ∃ s' out, (running (.unavailable reason)).step P m = .ok (s', out) := by
  cases m with
  | request r =>
    by_cases ends : r.method = "shutdown"
    · exact ⟨awaitingExit, [.answer r.id .done], by simp only [step, if_pos ends]⟩
    · obtain ⟨answer, handled⟩ := handleRequest_unavailable reason r
      refine ⟨running (.unavailable reason), [answer], ?_⟩
      simp only [step, if_neg ends, handled, bind, Except.bind]
      rfl
  | notification n =>
    cases told : Event.ofNotification? n with
    | none => exact ⟨_, [], by simp only [step, handleNotification, told]; rfl⟩
    | some e => exact ⟨_, [], by simp only [step, handleNotification, told]; rfl⟩
  | response r => exact ⟨running (.unavailable reason), [], rfl⟩

def Inert (reason : UnknownCompiler) (s : Server) : Prop :=
  s = running (.unavailable reason) ∨ s.Stopped

theorem Inert.step_ok (P : Parser) {s : Server} (inert : s.Inert reason) (m : Message) :
    ∃ s' out, s.step P m = .ok (s', out) ∧ s'.Inert reason ∧ ∀ n, .notice n ∉ out := by
  rcases inert with rfl | stopped
  · obtain ⟨s', out, stepped⟩ := step_ok_unavailable P reason m
    obtain ⟨stays, silent⟩ := (step_served stepped).unavailable
    refine ⟨s', out, stepped, ?_, silent⟩
    by_cases ends : m.IsShutdown
    · exact .inr ((step_served stepped).stopped ends)
    · exact .inl (stays ends)
  · obtain ⟨s', out, stepped⟩ := stopped.step_ok P m
    obtain ⟨still, rfl⟩ := stopped.step stepped
    exact ⟨s', [], stepped, .inr still, fun _ => List.not_mem_nil⟩

theorem Inert.run_ok (P : Parser) {s : Server} (inert : s.Inert reason) (messages : List Message) :
    ∃ s' sent, s.run P messages = .ok (s', sent) ∧ ∀ out ∈ sent, ∀ n, .notice n ∉ out := by
  induction messages generalizing s with
  | nil => exact ⟨s, [], rfl, nofun⟩
  | cons m rest ih =>
    obtain ⟨middle, out, stepped, inert', silent⟩ := inert.step_ok P m
    obtain ⟨s', later, ran, quiet⟩ := ih inert'
    refine ⟨s', out :: later, run_cons_ok.mpr ⟨middle, out, later, stepped, ran, rfl⟩, ?_⟩
    exact List.forall_mem_cons.mpr ⟨silent, quiet⟩

theorem unavailable_of_run {messages : List Message} {s' : Server} {sent : List (List Outgoing)}
    (serves : ∀ m ∈ messages, ¬ m.IsShutdown)
    (ran : (running (.unavailable reason)).run P messages = .ok (s', sent)) :
    s' = running (.unavailable reason) := by
  refine run_invariant (fun s => s = running (.unavailable reason)) ?_ rfl ran
  rintro m mem _ s' out rfl stepped
  exact (step_served stepped).unavailable.1 (serves m mem)

theorem run_untold {messages : List Message} {s' : Server} {sent : List (List Outgoing)}
    (serves : ∀ m ∈ messages, ¬ m.IsShutdown)
    (ran : (running (.unavailable reason)).run P messages = .ok (s', sent)) :
    ∃ alone, (running (.unavailable reason)).run P
        (messages.filter fun m => ¬ m.IsNotification) = .ok (s', alone) ∧
      alone.flatten = sent.flatten := by
  -- The server stays what it is, so the hypothesis serves for the rest whether or not the first
  -- message is left out.
  induction messages generalizing sent with
  | nil =>
    cases ran
    exact ⟨[], rfl, rfl⟩
  | cons m rest ih =>
    obtain ⟨middle, out, later, stepped, others, rfl⟩ := run_cons_ok.mp ran
    have served := step_served stepped
    obtain rfl := served.unavailable.1 (serves m List.mem_cons_self)
    obtain ⟨alone, ran', same⟩ := ih (fun m mem => serves m (List.mem_cons_of_mem _ mem)) others
    by_cases told : m.IsNotification
    · refine ⟨alone, ?_, ?_⟩
      · rwa [List.filter_cons_of_neg (by simpa using told)]
      · rw [served.unheard told, List.flatten_cons, List.nil_append, same]
    · refine ⟨out :: alone, ?_, ?_⟩
      · rw [List.filter_cons_of_pos (by simpa using told)]
        exact run_cons_ok.mpr ⟨_, out, alone, stepped, ran', rfl⟩
      · rw [List.flatten_cons, List.flatten_cons, same]

/-- After a handshake that did not find its compiler, the client is told so at once, and of nothing
else. All that is sent otherwise are responses. Between the handshake and the shutdown a question
that can be read is answered with nothing, and were all notifications left out there, the same
would be sent, then and later. -/
theorem inert_without_compiler (P : Parser) {base config : Config} {hello : List Message}
    {replies : List (List Outgoing)}
    (greeted : (new base).run P hello = .ok (awaitingInitialized config, replies))
    (unregistered : ∀ c ∈ Compiler.registered, c.name ≠ config.compiler) (j : Json)
    {between : List Message} (serves : ∀ m ∈ between, ¬ m.IsShutdown) (rest : List Message) :
    ∃ server told sent back alone,
      (new base).run P (hello ++ .notification ⟨"initialized", j⟩ :: (between ++ rest)) =
        .ok (server, replies ++ told :: (sent ++ back)) ∧
      sent.length = between.length ∧
      told.map Outgoing.notification? = [some ("window/showMessage", Json.ofFields
        [("type", .int 1), ("message", .str ("Syntax tree view unavailable: " ++
          (UnknownCompiler.mk config.compiler).message))])] ∧
      (∀ out ∈ replies ++ sent ++ back, ∀ o ∈ out, o.response?.isSome = true) ∧
      (∀ before r after, between = before ++ .request r :: after →
        ∃ out, sent[before.length]? = some out ∧ r.FindsNothing out) ∧
      (new base).run P (hello ++ .notification ⟨"initialized", j⟩ ::
          ((between.filter fun m => ¬ m.IsNotification) ++ rest)) =
        .ok (server, replies ++ told :: (alone ++ back)) ∧
      alone.flatten = sent.flatten := by
  have started := start_unresolved (Compiler.resolve_unregistered unregistered)
  have inert : (running (start config).1).Inert ⟨config.compiler⟩ := .inl (by rw [started])
  obtain ⟨server, all, served, silent⟩ := inert.run_ok P (between ++ rest)
  obtain ⟨middle, sent, back, first, last, rfl⟩ := run_append_ok.mp served
  have unavailable := first
  rw [started] at unavailable
  obtain ⟨alone, untold, same⟩ := run_untold serves unavailable
  have later : (running (start config).1).run P
      ((between.filter fun m => ¬ m.IsNotification) ++ rest) = .ok (server, alone ++ back) := by
    rw [started]
    exact run_append_ok.mpr ⟨middle, alone, back, untold, last, rfl⟩
  refine ⟨server, (start config).2, sent, back, alone, run_of_greeted greeted j served,
    length_of_run first, by rw [started]; rfl, ?_, ?_, run_of_greeted greeted j later, same⟩
  · obtain ⟨_, _, _, -, -, -, -, -, quiet⟩ := hello_of_run greeted
    intro out mem
    rw [List.append_assoc] at mem
    rcases List.mem_append.mp mem with mem | mem
    · exact Outgoing.isSome_response? (quiet out mem)
    · exact Outgoing.isSome_response? (silent out mem)
  · rintro before r after rfl
    obtain ⟨now, front, next, out, early, stepped, there⟩ := run_at unavailable
    have still := unavailable_of_run (fun m mem => serves m (List.mem_append_left _ mem)) early
    rw [still] at stepped
    exact ⟨out, there, (step_served stepped).findsNothing⟩

def hopeful : List Message :=
  let uri := Json.str "file:///a.ts"
  [.notification ⟨"textDocument/didOpen", .obj [("textDocument", .obj [
      ("languageId", .str "typescript"), ("text", .str "é"), ("uri", uri), ("version", .int 1)])]⟩,
    .notification ⟨"astview/activeEditorChanged", .obj [("uri", uri)]⟩,
    .notification ⟨"astview/visibilityChanged", .obj [("visible", .bool true)]⟩,
    .request ⟨.number 2, "astview/children", .obj []⟩,
    .notification ⟨"astview/selectionChanged", .obj [("nodes", .arr [.arr [.int 0]])]⟩,
    .request ⟨.text "c", "astview/describe", .obj [("node", .arr [.int 0])]⟩]

theorem inert_without_compiler_hopeful :
    (∀ c ∈ Compiler.registered, c.name ≠ "flow") ∧
    ∃ server told sent back alone first second,
      (new { compiler := "flow" }).run accents
          (plainHello :: .notification ⟨"initialized", .null⟩ ::
            (hopeful ++ [.request ⟨.number 5, "shutdown", .null⟩])) =
        .ok (server, [.answer (.number 1) .capabilities] :: told :: (sent ++ back)) ∧
      sent[3]? = some first ∧ responses first = [(.number 2, .ok (.arr []))] ∧
      sent[5]? = some second ∧ responses second = [(.text "c", .ok .null)] ∧
      (new { compiler := "flow" }).run accents
          (plainHello :: .notification ⟨"initialized", .null⟩ ::
            ((hopeful.filter fun m => ¬ m.IsNotification) ++
              [.request ⟨.number 5, "shutdown", .null⟩])) =
        .ok (server, [.answer (.number 1) .capabilities] :: told :: (alone ++ back)) ∧
      alone.flatten = sent.flatten := by
  have unregistered : ∀ c ∈ Compiler.registered, c.name ≠ "flow" := by decide
  have serves : ∀ m ∈ hopeful, ¬ m.IsShutdown := by decide
  obtain ⟨server, told, sent, back, alone, ran, -, -, -, each, without, same⟩ :=
    inert_without_compiler accents (plainHello_greets _ { compiler := "flow" }) unregistered .null
      serves [.request ⟨.number 5, "shutdown", .null⟩]
  obtain ⟨first, at_first, nothing, -⟩ := each (hopeful.take 3) _ (hopeful.drop 4) rfl
  obtain ⟨second, at_second, -, absent⟩ := each (hopeful.take 5) _ [] rfl
  exact ⟨unregistered, server, told, sent, back, alone, first, second, ran, at_first,
    nothing rfl _ rfl, at_second, absent rfl _ rfl, without, same⟩

end Server

end SyntaxPanel
