import SyntaxPanel.Proofs.Server.Greeting
import SyntaxPanel.Proofs.Server.Progress

/-! What one message does to a server whose handshake is over. The cases are told here once, as they
are for events. A session stands behind such a server only if its compiler is known; it is then one
that the events among the messages lead to. -/
namespace SyntaxPanel

namespace Message

def IsShutdown : Message → Prop
  | request r => r.method = "shutdown"
  | _ => False

instance : DecidablePred IsShutdown
  | request r => inferInstanceAs (Decidable (r.method = "shutdown"))
  | response _ => isFalse id
  | notification _ => isFalse id

def event? : Message → Option Event
  | notification n => Event.ofNotification? n
  | _ => none

end Message

namespace Server

variable {P : Parser}

/-- What is made of a message, and sent because of it, after the handshake. -/
inductive Served (P : Parser) (sh : Shell) : Message → Server → List Outgoing → Prop where
  | shutdown {r : Request} (ends : r.method = "shutdown") :
      Served P sh (.request r) awaitingExit [.answer r.id .done]
  | unknown {r : Request} (serves : r.method ≠ "shutdown")
      (unknown : Question.decoder? r.method = none) :
      Served P sh (.request r) (running sh) [.refusal r.id .unknownMethod]
  | unreadable {r : Request} {decode : Decoder Question} {e : DecodeError}
      (serves : r.method ≠ "shutdown") (known : Question.decoder? r.method = some decode)
      (refused : decode r.params = .error e) :
      Served P sh (.request r) (running sh)
        [.refusal r.id (.invalidParams r.method e r.params)]
  | question {r : Request} {decode : Decoder Question} {q : Question} {a : Answer}
      (serves : r.method ≠ "shutdown") (known : Question.decoder? r.method = some decode)
      (read : decode r.params = .ok q) (asked : ask sh q = .ok a) :
      Served P sh (.request r) (running sh) [.answer r.id a]
  | event {n : Notification} {e : Event} {sh' : Shell} {effects : List Effect}
      (told : Event.ofNotification? n = some e) (stepped : sh.step P e = .ok (sh', effects)) :
      Served P sh (.notification n) (running sh') ((effects.filterMap noticeOf?).map .notice)
  | noise {n : Notification} (untold : Event.ofNotification? n = none) :
      Served P sh (.notification n) (running sh) []
  | response {r : Response} : Served P sh (.response r) (running sh) []

theorem handleRequest_served {sh : Shell} {r : Request} {out : Outgoing}
    (serves : r.method ≠ "shutdown") (handled : handleRequest sh r = .ok out) :
    Served P sh (.request r) (running sh) [out] := by
  unfold handleRequest at handled
  split at handled
  · rename_i unknown
    cases handled
    exact .unknown serves unknown
  · rename_i decode known
    split at handled
    · rename_i e refused
      cases handled
      exact .unreadable serves known refused
    · rename_i q read
      obtain ⟨a, asked, result⟩ := bind_eq_ok.mp handled
      cases result
      exact .question serves known read asked

theorem step_served {sh : Shell} {m : Message} {s' : Server} {out : List Outgoing}
    (stepped : (running sh).step P m = .ok (s', out)) : Served P sh m s' out := by
  cases m with
  | request r =>
    by_cases ends : r.method = "shutdown"
    · simp only [step, if_pos ends] at stepped
      cases stepped
      exact .shutdown ends
    · simp only [step, if_neg ends, bind_eq_ok] at stepped
      obtain ⟨answer, handled, result⟩ := stepped
      cases result
      exact handleRequest_served ends handled
  | notification n =>
    simp only [step, bind_eq_ok] at stepped
    obtain ⟨⟨sh', sent⟩, handled, result⟩ := stepped
    cases result
    unfold handleNotification at handled
    split at handled
    · rename_i untold
      cases handled
      exact .noise untold
    · rename_i e told
      obtain ⟨⟨_, effects⟩, stepped, result⟩ := bind_eq_ok.mp handled
      cases result
      exact .event told stepped
  | response r =>
    cases stepped
    exact .response

theorem not_shutdown_of_decoder? {r : Request} {decode : Decoder Question}
    (known : Question.decoder? r.method = some decode) : r.method ≠ "shutdown" := by
  intro ends
  rw [ends] at known
  cases known

theorem Served.asked {sh : Shell} {r : Request} {s' : Server} {out : List Outgoing}
    {decode : Decoder Question} {q : Question} (served : Served P sh (.request r) s' out)
    (known : Question.decoder? r.method = some decode) (read : decode r.params = .ok q) :
    ∃ a, ask sh q = .ok a ∧ out = [.answer r.id a] := by
  cases served with
  | shutdown ends => exact absurd ends (not_shutdown_of_decoder? known)
  | unknown _ unknown => cases known.symm.trans unknown
  | unreadable _ known' refused =>
    cases known.symm.trans known'
    cases read.symm.trans refused
  | question _ known' read' asked =>
    cases known.symm.trans known'
    cases read.symm.trans read'
    exact ⟨_, asked, rfl⟩

theorem Served.heard {sh : Shell} {m : Message} {s' : Server} {out : List Outgoing}
    (served : Served P sh m s' out) :
    (m.event? = none ∧ (¬ m.IsShutdown → s' = running sh) ∧ ∀ n, .notice n ∉ out) ∨
      ∃ e sh' effects, m.event? = some e ∧ sh.step P e = .ok (sh', effects) ∧
        s' = running sh' ∧ out = (effects.filterMap noticeOf?).map .notice := by
  cases served with
  | shutdown ends => exact .inl ⟨rfl, fun serves => absurd ends serves, by simp⟩
  | unknown _ _ => exact .inl ⟨rfl, fun _ => rfl, by simp⟩
  | unreadable _ _ _ => exact .inl ⟨rfl, fun _ => rfl, by simp⟩
  | question _ _ _ _ => exact .inl ⟨rfl, fun _ => rfl, by simp⟩
  | event told stepped => exact .inr ⟨_, _, _, told, stepped, rfl, rfl⟩
  | noise untold => exact .inl ⟨untold, fun _ => rfl, by simp⟩
  | response => exact .inl ⟨rfl, fun _ => rfl, by simp⟩

theorem Served.running_of_serves {sh : Shell} {m : Message} {s' : Server} {out : List Outgoing}
    (served : Served P sh m s' out) (serves : ¬ m.IsShutdown) : ∃ sh', s' = running sh' := by
  rcases served.heard with ⟨-, same, -⟩ | ⟨_, sh', _, -, -, moved, -⟩
  · exact ⟨sh, same serves⟩
  · exact ⟨sh', moved⟩

theorem running_of_run {sh : Shell} {messages : List Message} {s' : Server}
    {sent : List (List Outgoing)} (serves : ∀ m ∈ messages, ¬ m.IsShutdown)
    (ran : (running sh).run P messages = .ok (s', sent)) : ∃ sh', s' = running sh' := by
  refine run_invariant (fun s => ∃ sh', s = running sh') ?_ ⟨sh, rfl⟩ ran
  rintro m mem _ s' out ⟨sh', rfl⟩ stepped
  exact (step_served stepped).running_of_serves (serves m mem)

theorem Served.session {s : Session} {m : Message} {s' : Server} {out : List Outgoing}
    (served : Served P (.active s) m s' out) :
    (m.event? = none ∧ (¬ m.IsShutdown → s' = running (.active s)) ∧ ∀ n, .notice n ∉ out) ∨
      ∃ e t effects, m.event? = some e ∧ s.step P e = .ok (t, effects) ∧
        s' = running (.active t) ∧ out = (effects.filterMap noticeOf?).map .notice := by
  rcases served.heard with silent | ⟨e, sh', effects, told, stepped, moved, sent⟩
  · exact .inl silent
  · obtain ⟨⟨t, effects⟩, stepped, result⟩ := bind_eq_ok.mp stepped
    cases result
    exact .inr ⟨e, t, effects, told, stepped, moved, sent⟩

theorem session_of_run {s : Session} {messages : List Message} {s' : Server}
    {sent : List (List Outgoing)} (serves : ∀ m ∈ messages, ¬ m.IsShutdown)
    (ran : (running (.active s)).run P messages = .ok (s', sent)) :
    ∃ t effects, s' = running (.active t) ∧
      s.run P (messages.filterMap Message.event?) = .ok (t, effects) := by
  induction messages generalizing s sent with
  | nil =>
    cases ran
    exact ⟨s, [], rfl, rfl⟩
  | cons m rest ih =>
    obtain ⟨middle, _, _, stepped, others, rfl⟩ := run_cons_ok.mp ran
    have later : ∀ m ∈ rest, ¬ m.IsShutdown := fun m mem => serves m (List.mem_cons_of_mem _ mem)
    rcases (step_served stepped).session with
      ⟨untold, same, -⟩ | ⟨e, t, effects, told, heard, rfl, -⟩
    · rw [List.filterMap_cons_none untold]
      rw [same (serves m List.mem_cons_self)] at others
      exact ih later others
    · obtain ⟨u, more, last, ran⟩ := ih later others
      rw [List.filterMap_cons_some told]
      exact ⟨u, effects ++ more, last,
        Session.run_cons_ok.mpr ⟨t, effects, more, heard, ran, rfl⟩⟩

def Stopped : Server → Prop
  | awaitingExit => True
  | ended _ => True
  | _ => False

theorem Stopped.step {s s' : Server} {m : Message} {out : List Outgoing} (stopped : s.Stopped)
    (stepped : s.step P m = .ok (s', out)) : s'.Stopped ∧ out = [] := by
  cases s with
  | awaitingExit =>
    cases m with
    | notification n =>
      simp only [Server.step] at stepped
      split at stepped <;> cases stepped <;> exact ⟨trivial, rfl⟩
    | request r =>
      cases stepped
      exact ⟨trivial, rfl⟩
    | response r =>
      cases stepped
      exact ⟨trivial, rfl⟩
  | ended error =>
    cases stepped
    exact ⟨trivial, rfl⟩
  | _ => exact stopped.elim

theorem Stopped.step_ok (P : Parser) {s : Server} (stopped : s.Stopped) (m : Message) :
    ∃ s' out, s.step P m = .ok (s', out) := by
  cases s with
  | awaitingExit =>
    obtain ⟨s', out, stepped, -⟩ := step_ok_after (P := P) m
    exact ⟨s', out, stepped⟩
  | ended error => exact ⟨ended error, [], by simp only [Server.step]⟩
  | _ => exact stopped.elim

theorem Stopped.of_run {s s' : Server} {messages : List Message} {sent : List (List Outgoing)}
    (stopped : s.Stopped) (ran : s.run P messages = .ok (s', sent)) : s'.Stopped :=
  run_invariant Stopped (fun _ _ _ _ _ stopped stepped => (stopped.step stepped).1) stopped ran

theorem Served.stopped {sh : Shell} {m : Message} {s' : Server} {out : List Outgoing}
    (served : Served P sh m s' out) (ends : m.IsShutdown) : s'.Stopped := by
  cases served with
  | shutdown _ => trivial
  | unknown serves _ => exact absurd ends serves
  | unreadable serves _ _ => exact absurd ends serves
  | question serves _ _ _ => exact absurd ends serves
  | event _ _ => exact ends.elim
  | noise _ => exact ends.elim
  | response => exact ends.elim

theorem stopped_of_run {sh : Shell} {messages : List Message} {s' : Server}
    {sent : List (List Outgoing)} (ran : (running sh).run P messages = .ok (s', sent))
    (ends : ∃ m ∈ messages, m.IsShutdown) : s'.Stopped := by
  induction messages generalizing sh sent with
  | nil => exact absurd ends (by simp)
  | cons m rest ih =>
    obtain ⟨_, _, _, stepped, others, -⟩ := run_cons_ok.mp ran
    by_cases now : m.IsShutdown
    · exact ((step_served stepped).stopped now).of_run others
    · obtain ⟨_, rfl⟩ := (step_served stepped).running_of_serves now
      obtain ⟨m', mem, later⟩ := ends
      rcases List.mem_cons.mp mem with rfl | mem
      · exact absurd later now
      · exact ih others ⟨m', mem, later⟩

theorem started_of_step {config : Config} {m : Message} {sh : Shell} {out : List Outgoing}
    (stepped : (awaitingInitialized config).step P m = .ok (running sh, out)) :
    (start config).1 = sh := by
  cases step_started stepped
  rfl

theorem start_eq_active {config : Config} {s : Session} (started : (start config).1 = .active s) :
    s = Session.new s.view.compiler s.policy := by
  have activated : Shell.inactive.activate config = .active s := by
    unfold start at started
    dsimp only at started
    split at started <;> exact started
  simp only [Shell.activate] at activated
  split at activated <;> cases activated
  rfl

theorem Served.active_of {sh : Shell} {m : Message} {s : Session} {out : List Outgoing}
    (served : Served P sh m (running (.active s)) out) : ∃ before, sh = .active before ∧
      (before = s ∨ ∃ e effects, before.step P e = .ok (s, effects)) := by
  rcases served.heard with ⟨-, same, -⟩ | ⟨e, sh', _, -, stepped, moved, -⟩
  · have serves : ¬ m.IsShutdown := fun ends => served.stopped ends
    cases same serves
    exact ⟨s, rfl, .inl rfl⟩
  · cases moved
    cases sh with
    | active before =>
      obtain ⟨⟨after, told⟩, stepped, result⟩ := bind_eq_ok.mp stepped
      cases result
      exact ⟨before, rfl, .inr ⟨e, _, stepped⟩⟩
    | inactive => cases stepped
    | unavailable reason => cases stepped

def Behind (P : Parser) (server : Server) : Prop :=
  ∀ s, server = running (.active s) → ∃ compiler policy events effects,
    (Session.new compiler policy).run P events = .ok (s, effects)

theorem Behind.step {server server' : Server} (behind : server.Behind P) {m : Message}
    {out : List Outgoing} (stepped : server.step P m = .ok (server', out)) :
    server'.Behind P := by
  rintro s rfl
  cases server with
  | awaitingInitialize base => cases step_greeted stepped
  | awaitingInitialized config =>
    have fresh := start_eq_active (started_of_step stepped)
    exact ⟨s.view.compiler, s.policy, [], [], by rw [← fresh]; rfl⟩
  | running sh =>
    obtain ⟨before, rfl, moved⟩ := (step_served stepped).active_of
    obtain ⟨compiler, policy, events, sent, ran⟩ := behind before rfl
    rcases moved with rfl | ⟨e, effects, heard⟩
    · exact ⟨compiler, policy, events, sent, ran⟩
    · exact ⟨compiler, policy, events ++ [e], sent ++ effects,
        Session.run_snoc_ok.mpr ⟨before, sent, effects, ran, heard, rfl⟩⟩
  | awaitingExit => exact (Stopped.step (s := awaitingExit) trivial stepped).1.elim
  | ended error => exact (Stopped.step (s := ended error) trivial stepped).1.elim

theorem Behind.of_run {server server' : Server} (behind : server.Behind P)
    {messages : List Message} {sent : List (List Outgoing)}
    (ran : server.run P messages = .ok (server', sent)) : server'.Behind P :=
  run_invariant (Behind P) (fun _ _ _ _ _ behind stepped => behind.step stepped) behind ran

theorem behind_of_run {base : Config} {messages : List Message} {server : Server}
    {sent : List (List Outgoing)} (ran : (new base).run P messages = .ok (server, sent)) :
    server.Behind P := by
  have fresh : (new base).Behind P := by
    intro s served
    cases served
  exact fresh.of_run ran

def Unstarted : Server → Prop
  | awaitingInitialize _ => True
  | awaitingInitialized _ => True
  | _ => False

theorem Unstarted.not_stopped {s : Server} (unstarted : s.Unstarted) : ¬ s.Stopped := by
  intro stopped
  cases s with
  | awaitingExit => exact unstarted
  | ended error => exact unstarted
  | _ => exact stopped

theorem greeted_of_step {s s' : Server} {m : Message} {out : List Outgoing}
    (stepped : s.step P m = .ok (s', out)) (unstarted : s'.Unstarted) :
    ∃ base, s = awaitingInitialize base ∧ Greeted base m s' out := by
  cases s with
  | awaitingInitialize base => exact ⟨base, rfl, step_greeted stepped⟩
  | awaitingInitialized config => cases step_started stepped <;> exact unstarted.elim
  | running sh => cases step_served stepped <;> exact unstarted.elim
  | awaitingExit =>
    exact absurd (Stopped.step (s := awaitingExit) trivial stepped).1 unstarted.not_stopped
  | ended error =>
    exact absurd (Stopped.step (s := ended error) trivial stepped).1 unstarted.not_stopped

theorem waits_of_run {base base' : Config} {messages : List Message}
    {sent : List (List Outgoing)}
    (ran : (new base).run P messages = .ok (awaitingInitialize base', sent)) :
    base' = base ∧ (∀ m ∈ messages, m.Waits) ∧ ∀ out ∈ sent, ∀ n, .notice n ∉ out := by
  -- The server before the last message was waiting too.
  induction messages using List.reverseRecOn generalizing base' sent with
  | nil =>
    cases ran
    exact ⟨rfl, nofun, nofun⟩
  | append_singleton messages m ih =>
    obtain ⟨middle, front, out, first, stepped, rfl⟩ := run_snoc_ok.mp ran
    obtain ⟨earlier, rfl, greeted⟩ := greeted_of_step stepped trivial
    obtain ⟨waits, rfl⟩ := greeted.waits
    obtain ⟨same, all, quiet⟩ := ih first
    exact ⟨same, List.forall_mem_append.mpr ⟨all, List.forall_mem_singleton.mpr waits⟩,
      List.forall_mem_append.mpr ⟨quiet, List.forall_mem_singleton.mpr greeted.silent⟩⟩

theorem hello_of_run {base config : Config} {hello : List Message}
    {replies : List (List Outgoing)}
    (greeted : (new base).run P hello = .ok (awaitingInitialized config, replies)) :
    ∃ before r params, hello = before ++ [.request r] ∧ (∀ m ∈ before, m.Waits) ∧
      r.method = "initialize" ∧ InitializeParams.decode r.params = .ok params ∧
      config = params.configure base ∧ ∀ out ∈ replies, ∀ n, .notice n ∉ out := by
  rcases List.eq_nil_or_concat hello with rfl | ⟨before, m, rfl⟩
  · cases greeted
  · rw [List.concat_eq_append] at greeted ⊢
    obtain ⟨middle, front, out, first, stepped, rfl⟩ := run_snoc_ok.mp greeted
    obtain ⟨base', rfl, welcomed⟩ := greeted_of_step stepped trivial
    obtain ⟨rfl, waits, quiet⟩ := waits_of_run first
    obtain ⟨r, params, rfl, method, read, rfl, -⟩ := welcomed.hello
    exact ⟨before, r, params, rfl, waits, method, read, rfl,
      List.forall_mem_append.mpr ⟨quiet, List.forall_mem_singleton.mpr welcomed.silent⟩⟩

theorem run_of_greeted {base config : Config} {hello : List Message}
    {replies : List (List Outgoing)}
    (greeted : (new base).run P hello = .ok (awaitingInitialized config, replies)) (j : Json)
    {messages : List Message} {server : Server} {sent : List (List Outgoing)}
    (served : (running (start config).1).run P messages = .ok (server, sent)) :
    (new base).run P (hello ++ .notification ⟨"initialized", j⟩ :: messages) =
      .ok (server, replies ++ (start config).2 :: sent) := by
  have started : (awaitingInitialized config).step P (.notification ⟨"initialized", j⟩) =
      .ok (running (start config).1, (start config).2) := by
    simp only [step, if_true]
  have later := run_cons_ok.mpr ⟨_, _, sent, started, served, rfl⟩
  exact run_append_ok.mpr ⟨_, replies, _, greeted, later, rfl⟩

theorem serve_ok (keeps : P.KeepsToText) {base config : Config} {hello : List Message}
    {replies : List (List Outgoing)}
    (greeted : (new base).run P hello = .ok (awaitingInitialized config, replies)) (j : Json)
    (messages : List Message) : ∃ server sent,
      (new base).run P (hello ++ .notification ⟨"initialized", j⟩ :: messages) =
        .ok (server, replies ++ (start config).2 :: sent) ∧
      (running (start config).1).run P messages = .ok (server, sent) := by
  obtain ⟨server, sent, served, -⟩ :=
    (sound_running (start_sound P config)).run_ok keeps messages
  exact ⟨server, sent, run_of_greeted greeted j served, served⟩

def plainHello : Message := .request ⟨.number 1, "initialize", .obj [("capabilities", .obj [])]⟩

theorem plainHello_greets (P : Parser) (config : Config) : (new config).run P [plainHello] =
    .ok (awaitingInitialized config, [[.answer (.number 1) .capabilities]]) := rfl

end Server

end SyntaxPanel
