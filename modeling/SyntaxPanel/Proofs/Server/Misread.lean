import SyntaxPanel.Proofs.Server.Responses

namespace SyntaxPanel.Server

inductive Misread : Server → Request → Prop where
  | hello {base : Config} {r : Request} {e : DecodeError} (method : r.method = "initialize")
      (refused : InitializeParams.decode r.params = .error e) : Misread (awaitingInitialize base) r
  | question {sh : Shell} {r : Request} {decode : Decoder Question} {e : DecodeError}
      (known : Question.decoder? r.method = some decode) (refused : decode r.params = .error e) :
      Misread (running sh) r

variable {P : Parser} {s s' : Server} {r : Request} {out : List Outgoing}

theorem refused_of_misread {sh : Shell} (stepped : (running sh).step P (.request r) = .ok (s', out))
    (misread : (running sh).Misread r) : responses out = [(r.id, .error (-32602))] := by
  cases misread with
  | question known refused =>
    obtain ⟨reply, answered, deserved⟩ := (step_served stepped).answered
    simp only [Request.Deserves, if_neg (not_shutdown_of_decoder? known), known, refused]
      at deserved
    rw [answered, deserved]

theorem ended_of_misread {base : Config}
    (stepped : (awaitingInitialize base).step P (.request r) = .ok (s', out))
    (misread : (awaitingInitialize base).Misread r) :
    ∃ e, InitializeParams.decode r.params = .error e ∧
      s' = ended (some (.invalidInitialize e r.params)) ∧ out = [] := by
  cases misread with
  | hello method refused =>
    cases step_greeted stepped with
    | misread _ refused' => exact ⟨_, refused', rfl, rfl⟩
    | early other => exact absurd method other
    | welcomed _ read => cases refused.symm.trans read

/-- Whatever a client sends, a question that is misread is answered once, under its id and with the
code for parameters that cannot be read. A hello that is misread is the first one, and it is not
answered: the connection ends with the reason, and nothing more is sent. -/
theorem misread_refused_or_ended (keeps : P.KeepsToText) (base : Config)
    (messages : List Message) :
    ∃ server sent, (new base).run P messages = .ok (server, sent) ∧
      sent.length = messages.length ∧
      ∀ before r after, messages = before ++ .request r :: after →
        ∃ middle front out, (new base).run P before = .ok (middle, front) ∧
          sent[before.length]? = some out ∧
          (middle.Misread r →
            ((∃ sh, middle = running sh) ∧ responses out = [(r.id, .error (-32602))]) ∨
            (middle = awaitingInitialize base ∧ (∀ m ∈ before, m.Waits) ∧
              (∃ e, InitializeParams.decode r.params = .error e ∧
                server = ended (some (.invalidInitialize e r.params))) ∧
              (sent.drop before.length).flatten = [])) := by
  have fresh := sound_awaitingInitialize (P := P) base
  obtain ⟨server, sent, ran, size, -⟩ := fresh.run_ok keeps messages
  refine ⟨server, sent, ran, size, ?_⟩
  rintro before r after rfl
  obtain ⟨middle, front, next, out, later, first, stepped, others, rfl⟩ := run_split ran
  refine ⟨middle, front, out, first, sent_at first out, ?_⟩
  intro misread
  cases middle with
  | running sh => exact .inl ⟨⟨sh, rfl⟩, refused_of_misread stepped misread⟩
  | awaitingInitialize base' =>
    obtain ⟨rfl, waits, -⟩ := waits_of_run first
    obtain ⟨e, refused, rfl, rfl⟩ := ended_of_misread stepped misread
    -- Nothing that comes later is looked at.
    rw [run_ended] at others
    cases others
    refine .inr ⟨rfl, waits, ⟨e, refused, rfl⟩, ?_⟩
    rw [← length_of_run first, List.drop_left, List.flatten_cons, List.nil_append,
      List.flatten_eq_nil_iff]
    intro out mem
    obtain ⟨_, -, rfl⟩ := List.mem_map.mp mem
    rfl
  | awaitingInitialized config => cases misread
  | awaitingExit => cases misread
  | ended error => cases misread

def stumbling : List Message :=
  [.request ⟨.text "a", "astview/children", .null⟩, .request ⟨.number 1, "initialize", .obj []⟩,
    plainHello]

def mistaken : List Message :=
  [plainHello, .notification ⟨"initialized", .null⟩,
    .request ⟨.number 2, "astview/describe", .obj [("node", .str "0")]⟩]

theorem misread_refused_or_ended_stumbling : (Parser.ofTable []).KeepsToText ∧
    (∃ server sent out, (new {}).run (.ofTable []) mistaken = .ok (server, sent) ∧
      sent[2]? = some out ∧ responses out = [(.number 2, .error (-32602))]) ∧
    ∃ server sent e, (new {}).run (.ofTable []) stumbling = .ok (server, sent) ∧
      server = ended (some (.invalidInitialize e (.obj []))) ∧ (sent.drop 1).flatten = [] := by
  have keeps : (Parser.ofTable []).KeepsToText := Parser.ofTable_keepsToText nofun
  refine ⟨keeps, ?_, ?_⟩
  · obtain ⟨server, sent, ran, -, each⟩ := misread_refused_or_ended keeps {} mistaken
    obtain ⟨middle, front, out, first, there, told⟩ := each (mistaken.take 2) _ [] rfl
    cases first
    rcases told (.question rfl rfl) with ⟨-, refused⟩ | ⟨impossible, -⟩
    · exact ⟨server, sent, out, ran, there, refused⟩
    · cases impossible
  · obtain ⟨server, sent, ran, -, each⟩ := misread_refused_or_ended keeps {} stumbling
    obtain ⟨middle, front, out, first, there, told⟩ := each (stumbling.take 1) _ [plainHello] rfl
    cases first
    rcases told (.hello rfl rfl) with ⟨⟨_, impossible⟩, -⟩ | ⟨-, -, ⟨e, -, last⟩, silent⟩
    · cases impossible
    · exact ⟨server, sent, e, ran, last, silent⟩

theorem misread_hello_unanswered : ¬ ∀ (base : Config) (before after : List Message) (r : Request)
    (middle server : Server) (front sent : List (List Outgoing)),
    (new base).run (.ofTable []) before = .ok (middle, front) → middle.Misread r →
    (new base).run (.ofTable []) (before ++ .request r :: after) = .ok (server, sent) →
      ∃ out, sent[before.length]? = some out ∧ responses out = [(r.id, .error (-32602))] := by
  intro answered
  have misread : (new {}).Misread ⟨.number 1, "initialize", .obj []⟩ := .hello rfl rfl
  obtain ⟨out, there, refused⟩ := answered {} [] [] _ _ _ _ _ rfl misread rfl
  cases there
  cases refused

end SyntaxPanel.Server
