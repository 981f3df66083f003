import SyntaxPanel.Proofs.Server.Rows

namespace SyntaxPanel

def Message.Waits : Message → Prop
  | request r => r.method ≠ "initialize"
  | notification n => n.method ≠ "exit"
  | response _ => False

namespace Server

variable {P : Parser}

inductive Greeted (base : Config) : Message → Server → List Outgoing → Prop where
  | early {r : Request} (other : r.method ≠ "initialize") :
      Greeted base (.request r) (awaitingInitialize base) [.refusal r.id (.notInitialized r)]
  | misread {r : Request} {e : DecodeError} (hello : r.method = "initialize")
      (refused : InitializeParams.decode r.params = .error e) :
      Greeted base (.request r) (ended (some (.invalidInitialize e r.params))) []
  | welcomed {r : Request} {params : InitializeParams} (hello : r.method = "initialize")
      (read : InitializeParams.decode r.params = .ok params) :
      Greeted base (.request r) (awaitingInitialized (params.configure base))
        [.answer r.id .capabilities]
  | ignored {n : Notification} (stays : n.method ≠ "exit") :
      Greeted base (.notification n) (awaitingInitialize base) []
  | left {n : Notification} (exits : n.method = "exit") :
      Greeted base (.notification n) (ended (some (.notInitialize (.notification n)))) []
  | unasked {r : Response} :
      Greeted base (.response r) (ended (some (.notInitialize (.response r)))) []

theorem step_greeted {base : Config} {m : Message} {s' : Server} {out : List Outgoing}
    (stepped : (awaitingInitialize base).step P m = .ok (s', out)) : Greeted base m s' out := by
  cases m with
  | request r =>
    simp only [step] at stepped
    split at stepped
    · rename_i hello
      unfold handleInitialize at stepped
      split at stepped
      · rename_i e refused
        cases stepped
        exact .misread hello refused
      · rename_i params read
        cases stepped
        exact .welcomed hello read
    · rename_i other
      cases stepped
      exact .early other
  | notification n =>
    simp only [step] at stepped
    split at stepped
    · rename_i exits
      cases stepped
      exact .left exits
    · rename_i stays
      cases stepped
      exact .ignored stays
  | response r =>
    cases stepped
    exact .unasked

theorem Greeted.silent {base : Config} {m : Message} {s' : Server} {out : List Outgoing}
    (greeted : Greeted base m s' out) (n : Notice) : .notice n ∉ out := by
  cases greeted <;> simp

theorem Greeted.waits {base base' : Config} {m : Message} {out : List Outgoing}
    (greeted : Greeted base m (awaitingInitialize base') out) : m.Waits ∧ base' = base := by
  cases greeted with
  | early other => exact ⟨other, rfl⟩
  | ignored stays => exact ⟨stays, rfl⟩

theorem Greeted.hello {base config : Config} {m : Message} {out : List Outgoing}
    (greeted : Greeted base m (awaitingInitialized config) out) :
    ∃ r params, m = .request r ∧ r.method = "initialize" ∧
      InitializeParams.decode r.params = .ok params ∧ config = params.configure base ∧
      out = [.answer r.id .capabilities] := by
  cases greeted with
  | welcomed hello read => exact ⟨_, _, rfl, hello, read, rfl, rfl⟩

inductive Started (config : Config) : Message → Server → List Outgoing → Prop where
  | initialized {n : Notification} (done : n.method = "initialized") :
      Started config (.notification n) (running (start config).1) (start config).2
  | broken {m : Message} : Started config m (ended (some (.notInitialized m))) []

theorem step_started {config : Config} {m : Message} {s' : Server} {out : List Outgoing}
    (stepped : (awaitingInitialized config).step P m = .ok (s', out)) :
    Started config m s' out := by
  cases m with
  | notification n =>
    simp only [step] at stepped
    split at stepped
    · rename_i done
      cases stepped
      exact .initialized done
    · cases stepped
      exact .broken
  | request r =>
    cases stepped
    exact .broken
  | response r =>
    cases stepped
    exact .broken

end Server

end SyntaxPanel
