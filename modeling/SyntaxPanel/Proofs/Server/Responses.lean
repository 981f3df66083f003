import SyntaxPanel.Proofs.Server.Serving
import SyntaxPanel.Server.Encode

namespace SyntaxPanel

def Outgoing.response? : Outgoing → Option (RequestId × Except Int Json)
  | answer id a => some (id, .ok a.toJson)
  | refusal id r => some (id, .error r.code)
  | notice _ => none

def responses (out : List Outgoing) : List (RequestId × Except Int Json) :=
  out.filterMap Outgoing.response?

theorem responses_notices (notices : List Notice) : responses (notices.map .notice) = [] := by
  rw [responses, List.filterMap_eq_nil_iff]
  intro o mem
  obtain ⟨n, -, rfl⟩ := List.mem_map.mp mem
  rfl

/-- Whether a reply is what a request deserves. -/
def Request.Deserves (r : Request) (reply : Except Int Json) : Prop :=
  if r.method = "shutdown" then reply = .ok .null
  else match Question.decoder? r.method with
    | none => reply = .error (-32601)
    | some decode => match decode r.params with
      | .ok _ => ∃ result, reply = .ok result
      | .error _ => reply = .error (-32602)

def Message.Answered : Message → List Outgoing → Prop
  | request r, out => ∃ reply, responses out = [(r.id, reply)] ∧ r.Deserves reply
  | _, out => responses out = []

theorem Outgoing.response?_ne_internalError (o : Outgoing) (id : RequestId) :
    o.response? ≠ some (id, .error (-32603)) := by
  cases o with
  | refusal id r => cases r <;> simp [response?, Refusal.code]
  | _ => simp [response?]

namespace Server

variable {P : Parser}

theorem Served.answered {sh : Shell} {m : Message} {s' : Server} {out : List Outgoing}
    (served : Served P sh m s' out) : m.Answered out := by
  cases served with
  | shutdown ends => exact ⟨_, rfl, by simp only [Request.Deserves, if_pos ends]; rfl⟩
  | unknown serves unknown =>
    exact ⟨_, rfl, by simp only [Request.Deserves, if_neg serves, unknown]; rfl⟩
  | unreadable serves known refused =>
    exact ⟨_, rfl, by simp only [Request.Deserves, if_neg serves, known, refused]; rfl⟩
  | question serves known read _ =>
    exact ⟨_, rfl, by simp only [Request.Deserves, if_neg serves, known, read]; exact ⟨_, rfl⟩⟩
  | event _ _ => exact responses_notices _
  | noise _ => rfl
  | response => rfl

/-- After the handshake, whatever its outcome, each message up to the shutdown is answered as it
deserves: a request once, with its id, and no other message at all. -/
theorem requests_answered (keeps : P.KeepsToText) {base config : Config} {hello : List Message}
    {replies : List (List Outgoing)}
    (greeted : (new base).run P hello = .ok (awaitingInitialized config, replies)) (j : Json)
    (messages : List Message) :
    ∃ server told sent,
      (new base).run P (hello ++ .notification ⟨"initialized", j⟩ :: messages) =
        .ok (server, replies ++ told :: sent) ∧
      sent.length = messages.length ∧
      (∀ before m after, messages = before ++ m :: after → (∀ e ∈ before, ¬ e.IsShutdown) →
        ∃ out, sent[before.length]? = some out ∧ m.Answered out) ∧
      ∀ out ∈ sent, ∀ o ∈ out, ∀ id, o.response? ≠ some (id, .error (-32603)) := by
  obtain ⟨server, sent, ran, served⟩ := serve_ok keeps greeted j messages
  refine ⟨server, _, sent, ran, length_of_run served, ?_,
    fun _ _ o _ => o.response?_ne_internalError⟩
  rintro before m after rfl serves
  obtain ⟨middle, _, _, out, first, stepped, there⟩ := run_at served
  obtain ⟨sh, rfl⟩ := running_of_run serves first
  exact ⟨out, there, (step_served stepped).answered⟩

def insisting : List Message :=
  [.request ⟨.number 2, "astview/children", .obj []⟩,
    .request ⟨.text "c", "astview/describe", .obj []⟩,
    .notification ⟨"astview/visibilityChanged", .obj [("visible", .bool true)]⟩,
    .request ⟨.number 3, "astview/children", .obj [("parent", .arr [.int (-1)])]⟩,
    .request ⟨.number 2, "initialize", .obj [("capabilities", .obj [])]⟩,
    .request ⟨.number 5, "shutdown", .null⟩]

theorem requests_answered_insisting : ∃ server told sent listed nameless noPath again done,
    (new { compiler := "none" }).run (.ofTable [])
        (plainHello :: .notification ⟨"initialized", .null⟩ :: insisting) =
      .ok (server, [.answer (.number 1) .capabilities] :: told :: sent) ∧
    sent[0]? = some listed ∧ (∃ items, responses listed = [(.number 2, .ok items)]) ∧
    sent[1]? = some nameless ∧ responses nameless = [(.text "c", .error (-32602))] ∧
    sent[3]? = some noPath ∧ responses noPath = [(.number 3, .error (-32602))] ∧
    sent[4]? = some again ∧ responses again = [(.number 2, .error (-32601))] ∧
    sent[5]? = some done ∧ responses done = [(.number 5, .ok .null)] := by
  have keeps : (Parser.ofTable []).KeepsToText := Parser.ofTable_keepsToText nofun
  obtain ⟨server, told, sent, ran, -, answered, -⟩ :=
    requests_answered keeps (plainHello_greets _ _) .null insisting
  obtain ⟨listed, at_listed, _, shown, result, rfl⟩ := answered [] _ (insisting.drop 1) rfl nofun
  obtain ⟨nameless, at_nameless, _, refused, rfl⟩ :=
    answered (insisting.take 1) _ (insisting.drop 2) rfl (by decide)
  obtain ⟨noPath, at_noPath, _, refused', rfl⟩ :=
    answered (insisting.take 3) _ (insisting.drop 4) rfl (by decide)
  obtain ⟨again, at_again, _, denied, rfl⟩ :=
    answered (insisting.take 4) _ (insisting.drop 5) rfl (by decide)
  obtain ⟨done, at_done, _, finished, rfl⟩ := answered (insisting.take 5) _ [] rfl (by decide)
  exact ⟨server, told, sent, listed, nameless, noPath, again, done, ran, at_listed,
    ⟨result, shown⟩, at_nameless, refused, at_noPath, refused', at_again, denied, at_done,
    finished⟩

end Server

end SyntaxPanel
