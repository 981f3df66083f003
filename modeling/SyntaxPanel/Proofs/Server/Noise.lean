import SyntaxPanel.Proofs.Server.Serving

namespace SyntaxPanel

/-- A request other than the shutdown, a response, or a notification that is not handled or whose
parameters cannot be read. -/
def Message.IsNoise : Message → Prop
  | request r => r.method ≠ "shutdown"
  | response _ => True
  | notification n =>
    ∀ decode, Event.decoders.lookup n.method = some decode → ∃ e, decode n.params = .error e

theorem Message.isNoise_iff {m : Message} : m.IsNoise ↔ m.event? = none ∧ ¬ m.IsShutdown := by
  cases m with
  | request r => exact ⟨fun noise => ⟨rfl, noise⟩, fun silent => silent.2⟩
  | response r => exact ⟨fun _ => ⟨rfl, id⟩, fun _ => trivial⟩
  | notification n =>
    simp only [IsNoise, event?, Event.ofNotification?, IsShutdown, not_false_eq_true, and_true]
    cases Event.decoders.lookup n.method with
    | none => exact ⟨fun _ => rfl, fun _ => nofun⟩
    | some decode =>
      cases read : decode n.params with
      | error e =>
        refine ⟨fun _ => by simp only [read, Except.toOption], ?_⟩
        rintro _ _ ⟨⟩
        exact ⟨e, read⟩
      | ok event =>
        constructor
        · intro noise
          obtain ⟨e, refused⟩ := noise decode rfl
          cases read.symm.trans refused
        · intro untold
          simp only [read, Except.toOption] at untold
          cases untold

def kept {α : Type} : List Bool → List α → List α
  | true :: marks, a :: rest => a :: kept marks rest
  | false :: marks, _ :: rest => kept marks rest
  | _, _ => []

namespace Server

variable {P : Parser}

theorem Served.idle {sh : Shell} {m : Message} {s' : Server} {out : List Outgoing}
    (served : Served P sh m s' out) (noise : m.IsNoise) : s' = running sh := by
  obtain ⟨untold, serves⟩ := Message.isNoise_iff.mp noise
  rcases served.heard with ⟨-, same, -⟩ | ⟨e, _, _, told, -⟩
  · exact same serves
  · cases told.symm.trans untold

/-- As long as messages that are left out would leave the server as it is, all others find it as
they would have found it. -/
theorem run_kept (holds : Server → Prop) {messages : List Message} {marks : List Bool}
    {s s' : Server} {sent : List (List Outgoing)} (size : marks.length = messages.length)
    (stays : ∀ m ∈ messages, ∀ s s' out, holds s → s.step P m = .ok (s', out) → holds s')
    (idle : ∀ m, (m, false) ∈ messages.zip marks →
      ∀ s s' out, holds s → s.step P m = .ok (s', out) → s' = s)
    (initial : holds s) (ran : s.run P messages = .ok (s', sent)) :
    s.run P (kept marks messages) = .ok (s', kept marks sent) := by
  induction messages generalizing marks s sent with
  | nil =>
    cases ran
    obtain rfl := List.eq_nil_of_length_eq_zero size
    rfl
  | cons m rest ih =>
    obtain ⟨middle, out, later, stepped, others, rfl⟩ := run_cons_ok.mp ran
    obtain ⟨mark, marks, rfl⟩ := List.exists_cons_of_length_eq_add_one size
    have next := stays m List.mem_cons_self s middle out initial stepped
    have left := ih (by simpa using size) (fun m mem => stays m (List.mem_cons_of_mem _ mem))
      (fun m mem => idle m (List.mem_cons_of_mem _ mem)) next others
    cases mark with
    | true => exact run_cons_ok.mpr ⟨middle, out, _, stepped, left, rfl⟩
    | false =>
      have same := idle m List.mem_cons_self s middle out initial stepped
      rwa [same] at left

/-- Between the handshake and the shutdown any noise may be left out. What is sent because of each
message that remains is the same, and so is all that comes after them. -/
theorem noise_unheard (keeps : P.KeepsToText) {base config : Config} {hello : List Message}
    {replies : List (List Outgoing)}
    (greeted : (new base).run P hello = .ok (awaitingInitialized config, replies)) (j : Json)
    {between : List Message} (serves : ∀ m ∈ between, ¬ m.IsShutdown) {marks : List Bool}
    (size : marks.length = between.length)
    (noise : ∀ m, (m, false) ∈ between.zip marks → m.IsNoise) (rest : List Message) :
    ∃ server told sent back,
      (new base).run P (hello ++ .notification ⟨"initialized", j⟩ :: (between ++ rest)) =
        .ok (server, replies ++ told :: (sent ++ back)) ∧
      sent.length = between.length ∧
      (new base).run P
          (hello ++ .notification ⟨"initialized", j⟩ :: (kept marks between ++ rest)) =
        .ok (server, replies ++ told :: (kept marks sent ++ back)) := by
  obtain ⟨server, all, ran, served⟩ := serve_ok keeps greeted j (between ++ rest)
  obtain ⟨middle, sent, back, first, last, rfl⟩ := run_append_ok.mp served
  have left : (running (start config).1).run P (kept marks between) =
      .ok (middle, kept marks sent) := by
    refine run_kept (fun s => ∃ sh, s = running sh) size ?_ ?_ ⟨_, rfl⟩ first
    · rintro m mem _ s' out ⟨sh, rfl⟩ stepped
      exact (step_served stepped).running_of_serves (serves m mem)
    · rintro m mem _ s' out ⟨sh, rfl⟩ stepped
      exact (step_served stepped).idle (noise m mem)
  have served' := run_append_ok.mpr ⟨middle, _, back, left, last, rfl⟩
  exact ⟨server, (start config).2, sent, back, ran, length_of_run first,
    run_of_greeted greeted j served'⟩

def chattering : List Message :=
  let uri := Json.str "file:///a.ts"
  [.notification ⟨"textDocument/didOpen", .obj [("textDocument", .obj [
      ("languageId", .str "typescript"), ("text", .str "é"), ("uri", uri), ("version", .int 1)])]⟩,
    .request ⟨.number 2, "astview/children", .obj []⟩,
    .notification ⟨"astview/activeEditorChanged", .obj [("uri", uri)]⟩,
    .notification ⟨"exit", .null⟩,
    .notification ⟨"astview/visibilityChanged", .obj [("visible", .int 0)]⟩,
    .response ⟨.number 2, none, none⟩,
    .notification ⟨"astview/visibilityChanged", .obj [("visible", .bool true)]⟩]

theorem noise_unheard_chattering : accents.KeepsToText ∧ ∃ server told sent back,
    (new {}).run accents (plainHello :: .notification ⟨"initialized", .null⟩ :: chattering) =
      .ok (server, [.answer (.number 1) .capabilities] :: told :: (sent ++ back)) ∧
    (new {}).run accents
        (plainHello :: .notification ⟨"initialized", .null⟩ ::
          kept [true, false, true, false, false, false, true] chattering) =
      .ok (server, [.answer (.number 1) .capabilities] :: told ::
        (kept [true, false, true, false, false, false, true] sent ++ back)) := by
  have keeps : accents.KeepsToText := Parser.ofTable_keepsToText (by decide +kernel)
  have serves : ∀ m ∈ chattering, ¬ m.IsShutdown := by decide
  have silent : ∀ p ∈ chattering.zip [true, false, true, false, false, false, true],
      p.2 = false → p.1.event? = none ∧ ¬ p.1.IsShutdown := by decide +kernel
  obtain ⟨server, told, sent, back, ran, -, left⟩ :=
    noise_unheard keeps (plainHello_greets _ _) .null serves rfl
      (fun m mem => Message.isNoise_iff.mpr (silent _ mem rfl)) []
  rw [List.append_nil] at ran left
  exact ⟨keeps, server, told, sent, back, ran, left⟩

end Server

end SyntaxPanel
