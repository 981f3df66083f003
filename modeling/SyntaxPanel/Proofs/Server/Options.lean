import SyntaxPanel.Proofs.Panel.Settings
import SyntaxPanel.Proofs.Server.Serving

namespace SyntaxPanel

namespace InitializeParams

theorem decode_insert_options {before after : List (String × Json)} {others : InitializeParams}
    (read : decode (.obj (before ++ after)) = .ok others)
    (apart : ∀ j, ("initializationOptions", j) ∉ before ++ after)
    (options : List (String × Json)) :
    decode (.obj (before ++ ("initializationOptions", .obj options) :: after)) =
      .ok { others with options := some (.obj options) } := by
  simp only [decode, bind_eq_ok] at read ⊢
  obtain ⟨_, checked, _, task, processId, named, _, -, ⟨⟩⟩ := read
  refine ⟨(), Check.object_insert ?_ checked, (), Check.object_insert ?_ task, processId,
    Json.Fields.optional_insert (by decide) named, some (.obj options),
    Json.Fields.optional_inserted apart rfl, rfl⟩
  · rintro _ ⟨⟩
    rfl
  · nofun

theorem configure_of_read {p : InitializeParams} {j : Json} {o : InitializationOptions}
    (given : p.options = some j) (read : InitializationOptions.decode j = .ok o) (c : Config) :
    p.configure c = o.apply c := by
  simp only [configure, given, Option.map_some, read]

theorem configure_of_refused {p : InitializeParams} {j : Json} {e : DecodeError}
    (given : p.options = some j) (refused : InitializationOptions.decode j = .error e)
    (c : Config) : p.configure c = c := by
  simp only [configure, given, Option.map_some, refused]

end InitializeParams

namespace Server

def hello (id : RequestId) (params : List (String × Json)) : Message :=
  .request ⟨id, "initialize", .obj params⟩

theorem run_hello {P : Parser} {params : List (String × Json)} {p : InitializeParams}
    (read : InitializeParams.decode (.obj params) = .ok p) (base : Config) (id : RequestId) :
    (new base).run P [hello id params] =
      .ok (awaitingInitialized (p.configure base), [[.answer id .capabilities]]) := by
  simp only [run, new, hello, step, if_true, handleInitialize, read]
  rfl

/-- A hello that can be read without its options is answered, and the handshake goes on, whatever
object the options are. If that can be read as options, the configuration after it has exactly the
fields that are set to something, and all else is as it was; otherwise all is as it was. An object
that is a configuration of its own comes to that, from the configuration without any options. -/
theorem options_override (P : Parser) (base : Config) (id : RequestId) (done : Json)
    {before after : List (String × Json)} {others : InitializeParams}
    (wellFormed : InitializeParams.decode (.obj (before ++ after)) = .ok others)
    (apart : ∀ j, ("initializationOptions", j) ∉ before ++ after)
    (options : List (String × Json)) :
    let params := before ++ ("initializationOptions", .obj options) :: after
    ∃ c, (new base).run P [hello id params] =
        .ok (awaitingInitialized c, [[.answer id .capabilities]]) ∧
      (new base).run P [hello id params, .notification ⟨"initialized", done⟩] =
        .ok (running (start c).1, [[.answer id .capabilities], (start c).2]) ∧
      ((∃ o, InitializationOptions.decode (.obj options) = .ok o) ↔
        Legible Json.IsText options "compiler" ∧
          Legible ReparsePolicy.Written options "reparse") ∧
      ((∃ o, InitializationOptions.decode (.obj options) = .ok o) →
        Overridden Json.IsText options "compiler" base.compiler c.compiler ∧
          Overridden ReparsePolicy.Written options "reparse" base.reparse c.reparse) ∧
      ((∃ e, InitializationOptions.decode (.obj options) = .error e) → c = base) ∧
      ∀ d, Config.decode (.obj options) = .ok d → base = {} → c = d := by
  intro params
  have read := InitializeParams.decode_insert_options wellFormed apart options
  have greeted := run_hello (P := P) read base id
  refine ⟨_, greeted, run_of_greeted greeted done rfl, InitializationOptions.exists_decode_iff,
    ?_, ?_, ?_⟩
  · rintro ⟨o, told⟩
    rw [InitializeParams.configure_of_read rfl told]
    exact InitializationOptions.overridden_of_decode told base
  · rintro ⟨e, refused⟩
    exact InitializeParams.configure_of_refused rfl refused base
  · rintro d accepted rfl
    obtain ⟨o, told, rfl⟩ := Config.exists_options_of_decode accepted
    exact InitializeParams.configure_of_read rfl told {}

def ownOptions : List (String × Json) :=
  [("compiler", .str "javascript"), ("reparse", .null), ("theme", .int 1)]

def halfOptions : List (String × Json) :=
  [("compiler", .str "javascript"), ("reparse", .str "Full")]

theorem options_override_chosen :
    let before : List (String × Json) := [("capabilities", .obj [])]
    let after : List (String × Json) := [("processId", .null)]
    (∃ others, InitializeParams.decode (.obj (before ++ after)) = .ok others) ∧
    (∀ j, ("initializationOptions", j) ∉ before ++ after) ∧
    (new ⟨"flow", .full⟩).run (.ofTable [])
        [hello (.number 1) (before ++ ("initializationOptions", .obj ownOptions) :: after)] =
      .ok (awaitingInitialized ⟨"javascript", .full⟩, [[.answer (.number 1) .capabilities]]) ∧
    (new ⟨"flow", .full⟩).run (.ofTable [])
        [hello (.number 1) (before ++ ("initializationOptions", .obj halfOptions) :: after)] =
      .ok (awaitingInitialized ⟨"flow", .full⟩, [[.answer (.number 1) .capabilities]]) := by
  intro before after
  have wellFormed : InitializeParams.decode (.obj (before ++ after)) = .ok ⟨none, none⟩ := rfl
  have apart : ∀ j, ("initializationOptions", j) ∉ before ++ after := by simp [before, after]
  refine ⟨⟨_, wellFormed⟩, apart, ?_, ?_⟩
  · obtain ⟨⟨compiler, reparse⟩, greeted, -, -, set, -⟩ :=
      options_override (.ofTable []) ⟨"flow", .full⟩ (.number 1) .null wellFormed apart ownOptions
    obtain ⟨first, second⟩ := set ⟨_, rfl⟩
    cases first.set (.str "javascript") (by simp [ownOptions]) (by simp)
    cases second.kept (by simp [ownOptions])
    exact greeted
  · obtain ⟨_, greeted, -, -, -, kept, -⟩ :=
      options_override (.ofTable []) ⟨"flow", .full⟩ (.number 1) .null wellFormed apart halfOptions
    cases kept ⟨_, rfl⟩
    exact greeted

end Server

end SyntaxPanel
