import SlackCourier.Proofs.Stages

/-!
# What is seen of a command

From outside a command is seen by its calls and what is sent for them, by what it
prints and by how it ends. Of the stages of a command few are seen: everything in front
of the call is quiet, so that the calls are the one that the command has
(`World.calls_staged`), what is sent is what the service sends for it
(`World.requests_staged`), and the end and the output are those of telling the reply
(`World.result_staged`, `World.printed_staged`).

* `World.execute_staged`: carrying out a command is going through its stages, and
  what is seen of it follows (`Outcome.Staged`): the first stage that fails is the
  one that is reported, nothing is read without a credential, nobody is called
  without a body, and with both there is exactly one call, whatever comes of it
  and of printing where the file is.
-/

namespace SlackCourier

/-! ## Quiet events -/

/-- Whether an event is neither a call nor a request nor something that is printed. -/
def Event.isQuiet : Event → Bool
  | .called _ => false
  | .requested _ => false
  | .printed _ => false
  | _ => true

namespace Trace

/-- The input and the files that were read. -/
def reads (trace : Trace) : Trace :=
  trace.filter fun
    | .inputRead => true
    | .fileRead _ => true
    | _ => false

theorem calls_append (trace trace' : Trace) :
    calls (trace ++ trace') = trace.calls ++ trace'.calls :=
  List.filterMap_append

theorem requests_append (trace trace' : Trace) :
    requests (trace ++ trace') = trace.requests ++ trace'.requests :=
  List.filterMap_append

theorem printed_append (trace trace' : Trace) :
    printed (trace ++ trace') = trace.printed ++ trace'.printed :=
  List.flatMap_append

theorem printed_singleton (octets : Octets) : printed [.printed octets] = octets :=
  List.append_nil octets

variable {trace : Trace}

theorem calls_of_quiet (h : ∀ event ∈ trace, event.isQuiet) : trace.calls = [] := by
  rw [calls, List.filterMap_eq_nil_iff]
  intro event he
  cases event with
  | called call => exact absurd (h _ he) Bool.false_ne_true
  | _ => rfl

theorem requests_of_quiet (h : ∀ event ∈ trace, event.isQuiet) : trace.requests = [] := by
  rw [requests, List.filterMap_eq_nil_iff]
  intro event he
  cases event with
  | requested request => exact absurd (h _ he) Bool.false_ne_true
  | _ => rfl

theorem printed_of_quiet (h : ∀ event ∈ trace, event.isQuiet) : trace.printed = [] := by
  rw [printed, List.flatMap_eq_nil_iff]
  intro event he
  cases event with
  | printed octets => exact absurd (h _ he) Bool.false_ne_true
  | _ => rfl

end Trace

namespace Exchange

theorem calls_events (exchange : Exchange) : exchange.events.calls = [] := by
  simp [events, Trace.calls, List.filterMap_append]

/-- Of what is done about a call only its requests are seen. -/
theorem requests_events (exchange : Exchange) : exchange.events.requests = exchange.requests := by
  have hl (records : List LogRecord) : Trace.requests (records.map .logged) = [] :=
    Trace.requests_of_quiet (by simp [Event.isQuiet])
  have hr : Trace.requests (exchange.requests.map .requested) = exchange.requests := by
    rw [Trace.requests, List.filterMap_map]
    exact List.filterMap_some
  rw [events, Trace.requests_append, Trace.requests_append, hl, hl, hr, List.nil_append,
    List.append_nil]

theorem printed_events (exchange : Exchange) : exchange.events.printed = [] := by
  simp [events, Trace.printed, List.flatMap_append]

end Exchange

theorem World.isQuiet_of_mem_readings (world : World) (command : Command) :
    ∀ event ∈ world.readings command, event.isQuiet := by
  intro event he
  cases command with
  | send draft =>
    simp only [readings, Draft.readings] at he
    split at he
    · cases he
    · split at he
      · simp only [List.mem_cons, List.not_mem_nil, or_false] at he
        obtain rfl | rfl := he <;> rfl
      · cases he
  | upload channel path comment thread =>
    rw [readings, FileStore.readings, List.mem_append, List.mem_cons, List.mem_map] at he
    obtain (rfl | ⟨_, _, rfl⟩) | he := he
    · rfl
    · rfl
    · -- A file that was loaded is logged.
      split at he
      · rw [List.mem_singleton.mp he]
        rfl
      · cases he

/-! ## Printing -/

namespace Sink

theorem events_print (sink : Sink) (text : String) :
    (sink.print text).events = [.printed (sink.shown text)] := by
  rw [print, Run.events_bind_of_idle]
  · rfl
  · intro _
    split <;> rfl

theorem result_print (sink : Sink) (text : String) :
    (sink.print text).result =
      match sink.fault? text with
      | none => .ok ()
      | some reason => .error (.output reason) := by
  rw [print, Run.did_bind]
  cases sink.fault? text <;> rfl

/-- What is seen of a text is a front of its octets. -/
theorem shown_isFront (sink : Sink) (text : String) :
    sink.shown text <+: Octets.ofText text := by
  cases sink with
  | working => exact List.prefix_rfl
  | limited room reason => exact List.take_prefix ..

/-- A text that can be printed is seen as a whole. -/
theorem shown_of_fault?_eq_none {sink : Sink} {text : String} (h : sink.fault? text = none) :
    sink.shown text = Octets.ofText text := by
  cases sink with
  | working => rfl
  | limited room reason =>
    have hr : (Octets.ofText text).length ≤ room := by simpa [fault?] using h
    rw [shown, List.take_of_length_le hr]

end Sink

/-! ## Confirmations -/

namespace Envelope

/-- Whether the reply says under which link its file is found. -/
def Links (envelope : Envelope) (link : String) : Prop :=
  ∃ file, Members.value? "file" envelope.data = some file ∧
    file.member? "permalink" = some (.text link)

theorem permalink?_eq_some_iff {envelope : Envelope} {link : String} :
    envelope.permalink? = some link ↔ envelope.Links link := by
  simp only [permalink?, Links, Option.bind_eq_bind, Option.bind_eq_some_iff]
  constructor
  · rintro ⟨file, hf, value, hv, ht⟩
    cases value with
    | text text => exact ⟨file, hf, by rw [hv, Option.some.inj ht]⟩
    | _ => cases ht
  · rintro ⟨file, hf, hv⟩
    exact ⟨file, hf, _, hv, rfl⟩

/-- Whether a text is what an upload with this reply is to print. -/
def Confirms (envelope : Envelope) (text : String) : Prop :=
  (∃ link, envelope.Links link ∧ text = "File uploaded: " ++ link ++ "\n") ∨
    (∀ link, ¬ envelope.Links link) ∧ text = "File uploaded (no permalink returned)\n"

theorem confirms_iff {envelope : Envelope} {text : String} :
    envelope.Confirms text ↔ text = World.confirmation envelope := by
  rw [Confirms, World.confirmation]
  cases h : envelope.permalink? with
  | some link =>
    constructor
    · rintro (⟨link', hl, rfl⟩ | ⟨hl, -⟩)
      · rw [← permalink?_eq_some_iff, h] at hl
        rw [Option.some.inj hl]
      · exact absurd (permalink?_eq_some_iff.mp h) (hl link)
    · rintro rfl
      exact .inl ⟨link, permalink?_eq_some_iff.mp h, rfl⟩
  | none =>
    have hn : ∀ link, ¬ envelope.Links link := fun link hl => by
      rw [permalink?_eq_some_iff.mpr hl] at h
      cases h
    constructor
    · rintro (⟨link, hl, -⟩ | ⟨-, rfl⟩)
      · exact absurd hl (hn link)
      · rfl
    · rintro rfl
      exact .inr ⟨hn, rfl⟩

end Envelope

/-! ## The stages from outside -/

namespace World

/-- The call that a command makes, or why it makes none. -/
def call (world : World) (command : Command) : Except Failure Call := do
  let credential ← world.credential
  let body ← world.body command
  pure ⟨world.endpoint command, credential, body⟩

/-- A command calls with the credential that it has. -/
theorem credential_of_call {world : World} {command : Command} {call : Call}
    (h : world.call command = .ok call) : world.credential = .ok call.credential := by
  obtain ⟨credential, hc, h⟩ := bind_eq_ok_iff.mp h
  obtain ⟨body, -, h⟩ := bind_eq_ok_iff.mp h
  cases h
  exact hc

/-- The reply that a command gets, or why it gets none. -/
def reply (world : World) (command : Command) : Except Failure Envelope := do
  let call ← world.call command
  (world.service call).result

/-- What is told of the reply that a command gets. -/
def told (world : World) (command : Command) : Run Trouble Unit :=
  match world.reply command with
  | .error failure => ⟨[], .error (.failure failure)⟩
  | .ok envelope => world.confirm envelope command

/-- To tell of a reply nobody is called, and nothing is sent. -/
theorem events_told (world : World) (command : Command) :
    ∃ octets, (world.told command).events = [] ∨
      (world.told command).events = [.printed octets] := by
  rw [told]
  cases world.reply command with
  | error failure => exact ⟨[], .inl rfl⟩
  | ok envelope =>
    cases command with
    | send draft => exact ⟨[], .inl rfl⟩
    | upload channel path comment thread => exact ⟨_, .inr (Sink.events_print ..)⟩

theorem calls_told (world : World) (command : Command) :
    (world.told command).events.calls = [] := by
  obtain ⟨octets, ht | ht⟩ := world.events_told command
  · rw [ht]
    rfl
  · rw [ht]
    rfl

theorem requests_told (world : World) (command : Command) :
    (world.told command).events.requests = [] := by
  obtain ⟨octets, ht | ht⟩ := world.events_told command
  · rw [ht]
    rfl
  · rw [ht]
    rfl

/-- Up to the call nothing is seen of a command. -/
theorem isQuiet_of_mem_prepared (world : World) (command : Command) :
    ∀ event ∈ command.announcement :: world.readings command, event.isQuiet := by
  intro event he
  obtain rfl | he := List.mem_cons.mp he
  · rfl
  · exact world.isQuiet_of_mem_readings command event he

variable {world : World} {command : Command}

/-- Without a call nothing is seen of a command but why. -/
theorem staged_of_call_error {failure : Failure} (h : world.call command = .error failure) :
    (∀ event ∈ (world.staged command).events, event.isQuiet) ∧
      (world.staged command).result = .error (.failure failure) := by
  rw [staged]
  cases hc : world.credential with
  | error failure' =>
    simp only [call, hc] at h
    cases h
    exact ⟨fun event he => by rw [List.mem_singleton.mp he]; rfl, rfl⟩
  | ok credential =>
    cases hb : world.body command with
    | error failure' =>
      simp only [call, hc, hb] at h
      cases h
      exact ⟨isQuiet_of_mem_prepared world command, rfl⟩
    | ok body =>
      simp only [call, hc, hb] at h
      cases h

theorem told_of_call_error {failure : Failure} (h : world.call command = .error failure) :
    world.told command = ⟨[], .error (.failure failure)⟩ := by
  rw [told, reply, h]
  rfl

theorem told_of_upload {channel path : String} {comment thread : Option String}
    {envelope : Envelope} (hc : command = .upload channel path comment thread)
    (h : world.reply command = .ok envelope) :
    world.told command = world.output.print (confirmation envelope) := by
  rw [told, h, hc]
  rfl

/-- With a call nothing else is seen of a command than the call, what comes of it and
    what is told of its reply. -/
theorem staged_of_call_ok {call : Call} (h : world.call command = .ok call) :
    ∃ prepared completed : Trace,
      (∀ event ∈ prepared, event.isQuiet) ∧ (∀ event ∈ completed, event.isQuiet) ∧
      world.staged command =
        ⟨prepared ++ .called call ::
            ((world.service call).events ++ (completed ++ (world.told command).events)),
          (world.told command).result⟩ := by
  cases hc : world.credential with
  | error failure =>
    simp only [World.call, hc] at h
    cases h
  | ok credential =>
    cases hb : world.body command with
    | error failure =>
      simp only [World.call, hc, hb] at h
      cases h
    | ok body =>
      have hr : world.reply command = (world.service call).result := by
        rw [reply, h]
        rfl
      simp only [World.call, hc, hb] at h
      cases h
      rw [staged, told, hc, hr]
      simp only [hb]
      cases (world.service ⟨world.endpoint command, credential, body⟩).result with
      | error failure =>
        refine ⟨_, [], isQuiet_of_mem_prepared world command, nofun, ?_⟩
        simp only [List.append_nil]
      | ok envelope =>
        -- That there is a reply is logged before anything is told of it.
        refine ⟨_, [command.completion envelope], isQuiet_of_mem_prepared world command, ?_, ?_⟩
        · intro event he
          rw [List.mem_singleton.mp he]
          cases command <;> rfl
        · simp only [List.append_assoc, List.cons_append, List.nil_append]

/-- A command makes the call that it has, and no other. -/
theorem calls_staged (world : World) (command : Command) :
    (world.staged command).events.calls = (world.call command).toOption.toList := by
  cases h : world.call command with
  | error failure => exact Trace.calls_of_quiet (staged_of_call_error h).1
  | ok call =>
    obtain ⟨prepared, completed, hp, hc, hs⟩ := staged_of_call_ok h
    rw [hs, Trace.calls_append, Trace.calls_of_quiet hp]
    show [] ++ call :: Trace.calls (_ ++ (completed ++ _)) = [call]
    rw [Trace.calls_append, Trace.calls_append, Exchange.calls_events, Trace.calls_of_quiet hc,
      calls_told]
    rfl

/-- What is sent is what the service sends for this call. -/
theorem requests_staged (world : World) (command : Command) :
    (world.staged command).events.requests =
      (world.call command).toOption.elim [] fun call => (world.service call).requests := by
  cases h : world.call command with
  | error failure => exact Trace.requests_of_quiet (staged_of_call_error h).1
  | ok call =>
    obtain ⟨prepared, completed, hp, hc, hs⟩ := staged_of_call_ok h
    rw [hs, Trace.requests_append, Trace.requests_of_quiet hp]
    show [] ++ Trace.requests (_ ++ (completed ++ _)) = _
    rw [Trace.requests_append, Trace.requests_append, Exchange.requests_events,
      Trace.requests_of_quiet hc, requests_told, List.nil_append, List.nil_append,
      List.append_nil]
    rfl

/-- Only what is told of the reply is printed. -/
theorem printed_staged (world : World) (command : Command) :
    (world.staged command).events.printed = (world.told command).events.printed := by
  cases h : world.call command with
  | error failure =>
    rw [Trace.printed_of_quiet (staged_of_call_error h).1, told_of_call_error h]
    rfl
  | ok call =>
    obtain ⟨prepared, completed, hp, hc, hs⟩ := staged_of_call_ok h
    rw [hs, Trace.printed_append, Trace.printed_of_quiet hp, List.nil_append]
    show Trace.printed (_ ++ (completed ++ _)) = _
    rw [Trace.printed_append, Trace.printed_append, Exchange.printed_events,
      Trace.printed_of_quiet hc, List.nil_append, List.nil_append]

/-- A command ends as the telling of its reply ends. -/
theorem result_staged (world : World) (command : Command) :
    (world.staged command).result = (world.told command).result := by
  cases h : world.call command with
  | error failure => rw [(staged_of_call_error h).2, told_of_call_error h]
  | ok call =>
    obtain ⟨prepared, completed, -, -, hs⟩ := staged_of_call_ok h
    rw [hs]

end World

/-! ## Outcomes -/

/-- What a command comes to, seen from outside: how it ends, what is printed, who
    is called and what is read. -/
structure Outcome.Staged (world : World) (diagnostics : Sink) (command : Command)
    (outcome : Outcome) : Prop where
  /-- Nothing is read without a credential. -/
  unread : ∀ failure, world.credential = .error failure → outcome.trace.reads = []
  /-- Nobody is called without a credential and a body. -/
  uncalled : ∀ failure, world.call command = .error failure → outcome.trace.calls = []
  /-- With both there is one call, whatever comes of it. -/
  called : ∀ call, world.call command = .ok call → outcome.trace.calls = [call]
  /-- The first failure up to the reply is the trouble. -/
  failed : ∀ failure, world.reply command = .error failure →
    outcome.trouble = some (.failure failure) ∧ outcome.output = []
  /-- A message that is posted ends the run well, and nothing is printed. -/
  posted : ∀ draft envelope, command = .send draft → world.reply command = .ok envelope →
    outcome.trouble = none ∧ outcome.output = []
  /-- A file that is shared is confirmed, if the output takes it. -/
  confirmed : ∀ channel path comment thread envelope text,
    command = .upload channel path comment thread → world.reply command = .ok envelope →
    envelope.Confirms text → world.output.fault? text = none →
    outcome.trouble = none ∧ outcome.output = Octets.ofText text
  /-- Else the output is the trouble, and it has a front of the confirmation's octets. -/
  interrupted : ∀ channel path comment thread envelope text reason,
    command = .upload channel path comment thread → world.reply command = .ok envelope →
    envelope.Confirms text → world.output.fault? text = some reason →
    outcome.trouble = some (.output reason) ∧ outcome.output <+: Octets.ofText text
  /-- The exit code tells whether there is trouble, also if it cannot be reported. -/
  exitCode : outcome.exitCode = if outcome.trouble = none then 0 else 1
  /-- What there is room for of the report is on the diagnostics. -/
  reported : outcome.diagnostics =
    outcome.trouble.elim [] fun trouble => diagnostics.shown ("Error: " ++ trouble.chain ++ "\n")

namespace Outcome

theorem trouble_ofRun (diagnostics : Sink) (run : Run Trouble Unit) :
    (ofRun diagnostics run).trouble =
      match run.result with
      | .ok () => none
      | .error trouble => some trouble := rfl

/-- The outcome of the stages is what it should be. -/
theorem staged_ofRun (world : World) (diagnostics : Sink) (command : Command) :
    Staged world diagnostics command (ofRun diagnostics (world.staged command)) where
  unread failure h := by
    dsimp only [ofRun]
    rw [World.staged, h]
    rfl
  uncalled failure h := by
    dsimp only [ofRun]
    rw [World.calls_staged, h]
    rfl
  called call h := by
    dsimp only [ofRun]
    rw [World.calls_staged, h]
    rfl
  failed failure h := by
    have ht : world.told command = ⟨[], .error (.failure failure)⟩ := by
      rw [World.told, h]
    constructor
    · rw [trouble_ofRun, World.result_staged, ht]
    · dsimp only [ofRun]
      rw [World.printed_staged, ht]
      rfl
  posted draft envelope hc h := by
    have ht : world.told command = pure () := by
      rw [World.told, h, hc]
      rfl
    constructor
    · rw [trouble_ofRun, World.result_staged, ht]
      rfl
    · dsimp only [ofRun]
      rw [World.printed_staged, ht]
      rfl
  confirmed channel path comment thread envelope text hc h ht hf := by
    have hu := World.told_of_upload hc h
    rw [Envelope.confirms_iff.mp ht] at hf ⊢
    constructor
    · rw [trouble_ofRun, World.result_staged, hu, Sink.result_print, hf]
    · dsimp only [ofRun]
      rw [World.printed_staged, hu, Sink.events_print, Trace.printed_singleton,
        Sink.shown_of_fault?_eq_none hf]
  interrupted channel path comment thread envelope text reason hc h ht hf := by
    have hu := World.told_of_upload hc h
    rw [Envelope.confirms_iff.mp ht] at hf ⊢
    constructor
    · rw [trouble_ofRun, World.result_staged, hu, Sink.result_print, hf]
    · dsimp only [ofRun]
      rw [World.printed_staged, hu, Sink.events_print, Trace.printed_singleton]
      exact Sink.shown_isFront ..
  exitCode := by
    rw [ofRun]
    cases (world.staged command).result <;> rfl
  reported := rfl

end Outcome

namespace World

/-- Carrying out a command is going through its stages: what is done and in which
    order, how it ends and what is seen of it from outside. -/
theorem execute_staged (world : World) (diagnostics : Sink) (command : Command) :
    world.execute command = world.staged command ∧
      Outcome.Staged world diagnostics command
        (Outcome.ofRun diagnostics (world.execute command)) := by
  rw [execute_eq_staged]
  exact ⟨rfl, Outcome.staged_ofRun world diagnostics command⟩

end World

end SlackCourier
