import SlackCourier.Dispatch
import SlackCourier.Proofs.Steps

/-!
# The stages of a command

A command is carried out in stages: the credential is found, the body is laid
out, one call is made, and what came of it is told. Here the stages are written
down one inside the other (`World.staged`), each reached only if the ones before
it went well, with all that was done up to its end.

* `World.execute_eq_staged`: carrying out a command is going through its stages.
-/

namespace SlackCourier

/-! ## What is done to lay out a body -/

namespace Draft

/-- What is done to find the text of a draft. -/
def readings (draft : Draft) : Input → Trace
  | .terminal => []
  | .piped _ =>
    if draft.lacksText then
      [.logged ⟨.debug, "No --text given, reading message body from stdin"⟩, .inputRead]
    else []

theorem events_readText (draft : Draft) (input : Input) :
    (draft.readText input).events = draft.readings input := by
  cases h : draft.lacksText <;> cases input <;> simp only [readText, readings, h]
  case true.piped content => cases content <;> rfl
  all_goals rfl

/-- Apart from the text nothing is read to build a message. -/
theorem events_build (draft : Draft) (input : Input) :
    (draft.build input).events = draft.readings input := by
  rw [build, Run.events_bind_of_idle, events_readText]
  intro text
  dsimp only
  split
  · rfl
  · -- Neither parsing the blocks nor making the message does anything.
    rw [Run.events_bind_of_idle fun _ => rfl]
    rfl

end Draft

theorem Message.channel_of_of? {channel : String} {text : Option String} {blocks : Option Json}
    {thread : Option String} {message : Message}
    (h : Message.of? channel text blocks thread = .ok message) : message.channel = channel :=
  congrArg Message.channel (of?_eq_ok_iff.mp h).2

namespace Draft

/-- A message is for the channel of its draft. -/
theorem channel_of_build {draft : Draft} {input : Input} {message : Message}
    (h : (draft.build input).result = .ok message) : message.channel = draft.channel := by
  obtain ⟨text, hr⟩ | ⟨failure, hr⟩ := Run.result_cases (draft.readText input)
  · rw [build, Run.bind_of_ok hr] at h
    dsimp only at h
    split at h
    · cases h
    · obtain ⟨blocks, hb⟩ | ⟨failure, hb⟩ :=
        Run.result_cases (Run.ofExcept ((Text.given draft.blocks).mapM Message.parseBlocks))
      · rw [Run.bind_of_ok hb] at h
        exact Message.channel_of_of? h
      · rw [Run.bind_of_error hb] at h
        cases h
  · rw [build, Run.bind_of_error hr] at h
    cases h

end Draft

/-- What is done to load the file of an upload. -/
def FileStore.readings (files : FileStore) (path : String) : Trace :=
  .fileRead path :: (files path).logs.map .logged
    ++ match (files path).result with
      | .ok file =>
        [.logged ⟨.debug, s!"Loaded {file.name} ({file.content.length} bytes, {file.mediaType})"⟩]
      | .error _ => []

/-- A form is laid out if its file is loaded. -/
theorem Upload.build_eq (upload : Upload) (files : FileStore) :
    upload.build files =
      ⟨files.readings upload.path, (files upload.path).result.map upload.form⟩ := by
  rw [build, FileStore.readings]
  obtain ⟨file, hf⟩ | ⟨failure, hf⟩ := Run.result_cases (files.load upload.path)
  · rw [Run.bind_of_ok hf, show FileLookup.result _ = _ from hf]
    rfl
  · rw [Run.bind_of_error hf, show FileLookup.result _ = _ from hf, List.append_nil]
    rfl

/-! ## The stages -/

namespace Command

/-- What is logged before a command is carried out. -/
def announcement (command : Command) : Event :=
  .logged ⟨.info, s!"Running {command.name.text} command"⟩

/-- What is logged when a command has its reply. -/
def completion (envelope : Envelope) : Command → Event
  | .send draft =>
    .logged ⟨.info,
      "Posted message to " ++ draft.channel ++ " (ts: " ++ envelope.timestamp?.getD "-" ++ ")"⟩
  | .upload channel path _ _ => .logged ⟨.info, s!"Uploaded {path} to {channel}"⟩

end Command

namespace World

/-- The endpoint that a command calls. -/
def endpoint (world : World) : Command → String
  | .send _ => world.endpoints.message
  | .upload _ _ _ _ => world.endpoints.upload

/-- What is read for a command. -/
def readings (world : World) : Command → Trace
  | .send draft => draft.readings world.input
  | .upload _ path _ _ => world.files.readings path

/-- What a command sends, or why it has nothing to send. -/
def body (world : World) : Command → Except Failure Body
  | .send draft =>
    (draft.build world.input).result.map fun message => Body.json message.payload.toOctets
  | .upload channel path comment thread =>
    (world.files path).result.map fun file =>
      Body.multipart ((Upload.of channel path comment thread).form file)

/-- What is told of a reply: of a message nothing, of an upload where the file is. -/
def confirm (world : World) (envelope : Envelope) : Command → Run Trouble Unit
  | .send _ => pure ()
  | .upload _ _ _ _ => world.output.print (confirmation envelope)

/-- The stages of a command, one inside the other. -/
def staged (world : World) (command : Command) : Run Trouble Unit :=
  match world.credential with
  | .error failure => ⟨[command.announcement], .error (.failure failure)⟩
  | .ok credential =>
    let prepared := command.announcement :: world.readings command
    match world.body command with
    | .error failure => ⟨prepared, .error (.failure failure)⟩
    | .ok body =>
      let call : Call := ⟨world.endpoint command, credential, body⟩
      let exchange := world.service call
      let called := prepared ++ .called call :: exchange.events
      match exchange.result with
      | .error failure => ⟨called, .error (.failure failure)⟩
      | .ok envelope =>
        let told := world.confirm envelope command
        ⟨called ++ command.completion envelope :: told.events, told.result⟩

/-- A message that cannot be built is not sent. -/
theorem send_of_unbuilt {world : World} {draft : Draft} {failure : Failure}
    (h : (draft.build world.input).result = .error failure) (credential : Credential) :
    world.send credential draft = ⟨draft.readings world.input, .error failure⟩ := by
  rw [send, Run.bind_of_error h, Draft.events_build]

/-- A message that is built is sent in one call, which is logged if it went well. -/
theorem send_of_built {world : World} {draft : Draft} {message : Message}
    (h : (draft.build world.input).result = .ok message) (credential : Credential) :
    world.send credential draft =
      let call : Call :=
        ⟨world.endpoints.message, credential, Body.json message.payload.toOctets⟩
      let called := draft.readings world.input ++ .called call :: (world.service call).events
      match (world.service call).result with
      | .error failure => ⟨called, .error failure⟩
      | .ok envelope => ⟨called ++ [(Command.send draft).completion envelope], .ok ()⟩ := by
  rw [send, Run.bind_of_ok h, Draft.events_build, message.serialize_eq, Run.ofExcept_ok_bind]
  dsimp only
  obtain ⟨envelope, he⟩ | ⟨failure, he⟩ := Run.result_cases (world.service.call
    ⟨world.endpoints.message, credential, Body.json message.payload.toOctets⟩)
  · -- The log names the channel of the message, which is the one of the draft.
    rw [show Exchange.result _ = _ from he, Run.bind_of_ok he, Draft.channel_of_build h]
    simp only [List.append_assoc]
    rfl
  · rw [show Exchange.result _ = _ from he, Run.bind_of_error he]
    rfl

/-- A file that cannot be loaded is not shared. -/
theorem share_of_unloaded {world : World} {upload : Upload} {failure : Failure}
    (h : (world.files upload.path).result = .error failure) (credential : Credential) :
    world.share credential upload = ⟨world.files.readings upload.path, .error failure⟩ := by
  rw [share, Upload.build_eq, h]
  rfl

/-- A file that is loaded is shared in one call, which is logged if it went well. -/
theorem share_of_loaded {world : World} {upload : Upload} {file : LocalFile}
    (h : (world.files upload.path).result = .ok file) (credential : Credential) :
    world.share credential upload =
      let call : Call :=
        ⟨world.endpoints.upload, credential, Body.multipart (upload.form file)⟩
      let called := world.files.readings upload.path ++ .called call :: (world.service call).events
      match (world.service call).result with
      | .error failure => ⟨called, .error failure⟩
      | .ok envelope =>
        ⟨called ++ [.logged ⟨.info, s!"Uploaded {upload.path} to {upload.channel}"⟩],
          .ok envelope⟩ := by
  rw [share, Upload.build_eq, h]
  dsimp only
  obtain ⟨envelope, he⟩ | ⟨failure, he⟩ := Run.result_cases (world.service.call
    ⟨world.endpoints.upload, credential, Body.multipart (upload.form file)⟩)
  · rw [show Exchange.result _ = _ from he, Run.bind_of_ok rfl, Run.bind_of_ok he]
    simp only [List.append_assoc]
    rfl
  · rw [show Exchange.result _ = _ from he, Run.bind_of_ok rfl, Run.bind_of_error he]
    rfl

/-- With a credential a command goes through the stages behind it. -/
theorem carryOut_eq (world : World) (credential : Credential) (command : Command) :
    world.carryOut credential command =
      match world.body command with
      | .error failure => ⟨world.readings command, .error (.failure failure)⟩
      | .ok body =>
        let call : Call := ⟨world.endpoint command, credential, body⟩
        let exchange := world.service call
        let called := world.readings command ++ .called call :: exchange.events
        match exchange.result with
        | .error failure => ⟨called, .error (.failure failure)⟩
        | .ok envelope =>
          let told := world.confirm envelope command
          ⟨called ++ command.completion envelope :: told.events, told.result⟩ := by
  cases command with
  | send draft =>
    rw [carryOut, body, readings]
    cases h : (draft.build world.input).result with
    | ok message =>
      rw [send_of_built h]
      dsimp only [Except.map, endpoint]
      cases (world.service
        ⟨world.endpoints.message, credential, Body.json message.payload.toOctets⟩).result <;> rfl
    | error failure =>
      rw [send_of_unbuilt h]
      rfl
  | upload channel path comment thread =>
    rw [carryOut, body, readings]
    cases h : (world.files (Upload.of channel path comment thread).path).result with
    | ok file =>
      rw [share_of_loaded h, show (world.files path).result = _ from h]
      dsimp only [Except.map, endpoint]
      cases he : (world.service ⟨world.endpoints.upload, credential,
        Body.multipart ((Upload.of channel path comment thread).form file)⟩).result with
      | ok envelope =>
        rw [Run.bind_of_ok rfl]
        simp only [Run.mapError, List.append_assoc]
        rfl
      | error failure => rfl
    | error failure =>
      rw [share_of_unloaded h, show (world.files path).result = _ from h]
      rfl

/-- Carrying out a command is going through its stages. -/
theorem execute_eq_staged (world : World) (command : Command) :
    world.execute command = world.staged command := by
  rw [execute, Run.log, Run.did_bind, staged]
  cases h : world.credential with
  | error failure => rfl
  | ok credential =>
    -- From here on both sides go through the same cases.
    show Run.mk (_ :: (world.carryOut credential command).events)
      (world.carryOut credential command).result = _
    rw [carryOut_eq]
    dsimp only
    cases world.body command with
    | error failure => rfl
    | ok body =>
      dsimp only
      cases (world.service ⟨world.endpoint command, credential, body⟩).result <;> rfl

end World

end SlackCourier
