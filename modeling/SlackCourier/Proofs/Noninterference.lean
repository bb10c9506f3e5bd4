import SlackCourier.Proofs.Http.Classification
import SlackCourier.Proofs.Outcome

/-!
# Tokens are not told

A token leaves the program in one place, the authorisation of a request. To see
this, two runs are compared that differ in their tokens only: the one is the
other with the token replaced in its calls and requests (`Event.reissue`), and
with nothing else changed. That replacing goes through the composition of runs
(`Run.mapEvents_bind`), so it is enough to look at the one place where a token is
used, the call. There it goes through redirects too, which keep the authorisation of
a request or drop it, whatever it is (`Http.redirected_reissue`).

* `Outcome.differInToken_online`: with two tokens that can both be sent, or both not,
  a command ends in the same way, prints and logs the same and sends the same
  requests, but for the authorisation, which is made of the token.
-/

namespace SlackCourier

/-! ## Replacing events -/

namespace Run

/-- The run with other events in the place of its own. -/
def mapEvents (f : Event → Event) (run : Run ε α) : Run ε α :=
  ⟨run.events.map f, run.result⟩

variable {f : Event → Event}

theorem mapEvents_bind (run : Run ε α) (next : α → Run ε β) :
    (run >>= next).mapEvents f = run.mapEvents f >>= fun value => (next value).mapEvents f := by
  cases h : run.result with
  | ok value =>
    have hm : (run.mapEvents f).result = .ok value := h
    rw [bind_of_ok h, bind_of_ok hm, mapEvents, List.map_append]
    rfl
  | error failure =>
    have hm : (run.mapEvents f).result = .error failure := h
    rw [bind_of_error h, bind_of_error hm]
    rfl

theorem mapEvents_mapError (g : ε → ε') (run : Run ε α) :
    (run.mapError g).mapEvents f = (run.mapEvents f).mapError g := rfl

end Run

/-- The request with the authorisation that is made of a token, if it has any. -/
def Request.reissue (token : String) (request : Request) : Request :=
  { request with
    authorization := request.authorization.map fun _ => Credential.bearer ⟨token⟩ }

/-- The event with a token in the place of the one in it. -/
def Event.reissue (token : String) : Event → Event
  | .called call => .called { call with credential := ⟨token⟩ }
  | .requested request => .requested (request.reissue token)
  | event => event

/-! ## What is done without a token -/

section

variable (token : String)

theorem Run.reissue_log (level : Level) (text : String) :
    (Run.log level text : Run ε Unit).mapEvents (Event.reissue token) = Run.log level text := rfl

theorem Draft.reissue_readText (draft : Draft) (input : Input) :
    (draft.readText input).mapEvents (Event.reissue token) = draft.readText input := by
  unfold readText
  split
  · simp only [Run.mapEvents_bind]
    rfl
  · rfl

theorem Draft.reissue_build (draft : Draft) (input : Input) :
    (draft.build input).mapEvents (Event.reissue token) = draft.build input := by
  rw [build, Run.mapEvents_bind, reissue_readText]
  congr 1
  funext text
  dsimp only
  split
  · rfl
  · rw [Run.mapEvents_bind]
    rfl

theorem FileStore.reissue_load (files : FileStore) (path : String) :
    (files.load path).mapEvents (Event.reissue token) = files.load path := by
  rw [load, Run.mapEvents, List.map_cons, List.map_map]
  rfl

theorem Upload.reissue_build (upload : Upload) (files : FileStore) :
    (upload.build files).mapEvents (Event.reissue token) = upload.build files := by
  rw [build, Run.mapEvents_bind, FileStore.reissue_load]
  rfl

theorem Sink.reissue_print (sink : Sink) (text : String) :
    (sink.print text).mapEvents (Event.reissue token) = sink.print text := by
  rw [print, Run.mapEvents_bind]
  congr 1
  funext _
  split <;> rfl

end

/-! ## Calls -/

namespace Http

theorem isHeaderValue_bearer (token : String) :
    isHeaderValue (Credential.bearer ⟨token⟩) = isHeaderValue token := by
  rw [isHeaderValue, isHeaderValue, Credential.bearer, String.toList_append, List.all_append,
    show "Bearer ".toList.all _ = true by decide, Bool.true_and]

/-- What a call is addressed to depends on its headers only in so far as they
    can be sent. -/
theorem target_congr {headers headers' : List String}
    (h : headers.all isHeaderValue = headers'.all isHeaderValue) (address : String) :
    target address headers = target address headers' := by
  rw [target, target, h]

variable {token token' : String}

/-- Whether a redirect drops the authorisation does not depend on what it is. -/
theorem redirected_reissue (token : String) (request : Request) (status : Nat)
    (url place : Url) :
    (request.redirected status url place).reissue token =
      (request.reissue token).redirected status url place := by
  rw [Request.redirected, Request.redirected]
  cases url.sharesHost place <;> cases keepsContent status <;> rfl

/-- With another token, which can be sent if the one can, a call sends the same
    requests but for the authorisation, and gives the same reply. -/
theorem post_reissue (h : isHeaderValue token = isHeaderValue token') (network : Network)
    (resolve : Url.Resolver) (config : Config) (endpoint : String) (body : Body) :
    post network resolve config ⟨endpoint, ⟨token'⟩, body⟩ =
      { post network resolve config ⟨endpoint, ⟨token⟩, body⟩ with
        requests := (post network resolve config ⟨endpoint, ⟨token⟩, body⟩).requests.map
          (Request.reissue token') } := by
  have ht : target (config.address endpoint) [Credential.bearer ⟨token'⟩, body.contentType] =
      target (config.address endpoint) [Credential.bearer ⟨token⟩, body.contentType] := by
    refine target_congr ?_ _
    simp only [List.all_cons, List.all_nil, isHeaderValue_bearer, h]
  simp only [post, ht]
  cases target (config.address endpoint) [Credential.bearer ⟨token⟩, body.contentType] with
  | error cause => rfl
  | ok target =>
    -- On its way nobody looks at the authorisation of the request.
    have hp := Carrier.pursue_map (redirected_reissue token') (carrier network resolve config)
      greatestHops target.url (request target ⟨endpoint, ⟨token⟩, body⟩)
    have hr : (request target ⟨endpoint, ⟨token⟩, body⟩).reissue token' =
        request target ⟨endpoint, ⟨token'⟩, body⟩ := rfl
    rw [hr] at hp
    simp only [hp, conclude]
    cases ((carrier network resolve config).pursue greatestHops target.url
      (request target ⟨endpoint, ⟨token⟩, body⟩)).result <;> rfl

theorem call_reissue (h : isHeaderValue token = isHeaderValue token') (network : Network)
    (resolve : Url.Resolver) (config : Config) (endpoint : String) (body : Body) :
    ((post network resolve config).call ⟨endpoint, ⟨token⟩, body⟩).mapEvents
        (Event.reissue token') =
      (post network resolve config).call ⟨endpoint, ⟨token'⟩, body⟩ := by
  rw [Service.call, Service.call, post_reissue h, Run.mapEvents, List.map_cons, Exchange.events,
    Exchange.events]
  simp only [List.map_append, List.map_map]
  rfl

end Http

/-! ## Commands -/

namespace World

/-- The world in which commands are carried out over a network with a token. -/
def online (world : World) (network : Network) (resolve : Url.Resolver) (config : Config)
    (token : String) : World :=
  { world with credential := .ok ⟨token⟩, service := Http.post network resolve config }

variable {token token' : String} (h : Http.isHeaderValue token = Http.isHeaderValue token')
  (world : World) (network : Network) (resolve : Url.Resolver) (config : Config)

include h

theorem send_reissue (draft : Draft) :
    ((world.online network resolve config token).send ⟨token⟩ draft).mapEvents
        (Event.reissue token') =
      (world.online network resolve config token').send ⟨token'⟩ draft := by
  simp only [send, online, Run.mapEvents_bind, Draft.reissue_build, Http.call_reissue h]
  rfl

theorem share_reissue (upload : Upload) :
    ((world.online network resolve config token).share ⟨token⟩ upload).mapEvents
        (Event.reissue token') =
      (world.online network resolve config token').share ⟨token'⟩ upload := by
  simp only [share, online, Run.mapEvents_bind, Upload.reissue_build, Http.call_reissue h]
  rfl

theorem carryOut_reissue (command : Command) :
    ((world.online network resolve config token).carryOut ⟨token⟩ command).mapEvents
        (Event.reissue token') =
      (world.online network resolve config token').carryOut ⟨token'⟩ command := by
  cases command with
  | send draft => rw [carryOut, Run.mapEvents_mapError, send_reissue h, carryOut]
  | upload channel path comment thread =>
    -- What is printed is made of the reply, which came without the token.
    rw [carryOut, Run.mapEvents_bind, Run.mapEvents_mapError, share_reissue h, carryOut]
    congr 1
    funext envelope
    exact Sink.reissue_print token' _ _

/-- A command that is carried out with another token, which can be sent if the
    one can, does the same but for the token in its calls and requests. -/
theorem execute_reissue (command : Command) :
    ((world.online network resolve config token).execute command).mapEvents
        (Event.reissue token') =
      (world.online network resolve config token').execute command := by
  have hc : ∀ t, Run.ofExcept ((world.online network resolve config t).credential.mapError
      Trouble.failure) = pure ⟨t⟩ := fun _ => rfl
  rw [execute, execute, Run.mapEvents_bind, Run.reissue_log, hc, hc]
  congr 1
  funext _
  rw [pure_bind, pure_bind, carryOut_reissue h]

end World

/-! ## Outcomes -/

namespace Trace

theorem logs_reissue (token : String) (trace : Trace) :
    Trace.logs (trace.map (Event.reissue token)) = trace.logs := by
  rw [logs, logs, List.filterMap_map]
  congr 1
  funext event
  cases event <;> rfl

theorem printed_reissue (token : String) (trace : Trace) :
    Trace.printed (trace.map (Event.reissue token)) = trace.printed := by
  rw [printed, printed, List.flatMap_map]
  congr 1
  funext event
  cases event <;> rfl

theorem requests_reissue (token : String) (trace : Trace) :
    Trace.requests (trace.map (Event.reissue token)) =
      trace.requests.map (Request.reissue token) := by
  rw [requests, requests, List.filterMap_map, List.map_filterMap]
  congr 1
  funext event
  cases event <;> rfl

end Trace

/-- The request without its authorisation, but for whether it has any. -/
def Request.unsigned (request : Request) : Request :=
  { request with authorization := request.authorization.map fun _ => "" }

theorem Request.unsigned_reissue (token : String) (request : Request) :
    (request.reissue token).unsigned = request.unsigned := by
  rw [unsigned, unsigned, reissue, Option.map_map]
  rfl

namespace Outcome

/-- An outcome whose requests are authorised with a token. -/
structure IsSigned (network : Network) (resolve : Url.Resolver) (token : String)
    (outcome : Outcome) : Prop where
  /-- The request that is sent for the call is. -/
  first : ∀ request, outcome.trace.requests.head? = some request →
    request.authorization = some ("Bearer " ++ token)
  /-- What follows on redirects is authorised with it, or not at all. -/
  others : ∀ request ∈ outcome.trace.requests,
    request.authorization = some ("Bearer " ++ token) ∨ request.authorization = none
  /-- Unless a server sends the call to another place, there is nothing of that kind. -/
  unmoved : (∀ url, ¬ network.Moves resolve url) →
    ∀ request ∈ outcome.trace.requests, request.authorization = some ("Bearer " ++ token)

/-- Two outcomes that differ in nothing but in the tokens that authorise their
    requests. -/
structure DifferInToken (network : Network) (resolve : Url.Resolver) (token token' : String)
    (outcome outcome' : Outcome) : Prop where
  exitCode : outcome.exitCode = outcome'.exitCode
  output : outcome.output = outcome'.output
  diagnostics : outcome.diagnostics = outcome'.diagnostics
  logs : outcome.trace.logs = outcome'.trace.logs
  requests : outcome.trace.requests.map Request.unsigned =
    outcome'.trace.requests.map Request.unsigned
  signed : outcome.IsSigned network resolve token
  signed' : outcome'.IsSigned network resolve token'

/-! ## Signatures -/

section

variable {network : Network} {resolve : Url.Resolver} {token : String} {outcome : Outcome}

theorem isSigned_of_unsent (h : outcome.trace.requests = []) :
    outcome.IsSigned network resolve token := by
  constructor <;> simp [h]

/-- A call that gets through is signed when it is sent, and redirects keep that or drop
    it. -/
theorem isSigned_of_reaches {config : Config} {call : Call} {target : Http.Target}
    (h : call.Reaches network config target) (ht : call.credential = ⟨token⟩)
    (hr : outcome.trace.requests = (Http.post network resolve config call).requests) :
    outcome.IsSigned network resolve token := by
  obtain ⟨others, ho, hn⟩ : ∃ others,
      outcome.trace.requests = Http.request target call :: others ∧
        (¬ network.Moves resolve target.url → others = []) :=
    hr ▸ Http.exists_requests_of_reaches h
  have hs : (Http.request target call).authorization = some ("Bearer " ++ token) := by
    rw [Http.request, Credential.bearer, ht]
  constructor
  case first =>
    intro request hf
    rw [ho, List.head?_cons] at hf
    rw [← Option.some.inj hf, hs]
  case others =>
    intro request hi
    rw [hr] at hi
    have ha := (Http.isSentFor_of_mem_requests h.toIsFor request hi).authorization
    rwa [ht] at ha
  case unmoved =>
    intro hm request hi
    rw [ho, hn (hm target.url), List.mem_singleton] at hi
    rw [hi, hs]

/-- All that a command sends is signed with the token that it has. -/
theorem isSigned_online (world : World) (network : Network) (resolve : Url.Resolver)
    (config : Config) (token : String) (diagnostics : Sink) (command : Command) :
    IsSigned network resolve token
      (ofRun diagnostics ((world.online network resolve config token).execute command)) := by
  have hr := (world.online network resolve config token).requests_staged command
  rw [← World.execute_eq_staged] at hr
  cases hc : (world.online network resolve config token).call command with
  | error failure =>
    rw [hc] at hr
    exact isSigned_of_unsent hr
  | ok call =>
    rw [hc] at hr
    have ht : call.credential = ⟨token⟩ := (Except.ok.inj (World.credential_of_call hc)).symm
    by_cases h : ∃ target, call.Reaches network config target
    · obtain ⟨target, h⟩ := h
      exact isSigned_of_reaches h ht hr
    · refine isSigned_of_unsent (hr.trans ?_)
      show (Http.post network resolve config call).requests = []
      obtain ⟨cause, hp⟩ := Http.post_of_unreached (not_exists.mp h)
      rw [hp]

end

/-! ## Two runs -/

/-- With two tokens that can both be sent, or both not, a command ends in the
    same way, prints and logs the same and sends the same requests, each but for
    its authorisation, which is the token behind a fixed word. -/
theorem differInToken_online {token token' : String}
    (h : Http.isHeaderValue token = Http.isHeaderValue token') (world : World)
    (network : Network) (resolve : Url.Resolver) (config : Config) (diagnostics : Sink)
    (command : Command) :
    DifferInToken network resolve token token'
      (ofRun diagnostics ((world.online network resolve config token).execute command))
      (ofRun diagnostics ((world.online network resolve config token').execute command)) := by
  have hs := isSigned_online world network resolve config token diagnostics command
  have hs' := isSigned_online world network resolve config token' diagnostics command
  rw [← World.execute_reissue h world network resolve config command] at hs' ⊢
  generalize (world.online network resolve config token).execute command = run at hs hs' ⊢
  exact {
    exitCode := rfl
    output := (Trace.printed_reissue token' run.events).symm
    diagnostics := rfl
    logs := (Trace.logs_reissue token' run.events).symm
    requests := by
      show run.events.requests.map _ = (Trace.requests (run.events.map _)).map _
      rw [Trace.requests_reissue, List.map_map]
      exact List.map_congr_left fun request _ => (request.unsigned_reissue token').symm
    signed := hs
    signed' := hs' }

/-- A message is posted with one token as with another. -/
theorem differInToken_post :
    let world : World :=
      { endpoints := ⟨"chat.postMessage", "files.upload"⟩
        credential := .error (.missingCredential "SLACK_BOT_TOKEN")
        input := .terminal
        files := fun path => { result := .error (.fileNotFound path) }
        service := fun _ => { result := .error .missingContent }
        output := .working }
    let reply : Reply :=
      { status := 200, octets := Octets.ofText "\x7b\"ok\":true\x7d"
        isFinal := by decide, isBare := by decide }
    let network : Network := fun _ _ => { server := .reply reply }
    let resolve : Url.Resolver := fun _ _ => none
    let outcome (token : String) := ofRun .working
      ((world.online network resolve {} token).execute
        (.send { channel := "C1", text := some "hello" }))
    (outcome "xoxb-1").trace.requests.map Request.authorization = [some "Bearer xoxb-1"] ∧
      (outcome "xoxb-1").exitCode = 0 ∧
      DifferInToken network resolve "xoxb-1" "xoxb-2" (outcome "xoxb-1") (outcome "xoxb-2") :=
  ⟨by decide +kernel, by decide +kernel, differInToken_online (by decide) _ _ _ _ _ _⟩

end Outcome

end SlackCourier
