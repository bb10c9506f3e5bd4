import SlackCourier.Trace

/-!
# Runs

What the program does is data: a *run* is the list of the things it did, in
order, and what came of it. What the program finds in the world, such as what is
piped in, what files hold and what the service replies, is given to it as data
too. So whether a file was read or a call was made, and what was logged, can be
read off a run, and two runs can be compared.

Runs are composed one after the other; after a failure nothing more is done
(`bind_of_ok`, `bind_of_error`). So composed, runs are a lawful monad.
-/

namespace SlackCourier

/-- What was done and what came of it. -/
structure Run (ε α : Type) where
  events : Trace
  result : Except ε α

namespace Run

/-- Does nothing. -/
protected def pure (value : α) : Run ε α :=
  ⟨[], .ok value⟩

/-- Does one thing after the other, the second only if the first succeeds. -/
protected def bind (run : Run ε α) (next : α → Run ε β) : Run ε β :=
  match run.result with
  | .ok value =>
    let after := next value
    ⟨run.events ++ after.events, after.result⟩
  | .error failure => ⟨run.events, .error failure⟩

instance : Monad (Run ε) where
  pure := Run.pure
  bind := Run.bind

theorem bind_of_ok {run : Run ε α} {value : α} (h : run.result = .ok value)
    (next : α → Run ε β) :
    run >>= next = ⟨run.events ++ (next value).events, (next value).result⟩ := by
  show Run.bind run next = _
  rw [Run.bind, h]

theorem bind_of_error {run : Run ε α} {failure : ε} (h : run.result = .error failure)
    (next : α → Run ε β) : run >>= next = ⟨run.events, .error failure⟩ := by
  show Run.bind run next = _
  rw [Run.bind, h]

protected theorem pure_bind (value : α) (next : α → Run ε β) :
    (pure value : Run ε α) >>= next = next value :=
  bind_of_ok rfl next

protected theorem bind_pure (run : Run ε α) : run >>= pure = run := by
  cases h : run.result with
  | ok value =>
    rw [bind_of_ok h]
    show Run.mk (run.events ++ []) (.ok value) = run
    rw [List.append_nil, ← h]
  | error failure => rw [bind_of_error h, ← h]

protected theorem bind_assoc (run : Run ε α) (next : α → Run ε β) (last : β → Run ε γ) :
    run >>= next >>= last = run >>= fun value => next value >>= last := by
  cases h : run.result with
  | ok value =>
    rw [bind_of_ok h next, bind_of_ok h]
    cases h' : (next value).result with
    | ok value' => rw [bind_of_ok rfl, bind_of_ok h', List.append_assoc]
    | error failure => rw [bind_of_error rfl, bind_of_error h']
  | error failure => rw [bind_of_error h next, bind_of_error h, bind_of_error rfl]

instance : LawfulMonad (Run ε) :=
  LawfulMonad.mk' (Run ε) Run.bind_pure Run.pure_bind Run.bind_assoc

/-- Comes to a result without doing anything. -/
def ofExcept (result : Except ε α) : Run ε α :=
  ⟨[], result⟩

/-- Does one thing. -/
def did (event : Event) : Run ε Unit :=
  ⟨[event], .ok ()⟩

/-- Writes to the log. -/
def log (level : Level) (text : String) : Run ε Unit :=
  did (.logged ⟨level, text⟩)

/-- The same run with another kind of failure. -/
def mapError (f : ε → ε') (run : Run ε α) : Run ε' α :=
  ⟨run.events, run.result.mapError f⟩

end Run

end SlackCourier
