import SlackCourier.Run

/-!
# One step after the other

What is known of two steps of which the second is only reached if the first goes
well, for steps that do nothing but come to a result, and for steps of a run.
-/

namespace SlackCourier

/-! ## Results -/

theorem ok_bind (value : α) (next : α → Except ε β) :
    (.ok value : Except ε α) >>= next = next value := rfl

theorem bind_eq_ok_iff {x : Except ε α} {f : α → Except ε β} {result : β} :
    (x >>= f) = .ok result ↔ ∃ value, x = .ok value ∧ f value = .ok result := by
  cases x with
  | error failure =>
    constructor
    · intro h
      cases h
    · rintro ⟨value, h, -⟩
      cases h
  | ok value =>
    constructor
    · intro h
      exact ⟨value, rfl, h⟩
    · rintro ⟨value', h, hf⟩
      cases h
      exact hf

theorem mapError_eq_ok_iff {x : Except ε α} {f : ε → ε'} {value : α} :
    x.mapError f = .ok value ↔ x = .ok value := by
  cases x with
  | error failure => exact iff_of_false nofun nofun
  | ok held =>
    have hm : (Except.ok held : Except ε α).mapError f = .ok held := rfl
    rw [hm, Except.ok.injEq, Except.ok.injEq]

/-! ## Runs -/

namespace Run

/-- A run is known by what was done and what came of it. -/
@[ext]
theorem ext {run run' : Run ε α} (he : run.events = run'.events) (hr : run.result = run'.result) :
    run = run' := by
  cases run
  cases run'
  obtain rfl := he
  obtain rfl := hr
  rfl

theorem result_cases (run : Run ε α) :
    (∃ value, run.result = .ok value) ∨ ∃ failure, run.result = .error failure := by
  cases run.result with
  | ok value => exact .inl ⟨value, rfl⟩
  | error failure => exact .inr ⟨failure, rfl⟩

theorem result_bind (run : Run ε α) (next : α → Run ε β) :
    (run >>= next).result = run.result >>= fun value => (next value).result := by
  cases h : run.result with
  | ok value => rw [bind_of_ok h, ok_bind]
  | error failure => rw [bind_of_error h]; rfl

theorem events_bind_of_idle {next : α → Run ε β} (h : ∀ value, (next value).events = [])
    (run : Run ε α) : (run >>= next).events = run.events := by
  cases hr : run.result with
  | ok value => rw [bind_of_ok hr, h, List.append_nil]
  | error failure => rw [bind_of_error hr]

theorem ofExcept_ok_bind (value : α) (next : α → Run ε β) :
    (ofExcept (.ok value) >>= next) = next value := rfl

theorem did_bind (event : Event) (next : Unit → Run ε α) :
    (did event >>= next) = ⟨event :: (next ()).events, (next ()).result⟩ := rfl

end Run

end SlackCourier
