import DosC32.Core.Effect

/-! # Runs of a component

A component offers calls, each of which is a procedure on its state. A run is any finite sequence
of calls, whichever exit each of them takes; its history records the calls with their outcomes,
newest first. A property of the state and the history that holds at the start and is preserved by
every call holds at the end of every run.
-/

namespace Effect

variable {Call ε σ α : Type}

/-- The value or the error of a procedure. -/
def outcome (action : EStateM ε σ α) (state : σ) : Except ε α :=
  match action state with
  | .ok value _ => .ok value
  | .error error _ => .error error

section Outcome

variable {action : EStateM ε σ α} {state : σ} {done : α → σ → Prop} {failed : ε → σ → Prop}

theorem eq_ok_of_outcome {value : α} (returned : outcome action state = .ok value) :
    action state = .ok value (final action state) := by
  unfold outcome at returned
  unfold final
  split at returned <;> rename_i ran
  · obtain rfl := Except.ok.inj returned
    rw [ran]
  · cases returned

theorem eq_error_of_outcome {error : ε} (failed : outcome action state = .error error) :
    action state = .error error (final action state) := by
  unfold outcome at failed
  unfold final
  split at failed <;> rename_i ran
  · cases failed
  · obtain rfl := Except.error.inj failed
    rw [ran]

theorem wp_outcome_ok {value : α} (spec : wp action state done failed) (returned : outcome action state = .ok value) :
    done value (final action state) :=
  wp_of_ok spec (eq_ok_of_outcome returned)

theorem wp_outcome_error {error : ε} (spec : wp action state done failed) (returned : outcome action state = .error error) :
    failed error (final action state) :=
  wp_of_error spec (eq_error_of_outcome returned)

end Outcome

/-- `history` leads from `start` to the indexed state by calls that are allowed where they are made. -/
inductive Runs (perform : Call → EStateM ε σ α) (allowed : σ → Call → Prop) (start : σ) :
    List (Call × Except ε α) → σ → Prop
  | start : Runs perform allowed start [] start
  | step {history : List (Call × Except ε α)} {state : σ} (call : Call) :
      Runs perform allowed start history state → allowed state call →
      Runs perform allowed start ((call, outcome (perform call) state) :: history) (final (perform call) state)

/-- The state after the calls of a list, in order. -/
def replay (perform : Call → EStateM ε σ α) (start : σ) (calls : List Call) : σ :=
  calls.foldl (fun state call => final (perform call) state) start

/-- What the calls of a list add to the history. -/
def transcript (perform : Call → EStateM ε σ α) : σ → List Call → List (Call × Except ε α)
  | _, [] => []
  | state, call :: rest =>
    transcript perform (final (perform call) state) rest ++ [(call, outcome (perform call) state)]

variable {perform : Call → EStateM ε σ α} {allowed : σ → Call → Prop} {start state : σ}
  {history : List (Call × Except ε α)}

/-- The calls of a list extend a run if they are allowed everywhere. -/
theorem Runs.replay_allowed (run : Runs perform allowed start history state) (calls : List Call)
    (permitted : ∀ call ∈ calls, ∀ state, allowed state call) :
    Runs perform allowed start (transcript perform state calls ++ history) (replay perform state calls) := by
  induction calls generalizing history state with
  | nil => exact run
  | cons call rest ih =>
    obtain ⟨now, later⟩ := List.forall_mem_cons.mp permitted
    rw [transcript, List.append_assoc]
    exact ih (.step call run (now state)) later

theorem Runs.replay (run : Runs perform (fun _ _ => True) start history state) (calls : List Call) :
    Runs perform (fun _ _ => True) start (transcript perform state calls ++ history) (replay perform state calls) :=
  run.replay_allowed calls fun _ _ _ => trivial

theorem Runs.extend (run : Runs perform (fun _ _ => True) start history state) (calls : List Call) :
    ∃ history, Runs perform (fun _ _ => True) start history (Effect.replay perform state calls) :=
  ⟨_, run.replay calls⟩

/-- The invariant rule. -/
theorem Runs.invariant (property : List (Call × Except ε α) → σ → Prop) (initial : property [] start)
    (preserved : ∀ history state call, property history state → allowed state call →
      wp (perform call) state (fun value next => property ((call, .ok value) :: history) next)
        (fun error next => property ((call, .error error) :: history) next))
    (run : Runs perform allowed start history state) : property history state := by
  induction run with
  | start => exact initial
  | @step history state call _ permitted ih =>
    have step := preserved history state call ih permitted
    cases ran : perform call state with
    | ok value next =>
      have holds := wp_of_ok step ran
      simpa only [outcome, final, ran] using holds
    | error error next =>
      have holds := wp_of_error step ran
      simpa only [outcome, final, ran] using holds

/-- The invariant rule for a property of the state alone. -/
theorem Runs.invariant_state (property : σ → Prop) (initial : property start)
    (preserved : ∀ state call, property state → allowed state call →
      wp (perform call) state (fun _ next => property next) (fun _ next => property next))
    (run : Runs perform allowed start history state) : property state :=
  run.invariant (fun _ state => property state) initial (fun _ => preserved)

end Effect
