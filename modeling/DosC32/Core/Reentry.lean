import DosC32.Core.Run

/-! # Procedures that call out and may be re-entered

A procedure of a component may stop at a call to the outside and go on when the answer arrives. Until then
the outside may enter the component again, so that suspended procedures form a stack. `advance` runs such a
component one move at a time: the outside enters a request, or it answers the topmost call. The outside is
not restricted further, which covers callbacks that re-enter every procedure to any depth.
-/

namespace Reentry

open Effect

/-- A procedure up to its next stop: it returned, it failed, or it waits for the answer to a call. -/
inductive Progress (Query Answer ε σ α : Type) where
  | done (value : α) (state : σ)
  | failed (error : ε) (state : σ)
  | calls (query : Query) (state : σ) (resume : Answer → σ → Progress Query Answer ε σ α)

variable {Request Query Answer ε σ α β : Type}

def Progress.bind (progress : Progress Query Answer ε σ β) (continuation : β → σ → Progress Query Answer ε σ α) :
    Progress Query Answer ε σ α :=
  match progress with
  | .done value state => continuation value state
  | .failed error state => .failed error state
  | .calls query state resume => .calls query state fun answer next => (resume answer next).bind continuation

/-- A procedure over the states of `σ` that calls out with queries. -/
def Procedure (Query Answer ε σ α : Type) := σ → Progress Query Answer ε σ α

instance : Monad (Procedure Query Answer ε σ) where
  pure value state := .done value state
  bind action continuation state := (action state).bind continuation

/-- A procedure without calls. -/
def lift (action : EStateM ε σ α) : Procedure Query Answer ε σ α := fun state =>
  match action state with
  | .ok value next => .done value next
  | .error error next => .failed error next

theorem lift_of_error {action : EStateM ε σ α} {error : ε} {state next : σ} (ran : action state = .error error next) :
    (lift action : Procedure Query Answer ε σ α) state = .failed error next := by
  unfold lift
  rw [ran]

/-- Call out, and go on with the answer in whatever state the outside leaves. -/
def invoke (query : Query) : Procedure Query Answer ε σ Answer := fun state => .calls query state .done

/-- The first stop of `action` from `state` meets the postcondition of its kind. -/
def Procedure.wp (action : Procedure Query Answer ε σ α) (state : σ) (done : α → σ → Prop) (failed : ε → σ → Prop)
    (called : Query → σ → (Answer → σ → Progress Query Answer ε σ α) → Prop) : Prop :=
  match action state with
  | .done value next => done value next
  | .failed error next => failed error next
  | .calls query next resume => called query next resume

section Rules

variable {state : σ} {done : α → σ → Prop} {failed : ε → σ → Prop}
  {called : Query → σ → (Answer → σ → Progress Query Answer ε σ α) → Prop}

theorem Procedure.wp_mono {action : Procedure Query Answer ε σ α} {done' : α → σ → Prop} {failed' : ε → σ → Prop}
    {called' : Query → σ → (Answer → σ → Progress Query Answer ε σ α) → Prop}
    (spec : action.wp state done failed called) (onDone : ∀ value next, done value next → done' value next)
    (onFailed : ∀ error next, failed error next → failed' error next)
    (onCalled : ∀ query next resume, called query next resume → called' query next resume) :
    action.wp state done' failed' called' := by
  unfold Procedure.wp at spec ⊢
  split <;> rename_i ran <;> rw [ran] at spec
  · exact onDone _ _ spec
  · exact onFailed _ _ spec
  · exact onCalled _ _ _ spec

theorem Procedure.wp_pure (value : α) :
    (pure value : Procedure Query Answer ε σ α).wp state done failed called ↔ done value state := Iff.rfl

theorem Procedure.wp_bind (action : Procedure Query Answer ε σ β) (continuation : β → Procedure Query Answer ε σ α) :
    (action >>= continuation).wp state done failed called ↔
      action.wp state (fun value next => (continuation value).wp next done failed called) failed
        (fun query next resume => called query next fun answer later => (resume answer later).bind continuation) := by
  change Procedure.wp (fun state => (action state).bind continuation) state done failed called ↔ _
  unfold Procedure.wp
  dsimp only
  cases action state <;> rfl

theorem Procedure.wp_lift (action : EStateM ε σ α) :
    (lift action).wp state done failed called ↔ Effect.wp action state done failed := by
  unfold Procedure.wp lift Effect.wp
  cases action state <;> rfl

theorem Procedure.wp_invoke {done : Answer → σ → Prop}
    {called : Query → σ → (Answer → σ → Progress Query Answer ε σ Answer) → Prop} (query : Query) :
    (invoke query).wp state done failed called ↔ called query state .done := Iff.rfl

end Rules

/-- A procedure that waits for an answer. -/
structure Frame (Request Query Answer ε σ α : Type) where
  request : Request
  query : Query
  resume : Answer → σ → Progress Query Answer ε σ α

structure Machine (Request Query Answer ε σ α : Type) where
  state : σ
  stack : List (Frame Request Query Answer ε σ α)

/-- The queries of the suspended procedures, innermost first. -/
def Machine.pending (machine : Machine Request Query Answer ε σ α) : List Query := machine.stack.map Frame.query

/-- What the outside does next. -/
inductive Move (Request Answer : Type) where
  | enter (request : Request)
  | answer (answer : Answer)

inductive Exit (Query ε α : Type) where
  | done (value : α)
  | failed (error : ε)
  | calls (query : Query)

/-- What came of a move: the request that ran, the query it was given the answer of, and where it stopped. -/
structure Report (Request Query ε α : Type) where
  request : Request
  answered : Option Query
  exit : Exit Query ε α

abbrev History (Request Query Answer ε α : Type) := List (Move Request Answer × Except Unit (Report Request Query ε α))

/-- Record the stop of a procedure; a procedure that waits goes onto the stack. -/
def settle (request : Request) (answered : Option Query) (stack : List (Frame Request Query Answer ε σ α)) :
    Progress Query Answer ε σ α →
      EStateM.Result Unit (Machine Request Query Answer ε σ α) (Report Request Query ε α)
  | .done value state => .ok ⟨request, answered, .done value⟩ ⟨state, stack⟩
  | .failed error state => .ok ⟨request, answered, .failed error⟩ ⟨state, stack⟩
  | .calls query state resume => .ok ⟨request, answered, .calls query⟩ ⟨state, ⟨request, query, resume⟩ :: stack⟩

/-- One move of the outside. An answer that nothing waits for is refused. -/
def advance (perform : Request → Procedure Query Answer ε σ α) :
    Move Request Answer → EStateM Unit (Machine Request Query Answer ε σ α) (Report Request Query ε α)
  | .enter request => fun machine => settle request none machine.stack (perform request machine.state)
  | .answer answer => fun machine =>
    match machine.stack with
    | [] => .error () machine
    | frame :: rest => settle frame.request (some frame.query) rest (frame.resume answer machine.state)

section Invariant

variable (property : History Request Query Answer ε α → List Query → σ → Prop)

/-- From here on the procedure keeps the property at each of its stops, provided that the outside hands it
back whenever it answers. -/
def Progress.Keeps (request : Request) (pending : List Query) :
    Progress Query Answer ε σ α → Move Request Answer → Option Query → History Request Query Answer ε α → Prop
  | .done value state, move, answered, history =>
    property ((move, .ok ⟨request, answered, .done value⟩) :: history) pending state
  | .failed error state, move, answered, history =>
    property ((move, .ok ⟨request, answered, .failed error⟩) :: history) pending state
  | .calls query state resume, move, answered, history =>
    property ((move, .ok ⟨request, answered, .calls query⟩) :: history) (query :: pending) state ∧
      ∀ answer later next, property later (query :: pending) next →
        (resume answer next).Keeps request pending (.answer answer) (some query) later

/-- Every suspended procedure keeps the property once it is answered. -/
def Suspended : List (Frame Request Query Answer ε σ α) → Prop
  | [] => True
  | frame :: rest =>
    (∀ answer history state, property history (frame.query :: rest.map Frame.query) state →
      (frame.resume answer state).Keeps property frame.request (rest.map Frame.query) (.answer answer)
        (some frame.query) history) ∧
    Suspended rest

variable {property} {history : History Request Query Answer ε α}

theorem keeps_iff_wp {action : Procedure Query Answer ε σ α} {state : σ} {request : Request} {pending : List Query}
    {move : Move Request Answer} {answered : Option Query} :
    (action state).Keeps property request pending move answered history ↔
      action.wp state
        (fun value next => property ((move, .ok ⟨request, answered, .done value⟩) :: history) pending next)
        (fun error next => property ((move, .ok ⟨request, answered, .failed error⟩) :: history) pending next)
        (fun query next resume =>
          property ((move, .ok ⟨request, answered, .calls query⟩) :: history) (query :: pending) next ∧
            ∀ answer later state, property later (query :: pending) state →
              (resume answer state).Keeps property request pending (.answer answer) (some query) later) := by
  unfold Procedure.wp
  cases action state <;> rfl

/-- A stop of a procedure that keeps the property leaves a machine that does. -/
private theorem settle_spec {stack : List (Frame Request Query Answer ε σ α)}
    {progress : Progress Query Answer ε σ α} {request : Request} {move : Move Request Answer}
    {answered : Option Query} (machine : Machine Request Query Answer ε σ α)
    (keeps : progress.Keeps property request (stack.map Frame.query) move answered history)
    (suspended : Suspended property stack) :
    wp (fun _ => settle request answered stack progress) machine
      (fun report next => property ((move, .ok report) :: history) next.pending next.state ∧
        Suspended property next.stack)
      (fun _ _ => False) := by
  cases progress with
  | done value state | failed error state => exact ⟨keeps, suspended⟩
  | calls query state resume => exact ⟨keeps.1, keeps.2, suspended⟩

/-- The invariant rule: a property that every procedure keeps at each of its stops holds after every move,
however deep the component has been re-entered. -/
theorem invariant {perform : Request → Procedure Query Answer ε σ α} {start : σ}
    {machine : Machine Request Query Answer ε σ α}
    (initial : property [] [] start) (refused : ∀ answer history state, property history [] state →
      property ((.answer answer, .error ()) :: history) [] state)
    (keeps : ∀ request history pending state, property history pending state →
      (perform request state).Keeps property request pending (.enter request) none history)
    (run : Runs (advance perform) (fun _ _ => True) ⟨start, []⟩ history machine) :
    property history machine.pending machine.state := by
  have strong : property history machine.pending machine.state ∧ Suspended property machine.stack := by
    apply run.invariant fun history machine => property history machine.pending machine.state ∧
      Suspended property machine.stack
    · exact ⟨initial, trivial⟩
    · rintro history ⟨state, stack⟩ move ⟨holds, suspended⟩ -
      cases move with
      | enter request =>
        have kept := keeps request history _ state holds
        exact wp_returns (settle_spec ⟨state, stack⟩ kept suspended) fun _ _ => id
      | answer answer =>
        cases stack with
        | nil => exact ⟨refused answer history state holds, trivial⟩
        | cons frame rest =>
          have kept := suspended.1 answer history state holds
          exact wp_returns (settle_spec ⟨state, frame :: rest⟩ kept suspended.2) fun _ _ => id
  exact strong.1

end Invariant

end Reentry
