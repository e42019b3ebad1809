import Mathlib.Algebra.GroupWithZero.Nat
import Mathlib.Order.Defs.Unbundled

/-! # Weakest preconditions for stateful procedures that may fail

A procedure is an `EStateM` action: it returns a value or an error, and the state it leaves is
observable in both cases. `wp` asks for one postcondition on each of the two exits. The rules
below are equivalences, so that a procedure written with `do` is executed symbolically by
rewriting and a called procedure is replaced by its contract through `wp_mono`.
-/

namespace Effect

variable {ε δ σ τ α β : Type} (action : EStateM ε σ α)

/-- Every exit of `action` from `state` meets the postcondition of that exit. -/
def wp (state : σ) (done : α → σ → Prop) (failed : ε → σ → Prop) : Prop :=
  match action state with
  | .ok value next => done value next
  | .error error next => failed error next

/-- The C idiom `if (condition) return error;`. -/
def failWhen (condition : Prop) [Decidable condition] (error : ε) : EStateM ε σ Unit :=
  if condition then throw error else pure ()

/-- Take the value of an optional resource, or fail when it is missing. -/
def demand (value : Option α) (error : ε) : EStateM ε σ α :=
  match value with
  | some value => pure value
  | none => throw error

/-- Take the result of a pure check, or fail with the caller's own status. -/
def expect (result : Except δ α) (error : ε) : EStateM ε σ α :=
  match result with
  | .ok value => pure value
  | .error _ => throw error

/-- Run a procedure to either exit and hand its status to the caller as a value. -/
def attempt : EStateM δ σ (Except ε α) := fun state =>
  match action state with
  | .ok value next => .ok (.ok value) next
  | .error error next => .ok (.error error) next

/-- Run a procedure on one component of a larger state. -/
def focus (view : σ → τ) (put : τ → σ → σ) (action : EStateM ε τ α) : EStateM ε σ α := fun state =>
  match action (view state) with
  | .ok value next => .ok value (put next state)
  | .error error next => .error error (put next state)

/-- Translate the error domain of a called procedure. -/
def mapError (rename : ε → δ) (action : EStateM ε σ α) : EStateM δ σ α := fun state =>
  match action state with
  | .ok value next => .ok value next
  | .error error next => .error (rename error) next

/-- The state left by a procedure, whichever exit it took. -/
def final (state : σ) : σ :=
  match action state with
  | .ok _ next => next
  | .error _ next => next

/-- Whichever exit a procedure takes, the state it leaves has the property. -/
abbrev Leaves (state : σ) (post : σ → Prop) : Prop :=
  wp action state (fun _ => post) (fun _ => post)

section Rules

variable {state next : σ} {done : α → σ → Prop} {failed : ε → σ → Prop} {action : EStateM ε σ α}

theorem wp_of_ok {value : α} (spec : wp action state done failed)
    (ran : action state = .ok value next) : done value next := by
  simpa only [wp, ran] using spec

theorem wp_of_error {error : ε} (spec : wp action state done failed)
    (ran : action state = .error error next) : failed error next := by
  simpa only [wp, ran] using spec

variable {failed' : ε → σ → Prop} {done' : α → σ → Prop}

theorem wp_mono (spec : wp action state done failed) (onDone : ∀ value next, done value next → done' value next)
    (onFailed : ∀ error next, failed error next → failed' error next) : wp action state done' failed' := by
  unfold wp at spec ⊢
  split <;> rename_i ran <;> rw [ran] at spec
  · exact onDone _ _ spec
  · exact onFailed _ _ spec

theorem wp_mono_done (spec : wp action state done failed)
    (onDone : ∀ value next, done value next → done' value next) : wp action state done' failed :=
  wp_mono spec onDone fun _ _ kept => kept

theorem wp_mono_failed (spec : wp action state done failed)
    (onFailed : ∀ error next, failed error next → failed' error next) : wp action state done failed' :=
  wp_mono spec (fun _ _ kept => kept) onFailed

/-- A procedure that cannot fail. -/
theorem wp_returns (spec : wp action state done fun _ _ => False)
    (onDone : ∀ value next, done value next → done' value next) : wp action state done' failed :=
  wp_mono spec onDone fun _ _ impossible => impossible.elim

/-- A procedure that cannot return. -/
theorem wp_fails (spec : wp action state (fun _ _ => False) failed)
    (onFailed : ∀ error next, failed error next → failed' error next) : wp action state done failed' :=
  wp_mono spec (fun _ _ impossible => impossible.elim) onFailed

theorem wp_and (first : wp action state done failed) (second : wp action state done' failed') :
    wp action state (fun value next => done value next ∧ done' value next)
      (fun error next => failed error next ∧ failed' error next) := by
  unfold wp at first second ⊢
  split <;> rename_i ran <;> rw [ran] at first second
  · exact ⟨first, second⟩
  · exact ⟨first, second⟩

/-- A procedure that cannot fail returns. -/
theorem ok_of_wp (spec : wp action state done fun _ _ => False) :
    ∃ value next, action state = .ok value next ∧ done value next := by
  cases ran : action state with
  | ok value next => exact ⟨value, next, rfl, wp_of_ok spec ran⟩
  | error error next => exact (wp_of_error spec ran).elim

/-- A procedure that cannot return fails. -/
theorem error_of_wp (spec : wp action state (fun _ _ => False) failed) :
    ∃ error next, action state = .error error next ∧ failed error next := by
  cases ran : action state with
  | ok value next => exact (wp_of_ok spec ran).elim
  | error error next => exact ⟨error, next, rfl, wp_of_error spec ran⟩

/-- A procedure whose result is known. -/
theorem eq_ok_of_wp {value : α}
    (spec : wp action state (fun value' next' => value' = value ∧ next' = next) fun _ _ => False) :
    action state = .ok value next := by
  obtain ⟨_, _, ran, rfl, rfl⟩ := ok_of_wp spec
  exact ran

/-- Some exit is always taken. -/
theorem not_wp_false : ¬ wp action state (fun _ _ => False) (fun _ _ => False) := by
  unfold wp
  cases action state <;> exact id

/-- A postcondition on both exits is a postcondition on the state left. -/
theorem wp_final {post : σ → Prop} (spec : wp action state (fun _ next => post next) (fun _ next => post next)) :
    post (final action state) := by
  unfold wp at spec
  unfold final
  split <;> rename_i ran <;> rw [ran] at spec <;> exact spec

theorem wp_intro (onOk : ∀ value next, action state = .ok value next → done value next)
    (onError : ∀ error next, action state = .error error next → failed error next) : wp action state done failed := by
  unfold wp
  split <;> rename_i ran
  · exact onOk _ _ ran
  · exact onError _ _ ran

/-- What holds of every state holds of the one left. -/
theorem leaves_any {post : σ → Prop} (holds : ∀ next, post next) : Leaves action state post :=
  wp_intro (fun _ next _ => holds next) fun _ next _ => holds next

theorem Leaves.mono {post post' : σ → Prop} (spec : Leaves action state post)
    (weaken : ∀ next, post next → post' next) : Leaves action state post' :=
  wp_mono spec (fun _ => weaken) fun _ => weaken

@[simp] theorem wp_pure (value : α) :
    wp (pure value : EStateM ε σ α) state done failed ↔ done value state := Iff.rfl

@[simp] theorem wp_throw (error : ε) :
    wp (throw error : EStateM ε σ α) state done failed ↔ failed error state := Iff.rfl

@[simp] theorem wp_bind (action : EStateM ε σ β) (continuation : β → EStateM ε σ α) :
    wp (action >>= continuation) state done failed ↔
      wp action state (fun value next => wp (continuation value) next done failed) failed := by
  show wp (EStateM.bind action continuation) state done failed ↔ _
  unfold wp EStateM.bind
  cases action state <;> rfl

/-- Two procedures agree where they are run if their parts do. -/
theorem bind_congr_at {action action' : EStateM ε σ β} {rest rest' : β → EStateM ε σ α}
    (first : action state = action' state)
    (same : ∀ value next, action state = .ok value next → rest value next = rest' value next) :
    (action >>= rest) state = (action' >>= rest') state := by
  show EStateM.bind action rest state = EStateM.bind action' rest' state
  unfold EStateM.bind
  rw [← first]
  cases ran : action state with
  | ok value next => exact same value next ran
  | error => rfl

theorem failWhen_congr_at {condition : Prop} [Decidable condition] {error : ε} {rest rest' : EStateM ε σ α}
    (same : rest state = rest' state) :
    (failWhen condition error >>= fun _ => rest) state = (failWhen condition error >>= fun _ => rest') state := by
  refine bind_congr_at rfl fun _ next ran => ?_
  unfold failWhen at ran
  split at ran <;> cases ran
  exact same

/-- Two optional resources that agree on the use made of them serve alike. -/
theorem demand_congr {value value' : Option γ} {use : γ → δ} {error : ε} (same : value.map use = value'.map use)
    {rest rest' : γ → EStateM ε σ α} (agree : ∀ op op', use op = use op' → rest op = rest' op') :
    (demand value error >>= rest) = (demand value' error >>= rest') := by
  cases value with
  | none =>
    cases value' with
    | none => rfl
    | some op' => cases same
  | some op =>
    cases value' with
    | none => cases same
    | some op' => exact agree op op' (Option.some.inj same)

@[simp] theorem wp_map (action : EStateM ε σ β) (convert : β → α) :
    wp (convert <$> action) state done failed ↔
      wp action state (fun value next => done (convert value) next) failed := by
  show wp (EStateM.map convert action) state done failed ↔ _
  unfold wp EStateM.map
  cases action state <;> rfl

@[simp] theorem wp_get {done : σ → σ → Prop} :
    wp (get : EStateM ε σ σ) state done failed ↔ done state state := Iff.rfl

@[simp] theorem wp_set {done : PUnit → σ → Prop} (value : σ) :
    wp (set value : EStateM ε σ PUnit) state done failed ↔ done ⟨⟩ value := Iff.rfl

@[simp] theorem wp_modify {done : PUnit → σ → Prop} (update : σ → σ) :
    wp (modify update : EStateM ε σ PUnit) state done failed ↔ done ⟨⟩ (update state) := Iff.rfl

@[simp] theorem wp_ite (condition : Prop) [Decidable condition] (yes no : EStateM ε σ α) :
    wp (if condition then yes else no) state done failed ↔
      (condition → wp yes state done failed) ∧ (¬ condition → wp no state done failed) := by
  by_cases holds : condition <;> simp [holds]

@[simp] theorem wp_failWhen {done : Unit → σ → Prop} (condition : Prop) [Decidable condition] (error : ε) :
    wp (failWhen condition error : EStateM ε σ Unit) state done failed ↔
      (condition → failed error state) ∧ (¬ condition → done () state) := by
  unfold failWhen
  by_cases holds : condition <;> simp [holds]

@[simp] theorem wp_demand (value : Option α) (error : ε) :
    wp (demand value error : EStateM ε σ α) state done failed ↔
      (∀ found, value = some found → done found state) ∧ (value = none → failed error state) := by
  cases value <;> simp [demand]

@[simp] theorem wp_expect (result : Except δ α) (error : ε) :
    wp (expect result error : EStateM ε σ α) state done failed ↔
      (∀ value, result = .ok value → done value state) ∧ (∀ cause, result = .error cause → failed error state) := by
  cases result <;> simp [expect]

@[simp] theorem wp_attempt {action : EStateM δ σ β} {done : Except δ β → σ → Prop} :
    wp (attempt action : EStateM ε σ (Except δ β)) state done failed ↔
      wp action state (fun value next => done (.ok value) next)
        (fun error next => done (.error error) next) := by
  unfold wp attempt
  cases action state <;> rfl

@[simp] theorem wp_focus (view : σ → τ) (put : τ → σ → σ) (action : EStateM ε τ α) :
    wp (focus view put action) state done failed ↔
      wp action (view state) (fun value part => done value (put part state))
        (fun error part => failed error (put part state)) := by
  unfold wp focus
  cases action (view state) <;> rfl

@[simp] theorem wp_mapError (rename : δ → ε) (action : EStateM δ σ α) :
    wp (mapError rename action) state done failed ↔
      wp action state done (fun error next => failed (rename error) next) := by
  unfold wp mapError
  cases action state <;> rfl

/-- The rules for the constructs that procedures are made of, as one set for `simp`. -/
theorem wp_rules : type_of% @wp_bind ∧ type_of% @wp_pure ∧ type_of% @wp_throw ∧ type_of% @wp_get ∧ type_of% @wp_modify ∧
    type_of% @wp_failWhen ∧ type_of% @wp_demand ∧ type_of% @wp_attempt ∧ type_of% @wp_mapError ∧ type_of% @wp_focus :=
  ⟨@wp_bind, @wp_pure, @wp_throw, @wp_get, @wp_modify, @wp_failWhen, @wp_demand, @wp_attempt, @wp_mapError, @wp_focus⟩

/-- The same set, with the two branches of a condition. -/
theorem wp_split : type_of% wp_rules ∧ type_of% @wp_ite := ⟨wp_rules, @wp_ite⟩

/-- The same set, with the rules that drop the exits of which nothing is asked. -/
theorem wp_all : type_of% wp_rules ∧ type_of% @wp_set ∧ type_of% implies_true.{0} ∧ type_of% implies_true.{1} ∧
    type_of% true_and ∧ type_of% and_true :=
  ⟨wp_rules, @wp_set, implies_true, implies_true, true_and, and_true⟩

end Rules

/-- A state property survives a procedure, whichever exit it takes. -/
def Preserves (property : σ → Prop) (action : EStateM ε σ α) : Prop :=
  ∀ state, property state → wp action state (fun _ next => property next) (fun _ next => property next)

section Preservation

variable {property : σ → Prop}

theorem preserves_pure (value : α) : Preserves property (pure value : EStateM ε σ α) := fun _ holds => holds

theorem preserves_throw (error : ε) : Preserves property (throw error : EStateM ε σ α) := fun _ holds => holds

theorem preserves_modify {update : σ → σ} (kept : ∀ state, property state → property (update state)) :
    Preserves property (modify update : EStateM ε σ PUnit) := fun state holds => kept state holds

theorem preserves_get : Preserves property (get : EStateM ε σ σ) := fun _ holds => holds

theorem preserves_failWhen (condition : Prop) [Decidable condition] (error : ε) :
    Preserves property (failWhen condition error : EStateM ε σ Unit) := fun _ holds =>
  (wp_failWhen condition error).mpr ⟨fun _ => holds, fun _ => holds⟩

theorem preserves_demand {value : Option α} {error : ε} :
    Preserves property (demand value error : EStateM ε σ α) := fun _ holds =>
  (wp_demand value error).mpr ⟨fun _ _ => holds, fun _ => holds⟩

theorem Preserves.bind {action : EStateM ε σ β} {continuation : β → EStateM ε σ α} (first : Preserves property action)
    (rest : ∀ value, Preserves property (continuation value)) : Preserves property (action >>= continuation) := by
  intro state holds
  rw [wp_bind]
  exact wp_mono (first state holds) (fun value next kept => rest value next kept) (fun _ _ kept => kept)

/-- A check before the rest of a procedure. -/
theorem Preserves.guard {condition : Prop} [Decidable condition] {error : ε} {rest : EStateM ε σ α}
    (kept : Preserves property rest) : Preserves property (do failWhen condition error; rest) :=
  (preserves_failWhen condition error).bind fun _ => kept

theorem Preserves.map {action : EStateM ε σ β} (kept : Preserves property action) (convert : β → α) :
    Preserves property (convert <$> action) := fun state holds => (wp_map action convert).mpr (kept state holds)

theorem Preserves.attempt {action : EStateM δ σ β} (kept : Preserves property action) :
    Preserves property (attempt action : EStateM ε σ (Except δ β)) := fun state holds =>
  wp_attempt.mpr (kept state holds)

theorem Preserves.ite {condition : Prop} [Decidable condition] {yes no : EStateM ε σ α} (first : Preserves property yes)
    (second : Preserves property no) : Preserves property (if condition then yes else no) := by
  split <;> assumption

end Preservation

/-- Both exits stay within a relation to the start, and a value returned has the property. -/
def Within (relation : σ → σ → Prop) (action : EStateM ε σ α) (state : σ) (result : α → σ → Prop) : Prop :=
  wp action state (fun value next => relation state next ∧ result value next) (fun _ => relation state)

section Within

variable {relation : σ → σ → Prop} {state : σ} {result : α → σ → Prop}

theorem Within.mono {result' : α → σ → Prop} {action : EStateM ε σ α} (kept : Within relation action state result)
    (implies : ∀ value next, result value next → result' value next) : Within relation action state result' :=
  wp_mono_done kept fun _ _ => And.imp_right (implies _ _)

theorem Within.weaken {relation' : σ → σ → Prop} {action : EStateM ε σ α} (kept : Within relation action state result)
    (wider : ∀ next, relation state next → relation' state next) : Within relation' action state result :=
  wp_mono kept (fun _ _ done => ⟨wider _ done.1, done.2⟩) fun _ => wider

variable [IsPreorder σ relation]

theorem Within.pure {value : α} (holds : result value state) :
    Within relation (pure value : EStateM ε σ α) state result := ⟨refl state, holds⟩

theorem within_failWhen (condition : Prop) [Decidable condition] (error : ε) :
    Within relation (failWhen condition error : EStateM ε σ Unit) state (fun _ _ => ¬ condition) :=
  (wp_failWhen condition error).mpr ⟨fun _ => refl state, fun passed => ⟨refl state, passed⟩⟩

theorem within_demand (value : Option α) (error : ε) :
    Within relation (demand value error : EStateM ε σ α) state (fun content _ => value = some content) :=
  (wp_demand value error).mpr ⟨fun _ found => ⟨refl state, found⟩, fun _ => refl state⟩

theorem Within.bind {action : EStateM ε σ β} {between : β → σ → Prop} {continuation : β → EStateM ε σ α}
    (first : Within relation action state between)
    (rest : ∀ value next, relation state next → between value next → Within relation (continuation value) next result) :
    Within relation (action >>= continuation) state result := by
  refine (wp_bind _ _).mpr (wp_mono_done first ?_)
  rintro value next ⟨moved, holds⟩
  apply wp_mono (rest value next moved holds)
  · exact fun _ _ done => ⟨IsTrans.trans _ _ _ moved done.1, done.2⟩
  · exact fun _ _ => IsTrans.trans _ _ _ moved

theorem Within.unless {condition : Prop} [Decidable condition] {error : ε} {rest : Unit → EStateM ε σ α}
    (passed : ¬ condition → Within relation (rest ()) state result) :
    Within relation (failWhen condition error >>= rest) state result := by
  simp only [Within, wp_bind, wp_failWhen]
  exact ⟨fun _ => refl state, passed⟩

theorem Within.found {value : Option β} {error : ε} {continuation : β → EStateM ε σ α}
    (present : ∀ content, value = some content → Within relation (continuation content) state result) :
    Within relation (demand value error >>= continuation) state result := by
  simp only [Within, wp_bind, wp_demand]
  exact ⟨present, fun _ => refl state⟩

end Within

end Effect
