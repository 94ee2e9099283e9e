import AnsibleTooling.Stage
import Mathlib.Order.Defs.Unbundled

set_option autoImplicit false

namespace AnsibleTooling

variable {S A B : Type}

def World.settled (world : World S) : World S :=
  { world with records := [] }

namespace Stage

def extend (stage : Stage S) (world : World S) (events : List Event) : Stage S :=
  { stage with world, journal := stage.journal ++ events }

variable (stage : Stage S) (world : World S) (events : List Event)

@[simp] theorem extend_world : (stage.extend world events).world = world := rfl

@[simp] theorem extend_gate : (stage.extend world events).gate = stage.gate := rfl

@[simp] theorem extend_state : (stage.extend world events).state = stage.state := rfl

@[simp] theorem extend_journal :
    (stage.extend world events).journal = stage.journal ++ events := rfl

@[simp] theorem extend_self : stage.extend stage.world [] = stage := by
  simp [extend]

@[simp] theorem extend_extend (later : World S) (more : List Event) :
    (stage.extend world events).extend later more = stage.extend later (events ++ more) := by
  simp [extend]

theorem enter_eq_extend :
    stage.enter world = stage.extend world.settled (world.records.map .logged) := rfl

end Stage

namespace Act

variable (stage : Stage S)

@[simp] theorem perform_pure (value : A) :
    (pure value : Act S A).perform stage = (.ok value, stage) := rfl

@[simp] theorem perform_throw (error : Error) :
    (throw error : Act S A).perform stage = (.error error, stage) := rfl

theorem perform_bind (act : Act S A) (next : A -> Act S B) :
    (act >>= next).perform stage =
      match act.perform stage with
      | (.ok value, stage) => (next value).perform stage
      | (.error error, stage) => (.error error, stage) := by
  rcases performed : act.perform stage with ⟨_ | _, _⟩ <;>
    simp_all [perform, bind, ExceptT.bind, ExceptT.bindCont, ExceptT.mk, ExceptT.run,
      StateT.run, StateT.bind]
  rfl

theorem perform_bind_ok {act : Act S A} {next : A -> Act S B} {stage later : Stage S} {value : A}
    (first : act.perform stage = (.ok value, later)) :
    (act >>= next).perform stage = (next value).perform later := by
  rw [perform_bind, first]

theorem perform_bind_error {act : Act S A} {next : A -> Act S B} {stage later : Stage S}
    {error : Error} (first : act.perform stage = (.error error, later)) :
    (act >>= next).perform stage = (.error error, later) := by
  rw [perform_bind, first]

theorem perform_bind_cases {act : Act S A} {next : A -> Act S B} {before after : Stage S}
    {result : Except Error B} (performed : (act >>= next).perform before = (result, after)) :
    (∃ error, act.perform before = (.error error, after) ∧ result = .error error) ∨
      ∃ value middle, act.perform before = (.ok value, middle) ∧
        (next value).perform middle = (result, after) := by
  rw [perform_bind] at performed
  split at performed
  next value middle first => exact .inr ⟨value, middle, first, performed⟩
  next error middle first =>
    cases performed
    exact .inl ⟨error, first, rfl⟩

theorem perform_map (change : A -> B) (act : Act S A) :
    (change <$> act).perform stage =
      match act.perform stage with
      | (.ok value, stage) => (.ok (change value), stage)
      | (.error error, stage) => (.error error, stage) := by
  rw [map_eq_pure_bind, perform_bind]
  rfl

@[simp] theorem perform_get : (get : Act S (Stage S)).perform stage = (.ok stage, stage) := rfl

@[simp] theorem perform_modify (change : Stage S -> Stage S) :
    (modify change : Act S Unit).perform stage = (.ok (), change stage) := rfl

@[simp] theorem perform_world : (world : Act S (World S)).perform stage = (.ok stage.world, stage) :=
  rfl

@[simp] theorem perform_record (event : Event) :
    (record event : Act S Unit).perform stage = (.ok (), stage.extend stage.world [event]) := rfl

@[simp] theorem perform_log (topic : LogTopic) (level : LogLevel) (message : String)
    (fields : List (String × String)) :
    (log topic level message fields : Act S Unit).perform stage =
      (.ok (), stage.extend stage.world [.logged (.make topic level message fields)]) := rfl

@[simp] theorem perform_note (level : NoteLevel) (text : String) :
    (note level text : Act S Unit).perform stage =
      (.ok (), stage.extend stage.world [.noted level text]) := rfl

@[simp] theorem perform_outcome (act : Act S A) :
    (outcome act).perform stage = (.ok (act.perform stage).1, (act.perform stage).2) := rfl

@[simp] theorem perform_ofExcept (result : Except Error A) :
    (ofExcept result : Act S A).perform stage = (result, stage) := by
  cases result <;> rfl

@[simp] theorem perform_ofWorld (step : World S -> Except Error A × World S) :
    (ofWorld step).perform stage =
      ((step stage.world).1,
        stage.extend (step stage.world).2.settled ((step stage.world).2.records.map .logged)) := by
  simp [ofWorld, perform_bind, Stage.enter_eq_extend]

@[simp] theorem perform_recorded (event : Bool -> Event)
    (step : World S -> Except Error A × World S) :
    (recorded event step).perform stage =
      ((step stage.world).1,
        stage.extend (step stage.world).2.settled
          ((step stage.world).2.records.map .logged ++ [event (step stage.world).1.isOk])) := by
  simp [recorded, perform_bind, Stage.enter_eq_extend]

/-- Whatever an act does leads from a stage to one that is related to it. -/
def Moves (related : Stage S -> Stage S -> Prop) (act : Act S A) : Prop :=
  ∀ stage, related stage (act.perform stage).2

section Moves

variable {related : Stage S -> Stage S -> Prop} [IsPreorder (Stage S) related]

theorem moves_pure (value : A) : Moves related (pure value : Act S A) :=
  fun stage => refl stage

theorem moves_throw (error : Error) : Moves related (throw error : Act S A) :=
  fun stage => refl stage

theorem moves_ofExcept (result : Except Error A) : Moves related (ofExcept result : Act S A) := by
  intro stage
  rw [perform_ofExcept]
  exact refl stage

theorem moves_get : Moves related (get : Act S (Stage S)) :=
  fun stage => refl stage

theorem moves_world : Moves related (world : Act S (World S)) :=
  fun stage => refl stage

theorem Moves.bind {act : Act S A} {next : A -> Act S B} (first : Moves related act)
    (second : ∀ value, Moves related (next value)) : Moves related (act >>= next) := by
  intro stage
  have start := first stage
  rw [perform_bind]
  -- A failing first part ends the act where it is; only after a success does the second one move.
  rcases performed : act.perform stage with ⟨_ | value, middle⟩
  · simpa [performed] using start
  · rw [performed] at start
    exact IsTrans.trans _ _ _ start (second value middle)

omit [IsPreorder (Stage S) related] in
theorem Moves.outcome {act : Act S A} (moves : Moves related act) :
    Moves related (outcome act) :=
  moves

end Moves

end Act

end AnsibleTooling
