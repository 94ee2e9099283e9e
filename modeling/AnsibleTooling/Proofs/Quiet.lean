import AnsibleTooling.Proofs.Performance

set_option autoImplicit false

namespace AnsibleTooling

variable {S A B : Type}

inductive Ran : List String -> List Event -> Prop
  | nil : Ran [] []
  | ran {lines events} (line : String) : Ran lines events -> Ran (line :: lines) (.ran line :: events)
  | logged {lines events} (record : LogRecord) : Ran lines events -> Ran lines (.logged record :: events)

namespace Ran

theorem append {first second : List String} {events more : List Event} (before : Ran first events)
    (after : Ran second more) : Ran (first ++ second) (events ++ more) := by
  induction before with
  | nil => exact after
  | ran line _ ih => exact .ran line ih
  | logged record _ ih => exact .logged record ih

theorem records (records : List LogRecord) : Ran [] (records.map .logged) := by
  induction records with
  | nil => exact .nil
  | cons record _ ih => exact .logged record ih

theorem eq_records {events : List Event} (ran : Ran [] events) :
    ∃ records : List LogRecord, events = records.map .logged := by
  generalize none : ([] : List String) = lines at ran
  induction ran with
  | nil => exact ⟨[], rfl⟩
  | ran line _ _ => cases none
  | logged record _ ih =>
    obtain ⟨records, rfl⟩ := ih none
    exact ⟨record :: records, rfl⟩

end Ran

def Event.isMinor : Event -> Bool
  | .ran _ | .logged _ | .noted .. => true
  | _ => false

theorem minor_records (records : List LogRecord) :
    ∀ event ∈ records.map Event.logged, event.isMinor = true := by
  simp [Event.isMinor]

theorem Ran.minor {lines : List String} {events : List Event} (ran : Ran lines events) :
    ∀ event ∈ events, event.isMinor = true := by
  induction ran with
  | nil => simp
  | ran line _ ih => simpa [Event.isMinor] using ih
  | logged record _ ih => simpa [Event.isMinor] using ih

/-- A stage leads to a later one with nothing done but to run some command lines and to log. -/
def Stage.RunsTo (before : Stage S) (lines : List String) (after : Stage S) : Prop :=
  ∃ events, Ran lines events ∧ after = before.extend after.world events

theorem Stage.RunsTo.refl (stage : Stage S) : stage.RunsTo [] stage :=
  ⟨[], .nil, stage.extend_self.symm⟩

theorem Stage.RunsTo.trans {before middle after : Stage S} {lines more : List String}
    (first : before.RunsTo lines middle) (second : middle.RunsTo more after) :
    before.RunsTo (lines ++ more) after := by
  obtain ⟨events, ran, reached⟩ := first
  obtain ⟨later, ranLater, reachedLater⟩ := second
  refine ⟨events ++ later, ran.append ranLater, ?_⟩
  rw [reachedLater, reached]
  simp

namespace Act

def Quiet (act : Act S A) (world : World S) (lines : List String) (result : Except Error A)
    (later : World S) : Prop :=
  ∀ stage : Stage S, stage.world = world ->
    ∃ events, Ran lines events ∧ act.perform stage = (result, stage.extend later events)

variable {world middle later : World S} {lines more : List String}
variable {act : Act S A} {next : A -> Act S B} {value : A} {result : Except Error B}

theorem quiet_ofExcept (result : Except Error A) :
    (ofExcept result : Act S A).Quiet world [] result world := by
  rintro stage rfl
  exact ⟨[], .nil, by simp⟩

theorem quiet_pure (value : A) : (pure value : Act S A).Quiet world [] (.ok value) world :=
  quiet_ofExcept (.ok value)

theorem quiet_throw (error : Error) : (throw error : Act S A).Quiet world [] (.error error) world :=
  quiet_ofExcept (.error error)

theorem quiet_world : (Act.world : Act S (World S)).Quiet world [] (.ok world) world := by
  rintro stage rfl
  exact ⟨[], .nil, by simp⟩

theorem quiet_ran (line : String) :
    (record (.ran line) : Act S Unit).Quiet world [line] (.ok ()) world := by
  rintro stage rfl
  exact ⟨_, .ran line .nil, rfl⟩

theorem quiet_logged {entry : LogRecord} :
    (record (.logged entry) : Act S Unit).Quiet world [] (.ok ()) world := by
  rintro stage rfl
  exact ⟨_, .logged entry .nil, rfl⟩

theorem quiet_log {topic : LogTopic} {level : LogLevel} {message : String}
    {fields : List (String × String)} :
    (log topic level message fields : Act S Unit).Quiet world [] (.ok ()) world :=
  quiet_logged

theorem quiet_ofWorld (step : World S -> Except Error A × World S) :
    (ofWorld step).Quiet world [] (step world).1 (step world).2.settled := by
  rintro stage rfl
  exact ⟨_, .records _, perform_ofWorld stage step⟩

theorem Quiet.outcome {result : Except Error A} (quiet : act.Quiet world lines result later) :
    (outcome act).Quiet world lines (.ok result) later := by
  intro stage same
  obtain ⟨events, ran, done⟩ := quiet stage same
  exact ⟨events, ran, by simp [done]⟩

theorem Quiet.bind (first : act.Quiet world lines (.ok value) middle)
    (second : (next value).Quiet middle more result later) :
    (act >>= next).Quiet world (lines ++ more) result later := by
  intro stage same
  obtain ⟨events, ran, done⟩ := first stage same
  obtain ⟨after, ranAfter, doneAfter⟩ := second (stage.extend middle events) rfl
  refine ⟨events ++ after, ran.append ranAfter, ?_⟩
  -- The second act starts in a stage with a longer journal, but in the world it is told about.
  rw [perform_bind, done]
  simpa using doneAfter

theorem Quiet.andThen (first : act.Quiet world [] (.ok value) middle)
    (second : (next value).Quiet middle more result later) :
    (act >>= next).Quiet world more result later :=
  first.bind second

theorem Quiet.thenSilent (first : act.Quiet world lines (.ok value) middle)
    (second : (next value).Quiet middle [] result later) :
    (act >>= next).Quiet world lines result later := by
  simpa using first.bind second

theorem Quiet.fails {error : Error} (first : act.Quiet world lines (.error error) later) :
    (act >>= next).Quiet world lines (.error error) later := by
  intro stage same
  obtain ⟨events, ran, done⟩ := first stage same
  exact ⟨events, ran, by rw [perform_bind, done]⟩

theorem Quiet.reaches {result : Except Error A} {stage : Stage S}
    (quiet : act.Quiet stage.world lines result later) :
    ∃ after, stage.RunsTo lines after ∧ after.world = later ∧ act.perform stage = (result, after) := by
  obtain ⟨events, ran, done⟩ := quiet stage rfl
  exact ⟨stage.extend later events, ⟨events, ran, rfl⟩, rfl, done⟩

end Act

end AnsibleTooling
