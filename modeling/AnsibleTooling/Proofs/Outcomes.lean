import AnsibleTooling.Proofs.Conduct

set_option autoImplicit false

namespace AnsibleTooling

open Act

variable {S : Type}

def Spares (kind : Event -> Bool) (before after : Stage S) : Prop :=
  ∃ events, after.journal = before.journal ++ events ∧ ∀ event ∈ events, kind event = false

namespace Spares

variable {kind : Event -> Bool}

instance : IsPreorder (Stage S) (Spares kind) where
  refl stage := ⟨[], by simp, by simp⟩
  trans _ _ _ first second := by
    obtain ⟨events, journal, spared⟩ := first
    obtain ⟨more, journalMore, sparedMore⟩ := second
    refine ⟨events ++ more, by rw [journalMore, journal, List.append_assoc], ?_⟩
    exact List.forall_mem_append.mpr ⟨spared, sparedMore⟩

theorem record_moves (event : Event) (spared : kind event = false) :
    Moves (Spares kind) (record event : Act S Unit) :=
  fun _ => ⟨[event], rfl, by simpa using spared⟩

theorem ofWorld_moves {A : Type} (logged : ∀ record, kind (.logged record) = false)
    (step : World S -> Except Error A × World S) : Moves (Spares kind) (ofWorld step) := by
  intro stage
  rw [perform_ofWorld]
  exact ⟨_, rfl, by simpa using fun record _ => logged record⟩

theorem recorded_moves {A : Type} (logged : ∀ record, kind (.logged record) = false)
    (event : Bool -> Event) (spared : ∀ success, kind (event success) = false)
    (step : World S -> Except Error A × World S) : Moves (Spares kind) (recorded event step) := by
  intro stage
  rw [perform_recorded]
  refine ⟨_, rfl, List.forall_mem_append.mpr ⟨?_, by simpa using spared _⟩⟩
  simpa using fun record _ => logged record

theorem of_runsTo {before after : Stage S} {lines : List String} (runs : before.RunsTo lines after)
    (minor : ∀ event : Event, event.isMinor = true -> kind event = false) :
    Spares kind before after := by
  obtain ⟨events, ran, reached⟩ := runs
  exact ⟨events, by rw [reached]; rfl, fun event member => minor event (ran.minor event member)⟩

theorem countP {before after : Stage S} (spares : Spares kind before after) :
    after.journal.countP kind = before.journal.countP kind := by
  obtain ⟨events, journal, spared⟩ := spares
  have none : events.countP kind = 0 := by simpa [List.countP_eq_zero] using spared
  rw [journal, List.countP_append, none, Nat.add_zero]

theorem filter {before after : Stage S} (spares : Spares kind before after) :
    after.journal.filter kind = before.journal.filter kind := by
  obtain ⟨events, journal, spared⟩ := spares
  have none : events.filter kind = [] := by simpa using spared
  rw [journal, List.filter_append, none, List.append_nil]

structure Aloof (kind : Event -> Bool) : Prop where
  logged (record : LogRecord) : kind (.logged record) = false
  ran (line : String) : kind (.ran line) = false
  prompted : kind (.prompted Installation.question) = false
  answered (consent : Bool) : kind (.answered consent) = false
  planned (plan : InstallPlan) : kind (.planned plan) = false
  said (text : String) : kind (.noted .info text) = false
  reported (elapsed : Nat) : kind (.noted .warn (Installation.progressText elapsed)) = false

variable (aloof : Aloof kind)
include aloof

theorem install_moves (host : Host S) (context : Context) (python : PythonPaths) :
    Moves (Spares kind) (Installation.install host context python) := by
  refine Installation.install_moves host context python refl ?_
  intro stage result world events _ episode
  exact ⟨events, rfl, episode.forall_events host context python aloof.prompted aloof.answered
    aloof.planned aloof.ran aloof.logged aloof.said aloof.reported⟩

theorem groundwork (host : Host S) : Groundwork (Spares kind) host where
  logged entry := record_moves _ (aloof.logged entry)
  runs _ _ := (record_moves _ (aloof.ran _)).bind fun _ => ofWorld_moves aloof.logged _
  stores _ := ofWorld_moves aloof.logged _
  installs := install_moves aloof host

end Spares

def Blind {A : Type} (act : Act S A) : Prop :=
  ∀ stage other : Stage S, other.world = stage.world -> other.gate = stage.gate ->
    (act.perform other).1 = (act.perform stage).1 ∧
      (act.perform other).2.world = (act.perform stage).2.world ∧
      (act.perform other).2.gate = (act.perform stage).2.gate

namespace Blind

variable {A B : Type}

theorem of_quiet {act : Act S A} {lines : World S -> List String}
    {result : World S -> Except Error A} {later : World S -> World S}
    (quiet : ∀ world, act.Quiet world (lines world) (result world) (later world)) : Blind act := by
  intro stage other world gate
  obtain ⟨events, _, done⟩ := quiet stage.world stage rfl
  obtain ⟨more, _, doneOther⟩ := quiet stage.world other world
  rw [done, doneOther]
  exact ⟨rfl, rfl, gate⟩

theorem pure (value : A) : Blind (Pure.pure value : Act S A) :=
  fun _ _ world gate => ⟨rfl, world, gate⟩

theorem throw (error : Error) : Blind (MonadExcept.throw error : Act S A) :=
  fun _ _ world gate => ⟨rfl, world, gate⟩

theorem bind {act : Act S A} {next : A -> Act S B} (first : Blind act)
    (second : ∀ value, Blind (next value)) : Blind (act >>= next) := by
  intro stage other world gate
  obtain ⟨result, world, gate⟩ := first stage other world gate
  rcases performed : act.perform stage with ⟨_ | value, middle⟩ <;>
    rcases performedOther : act.perform other with ⟨_ | valueOther, middleOther⟩ <;>
    rw [performed, performedOther] at result world gate <;> cases result
  · rw [perform_bind_error performed, perform_bind_error performedOther]
    exact ⟨rfl, world, gate⟩
  · rw [perform_bind_ok performed, perform_bind_ok performedOther]
    exact second value middle middleOther world gate

theorem install (host : Host S) (context : Context) (python : PythonPaths) :
    Blind (Installation.install host context python) := by
  intro stage other world gate
  cases taken : stage.gate.busy with
  | true =>
    rw [Installation.install_busy host context python stage taken,
      Installation.install_busy host context python other (by rw [gate, taken])]
    exact ⟨rfl, world, gate⟩
  | false =>
    obtain ⟨later, events, episode, done⟩ :=
      Installation.install_free host context python stage taken
    obtain ⟨laterOther, more, episodeOther, doneOther⟩ :=
      Installation.install_free host context python other (by rw [gate, taken])
    rw [world] at episodeOther
    obtain ⟨result, rfl⟩ := episodeOther.unique host context python episode
    rw [done, doneOther]
    exact ⟨result, rfl, gate⟩

theorem survey (host : Host S) (context : Context) : Blind (Activation.survey host context) := by
  refine (of_quiet (Activation.makeStorage_quiet context)).bind fun _ => ?_
  refine (of_quiet fun world => Probe.python_quiet host world _).bind fun python => ?_
  have probes : Blind (do
      let system <- Probe.systemTools host context.settings
      Activation.logEnvironment context python system
      return (python, system) : Act S (Option PythonPaths × SystemTools)) := by
    refine (of_quiet fun world => Probe.systemTools_quiet host world _).bind fun system => ?_
    exact (of_quiet fun _ => quiet_log).bind fun _ => pure _
  split
  · exact (throw _).bind fun _ => probes
  · exact probes

theorem resolve (host : Host S) (context : Context) (python : Option PythonPaths)
    (system : SystemTools) : Blind (Activation.resolve host context python system) := by
  unfold Activation.resolve
  split
  · exact of_quiet fun world => Activation.resolveInterpreter_quiet host world _ system
  · rw [Activation.resolveTools_eq]
    refine (of_quiet fun world => Activation.consult_quiet context world system).bind fun _ => ?_
    split
    · exact pure _
    · unfold Activation.provision
      split
      · exact throw _
      · exact (install host context _).bind fun _ =>
          of_quiet fun world => Activation.reprobe_quiet host context world

theorem activation (host : Host S) (context : Context) :
    Blind (Activation.activate host context) := by
  cases enabled : context.settings.enable with
  | false => exact of_quiet fun world => Activation.activate_disabled host context world enabled
  | true =>
    rw [Activation.activate_eq host context enabled]
    exact (survey host context).bind fun found =>
      (resolve host context found.1 found.2).bind fun _ => pure _

end Blind

namespace Session

def stateOf : Except Error Activation -> SessionState
  | .ok .disabled => .disabled
  | .ok (.ready report) => .ready report
  | .error error => if error.isDegraded then .degraded error.message else .inactive

def verdictOf : Except Error Activation -> Except Error SessionState
  | .ok activation => .ok (stateOf (.ok activation))
  | .error error => if error.isDegraded then .ok (.degraded error.message) else .error error

def remarksOf : Except Error Activation -> List Event
  | .ok _ => []
  | .error error =>
    if error.isDegraded then [
      .logged (.make .session .warn "activation degraded" [("error", error.message)]),
      .noted .warn error.message]
    else []

theorem setState_perform (state : SessionState) (stage : Stage S) :
    (Session.setState state : Act S Unit).perform stage =
      (.ok (), { stage with state, journal := stage.journal ++ [.became state] }) := rfl

variable (host : Host S) (context : Context)

theorem activate_perform (before after : Stage S) (outcome : Except Error Activation)
    (activated : (Activation.activate host context).perform before = (outcome, after)) :
    (Session.activate host context).perform before =
      (verdictOf outcome, {
        after with
        state := stateOf outcome
        journal := after.journal ++ remarksOf outcome ++ [.became (stateOf outcome)] }) := by
  have reached : (Act.outcome (Activation.activate host context)).perform before =
      (.ok outcome, after) := by rw [perform_outcome, activated]
  rw [Session.activate, perform_bind_ok reached]
  rcases outcome with error | _ | report
  · dsimp only [stateOf, verdictOf, remarksOf]
    cases error.isDegraded <;> simp [perform_bind, perform_map, setState_perform, Stage.extend]
  · simp [perform_map, setState_perform, stateOf, verdictOf, remarksOf]
  · simp [perform_map, setState_perform, stateOf, verdictOf, remarksOf]

theorem isDegraded_of_ne {error : Error} (other : error ≠ .installDeclined) :
    error.isDegraded = false := by
  cases error <;> simp_all [Error.isDegraded]

def isWarning (text : String) : Event -> Bool
  | .noted .warn said => said == text
  | _ => false

theorem progressText_ne (elapsed : Nat) :
    Installation.progressText elapsed ≠ Error.installDeclined.message := by
  have shown : (Installation.progressText elapsed).toList.head? = some 'a' := by
    unfold Installation.progressText
    simp [toString]
  intro same
  rw [same] at shown
  cases shown

theorem isWarning_aloof : Spares.Aloof (isWarning Error.installDeclined.message) where
  logged _ := rfl
  ran _ := rfl
  prompted := rfl
  answered _ := rfl
  planned _ := rfl
  said _ := rfl
  reported elapsed := by simpa [isWarning] using progressText_ne elapsed

def warningsDue : Except Error Activation -> Nat
  | .error .installDeclined => 1
  | _ => 0

/-- How an activation settles a session, by what it came to. -/
structure Settled (outcome : Except Error Activation) (before : Stage S)
    (result : Except Error SessionState) (after : Stage S) : Prop where
  degraded (reason : String) : after.state = .degraded reason ↔
    outcome = .error .installDeclined ∧ reason = Error.installDeclined.message
  inactive : after.state = .inactive ↔ ∃ error, outcome = .error error ∧ error ≠ .installDeclined
  disabled : after.state = .disabled ↔ outcome = .ok .disabled
  ready (report : Report) : after.state = .ready report ↔ outcome = .ok (.ready report)
  failed (error : Error) : result = .error error ↔
    outcome = .error error ∧ error ≠ .installDeclined
  succeeded (state : SessionState) : result = .ok state ↔ after.state = state ∧ state ≠ .inactive
  warned : ∃ events, after.journal = before.journal ++ events ∧
    events.countP (isWarning Error.installDeclined.message) = warningsDue outcome

theorem remarks_warn (outcome : Except Error Activation) :
    (remarksOf outcome).countP (isWarning Error.installDeclined.message) =
      warningsDue outcome := by
  rcases outcome with error | activation
  · cases error <;> rfl
  · rfl

theorem activate_settles (before after : Stage S) (outcome : Except Error Activation)
    (activated : (Activation.activate host context).perform before = (outcome, after)) :
    Settled outcome before ((Session.activate host context).perform before).1
      ((Session.activate host context).perform before).2 := by
  have activates := activate_perform host context before after outcome activated
  have spares := (Spares.groundwork isWarning_aloof host).activation_moves context before
  rw [activated] at spares
  obtain ⟨events, journal, spared⟩ := spares
  rw [activates]
  constructor
  case warned =>
    refine ⟨events ++ (remarksOf outcome ++ [.became (stateOf outcome)]), ?_, ?_⟩
    · simp [← List.append_assoc, ← journal]
    · have quiet : events.countP (isWarning Error.installDeclined.message) = 0 := by
        simpa [List.countP_eq_zero] using spared
      simp [quiet, remarks_warn, isWarning]
  all_goals
    rcases outcome with error | _ | report
    · by_cases other : error = .installDeclined
      · subst other
        grind [stateOf, verdictOf, Error.isDegraded]
      · grind [stateOf, verdictOf, isDegraded_of_ne other]
    · grind [stateOf, verdictOf]
    · grind [stateOf, verdictOf]

end Session

end AnsibleTooling
