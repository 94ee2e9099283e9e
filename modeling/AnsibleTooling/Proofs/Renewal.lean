import AnsibleTooling.Proofs.MachineLaws
import AnsibleTooling.Proofs.OnDemand
import AnsibleTooling.Proofs.ReportConsistency

set_option autoImplicit false

namespace AnsibleTooling.OnDemand

open Act

variable {S : Type}

/-- Once stopped a client does not run, and running programs, asking and installing have nothing to
do with it. -/
structure Steered (host : Host S) : Prop where
  inner (world other : World S) : world.inner = other.inner ->
    host.client.isRunning world = host.client.isRunning other
  stop (world : World S) : (host.client.stop world).1 = .ok () ->
    host.client.isRunning (host.client.stop world).2 = false
  runs (program : Path) (arguments : List Bytes) (world : World S) :
    host.client.isRunning (host.runner.run program arguments world).2 =
      host.client.isRunning world
  confirms (question : String) (world : World S) :
    host.client.isRunning (host.confirm question world).2 = host.client.isRunning world
  installs (plan : InstallPlan) (world : World S) :
    host.client.isRunning (host.install plan world).world = host.client.isRunning world

theorem steered_of_lawful {host : Host S} {shows : World S -> Option Showing}
    (lawful : Resources.Lawful host.client host.terminal shows)
    (apart : Resources.Apart host (Resources.viewOf host.client shows)) : Steered host where
  inner world other same := congrArg Resources.View.running (lawful.inner world other same)
  stop world stopped := by
    have law := lawful.stop world
    rw [stopped] at law
    exact congrArg Resources.View.running law
  runs program arguments world :=
    congrArg Resources.View.running (apart.runs program arguments world)
  confirms question world := congrArg Resources.View.running (apart.confirms question world)
  installs plan world := congrArg Resources.View.running (apart.installs plan world)

theorem steered_machine (assumeYes : Bool) : Steered (Machine.host assumeYes) :=
  steered_of_lawful Machine.machine_lawful (Machine.machine_apart assumeYes)

def Still (host : Host S) (before after : Stage S) : Prop :=
  host.client.isRunning after.world = host.client.isRunning before.world

instance (host : Host S) : IsPreorder (Stage S) (Still host) where
  refl _ := rfl
  trans _ _ _ first second := Eq.trans second first

section Steered

variable {host : Host S} (steered : Steered host)
include steered

theorem settled_still (world : World S) :
    host.client.isRunning world.settled = host.client.isRunning world :=
  steered.inner _ _ rfl

theorem ofWorld_still {A : Type} (step : World S -> Except Error A × World S)
    (same : ∀ world, host.client.isRunning (step world).2 = host.client.isRunning world) :
    Moves (Still host) (ofWorld step) := by
  intro stage
  rw [perform_ofWorld]
  exact (settled_still steered _).trans (same stage.world)

theorem install_still (context : Context) (python : PythonPaths) :
    Moves (Still host) (Installation.install host context python) := by
  refine Installation.install_moves host context python refl ?_
  intro stage result world events _ episode
  exact episode.same_view host context python (settled_still steered) steered.confirms
    steered.installs

theorem upkeep_still : Upkeep (Still host) host where
  logged _ _ := rfl
  runs program arguments :=
    Moves.bind (fun _ => rfl) fun _ => ofWorld_still steered _ (steered.runs program arguments)
  stores _ := ofWorld_still steered _ fun _ => steered.inner _ _ rfl
  installs := install_still steered
  noted _ _ _ := rfl
  becomes _ _ := rfl

theorem stopped_of_paused {before paused : Stage S} (pauses : Paused host before paused)
    (stops : host.client.isRunning before.world = true ->
      (host.client.stop before.world).1 = .ok ()) :
    host.client.isRunning paused.world = false := by
  rw [pauses.world]
  split
  next running => exact (settled_still steered _).trans (steered.stop _ (stops running))
  next stopped => simpa using stopped

end Steered

def isSteering : Event -> Bool
  | .clientStarted .. | .clientStopped _ | .sent .. => true
  | _ => false

theorem spares_upkeep (host : Host S) : Upkeep (Spares isSteering) host where
  toGroundwork := Spares.groundwork ⟨fun _ => rfl, fun _ => rfl, rfl, fun _ => rfl, fun _ => rfl,
    fun _ => rfl, fun _ => rfl⟩ host
  noted _ _ := Spares.record_moves _ rfl
  becomes state _ := ⟨[.became state], rfl, by simp [isSteering]⟩

structure Started (host : Host S) (launch : ServerLaunch) (installed : Except Error Unit)
    (stage : Stage S) (result : Except Error Unit) (after : Stage S) : Prop where
  result : result = (host.client.start launch stage.world).1.bind fun _ => installed
  after : after = stage.extend (host.client.start launch stage.world).2.settled
    ((starting launch :: (host.client.start launch stage.world).2.records).map .logged ++
      [.clientStarted launch (host.client.start launch stage.world).1.isOk])

structure Resumed (host : Host S) (context : Context) (wasRunning : Bool)
    (installed : Except Error Unit) (stage : Stage S) (result : Except Error Unit)
    (after : Stage S) : Prop where
  state : after.state = stage.state
  rests : (wasRunning = true -> stage.state.report? = none) -> result = installed ∧ after = stage
  restarts : wasRunning = true -> stage.state.report?.isSome = true ->
    (Session.startClient host context.settings).perform stage = (.ok (), after) ∧
        result = installed ∨
      ∃ error, (Session.startClient host context.settings).perform stage = (.error error, after) ∧
        result = .error error
  starts (report : Report) : Steered host -> wasRunning = true -> stage.state = .ready report ->
    Started host (Resources.launchFor context.settings stage.world report) installed stage result
      after

def SameState (before after : Stage S) : Prop :=
  after.state = before.state

instance : IsPreorder (Stage S) SameState where
  refl _ := rfl
  trans _ _ _ first second := Eq.trans second first

theorem recorded_same_state {A : Type} (event : Bool -> Event)
    (step : World S -> Except Error A × World S) : Moves SameState (recorded event step) := by
  intro stage
  rw [perform_recorded]
  exact rfl

theorem startClient_same_state (host : Host S) (settings : Settings) :
    Moves SameState (Session.startClient host settings) :=
  Session.startClient_moves (fun _ _ => rfl) (recorded_same_state _ _)
    (fun _ => recorded_same_state _ _) settings

theorem install_same_state (host : Host S) (context : Context) (python : PythonPaths) :
    Moves SameState (Installation.install host context python) :=
  Installation.install_moves host context python refl fun _ _ _ _ _ _ => rfl

theorem resume_resumes (host : Host S) (context : Context) (wasRunning : Bool)
    (installed : Except Error Unit) (stage : Stage S)
    (stopped : Steered host -> host.client.isRunning stage.world = false) :
    Resumed host context wasRunning installed stage
      ((resume host context wasRunning installed).perform stage).1
      ((resume host context wasRunning installed).perform stage).2 := by
  have performed := resume_perform host context wasRunning installed stage
  rw [performed]
  constructor
  case state =>
    have same := startClient_same_state host context.settings stage
    split
    · split <;> simp_all [SameState]
    · rfl
  case rests =>
    intro idle
    rw [if_neg]
    · exact ⟨rfl, rfl⟩
    · intro both
      simp_all
  case restarts =>
    intro running ready
    rw [if_pos (by simp [running, ready])]
    rcases (Session.startClient host context.settings).perform stage with ⟨error | _, started⟩
    · exact .inr ⟨error, rfl, rfl⟩
    · exact .inl ⟨rfl, rfl⟩
  case starts =>
    intro report steered running ready
    rw [if_pos (by simp [running, ready, SessionState.report?]),
      startClient_perform host _ ready (stopped steered), launchClient_perform]
    generalize Resources.launchFor context.settings stage.world report = launch
    rcases started : host.client.start launch stage.world with ⟨_ | _, world⟩ <;>
      exact ⟨by rw [started]; rfl, by rw [started]⟩

/-- What becomes of an installation on demand once the client is stopped. -/
inductive Renewal (host : Host S) (context : Context) (python : PythonPaths) (wasRunning : Bool)
    (paused : Stage S) (result : Except Error Unit) (after : Stage S) : Prop
  | failed (error : Error) (left : Stage S)
    (installs : (Installation.install host context python).perform paused = (.error error, left))
    (untouched : Spares isSteering paused left) (kept : left.state = paused.state)
    (resumed : Resumed host context wasRunning (.error error) left result after)
  | unrenewed (left : Stage S) (error : Error)
    (installs : (Installation.install host context python).perform paused = (.ok (), left))
    (activates : (Session.activate host context).perform (renewing left) = (.error error, after))
    (untouched : Spares isSteering paused after) (ends : result = .error error)
  | renewed (left activated : Stage S) (state : SessionState)
    (installs : (Installation.install host context python).perform paused = (.ok (), left))
    (activates : (Session.activate host context).perform (renewing left) = (.ok state, activated))
    (untouched : Spares isSteering paused activated) (becomes : activated.state = state)
    (resumed : Resumed host context wasRunning (.ok ()) activated result after)

theorem activate_state (host : Host S) (context : Context) {before after : Stage S}
    {state : SessionState}
    (activates : (Session.activate host context).perform before = (.ok state, after)) :
    after.state = state ∧ state ≠ .inactive := by
  rcases activated : (Activation.activate host context).perform before with ⟨outcome, reached⟩
  have settles := Session.activate_settles host context before reached outcome activated
  rw [activates] at settles
  exact (settles.succeeded state).mp rfl

theorem reinstall_renews (host : Host S) (context : Context) (python : PythonPaths)
    (wasRunning : Bool) (paused : Stage S)
    (stopped : Steered host -> host.client.isRunning paused.world = false) :
    Renewal host context python wasRunning paused
      ((reinstall host context python wasRunning).perform paused).1
      ((reinstall host context python wasRunning).perform paused).2 := by
  have spares := spares_upkeep host
  have untouched := spares.installs context python paused
  have kept := install_same_state host context python paused
  have still := fun steered : Steered host => install_still steered context python paused
  rw [reinstall_perform]
  rcases installs : (Installation.install host context python).perform paused with
    ⟨error | _, left⟩ <;> rw [installs] at untouched kept still
  · exact .failed error left installs untouched kept
      (resume_resumes host context wasRunning _ left fun steered =>
        (still steered).trans (stopped steered))
  · have logged : Spares isSteering left (renewing left) := spares.logged _ left
    have sparesMore := spares.activate_moves context (renewing left)
    have stillMore := fun steered : Steered host =>
      (upkeep_still steered).activate_moves context (renewing left)
    dsimp only [renew]
    rcases activates : (Session.activate host context).perform (renewing left) with
      ⟨error | state, activated⟩ <;> rw [activates] at sparesMore stillMore
    · exact .unrenewed left error installs activates
        (Trans.trans untouched (Trans.trans logged sparesMore)) rfl
    · exact .renewed left activated state installs activates
        (Trans.trans untouched (Trans.trans logged sparesMore))
        (activate_state host context activates).1
        (resume_resumes host context wasRunning _ activated fun steered =>
          (stillMore steered).trans ((still steered).trans (stopped steered)))

section OtherInstaller

def AgreesWhileStopped (host : Host S) (other : Installer S) : Prop :=
  ∀ plan world, host.client.isRunning world = false -> other plan world = host.install plan world

def SameWhileStopped {A : Type} (host : Host S) (act other : Act S A) : Prop :=
  ∀ stage, host.client.isRunning stage.world = false -> other.perform stage = act.perform stage

variable {A B : Type} {host : Host S}

theorem SameWhileStopped.refl (act : Act S A) : SameWhileStopped host act act :=
  fun _ _ => rfl

theorem SameWhileStopped.bind {act other : Act S A} {next nextOther : A -> Act S B}
    (first : SameWhileStopped host act other) (still : Moves (Still host) act)
    (second : ∀ value, SameWhileStopped host (next value) (nextOther value)) :
    SameWhileStopped host (act >>= next) (other >>= nextOther) := by
  intro stage stopped
  have same := first stage stopped
  have stays := still stage
  rw [perform_bind, perform_bind, same]
  rcases performed : act.perform stage with ⟨_ | value, middle⟩
  · rfl
  · rw [performed] at stays
    exact second value middle (stays.trans stopped)

theorem SameWhileStopped.outcome {act other : Act S A} (same : SameWhileStopped host act other) :
    SameWhileStopped host (outcome act) (outcome other) := by
  intro stage stopped
  rw [perform_outcome, perform_outcome, same stage stopped]

variable (steered : Steered host) {other : Installer S} (agrees : AgreesWhileStopped host other)
include steered agrees

theorem admitted_agrees (context : Context) (python : PythonPaths) :
    SameWhileStopped host (Installation.admitted host context python)
      (Installation.admitted { host with install := other } context python) := by
  intro stage stopped
  -- The prompt is the same, so that only an answer of yes lets the installers differ.
  have confirms : Installation.confirm { host with install := other } = Installation.confirm host :=
    rfl
  cases asked : (host.confirm Installation.question stage.world).1 with
  | error error =>
    have answer := Installation.confirm_perform host stage
    rw [asked] at answer
    rw [Installation.admitted, Installation.admitted, confirms, perform_bind_error answer,
      perform_bind_error answer]
  | ok consent =>
    cases consent with
    | false =>
      have answer := Installation.confirm_perform host stage
      rw [asked] at answer
      rw [Installation.admitted, Installation.admitted, confirms, perform_bind_ok answer,
        perform_bind_ok answer]
      simp only [Bool.not_false, if_true, perform_bind, perform_log, perform_throw]
    | true =>
      have still : host.client.isRunning
          (host.confirm Installation.question stage.world).2.settled = false :=
        (settled_still steered _).trans ((steered.confirms _ _).trans stopped)
      have same := agrees (Installation.planOf context python) _ still
      rw [Installation.admitted_of_consent host context python stage asked,
        Installation.admitted_of_consent { host with install := other } context python stage asked]
      simp only [Installation.attemptAt, same, Installation.inquiry]

theorem install_agrees (context : Context) (python : PythonPaths) :
    SameWhileStopped host (Installation.install host context python)
      (Installation.install { host with install := other } context python) := by
  intro stage stopped
  have admits := admitted_agrees steered agrees context python
    { stage with gate := { busy := true } } stopped
  cases taken : stage.gate.busy with
  | true => rw [Installation.install_busy _ _ _ _ taken, Installation.install_busy _ _ _ _ taken]
  | false => simp [Installation.install, perform_bind, Gate.acquire, taken, admits]

theorem resolve_agrees (context : Context) (python : Option PythonPaths) (system : SystemTools) :
    SameWhileStopped host (Activation.resolve host context python system)
      (Activation.resolve { host with install := other } context python system) := by
  have groundwork := (upkeep_still steered).toGroundwork
  unfold Activation.resolve
  split
  · exact .refl _
  · rw [Activation.resolveTools_eq, Activation.resolveTools_eq]
    have consults : Moves (Still host) (Activation.consult context system) := by
      unfold Activation.consult
      split
      · exact groundwork.managedTools_moves context
      · exact moves_pure _
    refine (SameWhileStopped.refl _).bind consults fun builtin => ?_
    split
    · exact .refl _
    · cases python with
      | none => exact .refl _
      | some python =>
        exact (install_agrees steered agrees context python).bind
          (groundwork.installs context python) fun _ => .refl _

theorem activate_agrees (context : Context) :
    SameWhileStopped host (Session.activate host context)
      (Session.activate { host with install := other } context) := by
  have groundwork := (upkeep_still steered).toGroundwork
  have activates : SameWhileStopped host (Activation.activate host context)
      (Activation.activate { host with install := other } context) := by
    cases enabled : context.settings.enable with
    | false =>
      unfold Activation.activate
      simp only [enabled, Bool.not_false, if_true]
      exact .refl _
    | true =>
      rw [Activation.activate_eq host context enabled, Activation.activate_eq _ context enabled]
      refine (SameWhileStopped.refl _).bind (groundwork.survey_moves context) fun found => ?_
      exact (resolve_agrees steered agrees context found.1 found.2).bind
        (groundwork.resolve_moves context found.1 found.2) fun _ => .refl _
  exact activates.outcome.bind (groundwork.activation_moves context).outcome fun _ => .refl _

theorem reinstall_agrees (context : Context) (python : PythonPaths) (wasRunning : Bool) :
    SameWhileStopped host (reinstall host context python wasRunning)
      (reinstall { host with install := other } context python wasRunning) := by
  have upkeep := upkeep_still steered
  refine (install_agrees steered agrees context python).outcome.bind
    (upkeep.installs context python).outcome fun installed => ?_
  split
  · refine (SameWhileStopped.refl _).bind upkeep.log_moves fun _ => ?_
    exact (activate_agrees steered agrees context).bind (upkeep.activate_moves context)
      fun _ => .refl _
  · exact .refl _

theorem installTools_agrees (context : Context) (before : Stage S) :
    (Session.installTools { host with install := other } context).perform before =
      (Session.installTools host context).perform before := by
  have searches : Session.installPython { host with install := other } context =
      Session.installPython host context := rfl
  unfold Session.installTools
  rw [searches, perform_bind, perform_bind]
  rcases (Session.installPython host context).perform before with ⟨_ | python, searched⟩
  · rfl
  dsimp only
  rw [perform_bind_ok (Session.clientIsRunning_perform host searched),
    perform_bind_ok (Session.clientIsRunning_perform _ searched)]
  have reinstalls := reinstall_agrees steered agrees context python
  cases running : host.client.isRunning searched.world with
  | false => exact reinstalls false searched running
  | true =>
    simp only [if_true]
    have stops := perform_recorded searched .clientStopped host.client.stop
    rcases stopped : host.client.stop searched.world with ⟨error | _, world⟩ <;>
      rw [stopped] at stops
    · exact (perform_bind_error stops).trans (perform_bind_error stops).symm
    · have law := steered.stop searched.world (by rw [stopped])
      rw [stopped] at law
      refine (perform_bind_ok stops).trans (Eq.trans ?_ (perform_bind_ok stops).symm)
      exact reinstalls true _ ((settled_still steered world).trans law)

end OtherInstaller

structure Dealing (host : Host S) (context : Context) (before : Stage S)
    (result : Except Error Unit) (after : Stage S) : Prop where
  -- Without an interpreter nothing is touched.
  lost : interpreterFor host context before = none ->
    result = .error .interpreterMissing ∧ before.RunsTo [] after ∧ after.world = before.world
  -- A client that cannot be stopped is all that was tried.
  unstopped (error : Error) : (interpreterFor host context before).isSome = true ->
    host.client.isRunning before.world = true -> (host.client.stop before.world).1 = .error error ->
    result = .error error ∧ Paused host before after
  renews (python : PythonPaths) : interpreterFor host context before = some python ->
    (host.client.isRunning before.world = true -> (host.client.stop before.world).1 = .ok ()) ->
    ∃ paused, Paused host before paused ∧
      Renewal host context python (host.client.isRunning before.world) paused result after
  unstarted : host.client.isRunning before.world = false -> Spares isSteering before after
  stopped : Steered host -> ∀ other, AgreesWhileStopped host other ->
    (Session.installTools { host with install := other } context).perform before = (result, after)

theorem spares_of_paused {host : Host S} {before paused : Stage S}
    (pauses : Paused host before paused)
    (stopped : host.client.isRunning before.world = false) : Spares isSteering before paused := by
  obtain ⟨records, journal⟩ := pauses.journal
  refine ⟨records.map .logged, ?_, by simp [isSteering]⟩
  simpa [stopped] using journal

theorem spares_of_renewal {host : Host S} {context : Context} {python : PythonPaths}
    {paused after : Stage S} {result : Except Error Unit}
    (renewal : Renewal host context python false paused result after) :
    Spares isSteering paused after := by
  cases renewal with
  | failed error left _ untouched _ resumed =>
    rw [(resumed.rests (by simp)).2]
    exact untouched
  | unrenewed left error _ _ untouched _ => exact untouched
  | renewed left activated state _ _ untouched _ resumed =>
    rw [(resumed.rests (by simp)).2]
    exact untouched

theorem installTools_deals (host : Host S) (context : Context) (before : Stage S) :
    Dealing host context before ((Session.installTools host context).perform before).1
      ((Session.installTools host context).perform before).2 := by
  have lost := installTools_lost host context before
  have pauses := installTools_pauses host context before
  have renews (python : PythonPaths) (known : interpreterFor host context before = some python)
      (stops : host.client.isRunning before.world = true ->
        (host.client.stop before.world).1 = .ok ()) :
      ∃ paused, Paused host before paused ∧
        Renewal host context python (host.client.isRunning before.world) paused
          ((Session.installTools host context).perform before).1
          ((Session.installTools host context).perform before).2 := by
    obtain ⟨paused, pauses, performed⟩ := pauses python known
    have stopped : (if host.client.isRunning before.world then (host.client.stop before.world).1
        else .ok ()) = .ok () := by
      split
      next running => exact stops running
      next => rfl
    rw [stopped] at performed
    refine ⟨paused, pauses, ?_⟩
    rw [performed]
    exact reinstall_renews host context python _ paused fun steered =>
      stopped_of_paused steered pauses stops
  constructor
  case lost =>
    intro missing
    obtain ⟨after, searches, same, performed⟩ := lost missing
    rw [performed]
    exact ⟨rfl, searches, same⟩
  case unstopped =>
    intro error known running stuck
    obtain ⟨python, known⟩ := Option.isSome_iff_exists.mp known
    obtain ⟨paused, pauses, performed⟩ := pauses python known
    rw [running, if_pos rfl, stuck] at performed
    rw [performed]
    exact ⟨rfl, pauses⟩
  case renews => exact renews
  case unstarted =>
    intro stopped
    cases known : interpreterFor host context before with
    | none =>
      obtain ⟨after, ⟨events, ran, reached⟩, _, performed⟩ := lost known
      obtain ⟨records, rfl⟩ := ran.eq_records
      rw [performed, reached]
      exact ⟨_, rfl, by simp [isSteering]⟩
    | some python =>
      obtain ⟨paused, pauses, renewal⟩ := renews python known (by simp [stopped])
      rw [stopped] at renewal
      exact Trans.trans (spares_of_paused pauses stopped) (spares_of_renewal renewal)
  case stopped =>
    intro steered other agrees
    exact installTools_agrees steered agrees context before

def bareHost : Host Rehearsal.Props :=
  Rehearsal.host Activation.bareMachine .posix

def bareSession : Stage Rehearsal.Props :=
  ((do
    let _ <- Session.activate bareHost Activation.bareContext
    Session.startClient bareHost Activation.bareContext.settings :
    Act Rehearsal.Props Unit).perform Activation.bareStage).2

def bareRenewal : Except Error Unit × Stage Rehearsal.Props :=
  (Session.installTools bareHost Activation.bareContext).perform bareSession

theorem installTools_deals_bareMachine :
    Steered bareHost ∧ bareHost.client.isRunning bareSession.world = true ∧
      (interpreterFor bareHost Activation.bareContext bareSession).isSome = true ∧
      Dealing bareHost Activation.bareContext bareSession bareRenewal.1 bareRenewal.2 ∧
      bareRenewal.1.isOk = true ∧ bareHost.client.isRunning bareRenewal.2.world = true ∧
      bareRenewal.2.journal.countP Event.isStart =
        bareSession.journal.countP Event.isStart + 1 :=
  ⟨steered_of_lawful Rehearsal.props_lawful (Rehearsal.host_apart _ _), by decide +kernel,
    by decide +kernel, installTools_deals _ _ _, by decide +kernel, by decide +kernel,
    by decide +kernel⟩

end AnsibleTooling.OnDemand
