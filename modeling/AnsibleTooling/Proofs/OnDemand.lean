import AnsibleTooling.Proofs.Outcomes
import AnsibleTooling.Proofs.Resources

set_option autoImplicit false

namespace AnsibleTooling.OnDemand

open Act

variable {S : Type} (host : Host S) (context : Context)

def interpreterFor (stage : Stage S) : Option PythonPaths :=
  (stage.state.report?.bind Report.python).or
    (Probe.interpreter host stage.world context.settings.python.configuredInterpreter)

theorem installPython_perform (before : Stage S) :
    ∃ searched, before.RunsTo [] searched ∧ searched.world = before.world ∧
      (Session.installPython host context).perform before =
        ((interpreterFor host context before).elim (.error .interpreterMissing) .ok, searched) := by
  rw [Session.installPython, perform_bind_ok (Session.report_perform before)]
  cases known : before.state.report?.bind Report.python with
  | some python => exact ⟨before, .refl before, rfl, by simp [interpreterFor, known]⟩
  | none =>
    obtain ⟨searched, ran, same, done⟩ := (Probe.python_quiet host before.world
      context.settings.python.configuredInterpreter).reaches
    refine ⟨searched, ran, same, ?_⟩
    dsimp only
    rw [perform_bind_ok done, interpreterFor, known, Option.none_or]
    split <;> simp_all

/-- Where the installation starts, if the client could be stopped, or else where all ends. -/
structure Paused (before paused : Stage S) : Prop where
  state : paused.state = before.state
  gate : paused.gate = before.gate
  world : paused.world =
    if host.client.isRunning before.world then (host.client.stop before.world).2.settled
    else before.world
  journal : ∃ records : List LogRecord,
    paused.journal = before.journal ++ records.map .logged ++
      if host.client.isRunning before.world then
        [.clientStopped (host.client.stop before.world).1.isOk]
      else []

theorem pause_pauses {before searched : Stage S} (searches : before.RunsTo [] searched)
    (same : searched.world = before.world) :
    ∃ paused, Paused host before paused ∧
      (pause host).perform searched =
        (if host.client.isRunning before.world then (host.client.stop before.world).1 else .ok (),
          paused) := by
  obtain ⟨events, ran, reached⟩ := searches
  obtain ⟨records, rfl⟩ := ran.eq_records
  rw [reached, same, pause_perform, Session.stopClient, perform_recorded, Stage.extend_world]
  cases running : host.client.isRunning before.world with
  | true =>
    refine ⟨_, ?_, rfl⟩
    refine ⟨rfl, rfl, by simp [running], ?_⟩
    exact ⟨records ++ (host.client.stop before.world).2.records, by simp [running]⟩
  | false =>
    refine ⟨_, ?_, rfl⟩
    exact ⟨rfl, rfl, by simp [running], records, by simp [running]⟩

theorem installTools_lost (before : Stage S) (missing : interpreterFor host context before = none) :
    ∃ after, before.RunsTo [] after ∧ after.world = before.world ∧
      (Session.installTools host context).perform before = (.error .interpreterMissing, after) := by
  obtain ⟨after, searches, same, done⟩ := installPython_perform host context before
  rw [missing] at done
  exact ⟨after, searches, same, perform_bind_error done⟩

theorem installTools_pauses (before : Stage S) (python : PythonPaths)
    (known : interpreterFor host context before = some python) :
    ∃ paused, Paused host before paused ∧
      (Session.installTools host context).perform before =
        match if host.client.isRunning before.world then (host.client.stop before.world).1
          else .ok () with
        | .error error => (.error error, paused)
        | .ok _ =>
          (reinstall host context python (host.client.isRunning before.world)).perform paused := by
  obtain ⟨searched, searches, same, done⟩ := installPython_perform host context before
  rw [known] at done
  obtain ⟨paused, pauses, stopped⟩ := pause_pauses host searches same
  refine ⟨paused, pauses, ?_⟩
  rw [Session.installTools, perform_bind_ok done,
    perform_bind_ok (Session.clientIsRunning_perform host searched), same]
  rw [pause_perform, same] at stopped
  cases running : host.client.isRunning before.world with
  | true =>
    simp only [running, if_true] at stopped ⊢
    rw [perform_bind, stopped]
    cases (host.client.stop before.world).1 <;> rfl
  | false =>
    simp only [running, Bool.false_eq_true, if_false] at stopped ⊢
    cases stopped
    rfl

def starting (launch : ServerLaunch) : LogRecord :=
  .make .session .info "starting language server" [("program", launch.command.program.display)]

theorem launchClient_perform (launch : ServerLaunch) (stage : Stage S) :
    (launchClient host launch).perform stage =
      ((host.client.start launch stage.world).1,
        stage.extend (host.client.start launch stage.world).2.settled
          ((starting launch :: (host.client.start launch stage.world).2.records).map .logged ++
            [.clientStarted launch (host.client.start launch stage.world).1.isOk])) := by
  rw [launchClient, perform_bind_ok (perform_log ..), perform_recorded]
  simp [starting]

theorem startClient_perform {stage : Stage S} {report : Report} (settings : Settings)
    (ready : stage.state = .ready report) (stopped : host.client.isRunning stage.world = false) :
    (Session.startClient host settings).perform stage =
      (launchClient host (Resources.launchFor settings stage.world report)).perform stage := by
  have paused : (pause host).perform stage = (.ok (), stage) := by simp [stopped]
  rw [startClient_eq, perform_bind_ok (Resources.launch_ready settings ready),
    perform_bind_ok paused]

theorem resume_perform (wasRunning : Bool) (installed : Except Error Unit) (stage : Stage S) :
    (resume host context wasRunning installed).perform stage =
      if wasRunning && stage.state.report?.isSome then
        match (Session.startClient host context.settings).perform stage with
        | (.ok _, started) => (installed, started)
        | (.error error, started) => (.error error, started)
      else (installed, stage) := by
  rw [resume, perform_bind_ok (Session.report_perform stage)]
  split
  next restarts =>
    rw [perform_bind]
    split <;> simp_all
  next => exact perform_ofExcept stage installed

theorem resume_fails (wasRunning : Bool) (error : Error) (stage : Stage S) :
    ∃ last, ((resume host context wasRunning (.error error)).perform stage).1 = .error last := by
  rw [resume_perform]
  split
  · split <;> exact ⟨_, rfl⟩
  · exact ⟨_, rfl⟩

def renewing (left : Stage S) : Stage S :=
  left.extend left.world
    [.logged (.make .installing .info "re-running activation after install" [])]

def renew (wasRunning : Bool) (left : Stage S) : Except Error Unit × Stage S :=
  match (Session.activate host context).perform (renewing left) with
  | (.ok _, activated) => (resume host context wasRunning (.ok ())).perform activated
  | (.error error, activated) => (.error error, activated)

theorem reinstall_perform (python : PythonPaths) (wasRunning : Bool) (paused : Stage S) :
    (reinstall host context python wasRunning).perform paused =
      match (Installation.install host context python).perform paused with
      | (.error error, left) => (resume host context wasRunning (.error error)).perform left
      | (.ok _, left) => renew host context wasRunning left := by
  have outcome := perform_outcome paused (Installation.install host context python)
  rw [reinstall, perform_bind_ok outcome]
  rcases (Installation.install host context python).perform paused with ⟨error | _, left⟩
  · rfl
  · simp only [Except.isOk, Except.toBool, if_true, renew]
    rw [perform_bind_ok (perform_log ..)]
    rcases activated : (Session.activate host context).perform (renewing left) with ⟨_ | _, _⟩
    · exact perform_bind_error activated
    · exact perform_bind_ok activated

end AnsibleTooling.OnDemand
