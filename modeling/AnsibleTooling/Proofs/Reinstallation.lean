import AnsibleTooling.Proofs.Conduct
import AnsibleTooling.Proofs.OnDemand
import AnsibleTooling.Proofs.ReportConsistency
import AnsibleTooling.Proofs.Steadiness

set_option autoImplicit false

namespace AnsibleTooling.Reinstallation

open Act

variable {S : Type}

/-- All managed tools that a report names are files; among them is `ansible`, if the report makes use
of the managed environment. -/
structure Grounded (world : World S) (report : Report) : Prop where
  files (tool : Tool) (path : Path) : report.resolution.builtin.get tool = some path ->
    Files.isFile world.tree world.workDir path = true
  managed : report.resolution.usesBuiltin = true ->
    ∃ path, report.resolution.builtin.ansible = some path ∧
      Files.isFile world.tree world.workDir path = true

theorem grounded_of_files {world : World S} {report : Report}
    (files : ∀ tool path, report.resolution.builtin.get tool = some path ->
      Files.isFile world.tree world.workDir path = true) : Grounded world report := by
  refine ⟨files, fun used => ?_⟩
  simp only [Resolution.usesBuiltin, BuiltinTools.isUsable, Bool.and_eq_true] at used
  obtain ⟨path, named⟩ := Option.isSome_iff_exists.mp used.1.2
  exact ⟨path, named, files .ansible path named⟩

def IsGrounded (stage : Stage S) : Prop :=
  ∀ report, stage.state = .ready report -> Grounded stage.world report

structure FilesApart (host : Host S) : Prop where
  confirms (question : String) (world : World S) : Alike world (host.confirm question world).2
  starts (launch : ServerLaunch) (world : World S) : Alike world (host.client.start launch world).2
  stops (world : World S) : Alike world (host.client.stop world).2

structure Kept (before after : Stage S) : Prop where
  state : after.state = before.state
  files : Alike before.world after.world

instance : IsPreorder (Stage S) Kept where
  refl stage := ⟨rfl, .refl stage.world⟩
  trans _ _ _ first second := ⟨second.state.trans first.state, first.files.trans second.files⟩

theorem IsGrounded.kept {before after : Stage S} (grounded : IsGrounded before)
    (kept : Kept before after) : IsGrounded after := by
  intro report ready
  rw [kept.state] at ready
  refine grounded_of_files fun tool path named => ?_
  exact (kept.files.leadsTo _ _).symm.trans ((grounded report ready).files tool path named)

theorem kept_of_moves {A : Type} {act : Act S A} {before after : Stage S} {result : Except Error A}
    (moves : Moves Kept act) (performed : act.perform before = (result, after)) :
    Kept before after := by
  have kept := moves before
  rwa [performed] at kept

section Steps

theorem record_kept (event : Event) : Moves Kept (record event : Act S Unit) :=
  fun stage => ⟨rfl, .refl stage.world⟩

theorem recorded_kept {A : Type} (event : Bool -> Event)
    (step : World S -> Except Error A × World S) (apart : ∀ world, Alike world (step world).2) :
    Moves Kept (recorded event step) := by
  intro stage
  rw [perform_recorded]
  exact ⟨rfl, (apart stage.world).trans (.settled _)⟩

theorem quiet_kept {A : Type} {act : Act S A} {lines : World S -> List String}
    {result : World S -> Except Error A}
    (quiet : ∀ world, act.Quiet world (lines world) (result world) world) : Moves Kept act := by
  intro stage
  obtain ⟨events, _, done⟩ := quiet stage.world stage rfl
  rw [done]
  exact ⟨rfl, .refl stage.world⟩

variable {host : Host S} (context : Context)

theorem installPython_kept : Moves Kept (Session.installPython host context) := by
  refine Session.report_moves.bind fun report => ?_
  split
  · exact moves_pure _
  · refine (quiet_kept fun world => Probe.python_quiet host world _).bind fun python => ?_
    split
    · exact moves_pure _
    · exact moves_throw _

variable (apart : FilesApart host)
include apart

theorem stopClient_kept : Moves Kept (Session.stopClient host) :=
  recorded_kept _ _ apart.stops

theorem startClient_kept (settings : Settings) :
    Moves Kept (Session.startClient host settings) :=
  Session.startClient_moves (fun _ => record_kept _) (stopClient_kept apart)
    (fun launch => recorded_kept _ _ (apart.starts launch)) settings

end Steps

section Grounded

variable {host : Host S} {context : Context}

theorem isGrounded_of_no_report {stage : Stage S} (none : stage.state.report? = none) :
    IsGrounded stage := by
  intro report ready
  rw [ready] at none
  cases none

theorem grounded_of_ready {before after : Stage S} {report : Report}
    (performed : (Activation.activate host context).perform before = (.ok (.ready report), after)) :
    Grounded after.world report :=
  grounded_of_files fun _ _ named => (Activation.tool_of_ready host context performed named).2

variable (host context) in
theorem activate_grounded (stage : Stage S) :
    IsGrounded ((Session.activate host context).perform stage).2 := by
  unfold Session.activate
  rw [perform_bind, perform_outcome]
  rcases performed : (Activation.activate host context).perform stage with ⟨result, after⟩
  cases result with
  | error error =>
    dsimp only
    split <;> exact isGrounded_of_no_report rfl
  | ok activation =>
    cases activation with
    | disabled => exact isGrounded_of_no_report rfl
    | ready report =>
      have grounded := grounded_of_ready performed
      intro other ready
      cases ready
      exact grounded

/-- The session is as it was before an attempt to install that has failed, and so is its report,
whatever the attempt has done to the files. -/
structure Outlives (host : Host S) (context : Context) (before : Stage S)
    (result : Except Error Unit) (after : Stage S) : Prop where
  kept : after.state = before.state
  failed : ∃ error, result = .error error
  attempted : ∃ python world error, Alike before.world world ∧
    (host.install (Installation.planOf context python) world).result = .error error

theorem Outlives.of_kept {before stage after : Stage S} {result : Except Error Unit}
    (outlives : Outlives host context stage result after) (kept : Kept before stage) :
    Outlives host context before result after := by
  obtain ⟨python, world, error, alike, failed⟩ := outlives.attempted
  exact ⟨outlives.kept.trans kept.state, outlives.failed, python, world, error,
    kept.files.trans alike, failed⟩

variable (apart : FilesApart host)
include apart

theorem install_grounded (python : PythonPaths) {stage after : Stage S} {result : Except Error Unit}
    (grounded : IsGrounded stage)
    (performed : (Installation.install host context python).perform stage = (result, after)) :
    result = .ok () ∨ IsGrounded after ∨ Outlives host context stage result after := by
  have asks := apart.confirms Installation.question stage.world
  cases taken : stage.gate.busy with
  | true =>
    rw [Installation.install_busy host context python stage taken] at performed
    cases performed
    exact .inr (.inl grounded)
  | false =>
    obtain ⟨world, events, episode, reached⟩ :=
      Installation.install_free host context python stage taken
    rw [performed] at episode reached
    obtain rfl : after = stage.extend world events := reached
    cases episode with
    | unanswered error asked => exact .inr (.inl (grounded.kept ⟨rfl, asks.trans (.settled _)⟩))
    | declined asked => exact .inr (.inl (grounded.kept ⟨rfl, asks.trans (.settled _)⟩))
    | attempted asked attempt called =>
      cases ended : attempt.result with
      | ok _ => exact .inl rfl
      | error error =>
        refine .inr (.inr ⟨rfl, ?_, python, _, error, asks.trans (.settled _), ?_⟩)
        · cases error <;> exact ⟨_, rfl⟩
        · rw [← ended, called]
          rfl

theorem reinstall_grounded (python : PythonPaths) (wasRunning : Bool) {stage after : Stage S}
    {result : Except Error Unit} (grounded : IsGrounded stage)
    (performed : (reinstall host context python wasRunning).perform stage = (result, after)) :
    IsGrounded after ∨ Outlives host context stage result after := by
  rw [reinstall, perform_bind, perform_outcome] at performed
  rcases installs : (Installation.install host context python).perform stage with ⟨installed, left⟩
  simp only [installs] at performed
  have resumes (installed : Except Error Unit) := 
    resume_moves (startClient_kept apart) context wasRunning installed
  cases installed with
  | ok _ =>
    -- The report of the activation that follows is about what is there now.
    left
    simp only [Except.isOk, Except.toBool, if_true] at performed
    rcases perform_bind_cases performed with ⟨_, logged, _⟩ | ⟨_, logged, _, performed⟩
    · cases logged
    rcases perform_bind_cases performed with ⟨_, activated, _⟩ | ⟨_, middle, activated, performed⟩
    · have here := activate_grounded host context logged
      rwa [activated] at here
    · have here := activate_grounded host context logged
      rw [activated] at here
      exact here.kept (kept_of_moves (resumes (.ok ())) performed)
  | error error =>
    simp only [Except.isOk, Except.toBool, Bool.false_eq_true, if_false] at performed
    have kept := kept_of_moves (resumes (.error error)) performed
    rcases install_grounded apart python grounded installs with ok | still | outlives
    · cases ok
    · exact .inl (still.kept kept)
    · refine .inr ⟨kept.state.trans outlives.kept, ?_, outlives.attempted⟩
      have fails := OnDemand.resume_fails host context wasRunning error left
      rwa [performed] at fails

theorem installTools_grounded {before after : Stage S} {result : Except Error Unit}
    (grounded : IsGrounded before)
    (performed : (Session.installTools host context).perform before = (result, after)) :
    IsGrounded after ∨ Outlives host context before result after := by
  have reinstalls {python : PythonPaths} {wasRunning : Bool} {stage : Stage S}
      (kept : Kept before stage)
      (performed : (reinstall host context python wasRunning).perform stage = (result, after)) :
      IsGrounded after ∨ Outlives host context before result after :=
    (reinstall_grounded apart python wasRunning (grounded.kept kept) performed).imp_right
      fun outlives => outlives.of_kept kept
  rcases perform_bind_cases performed with ⟨_, first, _⟩ | ⟨python, found, first, performed⟩
  · exact .inl (grounded.kept (kept_of_moves (installPython_kept context) first))
  have kept := kept_of_moves (installPython_kept context) first
  rcases perform_bind_cases performed with ⟨_, asked, _⟩ | ⟨wasRunning, asked, asks, performed⟩
  · cases asked
  cases asks
  split at performed
  · rcases perform_bind_cases performed with ⟨_, stopped, _⟩ | ⟨_, stopped, stops, performed⟩
    · exact .inl (grounded.kept (Trans.trans kept (kept_of_moves (stopClient_kept apart) stopped)))
    · exact reinstalls (Trans.trans kept (kept_of_moves (stopClient_kept apart) stops)) performed
  · exact reinstalls kept performed

end Grounded

def brokenMachine : Host Rehearsal.Props :=
  Rehearsal.host { Activation.bareMachine with installing := .managed } .posix

theorem rehearsal_filesApart (script : Rehearsal.Script) (platform : Platform) :
    FilesApart (Rehearsal.host script platform) where
  confirms _ world := .refl world
  starts _ world := by
    simp only [Rehearsal.host, Rehearsal.client]
    split <;> exact ⟨rfl, _, rfl⟩
  stops world := by
    simp only [Rehearsal.host, Rehearsal.client]
    split <;> exact ⟨rfl, _, rfl⟩

def managedStage : Stage Rehearsal.Props :=
  { Activation.bareStage with
    world := { Activation.bareStage.world with
      tree := Files.Fixture.placeAll [] Activation.bareStage.world.tree [
        { path := Path.ofText "/srv/ansible/venv/bin/ansible", entry := .file [] }] } }

def managedSession : Stage Rehearsal.Props :=
  ((do
    let _ <- Session.activate brokenMachine Activation.bareContext
    Session.startClient brokenMachine Activation.bareContext.settings :
    Act Rehearsal.Props Unit).perform managedStage).2

def reinstalled : Except Error Unit × Stage Rehearsal.Props :=
  (Session.installTools brokenMachine Activation.bareContext).perform managedSession

theorem managedSession_grounded : IsGrounded managedSession := by
  have activates : IsGrounded
      ((Session.activate brokenMachine Activation.bareContext).perform managedStage).2 :=
    activate_grounded _ _ managedStage
  unfold managedSession
  rw [perform_bind]
  split
  next state middle activated =>
    rw [activated] at activates
    exact activates.kept (startClient_kept (rehearsal_filesApart _ _) _ middle)
  next error middle activated =>
    rw [activated] at activates
    exact activates

theorem installTools_grounded_brokenMachine :
    FilesApart brokenMachine ∧ IsGrounded managedSession ∧
      (IsGrounded reinstalled.2 ∨
        Outlives brokenMachine Activation.bareContext managedSession reinstalled.1 reinstalled.2) :=
  ⟨rehearsal_filesApart _ _, managedSession_grounded,
    installTools_grounded (rehearsal_filesApart _ _) managedSession_grounded rfl⟩

/-- The previous environment is gone when the attempt to make it anew fails, but the report on it
stays, and the client is started with it again. -/
theorem installTools_strands :
    IsGrounded managedSession ∧ ∃ report, reinstalled.2.state = .ready report ∧
      ¬ Grounded reinstalled.2.world report ∧ report.resolution.usesBuiltin = true ∧
      brokenMachine.client.isRunning reinstalled.2.world = true := by
  refine ⟨managedSession_grounded, _, rfl, ?_, rfl, rfl⟩
  intro grounded
  have there := grounded.files .ansible _ rfl
  revert there
  decide +kernel

end AnsibleTooling.Reinstallation
