import AnsibleTooling.Proofs.ReportConsistency
import AnsibleTooling.Proofs.Steadiness

set_option autoImplicit false

namespace AnsibleTooling

variable {S : Type}

def Event.plan? : Event -> Option InstallPlan
  | .planned plan => some plan
  | _ => none

def plansIn (events : List Event) : List InstallPlan :=
  events.filterMap Event.plan?

@[simp] theorem plansIn_append (first second : List Event) :
    plansIn (first ++ second) = plansIn first ++ plansIn second :=
  List.filterMap_append ..

theorem plansIn_minor {events : List Event} (minor : ∀ event ∈ events, event.isMinor = true) :
    plansIn events = [] := by
  refine List.filterMap_eq_nil_iff.mpr fun event isThere => ?_
  have small := minor event isThere
  cases event <;> first | rfl | cases small

namespace Installation

variable {host : Host S} {context : Context} {python : PythonPaths}

def agreedAttempt (host : Host S) (context : Context) (python : PythonPaths) (world : World S) :
    Attempt S :=
  attemptAt host context python (host.confirm question world).2.settled

theorem Episode.agreed {world later : World S} {result : Except Error Unit} {events : List Event}
    (episode : Episode host context python world result later events)
    (agreed : (host.confirm question world).1 = .ok true) :
    result = verdict (agreedAttempt host context python world).result ∧
      later = (agreedAttempt host context python world).world ∧
      plansIn events = [planOf context python] := by
  cases episode with
  | unanswered error asked => simp [agreed] at asked
  | declined asked => simp [agreed] at asked
  | attempted asked attempt called =>
    subst called
    have inquired : plansIn (inquiry host world) = [] := by simp [plansIn, inquiry, Event.plan?]
    have reported := plansIn_minor (eventsOf_minor context.progressInterval 0
      (attemptAt host context python (host.confirm question world).2.settled).deeds)
    have closed := plansIn_minor (closing_minor
      (duration (attemptAt host context python (host.confirm question world).2.settled).deeds)
      (attemptAt host context python (host.confirm question world).2.settled).result)
    refine ⟨rfl, rfl, ?_⟩
    rw [plansIn_append, closed, plansIn_append, plansIn_append, inquired]
    rw [plansIn] at reported
    simp [plansIn, announcement, Event.plan?, reported]

theorem install_agreed (stage : Stage S) (free : stage.gate.busy = false)
    (agreed : (host.confirm question stage.world).1 = .ok true)
    (installed : (agreedAttempt host context python stage.world).result = .ok ()) :
    ∃ events, plansIn events = [planOf context python] ∧
      (install host context python).perform stage =
        (.ok (), stage.extend (agreedAttempt host context python stage.world).world events) := by
  obtain ⟨world, events, episode, done⟩ := install_free host context python stage free
  obtain ⟨result, rfl, plans⟩ := episode.agreed agreed
  rw [installed] at result
  exact ⟨events, plans, Prod.ext result done⟩

end Installation

theorem Probe.interpreter_real {host : Host S} {world : World S} {configured : Option Path}
    {python : PythonPaths} (found : Probe.interpreter host world configured = some python) :
    Files.canonicalize world.tree world.workDir python.found = .ok python.real := by
  have resolves {path real : Path}
      (canonical : (Files.canonicalize world.tree world.workDir path).toOption = some real) :
      Files.canonicalize world.tree world.workDir path = .ok real := by
    cases looked : Files.canonicalize world.tree world.workDir path <;>
      simp_all [Except.toOption]
  cases configured with
  | some configured =>
    obtain ⟨real, canonical, rfl⟩ := Option.map_eq_some_iff.mp found
    exact resolves canonical
  | none =>
    obtain ⟨name, _, candidate⟩ := List.exists_of_findSome?_eq_some found
    obtain ⟨path, _, rest⟩ := Option.bind_eq_some_iff.mp candidate
    obtain ⟨real, canonical, same⟩ := Option.bind_eq_some_iff.mp rest
    cases same
    exact resolves canonical

namespace Activation

variable (host : Host S) (context : Context)

/-- Nothing serves, the gate is free, and whoever is asked agrees to an installation. -/
structure Bare (before : Stage S) (python : PythonPaths) : Prop where
  enabled : context.settings.enable = true
  made : storageMade context before.world = .ok ()
  unconfigured : context.settings.python.configuredInterpreter = none
  found : interpreterFound host context before.world = some python
  unavailable : (systemSurveyed host context before.world).ansible = .unavailable
  unmanaged : Probe.isManaged (surveyed host context before.world) context .ansible = false
  free : before.gate.busy = false
  agreed : (host.confirm Installation.question (surveyed host context before.world)).1 = .ok true

def attemptOf (before : Stage S) (python : PythonPaths) : Attempt S :=
  Installation.agreedAttempt host context python (surveyed host context before.world)

def placeOf (plan : InstallPlan) (platform : Platform) (tool : Tool) : Path :=
  plan.binDirectory.joinText (platform.executableName tool.command)

/-- A report made after an installation: from the plan, the interpreter that it was made with, and
what is found in the world that the installation has left. -/
structure Provisioned (python : PythonPaths) (before : Stage S) (installed : World S)
    (report : Report) (after : Stage S) : Prop where
  interpreter : report.python = some python ∧
    Files.canonicalize (withStorage context before.world).tree
      (withStorage context before.world).workDir python.found = .ok python.real
  plans : ∃ events plan, after.journal = before.journal ++ events ∧ plansIn events = [plan] ∧
    plan.interpreter = python.real ∧
    report.serverPathPrefix = some plan.binDirectory ∧
    report.configuration.interpreterPath = plan.python.display ∧
    ∀ tool path, report.resolution.builtin.get tool = some path ↔
      path = placeOf plan context.platform tool ∧
        Files.isFile after.world.tree after.world.workDir path = true
  left : after.world = Probe.afterSystem host installed context.settings
  -- Nothing that was found out before has a part in it.
  anew : report.resolution = resolutionFound host context installed
  documentation : report.docTool = report.resolution.builtin.ansibleDoc
  still : Steady host -> Alike installed after.world

variable {host context}

theorem Bare.unserved {before : Stage S} {python : PythonPaths}
    (bare : Bare host context before python) :
    serves host context (withStorage context before.world) = false := by
  have unhelped : Probe.helps host
      (Probe.beforeAnsible host (withStorage context before.world) context.settings)
      context.settings.ansible.path = false := by
    have unavailable := (isAvailable_eq_false _).mpr bare.unavailable
    rwa [systemSurveyed, Probe.systemFound, isAvailable_ofSuccess] at unavailable
  have unmanaged := bare.unmanaged
  rw [surveyed] at unmanaged
  rw [serves, unhelped, unmanaged]
  rfl

theorem provisionedReport_provisioned {python : PythonPaths} {before after : Stage S}
    {installed : World S} {events : List Event}
    (unconfigured : context.settings.python.configuredInterpreter = none)
    (found : interpreterFound host context before.world = some python)
    (unavailable : (Probe.systemFound host installed context.settings).ansible = .unavailable)
    (put : Probe.isManaged (Probe.afterSystem host installed context.settings) context .ansible =
      true)
    (left : after.world = Probe.afterSystem host installed context.settings)
    (journal : after.journal = before.journal ++ events)
    (plans : plansIn events = [Installation.planOf context python]) :
    Provisioned host context python before installed
      (provisionedReport host context python installed) after := by
  rw [interpreterFound, unconfigured] at found
  have missing := (isAvailable_eq_false _).mpr unavailable
  constructor
  case interpreter => exact ⟨rfl, Probe.interpreter_real found⟩
  case left => exact left
  case anew => rfl
  case documentation =>
    simp [provisionedReport, reportOf, resolutionFound, Resolution.docTool, missing]
  case still =>
    intro steady
    rw [left]
    exact steady.afterSystem installed context.settings
  case plans =>
    refine ⟨events, _, journal, plans, rfl, ?_, ?_, ?_⟩
    · simp [provisionedReport, reportOf, resolutionFound, Resolution.usesBuiltin, missing, put,
        Installation.planOf, InstallPlan.make]
    · simp [provisionedReport, reportOf, resolutionFound, Configuration.derive,
        Resolution.usesBuiltin, missing, put, Installation.planOf, InstallPlan.make]
    · intro tool path
      rw [left]
      exact get_builtinTools context

def lookedThrough (host : Host S) (context : Context) (before : Stage S) (python : PythonPaths) :
    World S :=
  Probe.afterSystem host (attemptOf host context before python).world context.settings

def IsPut (context : Context) (python : PythonPaths) (world : World S) : Prop :=
  Files.isFile world.tree world.workDir
    (placeOf (Installation.planOf context python) context.platform .ansible) = true

theorem IsPut.alike {python : PythonPaths} {first second : World S} (alike : Alike first second)
    (put : IsPut context python first) : IsPut context python second :=
  (alike.leadsTo _ _).symm.trans put

-- What the installer has put in its place is there when it returns. Only in steady surroundings is
-- it sure to be there still when the tools are looked for; elsewhere that is what counts.
theorem activate_provisioned {before : Stage S} {python : PythonPaths}
    (bare : Bare host context before python)
    (installed : (attemptOf host context before python).result = .ok ())
    (unavailable : (Probe.systemFound host (attemptOf host context before python).world
      context.settings).ansible = .unavailable)
    (put : Steady host ∧ IsPut context python (attemptOf host context before python).world ∨
      IsPut context python (lookedThrough host context before python)) :
    ∃ report after, (activate host context).perform before = (.ok (.ready report), after) ∧
      Provisioned host context python before (attemptOf host context before python).world report
        after := by
  have put : IsPut context python (lookedThrough host context before python) :=
    put.elim (fun ⟨steady, put⟩ => put.alike (steady.afterSystem _ _)) id
  change Probe.isManaged (lookedThrough host context before python) context .ansible = true at put
  rw [lookedThrough] at put
  obtain ⟨asked, ⟨early, quiet, begun⟩, here, done⟩ := activate_provisions host context
    bare.enabled bare.made bare.unconfigured python bare.found bare.unserved
  have free : asked.gate.busy = false := by rw [begun]; exact bare.free
  obtain ⟨events, plans, performed⟩ := @Installation.install_agreed S host context python asked
    free (here ▸ bare.agreed) (here ▸ installed)
  rw [performed] at done
  obtain ⟨after, ⟨late, later, ended⟩, left, activated⟩ := done
  rw [here] at left activated ended
  rw [Stage.extend_world] at left activated
  change after.world = Probe.afterSystem host (attemptOf host context before python).world _ at left
  change _ = (if serves host context (attemptOf host context before python).world then _ else _, _)
    at activated
  have served : serves host context (attemptOf host context before python).world = true := by
    rw [serves, put, Bool.or_true]
  rw [served, if_pos rfl] at activated
  refine ⟨_, after, activated, ?_⟩
  have journal : after.journal = before.journal ++ (early ++ events ++ late) := by
    rw [ended, begun]
    simp
  refine provisionedReport_provisioned bare.unconfigured bare.found unavailable put left journal ?_
  simp [plansIn_minor quiet.minor, plansIn_minor later.minor, plans]

def installing : List (String × Rehearsal.Reply) :=
  let done : ProcessOutput := { success := true, stdout := "", stderr := "" }
  let file (name : String) : Files.Fixture :=
    { path := Path.ofText ("/srv/ansible/venv/Scripts/" ++ name), entry := .file [] }
  [("/bin/python3 -m venv /srv/ansible/venv", { output := done, creates := [file "python.exe"] }),
    ("/srv/ansible/venv/Scripts/python.exe -m pip install -U pip ansible ansible-lint",
      { output := done, creates := [file "ansible.exe", file "ansible-doc.exe"] })]

def windowsHost : Host Rehearsal.Props :=
  Rehearsal.host { bareMachine with commands := installing, installing := .managed } .windows

def windowsContext : Context :=
  { bareContext with platform := .windows }

def remainder : Stage Rehearsal.Props :=
  { bareStage with world := { bareStage.world with
      tree := Files.Fixture.placeAll [] bareStage.world.tree [
        { path := Path.ofText "/srv/ansible/venv/Scripts/ansible-lint.exe", entry := .file [] }] } }

def barePython : PythonPaths :=
  { found := Path.ofText "/bin/python3", real := Path.ofText "/bin/python3" }

theorem remainder_bare : Bare windowsHost windowsContext remainder barePython where
  enabled := rfl
  made := rfl
  unconfigured := rfl
  found := by decide +kernel
  unavailable := by decide +kernel
  unmanaged := by decide +kernel
  free := rfl
  agreed := rfl

-- None of the commands of a bare machine can be started.
theorem bareMachine_steady : Steady (Rehearsal.host bareMachine .posix) where
  keeps _ _ world _ := .refl world
  answers _ _ _ _ _ _ := rfl
  finds _ _ _ _ := rfl

theorem bareMachine_bare :
    Bare (Rehearsal.host bareMachine .posix) bareContext bareStage barePython where
  enabled := rfl
  made := rfl
  unconfigured := rfl
  found := by decide +kernel
  unavailable := by decide +kernel
  unmanaged := by decide +kernel
  free := rfl
  agreed := rfl

theorem activate_provisioned_remainder :
    Bare windowsHost windowsContext remainder barePython ∧
      Probe.isManaged (surveyed windowsHost windowsContext remainder.world) windowsContext
        .ansibleLint = true ∧
      (∃ report after,
        (activate windowsHost windowsContext).perform remainder = (.ok (.ready report), after) ∧
        Provisioned windowsHost windowsContext barePython remainder
          (attemptOf windowsHost windowsContext remainder barePython).world report after ∧
        report.resolution.builtin.ansibleLint = none) ∧
      ∃ report after,
        (activate (Rehearsal.host bareMachine .posix) bareContext).perform bareStage =
          (.ok (.ready report), after) ∧
        Provisioned (Rehearsal.host bareMachine .posix) bareContext barePython bareStage
          (attemptOf (Rehearsal.host bareMachine .posix) bareContext bareStage barePython).world
          report after := by
  -- What the installer leaves is computed once for all that is asked about it.
  have left :
      (Probe.systemFound windowsHost (attemptOf windowsHost windowsContext remainder
        barePython).world windowsContext.settings).ansible = .unavailable ∧
      Files.isFile (lookedThrough windowsHost windowsContext remainder barePython).tree
        (lookedThrough windowsHost windowsContext remainder barePython).workDir
        (placeOf (Installation.planOf windowsContext barePython) .windows .ansible) = true ∧
      (resolutionFound windowsHost windowsContext (attemptOf windowsHost windowsContext remainder
        barePython).world).builtin.ansibleLint = none := by
    decide +kernel
  obtain ⟨unavailable, put, unlinted⟩ := left
  obtain ⟨report, after, ready, provisioned⟩ :=
    activate_provisioned remainder_bare rfl unavailable (.inr put)
  refine ⟨remainder_bare, by decide +kernel, ⟨report, after, ready, provisioned, ?_⟩, ?_⟩
  · rw [provisioned.anew]
    exact unlinted
  · have put : Files.isFile
        (attemptOf (Rehearsal.host bareMachine .posix) bareContext bareStage barePython).world.tree
        (attemptOf (Rehearsal.host bareMachine .posix) bareContext bareStage barePython).world.workDir
        (placeOf (Installation.planOf bareContext barePython) .posix .ansible) = true := by
      decide +kernel
    exact activate_provisioned bareMachine_bare rfl (by decide +kernel)
      (.inl ⟨bareMachine_steady, put⟩)

end Activation

end AnsibleTooling
