import AnsibleTooling.Proofs.Course
import AnsibleTooling.Proofs.Display
import AnsibleTooling.Rehearsal

set_option autoImplicit false

namespace AnsibleTooling.Activation

variable {S : Type} (host : Host S) (context : Context)

/-- The ways in which an activation comes to a report, by the world in which it has probed the
system last: after making the storage directory, or anew after an installation. -/
inductive Reports (before after : Stage S) : World S -> Report -> Prop
  | configured (interpreter : Path) (insists : Insists context.settings interpreter)
    (imports : Probe.imports host (surveyed host context before.world) interpreter "ansible" = true)
    (ran : before.RunsTo (Probe.systemLines context.settings ++ moduleLines interpreter) after) :
    Reports before after (withStorage context before.world)
      (configuredReport host context interpreter before.world)
  | served (unconfigured : ∀ interpreter, ¬ Insists context.settings interpreter)
    (serves : serves host context (withStorage context before.world) = true)
    (ran : before.RunsTo (Probe.systemLines context.settings) after)
    (left : after.world = surveyed host context before.world) :
    Reports before after (withStorage context before.world) (servedReport host context before.world)
  | provisioned (unconfigured : ∀ interpreter, ¬ Insists context.settings interpreter)
    (python : PythonPaths) (asked installed : Stage S)
    (asks : before.RunsTo (Probe.systemLines context.settings) asked)
    (installs : (Installation.install host context python).perform asked = (.ok (), installed))
    (serves : serves host context installed.world = true)
    (ran : installed.RunsTo (Probe.systemLines context.settings) after)
    (left : after.world = Probe.afterSystem host installed.world context.settings) :
    Reports before after installed.world (provisionedReport host context python installed.world)

variable {before after : Stage S} {report : Report}

theorem enabled_of_ready (performed : (activate host context).perform before = (.ok (.ready report), after)) :
    context.settings.enable = true := by
  cases enabled : context.settings.enable with
  | true => rfl
  | false =>
    obtain ⟨_, _, _, done⟩ := (activate_disabled host context before.world enabled).reaches
    rw [performed] at done
    cases done

theorem storageMade_of_ready
    (performed : (activate host context).perform before = (.ok (.ready report), after)) :
    storageMade context before.world = .ok () := by
  have enabled := enabled_of_ready host context performed
  cases made : storageMade context before.world with
  | ok _ => rfl
  | error failure =>
    obtain ⟨_, _, _, done⟩ :=
      (activate_refused host context enabled before.world failure made).reaches
    rw [performed] at done
    cases done

theorem interpreterFound_of_ready
    (performed : (activate host context).perform before = (.ok (.ready report), after))
    (unconfigured : context.settings.python.configuredInterpreter = none) :
    ∃ python, interpreterFound host context before.world = some python := by
  have enabled := enabled_of_ready host context performed
  have made := storageMade_of_ready host context performed
  cases found : interpreterFound host context before.world with
  | some python => exact ⟨python, rfl⟩
  | none =>
    obtain ⟨_, _, _, done⟩ := (activate_lost host context enabled made unconfigured found).reaches
    rw [performed] at done
    cases done

theorem reports_of_ready
    (performed : (activate host context).perform before = (.ok (.ready report), after)) :
    ∃ probed, Reports host context before after probed report := by
  have enabled := enabled_of_ready host context performed
  have made := storageMade_of_ready host context performed
  cases configured : context.settings.python.configuredInterpreter with
  | some interpreter =>
    obtain ⟨last, ran, _, done⟩ :=
      (activate_configured host context enabled made interpreter configured).reaches
    rw [configuredInterpreter_eq_some] at configured
    rw [performed] at done
    split at done
    next imports =>
      cases done
      exact ⟨_, .configured interpreter configured imports ran⟩
    next missing => cases done
  | none =>
    -- Either something has served at once, or an installation has come in between.
    have none := (configuredInterpreter_eq_none _).mp configured
    obtain ⟨python, found⟩ := interpreterFound_of_ready host context performed configured
    cases serves : serves host context (withStorage context before.world) with
    | true =>
      obtain ⟨last, ran, left, done⟩ :=
        (activate_served host context enabled made configured (by simp [found]) serves).reaches
      rw [performed] at done
      cases done
      exact ⟨_, .served none serves ran left⟩
    | false =>
      obtain ⟨asked, asks, _, done⟩ :=
        activate_provisions host context enabled made configured python found serves
      split at done
      next error refused installs =>
        rw [performed] at done
        cases done
      next installed installs =>
        obtain ⟨last, ran, left, done⟩ := done
        rw [performed] at done
        split at done
        next again =>
          cases done
          exact ⟨_, .provisioned none python asked installed asks installs again ran left⟩
        next missing => cases done

theorem reportOf_of_ready
    (performed : (activate host context).perform before = (.ok (.ready report), after)) :
    ∃ python resolution, report = reportOf context python resolution := by
  obtain ⟨probed, reports⟩ := reports_of_ready host context performed
  cases reports with
  | configured => exact ⟨_, _, rfl⟩
  | served => exact ⟨_, _, rfl⟩
  | provisioned => exact ⟨_, _, rfl⟩

structure Managed (report : Report) (directory : Path) : Prop where
  place : directory = Environment.binDirectory context.storage context.platform
  interpreter : report.configuration.interpreterPath =
    (Environment.python context.storage context.platform).display

theorem managed_of_ready
    (performed : (activate host context).perform before = (.ok (.ready report), after))
    {directory : Path} (managed : report.serverPathPrefix = some directory) :
    Managed context report directory := by
  obtain ⟨python, resolution, rfl⟩ := reportOf_of_ready host context performed
  simp only [reportOf, Option.ite_none_right_eq_some, Option.some.injEq] at managed
  obtain ⟨used, rfl⟩ := managed
  exact ⟨rfl, by simp [reportOf, Configuration.derive, used]⟩

/-- What the parts of a report have to do with each other, with the settings, with the world in
which the system was probed last, and with the one that the activation leaves. -/
structure Consistent (report : Report) (probed left : World S) : Prop where
  system : report.resolution.system = Probe.systemFound host probed context.settings
  builtin (tool : Tool) (path : Path) : report.resolution.builtin.get tool = some path ->
    path = (Environment.binDirectory context.storage context.platform).joinText
        (context.platform.executableName tool.command) ∧
      Files.isFile left.tree left.workDir path = true
  unconfigured : (∀ interpreter, ¬ Insists context.settings interpreter) ->
    report.resolution.modules = none ∧
      (report.serverPathPrefix = some (Environment.binDirectory context.storage context.platform) ↔
        report.resolution.system.ansible = .unavailable) ∧
      (report.configuration.interpreterPath =
          (Environment.python context.storage context.platform).display ↔
        report.resolution.system.ansible = .unavailable) ∧
      (report.resolution.system.ansible = .available ->
        report.serverPathPrefix = none ∧ report.configuration.interpreterPath = "")
  configured (interpreter : Path) : Insists context.settings interpreter ->
    (∃ modules, report.resolution.modules = some modules ∧ modules.ansible = .available) ∧
      report.resolution.builtin = {} ∧ report.serverPathPrefix = none ∧
      report.configuration.interpreterPath = interpreter.display
  bare : report.configuration.ansiblePath = "ansible" ∧
    report.configuration.lintPath = "ansible-lint"
  passed :
    report.configuration.useFullyQualifiedCollectionNames =
        context.settings.ansible.useFullyQualifiedCollectionNames ∧
      report.configuration.lintArguments = context.settings.ansibleLint.arguments ∧
      report.configuration.activationScript = context.settings.python.activationScript
  lint : report.configuration.lintEnabled = true ↔
    context.settings.ansibleLint.enabled = true ∧
      match report.resolution.modules with
      | some modules => modules.ansibleLint = .available
      | none =>
        report.resolution.system.ansibleLint = .available ∨
          report.resolution.system.ansible = .unavailable ∧
            ∃ path, report.resolution.builtin.ansibleLint = some path
  documentation : report.docTool =
    if report.resolution.system.ansible = .available then
      some (Path.ofText context.settings.ansibleDoc.path)
    else report.resolution.builtin.ansibleDoc

theorem isAvailable_eq_true (availability : Availability) :
    availability.isAvailable = true ↔ availability = .available := by
  cases availability <;> simp [Availability.isAvailable]

theorem isAvailable_eq_false (availability : Availability) :
    availability.isAvailable = false ↔ availability = .unavailable := by
  cases availability <;> simp [Availability.isAvailable]

theorem get_builtinTools {world : World S} {tool : Tool} {path : Path} :
    (Probe.builtinTools world context.storage context.platform).get tool = some path ↔
      path = Environment.tool context.storage context.platform tool ∧
        Files.isFile world.tree world.workDir path = true := by
  rw [Probe.builtinTools_get]
  split
  next managed =>
    constructor
    · intro same
      cases same
      exact ⟨rfl, managed⟩
    · rintro ⟨rfl, _⟩
      rfl
  next missing =>
    constructor
    · intro same
      cases same
    · rintro ⟨rfl, managed⟩
      exact absurd managed missing

theorem isManaged_of_consulted {world : World S} {system : SystemTools} {tool : Tool} {path : Path}
    (found : (consulted context world system).get tool = some path) :
    path = Environment.tool context.storage context.platform tool ∧
      Files.isFile world.tree world.workDir path = true := by
  unfold consulted at found
  split at found
  · exact (get_builtinTools context).mp found
  · cases tool <;> cases found

theorem tool_of_ready
    (performed : (activate host context).perform before = (.ok (.ready report), after))
    {tool : Tool} {path : Path} (named : report.resolution.builtin.get tool = some path) :
    path = Environment.tool context.storage context.platform tool ∧
      Files.isFile after.world.tree after.world.workDir path = true := by
  obtain ⟨probed, reports⟩ := reports_of_ready host context performed
  cases reports with
  | configured => cases tool <;> cases named
  | served _ _ _ left =>
    rw [left]
    exact isManaged_of_consulted context named
  | provisioned _ _ _ _ _ _ _ _ left =>
    rw [left]
    exact (get_builtinTools context).mp named

theorem consistent_of_tools (unconfigured : ∀ interpreter, ¬ Insists context.settings interpreter)
    (python : Option PythonPaths) (builtin : BuiltinTools) (probed left : World S)
    (usable : ((Probe.systemFound host probed context.settings).ansible.isAvailable ||
      builtin.isUsable) = true)
    (managed : ∀ tool path, builtin.get tool = some path ->
      path = Environment.tool context.storage context.platform tool ∧
        Files.isFile left.tree left.workDir path = true) :
    Consistent host context (reportOf context python {
      system := Probe.systemFound host probed context.settings, builtin }) probed left := by
  have none := (configuredInterpreter_eq_none _).mpr unconfigured
  have shown := Environment.python_display_ne_empty context.storage context.platform
  -- Without a system `ansible` the managed one is there: that was the condition for a report.
  have carried (missing : (Probe.systemFound host probed context.settings).ansible = .unavailable) :
      builtin.isUsable = true := by
    simpa [missing, Availability.isAvailable] using usable
  constructor
  case system => rfl
  case builtin => exact managed
  case unconfigured =>
    intro _
    cases served : (Probe.systemFound host probed context.settings).ansible with
    | available =>
      simp [reportOf, Configuration.derive, Resolution.usesBuiltin, Availability.isAvailable,
        served, none, shown.symm]
    | unavailable =>
      have usable := carried served
      simp [reportOf, Configuration.derive, Resolution.usesBuiltin, Availability.isAvailable,
        served, usable]
  case configured => exact fun interpreter insists => absurd insists (unconfigured interpreter)
  case bare => exact ⟨rfl, rfl⟩
  case passed => exact ⟨rfl, rfl, rfl⟩
  case lint =>
    cases served : (Probe.systemFound host probed context.settings).ansible with
    | available =>
      simp [reportOf, Configuration.derive, Configuration.lintFound, Resolution.usesBuiltin,
        isAvailable_eq_true, isAvailable_eq_false, served]
    | unavailable =>
      have usable := carried served
      simp [reportOf, Configuration.derive, Configuration.lintFound, Resolution.usesBuiltin,
        isAvailable_eq_true, isAvailable_eq_false, served, usable, Option.isSome_iff_exists]
  case documentation => simp [reportOf, Resolution.docTool, isAvailable_eq_true]

theorem consistent_of_configured (interpreter : Path)
    (insists : Insists context.settings interpreter) (world left : World S)
    (imports : Probe.imports host (surveyed host context world) interpreter "ansible" = true) :
    Consistent host context (configuredReport host context interpreter world)
      (withStorage context world) left := by
  -- The interpreter that is insisted on is the one this report was made for.
  have same (other : Path) (also : Insists context.settings other) : other = interpreter :=
    Option.some.inj (also.1.symm.trans insists.1)
  have configured := (configuredInterpreter_eq_some _ _).mpr insists
  constructor
  case system => rfl
  case builtin =>
    intro tool path found
    cases tool <;> cases found
  case unconfigured => exact fun unconfigured => absurd insists (unconfigured interpreter)
  case configured =>
    intro other also
    rw [same other also]
    refine ⟨⟨_, rfl, ?_⟩, rfl, rfl, ?_⟩
    · simp [modulesFound, imports, Availability.ofSuccess]
    · simp [configuredReport, reportOf, Configuration.derive, Resolution.usesBuiltin, configured]
  case bare => exact ⟨rfl, rfl⟩
  case passed => exact ⟨rfl, rfl, rfl⟩
  case lint =>
    simp [configuredReport, reportOf, Configuration.derive, Configuration.lintFound,
      isAvailable_eq_true]
  case documentation =>
    simp [configuredReport, reportOf, Resolution.docTool, isAvailable_eq_true]

theorem ready_consistent
    (performed : (activate host context).perform before = (.ok (.ready report), after)) :
    ∃ probed, Reports host context before after probed report ∧
      Consistent host context report probed after.world := by
  obtain ⟨probed, reports⟩ := reports_of_ready host context performed
  refine ⟨probed, reports, ?_⟩
  cases reports with
  | configured interpreter insists imports ran =>
    exact consistent_of_configured host context interpreter insists before.world after.world imports
  | served unconfigured serves ran left =>
    rw [left]
    refine consistent_of_tools host context unconfigured _ _ _ _ ?_ ?_
    · rw [← serves, ← serves_consulted]
      rfl
    · exact fun tool path => isManaged_of_consulted context
  | provisioned unconfigured python asked installed asks installs serves ran left =>
    rw [left]
    refine consistent_of_tools host context unconfigured _ _ _ _ ?_ ?_
    · simpa [Activation.serves, Probe.systemFound] using serves
    · exact fun tool path => (get_builtinTools context).mp

def bareMachine : Rehearsal.Script :=
  { executables := [("python3", Path.ofText "/bin/python3")] }

def bareContext : Context :=
  { storage := Path.ofText "/srv" }

def bareStage : Stage Rehearsal.Props :=
  { world := {
      tree := Files.Fixture.placeAll [] .empty [
        { path := Path.ofText "/bin/python3", entry := .file [], isExecutable := true }]
      workDir := []
      inner := {} } }

theorem ready_consistent_bareMachine :
    ∃ report after probed,
      (activate (Rehearsal.host bareMachine .posix) bareContext).perform bareStage =
        (.ok (.ready report), after) ∧
      report.serverPathPrefix = some (Path.ofText "/srv/ansible/venv/bin") ∧
      Reports (Rehearsal.host bareMachine .posix) bareContext bareStage after probed report ∧
      Consistent (Rehearsal.host bareMachine .posix) bareContext report probed after.world := by
  have ready : ∃ report,
      ((activate (Rehearsal.host bareMachine .posix) bareContext).perform bareStage).1 =
        .ok (.ready report) ∧ report.serverPathPrefix = some (Path.ofText "/srv/ansible/venv/bin") :=
    ⟨_, rfl, rfl⟩
  obtain ⟨report, ready, managed⟩ := ready
  have performed :
      (activate (Rehearsal.host bareMachine .posix) bareContext).perform bareStage =
        (.ok (.ready report), _) := Prod.ext ready rfl
  obtain ⟨probed, reports, consistent⟩ := ready_consistent _ _ performed
  exact ⟨report, _, probed, performed, managed, reports, consistent⟩

end AnsibleTooling.Activation
