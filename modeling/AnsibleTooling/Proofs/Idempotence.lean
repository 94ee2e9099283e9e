import AnsibleTooling.Proofs.DecisionOrder
import AnsibleTooling.Proofs.ReportConsistency
import AnsibleTooling.Proofs.Steadiness

set_option autoImplicit false

namespace AnsibleTooling.Activation

variable {S : Type} {host : Host S} {context : Context}

def Unspoilt (host : Host S) (left : World S) : Prop :=
  ∃ name ∈ ["python3", "python"], Leads host left name

/-- The storage directory can be made again. It can wherever an installer only works below it, as
all are to; one that puts a file in its place, and `ansible` among the commands of the system, is
followed by an activation that fails on that file. With a managed `ansible` the directory is there
of itself. -/
def StorageKept (context : Context) (left : World S) : Prop :=
  Probe.isManaged left context .ansible = false ->
    Files.IsThere left.tree left.workDir context.storage

/-- Two reports of the same effect: they may differ in the paths of the interpreter and of managed
tools that are not used. -/
structure Agrees (first second : Report) : Prop where
  system : second.resolution.system = first.resolution.system
  modules : second.resolution.modules = first.resolution.modules
  configuration : second.configuration = first.configuration
  docTool : second.docTool = first.docTool
  serverPathPrefix : second.serverPathPrefix = first.serverPathPrefix

theorem Agrees.refl (report : Report) : Agrees report report :=
  ⟨rfl, rfl, rfl, rfl, rfl⟩

section Storage

variable {world left : World S}

theorem isThere_withStorage (numbered : world.tree.IsNumbered)
    (made : storageMade context world = .ok ()) :
    Files.IsThere (withStorage context world).tree (withStorage context world).workDir
      context.storage :=
  Files.makeDirectories_makes numbered (Prod.ext made rfl)

theorem storageMade_of_isThere
    (there : Files.IsThere world.tree world.workDir context.storage) :
    storageMade context world = .ok () := by
  rw [storageMade, Files.makeDirectories_of_isThere there]

theorem withStorage_of_isThere
    (there : Files.IsThere world.tree world.workDir context.storage) :
    Alike world (withStorage context world) := by
  rw [withStorage, Files.makeDirectories_of_isThere there]
  exact .settled world

theorem StorageKept.isThere (kept : StorageKept context left) :
    Files.IsThere left.tree left.workDir context.storage := by
  cases managed : Probe.isManaged left context .ansible with
  | true => exact Files.isThere_of_below (Files.isBelow_tool _ _ _) managed
  | false => exact kept managed

end Storage

section Reports

variable {first second : World S} (steady : Steady host)
include steady

theorem surveyed_alike (alike : Alike (withStorage context first) (withStorage context second)) :
    Alike (surveyed host context first) (surveyed host context second) :=
  alike.between (steady.afterSystem _ context.settings) (steady.afterSystem _ context.settings)

theorem configuredReport_alike
    (alike : Alike (withStorage context first) (withStorage context second)) (interpreter : Path) :
    configuredReport host context interpreter first =
      configuredReport host context interpreter second := by
  unfold configuredReport interpreterFound systemSurveyed
  rw [steady.interpreter alike, steady.systemFound alike,
    steady.modulesFound (surveyed_alike steady alike)]

theorem servedReport_alike
    (alike : Alike (withStorage context first) (withStorage context second)) :
    servedReport host context first = servedReport host context second := by
  unfold servedReport interpreterFound systemSurveyed
  rw [steady.interpreter alike, steady.systemFound alike,
    (surveyed_alike steady alike).consulted context]

end Reports

theorem agrees_of_tools (python other : Option PythonPaths) (system : SystemTools)
    (world : World S) :
    Agrees (reportOf context python {
        system, builtin := Probe.builtinTools world context.storage context.platform })
      (reportOf context other { system, builtin := consulted context world system }) := by
  -- Managed tools only matter where the system has no `ansible`, and there they are looked for.
  cases served : system.ansible with
  | available =>
    constructor <;>
      simp [reportOf, Configuration.derive, Configuration.lintFound, Resolution.usesBuiltin,
        Resolution.docTool, Availability.isAvailable, served]
  | unavailable =>
    have consults : consulted context world system =
        Probe.builtinTools world context.storage context.platform := by
      simp [consulted, SystemTools.needsBuiltin, Availability.isAvailable, served]
    rw [consults]
    constructor <;> rfl

section Repeats

variable {before after : Stage S} {report : Report}

def Repeats (host : Host S) (context : Context) (stage : Stage S) (report : Report) : Prop :=
  ∃ lines last, (activate host context).perform stage = (.ok (.ready report), last) ∧
    stage.RunsTo lines last ∧ Alike stage.world last.world

variable (steady : Steady host) (enabled : context.settings.enable = true)
variable (there : Files.IsThere after.world.tree after.world.workDir context.storage)
include steady enabled there

theorem repeats_configured (interpreter : Path)
    (configured : context.settings.python.configuredInterpreter = some interpreter)
    (imports : Probe.imports host (surveyed host context after.world) interpreter
      "ansible" = true) :
    Repeats host context after (configuredReport host context interpreter after.world) := by
  obtain ⟨last, ran, left, done⟩ := (activate_configured host context enabled
    (storageMade_of_isThere there) interpreter configured).reaches
  rw [imports] at done
  refine ⟨_, last, done, ran, ?_⟩
  rw [left]
  exact ((withStorage_of_isThere there).trans (steady.afterSystem _ _)).trans
    (steady.afterModules _ _)

theorem repeats_served (unconfigured : context.settings.python.configuredInterpreter = none)
    (found : ∃ python, Probe.interpreter host after.world none = some python)
    (served : serves host context after.world = true) :
    Repeats host context after (servedReport host context after.world) := by
  have stored := withStorage_of_isThere there
  have found : (interpreterFound host context after.world).isSome := by
    obtain ⟨python, found⟩ := found
    simp [interpreterFound, unconfigured, ← steady.interpreter stored, found]
  have served : serves host context (withStorage context after.world) = true :=
    (steady.serves stored context).symm.trans served
  obtain ⟨last, ran, left, done⟩ := (activate_served host context enabled
    (storageMade_of_isThere there) unconfigured found served).reaches
  refine ⟨_, last, done, ran, ?_⟩
  rw [left]
  exact stored.trans (steady.afterSystem _ _)

end Repeats

theorem Unspoilt.interpreter {left : World S} (unspoilt : Unspoilt host left) :
    ∃ python, Probe.interpreter host left none = some python := by
  rw [← Option.ne_none_iff_exists', ne_eq, interpreter_eq_none]
  obtain ⟨name, member, leads⟩ := unspoilt
  exact fun missing => missing name member leads

theorem provisionedReport_agrees (steady : Steady host) {installed left : World S}
    (alike : Alike installed left)
    (there : Files.IsThere left.tree left.workDir context.storage) (python : PythonPaths) :
    Agrees (provisionedReport host context python installed) (servedReport host context left) := by
  have stored := alike.trans (withStorage_of_isThere there)
  have system : systemSurveyed host context left =
      Probe.systemFound host installed context.settings :=
    (steady.systemFound stored context.settings).symm
  have builtin := (stored.between (steady.afterSystem _ context.settings)
    (steady.afterSystem _ context.settings)).consulted context
      (Probe.systemFound host installed context.settings)
  unfold servedReport
  rw [system, surveyed, ← builtin]
  exact agrees_of_tools _ _ _ _

section Ready

variable {before after : Stage S} {report : Report} (steady : Steady host)
variable (performed : (activate host context).perform before = (.ok (.ready report), after))
include steady performed

theorem repeats_of_configured (numbered : before.world.tree.IsNumbered) (interpreter : Path)
    (configured : context.settings.python.configuredInterpreter = some interpreter) :
    Repeats host context after report := by
  have enabled := enabled_of_ready host context performed
  have made := storageMade_of_ready host context performed
  obtain ⟨last, _, left, done⟩ :=
    (activate_configured host context enabled made interpreter configured).reaches
  rw [performed] at done
  split at done
  next imports =>
    cases done
    -- Only probes have come between the storage directory and the end.
    have alike : Alike (withStorage context before.world) after.world := by
      rw [left]
      exact (steady.afterSystem _ _).trans (steady.afterModules _ _)
    have there := alike.isThere (isThere_withStorage numbered made)
    have stored := alike.trans (withStorage_of_isThere there)
    have imports := (steady.imports (surveyed_alike steady stored) _ _).symm.trans imports
    rw [configuredReport_alike steady stored]
    exact repeats_configured steady enabled there interpreter configured imports
  next missing => cases done

variable (unconfigured : context.settings.python.configuredInterpreter = none)
include unconfigured

theorem repeats_of_served (numbered : before.world.tree.IsNumbered)
    (served : serves host context (withStorage context before.world) = true) :
    Repeats host context after report := by
  have enabled := enabled_of_ready host context performed
  have made := storageMade_of_ready host context performed
  obtain ⟨python, found⟩ := interpreterFound_of_ready host context performed unconfigured
  obtain ⟨last, _, left, done⟩ :=
    (activate_served host context enabled made unconfigured (by simp [found]) served).reaches
  rw [performed] at done
  cases done
  have alike : Alike (withStorage context before.world) after.world := by
    rw [left]
    exact steady.afterSystem _ _
  have there := alike.isThere (isThere_withStorage numbered made)
  have still : Probe.interpreter host after.world none = some python := by
    rw [← steady.interpreter alike, ← unconfigured]
    exact found
  have served := (steady.serves alike context).symm.trans served
  rw [servedReport_alike steady (alike.trans (withStorage_of_isThere there))]
  exact repeats_served steady enabled there unconfigured ⟨python, still⟩ served

theorem repeats_of_provisioned (unspoilt : Unspoilt host after.world)
    (kept : StorageKept context after.world)
    (unserved : serves host context (withStorage context before.world) = false) :
    ∃ again, Repeats host context after again ∧ Agrees report again := by
  have enabled := enabled_of_ready host context performed
  have made := storageMade_of_ready host context performed
  obtain ⟨python, found⟩ := interpreterFound_of_ready host context performed unconfigured
  obtain ⟨asked, _, _, done⟩ :=
    activate_provisions host context enabled made unconfigured python found unserved
  split at done
  next error refused installs =>
    rw [performed] at done
    cases done
  next installed installs =>
    obtain ⟨last, _, left, done⟩ := done
    rw [performed] at done
    split at done
    next served =>
      cases done
      -- The system has been probed anew since the installation, and finds the same once more.
      have alike : Alike installed.world after.world := by
        rw [left]
        exact steady.afterSystem _ _
      have there := kept.isThere
      have served := (steady.serves alike context).symm.trans served
      exact ⟨_, repeats_served steady enabled there unconfigured unspoilt.interpreter served,
        provisionedReport_agrees steady alike there python⟩
    next missing => cases done

omit steady in
theorem served_of_quiet {lines : List String} (ran : before.RunsTo lines after) :
    serves host context (withStorage context before.world) = true := by
  obtain ⟨python, found⟩ := interpreterFound_of_ready host context performed unconfigured
  cases served : serves host context (withStorage context before.world) with
  | true => rfl
  | false =>
    exact absurd ran (unserved_prompts host context (enabled_of_ready host context performed)
      (storageMade_of_ready host context performed) unconfigured python found served performed
      lines)

end Ready

theorem activate_idempotent {before after : Stage S} {report : Report} (steady : Steady host)
    (numbered : before.world.tree.IsNumbered)
    (performed : (activate host context).perform before = (.ok (.ready report), after))
    (unspoilt : (∀ lines, ¬ before.RunsTo lines after) -> Unspoilt host after.world)
    (kept : (∀ lines, ¬ before.RunsTo lines after) -> StorageKept context after.world) :
    ∃ again, Repeats host context after again ∧ Agrees report again ∧
      ∀ lines, before.RunsTo lines after -> again = report := by
  cases configured : context.settings.python.configuredInterpreter with
  | some interpreter =>
    exact ⟨report, repeats_of_configured steady performed numbered interpreter configured,
      .refl report, fun _ _ => rfl⟩
  | none =>
    cases served : serves host context (withStorage context before.world) with
    | true =>
      exact ⟨report, repeats_of_served steady performed configured numbered served, .refl report,
        fun _ _ => rfl⟩
    | false =>
      have installed (lines : List String) : ¬ before.RunsTo lines after := fun ran =>
        absurd (served_of_quiet performed configured ran) (by simp [served])
      obtain ⟨again, repeats, agrees⟩ :=
        repeats_of_provisioned steady performed configured (unspoilt installed) (kept installed)
          served
      exact ⟨again, repeats, agrees, fun lines ran => absurd ran (installed lines)⟩

def searchingRunner (directory : Path) : Runner Rehearsal.Props where
  run program _ world :=
    (.ok {
      success := Files.isFile world.tree world.workDir (directory.join program)
      stdout := ""
      stderr := "" }, world)
  which _ _ := some (Path.ofText "/bin/python3")

def searchingHost : Host Rehearsal.Props :=
  { Rehearsal.host bareMachine .posix with
    runner := searchingRunner (Environment.binDirectory bareContext.storage .posix) }

theorem searchingHost_steady : Steady searchingHost where
  keeps _ _ world _ := .refl world
  answers _ _ _ _ _ alike := alike.leadsTo _ _
  finds _ _ _ _ := rfl

theorem activate_idempotent_searchingHost :
    ∃ report after again,
      (activate searchingHost bareContext).perform bareStage = (.ok (.ready report), after) ∧
      Unspoilt searchingHost after.world ∧ StorageKept bareContext after.world ∧
      Repeats searchingHost bareContext after again ∧ Agrees report again ∧
      report.resolution.builtin.isUsable = true := by
  have ready : ∃ report,
      ((activate searchingHost bareContext).perform bareStage).1 = .ok (.ready report) ∧
        report.resolution.builtin.isUsable = true :=
    ⟨_, rfl, rfl⟩
  obtain ⟨report, ready, usable⟩ := ready
  have performed : (activate searchingHost bareContext).perform bareStage =
      (.ok (.ready report), _) := Prod.ext ready rfl
  have unspoilt : Unspoilt searchingHost
      ((activate searchingHost bareContext).perform bareStage).2.world :=
    ⟨"python3", .head _, _, _, rfl, rfl⟩
  have kept : StorageKept bareContext
      ((activate searchingHost bareContext).perform bareStage).2.world :=
    fun missing => absurd missing (by decide +kernel)
  obtain ⟨again, repeats, agrees, _⟩ := activate_idempotent searchingHost_steady (by decide)
    performed (fun _ => unspoilt) (fun _ => kept)
  exact ⟨report, _, again, performed, unspoilt, kept, repeats, agrees, usable⟩

end AnsibleTooling.Activation
