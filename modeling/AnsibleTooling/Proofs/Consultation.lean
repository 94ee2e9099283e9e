import AnsibleTooling.Proofs.DecisionOrder
import AnsibleTooling.Proofs.ReportConsistency

set_option autoImplicit false

namespace AnsibleTooling.Activation

variable {S : Type} {host : Host S} {context : Context}

def NamesManaged (context : Context) (world : World S) (report : Report) : Prop :=
  ∀ tool path, report.resolution.builtin.get tool = some path ↔
    path = Environment.tool context.storage context.platform tool ∧
      Files.isFile world.tree world.workDir path = true

def FailsProbe (settings : Settings) (system : SystemTools) : Prop :=
  system.ansible = .unavailable ∨ system.ansibleLint = .unavailable ∨
    settings.builtin.probeAnsibleDoc = true ∧ system.ansibleDoc = .unavailable

theorem needsBuiltin_iff (system : SystemTools) :
    system.needsBuiltin = true ↔
      system.ansible = .unavailable ∨ system.ansibleLint = .unavailable := by
  simp only [SystemTools.needsBuiltin, Bool.or_eq_true, Bool.not_eq_true', isAvailable_eq_false]

/-- Whether a report is about the managed environment, by what the activation has found and done. -/
structure Consults (context : Context) (before after : Stage S) (report : Report) : Prop where
  sought : report.resolution.system.ansible = .unavailable ∨
      report.resolution.system.ansibleLint = .unavailable ∨ context.settings.builtin.force = true ->
    NamesManaged context after.world report
  installed : (∀ lines, ¬ before.RunsTo lines after) -> NamesManaged context after.world report
  -- Whatever has come of the probe for documentation.
  unsought : report.resolution.system.ansible = .available ->
    report.resolution.system.ansibleLint = .available -> context.settings.builtin.force = false ->
    (∃ lines, before.RunsTo lines after) -> report.resolution.builtin = {}

theorem servedReport_consults {before after : Stage S} {lines : List String}
    (ran : before.RunsTo lines after) (left : after.world = surveyed host context before.world) :
    Consults context before after (servedReport host context before.world) := by
  constructor
  case sought =>
    intro wanted tool path
    have looked : ((systemSurveyed host context before.world).needsBuiltin ||
        context.settings.builtin.force) = true := by
      rw [Bool.or_eq_true, needsBuiltin_iff, or_assoc]
      exact wanted
    change (consulted context _ _).get tool = some path ↔ _
    rw [consulted, if_pos looked, left]
    exact get_builtinTools context
  case installed => exact fun installed => absurd ran (installed lines)
  case unsought =>
    intro ansible ansibleLint unforced _
    have content : (systemSurveyed host context before.world).needsBuiltin = false := by
      rw [Bool.eq_false_iff, Ne, needsBuiltin_iff]
      rintro (missing | missing)
      · cases ansible.symm.trans missing
      · cases ansibleLint.symm.trans missing
    change consulted context _ _ = _
    rw [consulted, content, unforced]
    rfl

theorem activate_consults {before after : Stage S} {report : Report}
    (unconfigured : ∀ interpreter, ¬ Insists context.settings interpreter)
    (performed : (activate host context).perform before = (.ok (.ready report), after)) :
    Consults context before after report := by
  obtain ⟨probed, reports⟩ := reports_of_ready host context performed
  cases reports with
  | configured interpreter insists => exact absurd insists (unconfigured interpreter)
  | served _ _ ran left => exact servedReport_consults ran left
  | provisioned _ python asked installed asks installs serves ran left =>
    have named : NamesManaged context after.world
        (provisionedReport host context python installed.world) := by
      intro tool path
      rw [left]
      exact get_builtinTools context
    -- There was a prompt, so that it did not go quietly.
    obtain ⟨world, events, prompted, extended⟩ :=
      Installation.install_prompts host context python asked (by rw [installs])
    rw [installs] at extended
    have asked (lines : List String) : ¬ before.RunsTo lines after :=
      not_runsTo_of_prompted asks _ prompted extended ran lines
    exact ⟨fun _ => named, fun _ => named, fun _ _ _ ⟨lines, ran⟩ => absurd ran (asked lines)⟩

def equippedMachine (commands : List String) : Host Rehearsal.Props :=
  let helped : Rehearsal.Reply := { output := { success := true, stdout := "", stderr := "" } }
  Rehearsal.host { bareMachine with commands := commands.map fun line => (line, helped) } .posix

def leftStage (tools : List String) : Stage Rehearsal.Props :=
  { bareStage with world := { bareStage.world with
      tree := Files.Fixture.placeAll [] bareStage.world.tree (tools.map fun tool =>
        { path := Path.ofText ("/srv/ansible/venv/bin/" ++ tool), entry := .file [] }) } }

def unlinted : Except Error Activation × Stage Rehearsal.Props :=
  (activate (equippedMachine ["ansible -h"]) bareContext).perform (leftStage ["ansible-lint"])

theorem activate_consults_unlinted :
    (∀ interpreter, ¬ Insists bareContext.settings interpreter) ∧
      ∃ report, unlinted.1 = .ok (.ready report) ∧
        Consults bareContext (leftStage ["ansible-lint"]) unlinted.2 report ∧
        report.resolution.builtin.ansibleLint =
          some (Path.ofText "/srv/ansible/venv/bin/ansible-lint") := by
  have unconfigured := (configuredInterpreter_eq_none bareContext.settings).mp rfl
  have ready : ∃ report, unlinted.1 = .ok (.ready report) ∧
      report.resolution.builtin.ansibleLint =
        some (Path.ofText "/srv/ansible/venv/bin/ansible-lint") :=
    ⟨_, rfl, rfl⟩
  obtain ⟨report, ready, lint⟩ := ready
  have performed : (activate (equippedMachine ["ansible -h"]) bareContext).perform
      (leftStage ["ansible-lint"]) = (.ok (.ready report), unlinted.2) := Prod.ext ready rfl
  exact ⟨unconfigured, report, ready, activate_consults unconfigured performed, lint⟩

def undocumented : Except Error Activation × Stage Rehearsal.Props :=
  (activate (equippedMachine ["ansible -h", "ansible-lint -h"]) bareContext).perform
    (leftStage ["ansible-doc"])

/-- Only the documentation tool of the system is missing. There is a managed one, which the report
does not name. -/
theorem activate_overlooks :
    (∀ interpreter, ¬ Insists bareContext.settings interpreter) ∧
      ∃ report, undocumented.1 = .ok (.ready report) ∧
        FailsProbe bareContext.settings report.resolution.system ∧
        Files.isFile undocumented.2.world.tree undocumented.2.world.workDir
          (Environment.tool bareContext.storage bareContext.platform .ansibleDoc) = true ∧
        ¬ NamesManaged bareContext undocumented.2.world report := by
  refine ⟨(configuredInterpreter_eq_none bareContext.settings).mp rfl, _, rfl, ?_⟩
  have there : Files.isFile undocumented.2.world.tree undocumented.2.world.workDir
      (Environment.tool bareContext.storage bareContext.platform .ansibleDoc) = true := by
    decide +kernel
  refine ⟨.inr (.inr ⟨rfl, rfl⟩), there, fun names => ?_⟩
  have named := (names .ansibleDoc _).mpr ⟨rfl, there⟩
  cases named

end AnsibleTooling.Activation
