import AnsibleTooling.Proofs.EnvironmentMaking
import AnsibleTooling.Proofs.Passing
import AnsibleTooling.Proofs.ReportConsistency

set_option autoImplicit false

namespace AnsibleTooling.Managed

variable {S : Type}

def Undermines (plan : InstallPlan) (world : World S) : Prop :=
  Files.exists? world.tree world.workDir plan.directory = true ∧
    ∃ environment, Files.find world.tree world.workDir false plan.directory = .ok environment ∧
      Files.Passes world.tree environment.location (Files.start world.workDir plan.interpreter)
        (Files.steps plan.interpreter)

/-- What an installer does about the interpreter of a plan before it runs it. -/
structure Treats (runner : Runner S) (plan : InstallPlan) (world : World S) : Prop where
  provided : let attempt := installer runner plan world
    Provided runner plan world attempt.world attempt.result (linesOf attempt.deeds)
  -- The first command is run in the world that was cleared.
  survives (start : World S) : Cleared plan world (.ok start) ->
    Files.exists? world.tree world.workDir plan.interpreter = true ->
    (Files.exists? start.tree start.workDir plan.interpreter = true ↔ ¬ Undermines plan world)
  resolved (path : Path) : Files.IsGrounded world.tree (Files.start world.workDir path) ->
    Files.canonicalize world.tree world.workDir path = .ok plan.interpreter ->
    Files.exists? world.tree world.workDir plan.interpreter = true ->
    ∃ place, plan.interpreter = Path.ofNames place ∧
      (Undermines plan world ↔
        Files.exists? world.tree world.workDir plan.directory = true ∧
          ∃ environment, Files.find world.tree world.workDir false plan.directory = .ok environment ∧
            environment.location <+: place)

theorem installer_treats (runner : Runner S) (interpreter storage : Path) (platform : Platform)
    (builtin : BuiltinSettings) (world : World S) :
    Treats runner (.make interpreter storage platform builtin) world where
  provided := installer_provided runner _ world
  survives start cleared there := by
    cases cleared with
    | absent nothing =>
      refine ⟨fun _ undermined => ?_, fun _ => there⟩
      cases nothing.symm.trans undermined.1
    | removed held environment left removes finds erased gone =>
      rw [erased.exists_iff (Files.environment_location finds) there]
      apply not_congr
      constructor
      · exact fun passes => ⟨held, environment, finds, passes⟩
      · rintro ⟨_, other, same, passes⟩
        cases finds.symm.trans same
        exact passes
  resolved path grounded canonical there := by
    obtain ⟨place, real, passes⟩ := Files.passes_canonical grounded canonical there
    refine ⟨place, real, ?_⟩
    simp only [Undermines, passes]

def ingrownMachine : Host Rehearsal.Props :=
  Rehearsal.host {
    executables := [("python3", Path.ofText "/srv/ansible/venv/bin/python3")]
    installing := .managed } .posix

def ingrownStage : Stage Rehearsal.Props :=
  { Activation.bareStage with world := { Activation.bareStage.world with
      tree := Files.Fixture.placeAll [] Activation.bareStage.world.tree [{
        path := Path.ofText "/srv/ansible/venv/bin/python3", entry := .file [],
        isExecutable := true }] } }

def ingrownPython : PythonPaths :=
  { found := Path.ofText "/srv/ansible/venv/bin/python3"
    real := Path.ofText "/srv/ansible/venv/bin/python3" }

/-- The interpreter is deleted by the installation that is to be made with it. -/
theorem installer_deletes_interpreter :
    Activation.interpreterFound ingrownMachine Activation.bareContext ingrownStage.world =
        some ingrownPython ∧
      ∃ plan start, plan = Installation.planOf Activation.bareContext ingrownPython ∧
        Files.exists? ingrownStage.world.tree ingrownStage.world.workDir plan.interpreter = true ∧
        Cleared plan ingrownStage.world (.ok start) ∧
        Files.exists? start.tree start.workDir plan.interpreter = false := by
  let plan := Installation.planOf Activation.bareContext ingrownPython
  let left := ingrownStage.world.tree.erase (["srv", "ansible", "venv"].map Text.encode)
  have found : Activation.interpreterFound ingrownMachine Activation.bareContext
      ingrownStage.world = some ingrownPython := by decide +kernel
  have before : Files.exists? ingrownStage.world.tree ingrownStage.world.workDir
      plan.interpreter = true := by decide +kernel
  have there : Files.exists? ingrownStage.world.tree ingrownStage.world.workDir
      plan.directory = true := by decide +kernel
  have removes : Files.removeDirectory ingrownStage.world.tree ingrownStage.world.workDir
      plan.directory = .ok left := rfl
  obtain ⟨environment, finds, erased⟩ := Files.removeDirectory_removes removes
  have cleared : Cleared plan ingrownStage.world (.ok { ingrownStage.world with tree := left }) :=
    .removed there environment left removes finds erased fun below => erased.absent below finds
  exact ⟨found, plan, _, rfl, before, cleared, by decide +kernel⟩

end AnsibleTooling.Managed
