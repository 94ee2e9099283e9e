import AnsibleTooling.Proofs.Course
import AnsibleTooling.Proofs.Directories

set_option autoImplicit false

namespace AnsibleTooling

variable {S : Type}

/-- Two worlds with the same files and the same working directory, whenever it is there. -/
structure Alike (first second : World S) : Prop where
  directory : second.workDir = first.workDir
  tree : ∃ now, second.tree = first.tree.at now

namespace Alike

variable {first second third : World S}

theorem refl (world : World S) : Alike world world :=
  ⟨rfl, world.tree.now, rfl⟩

theorem settled (world : World S) : Alike world world.settled :=
  ⟨rfl, world.tree.now, rfl⟩

theorem symm (alike : Alike first second) : Alike second first := by
  obtain ⟨directory, now, tree⟩ := alike
  exact ⟨directory.symm, first.tree.now, by rw [tree]; rfl⟩

theorem trans (alike : Alike first second) (next : Alike second third) : Alike first third := by
  obtain ⟨directory, now, tree⟩ := alike
  obtain ⟨further, later, grown⟩ := next
  exact ⟨further.trans directory, later, by rw [grown, tree]; rfl⟩

variable (alike : Alike first second)
include alike

theorem between {left right : World S} (before : Alike first left) (after : Alike second right) :
    Alike left right :=
  (before.symm.trans alike).trans after

theorem leadsTo (kind : Files.Node -> Bool) (path : Path) :
    Files.leadsTo first.tree first.workDir kind path =
      Files.leadsTo second.tree second.workDir kind path := by
  obtain ⟨directory, now, tree⟩ := alike
  rw [directory, tree, Files.leadsTo_at]

theorem canonicalize (path : Path) :
    Files.canonicalize first.tree first.workDir path =
      Files.canonicalize second.tree second.workDir path := by
  obtain ⟨directory, now, tree⟩ := alike
  rw [directory, tree, Files.canonicalize_at]

theorem isThere {path : Path} (there : Files.IsThere first.tree first.workDir path) :
    Files.IsThere second.tree second.workDir path :=
  there.imp_right fun standing => (alike.leadsTo _ _).symm.trans standing

theorem isManaged (context : Context) (tool : Tool) :
    Probe.isManaged first context tool = Probe.isManaged second context tool :=
  alike.leadsTo _ _

theorem builtinTools (context : Context) :
    Probe.builtinTools first context.storage context.platform =
      Probe.builtinTools second context.storage context.platform := by
  unfold Probe.builtinTools Probe.builtinTool Files.isFile
  simp only [alike.leadsTo]

theorem consulted (context : Context) (system : SystemTools) :
    Activation.consulted context first system = Activation.consulted context second system := by
  unfold Activation.consulted
  rw [alike.builtinTools context]

end Alike

inductive IsProbe : List Bytes -> Prop
  | help : IsProbe [Text.encode "-h"]
  | imports (name : String) : IsProbe (Probe.importArguments name)

structure Steady (host : Host S) : Prop where
  keeps (program : Path) (arguments : List Bytes) (world : World S) : IsProbe arguments ->
    Alike world (host.runner.run program arguments world).2
  answers (program : Path) (arguments : List Bytes) (first second : World S) :
    IsProbe arguments -> Alike first second ->
    host.runner.succeeds program arguments first = host.runner.succeeds program arguments second
  finds (name : String) (first second : World S) : Alike first second ->
    host.runner.which name first = host.runner.which name second

namespace Steady

variable {host : Host S} (steady : Steady host)
include steady

section Keeps

variable (world : World S)

theorem leaves {arguments : List Bytes} (probe : IsProbe arguments) (program : Path) :
    Alike world (host.runner.leaves program arguments world) :=
  (steady.keeps program arguments world probe).trans (.settled _)

theorem beforeAnsible (settings : Settings) :
    Alike world (Probe.beforeAnsible host world settings) := by
  unfold Probe.beforeAnsible
  split
  · exact steady.leaves world .help _
  · exact .refl world

theorem beforeLint (settings : Settings) : Alike world (Probe.beforeLint host world settings) :=
  (steady.beforeAnsible world settings).trans (steady.leaves _ .help _)

theorem afterSystem (settings : Settings) : Alike world (Probe.afterSystem host world settings) :=
  (steady.beforeLint world settings).trans (steady.leaves _ .help _)

theorem afterModules (interpreter : Path) :
    Alike world (Activation.afterModules host world interpreter) :=
  (steady.leaves world (.imports _) _).trans (steady.leaves _ (.imports _) _)

end Keeps

variable {first second : World S} (alike : Alike first second)
include alike

theorem helps (name : String) : Probe.helps host first name = Probe.helps host second name :=
  steady.answers _ _ _ _ .help alike

theorem imports (interpreter : Path) (name : String) :
    Probe.imports host first interpreter name = Probe.imports host second interpreter name :=
  steady.answers _ _ _ _ (.imports name) alike

theorem systemFound (settings : Settings) :
    Probe.systemFound host first settings = Probe.systemFound host second settings := by
  -- Each command is asked in worlds that only the probes before it have led to.
  have ansible := steady.helps
    (alike.between (steady.beforeAnsible _ settings) (steady.beforeAnsible _ settings))
    settings.ansible.path
  have ansibleLint := steady.helps
    (alike.between (steady.beforeLint _ settings) (steady.beforeLint _ settings))
    settings.ansibleLint.path
  have ansibleDoc : Probe.docFound host first settings = Probe.docFound host second settings := by
    unfold Probe.docFound
    rw [steady.helps alike]
  rw [Probe.systemFound, ansible, ansibleLint, ansibleDoc, Probe.systemFound]

theorem serves (context : Context) :
    Activation.serves host context first = Activation.serves host context second := by
  have helps := steady.helps (alike.between (steady.beforeAnsible _ context.settings)
    (steady.beforeAnsible _ context.settings)) context.settings.ansible.path
  have managed := (alike.between (steady.afterSystem _ context.settings)
    (steady.afterSystem _ context.settings)).isManaged context .ansible
  rw [Activation.serves, helps, managed, Activation.serves]

theorem interpreter (configured : Option Path) :
    Probe.interpreter host first configured = Probe.interpreter host second configured := by
  cases configured with
  | some configured => simp only [Probe.interpreter, alike.canonicalize]
  | none =>
    have candidate : Probe.candidate host first = Probe.candidate host second := by
      funext name
      unfold Probe.candidate
      simp only [steady.finds name first second alike, alike.canonicalize]
    rw [Probe.interpreter, candidate, Probe.interpreter]

theorem modulesFound (interpreter : Path) :
    Activation.modulesFound host first interpreter =
      Activation.modulesFound host second interpreter := by
  have ansible := steady.imports alike interpreter "ansible"
  have ansibleLint := steady.imports (alike.between
    (steady.leaves _ (.imports "ansible") interpreter)
    (steady.leaves _ (.imports "ansible") interpreter)) interpreter "ansiblelint"
  rw [Activation.modulesFound, ansible, Probe.afterImport, ansibleLint, Activation.modulesFound,
    Probe.afterImport]

end Steady

end AnsibleTooling
