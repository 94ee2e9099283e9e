import AnsibleTooling.Proofs.Comparison
import AnsibleTooling.Proofs.ReportConsistency
import AnsibleTooling.Proofs.Steadiness

set_option autoImplicit false

namespace AnsibleTooling

variable {S : Type}

def Context.tuned (context : Context) (force probeAnsibleDoc : Bool) : Context :=
  { context with
    settings := { context.settings with
      builtin := { context.settings.builtin with force, probeAnsibleDoc } } }

def storing (path : Path) (world : World S) : Except Error Unit × World S :=
  let (result, tree) := Files.makeDirectories world.tree world.workDir path
  (result.mapError .io, { world with tree })

def Congruent {A : Type} (same : World S -> World S -> Prop)
    (step : World S -> Except Error A × World S) : Prop :=
  ∀ first second, same first second ->
    (step second).1 = (step first).1 ∧ same (step first).2.settled (step second).2.settled

structure Undiscerning (host : Host S) (same : World S -> World S -> Prop) : Prop where
  files (first second : World S) : same first second -> Alike first second
  stores (path : Path) : Congruent same (storing path)
  finds (name : String) (first second : World S) : same first second ->
    host.runner.which name second = host.runner.which name first
  runs (program : Path) (arguments : List Bytes) : IsProbe arguments ->
    Congruent same (host.runner.run program arguments)
  confirms (question : String) : Congruent same (host.confirm question)
  installs (plan : InstallPlan) (first second : World S) : same first second ->
    (host.install plan second).result = (host.install plan first).result ∧
      (host.install plan second).deeds = (host.install plan first).deeds ∧
      same (host.install plan first).world (host.install plan second).world

/-- Probes have no side effects: a world in which one was run is the same as before. -/
structure Harmless (host : Host S) (same : World S -> World S -> Prop) : Prop
    extends Undiscerning host same where
  refl (world : World S) : same world world
  probes (program : Path) (arguments : List Bytes) (first second : World S) :
    IsProbe arguments -> same first second ->
    same first (host.runner.leaves program arguments second)

theorem undiscerning_eq (host : Host S) : Undiscerning host Eq where
  files first _ same := same ▸ .refl first
  stores _ _ _ same := same ▸ ⟨rfl, rfl⟩
  finds _ _ _ same := same ▸ rfl
  runs _ _ _ _ _ same := same ▸ ⟨rfl, rfl⟩
  confirms _ _ _ same := same ▸ ⟨rfl, rfl⟩
  installs _ _ _ same := same ▸ ⟨rfl, rfl, rfl⟩

namespace Undiscerning

variable {host : Host S} {same : World S -> World S -> Prop}
variable (undiscerning : Undiscerning host same) {first second : World S}
include undiscerning

section Alike

variable (alike : same first second)
include alike

theorem succeeds {arguments : List Bytes} (probe : IsProbe arguments) (program : Path) :
    host.runner.succeeds program arguments second =
      host.runner.succeeds program arguments first := by
  rw [Runner.succeeds, (undiscerning.runs program arguments probe first second alike).1,
    Runner.succeeds]

theorem leaves {arguments : List Bytes} (probe : IsProbe arguments) (program : Path) :
    same (host.runner.leaves program arguments first)
      (host.runner.leaves program arguments second) :=
  (undiscerning.runs program arguments probe first second alike).2

theorem interpreter (configured : Option Path) :
    Probe.interpreter host second configured = Probe.interpreter host first configured := by
  have files := undiscerning.files first second alike
  cases configured with
  | some configured => simp only [Probe.interpreter, files.canonicalize]
  | none =>
    have candidate : Probe.candidate host second = Probe.candidate host first := by
      funext name
      unfold Probe.candidate
      simp only [undiscerning.finds name first second alike, files.canonicalize]
    rw [Probe.interpreter, candidate, Probe.interpreter]

theorem modulesFound (interpreter : Path) :
    Activation.modulesFound host second interpreter =
      Activation.modulesFound host first interpreter := by
  have ansible := undiscerning.succeeds alike (.imports "ansible") interpreter
  have ansibleLint := undiscerning.succeeds
    (undiscerning.leaves alike (.imports "ansible") interpreter) (.imports "ansiblelint") interpreter
  simp only [Activation.modulesFound, Probe.imports, Probe.afterImport, ansible, ansibleLint]

end Alike

theorem episode {context : Context} {python : PythonPaths} {world later left leftOther : World S}
    {result ended : Except Error Unit} {events more : List Event} (alike : same world later)
    (went : Installation.Episode host context python world result left events)
    (wentOther : Installation.Episode host context python later ended leftOther more) :
    ended = result ∧ same left leftOther ∧ heard more = heard events := by
  have asks := undiscerning.confirms Installation.question world later alike
  have inquiries (world : World S) :
      heard (Installation.inquiry host world) = [.prompted Installation.question] := by
    rw [Installation.inquiry, ← List.singleton_append, heard_append, heard_records]
    rfl
  -- The prompt is answered the same way, so that both go the same way.
  cases went with
  | unanswered error asked =>
    cases wentOther with
    | unanswered errorOther askedOther =>
      rw [asks.1, asked] at askedOther
      cases askedOther
      exact ⟨rfl, asks.2, by rw [inquiries, inquiries]⟩
    | declined askedOther => simp [asks.1, asked] at askedOther
    | attempted askedOther => simp [asks.1, asked] at askedOther
  | declined asked =>
    cases wentOther with
    | unanswered errorOther askedOther => simp [asks.1, asked] at askedOther
    | declined askedOther =>
      exact ⟨rfl, asks.2, by rw [heard_append, inquiries, heard_append, inquiries]⟩
    | attempted askedOther => simp [asks.1, asked] at askedOther
  | attempted asked attempt called =>
    cases wentOther with
    | unanswered errorOther askedOther => simp [asks.1, asked] at askedOther
    | declined askedOther => simp [asks.1, asked] at askedOther
    | attempted askedOther attemptOther calledOther =>
      have installs := undiscerning.installs (Installation.planOf context python) _ _ asks.2
      rw [called, calledOther]
      dsimp only [Installation.attemptAt]
      rw [installs.1, installs.2.1]
      exact ⟨rfl, installs.2.2, by simp only [heard_append, inquiries]⟩

end Undiscerning

namespace Activation

structure SystemAgrees (docs : Availability -> Availability -> Prop) (first second : SystemTools) :
    Prop where
  ansible : second.ansible = first.ansible
  ansibleLint : second.ansibleLint = first.ansibleLint
  ansibleDoc : docs first.ansibleDoc second.ansibleDoc

/-- Managed tools may differ where nobody needs them, if one of two activations is forced to look
for them. -/
structure Akin (docs : Availability -> Availability -> Prop) (force forceOther : Bool)
    (first second : Resolution) : Prop where
  system : SystemAgrees docs first.system second.system
  modules : second.modules = first.modules
  builtin : second.builtin = first.builtin ∨ forceOther ≠ force ∧
    first.system.ansible = .available ∧ first.system.ansibleLint = .available

theorem reportOf_akin {docs : Availability -> Availability -> Prop} {force forceOther : Bool}
    {first second : Resolution} (akin : Akin docs force forceOther first second)
    (context : Context) (probes probesOther : Bool) (python : Option PythonPaths) :
    reportOf (context.tuned forceOther probesOther) python second =
      { reportOf (context.tuned force probes) python first with resolution := second } := by
  obtain ⟨⟨ansible, ansibleLint, _⟩, modules, builtin⟩ := akin
  rcases builtin with builtin | ⟨_, available, _⟩
  · simp [reportOf, Context.tuned, Configuration.derive, Configuration.lintFound,
      Resolution.usesBuiltin, Resolution.docTool, ansible, ansibleLint, modules, builtin]
  · -- With a system `ansible` nothing is taken from the managed environment.
    simp [reportOf, Context.tuned, Configuration.derive, Configuration.lintFound,
      Resolution.usesBuiltin, Resolution.docTool, Availability.isAvailable, ansible, ansibleLint,
      modules, available]

structure Documenting (host : Host S) (same : World S -> World S -> Prop) (extra : String -> Prop)
    (docs : Availability -> Availability -> Prop) (first second : Settings) : Prop where
  worlds (world later : World S) : same world later ->
    same (Probe.beforeAnsible host world first) (Probe.beforeAnsible host later second)
  found (world later : World S) : same world later ->
    docs (Probe.docFound host world first) (Probe.docFound host later second)
  lines : Interspersed extra ((Probe.docLines first).map .ran) ((Probe.docLines second).map .ran)

section Twins

variable {host : Host S} {same : World S -> World S -> Prop} {extra : String -> Prop}
variable {docs : Availability -> Availability -> Prop} {context : Context}
variable {force forceOther probes probesOther : Bool}
variable (undiscerning : Undiscerning host same)
variable (documenting : Documenting host same extra docs (context.tuned force probes).settings
  (context.tuned forceOther probesOther).settings)
include undiscerning documenting

section Worlds

variable {world later : World S} (alike : same world later)
include alike

theorem beforeLint_same :
    same (Probe.beforeLint host world (context.tuned force probes).settings)
      (Probe.beforeLint host later (context.tuned forceOther probesOther).settings) :=
  undiscerning.leaves (documenting.worlds world later alike) .help _

theorem afterSystem_same :
    same (Probe.afterSystem host world (context.tuned force probes).settings)
      (Probe.afterSystem host later (context.tuned forceOther probesOther).settings) :=
  undiscerning.leaves (beforeLint_same undiscerning documenting alike) .help _

theorem systemFound_agrees :
    SystemAgrees docs (Probe.systemFound host world (context.tuned force probes).settings)
      (Probe.systemFound host later (context.tuned forceOther probesOther).settings) where
  ansible := congrArg Availability.ofSuccess
    (undiscerning.succeeds (documenting.worlds world later alike) .help _)
  ansibleLint := congrArg Availability.ofSuccess
    (undiscerning.succeeds (beforeLint_same undiscerning documenting alike) .help _)
  ansibleDoc := documenting.found world later alike

theorem builtinTools_same :
    Probe.builtinTools (Probe.afterSystem host later (context.tuned forceOther probesOther).settings)
        context.storage context.platform =
      Probe.builtinTools (Probe.afterSystem host world (context.tuned force probes).settings)
        context.storage context.platform :=
  ((undiscerning.files _ _ (afterSystem_same undiscerning documenting alike)).builtinTools
    context).symm

end Worlds

theorem systemTools_twin :
    Act.Twin same extra (SystemAgrees docs)
      (Probe.systemTools host (context.tuned force probes).settings)
      (Probe.systemTools host (context.tuned forceOther probesOther).settings) := by
  refine Act.twin_of_quiet (fun world => Probe.systemTools_quiet host world _)
    (fun world => Probe.systemTools_quiet host world _)
    (fun _ _ alike => .ok (systemFound_agrees undiscerning documenting alike))
    (fun _ _ alike => afterSystem_same undiscerning documenting alike) ?_
  simp only [Probe.systemLines, List.map_append]
  exact documenting.lines.append (.refl _)

omit documenting in
theorem makeStorage_twin : Act.Twin same extra Eq (makeStorage context) (makeStorage context) := by
  refine Act.twin_of_quiet (makeStorage_quiet context) (makeStorage_quiet context) ?_ ?_ .nil
  · exact fun world later alike =>
      matches_of_eq (undiscerning.stores context.storage world later alike).1
  · exact fun world later alike => (undiscerning.stores context.storage world later alike).2

omit documenting in
theorem python_twin (configured : Option Path) :
    Act.Twin same extra Eq (Probe.python host configured) (Probe.python host configured) :=
  Act.twin_of_quiet (fun world => Probe.python_quiet host world configured)
    (fun world => Probe.python_quiet host world configured)
    (fun _ _ alike => .ok (undiscerning.interpreter alike configured).symm) (fun _ _ alike => alike)
    .nil

theorem survey_twin :
    Act.Twin same extra (fun first second => second.1 = first.1 ∧ SystemAgrees docs first.2 second.2)
      (survey host (context.tuned force probes)) (survey host (context.tuned forceOther probesOther)) := by
  refine (makeStorage_twin undiscerning).bind fun _ _ _ => ?_
  refine (python_twin undiscerning _).bind fun python other same => ?_
  subst same
  have probe : Act.Twin same extra
      (fun first second => second.1 = first.1 ∧ SystemAgrees docs first.2 second.2)
      (do
        let system <- Probe.systemTools host (context.tuned force probes).settings
        logEnvironment (context.tuned force probes) python system
        return (python, system))
      (do
        let system <- Probe.systemTools host (context.tuned forceOther probesOther).settings
        logEnvironment (context.tuned forceOther probesOther) python system
        return (python, system)) := by
    refine (systemTools_twin undiscerning documenting).bind fun _ _ agrees => ?_
    exact (Act.twin_logged _ _).bind fun _ _ _ => Act.twin_pure ⟨rfl, agrees⟩
  have stop : Act.Twin same extra Eq (throw .interpreterMissing : Act S PUnit)
      (throw .interpreterMissing : Act S PUnit) := Act.twin_throw _
  exact Act.twin_ite (fun _ => stop.bind fun _ _ _ => probe) fun _ => probe

omit documenting in
theorem install_twin (python : PythonPaths) :
    Act.Twin same extra Eq (Installation.install host context python)
      (Installation.install host context python) := by
  intro first second alike gate
  cases taken : first.gate.busy with
  | true =>
    rw [Installation.install_busy host context python first taken,
      Installation.install_busy host context python second (by rw [gate, taken])]
    exact ⟨.error _, _, _, [], [], by simp, by simp, alike, .nil⟩
  | false =>
    obtain ⟨world, events, went, done⟩ :=
      Installation.install_free host context python first taken
    obtain ⟨later, more, wentOther, doneOther⟩ :=
      Installation.install_free host context python second (by rw [gate, taken])
    obtain ⟨results, left, entered⟩ := undiscerning.episode alike went wentOther
    exact ⟨matches_of_eq results, _, _, events, more, done, doneOther, left, entered ▸ .refl _⟩

theorem serves_same {world later : World S} (alike : same world later) :
    serves host (context.tuned forceOther probesOther) later =
      serves host (context.tuned force probes) world := by
  have helps : Probe.helps host
        (Probe.beforeAnsible host later (context.tuned forceOther probesOther).settings)
        (context.tuned forceOther probesOther).settings.ansible.path =
      Probe.helps host (Probe.beforeAnsible host world (context.tuned force probes).settings)
        (context.tuned force probes).settings.ansible.path :=
    undiscerning.succeeds (documenting.worlds world later alike) .help _
  have files := undiscerning.files _ _ (afterSystem_same undiscerning documenting alike)
  have managed := (files.isManaged context .ansible).symm
  unfold serves
  rw [helps]
  exact congrArg _ managed

theorem reprobe_twin :
    Act.Twin same extra (Akin docs force forceOther) (reprobe host (context.tuned force probes))
      (reprobe host (context.tuned forceOther probesOther)) := by
  refine Act.twin_of_quiet (reprobe_quiet host _) (reprobe_quiet host _) ?_
    (fun _ _ alike => afterSystem_same undiscerning documenting alike) ?_
  · intro world later alike
    rw [serves_same undiscerning documenting alike]
    cases serves host (context.tuned force probes) world with
    | true =>
      exact .ok ⟨systemFound_agrees undiscerning documenting alike, rfl,
        .inl (builtinTools_same undiscerning documenting alike)⟩
    | false => exact .error _
  · simp only [Probe.systemLines, List.map_append]
    exact documenting.lines.append (.refl _)

theorem provision_twin (python : Option PythonPaths) :
    Act.Twin same extra (Akin docs force forceOther)
      (provision host (context.tuned force probes) python)
      (provision host (context.tuned forceOther probesOther) python) := by
  cases python with
  | none => exact Act.twin_throw _
  | some python =>
    have install : Act.Twin same extra Eq
        (Installation.install host (context.tuned force probes) python)
        (Installation.install host (context.tuned forceOther probesOther) python) :=
      install_twin undiscerning python
    exact install.bind fun _ _ _ => reprobe_twin undiscerning documenting

omit documenting in
theorem consult_twin {system systemOther : SystemTools}
    (agrees : SystemAgrees docs system systemOther) :
    Act.Twin same extra
      (fun builtin other => other = builtin ∨ forceOther ≠ force ∧ system.ansible = .available ∧
        system.ansibleLint = .available)
      (consult (context.tuned force probes) system)
      (consult (context.tuned forceOther probesOther) systemOther) := by
  refine Act.twin_of_quiet (fun world => consult_quiet _ world system)
    (fun world => consult_quiet _ world systemOther) (fun world later alike => .ok ?_)
    (fun _ _ alike => alike) .nil
  have needs : systemOther.needsBuiltin = system.needsBuiltin := by
    rw [SystemTools.needsBuiltin, agrees.ansible, agrees.ansibleLint, SystemTools.needsBuiltin]
  have tools := ((undiscerning.files world later alike).builtinTools context).symm
  unfold consulted
  rw [needs]
  cases needed : system.needsBuiltin with
  | true => exact .inl tools
  | false =>
    have enough : system.ansible = .available ∧ system.ansibleLint = .available := by
      simpa [SystemTools.needsBuiltin, isAvailable_eq_true] using needed
    by_cases same : forceOther = force
    · subst same
      left
      simp only [Context.tuned, Bool.false_or]
      split
      · exact tools
      · rfl
    · exact .inr ⟨same, enough⟩

theorem resolve_twin (python : Option PythonPaths) {system systemOther : SystemTools}
    (agrees : SystemAgrees docs system systemOther) :
    Act.Twin same extra (Akin docs force forceOther)
      (resolve host (context.tuned force probes) python system)
      (resolve host (context.tuned forceOther probesOther) python systemOther) := by
  cases configured : context.settings.python.configuredInterpreter with
  | some interpreter =>
    have resolves (force probes : Bool) (system : SystemTools) :
        resolve host (context.tuned force probes) python system =
          resolveInterpreter host interpreter system := by
      simp only [resolve, Context.tuned, configured]
    rw [resolves, resolves]
    refine Act.twin_of_quiet (fun world => resolveInterpreter_quiet host world interpreter system)
      (fun world => resolveInterpreter_quiet host world interpreter systemOther) ?_ ?_ (.refl _)
    · intro world later alike
      have imports := undiscerning.succeeds alike (.imports "ansible") interpreter
      have modules := undiscerning.modulesFound alike interpreter
      rw [Probe.imports, Probe.imports, imports, modules]
      split
      · exact .ok ⟨agrees, rfl, .inl rfl⟩
      · exact .error _
    · intro world later alike
      have first := undiscerning.leaves alike (.imports "ansible") interpreter
      exact undiscerning.leaves first (.imports "ansiblelint") interpreter
  | none =>
    have resolves (force probes : Bool) (system : SystemTools) :
        resolve host (context.tuned force probes) python system =
          resolveTools host (context.tuned force probes) python system := by
      simp only [resolve, Context.tuned, configured]
    rw [resolves, resolves, resolveTools_eq, resolveTools_eq]
    refine (consult_twin undiscerning agrees).bind fun builtin other found => ?_
    have serves : (systemOther.ansible.isAvailable || other.isUsable) =
        (system.ansible.isAvailable || builtin.isUsable) := by
      rw [agrees.ansible]
      rcases found with rfl | ⟨_, available, _⟩
      · rfl
      · simp [available, Availability.isAvailable]
    rw [serves]
    exact Act.twin_ite (fun _ => Act.twin_pure ⟨agrees, rfl, found⟩) fun _ =>
      provision_twin undiscerning documenting python

end Twins

inductive Decided (differ : Report -> Report -> Prop) : Activation -> Activation -> Prop
  | disabled : Decided differ .disabled .disabled
  | ready {first second : Report} (differs : differ first second) :
    Decided differ (.ready first) (.ready second)

/-- The second report differs from the first at most in its managed tools, and in those only if the
system has both tools that are needed. -/
structure DifferInManaged (first second : Report) : Prop where
  rest : second =
    { first with resolution := { first.resolution with builtin := second.resolution.builtin } }
  managed : second.resolution.builtin ≠ first.resolution.builtin ->
    first.resolution.system.ansible = .available ∧
      first.resolution.system.ansibleLint = .available

def DifferInDocumentation (first second : Report) : Prop :=
  second = { first with
    resolution := { first.resolution with
      system := { first.resolution.system with
        ansibleDoc := second.resolution.system.ansibleDoc } } }

theorem differInManaged_of_akin {force forceOther : Bool} {first second : Resolution}
    (akin : Akin Eq force forceOther first second) (context : Context) (probes : Bool)
    (python : Option PythonPaths) :
    DifferInManaged (reportOf (context.tuned force probes) python first)
      (reportOf (context.tuned forceOther probes) python second) := by
  have system : second.system = first.system := by
    obtain ⟨⟨ansible, ansibleLint, ansibleDoc⟩, _, _⟩ := akin
    rcases first with ⟨⟨_, _, _⟩, _, _⟩
    rcases second with ⟨⟨_, _, _⟩, _, _⟩
    simp_all
  have resolution : second = { first with builtin := second.builtin } := by
    obtain ⟨_, modules, _⟩ := akin
    rcases first with ⟨_, _, _⟩
    rcases second with ⟨_, _, _⟩
    simp_all
  rw [reportOf_akin akin context probes probes python]
  refine ⟨?_, fun differs => ?_⟩
  · exact congrArg (fun resolution => { reportOf _ python first with resolution }) resolution
  · rcases akin.builtin with same | ⟨_, enough⟩
    · exact absurd same differs
    · exact enough

theorem differInDocumentation_of_akin {docs : Availability -> Availability -> Prop} {force : Bool}
    {first second : Resolution} (akin : Akin docs force force first second) (context : Context)
    (probes probesOther : Bool) (python : Option PythonPaths) :
    DifferInDocumentation (reportOf (context.tuned force probes) python first)
      (reportOf (context.tuned force probesOther) python second) := by
  have resolution : second = { first with
      system := { first.system with ansibleDoc := second.system.ansibleDoc } } := by
    obtain ⟨⟨ansible, ansibleLint, _⟩, modules, builtin⟩ := akin
    rcases first with ⟨⟨_, _, _⟩, _, _⟩
    rcases second with ⟨⟨_, _, _⟩, _, _⟩
    simp_all
  rw [reportOf_akin akin context probes probesOther python]
  exact congrArg (fun resolution => { reportOf _ python first with resolution }) resolution

theorem activate_twin {host : Host S} {same : World S -> World S -> Prop}
    {extra : String -> Prop} {docs : Availability -> Availability -> Prop} {context : Context}
    {force forceOther probes probesOther : Bool} (undiscerning : Undiscerning host same)
    (documenting : Documenting host same extra docs (context.tuned force probes).settings
      (context.tuned forceOther probesOther).settings) {differ : Report -> Report -> Prop}
    (differs : ∀ first second python, Akin docs force forceOther first second ->
      differ (reportOf (context.tuned force probes) python first)
        (reportOf (context.tuned forceOther probesOther) python second)) :
    Act.Twin same extra (Decided differ) (activate host (context.tuned force probes))
      (activate host (context.tuned forceOther probesOther)) := by
  cases enabled : context.settings.enable with
  | false =>
    refine Act.twin_of_quiet (fun world => activate_disabled host _ world enabled)
      (fun world => activate_disabled host _ world enabled) (fun _ _ _ => .ok .disabled)
      (fun _ _ alike => alike) .nil
  | true =>
    rw [activate_eq host (context.tuned force probes) enabled,
      activate_eq host (context.tuned forceOther probesOther) enabled]
    refine (survey_twin undiscerning documenting).bind fun found other same => ?_
    obtain ⟨python, system⟩ := found
    obtain ⟨pythonOther, systemOther⟩ := other
    obtain ⟨rfl, agrees⟩ := same
    refine (resolve_twin undiscerning documenting _ agrees).bind fun first second akin => ?_
    exact Act.twin_pure (.ready (differs first second _ akin))

theorem documenting_same {host : Host S} {same : World S -> World S -> Prop}
    (undiscerning : Undiscerning host same) (context : Context) (force forceOther probes : Bool)
    (extra : String -> Prop) :
    Documenting host same extra Eq (context.tuned force probes).settings
      (context.tuned forceOther probes).settings where
  worlds world later alike := by
    cases probes with
    | true => exact undiscerning.leaves alike .help _
    | false => exact alike
  found world later alike := by
    cases probes with
    | true => exact congrArg Availability.ofSuccess (undiscerning.succeeds alike .help _).symm
    | false => rfl
  lines := .refl _

theorem documenting_harmless {host : Host S} {same : World S -> World S -> Prop}
    (harmless : Harmless host same) (context : Context) (force : Bool) :
    Documenting host same (· = Probe.helpLine context.settings.ansibleDoc.path) (fun _ _ => True)
      (context.tuned force false).settings (context.tuned force true).settings where
  worlds world later alike := harmless.probes _ _ world later .help alike
  found _ _ _ := trivial
  lines := .only _ rfl .nil

structure Indifference (host : Host S) (context : Context) (before : Stage S) : Prop where
  forced : ∃ world events more,
    let first := (activate host context).perform before
    let second := (activate host (context.tuned (!context.settings.builtin.force)
      context.settings.builtin.probeAnsibleDoc)).perform before
    Matches (Decided DifferInManaged) first.1 second.1 ∧
      first.2 = before.extend world events ∧ second.2 = before.extend world more ∧
      heard more = heard events
  documented (same : World S -> World S -> Prop) : Harmless host same ->
    Parallel same (· = Probe.helpLine context.settings.ansibleDoc.path)
      (Decided DifferInDocumentation) before before
      ((activate host (context.tuned context.settings.builtin.force false)).perform before)
      ((activate host (context.tuned context.settings.builtin.force true)).perform before)

theorem activate_indifferent (host : Host S) (context : Context) (before : Stage S) :
    Indifference host context before where
  forced := by
    have undiscerning := undiscerning_eq host
    obtain ⟨results, world, _, events, more, reached, reachedOther, rfl, entered⟩ :=
      activate_twin undiscerning (documenting_same undiscerning context
        context.settings.builtin.force (!context.settings.builtin.force)
        context.settings.builtin.probeAnsibleDoc fun _ => False)
        (fun _ _ python akin => differInManaged_of_akin akin context _ python) before before rfl rfl
    exact ⟨world, events, more, results, reached, reachedOther, entered.eq_of_none fun _ => id⟩
  documented same harmless :=
    activate_twin harmless.toUndiscerning
      (documenting_harmless harmless context context.settings.builtin.force)
      (fun _ _ python akin => differInDocumentation_of_akin akin context _ _ python) before before
      (harmless.refl before.world) rfl

def documentedMachine : Rehearsal.Script :=
  { bareMachine with
    commands := [("ansible-doc -h", { output := { success := true, stdout := "", stderr := "" } })] }

def SameButLog (first second : World S) : Prop :=
  second.settled = first.settled

theorem documentedMachine_undiscerning :
    Undiscerning (Rehearsal.host documentedMachine .posix) SameButLog := by
  -- Every field of two such worlds is shared but the records, which nothing reads.
  constructor
  case files =>
    rintro ⟨_, _, _, _, _⟩ ⟨_, _, _, _, _⟩ ⟨⟩
    exact ⟨rfl, _, rfl⟩
  case stores =>
    rintro path ⟨_, _, _, _, _⟩ ⟨_, _, _, _, _⟩ ⟨⟩
    exact ⟨rfl, rfl⟩
  case finds => exact fun _ _ _ _ => rfl
  case runs =>
    rintro program arguments - ⟨_, _, _, _, _⟩ ⟨_, _, _, _, _⟩ ⟨⟩
    simp only [Rehearsal.host, Rehearsal.runner]
    split <;> exact ⟨rfl, rfl⟩
  case confirms => exact fun _ _ _ same => ⟨rfl, same⟩
  case installs =>
    rintro plan ⟨_, _, _, _, _⟩ ⟨_, _, _, _, _⟩ ⟨⟩
    simp only [Rehearsal.host, Rehearsal.installer, documentedMachine, bareMachine,
      Rehearsal.layOut]
    split <;> exact ⟨rfl, trivial, rfl⟩

theorem documentedMachine_harmless :
    Harmless (Rehearsal.host documentedMachine .posix) SameButLog where
  toUndiscerning := documentedMachine_undiscerning
  refl _ := rfl
  probes program arguments first second _ same := by
    have creates : ((Rehearsal.runner documentedMachine).run program arguments second).2 = second := by
      simp only [Rehearsal.runner]
      split
      · rfl
      next line reply found =>
        have row := List.mem_of_find?_eq_some found
        simp only [documentedMachine, List.mem_singleton, Prod.mk.injEq] at row
        rw [row.2]
        rfl
    simpa [SameButLog, Runner.leaves, Rehearsal.host, creates, World.settled] using same

theorem activate_indifferent_documentedMachine :
    Harmless (Rehearsal.host documentedMachine .posix) SameButLog ∧
      ∃ first second,
        ((activate (Rehearsal.host documentedMachine .posix)
          (bareContext.tuned false false)).perform bareStage).1 = .ok (.ready first) ∧
        ((activate (Rehearsal.host documentedMachine .posix)
          (bareContext.tuned false true)).perform bareStage).1 = .ok (.ready second) ∧
        first.resolution.system.ansibleDoc = .unavailable ∧
        second.resolution.system.ansibleDoc = .available ∧
        DifferInDocumentation first second := by
  have found : ∃ first second,
      ((activate (Rehearsal.host documentedMachine .posix)
        (bareContext.tuned false false)).perform bareStage).1 = .ok (.ready first) ∧
      ((activate (Rehearsal.host documentedMachine .posix)
        (bareContext.tuned false true)).perform bareStage).1 = .ok (.ready second) ∧
      first.resolution.system.ansibleDoc = .unavailable ∧
      second.resolution.system.ansibleDoc = .available :=
    ⟨_, _, rfl, rfl, rfl, rfl⟩
  obtain ⟨first, second, ready, readyOther, unprobed, probed⟩ := found
  have matched := ((activate_indifferent (Rehearsal.host documentedMachine .posix) bareContext
    bareStage).documented SameButLog documentedMachine_harmless).results
  change Matches _ ((activate _ (bareContext.tuned false false)).perform bareStage).1
    ((activate _ (bareContext.tuned false true)).perform bareStage).1 at matched
  rw [ready, readyOther] at matched
  have differs : DifferInDocumentation first second := by
    cases matched with
    | ok decided =>
      cases decided with
      | ready differs => exact differs
  exact ⟨documentedMachine_harmless, first, second, ready, readyOther, unprobed, probed, differs⟩

end Activation

end AnsibleTooling
