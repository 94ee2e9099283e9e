import AnsibleTooling.Activation
import AnsibleTooling.Proofs.Provisioning

set_option autoImplicit false

namespace AnsibleTooling.Activation

variable {S : Type} (host : Host S) (context : Context) (world : World S)

def Insists (settings : Settings) (interpreter : Path) : Prop :=
  settings.python.interpreterPath = some interpreter ∧ interpreter.isEmpty = false

theorem configuredInterpreter_eq_some (settings : Settings) (interpreter : Path) :
    settings.python.configuredInterpreter = some interpreter ↔ Insists settings interpreter := by
  simp [PythonSettings.configuredInterpreter, Insists, Option.filter_eq_some_iff]

theorem configuredInterpreter_eq_none (settings : Settings) :
    settings.python.configuredInterpreter = none ↔
      ∀ interpreter, ¬ Insists settings interpreter := by
  simp only [← configuredInterpreter_eq_some, Option.eq_none_iff_forall_ne_some, ne_eq]

def storageMade : Except Io.Failure Unit :=
  (Files.makeDirectories world.tree world.workDir context.storage).1

def withStorage : World S :=
  World.settled
    { world with tree := (Files.makeDirectories world.tree world.workDir context.storage).2 }

theorem makeStorage_quiet :
    (makeStorage context).Quiet world [] ((storageMade context world).mapError .io)
      (withStorage context world) :=
  Act.quiet_ofWorld _

theorem logBuiltin_quiet (builtin : BuiltinTools) :
    (logBuiltin builtin).Quiet world [] (.ok ()) world := by
  unfold logBuiltin
  split
  · exact Act.quiet_log
  · exact Act.quiet_pure ()

theorem managedTools_quiet :
    (managedTools context).Quiet world []
      (.ok (Probe.builtinTools world context.storage context.platform)) world :=
  Act.quiet_world.andThen ((logBuiltin_quiet world _).andThen (Act.quiet_pure _))

def consulted (system : SystemTools) : BuiltinTools :=
  if system.needsBuiltin || context.settings.builtin.force then
    Probe.builtinTools world context.storage context.platform
  else {}

def consult (system : SystemTools) : Act S BuiltinTools :=
  if system.needsBuiltin || context.settings.builtin.force then managedTools context else pure {}

theorem consult_quiet (system : SystemTools) :
    (consult context system).Quiet world [] (.ok (consulted context world system)) world := by
  unfold consult consulted
  split
  · exact managedTools_quiet context world
  · exact Act.quiet_pure _

def modulesFound (interpreter : Path) : Modules :=
  { ansible := .ofSuccess (Probe.imports host world interpreter "ansible")
    ansibleLint := .ofSuccess (Probe.imports host
      (Probe.afterImport host world interpreter "ansible") interpreter "ansiblelint") }

def afterModules (interpreter : Path) : World S :=
  Probe.afterImport host (Probe.afterImport host world interpreter "ansible") interpreter
    "ansiblelint"

def moduleLines (interpreter : Path) : List String :=
  [Probe.importLine interpreter "ansible"] ++ [Probe.importLine interpreter "ansiblelint"]

@[simp] theorem isAvailable_ofSuccess (success : Bool) :
    (Availability.ofSuccess success).isAvailable = success := by
  cases success <;> rfl

theorem resolveInterpreter_quiet (interpreter : Path) (system : SystemTools) :
    (resolveInterpreter host interpreter system).Quiet world (moduleLines interpreter)
      (if Probe.imports host world interpreter "ansible" then
        .ok { system, modules := some (modulesFound host world interpreter) }
      else .error (.ansibleModuleMissing interpreter.display))
      (afterModules host world interpreter) := by
  have ansible := Probe.module_quiet host world interpreter "ansible"
  have ansibleLint := Probe.module_quiet host
    (Probe.afterImport host world interpreter "ansible") interpreter "ansiblelint"
  refine ansible.bind (ansibleLint.thenSilent (Act.quiet_log.andThen ?_))
  cases imported : Probe.imports host world interpreter "ansible" with
  | true =>
    simp only [isAvailable_ofSuccess, Bool.not_true, Bool.false_eq_true, if_false, if_true]
    simp only [modulesFound, imported]
    exact Act.quiet_pure _
  | false =>
    simp only [isAvailable_ofSuccess, Bool.not_false, Bool.false_eq_true, if_false, if_true]
    exact (Act.quiet_throw _).fails

/-- Whether there is an `ansible` to work with: one of the system, probed from this world on, or a
managed one after the probes. -/
def serves : Bool :=
  Probe.helps host (Probe.beforeAnsible host world context.settings)
      context.settings.ansible.path ||
    Probe.isManaged (Probe.afterSystem host world context.settings) context .ansible

theorem serves_consulted :
    ((Probe.systemFound host world context.settings).ansible.isAvailable ||
      (consulted context (Probe.afterSystem host world context.settings)
        (Probe.systemFound host world context.settings)).isUsable) =
      serves host context world := by
  -- The managed tools matter only without a system `ansible`, and there they are looked for.
  cases helped : Probe.helps host (Probe.beforeAnsible host world context.settings)
      context.settings.ansible.path <;>
    simp [serves, consulted, Probe.systemFound, SystemTools.needsBuiltin, helped]

def survey : Act S (Option PythonPaths × SystemTools) := do
  makeStorage context
  let python <- Probe.python host context.settings.python.configuredInterpreter
  if python.isNone && context.settings.python.configuredInterpreter.isNone then
    throw .interpreterMissing
  let system <- Probe.systemTools host context.settings
  logEnvironment context python system
  return (python, system)

def resolve (python : Option PythonPaths) (system : SystemTools) : Act S Resolution :=
  match context.settings.python.configuredInterpreter with
  | some interpreter => resolveInterpreter host interpreter system
  | none => resolveTools host context python system

theorem activate_eq (enabled : context.settings.enable = true) :
    activate host context = do
      let (python, system) <- survey host context
      let resolution <- resolve host context python system
      return .ready (reportOf context python resolution) := by
  unfold activate survey resolve
  simp only [enabled, Bool.not_true, Bool.false_eq_true, if_false, bind_assoc]
  refine bind_congr fun _ => bind_congr fun python => ?_
  -- The code goes on inside each branch, where the two parts go on behind them.
  split <;> cases context.settings.python.configuredInterpreter <;>
    simp only [bind_assoc, pure_bind]

def surveyed : World S :=
  Probe.afterSystem host (withStorage context world) context.settings

def interpreterFound : Option PythonPaths :=
  Probe.interpreter host (withStorage context world) context.settings.python.configuredInterpreter

def systemSurveyed : SystemTools :=
  Probe.systemFound host (withStorage context world) context.settings

theorem survey_refused (failure : Io.Failure) (refused : storageMade context world = .error failure) :
    (survey host context).Quiet world [] (.error (.io failure)) (withStorage context world) := by
  have storage := makeStorage_quiet context world
  rw [refused] at storage
  exact storage.fails

variable {world}

theorem survey_lost (made : storageMade context world = .ok ())
    (unconfigured : context.settings.python.configuredInterpreter = none)
    (missing : interpreterFound host context world = none) :
    (survey host context).Quiet world [] (.error .interpreterMissing)
      (withStorage context world) := by
  have storage := makeStorage_quiet context world
  rw [made] at storage
  have python := Probe.python_quiet host (withStorage context world)
    context.settings.python.configuredInterpreter
  rw [interpreterFound] at missing
  rw [missing] at python
  refine storage.andThen (python.andThen ?_)
  simp only [unconfigured, Option.isNone_none, Bool.and_self, if_true]
  exact (Act.quiet_throw _).fails

theorem survey_done (made : storageMade context world = .ok ())
    (known : context.settings.python.configuredInterpreter.isSome ∨
      (interpreterFound host context world).isSome) :
    (survey host context).Quiet world (Probe.systemLines context.settings)
      (.ok (interpreterFound host context world, systemSurveyed host context world))
      (surveyed host context world) := by
  have storage := makeStorage_quiet context world
  rw [made] at storage
  have python := Probe.python_quiet host (withStorage context world)
    context.settings.python.configuredInterpreter
  have system := Probe.systemTools_quiet host (withStorage context world) context.settings
  refine storage.andThen (python.andThen ?_)
  -- It only stops for want of an interpreter that was neither configured nor found.
  have goesOn : ((interpreterFound host context world).isNone &&
      context.settings.python.configuredInterpreter.isNone) = false := by
    rcases known with known | known <;> obtain ⟨_, known⟩ := Option.isSome_iff_exists.mp known <;>
      simp [known]
  rw [interpreterFound] at goesOn
  simp only [goesOn, Bool.false_eq_true, if_false]
  exact system.thenSilent (Act.quiet_log.andThen (Act.quiet_pure _))

def reprobe : Act S Resolution := do
  let system <- Probe.systemTools host context.settings
  let builtin <- managedTools context
  if !system.ansible.isAvailable && !builtin.isUsable then throw .toolMissing
  return { system, builtin }

def resolutionFound (world : World S) : Resolution :=
  { system := Probe.systemFound host world context.settings
    builtin := Probe.builtinTools (Probe.afterSystem host world context.settings) context.storage
      context.platform }

theorem reprobe_quiet (world : World S) :
    (reprobe host context).Quiet world (Probe.systemLines context.settings)
      (if serves host context world then .ok (resolutionFound host context world)
      else .error .toolMissing)
      (Probe.afterSystem host world context.settings) := by
  refine (Probe.systemTools_quiet host world context.settings).thenSilent ?_
  refine (managedTools_quiet context _).andThen ?_
  have missing : (!(Probe.systemFound host world context.settings).ansible.isAvailable &&
      !(Probe.builtinTools (Probe.afterSystem host world context.settings) context.storage
        context.platform).isUsable) = !serves host context world := by
    simp [serves, Probe.systemFound]
  rw [missing]
  cases serves host context world with
  | true => exact Act.quiet_pure _
  | false => exact (Act.quiet_throw _).fails

def provision (python : Option PythonPaths) : Act S Resolution :=
  match python with
  | none => throw .interpreterMissing
  | some python => do
    Installation.install host context python
    reprobe host context

theorem resolveTools_eq (python : Option PythonPaths) (system : SystemTools) :
    resolveTools host context python system =
      (do
        let builtin <- consult context system
        if system.ansible.isAvailable || builtin.isUsable then pure { system, builtin }
        else provision host context python) := by
  unfold resolveTools consult
  by_cases needed : (system.needsBuiltin || context.settings.builtin.force) = true <;>
    simp only [needed, if_true] <;> cases python <;> rfl

theorem resolveTools_served (python : Option PythonPaths) (world : World S)
    (served : serves host context world = true) :
    (resolveTools host context python (Probe.systemFound host world context.settings)).Quiet
      (Probe.afterSystem host world context.settings) []
      (.ok {
        system := Probe.systemFound host world context.settings
        builtin := consulted context (Probe.afterSystem host world context.settings)
          (Probe.systemFound host world context.settings) })
      (Probe.afterSystem host world context.settings) := by
  rw [resolveTools_eq]
  refine (consult_quiet context _ _).andThen ?_
  rw [serves_consulted, served]
  exact Act.quiet_pure _

theorem resolveTools_unserved (python : Option PythonPaths) (world : World S)
    (unserved : serves host context world = false) (stage : Stage S)
    (here : stage.world = Probe.afterSystem host world context.settings) :
    ∃ asked, stage.RunsTo [] asked ∧ asked.world = stage.world ∧
      (resolveTools host context python
          (Probe.systemFound host world context.settings)).perform stage =
        (provision host context python).perform asked := by
  have consults := consult_quiet context stage.world
    (Probe.systemFound host world context.settings)
  obtain ⟨asked, ran, same, done⟩ := consults.reaches
  refine ⟨asked, ran, same, ?_⟩
  rw [resolveTools_eq, Act.perform_bind, done, here]
  simp only [serves_consulted, unserved, Bool.false_eq_true, if_false]

theorem activate_disabled (world : World S) (disabled : context.settings.enable = false) :
    (activate host context).Quiet world [] (.ok .disabled) world := by
  unfold activate
  simp only [disabled, Bool.not_false, if_true]
  exact Act.quiet_log.andThen (Act.quiet_pure _)

variable (enabled : context.settings.enable = true)
include enabled

theorem activate_refused (world : World S) (failure : Io.Failure)
    (refused : storageMade context world = .error failure) :
    (activate host context).Quiet world [] (.error (.io failure)) (withStorage context world) := by
  rw [activate_eq host context enabled]
  exact (survey_refused host context world failure refused).fails

theorem activate_lost (made : storageMade context world = .ok ())
    (unconfigured : context.settings.python.configuredInterpreter = none)
    (missing : interpreterFound host context world = none) :
    (activate host context).Quiet world [] (.error .interpreterMissing)
      (withStorage context world) := by
  rw [activate_eq host context enabled]
  exact (survey_lost host context made unconfigured missing).fails

def configuredReport (interpreter : Path) (world : World S) : Report :=
  reportOf context (interpreterFound host context world) {
    system := systemSurveyed host context world
    modules := some (modulesFound host (surveyed host context world) interpreter) }

theorem activate_configured (made : storageMade context world = .ok ()) (interpreter : Path)
    (configured : context.settings.python.configuredInterpreter = some interpreter) :
    (activate host context).Quiet world
      (Probe.systemLines context.settings ++ moduleLines interpreter)
      (if Probe.imports host (surveyed host context world) interpreter "ansible" then
        .ok (.ready (configuredReport host context interpreter world))
      else .error (.ansibleModuleMissing interpreter.display))
      (afterModules host (surveyed host context world) interpreter) := by
  rw [activate_eq host context enabled]
  refine (survey_done host context made (.inl (by simp [configured]))).bind ?_
  -- The managed environment is not consulted on this way, and the interpreter found plays no part.
  have resolved := resolveInterpreter_quiet host (surveyed host context world) interpreter
    (systemSurveyed host context world)
  simp only [resolve, configured]
  split at resolved
  next imported =>
    simp only [imported, if_true]
    exact resolved.thenSilent (Act.quiet_pure _)
  next missing =>
    simp only [missing, Bool.false_eq_true, if_false]
    exact resolved.fails

def servedReport (world : World S) : Report :=
  reportOf context (interpreterFound host context world) {
    system := systemSurveyed host context world
    builtin := consulted context (surveyed host context world)
      (systemSurveyed host context world) }

theorem activate_served (made : storageMade context world = .ok ())
    (unconfigured : context.settings.python.configuredInterpreter = none)
    (found : (interpreterFound host context world).isSome)
    (served : serves host context (withStorage context world) = true) :
    (activate host context).Quiet world (Probe.systemLines context.settings)
      (.ok (.ready (servedReport host context world))) (surveyed host context world) := by
  rw [activate_eq host context enabled]
  refine (survey_done host context made (.inr found)).thenSilent ?_
  simp only [resolve, unconfigured]
  exact (resolveTools_served host context _ _ served).andThen (Act.quiet_pure _)

def provisionedReport (python : PythonPaths) (installed : World S) : Report :=
  reportOf context (some python) (resolutionFound host context installed)

/-- Where nothing serves there is one installation. Its error ends the activation; after its success
the system is probed anew. -/
theorem activate_provisions {stage : Stage S} (made : storageMade context stage.world = .ok ())
    (unconfigured : context.settings.python.configuredInterpreter = none) (python : PythonPaths)
    (found : interpreterFound host context stage.world = some python)
    (unserved : serves host context (withStorage context stage.world) = false) :
    ∃ asked, stage.RunsTo (Probe.systemLines context.settings) asked ∧
      asked.world = surveyed host context stage.world ∧
      match (Installation.install host context python).perform asked with
      | (.error error, refused) => (activate host context).perform stage = (.error error, refused)
      | (.ok _, installed) =>
        ∃ after, installed.RunsTo (Probe.systemLines context.settings) after ∧
          after.world = Probe.afterSystem host installed.world context.settings ∧
          (activate host context).perform stage =
            (if serves host context installed.world then
              .ok (.ready (provisionedReport host context python installed.world))
            else .error .toolMissing, after) := by
  -- Up to the prompt all is quiet, so that the installation starts in a known world.
  have surveys := survey_done host context made (.inr (by simp [found]))
  obtain ⟨probed, ran, here, done⟩ := surveys.reaches
  obtain ⟨asked, quiet, same, resolved⟩ := resolveTools_unserved host context (some python) _
    unserved probed here
  have activated : (activate host context).perform stage =
      (do
        let resolution <- provision host context (some python)
        return .ready (reportOf context (some python) resolution) :
        Act S Activation).perform asked := by
    rw [activate_eq host context enabled, Act.perform_bind, done]
    simp only [resolve, unconfigured, found]
    rw [Act.perform_bind, systemSurveyed, resolved, Act.perform_bind]
  refine ⟨asked, by simpa using ran.trans quiet, same.trans here, ?_⟩
  rw [activated]
  simp only [provision, Act.perform_bind]
  split
  next error refused performed => simp only [performed]
  next installed performed =>
    obtain ⟨after, reran, later, reprobed⟩ := (reprobe_quiet host context installed.world).reaches
    refine ⟨after, reran, later, ?_⟩
    simp only [performed, reprobed]
    cases serves host context installed.world <;> rfl

omit enabled in
structure Wants (world : World S) (python : PythonPaths) : Prop where
  enabled : context.settings.enable = true
  made : storageMade context world = .ok ()
  unconfigured : context.settings.python.configuredInterpreter = none
  found : interpreterFound host context world = some python
  unserved : serves host context (withStorage context world) = false

omit enabled in
theorem activate_either (stage : Stage S) :
    (∃ lines, stage.RunsTo lines ((activate host context).perform stage).2) ∧
        (∀ python, ¬ Wants host context stage.world python) ∨
      ∃ python, Wants host context stage.world python ∧ ∃ asked lines more,
        stage.RunsTo lines asked ∧
          ((Installation.install host context python).perform asked).2.RunsTo more
            ((activate host context).perform stage).2 := by
  have quiet {lines : List String} {result : Except Error Activation} {later : World S}
      (quiet : (activate host context).Quiet stage.world lines result later) :
      ∃ lines, stage.RunsTo lines ((activate host context).perform stage).2 := by
    obtain ⟨after, ran, _, done⟩ := quiet.reaches
    rw [done]
    exact ⟨lines, ran⟩
  -- The decisions are gone through in their order; all but the last one are quiet.
  cases enabled : context.settings.enable with
  | false =>
    refine .inl ⟨quiet (activate_disabled host context stage.world enabled), fun _ wants => ?_⟩
    simp [wants.enabled] at enabled
  | true =>
    cases made : storageMade context stage.world with
    | error failure =>
      refine .inl ⟨quiet (activate_refused host context enabled stage.world failure made),
        fun _ wants => ?_⟩
      simp [wants.made] at made
    | ok _ =>
      cases configured : context.settings.python.configuredInterpreter with
      | some interpreter =>
        refine .inl ⟨quiet (activate_configured host context enabled made interpreter configured),
          fun _ wants => ?_⟩
        simp [wants.unconfigured] at configured
      | none =>
        cases found : interpreterFound host context stage.world with
        | none =>
          refine .inl ⟨quiet (activate_lost host context enabled made configured found),
            fun _ wants => ?_⟩
          simp [wants.found] at found
        | some python =>
          cases serves : serves host context (withStorage context stage.world) with
          | true =>
            refine .inl ⟨quiet
              (activate_served host context enabled made configured (by simp [found]) serves),
              fun _ wants => ?_⟩
            simp [wants.unserved] at serves
          | false =>
            obtain ⟨asked, asks, _, done⟩ :=
              activate_provisions host context enabled made configured python found serves
            refine .inr ⟨python, ⟨enabled, made, configured, found, serves⟩, asked,
              Probe.systemLines context.settings, ?_⟩
            split at done
            next error refused installs =>
              rw [installs, done]
              exact ⟨[], asks, .refl _⟩
            next installed installs =>
              obtain ⟨after, ran, _, done⟩ := done
              rw [installs, done]
              exact ⟨_, asks, ran⟩

end AnsibleTooling.Activation
