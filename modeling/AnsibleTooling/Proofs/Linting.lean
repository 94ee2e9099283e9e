import AnsibleTooling.Proofs.Consultation

set_option autoImplicit false

namespace AnsibleTooling

def SystemTools.get (system : SystemTools) : Tool -> Availability
  | .ansible => system.ansible
  | .ansibleLint => system.ansibleLint
  | .ansibleDoc => system.ansibleDoc

def Report.Shows (report : Report) (tool : Tool) : Prop :=
  report.resolution.system.get tool = .available ∨
    ∃ path, report.resolution.builtin.get tool = some path

namespace Activation

variable {S T : Type} {host : Host S} {context : Context}

inductive TakesStock (context : Context) (left : World S) : Report -> Prop
  | looked (python : Option PythonPaths) (system : SystemTools)
    (serves : (system.ansible.isAvailable || Probe.isManaged left context .ansible) = true) :
    TakesStock context left (reportOf context python {
      system, builtin := Probe.builtinTools left context.storage context.platform })
  | content (python : Option PythonPaths) (system : SystemTools)
    (complete : system.needsBuiltin = false) :
    TakesStock context left (reportOf context python { system })

theorem takesStock_consulted (python : Option PythonPaths) (system : SystemTools) (left : World S)
    (serves : (system.ansible.isAvailable || (consulted context left system).isUsable) = true) :
    TakesStock context left
      (reportOf context python { system, builtin := consulted context left system }) := by
  unfold consulted at serves ⊢
  split at serves
  next sought => simpa only [if_pos sought] using .looked python system (by simpa using serves)
  next unsought =>
    rw [if_neg unsought]
    rw [Bool.or_eq_true, not_or, Bool.not_eq_true] at unsought
    exact .content python system unsought.1

theorem takesStock_of_ready {before after : Stage S} {report : Report}
    (unconfigured : ∀ interpreter, ¬ Insists context.settings interpreter)
    (performed : (activate host context).perform before = (.ok (.ready report), after)) :
    TakesStock context after.world report := by
  obtain ⟨probed, reports⟩ := reports_of_ready host context performed
  cases reports with
  | configured interpreter insists => exact absurd insists (unconfigured interpreter)
  | served _ serves _ left =>
    rw [← serves_consulted] at serves
    rw [left]
    exact takesStock_consulted _ _ _ serves
  | provisioned _ _ _ _ _ _ serves _ left =>
    rw [left]
    exact .looked _ _ (by simpa [Activation.serves, Probe.systemFound] using serves)

section

variable {left : World S} {report : Report}

theorem exists_managed (left : World S) (context : Context) (tool : Tool) :
    (∃ path, (Probe.builtinTools left context.storage context.platform).get tool = some path) ↔
      Probe.isManaged left context tool = true := by
  rw [Probe.builtinTools_get]
  split <;> simp_all

theorem TakesStock.shows_iff (stock : TakesStock context left report) :
    report.Shows .ansibleLint ↔ report.resolution.system.ansibleLint = .available ∨
      Probe.isManaged left context .ansibleLint = true := by
  cases stock with
  | looked python system serves => exact or_congr Iff.rfl (exists_managed left context .ansibleLint)
  | content python system complete =>
    have found : system.ansibleLint = .available := by
      simpa [SystemTools.needsBuiltin, isAvailable_eq_true] using (Bool.or_eq_false_iff.mp complete).2
    exact iff_of_true (.inl found) (.inl found)

theorem TakesStock.lintEnabled_iff (stock : TakesStock context left report) :
    report.configuration.lintEnabled = true ↔ context.settings.ansibleLint.enabled = true ∧
      (report.resolution.system.ansibleLint = .available ∨
        report.resolution.system.ansible = .unavailable ∧
          Probe.isManaged left context .ansibleLint = true) := by
  have linter := exists_managed left context .ansibleLint
  cases stock with
  | looked python system serves =>
    -- Without `ansible` in the system the managed one is there, so that the server runs beside it.
    cases served : system.ansible <;>
      simp_all [reportOf, Configuration.derive, Configuration.lintFound, Resolution.usesBuiltin,
        BuiltinTools.get, isAvailable_eq_true, isAvailable_eq_false, Option.isSome_iff_exists]
  | content python system complete =>
    have found : system.ansibleLint = .available := by
      simpa [SystemTools.needsBuiltin, isAvailable_eq_true] using (Bool.or_eq_false_iff.mp complete).2
    simp [reportOf, Configuration.derive, Configuration.lintFound, found, Availability.isAvailable]

end

structure Lints (context : Context) (left : World S) (report : Report) : Prop where
  -- The report shows a linter if there is one.
  shown : report.Shows .ansibleLint ↔ report.resolution.system.ansibleLint = .available ∨
    Files.isFile left.tree left.workDir
      (Environment.tool context.storage context.platform .ansibleLint) = true
  enabled : report.configuration.lintEnabled = true ↔
    context.settings.ansibleLint.enabled = true ∧ report.Shows .ansibleLint ∧
      (report.resolution.system.ansible = .available ->
        report.resolution.system.ansibleLint = .available)

theorem TakesStock.lints {left : World S} {report : Report}
    (stock : TakesStock context left report) : Lints context left report := by
  refine ⟨stock.shows_iff, ?_⟩
  rw [stock.lintEnabled_iff, stock.shows_iff]
  refine and_congr_right' ?_
  cases report.resolution.system.ansible with
  | available => simpa using Or.inl
  | unavailable => simp

structure HasAll (context other : Context) (left : World S) (beyond : World T)
    (report more : Report) : Prop where
  system (tool : Tool) : report.resolution.system.get tool = .available ->
    more.resolution.system.get tool = .available
  managed (tool : Tool) : Probe.isManaged left context tool = true ->
    Probe.isManaged beyond other tool = true

/-- What comes of linting that is on, where there are more tools and the user is of the same mind. -/
structure Keeps (report more : Report) : Prop where
  kept : more.resolution.system.ansible = report.resolution.system.ansible ->
    more.configuration.lintEnabled = true
  lost : more.configuration.lintEnabled = false ↔
    more.resolution.system.ansible = .available ∧ more.resolution.system.ansibleLint = .unavailable

theorem TakesStock.keeps {other : Context} {left : World S} {beyond : World T}
    {report more : Report} (stock : TakesStock context left report)
    (others : TakesStock other beyond more)
    (agreed : other.settings.ansibleLint.enabled = context.settings.ansibleLint.enabled)
    (hasAll : HasAll context other left beyond report more)
    (linting : report.configuration.lintEnabled = true) : Keeps report more := by
  rw [stock.lintEnabled_iff] at linting
  obtain ⟨wanted, found⟩ := linting
  have system := hasAll.system .ansibleLint
  have managed := hasAll.managed .ansibleLint
  constructor
  case kept =>
    intro same
    rw [others.lintEnabled_iff, agreed, same]
    exact ⟨wanted, found.imp system (And.imp_right managed)⟩
  case lost =>
    rw [← Bool.not_eq_true, others.lintEnabled_iff, agreed]
    cases served : more.resolution.system.ansible with
    | available =>
      cases more.resolution.system.ansibleLint <;> simp [wanted]
    | unavailable =>
      -- The system had no `ansible` before either, so that its linter or the managed one still is.
      have still : more.resolution.system.ansibleLint = .available ∨
          Probe.isManaged beyond other .ansibleLint = true :=
        found.imp system fun beside => managed beside.2
      simpa [wanted] using still.resolve_left

theorem activate_lints {before after : Stage S} {report : Report}
    (unconfigured : ∀ interpreter, ¬ Insists context.settings interpreter)
    (performed : (activate host context).perform before = (.ok (.ready report), after)) :
    Lints context after.world report ∧
      ∀ (other : Host T) (further : Context) (start finish : Stage T) (more : Report),
        (∀ interpreter, ¬ Insists further.settings interpreter) ->
        (activate other further).perform start = (.ok (.ready more), finish) ->
        further.settings.ansibleLint.enabled = context.settings.ansibleLint.enabled ->
        HasAll context further after.world finish.world report more ->
        report.configuration.lintEnabled = true -> Keeps report more := by
  have stock := takesStock_of_ready unconfigured performed
  refine ⟨stock.lints, ?_⟩
  intro other further start finish more unconfigured performed agreed hasAll linting
  exact stock.keeps (takesStock_of_ready unconfigured performed) agreed hasAll linting

def linting (commands tools : List String) : Except Error Activation × Stage Rehearsal.Props :=
  (activate (equippedMachine commands) bareContext).perform (leftStage tools)

theorem activate_lints_managed :
    (∀ interpreter, ¬ Insists bareContext.settings interpreter) ∧
      ∃ report more,
        (linting [] ["ansible", "ansible-lint"]).1 = .ok (.ready report) ∧
        (linting ["ansible-lint -h"] ["ansible", "ansible-lint"]).1 = .ok (.ready more) ∧
        HasAll bareContext bareContext (linting [] ["ansible", "ansible-lint"]).2.world
          (linting ["ansible-lint -h"] ["ansible", "ansible-lint"]).2.world report more ∧
        report.configuration.lintEnabled = true ∧ more.configuration.lintEnabled = true := by
  have unconfigured := (configuredInterpreter_eq_none bareContext.settings).mp rfl
  have performed : linting [] ["ansible", "ansible-lint"] = (.ok (.ready _), _) := rfl
  have keeps := (activate_lints unconfigured performed).2 (equippedMachine ["ansible-lint -h"])
    bareContext (leftStage ["ansible", "ansible-lint"]) _ _ unconfigured rfl rfl
  refine ⟨unconfigured, _, _, rfl, rfl, ?hasAll, rfl, (keeps ?hasAll rfl).kept rfl⟩
  constructor <;> intro tool <;> cases tool <;> decide +kernel

/-- Linting is on by a managed linter. When the system gets an `ansible`, linting is off, though the
report shows that linter as before. -/
theorem activate_unlints :
    (∀ interpreter, ¬ Insists bareContext.settings interpreter) ∧
      ∃ report more,
        (linting [] ["ansible", "ansible-lint"]).1 = .ok (.ready report) ∧
        (linting ["ansible -h"] ["ansible", "ansible-lint"]).1 = .ok (.ready more) ∧
        HasAll bareContext bareContext (linting [] ["ansible", "ansible-lint"]).2.world
          (linting ["ansible -h"] ["ansible", "ansible-lint"]).2.world report more ∧
        report.configuration.lintEnabled = true ∧
        bareContext.settings.ansibleLint.enabled = true ∧ more.Shows .ansibleLint ∧
        more.configuration.lintEnabled = false := by
  refine ⟨(configuredInterpreter_eq_none bareContext.settings).mp rfl, _, _, rfl, rfl, ?hasAll, rfl,
    rfl, .inr ⟨_, rfl⟩, rfl⟩
  constructor <;> intro tool <;> cases tool <;> decide +kernel

end Activation

end AnsibleTooling
