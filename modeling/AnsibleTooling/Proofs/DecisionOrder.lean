import AnsibleTooling.Proofs.Course

set_option autoImplicit false

namespace AnsibleTooling.Activation

variable {S : Type} (host : Host S) (context : Context)

def Leads (world : World S) (name : String) : Prop :=
  ∃ found real, host.runner.which name world = some found ∧
    Files.canonicalize world.tree world.workDir found = .ok real

theorem candidate_eq_none (world : World S) (name : String) :
    Probe.candidate host world name = none ↔ ¬ Leads host world name := by
  unfold Probe.candidate Leads
  cases looked : host.runner.which name world with
  | none => simp
  | some found =>
    cases resolved : Files.canonicalize world.tree world.workDir found <;>
      simp [resolved, Except.toOption]

theorem interpreter_eq_none (world : World S) :
    Probe.interpreter host world none = none ↔
      ∀ name ∈ ["python3", "python"], ¬ Leads host world name := by
  simp only [Probe.interpreter, List.findSome?_eq_none_iff, candidate_eq_none, pythonCandidates]

theorem interpreterFound_of_leads {world : World S}
    (unconfigured : context.settings.python.configuredInterpreter = none)
    (leads : ∃ name ∈ ["python3", "python"], Leads host (withStorage context world) name) :
    ∃ python, interpreterFound host context world = some python := by
  rw [← Option.ne_none_iff_exists', interpreterFound, unconfigured, ne_eq, interpreter_eq_none]
  obtain ⟨name, member, led⟩ := leads
  exact fun missing => missing name member led

/-- The decisions of an activation that leads from one stage to another, in their order: each has
the failure of those before it among its conditions. -/
structure DecisionOrder (before : Stage S) (result : Except Error Activation) (after : Stage S) :
    Prop where
  disabled : context.settings.enable = false ->
    result = .ok .disabled ∧ before.RunsTo [] after
  storage (failure : Io.Failure) : context.settings.enable = true ->
    storageMade context before.world = .error failure ->
    result = .error (.io failure) ∧ before.RunsTo [] after
  search : context.settings.enable = true ->
    storageMade context before.world = .ok () ->
    (∀ interpreter, ¬ Insists context.settings interpreter) ->
    (∀ name ∈ ["python3", "python"], ¬ Leads host (withStorage context before.world) name) ->
    result = .error .interpreterMissing ∧ before.RunsTo [] after
  configured (interpreter : Path) : context.settings.enable = true ->
    storageMade context before.world = .ok () ->
    Insists context.settings interpreter ->
    before.RunsTo (Probe.systemLines context.settings ++ moduleLines interpreter) after ∧
      if Probe.imports host (surveyed host context before.world) interpreter "ansible" then
        ∃ report, result = .ok (.ready report)
      else result = .error (.ansibleModuleMissing interpreter.display)
  served : context.settings.enable = true ->
    storageMade context before.world = .ok () ->
    (∀ interpreter, ¬ Insists context.settings interpreter) ->
    (∃ name ∈ ["python3", "python"], Leads host (withStorage context before.world) name) ->
    ((∃ report, result = .ok (.ready report)) ∧ (∃ lines, before.RunsTo lines after) ↔
      serves host context (withStorage context before.world) = true)
  provisioned : context.settings.enable = true ->
    storageMade context before.world = .ok () ->
    (∀ interpreter, ¬ Insists context.settings interpreter) ->
    (∃ name ∈ ["python3", "python"], Leads host (withStorage context before.world) name) ->
    serves host context (withStorage context before.world) = false ->
    ∃ python asked, interpreterFound host context before.world = some python ∧
      before.RunsTo (Probe.systemLines context.settings) asked ∧
      asked.world = surveyed host context before.world ∧
      match (Installation.install host context python).perform asked with
      | (.error error, refused) => result = .error error ∧ after = refused
      | (.ok _, installed) =>
        installed.RunsTo (Probe.systemLines context.settings) after ∧
          if serves host context installed.world then ∃ report, result = .ok (.ready report)
          else result = .error .toolMissing

theorem not_runsTo_of_prompted {before asked installed after : Stage S} {world : World S}
    {events : List Event} {first last : List String} (asks : before.RunsTo first asked)
    (question : String) (prompted : .prompted question ∈ events)
    (installs : installed = asked.extend world events) (ends : installed.RunsTo last after)
    (lines : List String) : ¬ before.RunsTo lines after := by
  rintro ⟨all, ran, reached⟩
  obtain ⟨early, _, askedEq⟩ := asks
  obtain ⟨late, _, afterEq⟩ := ends
  -- The journal has grown by the same events whichever way it is counted.
  have grown : before.journal ++ all = before.journal ++ (early ++ (events ++ late)) := by
    have journal := congrArg Stage.journal reached
    rw [afterEq, installs, askedEq] at journal
    simpa using journal.symm
  have inside : .prompted question ∈ all := by
    rw [List.append_cancel_left grown]
    simp [prompted]
  exact absurd (ran.minor _ inside) (by simp [Event.isMinor])

theorem unserved_prompts {before after : Stage S} {report : Report}
    (enabled : context.settings.enable = true)
    (made : storageMade context before.world = .ok ())
    (unconfigured : context.settings.python.configuredInterpreter = none) (python : PythonPaths)
    (found : interpreterFound host context before.world = some python)
    (unserved : serves host context (withStorage context before.world) = false)
    (performed : (activate host context).perform before = (.ok (.ready report), after))
    (lines : List String) : ¬ before.RunsTo lines after := by
  obtain ⟨asked, asks, _, done⟩ :=
    activate_provisions host context enabled made unconfigured python found unserved
  -- A report means that the installation has succeeded, and that takes a prompt.
  split at done
  next error refused installs =>
    rw [performed] at done
    cases done
  next installed installs =>
    obtain ⟨last, ends, _, done⟩ := done
    obtain ⟨world, events, prompted, extended⟩ :=
      Installation.install_prompts host context python asked (by rw [installs])
    have same : last = after := by
      rw [performed] at done
      exact (congrArg Prod.snd done).symm
    rw [installs] at extended
    exact not_runsTo_of_prompted asks _ prompted extended (same ▸ ends) lines

theorem activate_decides (stage : Stage S) :
    DecisionOrder host context stage ((activate host context).perform stage).1
      ((activate host context).perform stage).2 := by
  constructor
  case disabled =>
    intro disabled
    obtain ⟨after, ran, _, done⟩ := (activate_disabled host context stage.world disabled).reaches
    rw [done]
    exact ⟨rfl, ran⟩
  case storage =>
    intro failure enabled refused
    obtain ⟨after, ran, _, done⟩ :=
      (activate_refused host context enabled stage.world failure refused).reaches
    rw [done]
    exact ⟨rfl, ran⟩
  case search =>
    intro enabled made unconfigured missing
    rw [← configuredInterpreter_eq_none] at unconfigured
    rw [← interpreter_eq_none] at missing
    have lost : interpreterFound host context stage.world = none := by
      rw [interpreterFound, unconfigured, missing]
    obtain ⟨after, ran, _, done⟩ :=
      (activate_lost host context enabled made unconfigured lost).reaches
    rw [done]
    exact ⟨rfl, ran⟩
  case configured =>
    intro interpreter enabled made insists
    rw [← configuredInterpreter_eq_some] at insists
    obtain ⟨after, ran, _, done⟩ :=
      (activate_configured host context enabled made interpreter insists).reaches
    rw [done]
    refine ⟨ran, ?_⟩
    split
    · exact ⟨_, rfl⟩
    · rfl
  case served =>
    intro enabled made unconfigured leads
    rw [← configuredInterpreter_eq_none] at unconfigured
    obtain ⟨python, found⟩ := interpreterFound_of_leads host context unconfigured leads
    constructor
    · -- Without anything that serves there is a prompt, so that the course was not quiet.
      rintro ⟨⟨report, ready⟩, lines, ran⟩
      cases unserved : serves host context (withStorage context stage.world) with
      | true => rfl
      | false =>
        exact absurd ran (unserved_prompts host context enabled made unconfigured python found
          unserved (Prod.ext ready rfl) lines)
    · intro served
      obtain ⟨after, ran, _, done⟩ :=
        (activate_served host context enabled made unconfigured (by simp [found]) served).reaches
      rw [done]
      exact ⟨⟨_, rfl⟩, _, ran⟩
  case provisioned =>
    intro enabled made unconfigured leads unserved
    rw [← configuredInterpreter_eq_none] at unconfigured
    obtain ⟨python, found⟩ := interpreterFound_of_leads host context unconfigured leads
    obtain ⟨asked, asks, here, done⟩ :=
      activate_provisions host context enabled made unconfigured python found unserved
    refine ⟨python, asked, found, asks, here, ?_⟩
    cases installs : (Installation.install host context python).perform asked with
    | mk outcome installed =>
      rw [installs] at done
      cases outcome with
      | error error =>
        rw [show (activate host context).perform stage = (.error error, installed) from done]
        exact ⟨rfl, rfl⟩
      | ok _ =>
        obtain ⟨after, ran, _, done⟩ := done
        rw [done]
        refine ⟨ran, ?_⟩
        dsimp only
        split
        · exact ⟨_, rfl⟩
        · rfl

end AnsibleTooling.Activation
