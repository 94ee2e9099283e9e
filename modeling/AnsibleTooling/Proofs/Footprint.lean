import AnsibleTooling.Proofs.EnvironmentMaking
import AnsibleTooling.Proofs.FirstInstallation
import AnsibleTooling.Proofs.Furnishing

set_option autoImplicit false

namespace AnsibleTooling

variable {S : Type}

def Event.line? : Event -> Option String
  | .ran line => some line
  | _ => none

def linesIn (events : List Event) : List String :=
  events.filterMap Event.line?

@[simp] theorem linesIn_nil : linesIn [] = [] := rfl

@[simp] theorem linesIn_cons (event : Event) (events : List Event) :
    linesIn (event :: events) = event.line?.toList ++ linesIn events := by
  rw [linesIn, List.filterMap_cons]
  cases event.line? <;> rfl

@[simp] theorem linesIn_append (first second : List Event) :
    linesIn (first ++ second) = linesIn first ++ linesIn second :=
  List.filterMap_append

theorem Ran.linesIn {lines : List String} {events : List Event} (ran : Ran lines events) :
    linesIn events = lines := by
  induction ran with
  | nil => rfl
  | ran line _ ih => exact congrArg (line :: ·) ih
  | logged record _ ih => exact ih

namespace Installation

variable (host : Host S) (context : Context) (python : PythonPaths)

@[simp] theorem linesIn_inquiry (world : World S) : linesIn (inquiry host world) = [] :=
  (Ran.records _).linesIn

@[simp] theorem linesIn_closing (elapsed : Nat) (result : Except Error Unit) :
    linesIn (closing elapsed result) = [] := by
  unfold closing
  split <;> rfl

@[simp] theorem linesIn_reportsDue (interval elapsed passed : Nat) :
    linesIn (reportsDue interval elapsed passed) = [] := by
  unfold reportsDue
  split
  · split <;> rfl
  · simp [linesIn, Event.line?]

@[simp] theorem linesIn_eventsOf (interval elapsed : Nat) (deeds : List Deed) :
    linesIn (eventsOf interval elapsed deeds) = Managed.linesOf deeds := by
  induction deeds generalizing elapsed with
  | nil => rfl
  | cons deed rest ih =>
    cases deed with
    | ran line => exact congrArg (line :: ·) (ih elapsed)
    | logged record => exact ih elapsed
    | passed milliseconds =>
      rw [eventsOf, linesIn_append, linesIn_reportsDue]
      exact ih (elapsed + milliseconds)

/-- How an installation goes from a world: nothing is run unless the gate is free and somebody has
agreed, and then whatever the installer runs. -/
inductive Conducted (busy : Bool) (world : World S) :
    List String -> Except Error Unit -> World S -> Prop
  | refused (taken : busy = true) : Conducted busy world [] (.error .installInProgress) world
  | unanswered (free : busy = false) (error : Error)
    (asked : (host.confirm question world).1 = .error error) :
    Conducted busy world [] (.error error) (host.confirm question world).2.settled
  | declined (free : busy = false) (asked : (host.confirm question world).1 = .ok false) :
    Conducted busy world [] (.error .installDeclined) (host.confirm question world).2.settled
  | attempted (free : busy = false) (asked : (host.confirm question world).1 = .ok true)
    (attempt : Attempt S)
    (called : attempt = host.install (planOf context python)
      (host.confirm question world).2.settled) :
    Conducted busy world (Managed.linesOf attempt.deeds) (verdict attempt.result) attempt.world

theorem install_conducted (stage : Stage S) :
    ∃ world events,
      ((install host context python).perform stage).2 = stage.extend world events ∧
      Conducted host context python stage.gate.busy stage.world (linesIn events)
        ((install host context python).perform stage).1 world := by
  cases taken : stage.gate.busy with
  | true =>
    rw [install_busy host context python stage taken]
    exact ⟨stage.world, [], by simp, .refused rfl⟩
  | false =>
    obtain ⟨world, events, episode, done⟩ := install_free host context python stage taken
    refine ⟨world, events, done, ?_⟩
    generalize ((install host context python).perform stage).1 = result at episode
    cases episode with
    | unanswered error asked =>
      rw [linesIn_inquiry]
      exact .unanswered rfl error asked
    | declined asked =>
      rw [linesIn_append, linesIn_inquiry]
      exact .declined rfl asked
    | attempted asked attempt called =>
      have lines : linesIn (inquiry host stage.world ++ .answered true ::
          announcement (planOf context python) ++ .planned (planOf context python) ::
            eventsOf context.progressInterval 0 attempt.deeds ++
          closing (duration attempt.deeds) attempt.result) = Managed.linesOf attempt.deeds := by
        simp [announcement, Event.line?]
      rw [lines]
      exact .attempted rfl asked attempt called

end Installation

namespace Activation

variable (host : Host S) (context : Context)

/-- The ways in which an activation goes: the command lines it runs, its result, and the world it
leaves, which is changed by the storage directory and by what has been run. -/
inductive Footprint (stage : Stage S) :
    List String -> Except Error Activation -> World S -> Prop
  | disabled (disabled : context.settings.enable = false) :
    Footprint stage [] (.ok .disabled) stage.world
  | refused (enabled : context.settings.enable = true) (failure : Io.Failure)
    (fails : storageMade context stage.world = .error failure) :
    Footprint stage [] (.error (.io failure)) (withStorage context stage.world)
  | lost (enabled : context.settings.enable = true) (made : storageMade context stage.world = .ok ())
    (unconfigured : ∀ interpreter, ¬ Insists context.settings interpreter)
    (missing : interpreterFound host context stage.world = none) :
    Footprint stage [] (.error .interpreterMissing) (withStorage context stage.world)
  | configured (enabled : context.settings.enable = true)
    (made : storageMade context stage.world = .ok ()) (interpreter : Path)
    (insists : Insists context.settings interpreter) :
    Footprint stage (Probe.systemLines context.settings ++ moduleLines interpreter)
      (if Probe.imports host (surveyed host context stage.world) interpreter "ansible" then
        .ok (.ready (configuredReport host context interpreter stage.world))
      else .error (.ansibleModuleMissing interpreter.display))
      (afterModules host (surveyed host context stage.world) interpreter)
  | served (enabled : context.settings.enable = true)
    (made : storageMade context stage.world = .ok ())
    (unconfigured : ∀ interpreter, ¬ Insists context.settings interpreter)
    (found : (interpreterFound host context stage.world).isSome = true)
    (served : serves host context (withStorage context stage.world) = true) :
    Footprint stage (Probe.systemLines context.settings)
      (.ok (.ready (servedReport host context stage.world))) (surveyed host context stage.world)
  | failed (python : PythonPaths) (wants : Wants host context stage.world python)
    (lines : List String) (error : Error) (left : World S)
    (conducted : Installation.Conducted host context python stage.gate.busy
      (surveyed host context stage.world) lines (.error error) left) :
    Footprint stage (Probe.systemLines context.settings ++ lines) (.error error) left
  | installed (python : PythonPaths) (wants : Wants host context stage.world python)
    (lines : List String) (left : World S)
    (conducted : Installation.Conducted host context python stage.gate.busy
      (surveyed host context stage.world) lines (.ok ()) left) :
    Footprint stage
      (Probe.systemLines context.settings ++ lines ++ Probe.systemLines context.settings)
      (if serves host context left then
        .ok (.ready (provisionedReport host context python left))
      else .error .toolMissing)
      (Probe.afterSystem host left context.settings)

variable {host context}

theorem footprint_of_quiet {before : Stage S} {lines : List String}
    {result : Except Error Activation} {left : World S}
    (quiet : (activate host context).Quiet before.world lines result left)
    (footprint : Footprint host context before lines result left) :
    ∃ world events, ((activate host context).perform before).2 = before.extend world events ∧
      Footprint host context before (linesIn events) ((activate host context).perform before).1
        world := by
  obtain ⟨events, ran, done⟩ := quiet before rfl
  rw [done]
  exact ⟨left, events, rfl, by rwa [ran.linesIn]⟩

theorem footprint_of_wants {before : Stage S} {python : PythonPaths}
    (wants : Wants host context before.world python) :
    ∃ world events, ((activate host context).perform before).2 = before.extend world events ∧
      Footprint host context before (linesIn events) ((activate host context).perform before).1
        world := by
  obtain ⟨asked, ⟨early, probed, begun⟩, here, done⟩ := activate_provisions host context
    wants.enabled wants.made wants.unconfigured python wants.found wants.unserved
  obtain ⟨left, events, installed, conducted⟩ :=
    Installation.install_conducted host context python asked
  rw [here] at begun conducted
  have free : asked.gate = before.gate := by rw [begun]; rfl
  rw [free] at conducted
  split at done
  next error refused performed =>
    rw [performed] at installed conducted
    have journal : refused = before.extend left (early ++ events) := by
      rw [← Stage.extend_extend, ← begun]
      exact installed
    rw [done]
    refine ⟨left, early ++ events, journal, ?_⟩
    rw [linesIn_append, probed.linesIn]
    exact .failed python wants (linesIn events) error left conducted
  next finished performed =>
    rw [performed] at installed conducted
    obtain ⟨after, ⟨late, reprobed, ended⟩, last, activated⟩ := done
    obtain rfl : finished = asked.extend left events := installed
    rw [Stage.extend_world] at last activated
    have journal : after = before.extend (Probe.afterSystem host left context.settings)
        (early ++ events ++ late) := by
      rw [ended, last, begun, Stage.extend_extend, Stage.extend_extend, List.append_assoc]
    rw [activated]
    refine ⟨_, early ++ events ++ late, journal, ?_⟩
    rw [linesIn_append, linesIn_append, probed.linesIn, reprobed.linesIn]
    exact .installed python wants (linesIn events) left conducted

theorem activate_leaves (before : Stage S) :
    ∃ world events, ((activate host context).perform before).2 = before.extend world events ∧
      Footprint host context before (linesIn events) ((activate host context).perform before).1
        world := by
  cases enabled : context.settings.enable with
  | false =>
    exact footprint_of_quiet (activate_disabled host context before.world enabled)
      (.disabled enabled)
  | true =>
    cases made : storageMade context before.world with
    | error failure =>
      exact footprint_of_quiet (activate_refused host context enabled before.world failure made)
        (.refused enabled failure made)
    | ok _ =>
      cases configured : context.settings.python.configuredInterpreter with
      | some interpreter =>
        exact footprint_of_quiet
          (activate_configured host context enabled made interpreter configured)
          (.configured enabled made interpreter
            ((configuredInterpreter_eq_some _ _).mp configured))
      | none =>
        have unconfigured := (configuredInterpreter_eq_none _).mp configured
        cases found : interpreterFound host context before.world with
        | none =>
          exact footprint_of_quiet (activate_lost host context enabled made configured found)
            (.lost enabled made unconfigured found)
        | some python =>
          cases served : serves host context (withStorage context before.world) with
          | true =>
            have found : (interpreterFound host context before.world).isSome = true := by
              rw [found]
              rfl
            exact footprint_of_quiet
              (activate_served host context enabled made configured found served)
              (.served enabled made unconfigured found served)
          | false => exact footprint_of_wants ⟨enabled, made, configured, found, served⟩

theorem helpLine_eq (name : String) : Probe.helpLine name = name ++ " -h" := by
  have line := Managed.commandLine_texts (Path.ofText name) ["-h"]
  rwa [Path.display, Path.ofText, Text.decode_encode] at line

theorem importLine_eq (interpreter : Path) (name : String) :
    Probe.importLine interpreter name = interpreter.display ++ (" -c import " ++ name) := by
  have line := Managed.commandLine_texts interpreter ["-c", "import " ++ name]
  have texts : String.join (["-c", "import " ++ name].map (" " ++ ·)) = " -c import " ++ name := by
    have words : " " ++ "-c" ++ " " ++ "import " = " -c import " := rfl
    simp only [List.map_cons, List.map_nil, String.join_cons, String.join_nil, String.append_empty,
      ← String.append_assoc, words]
  rwa [texts] at line

structure Accounted (host : Host S) (context : Context) (before : Stage S)
    (result : Except Error Activation) (after : Stage S) : Prop where
  leaves : ∃ world events, after = before.extend world events ∧
    Footprint host context before (linesIn events) result world
  probes : Probe.systemLines context.settings =
    (if context.settings.builtin.probeAnsibleDoc then [context.settings.ansibleDoc.path ++ " -h"]
      else []) ++
    [context.settings.ansible.path ++ " -h", context.settings.ansibleLint.path ++ " -h"]
  modules (interpreter : Path) : moduleLines interpreter =
    [interpreter.display ++ " -c import ansible", interpreter.display ++ " -c import ansiblelint"]
  storage : before.world.tree.IsSound -> Files.Furnished before.world.tree
    (withStorage context before.world).tree before.world.workDir (Files.ancestors context.storage)
  complete : before.world.tree.IsSound -> storageMade context before.world = .ok () ->
    ∀ ancestor ∈ Files.ancestors context.storage,
      Files.isDirectory (withStorage context before.world).tree before.world.workDir ancestor = true

theorem activate_accounted (host : Host S) (context : Context) (before : Stage S) :
    Accounted host context before ((activate host context).perform before).1
      ((activate host context).perform before).2 where
  leaves := activate_leaves before
  probes := by
    simp only [Probe.systemLines, Probe.docLines, helpLine_eq]
    rfl
  modules interpreter := by
    simp only [moduleLines, importLine_eq]
    rfl
  storage := Files.makeDirectories_furnishes
  complete sound := Files.makeDirectories_completes sound.numbered

theorem activate_accounted_windowsHost :
    bareStage.world.tree.IsSound ∧ storageMade windowsContext bareStage.world = .ok () ∧
      (∀ ancestor ∈ Files.ancestors windowsContext.storage,
        Files.isDirectory (withStorage windowsContext bareStage.world).tree [] ancestor = true) ∧
      linesIn ((activate windowsHost windowsContext).perform bareStage).2.journal = [
        "ansible-doc -h", "ansible -h", "ansible-lint -h",
        "/bin/python3 -m venv /srv/ansible/venv",
        "/srv/ansible/venv/Scripts/python.exe -m pip install -U pip ansible ansible-lint",
        "ansible-doc -h", "ansible -h", "ansible-lint -h"] := by
  have sound : bareStage.world.tree.IsSound := by decide +kernel
  have complete := (activate_accounted windowsHost windowsContext bareStage).complete sound rfl
  exact ⟨sound, rfl, complete, by decide +kernel⟩

end Activation

end AnsibleTooling
