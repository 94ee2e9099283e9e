import AnsibleTooling.Machine.Host
import AnsibleTooling.Proofs.Display
import AnsibleTooling.Proofs.Provisioning
import AnsibleTooling.Proofs.Removal
import AnsibleTooling.Rehearsal

set_option autoImplicit false

namespace AnsibleTooling

namespace Text

structure Trimmed (text trimmed : String) : Prop where
  parts : ∃ before after, text.toList = before ++ trimmed.toList ++ after ∧
    before.all isBlank = true ∧ after.all isBlank = true
  begins (char : Char) : trimmed.toList.head? = some char -> isBlank char = false
  ends (char : Char) : trimmed.toList.getLast? = some char -> isBlank char = false

theorem trim_trimmed (text : String) : Trimmed text (trim text) := by
  let rest := text.toList.dropWhile isBlank
  let back := rest.reverse.takeWhile isBlank
  have trimmed : (trim text).toList = (rest.reverse.dropWhile isBlank).reverse := by
    rw [trim, trimEnd, String.toList_ofList]
  have whole : rest = (trim text).toList ++ back.reverse := by
    rw [trimmed, ← List.reverse_append, List.takeWhile_append_dropWhile, List.reverse_reverse]
  have leads := List.head?_dropWhile_not isBlank text.toList
  have trails := List.head?_dropWhile_not isBlank rest.reverse
  constructor
  case parts =>
    refine ⟨text.toList.takeWhile isBlank, back.reverse, ?_, List.all_takeWhile, ?_⟩
    · rw [List.append_assoc, ← whole, List.takeWhile_append_dropWhile]
    · rw [List.all_reverse]
      exact List.all_takeWhile
  case begins =>
    intro char first
    have same : (text.toList.dropWhile isBlank).head? = some char := by
      change rest.head? = some char
      rw [whole, List.head?_append, first]
      rfl
    rw [same] at leads
    exact leads
  case ends =>
    intro char last
    rw [trimmed, List.getLast?_reverse] at last
    rw [last] at trails
    exact trails

end Text

namespace Managed

variable {S : Type}

def createLine (plan : InstallPlan) : String :=
  commandLine plan.interpreter plan.createArguments

def pipLine (plan : InstallPlan) : String :=
  commandLine plan.python plan.pipArguments

theorem createLine_eq (plan : InstallPlan) :
    createLine plan = plan.interpreter.display ++ " -m venv " ++ plan.directory.display := by
  have text : " -m venv " = " " ++ "-m" ++ " " ++ "venv" ++ " " := rfl
  simp only [createLine, commandLine, InstallPlan.createArguments, List.foldl_cons, List.foldl_nil,
    Text.decode_encode, text, String.append_assoc]
  rfl

theorem commandLine_texts (program : Path) (texts : List String) :
    commandLine program (texts.map Text.encode) =
      program.display ++ String.join (texts.map (" " ++ ·)) := by
  unfold commandLine
  generalize program.display = line
  induction texts generalizing line with
  | nil => simp
  | cons text rest ih =>
    rw [List.map_cons, List.foldl_cons, ih, Text.decode_encode, List.map_cons, String.join_cons,
      String.append_assoc, String.append_assoc, String.append_assoc]

theorem pipLine_eq (plan : InstallPlan) :
    pipLine plan = plan.python.display ++ " -m pip install -U pip" ++
      String.join (plan.packages.map (" " ++ ·)) := by
  rw [pipLine, InstallPlan.pipArguments, commandLine_texts, List.map_append, String.join_append,
    ← String.append_assoc]
  rfl

def linesOf (deeds : List Deed) : List String :=
  deeds.filterMap fun
    | .ran line => some line
    | _ => none

inductive Cleared (plan : InstallPlan) (world : World S) : Except Io.Failure (World S) -> Prop
  | absent (nothing : Files.exists? world.tree world.workDir plan.directory = false) :
    Cleared plan world (.ok world)
  | removed (there : Files.exists? world.tree world.workDir plan.directory = true)
    (found : Files.Found) (left : Files.Tree)
    (removes : Files.removeDirectory world.tree world.workDir plan.directory = .ok left)
    (finds : Files.find world.tree world.workDir false plan.directory = .ok found)
    (erased : Files.Erased world.tree left found.location)
    (gone : found.location ≠ [] ->
      Files.exists? left world.workDir plan.directory = false) :
    Cleared plan world (.ok { world with tree := left })
  | stuck (there : Files.exists? world.tree world.workDir plan.directory = true)
    (failure : Io.Failure)
    (fails : Files.removeDirectory world.tree world.workDir plan.directory = .error failure) :
    Cleared plan world (.error failure)

inductive Ran (runner : Runner S) (program : Path) (arguments : List Bytes)
    (world after : World S) : Except Error Unit -> Prop
  | unstarted (error : Error) (runs : runner.run program arguments world = (.error error, after)) :
    Ran runner program arguments world after (.error error)
  | failed (output : ProcessOutput)
    (runs : runner.run program arguments world = (.ok output, after))
    (fails : output.success = false) :
    Ran runner program arguments world after
      (.error (.installFailed (commandLine program arguments) (failureDetails output.stderr)))
  | succeeded (output : ProcessOutput)
    (runs : runner.run program arguments world = (.ok output, after))
    (succeeds : output.success = true) : Ran runner program arguments world after (.ok ())

inductive Made (runner : Runner S) (plan : InstallPlan) (world after : World S) :
    Except Error Unit -> List String -> Prop
  | uncreated (error : Error)
    (creates : Ran runner plan.interpreter plan.createArguments world after (.error error)) :
    Made runner plan world after (.error error) [createLine plan]
  | created (middle : World S) (result : Except Error Unit)
    (creates : Ran runner plan.interpreter plan.createArguments world middle (.ok ()))
    (installs : Ran runner plan.python plan.pipArguments middle after result) :
    Made runner plan world after result [createLine plan, pipLine plan]

inductive Provided (runner : Runner S) (plan : InstallPlan) (world : World S) :
    World S -> Except Error Unit -> List String -> Prop
  | stuck (failure : Io.Failure) (cleared : Cleared plan world (.error failure)) :
    Provided runner plan world world (.error (.io failure)) []
  | made (start after : World S) (result : Except Error Unit) (lines : List String)
    (cleared : Cleared plan world (.ok start)) (made : Made runner plan start after result lines) :
    Provided runner plan world after result lines

section Steps

variable (runner : Runner S)

theorem step_ran (program : Path) (arguments : List Bytes) (next : World S -> Attempt S)
    (world : World S) :
    let attempt := step runner program arguments next world
    (∃ error, Ran runner program arguments world attempt.world (.error error) ∧
        attempt.result = .error error ∧ linesOf attempt.deeds = [commandLine program arguments]) ∨
      ∃ middle, Ran runner program arguments world middle (.ok ()) ∧
        attempt.world = (next middle).world ∧ attempt.result = (next middle).result ∧
        linesOf attempt.deeds = commandLine program arguments :: linesOf (next middle).deeds := by
  unfold step
  rcases runs : runner.run program arguments world with ⟨error | output, after⟩
  · exact .inl ⟨error, .unstarted error runs, rfl, rfl⟩
  dsimp only
  cases success : output.success with
  | false =>
    simp only [Bool.false_eq_true, if_false]
    exact .inl ⟨_, .failed output runs success, rfl, rfl⟩
  | true =>
    simp only [if_true]
    exact .inr ⟨after, .succeeded output runs success, rfl, rfl, rfl⟩

theorem steps_made (plan : InstallPlan) (world : World S) :
    Made runner plan world (steps runner plan world).world (steps runner plan world).result
      (linesOf (steps runner plan world).deeds) := by
  have first := step_ran runner plan.interpreter plan.createArguments
    (step runner plan.python plan.pipArguments finished) world
  dsimp only at first
  rw [steps]
  rcases first with ⟨error, creates, result, lines⟩ | ⟨middle, creates, after, result, lines⟩
  · rw [result, lines]
    exact .uncreated error creates
  · rw [after, result, lines]
    have second := step_ran runner plan.python plan.pipArguments finished middle
    dsimp only at second
    rcases second with ⟨error, installs, result, lines⟩ | ⟨last, installs, after, result, lines⟩
    · rw [result, lines]
      exact .created middle _ creates installs
    · rw [after, result, lines]
      exact .created middle _ creates installs

theorem installer_provided (plan : InstallPlan) (world : World S) :
    Provided runner plan world (installer runner plan world).world
      (installer runner plan world).result (linesOf (installer runner plan world).deeds) := by
  unfold installer
  split
  next there =>
    dsimp only
    split
    next failure fails => exact .stuck failure (.stuck there failure fails)
    next left removes =>
      obtain ⟨found, finds, erased⟩ := Files.removeDirectory_removes removes
      have made := steps_made runner plan { world with tree := left }
      exact .made _ _ _ _ (.removed there found left removes finds erased fun below =>
        erased.absent below finds) made
  next nothing =>
    exact .made world _ _ _ (.absent (Bool.eq_false_iff.mpr nothing)) (steps_made runner plan world)

end Steps

section Account

variable {runner : Runner S} {plan : InstallPlan} {world after : World S}
variable {result : Except Error Unit} {lines : List String}

theorem Provided.lines_first (provided : Provided runner plan world after result lines) :
    lines <+: [createLine plan, pipLine plan] := by
  cases provided with
  | stuck => exact List.nil_prefix
  | made start _ _ _ cleared made =>
    cases made with
    | uncreated => exact ⟨[pipLine plan], rfl⟩
    | created => exact List.prefix_rfl

theorem Cleared.unique {first second : Except Io.Failure (World S)}
    (cleared : Cleared plan world first) (again : Cleared plan world second) : first = second := by
  cases cleared <;> cases again <;> simp_all

theorem Ran.unique {program : Path} {arguments : List Bytes} {other : World S}
    {ended : Except Error Unit} (ran : Ran runner program arguments world after result)
    (again : Ran runner program arguments world other ended) : result = ended ∧ after = other := by
  cases ran <;> cases again <;> simp_all

theorem Provided.succeeds (provided : Provided runner plan world after result lines) :
    result = .ok () ↔ ∃ start middle, Cleared plan world (.ok start) ∧
      Ran runner plan.interpreter plan.createArguments start middle (.ok ()) ∧
      Ran runner plan.python plan.pipArguments middle after (.ok ()) := by
  constructor
  · rintro rfl
    cases provided with
    | made start _ _ _ cleared made =>
      cases made with
      | created middle _ creates installs => exact ⟨start, middle, cleared, creates, installs⟩
  · rintro ⟨start, middle, cleared, creates, installs⟩
    cases provided with
    | stuck failure stuck => cases stuck.unique cleared
    | made other _ _ _ same made =>
      cases same.unique cleared
      cases made with
      | uncreated error fails => cases (fails.unique creates).1
      | created next _ created ends =>
        obtain ⟨-, rfl⟩ := created.unique creates
        exact (ends.unique installs).1

/-- Whoever cannot start a program says so, with the command that was to be run. -/
def Candid (runner : Runner S) : Prop :=
  ∀ program arguments world error after,
    runner.run program arguments world = (.error error, after) ->
      ∃ details, error = .processSpawn (commandLine program arguments) details

inductive Blamed (lines : List String) : Except Error Unit -> Prop
  | removal (failure : Io.Failure) (unrun : lines = []) : Blamed lines (.error (.io failure))
  | command (line details : String) (last : lines.getLast? = some line) :
    Blamed lines (.error (.installFailed line details))

theorem Ran.blamed {program : Path} {arguments : List Bytes} {error : Error}
    (candid : Candid runner) (ran : Ran runner program arguments world after (.error error)) :
    ∃ details, Installation.verdict (.error error) =
      .error (.installFailed (commandLine program arguments) details) := by
  cases ran with
  | unstarted _ runs =>
    obtain ⟨details, rfl⟩ := candid _ _ _ _ _ runs
    exact ⟨details, rfl⟩
  | failed output => exact ⟨_, rfl⟩

theorem Provided.blamed {error : Error} (candid : Candid runner)
    (provided : Provided runner plan world after (.error error) lines) :
    Blamed lines (Installation.verdict (.error error)) := by
  cases provided with
  | stuck failure => exact .removal failure rfl
  | made start _ _ _ cleared made =>
    cases made with
    | uncreated _ creates =>
      obtain ⟨details, reported⟩ := creates.blamed candid
      rw [reported]
      exact .command _ details rfl
    | created middle _ creates installs =>
      obtain ⟨details, reported⟩ := installs.blamed candid
      rw [reported]
      exact .command _ details rfl

end Account

theorem candid_machine : Candid Machine.runner := by
  intro program arguments world error after runs
  simp only [Machine.runner, Machine.run] at runs
  split at runs
  · cases runs
    exact ⟨_, rfl⟩
  · cases runs

theorem candid_rehearsal (script : Rehearsal.Script) : Candid (Rehearsal.runner script) := by
  intro program arguments world error after runs
  simp only [Rehearsal.runner] at runs
  split at runs
  · cases runs
    exact ⟨_, rfl⟩
  · cases runs

def managed (host : Host S) : Host S :=
  { host with install := installer host.runner }

example (assumeYes : Bool) : managed (Machine.host assumeYes) = Machine.host assumeYes := rfl

structure Seen (attempted ended : Except Error Unit) : Prop where
  unstarted (command details : String) : attempted = .error (.processSpawn command details) ->
    ended = .error (.installFailed command details)
  other : (∀ command details, attempted ≠ .error (.processSpawn command details)) ->
    ended = attempted

theorem verdict_seen (attempted : Except Error Unit) :
    Seen attempted (Installation.verdict attempted) := by
  constructor
  case unstarted =>
    rintro command details rfl
    rfl
  case other =>
    intro started
    unfold Installation.verdict
    split
    · rfl
    · exact absurd rfl (started _ _)
    · rfl

section Seen

variable {host : Host S} {context : Context} {python : PythonPaths} {stage : Stage S}

def attemptFor (host : Host S) (context : Context) (python : PythonPaths) (stage : Stage S) :
    Attempt S :=
  installer host.runner (Installation.planOf context python)
    (host.confirm Installation.question stage.world).2.settled

theorem install_attempts (free : stage.gate.busy = false)
    (consent : (host.confirm Installation.question stage.world).1 = .ok true) :
    let ended := (Installation.install (managed host) context python).perform stage
    ended.1 = Installation.verdict (attemptFor host context python stage).result ∧
      ended.2.world = (attemptFor host context python stage).world := by
  obtain ⟨world, events, episode, leaves⟩ :=
    Installation.install_free (managed host) context python stage free
  generalize (Installation.install (managed host) context python).perform stage = ended
    at episode leaves
  obtain ⟨result, after⟩ := ended
  cases leaves
  cases episode with
  | unanswered error asked => cases asked.symm.trans consent
  | declined asked => cases asked.symm.trans consent
  | attempted asked attempt called =>
    subst called
    exact ⟨rfl, rfl⟩

theorem attempt_blamed (candid : Candid host.runner)
    (fails : (Installation.verdict (attemptFor host context python stage).result).isOk = false) :
    Blamed (linesOf (attemptFor host context python stage).deeds)
      (Installation.verdict (attemptFor host context python stage).result) := by
  have provided := installer_provided host.runner (Installation.planOf context python)
    (host.confirm Installation.question stage.world).2.settled
  change Provided _ _ _ _ (attemptFor host context python stage).result _ at provided
  cases result : (attemptFor host context python stage).result with
  | ok _ =>
    rw [result] at fails
    cases fails
  | error error =>
    rw [result] at provided
    exact provided.blamed candid

end Seen

/-- How a host makes the managed environment with its own programs. -/
structure Provides (host : Host S) : Prop where
  provided (plan : InstallPlan) (world : World S) :
    let attempt := installer host.runner plan world
    Provided host.runner plan world attempt.world attempt.result (linesOf attempt.deeds)
  -- Nothing is left of an environment that was there when the first command is run.
  cleared (interpreter storage : Path) (platform : Platform) (builtin : BuiltinSettings)
    (world start : World S) : let plan := InstallPlan.make interpreter storage platform builtin
    Cleared plan world (.ok start) ->
      Files.exists? start.tree start.workDir plan.directory = false
  lines (plan : InstallPlan) (world : World S) :
    linesOf (installer host.runner plan world).deeds <+: [createLine plan, pipLine plan]
  succeeds (plan : InstallPlan) (world : World S) :
    let attempt := installer host.runner plan world
    attempt.result = .ok () ↔ ∃ start middle, Cleared plan world (.ok start) ∧
      Ran host.runner plan.interpreter plan.createArguments start middle (.ok ()) ∧
      Ran host.runner plan.python plan.pipArguments middle attempt.world (.ok ())
  texts (plan : InstallPlan) :
    createLine plan = plan.interpreter.display ++ " -m venv " ++ plan.directory.display ∧
      pipLine plan = plan.python.display ++ " -m pip install -U pip" ++
        String.join (plan.packages.map (" " ++ ·))
  details (stderr : String) : ∃ trimmed, Text.Trimmed stderr trimmed ∧
    failureDetails stderr = if trimmed = "" then "Unknown error" else trimmed
  -- What an installation that was agreed to makes of it.
  seen (context : Context) (python : PythonPaths) (stage : Stage S) : stage.gate.busy = false ->
    (host.confirm Installation.question stage.world).1 = .ok true ->
    let attempt := attemptFor host context python stage
    let ended := (Installation.install (managed host) context python).perform stage
    Seen attempt.result ended.1 ∧ ended.2.world = attempt.world ∧
      (Candid host.runner -> ended.1.isOk = false -> Blamed (linesOf attempt.deeds) ended.1)

theorem host_provides (host : Host S) : Provides host where
  provided := installer_provided host.runner
  cleared interpreter storage platform builtin world start cleared := by
    cases cleared with
    | absent nothing => exact nothing
    | removed there found left removes finds erased gone =>
      exact gone (Files.environment_location finds)
  lines plan world := (installer_provided host.runner plan world).lines_first
  succeeds plan world := (installer_provided host.runner plan world).succeeds
  texts plan := ⟨createLine_eq plan, pipLine_eq plan⟩
  details stderr := by
    refine ⟨Text.trim stderr, Text.trim_trimmed stderr, ?_⟩
    rw [failureDetails]
    simp only [String.isEmpty_iff]
  seen context python stage free consent := by
    obtain ⟨ended, world⟩ := @install_attempts _ host context python stage free consent
    refine ⟨?_, world, fun candid fails => ?_⟩
    · rw [ended]
      exact verdict_seen _
    · rw [ended] at fails ⊢
      exact attempt_blamed candid fails

end Managed

end AnsibleTooling
