import AnsibleTooling.Main
import AnsibleTooling.Proofs.Attendance

set_option autoImplicit false

namespace AnsibleTooling

open Act

namespace OnDemand

variable {S : Type} (host : Host S) (context : Context)

theorem activate_fails {before after : Stage S} {error : Error}
    (activates : (Session.activate host context).perform before = (.error error, after)) :
    after.state = .inactive := by
  rcases activated : (Activation.activate host context).perform before with ⟨outcome, reached⟩
  have settles := Session.activate_settles host context before reached outcome activated
  rw [activates] at settles
  exact settles.inactive.mpr ⟨error, (settles.failed error).mp rfl⟩

/-- What an installation on demand leaves of a session. That an error leaves it as it was, or
without a report, is only so if no client is to be started again. -/
def Leaves (restarts : Bool) (before : SessionState) (result : Except Error Unit)
    (after : SessionState) : Prop :=
  (result = .ok () ∧ after ≠ .inactive) ∨
    ∃ error, result = .error error ∧ (restarts = false -> after = before ∨ after = .inactive)

theorem resume_idle (installed : Except Error Unit) (stage : Stage S) :
    (resume host context false installed).perform stage = (installed, stage) := by
  simp [resume_perform]

theorem resume_same_state (wasRunning : Bool) (installed : Except Error Unit) :
    Moves SameState (resume host context wasRunning installed) :=
  resume_moves (startClient_same_state host) context wasRunning installed

theorem reinstall_leaves (python : PythonPaths) (wasRunning : Bool) (paused : Stage S) :
    let ended := (reinstall host context python wasRunning).perform paused
    Leaves wasRunning paused.state ended.1 ended.2.state := by
  intro ended
  have kept := install_same_state host context python paused
  simp only [ended, reinstall_perform]
  rcases installs : (Installation.install host context python).perform paused with
    ⟨error | _, left⟩ <;> rw [installs] at kept
  · obtain ⟨last, fails⟩ := resume_fails host context wasRunning error left
    have same := resume_same_state host context wasRunning (.error error) left
    exact .inr ⟨last, fails, fun _ => .inl (Eq.trans same kept)⟩
  · dsimp only [renew]
    rcases activates : (Session.activate host context).perform (renewing left) with
      ⟨error | state, activated⟩
    · exact .inr ⟨error, rfl, fun _ => .inr (activate_fails host context activates)⟩
    · obtain ⟨becomes, active⟩ := activate_state host context activates
      have same := resume_same_state host context wasRunning (.ok ()) activated
      dsimp only
      rcases resumes : (resume host context wasRunning (.ok ())).perform activated with
        ⟨error | _, after⟩ <;> rw [resumes] at same
      · refine .inr ⟨error, rfl, fun idle => ?_⟩
        rw [idle, resume_idle] at resumes
        cases resumes
      · exact .inl ⟨rfl, fun inactive => active (becomes.symm.trans (same.symm.trans inactive))⟩

theorem installTools_leaves (before : Stage S) :
    let ended := (Session.installTools host context).perform before
    Leaves (host.client.isRunning before.world) before.state ended.1 ended.2.state := by
  intro ended
  cases known : interpreterFor host context before with
  | none =>
    obtain ⟨after, ⟨events, _, reached⟩, _, done⟩ := installTools_lost host context before known
    simp only [ended, done]
    exact .inr ⟨_, rfl, fun _ => .inl (by rw [reached, Stage.extend_state])⟩
  | some python =>
    obtain ⟨paused, pauses, done⟩ := installTools_pauses host context before python known
    simp only [ended, done]
    split
    next error stuck =>
      exact .inr ⟨error, rfl, fun _ => .inl pauses.state⟩
    next =>
      rw [← pauses.state]
      exact reinstall_leaves host context python _ paused

end OnDemand

namespace CommandLine

inductive Settling
  | resolve
  | install

namespace Settling

variable {S : Type} (user : UserDirectories) (host : Host S) (options : Options)

def action : Settling -> Action
  | .resolve => .resolve false
  | .install => .install

def act : Settling -> Act S SessionState
  | .resolve => do
    let context <- Operation.loadContext user options
    Session.activate host context
  | .install => do
    let context <- Operation.loadContext user options
    Session.installTools host context
    return (<- get).state

theorem perform_eq (settling : Settling) :
    Operation.perform user host options settling.action =
      (do
        let state <- settling.act user host options
        Act.ofExcept (stateAnswer false state)) := by
  cases settling <;>
    simp [action, Operation.perform, Operation.resolve, Operation.install, act, bind_assoc]

variable {user host options} in
theorem act_active {settling : Settling} {before after : Stage S} {state : SessionState}
    (acts : (settling.act user host options).perform before = (.ok state, after)) :
    after.state = state ∧ state ≠ .inactive := by
  cases settling with
  | resolve =>
    rcases perform_bind_cases acts with ⟨_, _, failed⟩ | ⟨context, loaded, _, activates⟩
    · cases failed
    · exact OnDemand.activate_state host context activates
  | install =>
    rcases perform_bind_cases acts with ⟨_, _, failed⟩ | ⟨context, loaded, _, acts⟩
    · cases failed
    have leaves := OnDemand.installTools_leaves host context loaded
    rcases perform_bind_cases acts with ⟨_, _, failed⟩ | ⟨_, installed, installs, gives⟩
    · cases failed
    rw [installs] at leaves
    cases gives
    rcases leaves with ⟨_, active⟩ | ⟨_, failed, _⟩
    · exact ⟨rfl, active⟩
    · cases failed

structure Exits (outcome : Except Error SessionState) (status : Nat) : Prop where
  fine : status = 0 ↔ outcome = .ok .disabled ∨ ∃ report, outcome = .ok (.ready report)
  degraded : status = 2 ↔ ∃ reason, outcome = .ok (.degraded reason)
  failed : status = 1 ↔ ∃ error, outcome = .error error

theorem closing_exits {outcome : Except Error SessionState} (active : outcome ≠ .ok .inactive) :
    Exits outcome (closing (outcome.bind (stateAnswer false))).status := by
  rcases outcome with error | (_ | _ | reason | report)
  · constructor <;> simp [Except.bind, closing]
  · exact absurd rfl active
  all_goals constructor <;> simp [Except.bind, closing, stateAnswer, Answer.line, Answer.lines]

def errorText : Except Error SessionState -> String
  | .ok _ => ""
  | .error error => "Error: " ++ error.message ++ "\n"

theorem closing_errors (outcome : Except Error SessionState) :
    (closing (outcome.bind (stateAnswer false))).errors = errorText outcome := by
  rcases outcome with error | (_ | _ | reason | report)
  · simp [Except.bind, closing, errorText, toString]
  all_goals rfl

theorem dismiss_perform {A : Type} (act : Act S A) (before : Stage S) :
    let acted := act.perform before
    let ended := (Operation.dismiss host act).perform before
    ended.1 = acted.1 ∧ ended.2.state = acted.2.state ∧
      (host.client.isRunning acted.2.world = false -> ended = acted) := by
  intro acted ended
  have acts : (outcome act).perform before = (.ok acted.1, acted.2) := perform_outcome before act
  have dismisses : ended =
      if host.client.isRunning acted.2.world then
        (acted.1, ((Session.stopClient host).perform acted.2).2)
      else acted := by
    simp only [ended, Operation.dismiss]
    rw [perform_bind_ok acts, perform_bind_ok (Session.clientIsRunning_perform host acted.2)]
    split
    next =>
      rw [perform_bind_ok (perform_outcome acted.2 (Session.stopClient host)), perform_ofExcept]
    next => rw [perform_ofExcept]
  rw [dismisses]
  split
  next running =>
    have same := OnDemand.recorded_same_state .clientStopped host.client.stop acted.2
    exact ⟨rfl, same, fun stopped => absurd running (by simp [stopped])⟩
  next => exact ⟨rfl, rfl, fun _ => rfl⟩

theorem run_perform (settling : Settling) (before : Stage S) :
    let settled := (settling.act user host options).perform before
    let ended := (Operation.run user host options settling.action).perform before
    ended.1 = settled.1.bind (stateAnswer false) ∧ ended.2.state = settled.2.state ∧
      (host.client.isRunning settled.2.world = false -> ended.2 = settled.2) := by
  intro settled ended
  obtain ⟨result, state, idle⟩ := dismiss_perform host
    (Operation.perform user host options settling.action) before
  have performed : (Operation.perform user host options settling.action).perform before =
      (settled.1.bind (stateAnswer false), settled.2) := by
    rw [perform_eq, perform_bind]
    rcases acts : (settling.act user host options).perform before with ⟨error | state, after⟩
    · simp [settled, acts, Except.bind]
    · simp [settled, acts, Except.bind]
  rw [performed] at result state idle
  exact ⟨result, state, fun stopped => congrArg Prod.snd (idle stopped)⟩

end Settling

section Machine

variable (assumeYes : Bool)

structure IsFresh (machine : Machine) : Prop where
  server : machine.server = none
  playing : machine.playing = none
  released : machine.released = []
  output : machine.output = []
  errors : machine.errors = []

def Undisturbed (before after : Stage Machine) : Prop :=
  after.world.inner = before.world.inner

instance : IsPreorder (Stage Machine) Undisturbed where
  refl _ := rfl
  trans _ _ _ first second := Eq.trans second first

theorem upkeep_undisturbed : Upkeep Undisturbed (Machine.host assumeYes) where
  logged _ _ := rfl
  runs program arguments := by
    refine Moves.bind (fun _ => rfl) fun _ stage => ?_
    rw [perform_ofWorld]
    exact Machine.run_inner program arguments stage.world
  stores _ stage := by
    rw [Activation.makeStorage, perform_ofWorld]
    rfl
  installs context python := by
    refine Installation.install_moves _ context python refl ?_
    intro stage result world events _ episode
    exact episode.same_view _ context python (fun _ => rfl) (Machine.confirm_inner assumeYes)
      (Managed.installer_apart Machine.run_inner fun _ _ => id)
  noted _ _ _ := rfl
  becomes _ _ := rfl

theorem installTools_undisturbed (context : Context) {before : Stage Machine}
    (idle : before.world.inner.server = none) :
    Undisturbed before
      ((Session.installTools (Machine.host assumeYes) context).perform before).2 := by
  have stopped : (Machine.host assumeYes).client.isRunning before.world = false :=
    congrArg Option.isSome idle
  cases known : OnDemand.interpreterFor (Machine.host assumeYes) context before with
  | none =>
    obtain ⟨after, _, same, done⟩ := OnDemand.installTools_lost _ context before known
    rw [done]
    exact congrArg World.inner same
  | some python =>
    obtain ⟨paused, pauses, done⟩ := OnDemand.installTools_pauses _ context before python known
    have same := pauses.world
    rw [stopped, if_neg Bool.false_ne_true] at same
    -- No client is started again, so that only the installation and the activation are left.
    have resumes (installed : Except Error Unit) :
        Moves Undisturbed (resume (Machine.host assumeYes) context false installed) := by
      intro stage
      rw [OnDemand.resume_idle]
      exact refl stage
    have moves := (upkeep_undisturbed assumeYes).reinstall_moves resumes python paused
    have kept : Undisturbed before paused := congrArg World.inner same
    rw [done, stopped]
    exact Trans.trans kept moves

theorem act_undisturbed (user : UserDirectories) (options : Options) (settling : Settling)
    {before : Stage Machine} (idle : before.world.inner.server = none) :
    Undisturbed before ((settling.act user (Machine.host assumeYes) options).perform before).2 := by
  have loading : Moves Undisturbed (Operation.loadContext user options : Act Machine Context) :=
    Attendance.loadContext_moves user options fun _ _ => rfl
  have activating := (upkeep_undisturbed assumeYes).activate_moves
  cases settling with
  | resolve => exact (loading.bind activating) before
  | install =>
    have first := loading before
    rw [Settling.act]
    rcases loads : (Operation.loadContext user options).perform before with ⟨error | context, loaded⟩
    · rw [loads] at first
      rw [perform_bind_error loads]
      exact first
    · rw [loads] at first
      have second := installTools_undisturbed assumeYes context (first ▸ idle)
      rw [perform_bind_ok loads, perform_bind]
      rcases installs : (Session.installTools (Machine.host assumeYes) context).perform loaded with
        ⟨_ | _, _⟩ <;> rw [installs] at second <;> exact Trans.trans first second

theorem settle_undisturbed {world : World Machine} (playing : world.inner.playing = none)
    (released : world.inner.released = []) : Machine.settle world = world := by
  obtain ⟨tree, workDir, inner, clock, records⟩ := world
  obtain ⟨bindings, userHome, ownId, server, _, _, output, errors⟩ := inner
  cases playing
  cases released
  rfl

theorem act_rests {user : UserDirectories} {options : Options} {settling : Settling}
    {before after : Stage Machine} {error : Error} (idle : before.world.inner.server = none)
    (acts : (settling.act user (Machine.host assumeYes) options).perform before =
      (.error error, after)) : after.state = before.state ∨ after.state = .inactive := by
  have loading : Moves OnDemand.SameState
      (Operation.loadContext user options : Act Machine Context) :=
    Attendance.loadContext_moves user options fun _ _ => rfl
  have still := Attendance.loadContext_still user (Machine.host assumeYes) options before
  have same := loading before
  cases settling with
  | resolve =>
    rcases perform_bind_cases acts with ⟨_, loads, _⟩ | ⟨context, loaded, loads, activates⟩
    · rw [loads] at same
      exact .inl same
    · exact .inr (OnDemand.activate_fails _ context activates)
  | install =>
    rcases perform_bind_cases acts with ⟨_, loads, _⟩ | ⟨context, loaded, loads, acts⟩ <;>
      rw [loads] at same still
    · exact .inl same
    have leaves := OnDemand.installTools_leaves (Machine.host assumeYes) context loaded
    rcases perform_bind_cases acts with ⟨_, installs, _⟩ | ⟨_, _, _, gives⟩
    · rw [installs] at leaves
      rcases leaves with ⟨done, _⟩ | ⟨_, _, left⟩
      · cases done
      · exact (left (still.trans (congrArg Option.isSome idle))).imp_left fun left => left.trans same
    · cases gives

end Machine

structure Ends (outcome : Except Error SessionState) (left : SessionState) (noted : String)
    (printed : Transcript) : Prop where
  active (state : SessionState) : outcome = .ok state -> left = state ∧ state ≠ .inactive
  exits : Settling.Exits outcome printed.status
  errors : printed.errors = noted ++ Settling.errorText outcome

theorem run_ends {S : Type} (user : UserDirectories) (host : Host S) (options : Options)
    (settling : Settling) (stamp : String) (filter : LogFilter)
    (shown : World S -> String × String) (before : Stage S) :
    let ended := (Operation.run user host options settling.action).perform before
    Ends ((settling.act user host options).perform before).1 ended.2.state
      (journalText stamp filter ended.2.journal ++ (shown ended.2.world).2)
      (transcript stamp filter shown ended.1 ended.2) := by
  intro ended
  obtain ⟨result, state, _⟩ := Settling.run_perform user host options settling before
  rcases acts : (settling.act user host options).perform before with ⟨outcome, after⟩
  rw [acts] at result state
  have active : ∀ state, outcome = .ok state -> ended.2.state = state ∧ state ≠ .inactive := by
    rintro told rfl
    rw [state]
    exact Settling.act_active acts
  refine ⟨active, ?_, ?_⟩
  · have exits := Settling.closing_exits fun told => (active .inactive told).2 rfl
    rwa [← result] at exits
  · have errors := Settling.closing_errors outcome
    rw [← result] at errors
    rw [← errors]
    rfl

theorem execute_ends {stamp : String} {words : List Bytes} {world : World Machine}
    {invocation : Invocation} {settling : Settling} (asked : Invocation.ofWords words = .ok invocation)
    (settles : invocation.action = settling.action) (fresh : IsFresh world.inner) :
    let options := invocation.options
    let settled := (settling.act (userDirectories world.inner) (Machine.host options.assumeYes)
      options).perform { world }
    let filter := logFilter world.inner options.verbosity
    Ends settled.1 settled.2.state (journalText stamp filter settled.2.journal)
        (execute stamp words world).1 ∧
      (settled.2.state = .inactive ↔ ∃ error, settled.1 = .error error) := by
  intro options settled filter
  have ends := run_ends (userDirectories world.inner) (Machine.host options.assumeYes) options
    settling stamp filter terminalTexts { world }
  obtain ⟨_, _, stays⟩ := Settling.run_perform (userDirectories world.inner)
    (Machine.host options.assumeYes) options settling { world }
  have same : settled.2.world.inner = world.inner :=
    act_undisturbed options.assumeYes _ options settling fresh.server
  have server : settled.2.world.inner.server = none := by rw [same, fresh.server]
  have idle : (Machine.host options.assumeYes).client.isRunning settled.2.world = false :=
    congrArg Option.isSome server
  constructor
  case left =>
    have texts : terminalTexts settled.2.world = ("", "") := by
      rw [terminalTexts, same, fresh.output, fresh.errors]
      rfl
    have quiet : Machine.settle settled.2.world = settled.2.world :=
      settle_undisturbed (by rw [same, fresh.playing]) (by rw [same, fresh.released])
    have prints : (execute stamp words world).1 = transcript stamp filter terminalTexts
        ((Operation.run (userDirectories world.inner) (Machine.host options.assumeYes) options
          settling.action).perform { world }).1 settled.2 := by
      rw [execute, asked]
      dsimp only
      rw [settles, stays idle]
      exact congrArg (fun world => transcript stamp filter terminalTexts _ { settled.2 with world })
        quiet
    dsimp only at ends
    rw [stays idle, texts, String.append_empty] at ends
    rw [prints]
    exact ends
  case right =>
    rcases acts : settled with ⟨error | state, after⟩
    · have rests := act_rests options.assumeYes fresh.server acts
      simpa using rests
    · obtain ⟨becomes, active⟩ := Settling.act_active acts
      simpa [becomes] using active

theorem eventText_head (stamp : String) (filter : LogFilter) (event : Event)
    (stamped : stamp.toList.head? ≠ some 'E') :
    (eventText stamp filter event).toList.head? ≠ some 'E' := by
  cases event with
  | noted level text => cases level <;> simp [eventText, noteMark]
  | logged record =>
    rw [eventText]
    split
    · cases chars : stamp.toList with
      | nil => simp [logLine, toString, chars]
      | cons char rest => simpa [logLine, toString, chars] using stamped
    · simp
  | _ => simp [eventText]

structure Contract : Prop where
  hosted {S : Type} (user : UserDirectories) (host : Host S) (options : Options)
    (settling : Settling) (stamp : String) (filter : LogFilter)
    (shown : World S -> String × String) (before : Stage S) :
    let ended := (Operation.run user host options settling.action).perform before
    Ends ((settling.act user host options).perform before).1 ended.2.state
      (journalText stamp filter ended.2.journal ++ (shown ended.2.world).2)
      (transcript stamp filter shown ended.1 ended.2)
  executed {stamp : String} {words : List Bytes} {world : World Machine} {invocation : Invocation}
    {settling : Settling} : Invocation.ofWords words = .ok invocation ->
    invocation.action = settling.action -> IsFresh world.inner ->
    let options := invocation.options
    let settled := (settling.act (userDirectories world.inner) (Machine.host options.assumeYes)
      options).perform { world }
    Ends settled.1 settled.2.state
        (journalText stamp (logFilter world.inner options.verbosity) settled.2.journal)
        (execute stamp words world).1 ∧
      (settled.2.state = .inactive ↔ ∃ error, settled.1 = .error error)
  begins (description : Json.Value) : IsFresh (Main.world description).inner
  -- Nothing that is noted on the way begins as the line of an error does.
  once (stamp : String) (filter : LogFilter) (event : Event) :
    stamp.toList.head? ≠ some 'E' -> (eventText stamp filter event).toList.head? ≠ some 'E'

theorem settling_contract : Contract where
  hosted := run_ends
  executed := execute_ends
  begins _ := ⟨rfl, rfl, rfl, rfl, rfl⟩
  once := eventText_head

end CommandLine

end AnsibleTooling
