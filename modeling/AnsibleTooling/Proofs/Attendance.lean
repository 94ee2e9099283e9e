import AnsibleTooling.CommandLine.Operation
import AnsibleTooling.Files.Fixture
import AnsibleTooling.Proofs.Renewal
import AnsibleTooling.Proofs.Serving
import AnsibleTooling.Proofs.Teardown

set_option autoImplicit false

namespace AnsibleTooling.Attendance

open Act CommandLine
open OnDemand (Still)
open Teardown (Torn Decides)

variable {S A : Type} (user : UserDirectories) (host : Host S) (options : Options)

def Activates (before : Stage S) (context : Context) (result : Except Error SessionState)
    (after : Stage S) : Prop :=
  ∃ loaded, (Operation.loadContext user options).perform before = (.ok context, loaded) ∧
    (Session.activate host context).perform loaded = (result, after)

def IsUnready (state : SessionState) : Prop :=
  state = .disabled ∨ ∃ reason, state = .degraded reason

/-- How a command goes that works with a running server. Only the last way has to do with what the
command is for. -/
inductive Attended (act : Context -> Act S A) (before : Stage S) : Except Error A -> Stage S -> Prop
  | unloaded (error : Error) (after : Stage S)
    (loads : (Operation.loadContext user options).perform before = (.error error, after)) :
    Attended act before (.error error) after
  | unactivated (context : Context) (error : Error) (after : Stage S)
    (activates : Activates user host options before context (.error error) after) :
    Attended act before (.error error) after
  | refused (context : Context) (state : SessionState) (after : Stage S)
    (activates : Activates user host options before context (.ok state) after)
    (unready : IsUnready state) :
    Attended act before (.error (.commandUnavailable "ansible.server.start")) after
  | unstarted (context : Context) (report : Report) (activated : Stage S) (error : Error)
    (after : Stage S)
    (activates : Activates user host options before context (.ok (.ready report)) activated)
    (starts : (Session.startClient host context.settings).perform activated =
      (.error error, after)) :
    Attended act before (.error error) after
  | served (context : Context) (report : Report) (activated started left after : Stage S)
    (result ended : Except Error A) (teardown : Except Error Unit)
    (activates : Activates user host options before context (.ok (.ready report)) activated)
    (starts : (Session.startClient host context.settings).perform activated = (.ok (), started))
    (acts : (act context).perform started = (result, left))
    (tears : (Session.deactivate host).perform left = (teardown, after))
    (torn : Torn host left teardown after) (decides : Decides result teardown ended) :
    Attended act before ended after

theorem startClient_unready {stage : Stage S} (settings : Settings)
    (unready : stage.state.report? = none) :
    (Session.startClient host settings).perform stage =
      (.error (.commandUnavailable Command.serverStart.id), stage) := by
  rw [startClient_eq]
  exact perform_bind_error (Resources.launch_unready settings unready)

theorem withRunningServer_attended (act : Context -> Act S A) (before : Stage S) :
    Attended user host options act before
      ((Operation.withRunningServer user host options act).perform before).1
      ((Operation.withRunningServer user host options act).perform before).2 := by
  rw [Operation.withRunningServer]
  rcases loads : (Operation.loadContext user options).perform before with ⟨error | context, loaded⟩
  · rw [perform_bind_error loads]
    exact .unloaded error loaded loads
  rw [perform_bind_ok loads]
  rcases activates : (Session.activate host context).perform loaded with ⟨error | state, activated⟩
  · rw [perform_bind_error activates]
    exact .unactivated context error activated ⟨loaded, loads, activates⟩
  rw [perform_bind_ok activates]
  have reaches : Activates user host options before context (.ok state) activated :=
    ⟨loaded, loads, activates⟩
  obtain ⟨kept, active⟩ := OnDemand.activate_state host context activates
  cases state with
  | inactive => exact absurd rfl active
  | disabled =>
    rw [perform_bind_error (startClient_unready host _ (by rw [kept]; rfl))]
    exact .refused context .disabled activated reaches (.inl rfl)
  | degraded reason =>
    rw [perform_bind_error (startClient_unready host _ (by rw [kept]; rfl))]
    exact .refused context (.degraded reason) activated reaches (.inr ⟨reason, rfl⟩)
  | ready report =>
    rcases starts : (Session.startClient host context.settings).perform activated with
      ⟨error | _, started⟩
    · rw [perform_bind_error starts]
      exact .unstarted context report activated error started reaches starts
    rw [perform_bind_ok starts]
    rcases acts : (act context).perform started with ⟨result, left⟩
    have done : (outcome (act context)).perform started = (.ok result, left) := by
      rw [perform_outcome, acts]
    rw [perform_bind_ok done]
    obtain ⟨teardown, tears, decides⟩ := Teardown.close_decides host result left
    have torn := Teardown.deactivate_torn host left
    rw [tears] at torn
    exact .served context report activated started left _ result _ teardown reaches starts acts
      tears torn decides

theorem loadContext_moves {related : Stage S -> Stage S -> Prop} [IsPreorder (Stage S) related]
    (logged : ∀ entry : LogRecord, Moves related (record (.logged entry) : Act S Unit)) :
    Moves related (Operation.loadContext user options : Act S Context) := by
  have works : Moves related (Operation.workplace : Act S (World S)) := by
    refine moves_world.bind fun world => ?_
    split
    · exact moves_pure world
    · exact moves_throw _
  have settings : Moves related (Operation.loadSettings options : Act S Settings) :=
    works.bind fun _ => (moves_ofExcept _).bind fun _ => (logged _).bind fun _ => moves_ofExcept _
  refine settings.bind fun settings => ?_
  split
  · exact (moves_pure _).bind fun _ => moves_pure _
  · exact (moves_ofExcept _).bind fun _ => moves_pure _

section Still

variable {user host options}

variable (user host options) in
theorem loadContext_still :
    Moves (Still host) (Operation.loadContext user options : Act S Context) :=
  loadContext_moves user options fun _ _ => rfl

theorem Activates.still (steered : OnDemand.Steered host) {before after : Stage S}
    {context : Context} {result : Except Error SessionState}
    (activates : Activates user host options before context result after) :
    Still host before after := by
  obtain ⟨loaded, loads, activated⟩ := activates
  have first := loadContext_still user host options before
  have second := (OnDemand.upkeep_still steered).activate_moves context loaded
  rw [loads] at first
  rw [activated] at second
  exact Trans.trans first second

end Still

section Machine

variable (assumeYes : Bool)

theorem startClient_idle {settings : Settings} {activated after : Stage Machine} {report : Report}
    {error : Error} (ready : activated.state = .ready report)
    (idle : Machine.client.isRunning activated.world = false)
    (starts : (Session.startClient (Machine.host assumeYes) settings).perform activated =
      (.error error, after)) :
    Machine.client.isRunning after.world = false := by
  rw [OnDemand.startClient_perform _ settings ready idle, OnDemand.launchClient_perform,
    Prod.mk.injEq] at starts
  obtain ⟨failed, rfl⟩ := starts
  -- A server that was started but does not answer as it should is not kept.
  have running := (Machine.clientStart_started
    (Resources.launchFor settings activated.world report) activated.world).running
  exact running.trans (congrArg Except.toBool failed)

theorem torn_machine {left after : Stage Machine} {teardown : Except Error Unit}
    (torn : Torn (Machine.host assumeYes) left teardown after) :
    teardown = .ok () ∧ Machine.client.isRunning after.world = false := by
  cases torn with
  | unstopped error stuck => cases stuck
  | undisposed error _ stuck => cases stuck
  | complete =>
    have stopped : (Teardown.stopped (Machine.host assumeYes) left).world.inner.server = none :=
      Machine.stopServer_server left.world
    have kept := congrArg Resources.View.running
      (Machine.disposeTerminal_view (Teardown.stopped (Machine.host assumeYes) left).world)
    exact ⟨rfl, kept.trans (congrArg Option.isSome stopped)⟩

/-- What a command with a running server comes to on a machine, and that no server is left. -/
structure Dismissed (act : Context -> Act Machine A) (before : Stage Machine)
    (ended : Except Error A) (after : Stage Machine) : Prop where
  attended : Attended user (Machine.host assumeYes) options act before ended after
  idle : Machine.client.isRunning after.world = false

theorem withRunningServer_dismissed (act : Context -> Act Machine A) (before : Stage Machine)
    (fresh : before.world.inner.server = none) :
    let command := Operation.withRunningServer user (Machine.host assumeYes) options act
    Dismissed user options assumeYes act before (command.perform before).1
      (command.perform before).2 := by
  intro command
  have attended := withRunningServer_attended user (Machine.host assumeYes) options act before
  refine ⟨attended, ?_⟩
  change Attended _ _ _ _ _ (command.perform before).1 (command.perform before).2 at attended
  generalize command.perform before = ended at attended
  obtain ⟨result, after⟩ := ended
  have steered := OnDemand.steered_machine assumeYes
  have idle : Machine.client.isRunning before.world = false := congrArg Option.isSome fresh
  cases attended with
  | unloaded error _ loads =>
    have still := loadContext_still user (Machine.host assumeYes) options before
    rw [loads] at still
    exact still.trans idle
  | unactivated context error _ activates => exact (activates.still steered).trans idle
  | refused context state _ activates unready => exact (activates.still steered).trans idle
  | unstarted context report activated error _ activates starts =>
    obtain ⟨loaded, _, activation⟩ := id activates
    exact startClient_idle assumeYes (OnDemand.activate_state _ context activation).1
      ((activates.still steered).trans idle) starts
  | served context report activated started left _ _ _ _ activates starts acts tears torn =>
    exact (torn_machine assumeYes torn).2

end Machine

def greeter : String :=
  "#!/bin/sh\nprintf 'Content-Length: 35\x0d\n\x0d\n" ++
    "\x7b\"jsonrpc\":\"2.0\",\"id\":1,\"result\":1\x7d'\nsleep 9\n"

def greetingTree : Files.Tree :=
  let tool (name command : String) : Files.Fixture :=
    { path := Path.ofText ("/bin/" ++ name), entry := .command command, isExecutable := true }
  Files.Fixture.placeAll [] .empty [tool "sh" "dash", tool "sleep" "sleep", tool "python3" "true",
    tool "ansible" "true", tool "ansible-lint" "true",
    { path := Path.ofText "/bin/ansible-language-server", entry := .file (Text.encode greeter)
      isExecutable := true }]

def greetingStage : Stage Machine :=
  { world := {
      tree := greetingTree
      workDir := []
      inner := { bindings := [(Text.encode "PATH", Text.encode "/bin")] } } }

theorem withRunningServer_dismissed_greeting :
    greetingStage.world.inner.server = none ∧
      let act (_ : Context) : Act Machine Bool := Session.clientIsRunning (Machine.host true)
      let options : Options := { storage := some (Path.ofText "/storage") }
      let ended := (Operation.withRunningServer {} (Machine.host true) options act).perform
        greetingStage
      Dismissed {} options true act greetingStage ended.1 ended.2 ∧
        ended.1.toOption = some true :=
  ⟨rfl, withRunningServer_dismissed _ _ _ _ _ rfl, by decide +kernel⟩

end AnsibleTooling.Attendance
