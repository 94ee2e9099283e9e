import AnsibleTooling.Proofs.Consent
import AnsibleTooling.Proofs.Outcomes
import AnsibleTooling.Proofs.Rehearsing

set_option autoImplicit false

namespace AnsibleTooling.Teardown

open Act Resources

variable {S A : Type} (host : Host S)

def stopped (stage : Stage S) : Stage S :=
  ((Session.stopClient host).perform stage).2

def disposed (stage : Stage S) : Stage S :=
  ((Session.disposeTerminal host).perform stage).2

def retired (stage : Stage S) : Stage S :=
  { stage with state := .inactive, journal := stage.journal ++ [.became .inactive] }

def stops (stage : Stage S) : Except Error Unit :=
  (host.client.stop stage.world).1

def disposes (stage : Stage S) : Except Error Unit :=
  (host.terminal.dispose stage.world).1

theorem stopClient_perform (stage : Stage S) :
    (Session.stopClient host).perform stage = (stops host stage, stopped host stage) := by
  rw [stopped, Session.stopClient, perform_recorded]
  rfl

theorem disposeTerminal_perform (stage : Stage S) :
    (Session.disposeTerminal host).perform stage = (disposes host stage, disposed host stage) := by
  rw [disposed, Session.disposeTerminal, perform_recorded]
  rfl

/-- How a teardown goes. The first call that fails ends it. -/
inductive Torn (before : Stage S) : Except Error Unit -> Stage S -> Prop
  | unstopped (error : Error) (stuck : stops host before = .error error) :
    Torn before (.error error) (stopped host before)
  | undisposed (error : Error) (stop : stops host before = .ok ())
    (stuck : disposes host (stopped host before) = .error error) :
    Torn before (.error error) (disposed host (stopped host before))
  | complete (stop : stops host before = .ok ())
    (dispose : disposes host (stopped host before) = .ok ()) :
    Torn before (.ok ()) (retired (disposed host (stopped host before)))

theorem deactivate_torn (before : Stage S) :
    Torn host before ((Session.deactivate host).perform before).1
      ((Session.deactivate host).perform before).2 := by
  have first := stopClient_perform host before
  have second := disposeTerminal_perform host (stopped host before)
  rw [Session.deactivate]
  cases stop : stops host before with
  | error error =>
    rw [stop] at first
    rw [perform_bind_error first]
    exact .unstopped error stop
  | ok _ =>
    rw [stop] at first
    rw [perform_bind_ok first]
    cases dispose : disposes host (stopped host before) with
    | error error =>
      rw [dispose] at second
      rw [perform_bind_error second]
      exact .undisposed error stop dispose
    | ok _ =>
      rw [dispose] at second
      rw [perform_bind_ok second, Session.setState_perform]
      exact .complete stop dispose

inductive Decides : Except Error A -> Except Error Unit -> Except Error A -> Prop
  | failed (error : Error) (teardown : Except Error Unit) :
    Decides (.error error) teardown (.error error)
  | untorn (value : A) (error : Error) : Decides (.ok value) (.error error) (.error error)
  | returned (value : A) : Decides (.ok value) (.ok ()) (.ok value)

theorem close_decides (result : Except Error A) (before : Stage S) :
    ∃ teardown, (Session.deactivate host).perform before =
        (teardown, ((Session.close host result).perform before).2) ∧
      Decides result teardown ((Session.close host result).perform before).1 := by
  rcases tears : (Session.deactivate host).perform before with ⟨teardown, after⟩
  have reached : (outcome (Session.deactivate host)).perform before = (.ok teardown, after) := by
    rw [perform_outcome, tears]
  have returns := perform_ofExcept after result
  have ends := perform_ofExcept after teardown
  rw [Session.close, perform_bind_ok reached]
  refine ⟨teardown, ?_⟩
  -- The result of the operation is looked at before that of the teardown.
  rcases result with error | value
  · rw [perform_bind_error returns]
    exact ⟨rfl, .failed error teardown⟩
  · rw [perform_bind_ok returns]
    rcases teardown with error | _
    · rw [perform_bind_error ends]
      exact ⟨rfl, .untorn value error⟩
    · rw [perform_bind_ok ends]
      exact ⟨rfl, .returned value⟩

section Calls

open Consent (calls)

variable (stage : Stage S)

theorem recorded_calls (event : Bool -> Event) (step : World S -> Except Error A × World S) :
    calls ((recorded event step).perform stage).2.journal =
      calls stage.journal ++ calls [event (step stage.world).1.isOk] := by
  rw [perform_recorded, Stage.extend_journal, Consent.calls_append, Consent.calls_append,
    Consent.calls_records, List.nil_append]

theorem stopped_calls :
    calls (stopped host stage).journal =
      calls stage.journal ++ [.clientStopped (stops host stage).isOk] :=
  recorded_calls stage .clientStopped host.client.stop

theorem disposed_calls :
    calls (disposed host stage).journal =
      calls stage.journal ++ [.terminalDisposed (disposes host stage).isOk] :=
  recorded_calls stage .terminalDisposed host.terminal.dispose

theorem retired_calls : calls (retired stage).journal = calls stage.journal := by
  rw [retired, Consent.calls_append]
  exact List.append_nil _

def callsDue (before : Stage S) : List Event :=
  .clientStopped (stops host before).isOk ::
    if (stops host before).isOk then
      [.terminalDisposed (disposes host (stopped host before)).isOk]
    else []

variable {host}

theorem Torn.calls {before after : Stage S} {teardown : Except Error Unit}
    (torn : Torn host before teardown after) :
    calls after.journal = calls before.journal ++ callsDue host before := by
  cases torn with
  | unstopped error stuck => rw [stopped_calls, callsDue, stuck]; rfl
  | undisposed error stop stuck =>
    rw [disposed_calls, stopped_calls, callsDue, stop, stuck, List.append_assoc]
    rfl
  | complete stop dispose =>
    rw [retired_calls, disposed_calls, stopped_calls, callsDue, stop, dispose, List.append_assoc]
    rfl

end Calls

section View

variable {host} {shows : World S -> Option Showing}
variable (lawful : Lawful host.client host.terminal shows) {before after : Stage S}
variable {teardown : Except Error Unit}
include lawful

theorem stopped_view (stage : Stage S) :
    viewOf host.client shows (stopped host stage).world =
      if (stops host stage).isOk then { viewOf host.client shows stage.world with running := false }
      else viewOf host.client shows stage.world := by
  rw [stopped, Session.stopClient, perform_recorded, Stage.extend_world, view_settled lawful]
  exact lawful.stop stage.world

theorem disposed_view (stage : Stage S) :
    viewOf host.client shows (disposed host stage).world =
      if (disposes host stage).isOk then { viewOf host.client shows stage.world with shown := none }
      else viewOf host.client shows stage.world := by
  rw [disposed, Session.disposeTerminal, perform_recorded, Stage.extend_world, view_settled lawful]
  exact lawful.dispose stage.world

def viewLeft (host : Host S) (shows : World S -> Option Showing) (before : Stage S) : View :=
  let seen := viewOf host.client shows before.world
  { running := !(stops host before).isOk && seen.running
    shown :=
      if (stops host before).isOk && (disposes host (stopped host before)).isOk then none
      else seen.shown }

theorem Torn.view (torn : Torn host before teardown after) :
    viewOf host.client shows after.world = viewLeft host shows before := by
  have first := stopped_view lawful before
  have second := disposed_view lawful (stopped host before)
  cases torn with
  | unstopped error stuck =>
    rw [stuck] at first
    rw [first, viewLeft, stuck]
    rfl
  | undisposed error stop stuck =>
    rw [stop] at first
    rw [stuck] at second
    rw [second, first, viewLeft, stop, stuck]
    rfl
  | complete stop dispose =>
    rw [stop] at first
    rw [dispose] at second
    have same : (retired (disposed host (stopped host before))).world =
        (disposed host (stopped host before)).world := rfl
    rw [same, second, first, viewLeft, stop, dispose]
    rfl

end View

theorem Torn.state {host : Host S} {before after : Stage S} {teardown : Except Error Unit}
    (torn : Torn host before teardown after) :
    after.state = if teardown.isOk then .inactive else before.state := by
  have first : (stopped host before).state = before.state := by
    rw [stopped, Session.stopClient, perform_recorded, Stage.extend_state]
  have second : (disposed host (stopped host before)).state = (stopped host before).state := by
    rw [disposed, Session.disposeTerminal, perform_recorded, Stage.extend_state]
  cases torn with
  | unstopped => exact first
  | undisposed => exact second.trans first
  | complete => rfl

structure Closed (shows : World S -> Option Showing) (before : Stage S)
    (result ended : Except Error A) (after : Stage S) : Prop where
  decides : ∃ teardown, (Session.deactivate host).perform before = (teardown, after) ∧
    Torn host before teardown after ∧ Decides result teardown ended ∧
    after.state = if teardown.isOk then .inactive else before.state
  calls : Consent.calls after.journal = Consent.calls before.journal ++ callsDue host before
  -- A client that could be stopped does not run, whatever becomes of the terminal.
  client : stops host before = .ok () -> host.client.isRunning after.world = false
  terminal : stops host before = .ok () -> disposes host (stopped host before) = .ok () ->
    host.terminal.isOpen after.world = false
  -- The failure of a call leaves its resource as it was; that of the first call leaves both.
  unstopped (error : Error) : stops host before = .error error ->
    viewOf host.client shows after.world = viewOf host.client shows before.world
  undisposed (error : Error) : disposes host (stopped host before) = .error error ->
    shows after.world = shows before.world

theorem close_leaves {host : Host S} {shows : World S -> Option Showing}
    (lawful : Lawful host.client host.terminal shows) (result : Except Error A) (before : Stage S) :
    Closed host shows before result ((Session.close host result).perform before).1
      ((Session.close host result).perform before).2 := by
  obtain ⟨teardown, tears, decides⟩ := close_decides host result before
  have torn := deactivate_torn host before
  rw [tears] at torn
  generalize ((Session.close host result).perform before).2 = after at tears torn
  have left := torn.view lawful
  have running := congrArg View.running left
  have shown := congrArg View.shown left
  constructor
  case decides => exact ⟨teardown, tears, torn, decides, torn.state⟩
  case calls => exact torn.calls
  case client =>
    intro stop
    exact running.trans (by simp [viewLeft, stop, Except.isOk, Except.toBool])
  case terminal =>
    intro stop dispose
    rw [lawful.isOpen]
    have none := shown.trans (by simp [viewLeft, stop, dispose, Except.isOk, Except.toBool] :
      (viewLeft host shows before).shown = none)
    exact congrArg Option.isSome none
  case unstopped =>
    intro error stuck
    rw [left]
    simp [viewLeft, stuck, Except.isOk, Except.toBool]
  case undisposed =>
    intro error stuck
    exact shown.trans (by simp [viewLeft, stuck, Except.isOk, Except.toBool, viewOf])

def crowded (faults : Rehearsal.Faults) : Stage Rehearsal.Props :=
  let terminal : Rehearsal.Playing :=
    { name := "Ansible Info", program := Path.ofText "ansible-doc", arguments := ["copy"] }
  let props : Rehearsal.Props := { faults, running := true, terminal := some terminal, opened := 1 }
  { world := { tree := .empty, workDir := [], inner := props }, state := .ready default }

def rehearsing : Host Rehearsal.Props :=
  Rehearsal.host {} .posix

theorem close_leaves_stuck_terminal :
    Lawful rehearsing.client rehearsing.terminal Rehearsal.shows ∧
      let before := crowded { dispose := true }
      let result : Except Error Unit := .error .toolMissing
      let ended := (Session.close rehearsing result).perform before
      Closed rehearsing Rehearsal.shows before result ended.1 ended.2 ∧
        ended.1 = .error .toolMissing ∧ rehearsing.client.isRunning ended.2.world = false ∧
        rehearsing.terminal.isOpen ended.2.world = true :=
  ⟨Rehearsal.props_lawful, close_leaves Rehearsal.props_lawful _ _, rfl, rfl, rfl⟩

/-- Whatever is left open had a call of its own that failed. -/
structure Thorough (after : Stage S) : Prop where
  client : host.client.isRunning after.world = true -> .clientStopped false ∈ after.journal
  terminal : host.terminal.isOpen after.world = true -> .terminalDisposed false ∈ after.journal

/-- A terminal is left open because the client could not be stopped. It could have been closed. -/
theorem close_strands_terminal :
    Lawful rehearsing.client rehearsing.terminal Rehearsal.shows ∧
      let before := crowded { stop := true }
      let ended := (Session.close rehearsing (.ok 7)).perform before
      ¬ Thorough rehearsing ended.2 ∧ (rehearsing.terminal.dispose before.world).1 = .ok () ∧
        (rehearsing.terminal.dispose ended.2.world).1 = .ok () := by
  refine ⟨Rehearsal.props_lawful, fun thorough => ?_, rfl, rfl⟩
  have tried := thorough.terminal rfl
  have journal : ((Session.close rehearsing (.ok 7)).perform (crowded { stop := true })).2.journal =
      [.clientStopped false] := rfl
  simp [journal] at tried

end AnsibleTooling.Teardown
