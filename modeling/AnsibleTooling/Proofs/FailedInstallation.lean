import AnsibleTooling.Proofs.Renewal

set_option autoImplicit false

namespace AnsibleTooling.OnDemand

open Act

variable {S : Type} (host : Host S) (context : Context)

def attempt : Act S (Except Error Unit) := do
  let python <- Session.installPython host context
  pause host
  outcome (Installation.install host context python)

theorem pause_same_state : Moves SameState (pause host) :=
  Session.pause_moves (recorded_same_state _ _)

theorem installPython_looks {before searched : Stage S} {found : Except Error PythonPaths}
    (looks : (Session.installPython host context).perform before = (found, searched)) :
    searched.world = before.world ∧ searched.state = before.state := by
  obtain ⟨reached, ⟨events, _, runs⟩, same, performed⟩ := installPython_perform host context before
  rw [performed, Prod.mk.injEq] at looks
  obtain ⟨-, rfl⟩ := looks
  exact ⟨same, by rw [runs, Stage.extend_state]⟩

def conclude (wasRunning : Bool) (left : Stage S) : Except Error Unit -> Except Error Unit × Stage S
  | .error error => (resume host context wasRunning (.error error)).perform left
  | .ok _ => renew host context wasRunning left

theorem reinstall_concludes (python : PythonPaths) (wasRunning : Bool) (paused : Stage S) :
    (reinstall host context python wasRunning).perform paused =
      conclude host context wasRunning
        ((Installation.install host context python).perform paused).2
        ((Installation.install host context python).perform paused).1 := by
  rw [reinstall_perform]
  rcases (Installation.install host context python).perform paused with ⟨error | _, left⟩ <;> rfl

variable {host context}
variable {before left : Stage S}

theorem installTools_attempts {installed : Except Error Unit}
    (attempted : (attempt host context).perform before = (.ok installed, left)) :
    left.state = before.state ∧
      (Session.installTools host context).perform before =
        conclude host context (host.client.isRunning before.world) left installed := by
  rw [attempt] at attempted
  rcases perform_bind_cases attempted with ⟨_, _, no⟩ | ⟨python, searched, looks, attempted⟩
  · cases no
  rcases perform_bind_cases attempted with ⟨_, _, no⟩ | ⟨_, paused, pauses, attempted⟩
  · cases no
  obtain ⟨world, state⟩ := installPython_looks host context looks
  have stays := pause_same_state host searched
  have kept := install_same_state host context python paused
  rw [pauses] at stays
  rw [perform_outcome, Prod.mk.injEq, Except.ok.injEq] at attempted
  obtain ⟨rfl, rfl⟩ := attempted
  refine ⟨kept.trans (stays.trans state), ?_⟩
  rw [← reinstall_concludes, Session.installTools, perform_bind_ok looks,
    perform_bind_ok (Session.clientIsRunning_perform host searched), world]
  rw [pause_perform, world] at pauses
  cases running : host.client.isRunning before.world with
  | true =>
    simp only [running, if_true] at pauses ⊢
    exact perform_bind_ok pauses
  | false =>
    simp only [running, Bool.false_eq_true, if_false] at pauses ⊢
    cases pauses
    rfl

/-- What is reported of an installation that has failed. Only the last way is not its own error. -/
inductive Reported (host : Host S) (context : Context) (before left : Stage S) (error : Error) :
    Except Error Unit -> Stage S -> Prop
  | unresumed (rests : host.client.isRunning before.world = false ∨ before.state.report? = none) :
    Reported host context before left error (.error error) left
  | resumed (report : Report) (after : Stage S) (ran : host.client.isRunning before.world = true)
    (ready : before.state = .ready report)
    (starts : (Session.startClient host context.settings).perform left = (.ok (), after)) :
    Reported host context before left error (.error error) after
  | overshadowed (report : Report) (other : Error) (after : Stage S)
    (ran : host.client.isRunning before.world = true) (ready : before.state = .ready report)
    (starts : (Session.startClient host context.settings).perform left = (.error other, after)) :
    Reported host context before left error (.error other) after

theorem installTools_reports {error : Error}
    (failed : (attempt host context).perform before = (.ok (.error error), left)) :
    left.state = before.state ∧
      Reported host context before left error ((Session.installTools host context).perform before).1
        ((Session.installTools host context).perform before).2 := by
  obtain ⟨kept, performed⟩ := installTools_attempts failed
  refine ⟨kept, ?_⟩
  rw [performed, conclude, resume_perform, kept]
  cases running : host.client.isRunning before.world with
  | false => exact .unresumed (.inl running)
  | true =>
    cases state : before.state with
    | ready report =>
      rcases starts : (Session.startClient host context.settings).perform left with
        ⟨other | _, after⟩
      · exact .overshadowed report other after running state starts
      · exact .resumed report after running state starts
    | _ => exact .unresumed (.inr (by rw [state]; rfl))

def noNetwork : Error :=
  .installFailed "pip" "no network"

def failingMachine : Host Rehearsal.Props :=
  let script := { Activation.bareMachine with installing := .pretended 0 (some noNetwork) [] }
  Rehearsal.host script .posix

def failingSession (faults : Rehearsal.Faults) : Stage Rehearsal.Props :=
  { Activation.bareStage with
    world := { Activation.bareStage.world with inner := { faults, running := true } }
    state := .ready default }

theorem installTools_reports_failingMachine :
    ∃ left, (attempt failingMachine Activation.bareContext).perform (failingSession {}) =
        (.ok (.error noNetwork), left) ∧
      let ended := (Session.installTools failingMachine Activation.bareContext).perform
        (failingSession {})
      left.state = (failingSession {}).state ∧
        Reported failingMachine Activation.bareContext (failingSession {}) left noNetwork ended.1
          ended.2 ∧
        ended.1 = .error noNetwork ∧ failingMachine.client.isRunning ended.2.world = true := by
  obtain ⟨kept, reported⟩ := @installTools_reports _ failingMachine Activation.bareContext
    (failingSession {}) _ noNetwork rfl
  exact ⟨_, rfl, kept, reported, rfl, rfl⟩

/-- Only the failure to start the client again is heard of, although the installation has failed. -/
theorem installTools_overshadows :
    let before := failingSession { start := true }
    let ended := (Session.installTools failingMachine Activation.bareContext).perform before
    ended.1 = .error (.languageServer "initialize timed out") ∧
      ¬ ∀ (left : Stage Rehearsal.Props) (error : Error),
        (attempt failingMachine Activation.bareContext).perform before =
          (.ok (.error error), left) -> ended.1 = .error error := by
  refine ⟨rfl, fun heard => ?_⟩
  have other := heard _ noNetwork rfl
  cases other

end AnsibleTooling.OnDemand
