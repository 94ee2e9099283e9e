import AnsibleTooling.Proofs.Resources
import AnsibleTooling.Rehearsal

set_option autoImplicit false

namespace AnsibleTooling

open Resources

namespace Managed

variable {S V : Type} {runner : Runner S} {view : World S -> V}

theorem step_apart (runs : ∀ program arguments world,
      view (runner.run program arguments world).2 = view world)
    (program : Path) (arguments : List Bytes) (next : World S -> Attempt S)
    (goesOn : ∀ world, view (next world).world = view world) (world : World S) :
    view (step runner program arguments next world).world = view world := by
  have ran := runs program arguments world
  unfold step
  dsimp only
  split
  · exact ran
  · split
    · exact (goesOn _).trans ran
    · exact ran

theorem steps_apart (runs : ∀ program arguments world,
      view (runner.run program arguments world).2 = view world)
    (plan : InstallPlan) (world : World S) : view (steps runner plan world).world = view world :=
  step_apart runs _ _ _ (step_apart runs _ _ _ fun _ => rfl) world

theorem installer_apart (runs : ∀ program arguments world,
      view (runner.run program arguments world).2 = view world)
    (inner : ∀ world other : World S, world.inner = other.inner -> view world = view other)
    (plan : InstallPlan) (world : World S) :
    view (installer runner plan world).world = view world := by
  unfold installer
  split
  · split
    · rfl
    · exact (steps_apart runs plan _).trans (inner _ _ rfl)
  · exact steps_apart runs plan world

end Managed

namespace Rehearsal

def shows (world : World Props) : Option Showing :=
  world.inner.terminal.map fun playing =>
    { name := playing.name, program := playing.program, arguments := playing.arguments }

theorem props_lawful : Lawful client terminal shows := by
  constructor
  case isOpen => simp [terminal, shows]
  case inner => intro world other same; simp [viewOf, client, shows, same]
  case start =>
    intro launch world stopped
    simp only [client] at stopped
    simp only [client, viewOf]
    split <;> simp [shows, fail, update, Except.isOk, Except.toBool, stopped]
  case stop =>
    intro world
    simp only [client, viewOf]
    split <;> simp [shows, fail, update, Except.isOk, Except.toBool]
  case send =>
    intro method parameters world
    simp only [client, viewOf]
    split <;> rfl
  case await =>
    intro method milliseconds world
    simp only [client, viewOf]
    split <;> rfl
  case opens =>
    intro name program arguments world closed
    simp only [terminal, viewOf]
    split <;> simp [client, shows, fail, update, Except.isOk, Except.toBool]
  case dispose =>
    intro world
    simp only [terminal, viewOf]
    split <;> simp [client, shows, fail, update, Except.isOk, Except.toBool]

theorem runner_apart (script : Script) (program : Path) (arguments : List Bytes)
    (world : World Props) :
    ((runner script).run program arguments world).2.inner = world.inner := by
  unfold runner
  dsimp only
  split <;> rfl

theorem layOut_apart (platform : Platform) (tools : List String) (plan : InstallPlan)
    (world : World Props) : (layOut platform tools plan world).2.inner = world.inner := by
  unfold layOut
  dsimp only
  split <;> rfl

theorem host_apart (script : Script) (platform : Platform) :
    Apart (host script platform) (viewOf client shows) := by
  -- Commands only place files, and the props are not among the files.
  have runs (program : Path) (arguments : List Bytes) (world : World Props) :
      viewOf client shows ((runner script).run program arguments world).2 =
        viewOf client shows world :=
    props_lawful.inner _ _ (runner_apart script program arguments world)
  constructor
  case runs => exact runs
  case confirms => exact fun _ _ => rfl
  case installs =>
    intro plan world
    simp only [host, installer]
    cases script.installing with
    | managed => exact Managed.installer_apart runs props_lawful.inner plan world
    | pretended delay failure tools =>
      cases failure with
      | some error => rfl
      | none => exact props_lawful.inner _ _ (layOut_apart platform tools plan world)

end Rehearsal

end AnsibleTooling
