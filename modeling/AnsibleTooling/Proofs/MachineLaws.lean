import AnsibleTooling.Machine.Host
import AnsibleTooling.Proofs.Rehearsing

set_option autoImplicit false

namespace AnsibleTooling.Machine

open Resources

variable {A : Type}

def shows (world : World Machine) : Option Showing :=
  world.inner.playing.map Prod.fst

section Client

variable (talk : Rpc.Talk Child A) (connection : Rpc.Connection Child) (world : World Machine)

theorem converse_inner : (converse talk connection world).2.2.inner = world.inner := rfl

theorem hangUp_inner :
    (hangUp connection world).inner = { world.inner with server := none } := rfl

theorem stopServer_inner : (stopServer world).inner = { world.inner with server := none } := by
  unfold stopServer
  split
  next idle => rw [← idle]
  next => rfl

theorem stopServer_server : (stopServer world).inner.server = none :=
  congrArg Machine.server (stopServer_inner world)

theorem withServer_view :
    viewOf client shows (withServer talk world).2 = viewOf client shows world := by
  unfold withServer
  split
  next => rfl
  next running =>
    simp [viewOf, client, shows, setServer, update, running, converse_inner]

theorem startServer_cases (launch : ServerLaunch) (stopped : world.inner.server = none) :
    (∃ error after, startServer launch world = (.error error, after) ∧
        viewOf client shows after = viewOf client shows world) ∨
      ∃ after, startServer launch world = (.ok (), after) ∧
        viewOf client shows after = { viewOf client shows world with running := true } := by
  unfold startServer
  split
  next => exact .inl ⟨_, _, rfl, rfl⟩
  next =>
    dsimp only
    split
    next => exact .inl ⟨_, _, rfl, rfl⟩
    next =>
      split
      next => exact .inr ⟨_, rfl, rfl⟩
      next =>
        refine .inl ⟨_, _, rfl, ?_⟩
        simp [viewOf, client, shows, hangUp_inner, converse_inner, World.log, stopped]

end Client

theorem startTerminal_cases (showing : Showing) (world : World Machine) :
    (∃ error, startTerminal showing world = (.error error, world)) ∨
      ∃ after, startTerminal showing world = (.ok (), after) ∧
        viewOf client shows after = { viewOf client shows world with shown := some showing } := by
  unfold startTerminal
  dsimp only
  split
  next => exact .inl ⟨_, rfl⟩
  next => exact .inr ⟨_, rfl, rfl⟩

theorem disposeTerminal_view (world : World Machine) :
    viewOf client shows (disposeTerminal world) =
      { viewOf client shows world with shown := none } := by
  unfold disposeTerminal
  split
  next closed => simp [viewOf, shows, closed]
  next => rfl

theorem machine_lawful : Lawful client terminal shows := by
  constructor
  case isOpen => simp [terminal, shows]
  case inner => intro world other same; simp [viewOf, client, shows, same]
  case start =>
    intro launch world _
    have starts : client.start launch world = startServer launch (stopServer world) := rfl
    have same : viewOf client shows (stopServer world) =
        { viewOf client shows world with running := false } := by
      simp [viewOf, client, shows, stopServer_inner]
    obtain ⟨_, _, failed, view⟩ | ⟨_, started, view⟩ := startServer_cases _ launch (stopServer_server world)
    · rw [starts, failed, view, same]
      rfl
    · rw [starts, started, view, same]
      rfl
  case stop =>
    intro world
    simp [viewOf, client, shows, stopServer_inner, Except.isOk, Except.toBool]
  case send => exact fun _ _ => withServer_view _
  case await => exact fun _ _ => withServer_view _
  case opens =>
    intro name program arguments world _
    obtain ⟨_, failed⟩ | ⟨_, started, view⟩ := startTerminal_cases { name, program, arguments } world
    · simp [terminal, failed, Except.isOk, Except.toBool]
    · simp [terminal, started, view, Except.isOk, Except.toBool]
  case dispose => exact disposeTerminal_view

theorem run_inner (program : Path) (arguments : List Bytes) (world : World Machine) :
    (run program arguments world).2.inner = world.inner := by
  unfold run
  split <;> rfl

theorem confirm_inner (assumeYes : Bool) (question : String) (world : World Machine) :
    (confirm assumeYes question world).2.inner = world.inner := by
  unfold confirm
  split <;> rfl

theorem machine_apart (assumeYes : Bool) :
    Apart (Machine.host assumeYes) (viewOf client shows) := by
  have runs (program : Path) (arguments : List Bytes) (world : World Machine) :
      viewOf client shows (runner.run program arguments world).2 = viewOf client shows world :=
    machine_lawful.inner _ _ (run_inner program arguments world)
  constructor
  case runs => exact runs
  case confirms =>
    exact fun question world => machine_lawful.inner _ _ (confirm_inner assumeYes question world)
  case installs => exact Managed.installer_apart runs machine_lawful.inner

end AnsibleTooling.Machine
