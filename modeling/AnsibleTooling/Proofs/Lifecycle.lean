import AnsibleTooling.Proofs.MachineLaws
import AnsibleTooling.Proofs.ReportConsistency

set_option autoImplicit false

namespace AnsibleTooling.Lifecycle

open Act Resources

variable {S : Type}

inductive Operation
  | activate
  | startClient
  | restart
  | installTools
  | showMetadata (document : Path) (milliseconds : Nat)
  | resyncInventory (document : Path)
  | listPlugins (view : DocView) (pluginType : String)
  | showPlugin (view : DocView) (pluginType plugin : String)
  | deactivate
  | close (result : Except Error Unit)

def Operation.act (host : Host S) (context : Context) : Operation -> Act S Unit
  | .activate => do let _ <- Session.activate host context
  | .startClient => Session.startClient host context.settings
  | .restart => Session.restart host context.settings
  | .installTools => Session.installTools host context
  | .showMetadata document milliseconds => do
    let _ <- Session.showMetadata host document milliseconds
  | .resyncInventory document => do let _ <- Session.resyncInventory host document
  | .listPlugins view pluginType => do let _ <- Session.listPlugins host view pluginType
  | .showPlugin view pluginType plugin => Session.showPlugin host view pluginType plugin
  | .deactivate => Session.deactivate host
  | .close result => Session.close host result

/-- An operation with all that it is given: only the client and the terminal belong to the
session. -/
structure Visit (S : Type) where
  operation : Operation
  context : Context
  gate : Gate := {}
  runner : Runner S
  confirm : String -> World S -> Except Error Bool × World S
  install : Installer S

variable (client : Client S) (terminal : Terminal S)

def Visit.host (visit : Visit S) : Host S :=
  { runner := visit.runner, confirm := visit.confirm, install := visit.install, client, terminal }

def Visit.leave (visit : Visit S) (stage : Stage S) : Stage S :=
  ((visit.operation.act (visit.host client terminal) visit.context).perform
    { stage with gate := visit.gate }).2

def runAll (visits : List (Visit S)) (stage : Stage S) : Stage S :=
  visits.foldl (fun stage visit => visit.leave client terminal stage) stage

structure Fresh (stage : Stage S) : Prop where
  state : stage.state = .inactive
  journal : stage.journal = []
  stopped : client.isRunning stage.world = false
  closed : terminal.isOpen stage.world = false

def ledgerOf (events : List Event) : Ledger :=
  Ledger.enterAll {} events

/-- The journal of a session keeps to its ledger, and the ledger tells how the session is. -/
structure Account (shows : World S -> Option Showing) (stage : Stage S) : Prop where
  admitted (before : List Event) (event : Event) (after : List Event) :
    stage.journal = before ++ event :: after -> (ledgerOf before).Admits event
  state : (ledgerOf stage.journal).state = stage.state
  running : (ledgerOf stage.journal).running = client.isRunning stage.world
  shown : (ledgerOf stage.journal).shown = shows stage.world
  starts : stage.journal.countP Event.isStart =
    (ledgerOf stage.journal).stops + (client.isRunning stage.world).toNat
  openings : stage.journal.countP Event.isOpening =
    (ledgerOf stage.journal).disposals + (terminal.isOpen stage.world).toNat
  last (showing : Showing) : shows stage.world = some showing ->
    ∃ before after, stage.journal = before ++
        .terminalStarted showing.name showing.program showing.arguments true :: after ∧
      ∀ event ∈ after, event.isOpening = false

section Conduct

variable {related : Stage S -> Stage S -> Prop} [IsPreorder (Stage S) related] {host : Host S}

theorem operation_moves (conduct : Conduct related host) (context : Context)
    (operation : Operation) : Moves related (operation.act host context) := by
  cases operation with
  | activate => exact (conduct.activate_moves context).bind fun _ => moves_pure _
  | startClient => exact conduct.starts context.settings
  | restart => exact conduct.restart_moves context.settings
  | installTools => exact conduct.installTools_moves context
  | showMetadata document milliseconds =>
    exact (conduct.showMetadata_moves document milliseconds).bind fun _ => moves_pure _
  | resyncInventory document =>
    exact (conduct.resyncInventory_moves document).bind fun _ => moves_pure _
  | listPlugins view pluginType =>
    exact (conduct.listPlugins_moves view pluginType).bind fun _ => moves_pure _
  | showPlugin view pluginType plugin => exact conduct.shows view pluginType plugin
  | deactivate => exact conduct.deactivate_moves
  | close result => exact conduct.close_moves result

end Conduct

section Session

variable {client terminal} {shows : World S -> Option Showing}
variable (lawful : Lawful client terminal shows)
include lawful

theorem leave_keeps (visit : Visit S)
    (apart : Apart (visit.host client terminal) (viewOf client shows)) (stage : Stage S) :
    Keeps (viewOf client shows) stage (visit.leave client terminal stage) := by
  -- The gate that an operation is given is no concern of a ledger.
  have given : Keeps (viewOf client shows) stage { stage with gate := visit.gate } :=
    .of_idle (List.append_nil _).symm (by simp) rfl rfl
  have conduct : Conduct (Keeps (viewOf client shows)) (visit.host client terminal) :=
    Resources.conduct lawful apart
  exact given.trans (operation_moves conduct visit.context visit.operation _)

theorem runAll_keeps (visits : List (Visit S))
    (apart : ∀ visit ∈ visits, Apart (visit.host client terminal) (viewOf client shows))
    (stage : Stage S) : Keeps (viewOf client shows) stage (runAll client terminal visits stage) := by
  induction visits generalizing stage with
  | nil => exact refl stage
  | cons visit rest ih =>
    have first := leave_keeps lawful visit (apart visit List.mem_cons_self) stage
    have others := ih (fun visit member => apart visit (List.mem_cons_of_mem _ member))
      (visit.leave client terminal stage)
    exact first.trans others

theorem account_of_ledger {stage : Stage S} (admitted : ({} : Ledger).AdmitsAll stage.journal)
    (agrees : Agrees (viewOf client shows) (ledgerOf stage.journal) stage) :
    Account client terminal shows stage := by
  constructor
  case admitted =>
    intro before event after journal
    rw [journal] at admitted
    exact Ledger.admits_of_admitsAll admitted
  case state => exact agrees.state
  case running => exact congrArg View.running agrees.seen
  case shown => exact congrArg View.shown agrees.seen
  case starts =>
    have balance := Ledger.starts_accounted {} stage.journal admitted
    have running : (ledgerOf stage.journal).running = client.isRunning stage.world :=
      congrArg View.running agrees.seen
    rw [← running]
    simpa [ledgerOf] using balance
  case openings =>
    have balance := Ledger.openings_accounted {} stage.journal admitted
    have shown : (ledgerOf stage.journal).shown = shows stage.world :=
      congrArg View.shown agrees.seen
    rw [lawful.isOpen, ← shown]
    simpa [ledgerOf] using balance
  case last =>
    intro showing shown
    exact Ledger.shown_opened_last stage.journal showing
      ((congrArg View.shown agrees.seen).trans shown)

theorem session_accounts (visits : List (Visit S))
    (apart : ∀ visit ∈ visits, Apart (visit.host client terminal) (viewOf client shows))
    (stage : Stage S) (fresh : Fresh client terminal stage) :
    Account client terminal shows (runAll client terminal visits stage) := by
  -- Nothing stands in the journal at first, so an empty ledger tells how things are.
  obtain ⟨events, journal, keeps⟩ := runAll_keeps lawful visits apart stage
  rw [fresh.journal, List.nil_append] at journal
  have closed : shows stage.world = none := by
    have closed := fresh.closed
    rw [lawful.isOpen] at closed
    simpa using closed
  have initially : Agrees (viewOf client shows) {} stage := by
    refine ⟨fresh.state.symm, ?_⟩
    simp [seenBy, viewOf, fresh.stopped, closed]
  obtain ⟨admitted, agrees⟩ := keeps {} initially
  rw [← journal] at admitted agrees
  exact account_of_ledger lawful admitted agrees

end Session

def bareVisits : List (Visit Rehearsal.Props) :=
  let operations := [.activate, .startClient, .showPlugin .info "module" "copy", .startClient,
    .showPlugin .snippet "module" "copy", .installTools]
  operations.map fun operation => {
    operation
    context := Activation.bareContext
    runner := Rehearsal.runner Activation.bareMachine
    confirm := fun _ world => (Activation.bareMachine.confirmation, world)
    install := Rehearsal.installer Activation.bareMachine .posix }

-- The same on a machine, where nothing is played.
def machineVisit (operation : Operation) : Visit Machine where
  operation
  context := Activation.bareContext
  runner := Machine.runner
  confirm := Machine.confirm true
  install := Managed.installer Machine.runner

def machineStage : Stage Machine :=
  { world := { tree := .empty, workDir := [], inner := { bindings := [] } } }

theorem session_accounts_bareMachine :
    Lawful Rehearsal.client Rehearsal.terminal Rehearsal.shows ∧
    (∀ visit ∈ bareVisits, Apart (visit.host Rehearsal.client Rehearsal.terminal)
      (viewOf Rehearsal.client Rehearsal.shows)) ∧
    Fresh Rehearsal.client Rehearsal.terminal Activation.bareStage ∧
    Account Rehearsal.client Rehearsal.terminal Rehearsal.shows
      (runAll Rehearsal.client Rehearsal.terminal bareVisits Activation.bareStage) ∧
    (runAll Rehearsal.client Rehearsal.terminal bareVisits
      Activation.bareStage).journal.countP Event.isStart = 3 ∧
    ∀ operations : List Operation, Account Machine.client Machine.terminal Machine.shows
      (runAll Machine.client Machine.terminal (operations.map machineVisit) machineStage) := by
  have apart : ∀ visit ∈ bareVisits, Apart (visit.host Rehearsal.client Rehearsal.terminal)
      (viewOf Rehearsal.client Rehearsal.shows) :=
    List.forall_mem_map.mpr fun _ _ => Rehearsal.host_apart Activation.bareMachine .posix
  have fresh : Fresh Rehearsal.client Rehearsal.terminal Activation.bareStage :=
    ⟨rfl, rfl, rfl, rfl⟩
  refine ⟨Rehearsal.props_lawful, apart, fresh,
    session_accounts Rehearsal.props_lawful bareVisits apart _ fresh, by decide +kernel, ?_⟩
  intro operations
  have apart : ∀ visit ∈ operations.map machineVisit,
      Apart (visit.host Machine.client Machine.terminal) (viewOf Machine.client Machine.shows) :=
    List.forall_mem_map.mpr fun _ _ => Machine.machine_apart true
  exact session_accounts Machine.machine_lawful _ apart _ ⟨rfl, rfl, rfl, rfl⟩

end AnsibleTooling.Lifecycle
