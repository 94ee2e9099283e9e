import AnsibleTooling.Proofs.Conduct
import AnsibleTooling.Proofs.Course
import AnsibleTooling.Proofs.Ledger

set_option autoImplicit false

namespace AnsibleTooling.Resources

open Act

variable {S : Type}

structure View where
  running : Bool
  shown : Option Showing

def viewOf (client : Client S) (shows : World S -> Option Showing) (world : World S) : View :=
  { running := client.isRunning world, shown := shows world }

/-- How a client and a terminal behave, of which `shows` tells what the terminal is open for. They
are kept in the inner part of the world. A successful call does what it is for, a failing one leaves
its resource as it was, and neither has to do with the other. -/
structure Lawful (client : Client S) (terminal : Terminal S) (shows : World S -> Option Showing) :
    Prop where
  isOpen (world : World S) : terminal.isOpen world = (shows world).isSome
  inner (world other : World S) : world.inner = other.inner ->
    viewOf client shows world = viewOf client shows other
  start (launch : ServerLaunch) (world : World S) : client.isRunning world = false ->
    viewOf client shows (client.start launch world).2 =
      { viewOf client shows world with running := (client.start launch world).1.isOk }
  stop (world : World S) :
    viewOf client shows (client.stop world).2 =
      if (client.stop world).1.isOk then { viewOf client shows world with running := false }
      else viewOf client shows world
  send (method : String) (parameters : Json.Value) (world : World S) :
    viewOf client shows (client.send method parameters world).2 = viewOf client shows world
  await (method : String) (milliseconds : Nat) (world : World S) :
    viewOf client shows (client.await method milliseconds world).2 = viewOf client shows world
  opens (name : String) (program : Path) (arguments : List String) (world : World S) :
    shows world = none ->
    viewOf client shows (terminal.start name program arguments world).2 =
      if (terminal.start name program arguments world).1.isOk then
        { viewOf client shows world with shown := some { name, program, arguments } }
      else viewOf client shows world
  -- Of failing disposals this is the law of the part, not of a machine, where none fails.
  dispose (world : World S) :
    viewOf client shows (terminal.dispose world).2 =
      if (terminal.dispose world).1.isOk then { viewOf client shows world with shown := none }
      else viewOf client shows world

structure Apart (host : Host S) (view : World S -> View) : Prop where
  runs (program : Path) (arguments : List Bytes) (world : World S) :
    view (host.runner.run program arguments world).2 = view world
  confirms (question : String) (world : World S) : view (host.confirm question world).2 = view world
  installs (plan : InstallPlan) (world : World S) : view (host.install plan world).world = view world

def seenBy (ledger : Ledger) : View :=
  { running := ledger.running, shown := ledger.shown }

structure Agrees (view : World S -> View) (ledger : Ledger) (stage : Stage S) : Prop where
  state : ledger.state = stage.state
  seen : seenBy ledger = view stage.world

/-- A stage leads to a later one by events that a ledger admits, and then it still tells how things
are. -/
def Keeps (view : World S -> View) (before after : Stage S) : Prop :=
  ∃ events, after.journal = before.journal ++ events ∧
    ∀ ledger, Agrees view ledger before ->
      ledger.AdmitsAll events ∧ Agrees view (ledger.enterAll events) after

def isIdle : Event -> Bool
  | .became _ | .clientStarted .. | .clientStopped _ | .terminalStarted .. | .terminalDisposed _ =>
    false
  | _ => true

theorem idle_admitted (ledger : Ledger) {events : List Event}
    (idle : ∀ event ∈ events, isIdle event = true) :
    ledger.AdmitsAll events ∧ ledger.enterAll events = ledger := by
  induction events generalizing ledger with
  | nil => exact ⟨trivial, rfl⟩
  | cons event rest ih =>
    have first := idle event List.mem_cons_self
    have later := fun ledger => ih ledger fun event member => idle event (List.mem_cons_of_mem _ member)
    have same : ledger.enter event = ledger := by
      cases event <;> simp_all [isIdle, Ledger.enter]
    have admitted : ledger.Admits event := by
      cases event <;> simp_all [isIdle, Ledger.Admits]
    rw [Ledger.AdmitsAll, Ledger.enterAll_cons, same]
    exact ⟨⟨admitted, (later ledger).1⟩, (later ledger).2⟩

theorem idle_of_minor {events : List Event} (minor : ∀ event ∈ events, event.isMinor = true) :
    ∀ event ∈ events, isIdle event = true := by
  intro event member
  have only := minor event member
  cases event <;> simp_all [Event.isMinor, isIdle]

theorem idle_records (records : List LogRecord) :
    ∀ event ∈ records.map Event.logged, isIdle event = true :=
  idle_of_minor (minor_records records)

theorem idle_of_episode {host : Host S} {context : Context} {python : PythonPaths}
    {world later : World S} {result : Except Error Unit} {events : List Event}
    (episode : Installation.Episode host context python world result later events) :
    ∀ event ∈ events, isIdle event = true :=
  episode.forall_events host context python rfl (fun _ => rfl) (fun _ => rfl) (fun _ => rfl)
    (fun _ => rfl) (fun _ => rfl) fun _ => rfl

namespace Keeps

variable {view : World S -> View}

theorem of_idle {before after : Stage S} {events : List Event}
    (journal : after.journal = before.journal ++ events)
    (idle : ∀ event ∈ events, isIdle event = true) (state : after.state = before.state)
    (same : view after.world = view before.world) : Keeps view before after := by
  refine ⟨events, journal, fun ledger agrees => ?_⟩
  obtain ⟨admitted, unchanged⟩ := idle_admitted ledger idle
  rw [unchanged]
  exact ⟨admitted, agrees.state.trans state.symm, agrees.seen.trans same.symm⟩

theorem trans {before middle after : Stage S} (first : Keeps view before middle)
    (second : Keeps view middle after) : Keeps view before after := by
  obtain ⟨events, journal, keeps⟩ := first
  obtain ⟨more, journalMore, keepsMore⟩ := second
  refine ⟨events ++ more, by rw [journalMore, journal, List.append_assoc], fun ledger agrees => ?_⟩
  -- The ledger that comes out of the first part is the one that goes into the second.
  obtain ⟨admitted, still⟩ := keeps ledger agrees
  obtain ⟨admittedMore, stillMore⟩ := keepsMore _ still
  rw [Ledger.admitsAll_append, Ledger.enterAll_append]
  exact ⟨⟨admitted, admittedMore⟩, stillMore⟩

instance : IsPreorder (Stage S) (Keeps view) where
  refl stage := of_idle (List.append_nil _).symm (by simp) rfl rfl
  trans _ _ _ := trans

end Keeps

section Steps

variable {shows : World S -> Option Showing} {host : Host S}
theorem record_keeps (event : Event) (idle : isIdle event = true) :
    Moves (Keeps (viewOf host.client shows)) (record event : Act S Unit) :=
  fun _ => .of_idle rfl (by simpa using idle) rfl rfl

variable (lawful : Lawful host.client host.terminal shows)
include lawful

theorem view_settled (world : World S) :
    viewOf host.client shows world.settled = viewOf host.client shows world :=
  lawful.inner _ _ rfl

theorem recorded_keeps {A : Type} (event : Bool -> Event) (idle : ∀ success, isIdle (event success) = true)
    (step : World S -> Except Error A × World S)
    (same : ∀ world, viewOf host.client shows (step world).2 = viewOf host.client shows world) :
    Moves (Keeps (viewOf host.client shows)) (recorded event step) := by
  intro stage
  rw [perform_recorded]
  refine .of_idle rfl ?_ rfl ?_
  · intro happened member
    rcases List.mem_append.mp member with logged | last
    · exact idle_records _ happened logged
    · rw [List.mem_singleton.mp last]
      exact idle _
  · rw [Stage.extend_world, view_settled lawful, same]

theorem ofWorld_keeps {A : Type} (step : World S -> Except Error A × World S)
    (same : ∀ world, viewOf host.client shows (step world).2 = viewOf host.client shows world) :
    Moves (Keeps (viewOf host.client shows)) (ofWorld step) := by
  intro stage
  rw [perform_ofWorld]
  refine .of_idle rfl (idle_records _) rfl ?_
  rw [Stage.extend_world, view_settled lawful, same]

theorem recorded_enters {A : Type} (event : Bool -> Event)
    (step : World S -> Except Error A × World S) (stage : Stage S)
    (state : ∀ ledger success, (Ledger.enter ledger (event success)).state = ledger.state)
    (admitted : ∀ ledger, Agrees (viewOf host.client shows) ledger stage ->
      ledger.Admits (event (step stage.world).1.isOk))
    (entered : ∀ ledger, seenBy ledger = viewOf host.client shows stage.world ->
      seenBy (ledger.enter (event (step stage.world).1.isOk)) =
        viewOf host.client shows (step stage.world).2) :
    Keeps (viewOf host.client shows) stage ((recorded event step).perform stage).2 := by
  rw [perform_recorded]
  refine ⟨_, rfl, fun ledger agrees => ?_⟩
  -- What the step has logged comes first, and leaves the ledger as it is.
  obtain ⟨before, unchanged⟩ := idle_admitted ledger (idle_records (step stage.world).2.records)
  rw [Ledger.admitsAll_append, Ledger.enterAll_append, unchanged]
  refine ⟨⟨before, admitted ledger agrees, trivial⟩, ?_, ?_⟩
  · exact (state _ _).trans agrees.state
  · exact (entered ledger agrees.seen).trans (view_settled lawful _).symm

theorem stopClient_keeps :
    Moves (Keeps (viewOf host.client shows)) (Session.stopClient host) := by
  intro stage
  refine recorded_enters lawful _ _ stage ?_ (fun _ _ => trivial) fun ledger seen => ?_
  · intro ledger success
    cases success <;> rfl
  · rw [lawful.stop, ← seen]
    cases (host.client.stop stage.world).1.isOk <;> rfl

theorem disposeTerminal_keeps :
    Moves (Keeps (viewOf host.client shows)) (Session.disposeTerminal host) := by
  intro stage
  refine recorded_enters lawful _ _ stage ?_ (fun _ _ => trivial) fun ledger seen => ?_
  · intro ledger success
    cases success <;> rfl
  · rw [lawful.dispose, ← seen]
    cases (host.terminal.dispose stage.world).1.isOk <;> rfl

theorem pause_stops {stage after : Stage S}
    (paused : (pause host).perform stage = (.ok (), after)) :
    host.client.isRunning after.world = false ∧ after.state = stage.state := by
  rw [pause_perform] at paused
  split at paused
  next running =>
    have law := lawful.stop stage.world
    rw [Session.stopClient, perform_recorded, Prod.mk.injEq] at paused
    obtain ⟨done, rfl⟩ := paused
    rw [done] at law
    exact ⟨congrArg View.running ((view_settled lawful _).trans law), rfl⟩
  next stopped =>
    cases paused
    exact ⟨by simpa using stopped, rfl⟩

theorem disposeTerminal_closes {stage after : Stage S}
    (disposed : (Session.disposeTerminal host).perform stage = (.ok (), after)) :
    shows after.world = none := by
  have law := lawful.dispose stage.world
  rw [Session.disposeTerminal, perform_recorded, Prod.mk.injEq] at disposed
  obtain ⟨done, rfl⟩ := disposed
  rw [done] at law
  exact congrArg View.shown ((view_settled lawful _).trans law)

def launchFor (settings : Settings) (world : World S) (report : Report) : ServerLaunch :=
  { command := Server.command settings (Files.isFile world.tree world.workDir)
      report.serverPathPrefix
    configuration := report.configuration
    disabledFeatures := Server.disabledFeatures settings
    rootUri := if world.hasWorkDir then some (Uri.directory world.workPath) else none }

omit lawful in
theorem command_pathPrefix (settings : Settings) (isFile : Path -> Bool)
    (pathPrefix : Option Path) :
    (Server.command settings isFile pathPrefix).pathPrefix = pathPrefix := by
  unfold Server.command
  split <;> rfl

omit lawful in
theorem launch_ready (settings : Settings) {stage : Stage S} {report : Report}
    (ready : stage.state = .ready report) :
    (Session.launch settings).perform stage =
      (.ok (launchFor settings stage.world report), stage) := by
  simp only [Session.launch, Session.require, perform_bind, Session.requireNamed_perform, ready,
    SessionState.report?, perform_world, perform_pure]
  rfl

omit lawful in
theorem launch_unready (settings : Settings) {stage : Stage S}
    (unready : stage.state.report? = none) :
    (Session.launch settings).perform stage =
      (.error (.commandUnavailable Command.serverStart.id), stage) := by
  simp only [Session.launch, Session.require, perform_bind, Session.requireNamed_perform, unready]

theorem start_keeps (launch : ServerLaunch) (report : Report) (stage : Stage S)
    (stopped : host.client.isRunning stage.world = false) (ready : stage.state = .ready report)
    (configured : launch.configuration = report.configuration)
    (prefixed : launch.command.pathPrefix = report.serverPathPrefix) :
    Keeps (viewOf host.client shows) stage
      ((recorded (.clientStarted launch) (host.client.start launch)).perform stage).2 := by
  refine recorded_enters lawful _ _ stage ?_ ?_ ?_
  · intro ledger success
    cases success <;> rfl
  · intro ledger agrees
    have running : ledger.running = false := (congrArg View.running agrees.seen).trans stopped
    exact ⟨running, report, agrees.state.trans ready, configured, prefixed⟩
  · intro ledger seen
    have running : ledger.running = false := (congrArg View.running seen).trans stopped
    rw [lawful.start launch stage.world stopped, ← seen]
    cases (host.client.start launch stage.world).1.isOk with
    | true => rfl
    | false => simp [Ledger.enter, seenBy, running]

theorem startClient_keeps (settings : Settings) :
    Moves (Keeps (viewOf host.client shows)) (Session.startClient host settings) := by
  intro stage
  rw [startClient_eq]
  cases state : stage.state with
  | ready report =>
    rw [perform_bind_ok (launch_ready settings state)]
    have keeps := Session.pause_moves (stopClient_keeps lawful) stage
    -- If a running client cannot be stopped, nothing is started.
    rcases paused : (pause host).perform stage with ⟨_ | _, after⟩ <;> rw [paused] at keeps
    · rw [perform_bind_error paused]
      exact keeps
    · obtain ⟨stopped, same⟩ := pause_stops lawful paused
      rw [perform_bind_ok paused, launchClient, perform_bind_ok (perform_log ..)]
      exact keeps.trans ((record_keeps _ rfl after).trans
        (start_keeps lawful _ report _ stopped (same.trans state) rfl (command_pathPrefix _ _ _)))
  | _ =>
    rw [perform_bind_error (launch_unready settings (by rw [state]; rfl))]
    exact refl stage

theorem open_keeps (name : String) (program : Path) (arguments : List String) (stage : Stage S)
    (closed : shows stage.world = none) :
    Keeps (viewOf host.client shows) stage
      ((Session.startTerminal host name program arguments).perform stage).2 := by
  refine recorded_enters lawful _ _ stage ?_ ?_ ?_
  · intro ledger success
    cases success <;> rfl
  · intro ledger agrees
    exact (congrArg View.shown agrees.seen).trans closed
  · intro ledger seen
    rw [lawful.opens name program arguments stage.world closed, ← seen]
    cases (host.terminal.start name program arguments stage.world).1.isOk <;> rfl

theorem showPlugin_keeps (view : DocView) (pluginType plugin : String) :
    Moves (Keeps (viewOf host.client shows)) (Session.showPlugin host view pluginType plugin) := by
  refine (moves_ofExcept _).bind fun _ => ?_
  refine (Session.docTool_moves view).bind fun tool => ?_
  intro stage
  rw [perform_bind, perform_world]
  -- An open terminal is disposed of first; if that fails, it stays as it is.
  simp only [lawful.isOpen]
  cases shown : shows stage.world with
  | none => exact open_keeps lawful _ _ _ stage shown
  | some showing =>
    have keeps := disposeTerminal_keeps lawful stage
    simp only [Option.isSome_some, if_true, perform_bind]
    cases disposed : (Session.disposeTerminal host).perform stage with
    | mk result after =>
      rw [disposed] at keeps
      cases result with
      | error error => exact keeps
      | ok _ =>
        exact keeps.trans (open_keeps lawful _ _ _ after (disposeTerminal_closes lawful disposed))

omit lawful in
theorem setState_keeps (state : SessionState) :
    Moves (Keeps (viewOf host.client shows)) (Session.setState state : Act S Unit) :=
  fun _ => ⟨[.became state], rfl, fun _ agrees =>
    ⟨⟨trivial, trivial⟩, ⟨rfl, agrees.seen⟩⟩⟩

variable (apart : Apart host (viewOf host.client shows))
include apart

theorem install_keeps (context : Context) (python : PythonPaths) :
    Moves (Keeps (viewOf host.client shows)) (Installation.install host context python) := by
  refine Installation.install_moves host context python refl ?_
  intro stage result world events _ episode
  have same := episode.same_view host context python (view_settled lawful) apart.confirms
    apart.installs
  exact .of_idle rfl (idle_of_episode episode) rfl same

theorem conduct : Conduct (Keeps (viewOf host.client shows)) host where
  logged _ := record_keeps _ rfl
  noted _ _ := record_keeps _ rfl
  runs program arguments :=
    (record_keeps _ rfl).bind fun _ => ofWorld_keeps lawful _ (apart.runs program arguments)
  stores _ := ofWorld_keeps lawful _ fun _ => lawful.inner _ _ rfl
  installs := install_keeps lawful apart
  becomes := setState_keeps
  stops := stopClient_keeps lawful
  starts := startClient_keeps lawful
  sends method parameters :=
    recorded_keeps lawful _ (fun _ => rfl) _ (lawful.send method parameters)
  awaits method milliseconds := ofWorld_keeps lawful _ (lawful.await method milliseconds)
  disposes := disposeTerminal_keeps lawful
  shows := showPlugin_keeps lawful

end Steps

end AnsibleTooling.Resources
