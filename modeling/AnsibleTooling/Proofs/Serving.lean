import AnsibleTooling.Proofs.Conversation
import AnsibleTooling.Proofs.Exchange
import AnsibleTooling.Proofs.MachineLaws

set_option autoImplicit false

namespace AnsibleTooling.Machine

open Rpc (Connection Phase Life Talk arrivals notifications)

inductive Child.Starts (launch : ServerLaunch) : Child -> Prop
  | start (run : Run) : Starts launch { run, listener := { configuration := launch.configuration } }

inductive Child.Goes (goes : Run -> Run -> Prop) : Child -> Rpc.Arrival -> Child -> Prop
  | runs (child : Child) {run : Run} (went : goes child.run run) :
    Goes goes child {} { child with run }
  | hears (child : Child) : Goes goes child child.hear.1 child.hear.2

/-- All that a conversation can come to with a server that goes on in given ways. -/
abbrev SpokenWith (goes : Run -> Run -> Prop) (clientId : Nat) (launch : ServerLaunch) :
    Phase -> Connection Child -> Prop :=
  Life Child.wire clientId launch (Child.Starts launch) (Child.Goes goes)

abbrev Spoken : Nat -> ServerLaunch -> Phase -> Connection Child -> Prop :=
  SpokenWith fun _ _ => True

def Meets (goes : Run -> Run -> Prop) (configuration : Configuration)
    (connection : Connection Child) : Prop :=
  ∃ streams, Reached goes configuration connection.history streams connection.far

variable {goes : Run -> Run -> Prop} {configuration : Configuration} {connection : Connection Child}

theorem Meets.sent (meets : Meets goes configuration connection) (message : Rpc.Message) :
    Meets goes configuration (Talk.sent connection Child.wire message) := by
  obtain ⟨streams, reached⟩ := meets
  obtain ⟨_, _, puts⟩ := connection.far.write_eq message
  exact ⟨_, reached.writes message puts⟩

theorem Meets.asked (meets : Meets goes configuration connection) (method : String)
    (parameters : Json.Value) :
    Meets goes configuration (Talk.asked connection Child.wire method parameters) :=
  meets.sent _

section

variable (follows : ∀ {run next : Run}, Run.Goes run next -> goes run next)
include follows

theorem Meets.waited (meets : Meets goes configuration connection) {arrival : Rpc.Arrival}
    {far : Child} (overheard : Talk.Overheard Child.wire connection.far arrival far)
    (rest : List Rpc.Message) (passed : List Rpc.Notification) :
    Meets goes configuration (Talk.waited connection arrival far rest passed) := by
  cases overheard with
  | nothing => simpa [Meets, Talk.waited, Talk.overhear, Connection.deliver] using meets
  | listened wanted milliseconds =>
    obtain ⟨streams, reached⟩ := meets
    exact reached.overhears follows wanted milliseconds

theorem Meets.request (meets : Meets goes configuration connection) (method : String)
    (parameters : Json.Value) (milliseconds : Nat) :
    Meets goes configuration
      ((Talk.request Child.wire method parameters milliseconds).perform connection).2 := by
  have asked := meets.asked method parameters
  have answered := Talk.request_answered connection Child.wire method parameters milliseconds
  generalize (Talk.request Child.wire method parameters milliseconds).perform connection = ended
    at answered
  cases answered with
  | unwritten => exact asked
  | answered _ overheard => exact asked.waited follows overheard _ _
  | unanswered _ overheard => exact asked.waited follows overheard _ _

theorem Meets.await (meets : Meets goes configuration connection) (method : String)
    (milliseconds : Nat) :
    Meets goes configuration ((Talk.await Child.wire method milliseconds).perform connection).2 := by
  have awaited := Talk.await_awaited connection Child.wire method milliseconds
  generalize (Talk.await Child.wire method milliseconds).perform connection = ended at awaited
  cases awaited with
  | kept => exact meets
  | found _ overheard => exact meets.waited follows overheard _ _
  | missed _ overheard => exact meets.waited follows overheard _ _

theorem Meets.handshake (meets : Meets goes configuration connection) (clientId : Nat)
    (launch : ServerLaunch) :
    Meets goes configuration
      ((Talk.handshake Child.wire clientId launch).perform connection).2 := by
  have asked := meets.request follows "initialize" (Talk.openingParameters clientId launch)
    Talk.requestLimit
  rw [Rpc.perform_handshake]
  split
  case h_1 performed => rwa [performed] at asked
  case h_2 performed =>
    rw [performed] at asked
    split
    case h_1 => exact asked.sent _
    case h_2 => exact (asked.sent _).sent _

theorem Meets.farewell (meets : Meets goes configuration connection) :
    Meets goes configuration ((Talk.farewell Child.wire).perform connection).2 := by
  obtain ⟨between, after, performed⟩ := Rpc.perform_farewell Child.wire connection
  rw [performed]
  have asked : Meets goes configuration { ((Talk.request Child.wire "shutdown" .null
      Talk.shutdownLimit).perform connection).2 with records := between } :=
    meets.request follows "shutdown" .null Talk.shutdownLimit
  exact asked.sent Rpc.exitNotice

theorem spoken_meets {clientId : Nat} {launch : ServerLaunch} {phase : Phase}
    (spoken : SpokenWith goes clientId launch phase connection) :
    Meets goes launch.configuration connection := by
  have begun {far : Child} (start : Child.Starts launch far) :
      Meets goes launch.configuration { far } := by
    obtain ⟨run⟩ := start
    exact ⟨_, .begun run⟩
  induction spoken with
  | refused start opening =>
    have opened := (begun start).handshake follows clientId launch
    rwa [opening] at opened
  | opened start opening =>
    have opened := (begun start).handshake follows clientId launch
    rwa [opening] at opened
  | notifies _ method parameters ih =>
    rw [Talk.perform_notify]
    exact ih.sent _
  | awaits _ method milliseconds ih => exact ih.await follows method milliseconds
  | ends _ ih => exact ih.farewell follows
  | goes _ went ih =>
    obtain ⟨streams, reached⟩ := ih
    cases went with
    | runs went =>
      refine ⟨streams, ?_⟩
      simpa [Connection.deliver] using reached.runs went
    | hears =>
      obtain ⟨put, puts⟩ := Child.hear_puts _
      exact ⟨_, reached.hears puts⟩
  | logs _ _ ih => exact ih

end

/-- The client of a machine is used, while all else goes on in any way. Kept are the notifications
that callers were given since a server was last started or stopped. -/
inductive Dealt : World Machine -> List Rpc.Notification -> Prop
  | begun {world : World Machine} (idle : world.inner.server = none) : Dealt world []
  | starts {world : World Machine} {returned : List Rpc.Notification}
    (before : Dealt world returned) (launch : ServerLaunch) :
    Dealt (client.start launch world).2 []
  | stops {world : World Machine} {returned : List Rpc.Notification}
    (before : Dealt world returned) : Dealt (client.stop world).2 []
  | sends {world : World Machine} {returned : List Rpc.Notification}
    (before : Dealt world returned) (method : String) (parameters : Json.Value) :
    Dealt (client.send method parameters world).2 returned
  | awaits {world : World Machine} {returned : List Rpc.Notification}
    (before : Dealt world returned) (method : String) (milliseconds : Nat) :
    Dealt (client.await method milliseconds world).2
      (returned ++ Rpc.given method (client.await method milliseconds world).1)
  | meanwhile {world next : World Machine} {returned : List Rpc.Notification}
    (before : Dealt world returned) (same : next.inner.server = world.inner.server) :
    Dealt next returned

structure Held (returned : List Rpc.Notification) (connection : Connection Child) : Prop where
  spoken : ∃ clientId launch, SpokenWith Run.Goes clientId launch .talking connection
  accounted : Rpc.Accounted returned connection

section

variable {A : Type} (talk : Talk Child A) {returned : List Rpc.Notification}

-- A talk begins with the files as they are, which are those of the server as well.
theorem converse_performs (connection : Connection Child) (world : World Machine) :
    ∃ tree next, next.inner = world.inner ∧
      let far := { connection.far with run := connection.far.run.withTree tree }
      converse talk connection world = ((talk.perform { connection with far }).1,
        { (talk.perform { connection with far }).2 with records := [] }, next) :=
  ⟨world.tree, (converse talk connection world).2.2, rfl, rfl⟩

theorem withServer_performs {world : World Machine}
    (talked : world.inner.server = some connection) :
    ∃ tree, let far := { connection.far with run := connection.far.run.withTree tree }
      let ended := talk.perform { connection with far }
      (withServer talk world).1 = ended.1 ∧
        (withServer talk world).2.inner.server = some { ended.2 with records := [] } := by
  obtain ⟨tree, next, _, performs⟩ := converse_performs talk connection world
  refine ⟨tree, ?_⟩
  dsimp only at performs
  simp only [withServer, talked, performs, true_and]
  rfl

theorem send_tells {world : World Machine} (talked : world.inner.server = some connection)
    (method : String) (parameters : Json.Value) :
    ∃ after, (client.send method parameters world).2.inner.server = some after ∧
      after.mailbox = connection.mailbox ∧
      after.history = connection.history ++ [.sent (.notification { method, parameters })
        (client.send method parameters world).1.toBool] := by
  obtain ⟨tree, sends, leaves⟩ :=
    withServer_performs (Talk.notify Child.wire method parameters) talked
  rw [Talk.perform_notify] at sends leaves
  exact ⟨_, leaves, rfl, by rw [client, sends]; rfl⟩

theorem spoken_current {clientId : Nat} {launch : ServerLaunch} {phase : Phase}
    (spoken : SpokenWith Run.Goes clientId launch phase connection) (tree : Files.Tree) :
    SpokenWith Run.Goes clientId launch phase
      { connection with far := { connection.far with run := connection.far.run.withTree tree } } := by
  have went := spoken.goes (.runs connection.far (.finds _ tree))
  simpa [Connection.deliver, Rpc.Mailbox.deliver] using went

theorem Held.current (held : Held returned connection) (tree : Files.Tree) :
    Held returned
      { connection with far := { connection.far with run := connection.far.run.withTree tree } } := by
  obtain ⟨clientId, launch, spoken⟩ := held.spoken
  exact ⟨⟨clientId, launch, spoken_current spoken tree⟩,
    held.accounted.congr rfl List.suffix_rfl rfl⟩

theorem Held.sends (held : Held returned connection) (method : String) (parameters : Json.Value) :
    Held returned ((Talk.notify Child.wire method parameters).perform connection).2 := by
  obtain ⟨clientId, launch, spoken⟩ := held.spoken
  refine ⟨⟨clientId, launch, spoken.notifies method parameters⟩, ?_⟩
  rw [Talk.perform_notify]
  exact Rpc.accounted_sent held.accounted _

theorem Held.awaits (held : Held returned connection) (method : String) (milliseconds : Nat) :
    let ended := (Talk.await Child.wire method milliseconds).perform connection
    Held (returned ++ Rpc.given method ended.1) ended.2 := by
  obtain ⟨clientId, launch, spoken⟩ := held.spoken
  exact ⟨⟨clientId, launch, spoken.awaits method milliseconds⟩,
    Rpc.await_accounted held.accounted method milliseconds⟩

theorem Held.logs (held : Held returned connection) (records : List LogRecord) :
    Held returned { connection with records } := by
  obtain ⟨clientId, launch, spoken⟩ := held.spoken
  exact ⟨⟨clientId, launch, spoken.logs records⟩, held.accounted.congr rfl List.suffix_rfl rfl⟩

end

theorem hangUp_server (connection : Connection Child) (world : World Machine) :
    (hangUp connection world).inner.server = none := rfl

/-- How a start ends: nothing was started, or what was started did not answer as it should, or it is
talked to. -/
inductive Started (launch : ServerLaunch) : Except Error Unit × World Machine -> Prop
  | unstarted {error : Error} {world : World Machine} (idle : world.inner.server = none) :
    Started launch (.error error, world)
  | refused {error : Error} {connection : Connection Child} {world : World Machine}
    (spoken : ∃ clientId, SpokenWith Run.Goes clientId launch .refused connection) :
    Started launch (.error error, hangUp connection world)
  | opened {connection : Connection Child} {world : World Machine}
    (spoken : ∃ clientId, SpokenWith Run.Goes clientId launch .talking connection)
    (accounted : Rpc.Accounted [] connection) :
    Started launch (.ok (), setServer (some connection) world)

theorem startServer_started (launch : ServerLaunch) (world : World Machine)
    (idle : world.inner.server = none) : Started launch (startServer launch world) := by
  unfold startServer
  split
  case h_1 => exact .unstarted idle
  case h_2 order _ =>
    have idle : (world.log (spawning order)).inner.server = none := idle
    dsimp only
    generalize world.log (spawning order) = world at idle
    split
    case h_1 => exact .unstarted idle
    case h_2 run _ =>
      obtain ⟨tree, next, _, performs⟩ := converse_performs
        (Talk.handshake Child.wire world.inner.ownId launch)
        { far := { run, listener := { configuration := launch.configuration } } } world
      dsimp only at performs
      have accounted := Rpc.handshake_accounted Child.wire world.inner.ownId launch
        (Rpc.accounted_fresh
          { run := run.withTree tree, listener := { configuration := launch.configuration } })
      rw [performs]
      cases opening : (Talk.handshake Child.wire world.inner.ownId launch).perform
          { far := {
            run := run.withTree tree
            listener := { configuration := launch.configuration } } } with
      | mk result after =>
        rw [opening] at accounted
        cases result with
        | error error =>
          exact .refused ⟨_, (Life.refused (.start _) opening).logs []⟩
        | ok =>
          exact .opened ⟨_, (Life.opened (.start _) opening).logs []⟩
            (accounted.congr rfl List.suffix_rfl rfl)

theorem clientStart_started (launch : ServerLaunch) (world : World Machine) :
    Started launch (client.start launch world) :=
  startServer_started launch (stopServer world) (stopServer_server world)

theorem stopServer_ends {clientId : Nat} {launch : ServerLaunch} {world : World Machine}
    (talked : world.inner.server = some connection)
    (spoken : SpokenWith Run.Goes clientId launch .talking connection) :
    ∃ ended next, SpokenWith Run.Goes clientId launch .ended ended ∧
      stopServer world = hangUp ended next := by
  obtain ⟨tree, next, _, performs⟩ :=
    converse_performs (Talk.farewell Child.wire) connection world
  have ended := ((spoken_current spoken tree).ends).logs []
  refine ⟨_, next, ended, ?_⟩
  unfold stopServer
  rw [talked]
  dsimp only
  rw [performs]

theorem dealt_held {world : World Machine} {returned : List Rpc.Notification}
    (dealt : Dealt world returned) (connection : Connection Child)
    (talked : world.inner.server = some connection) : Held returned connection := by
  induction dealt generalizing connection with
  | begun idle => simp [idle] at talked
  | @starts world returned _ launch =>
    have started := clientStart_started launch world
    generalize client.start launch world = ended at started talked
    cases started with
    | unstarted idle => simp [idle] at talked
    | refused => simp [hangUp_server] at talked
    | opened spoken accounted =>
      cases talked
      exact ⟨spoken.imp fun clientId spoken => ⟨launch, spoken⟩, accounted⟩
  | stops => exact absurd talked (by simp [client, stopServer_server])
  | @sends world returned _ method parameters ih =>
    cases before : world.inner.server with
    | none => simp [client, withServer, before] at talked
    | some held =>
      obtain ⟨tree, next, _, performs⟩ :=
        converse_performs (Talk.notify Child.wire method parameters) held world
      simp only [client, withServer, before, performs] at talked
      cases talked
      exact (((ih held before).current tree).sends method parameters).logs []
  | @awaits world returned _ method milliseconds ih =>
    cases before : world.inner.server with
    | none => simp [client, withServer, before] at talked
    | some held =>
      obtain ⟨tree, next, _, performs⟩ :=
        converse_performs (Talk.await Child.wire method milliseconds) held world
      simp only [client, withServer, before, performs] at talked ⊢
      cases talked
      exact (((ih held before).current tree).awaits method milliseconds).logs []
  | meanwhile _ same ih => exact ih connection (same ▸ talked)

theorem Held.own {returned : List Rpc.Notification} (held : Held returned connection)
    {told : Rpc.Notification} (isReturned : told ∈ returned) :
    .notification told ∈ connection.far.listener.heard := by
  obtain ⟨clientId, launch, spoken⟩ := held.spoken
  obtain ⟨streams, reached⟩ := spoken_meets id spoken
  have came := held.accounted.came isReturned
  rw [reached.orderly.came] at came
  exact (List.mem_filter.mp came).1

structure Faithful : Prop where
  -- Whatever is asked and awaited, and whatever comes in at whatever time.
  accounted {W : Type} (wire : Rpc.Wire W) (far : W) (turns : List (Rpc.Turn W)) :
    let dealings := Rpc.deal wire turns { connection := { far } }
    Rpc.Accounted dealings.returned dealings.connection
  -- A call that waits looks at one message after the other.
  searched {A : Type} (wanted : Rpc.Message -> Option A) (mailbox : Rpc.Mailbox) :
    Rpc.Mailbox.Searched wanted mailbox (mailbox.take wanted)
  answered {W : Type} (connection : Connection W) (wire : Rpc.Wire W) (method : String)
    (parameters : Json.Value) (milliseconds : Nat) :
    Talk.Answered connection wire method parameters
      ((Talk.request wire method parameters milliseconds).perform connection)
  awaited {W : Type} (connection : Connection W) (wire : Rpc.Wire W) (method : String)
    (milliseconds : Nat) :
    Talk.Awaited connection wire method
      ((Talk.await wire method milliseconds).perform connection)
  -- Callers hear of the server that was started last, and of no other.
  own {world : World Machine} {returned : List Rpc.Notification} (dealt : Dealt world returned)
    {connection : Connection Child} (talked : world.inner.server = some connection) :
    Held returned connection ∧
      ∀ told ∈ returned, .notification told ∈ connection.far.listener.heard

theorem client_faithful : Faithful where
  accounted wire far turns := Rpc.deal_accounted wire turns _ (Rpc.accounted_fresh far)
  searched := Rpc.Mailbox.take_searched
  answered := Talk.request_answered
  awaited := Talk.await_awaited
  own dealt _ talked :=
    have held := dealt_held dealt _ talked
    ⟨held, fun _ => held.own⟩

structure Protocol : Prop where
  -- The messages of the client, in their order among those that come in.
  trace {W : Type} {wire : Rpc.Wire W} {clientId : Nat} {launch : ServerLaunch}
    {starts : W -> Prop} {goes : W -> Rpc.Arrival -> W -> Prop} {phase : Phase}
    {connection : Connection W} (life : Life wire clientId launch starts goes phase connection) :
    Rpc.Trace clientId launch phase connection.history
  ids {W : Type} {wire : Rpc.Wire W} {clientId : Nat} {launch : ServerLaunch}
    {starts : W -> Prop} {goes : W -> Rpc.Arrival -> W -> Prop} {phase : Phase}
    {connection : Connection W} (life : Life wire clientId launch starts goes phase connection) :
    ∃ numbers : List Int, Rpc.requestIds connection.history = numbers.map .number ∧
      numbers.Pairwise (· < ·)
  -- What has gone through the pipes of the server meanwhile.
  reached {clientId : Nat} {launch : ServerLaunch} {phase : Phase} {connection : Connection Child}
    (spoken : SpokenWith Run.Goes clientId launch phase connection) :
    ∃ streams, Reached Run.Goes launch.configuration connection.history streams connection.far
  exchanged {configuration : Configuration} {history : List Rpc.Event} {streams : Streams}
    {child : Child} (reached : Reached Run.Goes configuration history streams child) :
    ∃ said, Exchanged configuration history streams said
  orderly {configuration : Configuration} {history : List Rpc.Event} {streams : Streams}
    {child : Child} (reached : Reached Run.Goes configuration history streams child) :
    Orderly configuration history streams child.listener
  -- Whoever waits for the server leaves nothing unread.
  listens {configuration : Configuration} {history : List Rpc.Event} {streams : Streams}
    {child : Child} (reached : Reached Run.Goes configuration history streams child)
    (wanted : Rpc.Message -> Bool) {milliseconds : Nat} (long : 0 < milliseconds) :
    Attended Run.Goes configuration history (Child.wire.listen wanted milliseconds child)
  terminates {configuration : Configuration} {history : List Rpc.Event} {streams : Streams}
    {child : Child} (reached : Reached Run.Goes configuration history streams child) :
    Attended Run.Goes configuration history child.terminate
  -- Whoever has the pen writes a message byte by byte, and lays the pen down at its end.
  whole {sheet : Sheet} (steps : Relation.ReflTransGen Sheet.Step {} sheet) : sheet.Whole
  -- The input is written so, and a server that reads it finds each message, and nothing else.
  written {configuration : Configuration} {history : List Rpc.Event} {streams : Streams}
    {said : List (Party × Rpc.Message)}
    (exchanged : Exchanged configuration history streams said) :
    Relation.ReflTransGen Sheet.Step {} { stream := streams.input, said }
  read {configuration : Configuration} {history : List Rpc.Event} {streams : Streams}
    {said : List (Party × Rpc.Message)}
    (exchanged : Exchanged configuration history streams said)
    (short : ∀ entry ∈ said, Rpc.Frame.IsShort entry.2) :
    Rpc.Frame.Reads streams.input (said.map fun entry => entry.2.toJson.compact) []
  -- What a client that is running has come from, what it sends, and what becomes of it.
  started (launch : ServerLaunch) (world : World Machine) :
    Started launch (client.start launch world) ∧
      client.isRunning (client.start launch world).2 = (client.start launch world).1.toBool
  held {world : World Machine} {returned : List Rpc.Notification} (dealt : Dealt world returned)
    {connection : Connection Child} (talked : world.inner.server = some connection) :
    ∃ clientId launch, SpokenWith Run.Goes clientId launch .talking connection
  sends {world : World Machine} {connection : Connection Child}
    (talked : world.inner.server = some connection) (method : String) (parameters : Json.Value) :
    ∃ after, (client.send method parameters world).2.inner.server = some after ∧
      after.mailbox = connection.mailbox ∧
      after.history = connection.history ++ [.sent (.notification { method, parameters })
        (client.send method parameters world).1.toBool]
  ends {clientId : Nat} {launch : ServerLaunch} {world : World Machine}
    {connection : Connection Child} (talked : world.inner.server = some connection)
    (spoken : SpokenWith Run.Goes clientId launch .talking connection) :
    ∃ ended next, SpokenWith Run.Goes clientId launch .ended ended ∧
      stopServer world = hangUp ended next
  stopped (world : World Machine) : client.isRunning (client.stop world).2 = false

theorem Started.running {launch : ServerLaunch} {ended : Except Error Unit × World Machine}
    (started : Started launch ended) : client.isRunning ended.2 = ended.1.toBool := by
  cases started with
  | unstarted idle => simp [client, idle, Except.toBool]
  | refused => rfl
  | opened => rfl

theorem client_protocol : Protocol where
  trace life := life.trace.1
  ids life := life.trace.1.ids
  reached := spoken_meets id
  exchanged reached := reached.orderly.exchanged
  orderly := Reached.orderly
  listens reached := reached.listens id
  terminates reached := reached.terminates id
  whole := Sheet.whole
  written := Exchanged.written
  read := Exchanged.read
  started launch world :=
    have started := clientStart_started launch world
    ⟨started, started.running⟩
  held dealt _ talked := (dealt_held dealt _ talked).spoken
  sends := send_tells
  ends := stopServer_ends
  stopped world := by simp [client, stopServer_server]

def inquiry : Rpc.Message :=
  .request {
    id := .text "a"
    method := "workspace/configuration"
    parameters := .object [("items", .array [.object [("section", .text "ansible.python")]])] }

def inquired : Configuration :=
  { interpreterPath := "/usr/bin/python3" }

-- A server that asks for its configuration as soon as it runs, and then waits.
def inquiring : Child :=
  let order : Order :=
    { program := Path.ofText "server", arguments := [], bindings := [], inputOpen := true }
  let asks (_ : Nat) (scene : Shell.Scene) : Shell.Thread Shell.Scene :=
    let output := (scene.pipe outputNumber).write (Rpc.Frame.write inquiry)
    .paused (fun _ => false) none (scene.setPipe outputNumber output) fun _ => .ended
  { run := { thread := .paused (fun _ => true) none (order.startScene .empty []) asks, now := 0 }
    listener := { configuration := inquired } }

def informed : Child :=
  (inquiring.write Rpc.openedNotice).2

def inquiryAnswer : Rpc.Message :=
  .response {
    id := .text "a"
    result := some (.array [.object [
      ("activationScript", .text ""), ("interpreterPath", .text "/usr/bin/python3")]])
    failure := none }

theorem client_protocol_inquiring :
    ∃ streams said, Reached Run.Goes inquired [.sent Rpc.openedNotice true] streams
        informed.terminate.2 ∧
      Exchanged inquired [.sent Rpc.openedNotice true] streams said ∧
      informed.terminate.2.input = frames [Rpc.openedNotice, inquiryAnswer] ∧
      informed.terminate.2.output = [] := by
  obtain ⟨_, _, puts⟩ := inquiring.write_eq Rpc.openedNotice
  have begun : Reached Run.Goes inquired [] {} inquiring := .begun _
  have told : Reached Run.Goes inquired [.sent Rpc.openedNotice true] _ informed :=
    begun.writes Rpc.openedNotice puts
  have ended : informed.terminate.1.messages.isEmpty = true ∧
      informed.terminate.2.input = frames [Rpc.openedNotice, inquiryAnswer] ∧
      informed.terminate.2.listener.isListening = true := by
    decide +kernel
  obtain ⟨⟨streams, reached⟩, emptied⟩ := client_protocol.terminates told
  rw [List.isEmpty_iff.mp ended.1] at reached
  obtain ⟨said, exchanged⟩ := client_protocol.exchanged reached
  exact ⟨streams, said, reached, exchanged, ended.2.1, emptied ended.2.2⟩

end AnsibleTooling.Machine
