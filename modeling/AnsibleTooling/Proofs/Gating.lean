import AnsibleTooling.Proofs.Lifecycle
import AnsibleTooling.Proofs.Outcomes
import AnsibleTooling.Proofs.Paths
import AnsibleTooling.Proofs.Serving

set_option autoImplicit false

namespace AnsibleTooling.Gating

open Act Lifecycle

variable {S : Type}

def commandOf : Operation -> Option Command
  | .startClient => some .serverStart
  | .restart => some .serverRestart
  | .showMetadata .. => some .serverShowMetadata
  | .resyncInventory _ => some .serverResyncInventory
  | .listPlugins view _ => some view.command
  | .showPlugin view .. => some view.command
  | .activate | .installTools | .deactivate | .close _ => none

def IsSupported : Operation -> Prop
  | .listPlugins view pluginType => pluginType ∈ view.pluginTypes
  | .showPlugin view pluginType _ => pluginType ∈ view.pluginTypes
  | _ => True

/-- The state lacks what the operation needs: a report, and for documentation a tool in it. -/
def Lacks (state : SessionState) : Operation -> Prop
  | .listPlugins .. => state.report?.bind Report.docTool = none
  | .showPlugin .. => state.report?.bind Report.docTool = none
  | _ => state.report? = none

theorem require_refused {stage : Stage S} (command : Command)
    (lacking : stage.state.report? = none) :
    (Session.require command : Act S Report).perform stage =
      (.error (.commandUnavailable command.id), stage) := by
  rw [Session.require, Session.requireNamed_perform, lacking]

theorem docTool_refused {stage : Stage S} (view : DocView)
    (lacking : stage.state.report?.bind Report.docTool = none) :
    (Session.docTool view : Act S Path).perform stage =
      (.error (.commandUnavailable view.command.id), stage) := by
  have needs := Session.requireNamed_perform (S := S) view.command.id stage
  unfold Session.docTool Session.require
  cases reported : stage.state.report? with
  | none =>
    rw [reported] at needs
    exact perform_bind_error needs
  | some report =>
    rw [reported] at needs lacking
    rw [perform_bind_ok needs]
    rw [Option.bind_some] at lacking
    rw [lacking]
    rfl

theorem docTool_found {stage : Stage S} (view : DocView) {tool : Path}
    (found : stage.state.report?.bind Report.docTool = some tool) :
    (Session.docTool view : Act S Path).perform stage = (.ok tool, stage) := by
  obtain ⟨report, reported, named⟩ := Option.bind_eq_some_iff.mp found
  have needs := Session.requireNamed_perform (S := S) view.command.id stage
  rw [reported] at needs
  unfold Session.docTool Session.require
  rw [perform_bind_ok needs, named]
  rfl

theorem validate_perform {view : DocView} {pluginType : String}
    (supported : pluginType ∈ view.pluginTypes) (stage : Stage S) :
    (Act.ofExcept (view.validate pluginType) : Act S Unit).perform stage = (.ok (), stage) := by
  rw [perform_ofExcept]
  simp [DocView.validate, supported]

theorem validate_refused {view : DocView} {pluginType : String}
    (unsupported : pluginType ∉ view.pluginTypes) (stage : Stage S) :
    (Act.ofExcept (view.validate pluginType) : Act S Unit).perform stage =
      (.error (.unsupportedPluginType pluginType view.display
        (", ".intercalate view.pluginTypes)), stage) := by
  rw [perform_ofExcept]
  simp [DocView.validate, unsupported]

theorem operation_refused (host : Host S) (context : Context) (operation : Operation)
    (command : Command) (stage : Stage S) (needs : commandOf operation = some command)
    (supported : IsSupported operation) (lacking : Lacks stage.state operation) :
    (operation.act host context).perform stage =
      (.error (.commandUnavailable command.id), stage) := by
  cases operation with
  | startClient =>
    cases needs
    exact perform_bind_error (perform_bind_error (require_refused .serverStart lacking))
  | restart =>
    cases needs
    exact perform_bind_error (require_refused .serverRestart lacking)
  | showMetadata document milliseconds =>
    cases needs
    exact perform_bind_error (perform_bind_error (require_refused .serverShowMetadata lacking))
  | resyncInventory document =>
    cases needs
    exact perform_bind_error (perform_bind_error (require_refused .serverResyncInventory lacking))
  | listPlugins view pluginType =>
    cases needs
    refine perform_bind_error (Eq.trans (perform_bind_ok (validate_perform supported stage)) ?_)
    exact perform_bind_error (docTool_refused view lacking)
  | showPlugin view pluginType plugin =>
    cases needs
    exact Eq.trans (perform_bind_ok (validate_perform supported stage))
      (perform_bind_error (docTool_refused view lacking))
  | _ => cases needs

def IsAnsible (document : Path) : Prop :=
  ∃ stem extension, document.fileName? = some (stem ++ Path.dot :: extension) ∧ stem ≠ [] ∧
    (extension.map Server.lowerByte = Text.encode "yml" ∨
      extension.map Server.lowerByte = Text.encode "yaml")

theorem undotted_of_lower {extension known : Bytes} (undotted : Path.dot ∉ known)
    (same : extension.map Server.lowerByte = known) : Path.dot ∉ extension := by
  intro member
  have dotted := List.mem_map_of_mem (f := Server.lowerByte) member
  rw [same] at dotted
  exact undotted dotted

theorem isAnsibleDocument_iff (document : Path) :
    Server.isAnsibleDocument document = true ↔ IsAnsible document := by
  have known (extension : Bytes) :
      (Server.extensions.any fun known => Text.encode known == extension.map Server.lowerByte) =
          true ↔
        extension.map Server.lowerByte = Text.encode "yml" ∨
          extension.map Server.lowerByte = Text.encode "yaml" := by
    simp only [Server.extensions, List.any_cons, List.any_nil, Bool.or_false, Bool.or_eq_true,
      beq_iff_eq]
    exact or_congr eq_comm eq_comm
  unfold Server.isAnsibleDocument
  constructor
  · intro concerned
    split at concerned
    next extension found =>
      obtain ⟨stem, named, some, _⟩ := Path.extension?_eq_some.mp found
      exact ⟨stem, extension, named, some, (known extension).mp concerned⟩
    next => cases concerned
  · rintro ⟨stem, extension, named, some, fits⟩
    have undotted : Path.dot ∉ extension := by
      rcases fits with fits | fits <;> exact undotted_of_lower (by decide) fits
    rw [Path.extension?_eq_some.mpr ⟨stem, named, some, undotted⟩]
    exact (known extension).mpr fits

inductive Sends (world : World S) : Operation -> String -> Json.Value -> Prop
  | metadata {document : Path} {milliseconds : Nat} {uri : String} (concerned : IsAnsible document)
    (found : Session.documentUri world document = .ok uri) :
    Sends world (.showMetadata document milliseconds) Server.metadataMethod (.array [.text uri])
  | resync {document : Path} (concerned : IsAnsible document) :
    Sends world (.resyncInventory document) Server.resyncMethod .null

def IsSender : Operation -> Prop
  | .showMetadata .. | .resyncInventory _ => True
  | _ => False

/-- What a client was given to pass on: a running client takes each notification, a stopped one
takes none. -/
structure Posts (client : Client S) (outbox : World S -> List (String × Json.Value)) : Prop where
  inner (world other : World S) : world.inner = other.inner -> outbox world = outbox other
  send (method : String) (parameters : Json.Value) (world : World S) :
    outbox (client.send method parameters world).2 =
      if client.isRunning world then outbox world ++ [(method, parameters)] else outbox world
  await (method : String) (milliseconds : Nat) (world : World S) :
    outbox (client.await method milliseconds world).2 = outbox world

theorem Posts.settled {client : Client S} {outbox : World S -> List (String × Json.Value)}
    (posts : Posts client outbox) (world : World S) : outbox world.settled = outbox world :=
  posts.inner _ _ rfl

def isSending : Event -> Bool
  | .sent .. => true
  | _ => false

def sendings (stage : Stage S) : List Event :=
  stage.journal.filter isSending

structure Sent (client : Client S) (method : String) (parameters : Json.Value)
    (before after : Stage S) : Prop where
  calls : sendings after = sendings before ++
    [.sent method parameters (client.send method parameters before.world).1.isOk]
  posts (outbox : World S -> List (String × Json.Value)) : Posts client outbox ->
    outbox after.world =
      if client.isRunning before.world then outbox before.world ++ [(method, parameters)]
      else outbox before.world

structure Unsent (client : Client S) (before after : Stage S) : Prop where
  calls : sendings after = sendings before
  posts (outbox : World S -> List (String × Json.Value)) : Posts client outbox ->
    outbox after.world = outbox before.world

variable {host : Host S}

variable (host) in
theorem send_sent (method : String) (parameters : Json.Value) (stage : Stage S) :
    Sent host.client method parameters stage
      ((Session.send host method parameters).perform stage).2 := by
  rw [Session.send, perform_recorded]
  constructor
  · have logged : ((host.client.send method parameters stage.world).2.records.map
        Event.logged).filter isSending = [] := by simp [isSending]
    rw [sendings, Stage.extend_journal, List.filter_append, List.filter_append, logged]
    rfl
  · intro outbox posts
    exact (posts.settled _).trans (posts.send method parameters stage.world)

theorem await_unsent (method : String) (milliseconds : Nat) (stage : Stage S) :
    Unsent host.client stage
      ((ofWorld (host.client.await method milliseconds)).perform stage).2 := by
  constructor
  · exact (Spares.ofWorld_moves (fun _ => rfl) _ stage).filter
  · intro outbox posts
    rw [perform_ofWorld]
    exact (posts.settled _).trans (posts.await method milliseconds stage.world)

theorem Sent.then_unsent {method : String} {parameters : Json.Value} {before middle after : Stage S}
    (sent : Sent host.client method parameters before middle)
    (unsent : Unsent host.client middle after) :
    Sent host.client method parameters before after where
  calls := unsent.calls.trans sent.calls
  posts outbox posts := (unsent.posts outbox posts).trans (sent.posts outbox posts)

theorem require_granted {stage : Stage S} {report : Report} (command : Command)
    (ready : stage.state = .ready report) :
    (Session.require command : Act S Report).perform stage = (.ok report, stage) := by
  rw [Session.require, Session.requireNamed_perform, ready]
  rfl

theorem perform_discard {A : Type} (act : Act S A) (stage : Stage S) :
    ((act >>= fun _ => pure () : Act S Unit).perform stage).2 = (act.perform stage).2 := by
  rw [perform_bind]
  split <;> simp_all

theorem showMetadata_sends {document : Path} {uri : String} {stage : Stage S} {report : Report}
    (ready : stage.state = .ready report) (concerned : IsAnsible document)
    (found : Session.documentUri stage.world document = .ok uri) (milliseconds : Nat) :
    Sent host.client Server.metadataMethod (.array [.text uri]) stage
      ((Session.showMetadata host document milliseconds).perform stage).2 := by
  have sent := send_sent host Server.metadataMethod (.array [.text uri]) stage
  have given := perform_ofExcept stage (Session.documentUri stage.world document)
  rw [found] at given
  rw [Session.showMetadata, perform_bind_ok (require_granted _ ready),
    if_pos ((isAnsibleDocument_iff document).mpr concerned), perform_bind_ok (perform_world stage),
    found, perform_bind_ok given]
  generalize Json.Value.array [.text uri] = parameters at sent ⊢
  rcases performed : (Session.send host Server.metadataMethod parameters).perform stage with
    ⟨_ | _, middle⟩ <;> rw [performed] at sent
  · rw [perform_bind_error performed]
    exact sent
  · rw [perform_bind_ok performed]
    exact sent.then_unsent (await_unsent _ milliseconds middle)

theorem resyncInventory_sends {document : Path} {stage : Stage S} {report : Report}
    (ready : stage.state = .ready report) (concerned : IsAnsible document) :
    Sent host.client Server.resyncMethod .null stage
      ((Session.resyncInventory host document).perform stage).2 := by
  have sent := send_sent host Server.resyncMethod .null stage
  rw [Session.resyncInventory, perform_bind_ok (require_granted _ ready),
    if_pos ((isAnsibleDocument_iff document).mpr concerned)]
  rcases performed : (Session.send host Server.resyncMethod .null).perform stage with
    ⟨_ | _, middle⟩ <;> rw [performed] at sent
  · rw [perform_bind_error performed]
    exact sent
  · rw [perform_bind_ok performed]
    exact sent

theorem operation_sends (context : Context) {operation : Operation} {method : String}
    {parameters : Json.Value} {stage : Stage S} {report : Report}
    (ready : stage.state = .ready report) (sends : Sends stage.world operation method parameters) :
    Sent host.client method parameters stage ((operation.act host context).perform stage).2 := by
  cases sends with
  | metadata concerned found =>
    rw [Operation.act, perform_discard]
    exact showMetadata_sends ready concerned found _
  | resync concerned =>
    rw [Operation.act, perform_discard]
    exact resyncInventory_sends ready concerned

theorem operation_withholds (context : Context) {operation : Operation} {stage : Stage S}
    {report : Report} (ready : stage.state = .ready report) (sender : IsSender operation)
    (nothing : ∀ method parameters, ¬ Sends stage.world operation method parameters) :
    Unsent host.client stage ((operation.act host context).perform stage).2 := by
  have still (entry : LogRecord) : Unsent host.client stage
      ((record (.logged entry) : Act S Unit).perform stage).2 :=
    ⟨(Spares.record_moves _ rfl stage).filter, fun _ _ => rfl⟩
  cases operation with
  | showMetadata document milliseconds =>
    rw [Operation.act, perform_discard, Session.showMetadata,
      perform_bind_ok (require_granted _ ready)]
    cases concerned : Server.isAnsibleDocument document with
    | false => exact still _
    | true =>
      rw [if_pos rfl, perform_bind_ok (perform_world stage)]
      have given := perform_ofExcept stage (Session.documentUri stage.world document)
      cases found : Session.documentUri stage.world document with
      | error error =>
        rw [found] at given
        rw [perform_bind_error given]
        exact ⟨rfl, fun _ _ => rfl⟩
      | ok uri =>
        exact absurd (.metadata ((isAnsibleDocument_iff document).mp concerned) found)
          (nothing _ _)
  | resyncInventory document =>
    rw [Operation.act, perform_discard, Session.resyncInventory,
      perform_bind_ok (require_granted _ ready)]
    cases concerned : Server.isAnsibleDocument document with
    | false => exact ⟨rfl, fun _ _ => rfl⟩
    | true => exact absurd (.resync ((isAnsibleDocument_iff document).mp concerned)) (nothing _ _)
  | _ => cases sender

theorem activate_blind (host : Host S) (context : Context) (before : Stage S)
    (state : SessionState) (journal : List Event) :
    ((Session.activate host context).perform { before with state, journal }).1 =
        ((Session.activate host context).perform before).1 ∧
      ((Session.activate host context).perform { before with state, journal }).2.state =
        ((Session.activate host context).perform before).2.state := by
  have same := Blind.activation host context before { before with state, journal } rfl rfl
  rcases activated : (Activation.activate host context).perform before with ⟨outcome, reached⟩
  rcases other : (Activation.activate host context).perform { before with state, journal } with
    ⟨_, reachedOther⟩
  rw [activated, other] at same
  obtain ⟨rfl, _⟩ := same
  rw [Session.activate_perform host context _ _ _ activated,
    Session.activate_perform host context _ _ _ other]
  exact ⟨rfl, rfl⟩

structure Gated (host : Host S) (context : Context) : Prop where
  refused (operation : Operation) (command : Command) (stage : Stage S) :
    commandOf operation = some command -> IsSupported operation -> Lacks stage.state operation ->
    (operation.act host context).perform stage = (.error (.commandUnavailable command.id), stage)
  sends (operation : Operation) (method : String) (parameters : Json.Value) (stage : Stage S)
    (report : Report) :
    stage.state = .ready report -> Sends stage.world operation method parameters ->
    Sent host.client method parameters stage ((operation.act host context).perform stage).2
  withholds (operation : Operation) (stage : Stage S) (report : Report) :
    stage.state = .ready report -> IsSender operation ->
    (∀ method parameters, ¬ Sends stage.world operation method parameters) ->
    Unsent host.client stage ((operation.act host context).perform stage).2
  settles (before : Stage S) :
    Session.Settled ((Activation.activate host context).perform before).1 before
      ((Session.activate host context).perform before).1
      ((Session.activate host context).perform before).2
  independent (before : Stage S) (state : SessionState) (journal : List Event) :
    ((Session.activate host context).perform { before with state, journal }).1 =
        ((Session.activate host context).perform before).1 ∧
      ((Session.activate host context).perform { before with state, journal }).2.state =
        ((Session.activate host context).perform before).2.state

theorem commands_gated (host : Host S) (context : Context) : Gated host context where
  refused operation command stage := operation_refused host context operation command stage
  sends _ _ _ _ _ := operation_sends context
  withholds _ _ _ := operation_withholds context
  settles before := Session.activate_settles host context before _ _ rfl
  independent := activate_blind host context

def posted (world : World Machine) : List (String × Json.Value) :=
  match world.inner.server with
  | none => []
  | some connection =>
    (Rpc.notifications (Rpc.attempts connection.history)).map fun told =>
      (told.method, told.parameters)

theorem posted_converse {A : Type} (talk : Rpc.Talk Machine.Child A)
    (connection : Rpc.Connection Machine.Child) (world : World Machine)
    (more : List Rpc.Notification)
    (adds : ∀ far, Rpc.notifications (Rpc.attempts
        (talk.perform { connection with far }).2.history) =
      Rpc.notifications (Rpc.attempts connection.history) ++ more)
    (held : world.inner.server = some connection) :
    posted (Machine.withServer talk world).2 =
      posted world ++ more.map fun told => (told.method, told.parameters) := by
  obtain ⟨run, later, _, performs⟩ := Machine.converse_performs talk connection world
  simp only [Machine.withServer, held, performs, posted, Machine.setServer, Machine.update]
  rw [adds, List.map_append]

theorem await_attempts {W : Type} (wire : Rpc.Wire W) (method : String) (milliseconds : Nat)
    (connection : Rpc.Connection W) :
    Rpc.attempts ((Rpc.Talk.await wire method milliseconds).perform connection).2.history =
      Rpc.attempts connection.history := by
  have awaited := Rpc.Talk.await_awaited connection wire method milliseconds
  generalize (Rpc.Talk.await wire method milliseconds).perform connection = ended at awaited
  cases awaited with
  | kept => rfl
  | found => simp [Rpc.waited_history]
  | missed => simp [Rpc.waited_history]

theorem machine_posts : Posts Machine.client posted where
  inner world other same := by simp only [posted, same]
  send method parameters world := by
    cases held : world.inner.server with
    | none => simp [Machine.client, Machine.withServer, held]
    | some connection =>
      have adds := posted_converse (Rpc.Talk.notify Machine.Child.wire method parameters)
        connection world [{ method, parameters }] (fun far => by
          simp [Rpc.Talk.sent, Rpc.notifications, Rpc.attempts, Rpc.Message.notification?]) held
      simpa [Machine.client, held] using adds
  await method milliseconds world := by
    cases held : world.inner.server with
    | none => simp [Machine.client, Machine.withServer, held]
    | some connection =>
      have adds := posted_converse (Rpc.Talk.await Machine.Child.wire method milliseconds)
        connection world [] (fun far => by rw [await_attempts]; simp) held
      simpa [Machine.client] using adds

end AnsibleTooling.Gating
