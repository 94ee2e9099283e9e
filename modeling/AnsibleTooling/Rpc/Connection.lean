import AnsibleTooling.Rpc.Mailbox
import AnsibleTooling.Server

set_option autoImplicit false

namespace AnsibleTooling.Rpc

open Json (Value)

/-- How messages are sent, and how their arrival is awaited: until one satisfies a condition, or
for so many milliseconds. -/
structure Wire (W : Type) where
  write : Message -> W -> Except Error Unit × W
  listen : (Message -> Bool) -> Nat -> W -> Arrival × W

/-- What happens in a conversation: a message is to be sent, and is written or cannot be, or one
comes in. -/
inductive Event
  | sent (message : Message) (isWritten : Bool)
  | came (message : Message)

structure Connection (W : Type) where
  far : W
  mailbox : Mailbox := {}
  lastId : Int := 0
  -- All that has happened, in its order.
  history : List Event := []
  records : List LogRecord := []

def Connection.deliver {W : Type} (arrival : Arrival) (connection : Connection W) :
    Connection W :=
  { connection with
    mailbox := connection.mailbox.deliver arrival
    history := connection.history ++ arrival.messages.map .came
    records := connection.records ++ arrival.records }

abbrev Talk (W : Type) := ExceptT Error (StateM (Connection W))

namespace Talk

variable {W A : Type}

def perform (talk : Talk W A) (connection : Connection W) : Except Error A × Connection W :=
  talk.run.run connection

def outcome (talk : Talk W A) : Talk W (Except Error A) :=
  fun connection =>
    let (result, next) := talk.perform connection
    (.ok result, next)

def take (wanted : Message -> Option A) : Talk W (Option A) :=
  modifyGet fun connection =>
    let (found, mailbox) := connection.mailbox.take wanted
    (found, { connection with mailbox })

def checkOpen : Talk W Unit := do
  if !(<- get).mailbox.isOpen then throw (.languageServer "server exited")

def attempt (failed : String) (talk : Talk W A) : Talk W Unit := do
  if let .error error <- outcome talk then
    let record := LogRecord.make .client .debug failed [("error", error.message)]
    modify fun connection => { connection with records := connection.records ++ [record] }

variable (wire : Wire W)

def write (message : Message) : Talk W Unit := do
  let connection <- get
  let (result, far) := wire.write message connection.far
  set { connection with
    far, history := connection.history ++ [Event.sent message result.toBool] }
  match result with
  | .ok _ => return
  | .error error => throw error

def listen (wanted : Message -> Bool) (milliseconds : Nat) : Talk W Unit :=
  modify fun connection =>
    let (arrival, far) := wire.listen wanted milliseconds connection.far
    { connection with far }.deliver arrival

def receive (wanted : Message -> Option A) (milliseconds : Nat) : Talk W (Option A) := do
  if let some value <- take wanted then return some value
  checkOpen
  listen wire (fun message => (wanted message).isSome) milliseconds
  if let some value <- take wanted then return some value
  checkOpen
  return none

def notify (method : String) (parameters : Value) : Talk W Unit :=
  write wire (.notification { method, parameters })

def accept (method : String) (response : Response) : Except Error Value :=
  match response.failure with
  | some failure => .error (.languageServer s!"{method} failed: {failure.message}")
  | none => .ok (response.result.getD .null)

def request (method : String) (parameters : Value) (milliseconds : Nat) : Talk W Value := do
  let number := (<- get).lastId + 1
  modify fun connection => { connection with lastId := number }
  let id := RequestId.number number
  write wire (.request { id, method, parameters })
  match <- receive wire (Message.responseTo? id) milliseconds with
  | none => throw (.languageServer s!"{method} timed out")
  | some response =>
    match accept method response with
    | .ok value => return value
    | .error error => throw error

/-- The parameters of the next notification of a method: one that was passed over before, else
one that arrives within so many milliseconds. -/
def await (method : String) (milliseconds : Nat) : Talk W (Option Value) := do
  let found <- modifyGet fun connection =>
    let (found, mailbox) := connection.mailbox.takePending method
    (found, { connection with mailbox })
  if let some parameters := found then return some parameters
  receive wire (fun message => message.notification?.bind (Notification.ofMethod? method))
    milliseconds

def requestLimit : Nat := 30000

def shutdownLimit : Nat := 2000

def clientInfo : Value :=
  .ofMembers [("name", .text "ansible-bootstrap"), ("version", .text "0.3.1")]

def capabilities (launch : ServerLaunch) : Value :=
  .ofMembers [
    ("workspace", .ofMembers [
      ("configuration", .bool true),
      ("didChangeConfiguration", .ofMembers [("dynamicRegistration", .bool false)])]),
    ("window", .ofMembers [
      ("workDoneProgress", .bool (!launch.isDisabled Server.progressFeature))])]

def openingParameters (clientId : Nat) (launch : ServerLaunch) : Value :=
  .ofMembers [
    ("processId", .integer clientId),
    ("rootUri", .ofText? launch.rootUri),
    ("clientInfo", clientInfo),
    ("capabilities", capabilities launch)]

def settingsParameters (configuration : Configuration) : Value :=
  .ofMembers [("settings", configuration.wrapped)]

def handshake (clientId : Nat) (launch : ServerLaunch) : Talk W Unit := do
  let _ <- request wire "initialize" (openingParameters clientId launch) requestLimit
  notify wire "initialized" (.ofMembers [])
  notify wire "workspace/didChangeConfiguration" (settingsParameters launch.configuration)

def farewell : Talk W Unit := do
  attempt "shutdown request failed" (request wire "shutdown" .null shutdownLimit)
  attempt "exit notification failed" (notify wire "exit" .null)

end Talk

inductive Reaction
  | answer (message : Message)
  | forward (message : Message)

def configurationMethod : String := "workspace/configuration"

/-- Questions about the configuration are answered with it, other requests with null. -/
def react (configuration : Configuration) : Message -> Reaction
  | .request request =>
    let result :=
      if request.method = configurationMethod then configuration.answer request.parameters
      else .null
    .answer (.response { id := request.id, result := some result, failure := none })
  | message => .forward message

end AnsibleTooling.Rpc
