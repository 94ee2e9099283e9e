import AnsibleTooling.Machine.Program
import AnsibleTooling.Rpc.Connection
import AnsibleTooling.Rpc.Frame
/-!
A server as a running program. While a message is awaited the program goes on, and everything it
writes is read: its requests are answered at once, other messages are passed on. The stream ends
with the program, or with the first bytes that are no message.
-/

set_option autoImplicit false

namespace AnsibleTooling.Machine

open Rpc (Message)

structure Listener where
  configuration : Configuration
  unread : Bytes := []
  isListening : Bool := true
  -- Every message that was read, and every answer, with whether it could be written.
  heard : List Message := []
  replies : List (Message × Bool) := []

structure Child where
  run : Run
  listener : Listener

def bodyRecords (text : String) : Option Message -> List LogRecord
  | some (.request request) =>
    .make .messages .debug ("< " ++ text) [] ::
      if request.method = Rpc.configurationMethod then []
      else [.make .client .trace "answering server request with null" [("method", request.method)]]
  | _ => [.make .messages .debug ("< " ++ text) []]

def refusal : LogRecord :=
  .make .client .debug "failed to answer server request"
    [("error", (Error.io .brokenPipe).message)]

def isAsked : Option Message -> Bool
  | some (.request _) => true
  | _ => false

def untilAsked :
    List (String × Option Message) -> List (String × Option Message) × Bool
  | [] => ([], false)
  | body :: rest =>
    if isAsked body.2 then ([body], true)
    else
      let (bodies, asked) := untilAsked rest
      (body :: bodies, asked)

namespace Listener

def answers (listener : Listener) (messages : List Message) : List Message :=
  messages.filterMap fun message =>
    match Rpc.react listener.configuration message with
    | .answer answer => some answer
    | .forward _ => none

def forwarded (listener : Listener) (messages : List Message) : List Message :=
  messages.filterMap fun message =>
    match Rpc.react listener.configuration message with
    | .answer _ => none
    | .forward message => some message

def feed (bytes : Bytes) (scene : Shell.Scene) : Shell.Scene :=
  if bytes.isEmpty then scene
  else scene.setPipe inputNumber ((scene.pipe inputNumber).write bytes)

def drain (isOpen : Bool) (scene : Shell.Scene) : Shell.Scene :=
  scene.setPipe outputNumber { isDrained := isOpen }

/-- Whether there is someone to read an answer. One that a program is too late to read, because it
has ended, was given all the same. -/
def canAnswer (scene : Shell.Scene) : Bool :=
  scene.holds (.source inputNumber) || isOver scene

/-- Reads what was written. There is no more to come once the program has closed its output, or once
an answer could not be given. -/
def hear (listener : Listener) (scene : Shell.Scene) :
    Rpc.Arrival × Listener × Shell.Scene :=
  if !listener.isListening then ({ isOpen := false }, listener, scene)
  else
    let contents := Rpc.Frame.readAll (listener.unread ++ written outputNumber scene)
    let isRead := canAnswer scene
    let (bodies, isRefused) :=
      if isRead then (contents.bodies, false) else untilAsked contents.bodies
    let messages := bodies.filterMap Prod.snd
    let answers := listener.answers messages
    let isOpen := !contents.isBroken && !isRefused && scene.isWritten outputNumber
    let arrival : Rpc.Arrival := {
      messages := listener.forwarded messages
      records := bodies.flatMap (fun (text, message) => bodyRecords text message) ++
        if isRefused then [refusal] else []
      isOpen }
    let listener := { listener with
      unread := contents.rest
      isListening := isOpen
      heard := listener.heard ++ messages
      replies := listener.replies ++ answers.map fun answer => (answer, isRead) }
    let written := if isRead then answers.flatMap Rpc.Frame.write else []
    (arrival, listener, feed written (drain isOpen scene))

end Listener

/-- Lets a program go on until a time has come, until nothing can happen before, or until what was
heard is enough. -/
def attend (enough : Shell.Scene -> Rpc.Arrival -> Bool) (limit : Nat) :
    Shell.Thread Shell.Scene -> Nat -> Listener -> Rpc.Arrival -> Rpc.Arrival × Child
  | .ended scene, now, listener, heard =>
    let (arrival, listener, scene) := listener.hear scene
    (heard.append arrival, { run := { thread := .ended scene, now }, listener })
  | .paused ready wake? scene resume, now, listener, heard =>
    let (arrival, listener, scene) := listener.hear scene
    let heard := heard.append arrival
    let stay (now : Nat) : Rpc.Arrival × Child :=
      (heard, { run := { thread := .paused ready wake? scene resume, now }, listener })
    if enough scene heard then stay now
    else if ready scene then attend enough limit (resume now scene) now listener heard
    else
      match wake? with
      | none => stay limit
      | some wake =>
        if limit < wake then stay limit
        else attend enough limit (resume (max now wake) scene) (max now wake) listener heard

namespace Child

def write (message : Message) (child : Child) : Except Error Unit × Child :=
  if child.run.scene.holds (.source inputNumber) then
    let scene := Listener.feed (Rpc.Frame.write message) child.run.scene
    (.ok (), { child with run := { child.run with thread := child.run.thread.withState scene } })
  else (.error (.io .brokenPipe), child)

def attended (enough : Shell.Scene -> Rpc.Arrival -> Bool) (milliseconds : Nat) (child : Child) :
    Rpc.Arrival × Child :=
  let now := child.run.now
  attend enough (now + milliseconds) child.run.thread now child.listener {}

def listen (wanted : Message -> Bool) (milliseconds : Nat) (child : Child) :
    Rpc.Arrival × Child :=
  if milliseconds == 0 then ({ isOpen := child.listener.isListening }, child)
  else child.attended (fun _ heard => !heard.isOpen || heard.messages.any wanted) milliseconds

def wire : Rpc.Wire Child where
  write := write
  listen := listen

/-- Waits for the program to end by itself; after the time it is given it is killed. -/
def terminate (child : Child) : Rpc.Arrival × Child :=
  child.attended (fun scene _ => isOver scene) Rpc.Talk.shutdownLimit

def parting (child : Child) : LogRecord :=
  match child.run.scene.ending? processNumber with
  | some ending => .make .client .debug "language server exited" [("status", ending.text)]
  | none => .make .client .warn "language server did not exit; killing it" []

end Child

end AnsibleTooling.Machine
