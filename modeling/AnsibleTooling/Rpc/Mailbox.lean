import AnsibleTooling.Log
import AnsibleTooling.Rpc.Message
/-!
What has arrived from a server. Messages are looked at in the order of their arrival; while one is
looked for, the notifications before it are kept, and responses nobody waits for are dropped.
-/

set_option autoImplicit false

namespace AnsibleTooling.Rpc

/-- Messages that came in while listening, what was logged of that, and whether more can come. -/
structure Arrival where
  messages : List Message := []
  records : List LogRecord := []
  isOpen : Bool := true

def Arrival.append (first second : Arrival) : Arrival :=
  { messages := first.messages ++ second.messages
    records := first.records ++ second.records
    isOpen := second.isOpen }

structure Mailbox where
  -- Messages not yet looked at.
  channel : List Message := []
  isOpen : Bool := true
  -- Notifications that were passed over.
  pending : List Notification := []

def Message.notification? : Message -> Option Notification
  | .notification told => some told
  | _ => none

def Message.responseTo? (id : RequestId) : Message -> Option Response
  | .response given => if given.id = id then some given else none
  | _ => none

def Notification.ofMethod? (method : String) (notification : Notification) : Option Json.Value :=
  if notification.method = method then some notification.parameters else none

namespace Mailbox

variable {A : Type}

def deliver (mailbox : Mailbox) (arrival : Arrival) : Mailbox :=
  { mailbox with
    channel := mailbox.channel ++ arrival.messages
    isOpen := mailbox.isOpen && arrival.isOpen }

/-- Looks for a message; gives the notifications before it and what comes after it. -/
def look (wanted : Message -> Option A) :
    List Message -> List Notification × Option A × List Message
  | [] => ([], none, [])
  | message :: rest =>
    match wanted message with
    | some value => ([], some value, rest)
    | none =>
      let (passed, found, rest) := look wanted rest
      (message.notification?.toList ++ passed, found, rest)

def take (wanted : Message -> Option A) (mailbox : Mailbox) : Option A × Mailbox :=
  let (passed, found, rest) := look wanted mailbox.channel
  (found, { mailbox with channel := rest, pending := mailbox.pending ++ passed })

def extract {B : Type} (fits : B -> Option A) : List B -> Option A × List B
  | [] => (none, [])
  | item :: rest =>
    match fits item with
    | some value => (some value, rest)
    | none =>
      let (found, rest) := extract fits rest
      (found, item :: rest)

def takePending (method : String) (mailbox : Mailbox) : Option Json.Value × Mailbox :=
  let (found, pending) := extract (Notification.ofMethod? method) mailbox.pending
  (found, { mailbox with pending })

end Mailbox

end AnsibleTooling.Rpc
