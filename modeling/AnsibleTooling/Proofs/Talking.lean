import AnsibleTooling.Rpc.Connection

set_option autoImplicit false

namespace AnsibleTooling.Rpc

open Json (Value)

def notifications (messages : List Message) : List Notification :=
  messages.filterMap Message.notification?

@[simp] theorem notifications_append (first second : List Message) :
    notifications (first ++ second) = notifications first ++ notifications second :=
  List.filterMap_append ..

theorem notifications_cons (message : Message) (rest : List Message) :
    notifications (message :: rest) = message.notification?.toList ++ notifications rest := by
  cases told : message.notification? <;> simp [notifications, told]

def Message.request? : Message -> Option Request
  | .request asked => some asked
  | _ => none

def requests (messages : List Message) : List Request :=
  messages.filterMap Message.request?

@[simp] theorem requests_append (first second : List Message) :
    requests (first ++ second) = requests first ++ requests second :=
  List.filterMap_append ..

theorem Message.responseTo?_eq_some {id : RequestId} {message : Message} {response : Response} :
    message.responseTo? id = some response ↔ message = .response response ∧ response.id = id := by
  unfold Message.responseTo?
  split <;> grind

theorem Message.notification?_eq_some {message : Message} {told : Notification} :
    message.notification? = some told ↔ message = .notification told := by
  unfold Message.notification?
  split <;> grind

theorem Notification.ofMethod?_eq_none {method : String} {told : Notification} :
    told.ofMethod? method = none ↔ told.method ≠ method := by
  simp [Notification.ofMethod?]

theorem Notification.ofMethod?_eq_some {method : String} {told : Notification} {value : Value} :
    told.ofMethod? method = some value ↔ told.method = method ∧ told.parameters = value := by
  simp [Notification.ofMethod?]

def toldOf? (method : String) (message : Message) : Option Value :=
  message.notification?.bind (Notification.ofMethod? method)

theorem toldOf?_eq_some {method : String} {message : Message} {value : Value}
    (fits : toldOf? method message = some value) :
    ∃ told : Notification,
      message = .notification told ∧ told.method = method ∧ told.parameters = value := by
  obtain ⟨told, is, right⟩ := Option.bind_eq_some_iff.mp fits
  exact ⟨told, Message.notification?_eq_some.mp is, Notification.ofMethod?_eq_some.mp right⟩

theorem others_of_unwanted {method : String} {messages : List Message}
    (unwanted : ∀ message ∈ messages, toldOf? method message = none) :
    ∀ passed ∈ notifications messages, passed.method ≠ method := by
  intro passed isPassed
  obtain ⟨message, isThere, told⟩ := List.mem_filterMap.mp isPassed
  have unfit := unwanted message isThere
  rw [toldOf?, told] at unfit
  exact Notification.ofMethod?_eq_none.mp unfit

namespace Mailbox

variable {A B : Type}

inductive Looked (wanted : Message -> Option A) :
    List Message -> List Notification × Option A × List Message -> Prop
  | nothing {messages : List Message} (unwanted : ∀ message ∈ messages, wanted message = none) :
    Looked wanted messages (notifications messages, none, [])
  | found {earlier : List Message} {message : Message} {value : A} {rest : List Message}
    (unwanted : ∀ message ∈ earlier, wanted message = none) (fits : wanted message = some value) :
    Looked wanted (earlier ++ message :: rest) (notifications earlier, some value, rest)

theorem look_spec (wanted : Message -> Option A) (messages : List Message) :
    Looked wanted messages (look wanted messages) := by
  induction messages with
  | nil => exact .nothing (by simp)
  | cons message rest ih =>
    unfold look
    cases fits : wanted message with
    | some value =>
      change Looked wanted ([] ++ message :: rest) (notifications [], some value, rest)
      exact .found (by simp) fits
    | none =>
      -- What is passed over comes before what the look at the rest has passed over.
      generalize ended : look wanted rest = outcome at ih
      dsimp only
      cases ih with
      | nothing unwanted =>
        rw [← notifications_cons]
        exact .nothing (List.forall_mem_cons.mpr ⟨fits, unwanted⟩)
      | found unwanted later =>
        rw [← notifications_cons, ← List.cons_append]
        exact .found (List.forall_mem_cons.mpr ⟨fits, unwanted⟩) later

theorem look_append {wanted : Message -> Option A} {first : List Message}
    (missing : (look wanted first).2.1 = none) (second : List Message) :
    look wanted (first ++ second) =
      (notifications first ++ (look wanted second).1, (look wanted second).2) := by
  induction first with
  | nil => rfl
  | cons message rest ih =>
    rw [List.cons_append, look]
    unfold look at missing
    cases fits : wanted message with
    | some value =>
      rw [fits] at missing
      cases missing
    | none =>
      rw [fits] at missing
      rw [ih missing, notifications_cons, List.append_assoc]

theorem look_missing {wanted : Message -> Option A} {messages : List Message}
    (missing : (look wanted messages).2.1 = none) :
    look wanted messages = (notifications messages, none, []) := by
  have append := look_append missing []
  simpa [look] using append

theorem take_deliver {wanted : Message -> Option A} {mailbox : Mailbox}
    (missing : (mailbox.take wanted).1 = none) (arrival : Arrival) :
    ((mailbox.take wanted).2.deliver arrival).take wanted =
      (mailbox.deliver arrival).take wanted := by
  have ended : (look wanted mailbox.channel).2.1 = none := missing
  simp [take, deliver, look_append ended, look_missing ended]

inductive Extracted (fits : B -> Option A) : List B -> Option A × List B -> Prop
  | nothing {items : List B} (unfit : ∀ item ∈ items, fits item = none) :
    Extracted fits items (none, items)
  | found {earlier : List B} {item : B} {value : A} {rest : List B}
    (unfit : ∀ item ∈ earlier, fits item = none) (right : fits item = some value) :
    Extracted fits (earlier ++ item :: rest) (some value, earlier ++ rest)

theorem extract_spec (fits : B -> Option A) (items : List B) :
    Extracted fits items (extract fits items) := by
  induction items with
  | nil => exact .nothing (by simp)
  | cons item rest ih =>
    unfold extract
    cases right : fits item with
    | some value =>
      change Extracted fits ([] ++ item :: rest) (some value, [] ++ rest)
      exact .found (by simp) right
    | none =>
      generalize ended : extract fits rest = outcome at ih
      dsimp only
      cases ih with
      | nothing unfit => exact .nothing (List.forall_mem_cons.mpr ⟨right, unfit⟩)
      | found unfit later =>
        rw [← List.cons_append, ← List.cons_append]
        exact .found (List.forall_mem_cons.mpr ⟨right, unfit⟩) later

end Mailbox

namespace Talk

variable {W A B : Type} (connection : Connection W)

@[simp] theorem perform_pure (value : A) :
    (pure value : Talk W A).perform connection = (.ok value, connection) := rfl

@[simp] theorem perform_throw (error : Error) :
    (throw error : Talk W A).perform connection = (.error error, connection) := rfl

theorem perform_bind (talk : Talk W A) (next : A -> Talk W B) :
    (talk >>= next).perform connection =
      match talk.perform connection with
      | (.ok value, connection) => (next value).perform connection
      | (.error error, connection) => (.error error, connection) := by
  rcases performed : talk.perform connection with ⟨_ | _, _⟩ <;>
    simp_all [perform, bind, ExceptT.bind, ExceptT.bindCont, ExceptT.mk, ExceptT.run,
      StateT.run, StateT.bind]
  rfl

theorem perform_map (change : A -> B) (talk : Talk W A) :
    (change <$> talk).perform connection =
      ((talk.perform connection).1.map change, (talk.perform connection).2) := by
  rw [← bind_pure_comp, perform_bind]
  rcases talk.perform connection with ⟨_ | _, _⟩ <;> rfl

@[simp] theorem perform_get :
    (get : Talk W (Connection W)).perform connection = (.ok connection, connection) := rfl

@[simp] theorem perform_set (next : Connection W) :
    (set next : Talk W Unit).perform connection = (.ok (), next) := rfl

@[simp] theorem perform_modify (change : Connection W -> Connection W) :
    (modify change : Talk W Unit).perform connection = (.ok (), change connection) := rfl

@[simp] theorem perform_modifyGet (change : Connection W -> A × Connection W) :
    (modifyGet change : Talk W A).perform connection =
      (.ok (change connection).1, (change connection).2) := rfl

@[simp] theorem perform_outcome (talk : Talk W A) :
    (outcome talk).perform connection =
      (.ok (talk.perform connection).1, (talk.perform connection).2) := rfl

@[simp] theorem perform_take (wanted : Message -> Option A) :
    (take wanted).perform connection =
      (.ok (connection.mailbox.take wanted).1,
        { connection with mailbox := (connection.mailbox.take wanted).2 }) := rfl

@[simp] theorem perform_checkOpen :
    (checkOpen : Talk W Unit).perform connection =
      (if connection.mailbox.isOpen then .ok () else .error (.languageServer "server exited"),
        connection) := by
  cases isOpen : connection.mailbox.isOpen <;> simp [checkOpen, perform_bind, isOpen]

theorem perform_attempt (failed : String) (talk : Talk W A) :
    ∃ records, (attempt failed talk).perform connection =
      (.ok (), { (talk.perform connection).2 with records }) := by
  cases performed : talk.perform connection with
  | mk result after =>
    cases result with
    | ok value => exact ⟨after.records, by simp [attempt, perform_bind, performed]⟩
    | error error => exact ⟨_, by simp [attempt, perform_bind, performed]; rfl⟩

variable (wire : Wire W)

def sent (message : Message) : Connection W :=
  { connection with
    far := (wire.write message connection.far).2
    history := connection.history ++
      [.sent message (wire.write message connection.far).1.toBool] }

@[simp] theorem perform_write (message : Message) :
    (write wire message).perform connection =
      ((wire.write message connection.far).1, sent connection wire message) := by
  cases written : (wire.write message connection.far).1 <;>
    simp [write, perform_bind, written, sent]

@[simp] theorem perform_notify (method : String) (parameters : Value) :
    (notify wire method parameters).perform connection =
      ((wire.write (.notification { method, parameters }) connection.far).1,
        sent connection wire (.notification { method, parameters })) :=
  perform_write ..

inductive Overheard (near : W) : Arrival -> W -> Prop
  | nothing : Overheard near {} near
  | listened (wanted : Message -> Bool) (milliseconds : Nat) :
    Overheard near (wire.listen wanted milliseconds near).1
      (wire.listen wanted milliseconds near).2

def overhear (arrival : Arrival) (far : W) : Connection W :=
  { connection with far }.deliver arrival

@[simp] theorem perform_listen (wanted : Message -> Bool) (milliseconds : Nat) :
    (listen wire wanted milliseconds).perform connection =
      (.ok (), overhear connection (wire.listen wanted milliseconds connection.far).1
        (wire.listen wanted milliseconds connection.far).2) := rfl

@[simp] theorem overhear_nothing : overhear connection {} connection.far = connection := by
  simp [overhear, Connection.deliver, Mailbox.deliver]

def received (found : Option A) (isOpen : Bool) : Except Error (Option A) :=
  match found with
  | some value => .ok (some value)
  | none => if isOpen then .ok none else .error (.languageServer "server exited")

def waited (arrival : Arrival) (far : W) (rest : List Message) (passed : List Notification) :
    Connection W :=
  { overhear connection arrival far with
    mailbox := {
      channel := rest
      isOpen := connection.mailbox.isOpen && arrival.isOpen
      pending := connection.mailbox.pending ++ passed } }

/-- How waiting ends: at the first message wanted, or with none of them wanted. Whatever comes in
meanwhile, it is as if all of it had been there before. -/
inductive Received (wanted : Message -> Option A) : Except Error (Option A) × Connection W -> Prop
  | found {arrival : Arrival} {far : W} {earlier rest : List Message} {message : Message} {value : A}
    (overheard : Overheard wire connection.far arrival far)
    (meets : connection.mailbox.channel ++ arrival.messages = earlier ++ message :: rest)
    (unwanted : ∀ message ∈ earlier, wanted message = none) (fits : wanted message = some value) :
    Received wanted
      (.ok (some value), waited connection arrival far rest (notifications earlier))
  | missed {arrival : Arrival} {far : W}
    (overheard : Overheard wire connection.far arrival far)
    (unwanted : ∀ message ∈ connection.mailbox.channel ++ arrival.messages, wanted message = none) :
    Received wanted (received none (connection.mailbox.isOpen && arrival.isOpen),
      waited connection arrival far []
        (notifications (connection.mailbox.channel ++ arrival.messages)))

theorem received_take {arrival : Arrival} {far : W}
    (overheard : Overheard wire connection.far arrival far) (wanted : Message -> Option A) :
    let after := overhear connection arrival far
    Received connection wire wanted
      (received (after.mailbox.take wanted).1 after.mailbox.isOpen,
        { after with mailbox := (after.mailbox.take wanted).2 }) := by
  have looked := Mailbox.look_spec wanted (connection.mailbox.channel ++ arrival.messages)
  simp only [Mailbox.take, overhear, Connection.deliver, Mailbox.deliver]
  generalize ended : Mailbox.look _ (connection.mailbox.channel ++ arrival.messages) = outcome
    at looked
  generalize all : connection.mailbox.channel ++ arrival.messages = messages at looked
  cases looked with
  | found unwanted fits => exact .found overheard all unwanted fits
  | nothing unwanted =>
    subst all
    exact .missed overheard unwanted

theorem receive_received (wanted : Message -> Option A) (milliseconds : Nat) :
    Received connection wire wanted
      ((receive wire wanted milliseconds).perform connection) := by
  -- What a look leaves is as open as the whole.
  have still (mailbox : Mailbox) : (mailbox.take wanted).2.isOpen = mailbox.isOpen := rfl
  cases found : (connection.mailbox.take wanted).1 with
  | some value =>
    have taken := received_take connection wire .nothing wanted
    simpa [receive, perform_bind, found, received] using taken
  | none =>
    cases isOpen : connection.mailbox.isOpen with
    | false =>
      have taken := received_take connection wire .nothing wanted
      simpa [receive, perform_bind, found, received, isOpen, still] using taken
    | true =>
      have taken := received_take connection wire
        (.listened (fun message => (wanted message).isSome) milliseconds) wanted
      cases listened : wire.listen (fun message => (wanted message).isSome) milliseconds
        connection.far with
      | mk arrival far =>
        have later := Mailbox.take_deliver found arrival
        rw [listened] at taken
        cases ended : ((connection.mailbox.deliver arrival).take wanted).1 <;>
          cases more : (connection.mailbox.deliver arrival).isOpen <;>
          simpa [receive, perform_bind, perform_map, found, isOpen, still, listened, overhear,
            Connection.deliver, later, ended, more, received, Except.map] using taken

def nextRequest (method : String) (parameters : Value) : Message :=
  .request { id := .number (connection.lastId + 1), method, parameters }

def asked (method : String) (parameters : Value) : Connection W :=
  { sent connection wire (nextRequest connection method parameters) with
    lastId := connection.lastId + 1 }

inductive Settles (method : String) (response : Response) : Except Error Value -> Prop
  | fulfilled (fine : response.failure = none) :
    Settles method response (.ok (response.result.getD .null))
  | rejected {failure : Failure} (failed : response.failure = some failure) :
    Settles method response (.error (.languageServer s!"{method} failed: {failure.message}"))

theorem accept_settles (method : String) (response : Response) :
    Settles method response (accept method response) := by
  unfold accept
  split
  case h_1 failure failed => exact .rejected failed
  case h_2 fine => exact .fulfilled fine

/-- How a request ends: it was not written, the first response to it has come, or none has. -/
inductive Answered (method : String) (parameters : Value) :
    Except Error Value × Connection W -> Prop
  | unwritten {error : Error}
    (failed : (wire.write (nextRequest connection method parameters) connection.far).1 =
      .error error) :
    Answered method parameters (.error error, asked connection wire method parameters)
  | answered {arrival : Arrival} {far : W} {earlier rest : List Message} {response : Response}
    {result : Except Error Value}
    (written : (wire.write (nextRequest connection method parameters) connection.far).1 = .ok ())
    (overheard : Overheard wire (asked connection wire method parameters).far arrival far)
    (meets : connection.mailbox.channel ++ arrival.messages = earlier ++ .response response :: rest)
    (unrelated : ∀ message ∈ earlier,
      message.responseTo? (.number (connection.lastId + 1)) = none)
    (own : response.id = .number (connection.lastId + 1))
    (settles : Settles method response result) :
    Answered method parameters (result,
      waited (asked connection wire method parameters) arrival far rest (notifications earlier))
  | unanswered {arrival : Arrival} {far : W} {reason : String}
    (written : (wire.write (nextRequest connection method parameters) connection.far).1 = .ok ())
    (overheard : Overheard wire (asked connection wire method parameters).far arrival far)
    (unrelated : ∀ message ∈ connection.mailbox.channel ++ arrival.messages,
      message.responseTo? (.number (connection.lastId + 1)) = none)
    (told : reason = s!"{method} timed out" ∨ reason = "server exited") :
    Answered method parameters (.error (.languageServer reason),
      waited (asked connection wire method parameters) arrival far []
        (notifications (connection.mailbox.channel ++ arrival.messages)))

def settled (method : String) : Except Error (Option Response) -> Except Error Value
  | .ok (some response) => accept method response
  | .ok none => .error (.languageServer s!"{method} timed out")
  | .error error => .error error

theorem settled_nothing (method : String) (isOpen : Bool) :
    ∃ reason, settled method (received none isOpen) = .error (.languageServer reason) ∧
      (reason = s!"{method} timed out" ∨ reason = "server exited") := by
  cases isOpen with
  | true => exact ⟨_, rfl, .inl rfl⟩
  | false => exact ⟨_, rfl, .inr rfl⟩

theorem perform_request (method : String) (parameters : Value) (milliseconds : Nat) :
    (request wire method parameters milliseconds).perform connection =
      match (wire.write (nextRequest connection method parameters) connection.far).1 with
      | .error error => (.error error, asked connection wire method parameters)
      | .ok _ =>
        let heard := (receive wire (Message.responseTo? (.number (connection.lastId + 1)))
          milliseconds).perform (asked connection wire method parameters)
        (settled method heard.1, heard.2) := by
  simp only [request, perform_bind, perform_modify, perform_get, perform_write,
    nextRequest, asked, sent]
  cases wire.write _ connection.far with
  | mk result far =>
    cases result with
    | error => rfl
    | ok =>
      dsimp only
      cases (receive wire _ milliseconds).perform _ with
      | mk heard after =>
        rcases heard with error | response?
        · rfl
        · cases response? with
          | none => rfl
          | some response =>
            cases accepted : accept method response <;> simp [settled, accepted]

theorem request_answered (method : String) (parameters : Value) (milliseconds : Nat) :
    Answered connection wire method parameters
      ((request wire method parameters milliseconds).perform connection) := by
  rw [perform_request]
  cases written : (wire.write (nextRequest connection method parameters) connection.far).1 with
  | error error => exact .unwritten written
  | ok =>
    have heard := receive_received (asked connection wire method parameters) wire
      (Message.responseTo? (.number (connection.lastId + 1))) milliseconds
    dsimp only
    generalize (receive wire _ milliseconds).perform _ = outcome at heard
    cases heard with
    | found overheard meets unrelated fits =>
      obtain ⟨rfl, own⟩ := Message.responseTo?_eq_some.mp fits
      exact .answered written overheard meets unrelated own (accept_settles method _)
    | missed overheard unrelated =>
      obtain ⟨reason, stuck, told⟩ := settled_nothing method _
      dsimp only
      rw [stuck]
      exact .unanswered written overheard unrelated told

inductive Awaited (method : String) : Except Error (Option Value) × Connection W -> Prop
  | kept {earlier later : List Notification} {told : Notification}
    (keeps : connection.mailbox.pending = earlier ++ told :: later)
    (others : ∀ passed ∈ earlier, passed.method ≠ method) (fits : told.method = method) :
    Awaited method (.ok (some told.parameters),
      { connection with
        mailbox := { connection.mailbox with pending := earlier ++ later } })
  | found {arrival : Arrival} {far : W} {earlier rest : List Message} {told : Notification}
    (unkept : ∀ passed ∈ connection.mailbox.pending, passed.method ≠ method)
    (overheard : Overheard wire connection.far arrival far)
    (meets : connection.mailbox.channel ++ arrival.messages = earlier ++ .notification told :: rest)
    (others : ∀ passed ∈ notifications earlier, passed.method ≠ method)
    (fits : told.method = method) :
    Awaited method (.ok (some told.parameters),
      waited connection arrival far rest (notifications earlier))
  | missed {arrival : Arrival} {far : W}
    (unkept : ∀ passed ∈ connection.mailbox.pending, passed.method ≠ method)
    (overheard : Overheard wire connection.far arrival far)
    (others : ∀ passed ∈ notifications (connection.mailbox.channel ++ arrival.messages),
      passed.method ≠ method) :
    Awaited method (received none (connection.mailbox.isOpen && arrival.isOpen),
      waited connection arrival far []
        (notifications (connection.mailbox.channel ++ arrival.messages)))

theorem perform_await (method : String) (milliseconds : Nat) :
    (await wire method milliseconds).perform connection =
      match connection.mailbox.takePending method with
      | (some value, mailbox) => (.ok (some value), { connection with mailbox })
      | (none, mailbox) =>
        (receive wire (toldOf? method) milliseconds).perform { connection with mailbox } := by
  cases taken : connection.mailbox.takePending method with
  | mk found mailbox =>
    cases found with
    | none =>
      simp only [await, perform_bind, perform_modifyGet, taken]
      rfl
    | some value => simp [await, perform_bind, taken]

theorem await_awaited (method : String) (milliseconds : Nat) :
    Awaited connection wire method ((await wire method milliseconds).perform connection) := by
  rw [perform_await, Mailbox.takePending]
  have extracted := Mailbox.extract_spec (Notification.ofMethod? method) connection.mailbox.pending
  generalize ended : Mailbox.extract _ connection.mailbox.pending = outcome at extracted
  generalize keeps : connection.mailbox.pending = pending at extracted
  cases extracted with
  | found unfit right =>
    obtain ⟨own, rfl⟩ := Notification.ofMethod?_eq_some.mp right
    exact .kept keeps (fun passed isPassed =>
      Notification.ofMethod?_eq_none.mp (unfit passed isPassed)) own
  | nothing unfit =>
    have unkept (passed : Notification) (isKept : passed ∈ connection.mailbox.pending) :
        passed.method ≠ method :=
      Notification.ofMethod?_eq_none.mp (unfit passed (keeps ▸ isKept))
    subst keeps
    have heard := receive_received connection wire (toldOf? method) milliseconds
    dsimp only
    generalize (receive wire _ milliseconds).perform _ = outcome at heard
    cases heard with
    | found overheard meets unwanted fits =>
      obtain ⟨told, rfl, own, rfl⟩ := toldOf?_eq_some fits
      exact .found unkept overheard meets (others_of_unwanted unwanted) own
    | missed overheard unwanted =>
      exact .missed unkept overheard (others_of_unwanted unwanted)

end Talk

end AnsibleTooling.Rpc
