import AnsibleTooling.Proofs.Talking

set_option autoImplicit false

namespace AnsibleTooling.Rpc

open Json (Value)

def Event.came? : Event -> Option Message
  | .came message => some message
  | .sent .. => none

def arrivals (history : List Event) : List Message :=
  history.filterMap Event.came?

@[simp] theorem arrivals_append (first second : List Event) :
    arrivals (first ++ second) = arrivals first ++ arrivals second :=
  List.filterMap_append ..

@[simp] theorem arrivals_sent (message : Message) (isWritten : Bool) :
    arrivals [.sent message isWritten] = [] := rfl

@[simp] theorem arrivals_came (messages : List Message) :
    arrivals (messages.map .came) = messages := by
  simp [arrivals, List.filterMap_map, Function.comp_def, Event.came?]

def toldOf (method : String) (told : List Notification) : List Value :=
  told.filterMap (Notification.ofMethod? method)

@[simp] theorem toldOf_append (method : String) (first second : List Notification) :
    toldOf method (first ++ second) = toldOf method first ++ toldOf method second :=
  List.filterMap_append ..

theorem toldOf_others {method : String} {told : List Notification}
    (others : ∀ passed ∈ told, passed.method ≠ method) : toldOf method told = [] :=
  List.filterMap_eq_nil_iff.mpr fun passed isPassed =>
    Notification.ofMethod?_eq_none.mpr (others passed isPassed)

theorem toldOf_overtake {passed : List Notification} {told : Notification}
    (others : ∀ earlier ∈ passed, earlier.method ≠ told.method) (method : String) :
    toldOf method (told :: passed) = toldOf method (passed ++ [told]) := by
  by_cases own : method = told.method
  · have silent : toldOf method passed = [] := own ▸ toldOf_others others
    rw [toldOf_append, silent, ← List.singleton_append, toldOf_append, silent, List.append_nil,
      List.nil_append]
  · have unfit : told.ofMethod? method = none :=
      Notification.ofMethod?_eq_none.mpr (Ne.symm own)
    simp [toldOf, unfit]

namespace Mailbox

/-- The notifications that no caller was given: first those passed over. -/
def outstanding (mailbox : Mailbox) : List Notification :=
  mailbox.pending ++ notifications mailbox.channel

def pass (mailbox : Mailbox) : Mailbox :=
  match mailbox.channel with
  | [] => mailbox
  | message :: rest =>
    { mailbox with
      channel := rest
      pending := mailbox.pending ++ message.notification?.toList }

theorem pass_outstanding (mailbox : Mailbox) : mailbox.pass.outstanding = mailbox.outstanding := by
  rcases mailbox with ⟨_ | ⟨message, rest⟩, isOpen, pending⟩
  · rfl
  · simp [pass, outstanding, notifications_cons]

theorem pass_suffix (mailbox : Mailbox) : mailbox.pass.channel <:+ mailbox.channel := by
  rcases mailbox with ⟨_ | ⟨message, rest⟩, isOpen, pending⟩
  · exact List.suffix_rfl
  · exact List.suffix_cons message rest

/-- How the messages that are there are gone through, one after the other. -/
inductive Searched {A : Type} (wanted : Message -> Option A) :
    Mailbox -> Option A × Mailbox -> Prop
  | ended {mailbox : Mailbox} (empty : mailbox.channel = []) :
    Searched wanted mailbox (none, mailbox)
  | met {mailbox : Mailbox} {message : Message} {rest : List Message} {value : A}
    (next : mailbox.channel = message :: rest) (fits : wanted message = some value) :
    Searched wanted mailbox (some value, { mailbox with channel := rest })
  | passed {mailbox : Mailbox} {message : Message} {rest : List Message}
    {outcome : Option A × Mailbox} (next : mailbox.channel = message :: rest)
    (unfit : wanted message = none) (later : Searched wanted mailbox.pass outcome) :
    Searched wanted mailbox outcome

theorem take_searched {A : Type} (wanted : Message -> Option A) (mailbox : Mailbox) :
    Searched wanted mailbox (mailbox.take wanted) := by
  rcases mailbox with ⟨channel, isOpen, pending⟩
  induction channel generalizing pending with
  | nil =>
    have ended : Searched wanted ⟨[], isOpen, pending⟩ (none, _) := .ended rfl
    simpa [take, look] using ended
  | cons message rest ih =>
    cases fits : wanted message with
    | some value =>
      have met : Searched wanted ⟨message :: rest, isOpen, pending⟩ (some value, _) := .met rfl fits
      simpa [take, look, fits] using met
    | none =>
      have later := ih (pending ++ message.notification?.toList)
      refine .passed rfl fits ?_
      simpa [take, look, fits, pass] using later

end Mailbox

variable {W : Type} {wire : Wire W} {connection : Connection W} {returned : List Notification}

/-- What callers were given and what is outstanding is all that has come in, each method in its
order; what was not looked at came in last. -/
structure Accounted (returned : List Notification) (connection : Connection W) : Prop where
  told (method : String) : toldOf method (returned ++ connection.mailbox.outstanding) =
    toldOf method (notifications (arrivals connection.history))
  unseen : connection.mailbox.channel <:+ arrivals connection.history

theorem accounted_fresh (far : W) : Accounted [] ({ far } : Connection W) :=
  ⟨fun _ => rfl, List.suffix_rfl⟩

theorem mem_toldOf {told : Notification} {all : List Notification} :
    told.parameters ∈ toldOf told.method all ↔ told ∈ all := by
  constructor
  case mp =>
    intro isTold
    obtain ⟨other, isThere, right⟩ := List.mem_filterMap.mp isTold
    obtain ⟨sameMethod, sameParameters⟩ := Notification.ofMethod?_eq_some.mp right
    have same : other = told := by
      cases other
      cases told
      simp_all
    exact same ▸ isThere
  case mpr =>
    intro isThere
    exact List.mem_filterMap.mpr
      ⟨told, isThere, Notification.ofMethod?_eq_some.mpr ⟨rfl, rfl⟩⟩

theorem Accounted.arrivedFrom (accounted : Accounted returned connection) {told : Notification}
    (isThere : told ∈ returned ++ connection.mailbox.outstanding) :
    .notification told ∈ arrivals connection.history := by
  have isTold := mem_toldOf.mpr isThere
  rw [accounted.told, mem_toldOf] at isTold
  obtain ⟨message, came, is⟩ := List.mem_filterMap.mp isTold
  exact Message.notification?_eq_some.mp is ▸ came

theorem Accounted.came (accounted : Accounted returned connection) {told : Notification}
    (isReturned : told ∈ returned) : .notification told ∈ arrivals connection.history :=
  accounted.arrivedFrom (List.mem_append_left _ isReturned)

theorem Accounted.arrived (accounted : Accounted returned connection) {told : Notification}
    (isThere : told ∈ connection.mailbox.outstanding) :
    .notification told ∈ arrivals connection.history :=
  accounted.arrivedFrom (List.mem_append_right _ isThere)

theorem accounted_deliver (accounted : Accounted returned connection) (arrival : Arrival) :
    Accounted returned (connection.deliver arrival) := by
  constructor
  case told =>
    intro method
    have before := accounted.told method
    simp only [Mailbox.outstanding, toldOf_append] at before
    simp [Connection.deliver, Mailbox.deliver, Mailbox.outstanding, ← before]
  case unseen =>
    obtain ⟨seen, whole⟩ := accounted.unseen
    exact ⟨seen, by simp [Connection.deliver, Mailbox.deliver, ← whole]⟩

theorem Accounted.congr {next : Connection W} (accounted : Accounted returned connection)
    (outstanding : next.mailbox.outstanding = connection.mailbox.outstanding)
    (unseen : next.mailbox.channel <:+ connection.mailbox.channel)
    (came : arrivals next.history = arrivals connection.history) : Accounted returned next := by
  constructor
  case told =>
    intro method
    rw [outstanding, came]
    exact accounted.told method
  case unseen =>
    rw [came]
    exact unseen.trans accounted.unseen

theorem Accounted.give {next : Connection W} {told : Notification}
    {before after : List Notification} (accounted : Accounted returned connection)
    (outstanding : connection.mailbox.outstanding = before ++ told :: after)
    (others : ∀ passed ∈ before, passed.method ≠ told.method)
    (left : next.mailbox.outstanding = before ++ after)
    (unseen : next.mailbox.channel <:+ connection.mailbox.channel)
    (came : arrivals next.history = arrivals connection.history) :
    Accounted (returned ++ [told]) next := by
  constructor
  case told =>
    intro method
    have overtaken := toldOf_overtake others method
    rw [← List.singleton_append, toldOf_append, toldOf_append] at overtaken
    have whole := accounted.told method
    rw [outstanding, ← List.singleton_append, toldOf_append, toldOf_append, toldOf_append,
      ← List.append_assoc (toldOf method before), ← overtaken] at whole
    rw [left, came, ← whole]
    simp only [toldOf_append, List.append_assoc]
  case unseen =>
    rw [came]
    exact unseen.trans accounted.unseen

theorem accounted_pass (accounted : Accounted returned connection) :
    Accounted returned { connection with mailbox := connection.mailbox.pass } :=
  accounted.congr connection.mailbox.pass_outstanding connection.mailbox.pass_suffix rfl

theorem accounted_sent (accounted : Accounted returned connection) (message : Message) :
    Accounted returned (Talk.sent connection wire message) :=
  accounted.congr rfl List.suffix_rfl (by simp [Talk.sent])

theorem accounted_asked (accounted : Accounted returned connection) (method : String)
    (parameters : Value) :
    Accounted returned (Talk.asked connection wire method parameters) :=
  (accounted_sent accounted _).congr rfl List.suffix_rfl rfl

theorem accounted_waited (accounted : Accounted returned connection) {arrival : Arrival} {far : W}
    {rest : List Message} {passed : List Notification}
    (whole : notifications (connection.mailbox.channel ++ arrival.messages) =
      passed ++ notifications rest)
    (unseen : rest <:+ connection.mailbox.channel ++ arrival.messages) :
    Accounted returned (Talk.waited connection arrival far rest passed) := by
  have delivered := accounted_deliver accounted arrival
  refine delivered.congr ?_ unseen rfl
  simp only [Talk.waited, Talk.overhear, Connection.deliver, Mailbox.deliver, Mailbox.outstanding]
  rw [whole, List.append_assoc]

theorem request_accounted (accounted : Accounted returned connection) (method : String)
    (parameters : Value) (milliseconds : Nat) :
    Accounted returned
      ((Talk.request wire method parameters milliseconds).perform connection).2 := by
  have asked : Accounted returned (Talk.asked connection wire method parameters) :=
    accounted_asked accounted method parameters
  have answered := Talk.request_answered connection wire method parameters milliseconds
  generalize (Talk.request wire method parameters milliseconds).perform connection = ended
    at answered
  cases answered with
  | unwritten => exact asked
  | @answered arrival far earlier rest response result written overheard meets =>
    have met := congrArg notifications meets
    rw [notifications_append _ (_ :: _), notifications_cons] at met
    refine accounted_waited asked met ⟨earlier ++ [.response response], ?_⟩
    rw [List.append_assoc, List.singleton_append, ← meets]
    rfl
  | unanswered => exact accounted_waited asked (List.append_nil _).symm List.nil_suffix

def given (method : String) : Except Error (Option Value) -> List Notification
  | .ok (some parameters) => [{ method, parameters }]
  | _ => []

theorem given_own {told : Notification} {method : String} (own : told.method = method) :
    given method (.ok (some told.parameters)) = [told] := by
  subst own
  rfl

theorem given_nothing (method : String) (isOpen : Bool) :
    given method (Talk.received none isOpen) = [] := by
  cases isOpen <;> rfl

theorem await_accounted (accounted : Accounted returned connection) (method : String)
    (milliseconds : Nat) :
    let ended := (Talk.await wire method milliseconds).perform connection
    Accounted (returned ++ given method ended.1) ended.2 := by
  have awaited := Talk.await_awaited connection wire method milliseconds
  generalize (Talk.await wire method milliseconds).perform connection = ended at awaited
  cases awaited with
  | @kept earlier later told keeps others own =>
    have outstanding : connection.mailbox.outstanding =
        earlier ++ told :: (later ++ notifications connection.mailbox.channel) := by
      simp [Mailbox.outstanding, keeps]
    dsimp only
    rw [given_own own]
    exact accounted.give outstanding (own ▸ others) (by simp [Mailbox.outstanding])
      List.suffix_rfl rfl
  | @found arrival far earlier rest told unkept overheard meets others own =>
    have outstanding : (connection.deliver arrival).mailbox.outstanding =
        (connection.mailbox.pending ++ notifications earlier) ++ told :: notifications rest := by
      have met := congrArg notifications meets
      rw [notifications_append earlier, notifications_cons] at met
      simp only [Connection.deliver, Mailbox.deliver, Mailbox.outstanding, met]
      exact (List.append_assoc ..).symm
    have ahead (passed : Notification)
        (isAhead : passed ∈ connection.mailbox.pending ++ notifications earlier) :
        passed.method ≠ told.method :=
      own ▸ (List.mem_append.mp isAhead).elim (unkept passed) (others passed)
    dsimp only
    rw [given_own own]
    refine (accounted_deliver accounted arrival).give outstanding ahead rfl
      ⟨earlier ++ [.notification told], ?_⟩ rfl
    rw [List.append_assoc, List.singleton_append]
    exact meets.symm
  | missed =>
    dsimp only
    rw [given_nothing, List.append_nil]
    exact accounted_waited accounted (List.append_nil _).symm List.nil_suffix

inductive Turn (W : Type)
  | request (method : String) (parameters : Value) (milliseconds : Nat)
  | await (method : String) (milliseconds : Nat)
  | notify (method : String) (parameters : Value)
  | arrive (arrival : Arrival)
  -- A call that waits goes on by one message.
  | pass
  | meanwhile (change : W -> W)

structure Dealings (W : Type) where
  connection : Connection W
  returned : List Notification := []

def Turn.take (wire : Wire W) (dealings : Dealings W) : Turn W -> Dealings W
  | .request method parameters milliseconds =>
    { dealings with
      connection := ((Talk.request wire method parameters milliseconds).perform
        dealings.connection).2 }
  | .await method milliseconds =>
    let (result, connection) := (Talk.await wire method milliseconds).perform dealings.connection
    { connection, returned := dealings.returned ++ given method result }
  | .notify method parameters =>
    { dealings with
      connection := ((Talk.notify wire method parameters).perform dealings.connection).2 }
  | .arrive arrival => { dealings with connection := dealings.connection.deliver arrival }
  | .pass =>
    { dealings with
      connection := { dealings.connection with mailbox := dealings.connection.mailbox.pass } }
  | .meanwhile change =>
    { dealings with
      connection := { dealings.connection with far := change dealings.connection.far } }

def deal (wire : Wire W) (turns : List (Turn W)) (dealings : Dealings W) : Dealings W :=
  turns.foldl (Turn.take wire) dealings

theorem take_accounted (wire : Wire W) (turn : Turn W) (dealings : Dealings W)
    (accounted : Accounted dealings.returned dealings.connection) :
    Accounted (turn.take wire dealings).returned (turn.take wire dealings).connection := by
  cases turn with
  | request method parameters milliseconds =>
    exact request_accounted accounted method parameters milliseconds
  | await method milliseconds => exact await_accounted accounted method milliseconds
  | notify method parameters =>
    simpa [Turn.take] using accounted_sent accounted (.notification { method, parameters })
  | arrive arrival => exact accounted_deliver accounted arrival
  | pass => exact accounted_pass accounted
  | meanwhile change => exact accounted.congr rfl List.suffix_rfl rfl

theorem deal_accounted (wire : Wire W) (turns : List (Turn W)) (dealings : Dealings W)
    (accounted : Accounted dealings.returned dealings.connection) :
    Accounted (deal wire turns dealings).returned (deal wire turns dealings).connection := by
  induction turns generalizing dealings with
  | nil => exact accounted
  | cons turn rest ih => exact ih (turn.take wire dealings) (take_accounted wire turn _ accounted)

-- What comes in before the response to a request is there for those that wait for it later.
example :
    let wire : Wire Unit := { write := fun _ _ => (.ok (), ()), listen := fun _ _ _ => ({}, ()) }
    let arrival : Arrival := { messages := [
      .notification { method := "first", parameters := .null },
      .notification { method := "second", parameters := .null },
      .response { id := .number 1, result := none, failure := none }] }
    let turns := [.arrive arrival, .request "any" .null 0, .await "second" 0, .await "first" 0]
    (deal wire turns { connection := { far := () } }).returned.map Notification.method =
      ["second", "first"] := by
  decide +kernel

end AnsibleTooling.Rpc
