import AnsibleTooling.Proofs.Gating

set_option autoImplicit false

namespace AnsibleTooling

open Json (Value)

namespace Rpc

namespace Mailbox

variable {A : Type} {wanted : Message -> Option A} {mailbox : Mailbox}

theorem take_eq_some {value : A} (found : (mailbox.take wanted).1 = some value) :
    ∃ earlier message rest, mailbox.channel = earlier ++ message :: rest ∧
      (∀ message ∈ earlier, wanted message = none) ∧ wanted message = some value ∧
      (mailbox.take wanted).2 =
        { mailbox with channel := rest, pending := mailbox.pending ++ notifications earlier } := by
  rcases mailbox with ⟨channel, isOpen, pending⟩
  have looked := look_spec wanted channel
  simp only [take] at found ⊢
  generalize look wanted channel = outcome at found looked ⊢
  cases looked with
  | nothing => cases found
  | @found earlier message _ rest unwanted fits =>
    cases found
    exact ⟨earlier, message, rest, rfl, unwanted, fits, rfl⟩

theorem take_eq_none (missing : (mailbox.take wanted).1 = none) :
    ∀ message ∈ mailbox.channel, wanted message = none := by
  rcases mailbox with ⟨channel, isOpen, pending⟩
  have looked := look_spec wanted channel
  simp only [take] at missing
  generalize look wanted channel = outcome at missing looked
  cases looked with
  | nothing unwanted => exact unwanted
  | found => cases missing

end Mailbox

namespace Talk

variable {W : Type}

/-- How waiting for a notification ends: with the first of its method that is outstanding, if there
is one, and then nothing is heard; or else with what comes in. -/
inductive Replied (method : String) (before : Connection W) :
    Except Error (Option Value) × Connection W -> Prop
  | stale {after : Connection W} {earlier later : List Notification} {told : Notification}
    (outstanding : before.mailbox.outstanding = earlier ++ told :: later)
    (others : ∀ passed ∈ earlier, passed.method ≠ method) (own : told.method = method)
    (left : after.mailbox.outstanding = earlier ++ later)
    (history : after.history = before.history) :
    Replied method before (.ok (some told.parameters), after)
  | fresh {after : Connection W} {earlier rest : List Message} {told : Notification}
    (nothing : ∀ passed ∈ before.mailbox.outstanding, passed.method ≠ method)
    (others : ∀ passed ∈ notifications earlier, passed.method ≠ method) (own : told.method = method)
    (left : after.mailbox.outstanding =
      before.mailbox.outstanding ++ notifications (earlier ++ rest))
    (history : after.history =
      before.history ++ (earlier ++ .notification told :: rest).map .came) :
    Replied method before (.ok (some told.parameters), after)
  | silent {after : Connection W} {came : List Message} {isOpen : Bool}
    (nothing : ∀ passed ∈ before.mailbox.outstanding, passed.method ≠ method)
    (others : ∀ passed ∈ notifications came, passed.method ≠ method)
    (left : after.mailbox.outstanding = before.mailbox.outstanding ++ notifications came)
    (history : after.history = before.history ++ came.map .came) :
    Replied method before (received none isOpen, after)

theorem Replied.congr {method : String} {before after other last : Connection W}
    {result : Except Error (Option Value)} (replied : Replied method before (result, after))
    (there : other.mailbox = before.mailbox) (happened : other.history = before.history)
    (left : last.mailbox = after.mailbox) (history : last.history = after.history) :
    Replied method other (result, last) := by
  cases replied with
  | stale outstanding others own remains went =>
    exact .stale (there ▸ outstanding) others own (left ▸ remains)
      (history.trans (went.trans happened.symm))
  | fresh nothing others own remains went =>
    exact .fresh (there ▸ nothing) others own (by rw [left, there, remains])
      (by rw [history, happened, went])
  | silent nothing others remains went =>
    exact .silent (there ▸ nothing) others (by rw [left, there, remains])
      (by rw [history, happened, went])

variable (connection : Connection W) (wire : Wire W)

theorem receive_at_once {A : Type} {wanted : Message -> Option A} {value : A}
    (found : (connection.mailbox.take wanted).1 = some value) (milliseconds : Nat) :
    (receive wire wanted milliseconds).perform connection =
      (.ok (some value), { connection with mailbox := (connection.mailbox.take wanted).2 }) := by
  simp [receive, perform_bind, found]

theorem cut_after {messages arrived earlier rest : List Message} {message : Message}
    {wanted : Message -> Option Value} {value : Value}
    (meets : messages ++ arrived = earlier ++ message :: rest)
    (unwanted : ∀ message ∈ messages, wanted message = none) (fits : wanted message = some value) :
    ∃ between, earlier = messages ++ between ∧ arrived = between ++ message :: rest := by
  rcases List.append_eq_append_iff.mp meets with ⟨between, before, after⟩ | ⟨tail, before, after⟩
  · exact ⟨between, before, after⟩
  · cases tail with
    | nil => exact ⟨[], by simpa using before.symm, by simpa using after.symm⟩
    | cons first tail =>
      have same : message = first := (List.cons.inj after).1
      have isThere : message ∈ messages := by simp [before, same]
      simp [unwanted message isThere] at fits

theorem await_replied (method : String) (milliseconds : Nat) :
    Replied method connection ((await wire method milliseconds).perform connection) := by
  rw [perform_await, Mailbox.takePending]
  have extracted := Mailbox.extract_spec (Notification.ofMethod? method) connection.mailbox.pending
  generalize ended : Mailbox.extract _ connection.mailbox.pending = outcome at extracted
  generalize keeps : connection.mailbox.pending = pending at extracted
  cases extracted with
  | @found earlier told value rest unfit right =>
    obtain ⟨own, rfl⟩ := Notification.ofMethod?_eq_some.mp right
    have others (passed : Notification) (isPassed : passed ∈ earlier) : passed.method ≠ method :=
      Notification.ofMethod?_eq_none.mp (unfit passed isPassed)
    have outstanding : connection.mailbox.outstanding =
        earlier ++ told :: (rest ++ notifications connection.mailbox.channel) := by
      simp [Mailbox.outstanding, keeps]
    refine .stale outstanding others own ?_ rfl
    simp [Mailbox.outstanding]
  | nothing unfit =>
    have unkept (passed : Notification) (isKept : passed ∈ connection.mailbox.pending) :
        passed.method ≠ method :=
      Notification.ofMethod?_eq_none.mp (unfit passed (keeps ▸ isKept))
    subst keeps
    dsimp only
    cases found : (connection.mailbox.take (toldOf? method)).1 with
    | some value =>
      rw [receive_at_once connection wire found]
      obtain ⟨earlier, message, rest, unseen, unwanted, fits, left⟩ := Mailbox.take_eq_some found
      obtain ⟨told, rfl, own, rfl⟩ := toldOf?_eq_some fits
      have others := List.forall_mem_append.mpr ⟨unkept, others_of_unwanted unwanted⟩
      rw [left]
      have outstanding : connection.mailbox.outstanding =
          connection.mailbox.pending ++ notifications earlier ++ told :: notifications rest := by
        simp [Mailbox.outstanding, unseen, notifications_cons, Message.notification?]
      refine .stale outstanding others own ?_ rfl
      simp [Mailbox.outstanding]
    | none =>
      -- Nothing of what is there is wanted, so that only what comes in can be.
      have unwanted := Mailbox.take_eq_none found
      have nothing : ∀ passed ∈ connection.mailbox.outstanding, passed.method ≠ method :=
        List.forall_mem_append.mpr ⟨unkept, others_of_unwanted unwanted⟩
      have heard := receive_received connection wire (toldOf? method) milliseconds
      generalize (receive wire _ milliseconds).perform _ = outcome at heard
      cases heard with
      | @found arrival far _ rest message _ _ meets unwantedEarlier fits =>
        obtain ⟨between, rfl, came⟩ := cut_after meets unwanted fits
        obtain ⟨told, rfl, own, rfl⟩ := toldOf?_eq_some fits
        have others := others_of_unwanted (List.forall_mem_append.mp unwantedEarlier).2
        refine .fresh nothing others own ?_
          (?_ : _ = connection.history ++ (between ++ .notification told :: rest).map .came)
        · simp [Mailbox.outstanding, waited]
        · rw [← came]
          rfl
      | @missed arrival far _ unwantedAll =>
        have others := others_of_unwanted (List.forall_mem_append.mp unwantedAll).2
        refine .silent nothing others ?_ rfl
        simp [Mailbox.outstanding, waited, notifications]

end Talk

namespace Wire

variable {W A : Type} (wire : Wire W)

def converse (talk : Talk W A) (world : World (Connection W)) :
    Except Error A × World (Connection W) :=
  let (result, connection) := talk.perform world.inner
  (result, { world with inner := connection })

def host : Host (Connection W) where
  runner := {
    run := fun program _ world => (.error (.processSpawn program.display ""), world)
    which := fun _ _ => none }
  confirm _ world := (.ok true, world)
  install _ world := { result := .ok (), world, deeds := [] }
  client := {
    isRunning := fun _ => true
    start := fun _ world => (.ok (), world)
    stop := fun world => (.ok (), world)
    send := fun method parameters => converse (Talk.notify wire method parameters)
    await := fun method milliseconds => converse (Talk.await wire method milliseconds) }
  terminal := {
    isOpen := fun _ => false
    start := fun _ _ _ world => (.ok (), world)
    dispose := fun world => (.ok (), world)
    wait := fun world => (.ok (), world) }

def batches : Wire (List (List Message)) where
  write _ said := (.ok (), said)
  listen _ _ said :=
    match said with
    | [] => ({}, [])
    | messages :: rest => ({ messages }, rest)

end Wire

end Rpc

namespace Machine

open Rpc (Connection Talk)

variable {A : Type} {connection : Connection Child}

theorem await_replies {world : World Machine} (talked : world.inner.server = some connection)
    (method : String) (milliseconds : Nat) :
    ∃ after, (client.await method milliseconds world).2.inner.server = some after ∧
      Talk.Replied method connection ((client.await method milliseconds world).1, after) := by
  obtain ⟨tree, awaits, leaves⟩ :=
    withServer_performs (Talk.await Child.wire method milliseconds) talked
  have replied := Talk.await_replied
    { connection with far := { connection.far with run := connection.far.run.withTree tree } }
    Child.wire method milliseconds
  refine ⟨_, leaves, ?_⟩
  rw [client, awaits]
  exact replied.congr rfl rfl rfl rfl

end Machine

namespace Replies

open Act
open Machine (Child Dealt Order dealt_held)
open Rpc (Connection Life Message Notification Talk arrivals)

variable {S W : Type}

def metadataRequest (uri : String) : Message :=
  .notification { method := Server.metadataMethod, parameters := .array [.text uri] }

/-- What a request for metadata comes to, by the conversation before and after it. -/
inductive Shown (uri : String) (before : Connection W) :
    Except Error (Option Value) × Connection W -> Prop
  | unsent {error : Error} {after : Connection W} (kept : after.mailbox = before.mailbox)
    (history : after.history = before.history ++ [.sent (metadataRequest uri) false]) :
    Shown uri before (.error error, after)
  | sent {asked after : Connection W} {result : Except Error (Option Value)}
    (kept : asked.mailbox = before.mailbox)
    (history : asked.history = before.history ++ [.sent (metadataRequest uri) true])
    (replied : Talk.Replied Server.metadataMethod asked (result, after)) :
    Shown uri before (result, after)

theorem showMetadata_perform {host : Host S} {document : Path} {uri : String} {stage : Stage S}
    {report : Report} (ready : stage.state = .ready report) (concerned : Gating.IsAnsible document)
    (found : Session.documentUri stage.world document = .ok uri) (milliseconds : Nat) :
    (Session.showMetadata host document milliseconds).perform stage =
      (do
        Session.send host Server.metadataMethod (.array [.text uri])
        ofWorld (host.client.await Server.metadataMethod milliseconds)).perform stage := by
  have given := perform_ofExcept stage (Session.documentUri stage.world document)
  rw [found] at given
  rw [Session.showMetadata, perform_bind_ok (Gating.require_granted _ ready),
    if_pos ((Gating.isAnsibleDocument_iff document).mpr concerned),
    perform_bind_ok (perform_world stage), found, perform_bind_ok given]

theorem showMetadata_shown {assumeYes : Bool} {stage : Stage Machine} {report : Report}
    {document : Path} {uri : String} {connection : Connection Child}
    (ready : stage.state = .ready report) (concerned : Gating.IsAnsible document)
    (found : Session.documentUri stage.world document = .ok uri)
    (talked : stage.world.inner.server = some connection) (milliseconds : Nat) :
    ∃ after, let ended := (Session.showMetadata (Machine.host assumeYes) document
        milliseconds).perform stage
      ended.2.world.inner.server = some after ∧ Shown uri connection (ended.1, after) ∧
        ∀ returned, Dealt stage.world returned -> ∀ told ∈ connection.mailbox.outstanding,
          .notification told ∈ arrivals connection.history := by
  have arrived (returned : List Notification) (dealt : Dealt stage.world returned)
      (told : Notification) (isThere : told ∈ connection.mailbox.outstanding) :
      .notification told ∈ arrivals connection.history :=
    (dealt_held dealt connection talked).accounted.arrived isThere
  obtain ⟨asked, leaves, kept, history⟩ :=
    Machine.send_tells talked Server.metadataMethod (.array [.text uri])
  rw [showMetadata_perform ready concerned found]
  have performs : (Session.send (Machine.host assumeYes) Server.metadataMethod
      (.array [.text uri])).perform stage = _ :=
    perform_recorded stage _ (Machine.client.send Server.metadataMethod (.array [.text uri]))
  cases written : (Machine.client.send Server.metadataMethod (.array [.text uri])
      stage.world).1 with
  | error error =>
    rw [written] at performs history
    rw [perform_bind_error performs]
    exact ⟨asked, leaves, .unsent kept history, arrived⟩
  | ok _ =>
    rw [written] at performs history
    rw [perform_bind_ok performs, perform_ofWorld]
    have settled : (Machine.client.send Server.metadataMethod (.array [.text uri])
        stage.world).2.settled.inner.server = some asked := leaves
    obtain ⟨after, leaves, replied⟩ :=
      Machine.await_replies settled Server.metadataMethod milliseconds
    exact ⟨after, leaves, .sent kept history replied, arrived⟩

def reply (about : String) : Notification :=
  { method := Server.metadataMethod, parameters := .array [.text about] }

def mute : Connection Child :=
  let order : Order :=
    { program := Path.ofText "server", arguments := [], bindings := [], inputOpen := true }
  let scene := order.startScene .empty []
  { far := {
      run := { thread := .paused (fun _ => false) none scene fun _ => .ended, now := 0 }
      listener := { configuration := default } }
    mailbox := { pending := [reply "nothing"] }
    history := [.came (.notification (reply "nothing"))] }

def muteStage : Stage Machine :=
  { world := { tree := .empty, workDir := [], inner := { bindings := [], server := some mute } }
    state := .ready default }

theorem showMetadata_shown_mute :
    ∃ after, let ended := (Session.showMetadata (Machine.host true) (Path.ofText "/site.yml")
        1000).perform muteStage
      ended.2.world.inner.server = some after ∧ Shown "file:///site.yml" mute (ended.1, after) ∧
        ended.1 = .ok (some (reply "nothing").parameters) := by
  have concerned : Gating.IsAnsible (Path.ofText "/site.yml") :=
    (Gating.isAnsibleDocument_iff _).mp (by decide +kernel)
  have ready : muteStage.state = .ready default := rfl
  have found : Session.documentUri muteStage.world (Path.ofText "/site.yml") =
      .ok "file:///site.yml" := rfl
  have talked : muteStage.world.inner.server = some mute := rfl
  obtain ⟨after, left, shown, _⟩ := @showMetadata_shown true _ _ _ _ _ ready concerned found talked
    1000
  exact ⟨after, left, shown, rfl⟩

def IsReply (uri : String) (before after : Connection W) (value : Value) : Prop :=
  ∃ (came : List Message) (told : Notification),
    after.history = before.history ++ .sent (metadataRequest uri) true :: came.map .came ∧
      .notification told ∈ came ∧ told.method = Server.metadataMethod ∧ told.parameters = value

abbrev Batches : Type := List (List Message)

def greeting : Message :=
  .response { id := .number 1, result := none, failure := none }

def slow : Batches :=
  [[greeting], [], [.notification (reply "second")]]

def opened : Connection Batches :=
  ((Talk.handshake Rpc.Wire.batches 1 default).perform { far := slow }).2

def asked : Connection Batches :=
  let told := ((Talk.notify Rpc.Wire.batches Server.metadataMethod
    (.array [.text "file:///first.yml"])).perform opened).2
  ((Talk.await Rpc.Wire.batches Server.metadataMethod 5000).perform told).2

def overdue : Connection Batches :=
  asked.deliver { messages := [.notification (reply "first")] }

def stageOf (connection : Connection Batches) : Stage (Connection Batches) :=
  { world := { tree := .empty, workDir := [], inner := connection }, state := .ready default }

def inquire (document : String) (connection : Connection Batches) :
    Except Error (Option Value) × Connection Batches :=
  let (result, stage) := (Session.showMetadata Rpc.Wire.batches.host (Path.ofText document)
    5000).perform (stageOf connection)
  (result, stage.world.inner)

abbrev Conversed : Connection Batches -> Prop :=
  Life Rpc.Wire.batches 1 default (fun _ => True) (fun far _ next => next = far) .talking

theorem showMetadata_late :
    Conversed overdue ∧ inquire "/first.yml" opened = (.ok none, asked) ∧
      (inquire "/second.yml" overdue).1 = .ok (some (reply "first").parameters) ∧
      ¬ ∃ value, (inquire "/second.yml" overdue).1 = .ok (some value) ∧
        IsReply "file:///second.yml" overdue (inquire "/second.yml" overdue).2 value := by
  have opens : (Talk.handshake Rpc.Wire.batches 1 default).perform { far := slow } =
      (.ok (), opened) := rfl
  have conversed : Conversed opened := .opened trivial opens
  have waited : Conversed asked := (conversed.notifies _ _).awaits _ _
  have late : Conversed (asked.deliver { messages := [.notification (reply "first")] }) :=
    waited.goes rfl
  refine ⟨late, rfl, rfl, ?_⟩
  rintro ⟨value, _, came, told, history, isThere, _⟩
  -- Nothing has come in since the second request was sent.
  have still : (inquire "/second.yml" overdue).2.history =
      overdue.history ++ [.sent (metadataRequest "file:///second.yml") true] := rfl
  rw [still] at history
  have nothing := List.append_cancel_left history
  simp only [List.cons.injEq, true_and, List.nil_eq, List.map_eq_nil_iff] at nothing
  simp [nothing] at isThere

end Replies

end AnsibleTooling
