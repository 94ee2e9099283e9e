import AnsibleTooling.Proofs.Delivery

set_option autoImplicit false

namespace AnsibleTooling.Rpc

open Json (Value)

def openingRequest (clientId : Nat) (launch : ServerLaunch) : Message :=
  .request {
    id := .number 1
    method := "initialize"
    parameters := Talk.openingParameters clientId launch }

def openedNotice : Message :=
  .notification { method := "initialized", parameters := .ofMembers [] }

def settingsNotice (launch : ServerLaunch) : Message :=
  .notification {
    method := "workspace/didChangeConfiguration"
    parameters := Talk.settingsParameters launch.configuration }

def shutdownRequest : Message :=
  .request { id := .number 2, method := "shutdown", parameters := .null }

def exitNotice : Message :=
  .notification { method := "exit", parameters := .null }

def IsGreeted (came : List Message) : Prop :=
  ∃ response, came.findSome? (Message.responseTo? (.number 1)) = some response ∧
    response.failure = none

theorem findSome?_response {earlier rest : List Message} {response : Response} {id : RequestId}
    (unrelated : ∀ message ∈ earlier, message.responseTo? id = none) (own : response.id = id) :
    (earlier ++ .response response :: rest).findSome? (Message.responseTo? id) = some response := by
  rw [List.findSome?_append, List.findSome?_eq_none_iff.mpr unrelated]
  simp [Message.responseTo?, own]

section

variable {W : Type} {connection : Connection W} {wire : Wire W} {method : String}
  {parameters : Value}

theorem asked_history_ok
    (written : (wire.write (Talk.nextRequest connection method parameters)
      connection.far).1 = .ok ()) :
    (Talk.asked connection wire method parameters).history =
      connection.history ++ [.sent (Talk.nextRequest connection method parameters) true] := by
  simp only [Talk.asked, Talk.sent, written, Except.toBool]

theorem asked_history_error {error : Error}
    (failed : (wire.write (Talk.nextRequest connection method parameters)
      connection.far).1 = .error error) :
    (Talk.asked connection wire method parameters).history =
      connection.history ++ [.sent (Talk.nextRequest connection method parameters) false] := by
  simp only [Talk.asked, Talk.sent, failed, Except.toBool]

variable (connection wire) in
theorem sent_history (message : Message) :
    (Talk.sent connection wire message).history = connection.history ++
      [.sent message (wire.write message connection.far).1.toBool] := rfl

theorem waited_history {arrival : Arrival} {far : W} {rest : List Message}
    {passed : List Notification} :
    (Talk.waited connection arrival far rest passed).history =
      connection.history ++ arrival.messages.map .came := rfl

end

variable {W : Type} (wire : Wire W) (clientId : Nat) (launch : ServerLaunch)

inductive Greeting : Except Error Value × Connection W -> Prop
  | unasked {error : Error} {connection : Connection W}
    (history : connection.history = [.sent (openingRequest clientId launch) false]) :
    Greeting (.error error, connection)
  | ungreeted {error : Error} {connection : Connection W} {came : List Message}
    (history : connection.history = .sent (openingRequest clientId launch) true :: came.map .came)
    (ungreeted : ¬ IsGreeted came) : Greeting (.error error, connection)
  | greeted {value : Value} {connection : Connection W} {came : List Message}
    (history : connection.history = .sent (openingRequest clientId launch) true :: came.map .came)
    (greeted : IsGreeted came) (lastId : connection.lastId = 1) :
    Greeting (.ok value, connection)

theorem request_greeting (far : W) :
    Greeting clientId launch ((Talk.request wire "initialize"
      (Talk.openingParameters clientId launch) Talk.requestLimit).perform { far }) := by
  have answered := Talk.request_answered ({ far } : Connection W) wire "initialize"
    (Talk.openingParameters clientId launch) Talk.requestLimit
  generalize (Talk.request wire _ _ _).perform _ = ended at answered
  have asks : Talk.nextRequest ({ far } : Connection W) "initialize"
    (Talk.openingParameters clientId launch) = openingRequest clientId launch := rfl
  cases answered with
  | unwritten failed => exact .unasked (asked_history_error failed)
  | @answered arrival far' earlier rest response result written overheard meets unrelated own
      settles =>
    have history := asked_history_ok written
    have first : arrival.messages.findSome? (Message.responseTo? (.number 1)) = some response :=
      (congrArg _ meets).trans (findSome?_response unrelated own)
    cases settles with
    | fulfilled fine =>
      exact .greeted (by rw [waited_history, history, asks]; rfl) ⟨response, first, fine⟩ rfl
    | rejected failed =>
      refine .ungreeted (by rw [waited_history, history, asks]; rfl) ?_
      rintro ⟨other, otherFirst, fine⟩
      cases first.symm.trans otherFirst
      simp [failed] at fine
  | @unanswered arrival far' reason written overheard unrelated told =>
    have history := asked_history_ok written
    refine .ungreeted (by rw [waited_history, history, asks]; rfl) ?_
    rintro ⟨response, first, _⟩
    have none : arrival.messages.findSome? (Message.responseTo? (.number 1)) = none :=
      List.findSome?_eq_none_iff.mpr unrelated
    simp [none] at first

inductive Opened : List Event -> Prop
  | opened {came : List Message} (greeted : IsGreeted came) :
    Opened (.sent (openingRequest clientId launch) true :: came.map .came ++
      [.sent openedNotice true, .sent (settingsNotice launch) true])

inductive Refused : List Event -> Prop
  | unasked : Refused [.sent (openingRequest clientId launch) false]
  | ungreeted {came : List Message} (ungreeted : ¬ IsGreeted came) :
    Refused (.sent (openingRequest clientId launch) true :: came.map .came)
  | unopened {came : List Message} (greeted : IsGreeted came) :
    Refused (.sent (openingRequest clientId launch) true :: came.map .came ++
      [.sent openedNotice false])
  | unsettled {came : List Message} (greeted : IsGreeted came) :
    Refused (.sent (openingRequest clientId launch) true :: came.map .came ++
      [.sent openedNotice true, .sent (settingsNotice launch) false])

inductive Handshake : Except Error Unit × Connection W -> Prop
  | opened {connection : Connection W} (history : Opened clientId launch connection.history)
    (lastId : connection.lastId = 1) : Handshake (.ok (), connection)
  | refused {error : Error} {connection : Connection W}
    (history : Refused clientId launch connection.history) : Handshake (.error error, connection)

theorem perform_handshake (connection : Connection W) :
    (Talk.handshake wire clientId launch).perform connection =
      match (Talk.request wire "initialize" (Talk.openingParameters clientId launch)
        Talk.requestLimit).perform connection with
      | (.error error, asked) => (.error error, asked)
      | (.ok _, asked) =>
        match (wire.write openedNotice asked.far).1 with
        | .error error => (.error error, Talk.sent asked wire openedNotice)
        | .ok _ =>
          let told := Talk.sent asked wire openedNotice
          ((wire.write (settingsNotice launch) told.far).1,
            Talk.sent told wire (settingsNotice launch)) := by
  unfold Talk.handshake
  rw [Talk.perform_bind]
  cases (Talk.request wire _ _ _).perform connection with
  | mk result asked =>
    cases result with
    | error => rfl
    | ok =>
      dsimp only
      rw [Talk.perform_bind, Talk.perform_notify]
      unfold openedNotice
      cases (wire.write _ asked.far).1 with
      | error => rfl
      | ok => exact Talk.perform_notify ..

theorem handshake_accounted {returned : List Notification} {connection : Connection W}
    (accounted : Accounted returned connection) :
    Accounted returned ((Talk.handshake wire clientId launch).perform connection).2 := by
  have asked : Accounted returned ((Talk.request wire "initialize"
      (Talk.openingParameters clientId launch) Talk.requestLimit).perform connection).2 :=
    request_accounted accounted _ _ _
  rw [perform_handshake]
  split
  case h_1 performed => rwa [performed] at asked
  case h_2 performed =>
    rw [performed] at asked
    split
    case h_1 => exact accounted_sent asked _
    case h_2 => exact accounted_sent (accounted_sent asked _) _

theorem handshake_handshake (far : W) :
    Handshake clientId launch ((Talk.handshake wire clientId launch).perform { far }) := by
  have greeting := request_greeting wire clientId launch far
  rw [perform_handshake]
  generalize (Talk.request wire _ _ _).perform _ = ended at greeting
  cases greeting with
  | unasked history => exact .refused (history ▸ .unasked)
  | ungreeted history ungreeted => exact .refused (history ▸ .ungreeted ungreeted)
  | @greeted value connection came history greeted lastId =>
    dsimp only
    cases told : (wire.write openedNotice connection.far).1 with
    | error error =>
      have all := sent_history connection wire openedNotice
      rw [told, history] at all
      exact .refused (all ▸ .unopened greeted)
    | ok =>
      have first := sent_history connection wire openedNotice
      have all := sent_history (Talk.sent connection wire openedNotice) wire (settingsNotice launch)
      rw [first, told, history, List.append_assoc] at all
      dsimp only
      cases settled : (wire.write (settingsNotice launch)
        (Talk.sent connection wire openedNotice).far).1 with
      | error error =>
        rw [settled] at all
        exact .refused (all ▸ .unsettled greeted)
      | ok =>
        rw [settled] at all
        exact .opened (all ▸ .opened greeted) lastId

inductive Phase
  | refused
  | talking
  | ended

/-- All that a conversation can come to, by what can be at its other end at first, and the ways in
which that goes on by itself. -/
inductive Life (starts : W -> Prop) (goes : W -> Arrival -> W -> Prop) :
    Phase -> Connection W -> Prop
  | refused {far : W} {error : Error} {connection : Connection W} (start : starts far)
    (opening : (Talk.handshake wire clientId launch).perform { far } = (.error error, connection)) :
    Life starts goes .refused connection
  | opened {far : W} {connection : Connection W} (start : starts far)
    (opening : (Talk.handshake wire clientId launch).perform { far } = (.ok (), connection)) :
    Life starts goes .talking connection
  | notifies {connection : Connection W} (before : Life starts goes .talking connection)
    (method : String) (parameters : Value) :
    Life starts goes .talking ((Talk.notify wire method parameters).perform connection).2
  | awaits {connection : Connection W} (before : Life starts goes .talking connection)
    (method : String) (milliseconds : Nat) :
    Life starts goes .talking ((Talk.await wire method milliseconds).perform connection).2
  | ends {connection : Connection W} (before : Life starts goes .talking connection) :
    Life starts goes .ended ((Talk.farewell wire).perform connection).2
  | goes {phase : Phase} {connection : Connection W} {arrival : Arrival} {far : W}
    (before : Life starts goes phase connection) (went : goes connection.far arrival far) :
    Life starts goes phase ({ connection with far }.deliver arrival)
  | logs {phase : Phase} {connection : Connection W} (before : Life starts goes phase connection)
    (records : List LogRecord) : Life starts goes phase { connection with records }

inductive IsTalk : Event -> Prop
  | came (message : Message) : IsTalk (.came message)
  | told (told : Notification) (isWritten : Bool) : IsTalk (.sent (.notification told) isWritten)

/-- What has happened in a conversation. -/
inductive Trace : Phase -> List Event -> Prop
  | refused {opening : List Event} {came : List Message}
    (refused : Refused clientId launch opening) : Trace .refused (opening ++ came.map .came)
  | talking {opening talk : List Event} (opened : Opened clientId launch opening)
    (only : ∀ event ∈ talk, IsTalk event) : Trace .talking (opening ++ talk)
  | ended {opening talk : List Event} {came later : List Message} {isAsked isTold : Bool}
    (opened : Opened clientId launch opening) (only : ∀ event ∈ talk, IsTalk event) :
    Trace .ended (opening ++ talk ++ .sent shutdownRequest isAsked :: came.map .came ++
      .sent exitNotice isTold :: later.map .came)

def attempts (history : List Event) : List Message :=
  history.filterMap fun event =>
    match event with
    | .sent message _ => some message
    | .came _ => none

@[simp] theorem attempts_append (first second : List Event) :
    attempts (first ++ second) = attempts first ++ attempts second :=
  List.filterMap_append ..

@[simp] theorem attempts_sent (message : Message) (isWritten : Bool) (rest : List Event) :
    attempts (.sent message isWritten :: rest) = message :: attempts rest := rfl

@[simp] theorem attempts_came (messages : List Message) : attempts (messages.map .came) = [] := by
  simp [attempts]

def requestIds (history : List Event) : List RequestId :=
  (requests (attempts history)).map Request.id

theorem isTalk_came (messages : List Message) : ∀ event ∈ messages.map Event.came, IsTalk event := by
  intro event isThere
  obtain ⟨message, _, rfl⟩ := List.mem_map.mp isThere
  exact .came message

variable {wire clientId launch}

theorem Trace.hears {phase : Phase} {history : List Event} (trace : Trace clientId launch phase history)
    (messages : List Message) : Trace clientId launch phase (history ++ messages.map .came) := by
  cases trace with
  | refused refused =>
    rw [List.append_assoc, ← List.map_append]
    exact .refused refused
  | talking opened only =>
    rw [List.append_assoc]
    exact .talking opened (List.forall_mem_append.mpr ⟨only, isTalk_came messages⟩)
  | ended opened only =>
    rw [List.append_assoc, List.cons_append, ← List.map_append]
    exact .ended opened only

theorem Trace.tells {history : List Event} (trace : Trace clientId launch .talking history)
    (told : Notification) (isWritten : Bool) :
    Trace clientId launch .talking (history ++ [.sent (.notification told) isWritten]) := by
  cases trace with
  | talking opened only =>
    rw [List.append_assoc]
    exact .talking opened (List.forall_mem_append.mpr ⟨only, by simpa using .told told isWritten⟩)

theorem Trace.ends {history : List Event} (trace : Trace clientId launch .talking history)
    (came : List Message) (isAsked isTold : Bool) :
    Trace clientId launch .ended (history ++ .sent shutdownRequest isAsked :: came.map .came ++
      [.sent exitNotice isTold]) := by
  cases trace with
  | talking opened only => exact @Trace.ended clientId launch _ _ came [] isAsked isTold opened only

variable (wire) in
theorem request_history (connection : Connection W) (method : String) (parameters : Value)
    (milliseconds : Nat) :
    ∃ (isAsked : Bool) (came : List Message), ((Talk.request wire method parameters milliseconds).perform
        connection).2.history = connection.history ++
      .sent (Talk.nextRequest connection method parameters) isAsked :: came.map .came := by
  have answered := Talk.request_answered connection wire method parameters milliseconds
  generalize (Talk.request wire method parameters milliseconds).perform connection = ended
    at answered
  cases answered with
  | unwritten failed => exact ⟨false, [], asked_history_error failed⟩
  | @answered arrival far earlier rest response result written =>
    refine ⟨true, arrival.messages, ?_⟩
    rw [waited_history, asked_history_ok written, List.append_assoc]
    rfl
  | @unanswered arrival far reason written =>
    refine ⟨true, arrival.messages, ?_⟩
    rw [waited_history, asked_history_ok written, List.append_assoc]
    rfl

variable (wire) in
theorem await_history (connection : Connection W) (method : String) (milliseconds : Nat) :
    ∃ came : List Message, ((Talk.await wire method milliseconds).perform connection).2.history =
        connection.history ++ came.map .came ∧
      ((Talk.await wire method milliseconds).perform connection).2.lastId = connection.lastId := by
  have awaited := Talk.await_awaited connection wire method milliseconds
  generalize (Talk.await wire method milliseconds).perform connection = ended at awaited
  cases awaited with
  | kept => exact ⟨[], by simp, rfl⟩
  | @found arrival => exact ⟨arrival.messages, rfl, rfl⟩
  | @missed arrival => exact ⟨arrival.messages, rfl, rfl⟩

variable (wire) in
theorem perform_farewell (connection : Connection W) :
    ∃ between after, ((Talk.farewell wire).perform connection).2 =
      { Talk.sent
          { ((Talk.request wire "shutdown" .null Talk.shutdownLimit).perform connection).2 with
            records := between }
          wire exitNotice with records := after } := by
  obtain ⟨between, asked⟩ := Talk.perform_attempt connection "shutdown request failed"
    (Talk.request wire "shutdown" .null Talk.shutdownLimit)
  obtain ⟨after, told⟩ := Talk.perform_attempt
    { ((Talk.request wire "shutdown" .null Talk.shutdownLimit).perform connection).2 with
      records := between } "exit notification failed" (Talk.notify wire "exit" .null)
  refine ⟨between, after, ?_⟩
  rw [Talk.farewell, Talk.perform_bind, asked]
  dsimp only
  rw [told, Talk.perform_notify]
  rfl

theorem Life.trace {starts : W -> Prop} {goes : W -> Arrival -> W -> Prop} {phase : Phase}
    {connection : Connection W} (life : Life wire clientId launch starts goes phase connection) :
    Trace clientId launch phase connection.history ∧ (phase = .talking -> connection.lastId = 1) := by
  induction life with
  | @refused far error connection start opening =>
    have handshake := handshake_handshake wire clientId launch far
    rw [opening] at handshake
    cases handshake with
    | refused history =>
      have trace : Trace clientId launch .refused (connection.history ++ [].map .came) :=
        .refused history
      exact ⟨by simpa using trace, by simp⟩
  | @opened far connection start opening =>
    have handshake := handshake_handshake wire clientId launch far
    rw [opening] at handshake
    cases handshake with
    | opened history lastId =>
      have trace : Trace clientId launch .talking (connection.history ++ []) :=
        .talking history (by simp)
      exact ⟨by simpa using trace, fun _ => lastId⟩
  | notifies _ method parameters ih =>
    rw [Talk.perform_notify]
    exact ⟨ih.1.tells _ _, ih.2⟩
  | @awaits connection _ method milliseconds ih =>
    obtain ⟨came, history, lastId⟩ := await_history wire connection method milliseconds
    rw [history, lastId]
    exact ⟨ih.1.hears came, ih.2⟩
  | @ends connection _ ih =>
    obtain ⟨between, after, performed⟩ := perform_farewell wire connection
    obtain ⟨isAsked, came, history⟩ :=
      request_history wire connection "shutdown" .null Talk.shutdownLimit
    have asks : Talk.nextRequest connection "shutdown" .null = shutdownRequest := by
      simp only [Talk.nextRequest, ih.2 rfl]
      rfl
    rw [performed]
    refine ⟨?_, by simp⟩
    change Trace clientId launch .ended (Talk.sent _ wire exitNotice).history
    rw [sent_history, history, asks]
    exact ih.1.ends came isAsked _
  | goes _ _ ih => exact ⟨ih.1.hears _, ih.2⟩
  | logs _ _ ih => exact ih

-- A conversation is opened by a server that answers the first request.
example (launch : ServerLaunch) :
    let greeting : Message := .response { id := .number 1, result := none, failure := none }
    let wire : Wire Unit := {
      write := fun _ _ => (.ok (), ())
      listen := fun _ _ _ => ({ messages := [greeting] }, ()) }
    ((Talk.handshake wire 1 launch).perform { far := () }).1 = .ok () := rfl

theorem requests_talk {talk : List Event} (only : ∀ event ∈ talk, IsTalk event) :
    requests (attempts talk) = [] := by
  refine List.filterMap_eq_nil_iff.mpr fun message isThere => ?_
  obtain ⟨event, isEvent, sends⟩ := List.mem_filterMap.mp isThere
  cases only event isEvent with
  | came => cases sends
  | told => cases sends; rfl

theorem Opened.requests {opening : List Event} (opened : Opened clientId launch opening) :
    requests (attempts opening) = [{
      id := .number 1
      method := "initialize"
      parameters := Talk.openingParameters clientId launch }] := by
  cases opened
  simp
  rfl

theorem Refused.requests {opening : List Event} (refused : Refused clientId launch opening) :
    requests (attempts opening) = [{
      id := .number 1
      method := "initialize"
      parameters := Talk.openingParameters clientId launch }] := by
  cases refused <;> simp <;> rfl

theorem Trace.ids {phase : Phase} {history : List Event}
    (trace : Trace clientId launch phase history) :
    ∃ numbers : List Int, requestIds history = numbers.map .number ∧ numbers.Pairwise (· < ·) := by
  cases trace with
  | refused refused => exact ⟨[1], by simp [requestIds, refused.requests], by simp⟩
  | talking opened only =>
    exact ⟨[1], by simp [requestIds, opened.requests, requests_talk only], by simp⟩
  | ended opened only =>
    have ending : requests [shutdownRequest, exitNotice] =
      [{ id := .number 2, method := "shutdown", parameters := .null }] := rfl
    exact ⟨[1, 2], by simp [requestIds, opened.requests, requests_talk only, ending], by simp⟩

end AnsibleTooling.Rpc
