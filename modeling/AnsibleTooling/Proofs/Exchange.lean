import AnsibleTooling.Proofs.Hearing
import Mathlib.Logic.Relation

set_option autoImplicit false

namespace AnsibleTooling.Machine

open Rpc (Message Event Request requests replyTo writings arrivals)
open Rpc.Frame (readAll)

inductive Party
  | caller
  | reader
  deriving DecidableEq

def saidBy (party : Party) (said : List (Party × Message)) : List Message :=
  said.filterMap fun entry => if entry.1 = party then some entry.2 else none

@[simp] theorem saidBy_append (party : Party) (first second : List (Party × Message)) :
    saidBy party (first ++ second) = saidBy party first ++ saidBy party second :=
  List.filterMap_append ..

@[simp] theorem saidBy_singleton (party speaker : Party) (message : Message) :
    saidBy party [(speaker, message)] = if speaker = party then [message] else [] := by
  split <;> simp_all [saidBy]

@[simp] theorem saidBy_map (party speaker : Party) (messages : List Message) :
    saidBy party (messages.map fun message => (speaker, message)) =
      if speaker = party then messages else [] := by
  split
  case isTrue same =>
    simp only [same, saidBy, List.filterMap_map, Function.comp_def, if_true, List.filterMap_some]
  case isFalse different => simp [different, saidBy]

-- The stream to a server while messages are written byte by byte.
structure Sheet where
  stream : Bytes := []
  -- Only who has the pen writes; with it stands what there is left to write.
  pen : Option (Party × Bytes) := none
  said : List (Party × Message) := []

def Sheet.left (sheet : Sheet) : Bytes :=
  (sheet.pen.map Prod.snd).getD []

inductive Sheet.Step : Sheet -> Sheet -> Prop
  | takes {stream : Bytes} {said : List (Party × Message)} (party : Party) (message : Message) :
    Step { stream, pen := none, said }
      { stream, pen := some (party, Rpc.Frame.write message), said := said ++ [(party, message)] }
  | puts {stream : Bytes} {said : List (Party × Message)} (party : Party) (first rest : Bytes) :
    Step { stream, pen := some (party, first ++ rest), said }
      { stream := stream ++ first, pen := some (party, rest), said }
  | leaves {stream : Bytes} {said : List (Party × Message)} (party : Party) :
    Step { stream, pen := some (party, []), said } { stream, pen := none, said }

def Sheet.Whole (sheet : Sheet) : Prop :=
  sheet.stream ++ sheet.left = frames (sheet.said.map Prod.snd)

theorem Sheet.Step.whole {sheet next : Sheet} (step : sheet.Step next) (before : sheet.Whole) :
    next.Whole := by
  cases step <;> simp_all [Whole, left, frames]

theorem Sheet.whole {sheet : Sheet} (steps : Relation.ReflTransGen Sheet.Step {} sheet) :
    sheet.Whole := by
  induction steps with
  | refl => rfl
  | tail _ step ih => exact step.whole ih

theorem Sheet.write (party : Party) (message : Message) (stream : Bytes)
    (said : List (Party × Message)) :
    Relation.ReflTransGen Sheet.Step { stream, pen := none, said }
      { stream := stream ++ Rpc.Frame.write message, pen := none,
        said := said ++ [(party, message)] } := by
  refine .head (.takes party message) (.head ?_ (.single (.leaves party)))
  simpa using Sheet.Step.puts party (Rpc.Frame.write message) []

theorem Sheet.writes (stream : Bytes) (before said : List (Party × Message)) :
    Relation.ReflTransGen Sheet.Step { stream, said := before }
      { stream := stream ++ frames (said.map Prod.snd), said := before ++ said } := by
  induction said generalizing stream before with
  | nil => simpa [frames] using Relation.ReflTransGen.refl
  | cons entry rest ih =>
    obtain ⟨party, message⟩ := entry
    have later := ih (stream ++ Rpc.Frame.write message) (before ++ [(party, message)])
    simpa [frames] using (Sheet.write party message stream before).trans later

/-- What has gone through the pipes of a server: what was taken from its output and what was put
into its input. -/
structure Streams where
  output : Bytes := []
  input : Bytes := []
  -- Whether the output was found closed, and the input without anyone to read it.
  isClosed : Bool := false
  isDeserted : Bool := false

namespace Child

def output (child : Child) : Bytes :=
  written outputNumber child.run.scene

def input (child : Child) : Bytes :=
  written inputNumber child.run.scene

def isRead (child : Child) : Bool :=
  child.run.scene.holds (.source inputNumber)

-- The reader looks at the output, and what it answers is there when the server goes on.
def hear (child : Child) : Rpc.Arrival × Child :=
  let (arrival, listener, scene) := child.listener.hear child.run.scene
  (arrival, { listener, run := { child.run with thread := child.run.thread.withState scene } })

end Child

namespace Streams

def heard (streams : Streams) (child : Child) (put : Bytes) : Streams :=
  if child.listener.isListening then
    { output := streams.output ++ child.output
      input := streams.input ++ put
      isClosed := streams.isClosed || !child.run.scene.isWritten outputNumber
      isDeserted := streams.isDeserted || !child.isRead }
  else { streams with input := streams.input ++ put }

def given (streams : Streams) (child : Child) (put : Bytes) : Streams :=
  { streams with
    input := streams.input ++ put
    isDeserted := streams.isDeserted || !child.isRead }

end Streams

inductive Run.Goes : Run -> Run -> Prop
  | resumes {ready : Shell.Scene -> Bool} {wake? : Option Nat} {scene : Shell.Scene}
    {resume : Nat -> Shell.Scene -> Shell.Thread Shell.Scene} (before now : Nat) :
    Goes { thread := .paused ready wake? scene resume, now := before }
      { thread := resume now scene, now }
  | waits (run : Run) (now : Nat) : Goes run { run with now }
  | finds (run : Run) (tree : Files.Tree) : Goes run (run.withTree tree)

/-- All that a server and those that talk to it can come to: it goes on, the reader looks at what it
wrote, and the caller writes, in any order. -/
inductive Reached (goes : Run -> Run -> Prop) (configuration : Configuration) :
    List Event -> Streams -> Child -> Prop
  | begun (run : Run) : Reached goes configuration [] {} { run, listener := { configuration } }
  | runs {history : List Event} {streams : Streams} {child : Child} {run : Run}
    (before : Reached goes configuration history streams child) (went : goes child.run run) :
    Reached goes configuration history streams { child with run }
  | hears {history : List Event} {streams : Streams} {child : Child} {put : Bytes}
    (before : Reached goes configuration history streams child)
    (puts : child.hear.2.input = child.input ++ put) :
    Reached goes configuration (history ++ child.hear.1.messages.map .came)
      (streams.heard child put) child.hear.2
  | writes {history : List Event} {streams : Streams} {child : Child} {put : Bytes}
    (before : Reached goes configuration history streams child) (message : Message)
    (puts : (child.write message).2.input = child.input ++ put) :
    Reached goes configuration (history ++ [.sent message (child.write message).1.toBool])
      (streams.given child put) (child.write message).2

namespace Child

theorem scene_withState (run : Run) (scene : Shell.Scene) :
    ({ run with thread := run.thread.withState scene } : Run).scene = scene := by
  rcases run with ⟨_ | _, _⟩ <;> rfl

theorem hear_deaf {child : Child} (deaf : child.listener.isListening = false) :
    child.hear = ({ isOpen := false }, child) := by
  have same : child.run.thread.withState child.run.scene = child.run.thread := by
    unfold Run.scene
    cases child.run.thread <;> rfl
  rw [hear, Listener.hear_deaf deaf]
  dsimp only
  rw [same]

theorem hear_hearing {child : Child} (listens : child.listener.isListening = true) :
    ∃ news isAnswered,
      Listener.Hearing child.listener child.run.scene news isAnswered child.hear.1
        child.hear.2.listener child.hear.2.run.scene ∧
      Listener.Extent child.listener child.run.scene news isAnswered child.hear.2.listener := by
  have hearing := Listener.hear_hearing listens child.run.scene
  rw [hear, scene_withState]
  exact hearing

theorem hear_puts (child : Child) : ∃ put, child.hear.2.input = child.input ++ put := by
  cases listens : child.listener.isListening with
  | false => exact ⟨[], by rw [hear_deaf listens, List.append_nil]⟩
  | true =>
    obtain ⟨news, isAnswered, hearing, _⟩ := hear_hearing listens
    exact ⟨_, hearing.input⟩

theorem hear_emptied {child : Child} (listens : child.hear.2.listener.isListening = true) :
    child.hear.2.output = [] := by
  cases before : child.listener.isListening with
  | false =>
    rw [hear_deaf before, before] at listens
    cases listens
  | true =>
    obtain ⟨news, isAnswered, hearing, _⟩ := hear_hearing before
    exact hearing.output

theorem write_eq (child : Child) (message : Message) :
    (child.write message).1.toBool = child.isRead ∧
      (child.write message).2.listener = child.listener ∧
      (child.write message).2.input =
        child.input ++ if child.isRead then Rpc.Frame.write message else [] := by
  unfold write isRead
  split
  next reads =>
    refine ⟨reads.symm, rfl, ?_⟩
    rw [input, scene_withState, feed_input]
    rfl
  next unread =>
    rw [Bool.not_eq_true] at unread
    rw [unread]
    exact ⟨rfl, rfl, (List.append_nil _).symm⟩

end Child

/-- How far a reader has come: it goes on, the output is at its end, or an answer could not be
written. -/
inductive Reading (configuration : Configuration) (streams : Streams) (listener : Listener) : Prop
  | listening (listens : listener.isListening = true)
    (unread : listener.unread = (readAll streams.output).rest)
    (intact : (readAll streams.output).isBroken = false)
    (heard : listener.heard = Rpc.Frame.messages streams.output)
    (answered : ∀ reply ∈ listener.replies, reply.2 = true)
  | ended (deaf : listener.isListening = false)
    (finished : (readAll streams.output).isBroken = true ∨ streams.isClosed = true)
    (heard : listener.heard = Rpc.Frame.messages streams.output)
    (answered : ∀ reply ∈ listener.replies, reply.2 = true)
  | refused (deaf : listener.isListening = false) (deserted : streams.isDeserted = true)
    {front rest : List Message} {earlier : List (Message × Bool)} (asked : Request)
    (messages : Rpc.Frame.messages streams.output = front ++ .request asked :: rest)
    (heard : listener.heard = front ++ [.request asked])
    (replies : listener.replies = earlier ++ [(replyTo configuration asked, false)])
    (answered : ∀ reply ∈ earlier, reply.2 = true)

variable {configuration : Configuration} {streams : Streams} {listener : Listener}

theorem Reading.congr {others : Streams} (reading : Reading configuration streams listener)
    (output : others.output = streams.output) (closed : others.isClosed = streams.isClosed)
    (deserted : streams.isDeserted = true -> others.isDeserted = true) :
    Reading configuration others listener := by
  cases reading with
  | listening listens unread intact heard answered =>
    exact .listening listens (output ▸ unread) (output ▸ intact) (output ▸ heard) answered
  | ended deaf finished heard answered =>
    exact .ended deaf (by rwa [output, closed]) (output ▸ heard) answered
  | refused deaf gone asked messages heard replies answered =>
    exact .refused deaf (deserted gone) asked (output ▸ messages) heard replies answered

theorem Reading.hears {child : Child} (reading : Reading configuration streams child.listener)
    (configured : child.listener.configuration = configuration) (put : Bytes) :
    Reading configuration (streams.heard child put) child.hear.2.listener := by
  cases listens : child.listener.isListening with
  | false =>
    rw [Child.hear_deaf listens]
    exact reading.congr (by simp [Streams.heard, listens]) (by simp [Streams.heard, listens])
      (by simp [Streams.heard, listens])
  | true =>
    obtain ⟨news, isAnswered, hearing, extent⟩ := Child.hear_hearing listens
    cases reading with
    | ended deaf => simp [listens] at deaf
    | refused deaf => simp [listens] at deaf
    | listening _ unread intact heard answered =>
      have replies := hearing.replies
      have stream : (streams.heard child put).output = streams.output ++ child.output := by
        simp [Streams.heard, listens]
      have contents := Rpc.Frame.readAll_append intact child.output
      have messages := Rpc.Frame.messages_append intact child.output
      rw [← unread, ← stream] at contents messages
      cases extent with
      | whole left read listening all =>
        have heard : child.hear.2.listener.heard =
            Rpc.Frame.messages (streams.heard child put).output := by
          rw [hearing.heard, heard, messages, read]
          rfl
        have answered : ∀ reply ∈ child.hear.2.listener.replies, reply.2 = true := by
          rw [replies, List.forall_mem_append]
          refine ⟨answered, ?_⟩
          rcases all with rfl | silent
          · simp
          · simp [silent]
        cases next : child.hear.2.listener.isListening with
        | true =>
          rw [next, eq_comm, Bool.and_eq_true, Bool.not_eq_true'] at listening
          refine .listening next ?_ ?_ heard answered
          · rw [left, contents]
            rfl
          · rw [contents]
            exact listening.1
        | false =>
          rw [next, eq_comm, Bool.and_eq_false_iff, Bool.not_eq_false'] at listening
          refine .ended next (listening.imp (fun broken => ?_) fun closed => ?_) heard answered
          · rw [contents]
            exact broken
          · simp [Streams.heard, listens, closed]
      | @refused front rest asked met read silent deserted unanswered deaf =>
        have only : requests news = [asked] := by
          rw [read, Rpc.requests_append, silent]
          rfl
        refine @Reading.refused _ _ _ deaf ?_ (child.listener.heard ++ front) rest _ asked ?_ ?_ ?_
          answered
        · simp [Streams.heard, listens, Child.isRead, deserted]
        · rw [messages, heard, List.append_assoc]
          exact congrArg _ met
        · rw [hearing.heard, read, List.append_assoc]
        · rw [replies, only, unanswered, configured]
          rfl

structure Orderly (configuration : Configuration) (history : List Event) (streams : Streams)
    (listener : Listener) : Prop where
  configured : listener.configuration = configuration
  reading : Reading configuration streams listener
  -- Callers get all that is no request.
  came : arrivals history = listener.heard.filter Message.isForCaller
  -- Each request has its one answer.
  replied : listener.replies.map Prod.fst = (requests listener.heard).map (replyTo configuration)
  -- What was written are whole messages.
  whole : ∃ said, streams.input = frames (said.map Prod.snd) ∧
    saidBy .caller said = writings history ∧
    saidBy .reader said = (listener.replies.filter Prod.snd).map Prod.fst
  unwritten (message : Message) : .sent message false ∈ history -> streams.isDeserted = true

variable {history : List Event}

theorem Orderly.hears {child : Child} {put : Bytes}
    (orderly : Orderly configuration history streams child.listener)
    (puts : child.hear.2.input = child.input ++ put) :
    Orderly configuration (history ++ child.hear.1.messages.map .came) (streams.heard child put)
      child.hear.2.listener := by
  have reading := orderly.reading.hears orderly.configured put
  have unwritten (message : Message)
      (failed : .sent message false ∈ history ++ child.hear.1.messages.map Event.came) :
      (streams.heard child put).isDeserted = true := by
    have before := orderly.unwritten message (by simpa using failed)
    unfold Streams.heard
    split <;> simp [before]
  obtain ⟨said, input, byCaller, byReader⟩ := orderly.whole
  have more : (streams.heard child put).input = streams.input ++ put := by
    unfold Streams.heard
    split <;> rfl
  cases listens : child.listener.isListening with
  | false =>
    have nothing : put = [] := by
      rw [Child.hear_deaf listens, List.self_eq_append_right] at puts
      exact puts
    rw [Child.hear_deaf listens] at reading unwritten ⊢
    refine ⟨orderly.configured, reading, ?_, orderly.replied, ⟨said, ?_, ?_, byReader⟩, unwritten⟩
    · simpa using orderly.came
    · rw [more, nothing, List.append_nil, input]
    · simpa using byCaller
  | true =>
    obtain ⟨news, isAnswered, hearing, _⟩ := Child.hear_hearing listens
    have configured := orderly.configured
    have replies := hearing.replies
    have put_eq : put = if isAnswered then frames ((requests news).map
        (replyTo child.listener.configuration)) else [] :=
      List.append_cancel_left (puts.symm.trans hearing.input)
    refine ⟨hearing.configured.trans configured, reading, ?_, ?_, ?_, unwritten⟩
    · simp [orderly.came, hearing.came, hearing.heard]
    · simp [replies, hearing.heard, orderly.replied, configured, Function.comp_def]
    · rw [configured] at replies put_eq
      generalize (requests news).map (replyTo configuration) = answers at replies put_eq
      refine ⟨said ++ (if isAnswered then answers else []).map fun message => (.reader, message),
        ?_, ?_, ?_⟩
      · rw [more, put_eq, input]
        cases isAnswered <;> simp [Function.comp_def]
      · simp [byCaller]
      · have all : answers.filter (fun _ => true) = answers := List.filter_eq_self.mpr (by simp)
        cases isAnswered <;> simp [byReader, replies, List.filter_map, Function.comp_def, all]

theorem Orderly.writes {child : Child} {put : Bytes}
    (orderly : Orderly configuration history streams child.listener) (message : Message)
    (puts : (child.write message).2.input = child.input ++ put) :
    Orderly configuration (history ++ [.sent message (child.write message).1.toBool])
      (streams.given child put) (child.write message).2.listener := by
  obtain ⟨said, input, byCaller, byReader⟩ := orderly.whole
  obtain ⟨isWritten, same, gives⟩ := child.write_eq message
  have put_eq : put = if child.isRead then Rpc.Frame.write message else [] :=
    List.append_cancel_left (puts.symm.trans gives)
  rw [same, isWritten]
  constructor
  case configured => exact orderly.configured
  case reading =>
    exact orderly.reading.congr rfl rfl fun deserted => by simp [Streams.given, deserted]
  case came => simpa using orderly.came
  case replied => exact orderly.replied
  case whole =>
    refine ⟨said ++ if child.isRead then [(.caller, message)] else [], ?_, ?_, ?_⟩
    all_goals cases reads : child.isRead <;> simp [Streams.given, put_eq, reads, input, byCaller,
      byReader, frames]
  case unwritten =>
    intro other failed
    rcases List.mem_append.mp failed with old | new
    · simp [Streams.given, orderly.unwritten other old]
    · rw [List.mem_singleton, Event.sent.injEq] at new
      simp [Streams.given, ← new.2]

variable {goes : Run -> Run -> Prop} {child : Child}

theorem Reached.orderly (reached : Reached goes configuration history streams child) :
    Orderly configuration history streams child.listener := by
  induction reached with
  | begun run =>
    refine ⟨rfl, .listening rfl rfl rfl rfl (by simp), rfl, rfl, ⟨[], rfl, rfl, rfl⟩, by simp⟩
  | runs _ _ ih => exact ih
  | hears _ puts ih => exact ih.hears puts
  | writes _ message puts ih => exact ih.writes message puts

/-- What goes through the pipes of a server, by what both sides say. -/
structure Exchanged (configuration : Configuration) (history : List Event) (streams : Streams)
    (said : List (Party × Message)) : Prop where
  -- The server is given whole messages, whoever writes them.
  input : streams.input = frames (said.map Prod.snd)
  caller : saidBy .caller said = writings history
  -- Its requests are answered in their order, and never come to a caller; all else does.
  reader : saidBy .reader said <+:
    (requests (Rpc.Frame.messages streams.output)).map (replyTo configuration)
  came : arrivals history <+: (Rpc.Frame.messages streams.output).filter Message.isForCaller
  -- Nothing fails and nothing is left out while there is someone who could read an answer.
  all : streams.isDeserted = false ->
    saidBy .reader said =
        (requests (Rpc.Frame.messages streams.output)).map (replyTo configuration) ∧
      arrivals history = (Rpc.Frame.messages streams.output).filter Message.isForCaller ∧
      ∀ message, .sent message false ∉ history

-- One message after the other is one of the ways in which two come to write on one sheet.
theorem Exchanged.written {said : List (Party × Message)}
    (exchanged : Exchanged configuration history streams said) :
    Relation.ReflTransGen Sheet.Step {} { stream := streams.input, said } := by
  simpa [exchanged.input] using Sheet.writes [] [] said

theorem Exchanged.read {said : List (Party × Message)}
    (exchanged : Exchanged configuration history streams said)
    (short : ∀ entry ∈ said, Rpc.Frame.IsShort entry.2) :
    Rpc.Frame.Reads streams.input (said.map fun entry => entry.2.toJson.compact) [] := by
  have each : ∀ message ∈ said.map Prod.snd, Rpc.Frame.IsShort message :=
    List.forall_mem_map.mpr short
  simpa [exchanged.input, frames, Function.comp_def] using Rpc.Frame.reads_written each []

theorem Orderly.exchanged (orderly : Orderly configuration history streams listener) :
    ∃ said, Exchanged configuration history streams said := by
  obtain ⟨said, input, caller, reader⟩ := orderly.whole
  have replied := orderly.replied
  have came := orderly.came
  have complete (heard : listener.heard = Rpc.Frame.messages streams.output)
      (answered : ∀ reply ∈ listener.replies, reply.2 = true) :
      Exchanged configuration history streams said := by
    have all : listener.replies.filter Prod.snd = listener.replies :=
      List.filter_eq_self.mpr answered
    rw [all, replied, heard] at reader
    rw [heard] at came
    refine ⟨input, caller, reader ▸ List.prefix_rfl, came ▸ List.prefix_rfl, fun read => ?_⟩
    refine ⟨reader, came, fun message failed => ?_⟩
    exact absurd (orderly.unwritten message failed) (by simp [read])
  refine ⟨said, ?_⟩
  cases orderly.reading with
  | listening _ _ _ heard answered => exact complete heard answered
  | ended _ _ heard answered => exact complete heard answered
  | @refused _ deserted front rest earlier asked messages heard replies answered =>
    have all : listener.replies.filter Prod.snd = earlier := by
      rw [replies, List.filter_append, List.filter_eq_self.mpr answered]
      simp
    have given : earlier.map Prod.fst = (requests front).map (replyTo configuration) := by
      rw [replies, heard] at replied
      simpa [requests, Message.request?] using replied
    refine ⟨input, caller, ?_, ?_, fun read => absurd deserted (by simp [read])⟩
    · rw [reader, all, given, messages, Rpc.requests_append, List.map_append]
      exact List.prefix_append _ _
    · rw [came, heard, messages, List.filter_append, List.filter_append]
      simp [Message.isForCaller, Message.request?]

section Attending

variable (follows : ∀ {run next : Run}, Run.Goes run next -> goes run next)
include follows

-- However long a server is attended to, it is one of the ways in which things go on.
theorem attend_reached (enough : Shell.Scene -> Rpc.Arrival -> Bool) (limit : Nat)
    (thread : Shell.Thread Shell.Scene) {now : Nat} {heard : Rpc.Arrival}
    (before : Reached goes configuration (history ++ heard.messages.map .came) streams
      { run := { thread, now }, listener }) :
    let attended := attend enough limit thread now listener heard
    ∃ later, Reached goes configuration (history ++ attended.1.messages.map .came) later
      attended.2 := by
  induction thread generalizing now listener heard streams with
  | ended scene =>
    obtain ⟨put, puts⟩ := Child.hear_puts { run := { thread := .ended scene, now }, listener }
    have more := before.hears puts
    rw [List.append_assoc, ← List.map_append] at more
    exact ⟨_, more⟩
  | paused ready wake? scene resume ih =>
    obtain ⟨put, puts⟩ := Child.hear_puts
      { run := { thread := .paused ready wake? scene resume, now }, listener }
    have more := before.hears puts
    rw [List.append_assoc, ← List.map_append] at more
    unfold attend
    dsimp only
    split
    case isTrue => exact ⟨_, more⟩
    case isFalse =>
      split
      case isTrue => exact ih _ _ (more.runs (follows (.resumes _ _)))
      case isFalse =>
        split
        case h_1 => exact ⟨_, more.runs (follows (.waits _ _))⟩
        case h_2 wake _ =>
          split
          case isTrue => exact ⟨_, more.runs (follows (.waits _ _))⟩
          case isFalse => exact ih _ _ (more.runs (follows (.resumes _ _)))

omit follows in
theorem attend_emptied (enough : Shell.Scene -> Rpc.Arrival -> Bool) (limit : Nat)
    (thread : Shell.Thread Shell.Scene) (now : Nat) (listener : Listener) (heard : Rpc.Arrival) :
    let attended := attend enough limit thread now listener heard
    attended.2.listener.isListening = true -> attended.2.output = [] := by
  induction thread generalizing now listener heard with
  | ended scene =>
    exact @Child.hear_emptied { run := { thread := .ended scene, now }, listener }
  | paused ready wake? scene resume ih =>
    have emptied := @Child.hear_emptied
      { run := { thread := .paused ready wake? scene resume, now }, listener }
    unfold attend
    dsimp only
    split
    case isTrue => exact emptied
    case isFalse =>
      split
      case isTrue => exact ih _ _ _ _ _
      case isFalse =>
        split
        case h_1 => exact emptied
        case h_2 wake _ =>
          split
          case isTrue => exact emptied
          case isFalse => exact ih _ _ _ _ _

structure Attended (goes : Run -> Run -> Prop) (configuration : Configuration)
    (history : List Event) (ended : Rpc.Arrival × Child) : Prop where
  reached : ∃ later, Reached goes configuration (history ++ ended.1.messages.map .came) later
    ended.2
  -- Nothing that it has written is left unread.
  emptied : ended.2.listener.isListening = true -> ended.2.output = []

namespace Reached

theorem attended (before : Reached goes configuration history streams child)
    (enough : Shell.Scene -> Rpc.Arrival -> Bool) (milliseconds : Nat) :
    Attended goes configuration history (child.attended enough milliseconds) :=
  ⟨attend_reached follows enough _ child.run.thread (by simpa using before),
    attend_emptied enough _ child.run.thread _ _ _⟩

theorem listens (before : Reached goes configuration history streams child)
    (wanted : Message -> Bool) {milliseconds : Nat} (long : 0 < milliseconds) :
    Attended goes configuration history (Child.wire.listen wanted milliseconds child) := by
  dsimp only [Child.wire, Child.listen]
  rw [if_neg (by simpa using Nat.ne_of_gt long)]
  exact before.attended follows _ _

theorem overhears (before : Reached goes configuration history streams child)
    (wanted : Message -> Bool) (milliseconds : Nat) :
    let listened := Child.wire.listen wanted milliseconds child
    ∃ later, Reached goes configuration (history ++ listened.1.messages.map .came) later
      listened.2 := by
  rcases Nat.eq_zero_or_pos milliseconds with rfl | long
  · exact ⟨streams, (List.append_nil history).symm ▸ before⟩
  · exact (before.listens follows wanted long).reached

theorem terminates (before : Reached goes configuration history streams child) :
    Attended goes configuration history child.terminate :=
  before.attended follows _ _

end Reached

end Attending

end AnsibleTooling.Machine
