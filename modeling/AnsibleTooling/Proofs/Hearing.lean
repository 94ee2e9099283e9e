import AnsibleTooling.Machine.Child
import AnsibleTooling.Proofs.Delivery
import AnsibleTooling.Proofs.Directories
import AnsibleTooling.Proofs.Framing
import Mathlib.Logic.Relation

set_option autoImplicit false

namespace AnsibleTooling.Rpc

def replyTo (configuration : Configuration) (asked : Request) : Message :=
  .response {
    id := asked.id
    result := some <|
      if asked.method = "workspace/configuration" then configuration.answer asked.parameters
      else .null
    failure := none }

def Message.isForCaller (message : Message) : Bool :=
  message.request?.isNone

def writings (history : List Event) : List Message :=
  history.filterMap fun event =>
    match event with
    | .sent message true => some message
    | _ => none

@[simp] theorem writings_append (first second : List Event) :
    writings (first ++ second) = writings first ++ writings second :=
  List.filterMap_append ..

@[simp] theorem writings_sent (message : Message) (isWritten : Bool) :
    writings [.sent message isWritten] = if isWritten then [message] else [] := by
  cases isWritten <;> rfl

@[simp] theorem writings_came (messages : List Message) :
    writings (messages.map .came) = [] := by
  simp [writings]

end AnsibleTooling.Rpc

namespace AnsibleTooling.Machine

open Rpc (Message Event Request requests replyTo writings arrivals)
open Rpc.Frame (readAll)

namespace Listener

variable (listener : Listener) (messages : List Message)

theorem answers_eq :
    listener.answers messages = (requests messages).map (replyTo listener.configuration) := by
  rw [answers, requests, List.map_filterMap]
  congr 1
  funext message
  cases message <;> rfl

theorem forwarded_eq : listener.forwarded messages = messages.filter Message.isForCaller := by
  rw [forwarded, ← List.filterMap_eq_filter]
  congr 1
  funext message
  cases message <;> rfl

end Listener

def frames (messages : List Message) : Bytes :=
  messages.flatMap Rpc.Frame.write

@[simp] theorem frames_append (first second : List Message) :
    frames (first ++ second) = frames first ++ frames second :=
  List.flatMap_append ..

section Pipes

variable {number other : Nat} {pipe : Shell.Pipe} {scene : Shell.Scene}

theorem written_setPipe : written number (scene.setPipe number pipe) = pipe.all := by
  simp [written, Shell.Scene.setPipe, Shell.Scene.pipe, Shell.numbered?, Shell.setEntry]

theorem written_setPipe_of_ne (apart : number ≠ other) :
    written number (scene.setPipe other pipe) = written number scene := by
  have others := Files.Tree.find_filter_of_ne apart scene.pipes
  simp only [bne] at others
  simp only [written, Shell.Scene.setPipe, Shell.Scene.pipe, Shell.numbered?, Shell.setEntry]
  rw [List.find?_cons_of_neg (by simpa using Ne.symm apart), others]

theorem all_write (bytes : Bytes) : (pipe.write bytes).all = pipe.all ++ bytes := by
  cases recent : pipe.recent <;> simp [Shell.Pipe.all, Shell.Pipe.write, recent]

theorem feed_input (bytes : Bytes) (scene : Shell.Scene) :
    written inputNumber (Listener.feed bytes scene) = written inputNumber scene ++ bytes := by
  unfold Listener.feed
  cases bytes with
  | nil => simp
  | cons byte rest =>
    rw [if_neg (by simp), written_setPipe, all_write]
    rfl

theorem feed_output (bytes : Bytes) (scene : Shell.Scene) :
    written outputNumber (Listener.feed bytes scene) = written outputNumber scene := by
  unfold Listener.feed
  split
  next => rfl
  next => exact written_setPipe_of_ne (by decide)

theorem drain_output (isOpen : Bool) (scene : Shell.Scene) :
    written outputNumber (Listener.drain isOpen scene) = [] := by
  rw [Listener.drain, written_setPipe]
  rfl

theorem drain_input (isOpen : Bool) (scene : Shell.Scene) :
    written inputNumber (Listener.drain isOpen scene) = written inputNumber scene :=
  written_setPipe_of_ne (by decide)

end Pipes

-- The bodies up to the first request, if there is one.
inductive Until (bodies : List (String × Option Message)) :
    List (String × Option Message) × Bool -> Prop
  | unasked (silent : requests (bodies.filterMap Prod.snd) = []) : Until bodies (bodies, false)
  | asked {first : List (String × Option Message)} {front rest : List Message} (asked : Request)
    (messages : bodies.filterMap Prod.snd = front ++ .request asked :: rest)
    (read : first.filterMap Prod.snd = front ++ [.request asked]) (silent : requests front = []) :
    Until bodies (first, true)

theorem Until.cons {bodies : List (String × Option Message)}
    {ended : List (String × Option Message) × Bool} (text : String) {message : Option Message}
    (silent : requests message.toList = []) (later : Until bodies ended) :
    Until ((text, message) :: bodies) ((text, message) :: ended.1, ended.2) := by
  have split (bodies : List (String × Option Message)) :
      ((text, message) :: bodies).filterMap Prod.snd =
        message.toList ++ bodies.filterMap Prod.snd := by
    cases message <;> rfl
  cases later with
  | unasked unasked =>
    refine .unasked ?_
    rw [split, Rpc.requests_append, silent, unasked, List.append_nil]
  | @asked first front rest asked messages read unasked =>
    have before : requests (message.toList ++ front) = [] := by
      rw [Rpc.requests_append, silent, unasked, List.append_nil]
    refine @Until.asked _ _ _ rest asked ?_ ?_ before
    · rw [split, messages, List.append_assoc]
    · rw [split, read, List.append_assoc]

theorem untilAsked_until (bodies : List (String × Option Message)) :
    Until bodies (untilAsked bodies) := by
  induction bodies with
  | nil => exact .unasked rfl
  | cons body rest ih =>
    obtain ⟨text, message⟩ := body
    rcases message with _ | asked | given | told
    case some.request =>
      exact @Until.asked _ [(text, some (.request asked))] [] _ asked rfl rfl rfl
    all_goals exact ih.cons text rfl

namespace Listener

structure Hearing (listener : Listener) (scene : Shell.Scene) (news : List Message)
    (isAnswered : Bool) (arrival : Rpc.Arrival) (next : Listener) (after : Shell.Scene) : Prop where
  configured : next.configuration = listener.configuration
  heard : next.heard = listener.heard ++ news
  came : arrival.messages = news.filter Message.isForCaller
  replies : next.replies = listener.replies ++
    ((requests news).map (replyTo listener.configuration)).map fun reply => (reply, isAnswered)
  input : written inputNumber after = written inputNumber scene ++
    if isAnswered then frames ((requests news).map (replyTo listener.configuration)) else []
  output : written outputNumber after = []

/-- All that a server has written is read, or what comes before an answer that cannot be written. -/
inductive Extent (listener : Listener) (scene : Shell.Scene) (news : List Message)
    (isAnswered : Bool) (next : Listener) : Prop
  | whole (unread : next.unread = (readAll (listener.unread ++ written outputNumber scene)).rest)
    (read : news = Rpc.Frame.messages (listener.unread ++ written outputNumber scene))
    (listening : next.isListening =
      (!(readAll (listener.unread ++ written outputNumber scene)).isBroken &&
        scene.isWritten outputNumber))
    (answered : isAnswered = true ∨ requests news = [])
  | refused {front rest : List Message} (asked : Request)
    (messages : Rpc.Frame.messages (listener.unread ++ written outputNumber scene) =
      front ++ .request asked :: rest)
    (read : news = front ++ [.request asked]) (silent : requests front = [])
    (deserted : scene.holds (.source inputNumber) = false) (unanswered : isAnswered = false)
    (deaf : next.isListening = false)

theorem hear_deaf {listener : Listener} (deaf : listener.isListening = false)
    (scene : Shell.Scene) : listener.hear scene = ({ isOpen := false }, listener, scene) := by
  simp [hear, deaf]

theorem hear_hearing {listener : Listener} (listens : listener.isListening = true)
    (scene : Shell.Scene) :
    ∃ news isAnswered, let ended := listener.hear scene
      Hearing listener scene news isAnswered ended.1 ended.2.1 ended.2.2 ∧
        Extent listener scene news isAnswered ended.2.1 := by
  simp only [hear, listens]
  cases reads : canAnswer scene with
  | true =>
    refine ⟨_, true, ⟨?_, .whole rfl rfl ?_ (.inl rfl)⟩⟩
    · constructor <;>
        simp [answers_eq, forwarded_eq, feed_input, feed_output, drain_input, drain_output, frames,
          Rpc.Frame.messages]
    · simp
  | false =>
    have deserted : scene.holds (.source inputNumber) = false := by
      simp only [canAnswer, Bool.or_eq_false_iff] at reads
      exact reads.1
    have met := untilAsked_until (readAll (listener.unread ++ written outputNumber scene)).bodies
    generalize untilAsked _ = looked at met
    cases met with
    | unasked silent =>
      refine ⟨_, false, ⟨?_, .whole rfl rfl ?_ (.inr silent)⟩⟩
      · constructor <;>
          simp [answers_eq, forwarded_eq, feed_input, feed_output, drain_input, drain_output,
            Rpc.Frame.messages]
      · simp
    | asked asked messages read silent =>
      refine ⟨_, false, ⟨?_, .refused asked messages read silent deserted rfl ?_⟩⟩
      · constructor <;>
          simp [answers_eq, forwarded_eq, feed_input, feed_output, drain_input, drain_output]
      · simp

end Listener

end AnsibleTooling.Machine
