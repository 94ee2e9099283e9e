/-!
Computations that can pause, on a state that several of them share. A paused one says when it can go
on: once the state satisfies a condition, or when a time has come. A thread has no result; a task
has one, and can leave threads to go on beside it. Times are milliseconds.
-/

set_option autoImplicit false

namespace AnsibleTooling.Shell

inductive Thread (S : Type)
  | ended (state : S)
  -- Goes on when the state is ready or the time has come; it is told what time it is then.
  | paused (ready : S -> Bool) (wake? : Option Nat) (state : S) (resume : Nat -> S -> Thread S)

namespace Thread

variable {S : Type}

def state : Thread S -> S
  | .ended state => state
  | .paused _ _ state _ => state

def withState (state : S) : Thread S -> Thread S
  | .ended _ => .ended state
  | .paused ready wake? _ resume => .paused ready wake? state resume

def modifyState (change : S -> S) (thread : Thread S) : Thread S :=
  thread.withState (change thread.state)

def sooner : Option Nat -> Option Nat -> Option Nat
  | some first, some second => some (min first second)
  | first, none => first
  | none, second => second

def hasCome (wake? : Option Nat) (now : Nat) : Bool :=
  wake?.any fun wake => wake <= now

/-- A pause beside another thread. The thread that pauses goes on first where both can. -/
def pauseBeside (ready : S -> Bool) (wake? : Option Nat)
    (resume : Nat -> S -> Thread S -> Thread S) : Thread S -> Thread S
  | .ended state => .paused ready wake? state fun now state => resume now state (.ended state)
  | .paused otherReady otherWake? state otherResume =>
    .paused (fun state => ready state || otherReady state) (sooner wake? otherWake?) state
      fun now state =>
        if ready state || hasCome wake? now then
          resume now state (.paused otherReady otherWake? state otherResume)
        else pauseBeside ready wake? resume (otherResume now state)

def beside : Thread S -> Thread S -> Thread S
  | .ended state, other => other.withState state
  | .paused ready wake? state resume, other =>
    pauseBeside ready wake? (fun now state other => (resume now state).beside other)
      (other.withState state)

/-- Goes on until a time has come, as far as that is possible, or until the state is as wanted;
gives the time it has become as well. -/
def advance (wanted : S -> Bool) (limit? : Option Nat) : Nat -> Thread S -> Nat × Thread S
  | now, .ended state => (now, .ended state)
  | now, .paused ready wake? state resume =>
    let stays := (now, Thread.paused ready wake? state resume)
    if wanted state then stays
    else if ready state then (resume now state).advance wanted limit? now
    else
      match wake? with
      | none => stays
      | some wake =>
        if limit?.any (· < wake) then stays
        else (resume (max now wake) state).advance wanted limit? (max now wake)

end Thread

inductive Task (S A : Type)
  | done (value : A) (state : S)
  | paused (ready : S -> Bool) (rest? : Option Nat) (state : S) (resume : Nat -> S -> Task S A)
  | forked (child : Nat -> S -> Thread S) (state : S) (resume : S -> Task S A)

namespace Task

variable {S A B : Type}

def bind : Task S A -> (A -> S -> Task S B) -> Task S B
  | .done value state, next => next value state
  | .paused ready rest? state resume, next =>
    .paused ready rest? state fun now state => (resume now state).bind next
  | .forked child state resume, next => .forked child state fun state => (resume state).bind next

/-- A task as a thread, beside those it has left; they go on in the order in which they were
left. -/
def thread : Task S A -> Nat -> Thread S -> Thread S
  | .done _ state, _, others => others.withState state
  | .paused ready rest? state resume, now, others =>
    Thread.pauseBeside ready (rest?.map (now + ·))
      (fun now state others => (resume now state).thread now others) (others.withState state)
  | .forked child state resume, now, others =>
    (resume state).thread now (others.beside (.paused (fun _ => true) none state child))

end Task

def Program (S A : Type) := S -> Task S A

namespace Program

variable {S : Type}

instance : Monad (Program S) where
  pure value := fun state => .done value state
  bind program next := fun state => (program state).bind next

instance : MonadStateOf S (Program S) where
  get := fun state => .done state state
  set state := fun _ => .done () state
  modifyGet change := fun state =>
    let (value, next) := change state
    .done value next

def pause (ready : S -> Bool) (rest? : Option Nat) : Program S Nat :=
  fun state => .paused ready rest? state fun now state => .done now state

def thread (program : Program S Unit) (now : Nat) (state : S) : Thread S :=
  (program state).thread now (.ended state)

def fork (child : Program S Unit) : Program S Unit :=
  fun state => .forked child.thread state fun state => .done () state

end Program

end AnsibleTooling.Shell
