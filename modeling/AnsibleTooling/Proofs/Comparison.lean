import AnsibleTooling.Proofs.Quiet

set_option autoImplicit false

namespace AnsibleTooling

variable {S A B C D : Type}

def Event.isLogged : Event -> Bool
  | .logged _ => true
  | _ => false

def heard (events : List Event) : List Event :=
  events.filter fun event => !event.isLogged

@[simp] theorem heard_append (first second : List Event) :
    heard (first ++ second) = heard first ++ heard second :=
  List.filter_append ..

@[simp] theorem heard_records (records : List LogRecord) : heard (records.map .logged) = [] := by
  simp [heard, Event.isLogged]

theorem Ran.heard {lines : List String} {events : List Event} (ran : Ran lines events) :
    heard events = lines.map .ran := by
  induction ran with
  | nil => rfl
  | ran line _ ih => simpa [AnsibleTooling.heard, Event.isLogged] using ih
  | logged record _ ih => simpa [AnsibleTooling.heard, Event.isLogged] using ih

/-- The second of two lists has command lines of a kind in it that the first has not, and is the
same otherwise. -/
inductive Interspersed (extra : String -> Prop) : List Event -> List Event -> Prop
  | nil : Interspersed extra [] []
  | both {first second : List Event} (event : Event) : Interspersed extra first second ->
    Interspersed extra (event :: first) (event :: second)
  | only {first second : List Event} (line : String) (isExtra : extra line) :
    Interspersed extra first second -> Interspersed extra first (.ran line :: second)

namespace Interspersed

variable {extra : String -> Prop} {first second third fourth : List Event}

theorem refl (events : List Event) : Interspersed extra events events := by
  induction events with
  | nil => exact .nil
  | cons event _ ih => exact .both event ih

theorem append (before : Interspersed extra first second)
    (after : Interspersed extra third fourth) :
    Interspersed extra (first ++ third) (second ++ fourth) := by
  induction before with
  | nil => exact after
  | both event _ ih => exact .both event ih
  | only line isExtra _ ih => exact .only line isExtra ih

theorem eq_of_none (interspersed : Interspersed extra first second)
    (none : ∀ line, ¬ extra line) : second = first := by
  induction interspersed with
  | nil => rfl
  | both event _ ih => rw [ih]
  | only line isExtra => exact absurd isExtra (none line)

end Interspersed

inductive Matches (agree : A -> B -> Prop) : Except Error A -> Except Error B -> Prop
  | ok {value : A} {other : B} (agrees : agree value other) : Matches agree (.ok value) (.ok other)
  | error (error : Error) : Matches agree (.error error) (.error error)

theorem matches_of_eq {result ended : Except Error A} (same : ended = result) :
    Matches Eq result ended := by
  subst same
  cases ended with
  | ok value => exact .ok rfl
  | error error => exact .error error

/-- How two acts have gone from two stages: to results that match, and to worlds that are the same
in some sense, with nothing heard of the one that is not heard of the other but additional
commands. -/
structure Parallel (same : World S -> World S -> Prop) (extra : String -> Prop)
    (agree : A -> B -> Prop) (first second : Stage S) (ended : Except Error A × Stage S)
    (other : Except Error B × Stage S) : Prop where
  results : Matches agree ended.1 other.1
  stages : ∃ world later events more, ended.2 = first.extend world events ∧
    other.2 = second.extend later more ∧ same world later ∧
    Interspersed extra (heard events) (heard more)

namespace Act

def Twin (same : World S -> World S -> Prop) (extra : String -> Prop) (agree : A -> B -> Prop)
    (act : Act S A) (other : Act S B) : Prop :=
  ∀ first second : Stage S, same first.world second.world -> second.gate = first.gate ->
    Parallel same extra agree first second (act.perform first) (other.perform second)

variable {same : World S -> World S -> Prop} {extra : String -> Prop} {agree : A -> B -> Prop}

theorem twin_ofExcept {result : Except Error A} {ended : Except Error B}
    (matched : Matches agree result ended) :
    Twin same extra agree (ofExcept result) (ofExcept ended) := by
  intro first second alike _
  rw [perform_ofExcept, perform_ofExcept]
  exact ⟨matched, first.world, second.world, [], [], by simp, by simp, alike, .nil⟩

theorem twin_pure {value : A} {other : B} (agrees : agree value other) :
    Twin same extra agree (pure value) (pure other) :=
  twin_ofExcept (.ok agrees)

theorem twin_throw (error : Error) :
    Twin same extra agree (throw error : Act S A) (throw error : Act S B) :=
  twin_ofExcept (.error error)

theorem twin_ite {condition : Prop} [Decidable condition] {act next : Act S A}
    {other nextOther : Act S B} (yes : condition -> Twin same extra agree act other)
    (no : ¬ condition -> Twin same extra agree next nextOther) :
    Twin same extra agree (if condition then act else next)
      (if condition then other else nextOther) := by
  split
  next holds => exact yes holds
  next fails => exact no fails

theorem twin_logged (entry other : LogRecord) :
    Twin same extra (fun _ _ => True) (record (.logged entry) : Act S Unit)
      (record (.logged other) : Act S Unit) :=
  fun _ _ alike _ => ⟨.ok trivial, _, _, _, _, rfl, rfl, alike, .nil⟩

theorem Twin.bind {agreeNext : C -> D -> Prop} {act : Act S A} {other : Act S B}
    {next : A -> Act S C} {nextOther : B -> Act S D} (start : Twin same extra agree act other)
    (later : ∀ value chosen, agree value chosen ->
      Twin same extra agreeNext (next value) (nextOther chosen)) :
    Twin same extra agreeNext (act >>= next) (other >>= nextOther) := by
  intro first second alike gate
  obtain ⟨results, world, left, events, more, reached, reachedOther, alike, entered⟩ :=
    start first second alike gate
  rcases performed : act.perform first with ⟨result, middle⟩
  rcases performedOther : other.perform second with ⟨ended, middleOther⟩
  rw [performed] at results reached
  rw [performedOther] at results reachedOther
  obtain rfl : middle = first.extend world events := reached
  obtain rfl : middleOther = second.extend left more := reachedOther
  cases results with
  | error error =>
    rw [perform_bind_error performed, perform_bind_error performedOther]
    exact ⟨.error error, world, left, events, more, rfl, rfl, alike, entered⟩
  | ok agrees =>
    rw [perform_bind_ok performed, perform_bind_ok performedOther]
    -- The second acts start in stages with longer journals, but with the gates they had.
    obtain ⟨results, world, left, after, afterOther, reached, reachedOther, alike, enteredAfter⟩ :=
      later _ _ agrees (first.extend world events) (second.extend left more) alike gate
    refine ⟨results, world, left, events ++ after, more ++ afterOther, ?_, ?_, alike, ?_⟩
    · rw [reached, Stage.extend_extend]
    · rw [reachedOther, Stage.extend_extend]
    · rw [heard_append, heard_append]
      exact entered.append enteredAfter

theorem twin_of_quiet {act : Act S A} {other : Act S B} {lines more : List String}
    {result : World S -> Except Error A} {ended : World S -> Except Error B}
    {left leftOther : World S -> World S}
    (quiet : ∀ world, act.Quiet world lines (result world) (left world))
    (quietOther : ∀ world, other.Quiet world more (ended world) (leftOther world))
    (results : ∀ world later, same world later -> Matches agree (result world) (ended later))
    (worlds : ∀ world later, same world later -> same (left world) (leftOther later))
    (runs : Interspersed extra (lines.map .ran) (more.map .ran)) :
    Twin same extra agree act other := by
  intro first second alike _
  obtain ⟨events, ran, done⟩ := quiet first.world first rfl
  obtain ⟨later, ranOther, doneOther⟩ := quietOther second.world second rfl
  rw [done, doneOther]
  refine ⟨results _ _ alike, _, _, events, later, rfl, rfl, worlds _ _ alike, ?_⟩
  rw [ran.heard, ranOther.heard]
  exact runs

end Act

end AnsibleTooling
