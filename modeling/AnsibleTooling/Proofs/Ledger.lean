import AnsibleTooling.Stage
import Mathlib.Data.List.Induction

set_option autoImplicit false

namespace AnsibleTooling

structure Ledger where
  state : SessionState := .inactive
  running : Bool := false
  shown : Option Showing := none
  -- How often a running client was stopped.
  stops : Nat := 0
  -- How often an open terminal was disposed of.
  disposals : Nat := 0

def Event.isStart : Event -> Bool
  | .clientStarted _ success => success
  | _ => false

def Event.isOpening : Event -> Bool
  | .terminalStarted _ _ _ success => success
  | _ => false

namespace Ledger

def enter (ledger : Ledger) : Event -> Ledger
  | .became state => { ledger with state }
  | .clientStarted _ true => { ledger with running := true }
  | .clientStopped true =>
    { ledger with running := false, stops := ledger.stops + ledger.running.toNat }
  | .terminalStarted name program arguments true =>
    { ledger with shown := some { name, program, arguments } }
  | .terminalDisposed true =>
    { ledger with shown := none, disposals := ledger.disposals + ledger.shown.isSome.toNat }
  | _ => ledger

def enterAll (ledger : Ledger) (events : List Event) : Ledger :=
  events.foldl enter ledger

@[simp] theorem enterAll_nil (ledger : Ledger) : ledger.enterAll [] = ledger := rfl

@[simp] theorem enterAll_cons (ledger : Ledger) (event : Event) (rest : List Event) :
    ledger.enterAll (event :: rest) = (ledger.enter event).enterAll rest := rfl

@[simp] theorem enterAll_append (ledger : Ledger) (events more : List Event) :
    ledger.enterAll (events ++ more) = (ledger.enterAll events).enterAll more :=
  List.foldl_append

/-- A client is only started while none runs, and as the current report says; a terminal is only
opened while none is. -/
def Admits (ledger : Ledger) : Event -> Prop
  | .clientStarted launch _ =>
    ledger.running = false ∧ ∃ report, ledger.state = .ready report ∧
      launch.configuration = report.configuration ∧
      launch.command.pathPrefix = report.serverPathPrefix
  | .terminalStarted .. => ledger.shown = none
  | _ => True

def AdmitsAll (ledger : Ledger) : List Event -> Prop
  | [] => True
  | event :: rest => ledger.Admits event ∧ (ledger.enter event).AdmitsAll rest

theorem admitsAll_append (ledger : Ledger) (events more : List Event) :
    ledger.AdmitsAll (events ++ more) ↔
      ledger.AdmitsAll events ∧ (ledger.enterAll events).AdmitsAll more := by
  induction events generalizing ledger with
  | nil => simp [AdmitsAll]
  | cons event rest ih => simp only [List.cons_append, AdmitsAll, ih, enterAll_cons, and_assoc]

theorem admits_of_admitsAll {ledger : Ledger} {before after : List Event} {event : Event}
    (admitted : ledger.AdmitsAll (before ++ event :: after)) :
    (ledger.enterAll before).Admits event :=
  ((admitsAll_append ledger before _).mp admitted).2.1

theorem starts_accounted (ledger : Ledger) (events : List Event)
    (admitted : ledger.AdmitsAll events) :
    events.countP Event.isStart + ledger.running.toNat + ledger.stops =
      (ledger.enterAll events).stops + (ledger.enterAll events).running.toNat := by
  induction events generalizing ledger with
  | nil => simp [Nat.add_comm]
  | cons event rest ih =>
    have later := ih (ledger.enter event) admitted.2
    rw [enterAll_cons, ← later, List.countP_cons]
    cases event with
    | clientStarted launch success =>
      -- A start is admitted only while nothing runs, so that it adds one to what runs.
      have stopped : ledger.running = false := admitted.1.1
      cases success <;> simp [enter, Event.isStart, stopped]
    | clientStopped success =>
      cases success with
      | true =>
        simp [enter, Event.isStart]
        omega
      | false => simp [enter, Event.isStart]
    | terminalStarted name program arguments success => cases success <;> simp [enter, Event.isStart]
    | terminalDisposed success => cases success <;> simp [enter, Event.isStart]
    | _ => simp [enter, Event.isStart]

theorem openings_accounted (ledger : Ledger) (events : List Event)
    (admitted : ledger.AdmitsAll events) :
    events.countP Event.isOpening + ledger.shown.isSome.toNat + ledger.disposals =
      (ledger.enterAll events).disposals + (ledger.enterAll events).shown.isSome.toNat := by
  induction events generalizing ledger with
  | nil => simp [Nat.add_comm]
  | cons event rest ih =>
    have later := ih (ledger.enter event) admitted.2
    rw [enterAll_cons, ← later, List.countP_cons]
    cases event with
    | clientStarted launch success => cases success <;> simp [enter, Event.isOpening]
    | clientStopped success => cases success <;> simp [enter, Event.isOpening]
    | terminalStarted name program arguments success =>
      -- An opening is admitted only while nothing is shown.
      have closed : ledger.shown = none := admitted.1
      cases success <;> simp [enter, Event.isOpening, closed]
    | terminalDisposed success =>
      cases success with
      | true =>
        simp [enter, Event.isOpening]
        omega
      | false => simp [enter, Event.isOpening]
    | _ => simp [enter, Event.isOpening]

theorem shown_opened_last (events : List Event) (showing : Showing)
    (shown : (({} : Ledger).enterAll events).shown = some showing) :
    ∃ before after,
      events = before ++
        .terminalStarted showing.name showing.program showing.arguments true :: after ∧
      ∀ event ∈ after, event.isOpening = false := by
  -- From the end backwards: what is entered last either opens, closes, or leaves all as it was.
  induction events using List.reverseRecOn with
  | nil => cases shown
  | append_singleton events event ih =>
    have kept (same : (({} : Ledger).enterAll (events ++ [event])).shown =
        (({} : Ledger).enterAll events).shown) (idle : event.isOpening = false) :
        ∃ before after, events ++ [event] = before ++
          .terminalStarted showing.name showing.program showing.arguments true :: after ∧
          ∀ event ∈ after, event.isOpening = false := by
      obtain ⟨before, after, rfl, none⟩ := ih (same ▸ shown)
      refine ⟨before, after ++ [event], by simp, ?_⟩
      simpa [or_imp, forall_and, idle] using none
    cases event with
    | terminalStarted name program arguments success =>
      cases success with
      | true =>
        simp only [enterAll_append, enterAll_cons, enterAll_nil, enter, Option.some.injEq] at shown
        subst shown
        exact ⟨events, [], rfl, by simp⟩
      | false => exact kept (by simp [enter]) rfl
    | terminalDisposed success =>
      cases success with
      | true => simp [enter] at shown
      | false => exact kept (by simp [enter]) rfl
    | clientStarted launch success => cases success <;> exact kept (by simp [enter]) rfl
    | clientStopped success => cases success <;> exact kept (by simp [enter]) rfl
    | _ => exact kept (by simp [enter]) rfl

end Ledger

end AnsibleTooling
