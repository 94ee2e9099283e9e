import AnsibleTooling.Proofs.Provisioning
/-!
Reports of a running installation. One thread installs while another reports the time that has
passed, until the channel between them is closed. Main statement: however they take turns, the start
is announced first and a success last, with the reports in between; and when the installation
returns, the reporting thread has ended.
-/

set_option autoImplicit false

namespace AnsibleTooling

def Event.note? : Event -> Option (NoteLevel × String)
  | .noted level text => some (level, text)
  | _ => none

def notesIn (events : List Event) : List (NoteLevel × String) :=
  events.filterMap Event.note?

@[simp] theorem notesIn_append (first second : List Event) :
    notesIn (first ++ second) = notesIn first ++ notesIn second :=
  List.filterMap_append

namespace Installation

def Deed.event? : Deed -> Option Event
  | .ran line => some (.ran line)
  | .logged record => some (.logged record)
  | .passed _ => none

structure Task where
  interval : Nat
  plan : InstallPlan
  deeds : List Deed
  result : Except Error Unit

def Task.work (task : Task) : List Event :=
  .planned task.plan :: task.deeds.filterMap Deed.event?

inductive Main
  | starting
  | working (todo : List Event)
  | returned
  -- The channel is closed.
  | joining
  | finished

def Main.isOpen : Main -> Bool
  | .working _ | .returned => true
  | _ => false

def Main.isClosed : Main -> Bool
  | .joining | .finished => true
  | _ => false

inductive Ticker
  | unborn
  | looking
  -- It waits for the channel to be closed, but no longer than the interval.
  | waiting (since : Nat)
  | due
  | ended

def Ticker.isListening : Ticker -> Bool
  | .looking | .waiting _ => true
  | _ => false

structure Threads where
  main : Main := .starting
  ticker : Ticker := .unborn
  -- Milliseconds since the announcement.
  clock : Nat := 0
  said : List Event := []

inductive Step (task : Task) : Threads -> Threads -> Prop
  | announce : Step task {} {
      main := .working task.work, ticker := .looking, said := announcement task.plan }
  | work {ticker clock said todo} (event : Event) (now : Nat) (later : clock ≤ now) :
    Step task { main := .working (event :: todo), ticker, clock, said }
      { main := .working todo, ticker, clock := now, said := said ++ [event] }
  | done {ticker clock said} (now : Nat) (later : clock ≤ now) :
    Step task { main := .working [], ticker, clock, said }
      { main := .returned, ticker, clock := now, said }
  | close {ticker clock said} (now : Nat) (later : clock ≤ now) :
    Step task { main := .returned, ticker, clock, said }
      { main := .joining, ticker, clock := now, said }
  | join {clock said} (now : Nat) (later : clock ≤ now) :
    Step task { main := .joining, ticker := .ended, clock, said }
      { main := .finished, ticker := .ended, clock := now, said := said ++ closing now task.result }
  | look {main clock said} (isOpen : main.isOpen = true) (now : Nat) (later : clock ≤ now) :
    Step task { main, ticker := .looking, clock, said }
      { main, ticker := .waiting now, clock := now, said }
  -- The channel may be closed while it is found that nothing has come of the waiting.
  | timeOut {main clock said since} (now : Nat) (later : clock ≤ now)
    (waited : since + task.interval ≤ now) :
    Step task { main, ticker := .waiting since, clock, said }
      { main, ticker := .due, clock := now, said }
  | report {main clock said} (now : Nat) (later : clock ≤ now) :
    Step task { main, ticker := .due, clock, said }
      { main, ticker := .looking, clock := now, said := said ++ [.noted .warn (progressText now)] }
  | leave {main ticker clock said} (listening : ticker.isListening = true)
    (closed : main.isClosed = true) (now : Nat) (later : clock ≤ now) :
    Step task { main, ticker, clock, said } { main, ticker := .ended, clock := now, said }

inductive Run (task : Task) : Nat -> Threads -> Threads -> Prop
  | none (threads : Threads) : Run task 0 threads threads
  | more {count threads middle later} : Run task count threads middle -> Step task middle later ->
    Run task (count + 1) threads later

section Order

variable {task : Task} {threads next : Threads}

def startNote : NoteLevel × String :=
  (.info, "Install Ansible Server requirements tools...")

def progressNote (elapsed : Nat) : NoteLevel × String :=
  (.warn, progressText elapsed)

def endNotes (elapsed : Nat) : Except Error Unit -> List (NoteLevel × String)
  | .ok _ => [(.info, completionText elapsed)]
  | .error _ => []

theorem notesIn_closing (elapsed : Nat) (result : Except Error Unit) :
    notesIn (closing elapsed result) = endNotes elapsed result := by
  unfold closing
  split <;> rfl

theorem notesIn_work (task : Task) : notesIn task.work = [] := by
  have deeds : notesIn (task.deeds.filterMap Deed.event?) = [] := by
    rw [notesIn, List.filterMap_filterMap, List.filterMap_eq_nil_iff]
    intro deed _
    cases deed <;> rfl
  exact deeds

/-- A report made at this time is followed by another one no sooner than after the interval. -/
def Ticker.Follows (interval clock time : Nat) : Ticker -> Prop
  | .waiting since => time ≤ since ∧ since ≤ clock
  | .due => time + interval ≤ clock
  | _ => time ≤ clock

structure Told (task : Task) (threads : Threads) (times : List Nat) : Prop where
  running : threads.main ≠ .finished -> notesIn threads.said = startNote :: times.map progressNote
  finished : threads.main = .finished -> threads.ticker = .ended ∧
    notesIn threads.said = startNote :: times.map progressNote ++ endNotes threads.clock task.result
  spaced : times.Pairwise fun time later => time + task.interval ≤ later
  past : ∀ time ∈ times, threads.ticker.Follows task.interval threads.clock time
  silent : ∀ todo, threads.main = .working todo -> notesIn todo = []
  started : threads.main ≠ .starting
  born : threads.ticker ≠ .unborn

theorem Ticker.Follows.later {interval clock time now : Nat} {ticker : Ticker}
    (follows : ticker.Follows interval clock time) (later : clock ≤ now) :
    ticker.Follows interval now time := by
  cases ticker <;> simp only [Ticker.Follows] at follows ⊢ <;> omega

theorem Ticker.Follows.past {interval clock time : Nat} {ticker : Ticker}
    (follows : ticker.Follows interval clock time) : time ≤ clock := by
  cases ticker <;> simp only [Ticker.Follows] at follows <;> omega

theorem told_announced (step : Step task {} next) : Told task next [] := by
  cases step with
  | announce =>
    refine ⟨fun _ => rfl, nofun, .nil, nofun, ?_, nofun, nofun⟩
    rintro todo same
    cases same
    exact notesIn_work task
  | leave listening => cases listening

theorem still_of_finished (finished : threads.main = .finished) (ended : threads.ticker = .ended) :
    ¬ Step task threads next := by
  intro step
  cases step with
  | look | timeOut | report => cases ended
  | leave listening =>
    cases ended
    cases listening
  | announce | work | done | close | join => cases finished

theorem Told.step {times : List Nat} (told : Told task threads times)
    (step : Step task threads next) : ∃ times, Told task next times := by
  have unfinished : threads.main ≠ .finished := fun finished =>
    still_of_finished finished (told.finished finished).1 step
  have notes := told.running unfinished
  have past := told.past
  -- Only a report and the end add a notification; the other steps keep the times and move on.
  cases step with
  | announce => exact absurd rfl told.started
  | work event now later =>
    have silent := told.silent _ rfl
    rw [← List.singleton_append, notesIn_append, List.append_eq_nil_iff] at silent
    refine ⟨times, { told with
      running := fun _ => ?_
      finished := nofun
      past := fun time member => (past time member).later later
      silent := ?_
      started := nofun }⟩
    · rw [notesIn_append, silent.1, List.append_nil]
      exact notes
    · rintro todo same
      cases same
      exact silent.2
  | done now later | close now later =>
    exact ⟨times, { told with
      running := fun _ => notes
      finished := nofun
      past := fun time member => (past time member).later later
      silent := nofun
      started := nofun }⟩
  | join now later =>
    refine ⟨times, { told with
      running := fun running => absurd rfl running
      finished := fun _ => ⟨rfl, ?_⟩
      past := fun time member => (past time member).later later
      silent := nofun
      started := nofun }⟩
    rw [notesIn_append, notesIn_closing]
    exact congrArg (· ++ endNotes now task.result) notes
  | look isOpen now later =>
    exact ⟨times, { told with
      running := fun _ => notes
      finished := fun finished => absurd finished unfinished
      past := fun time member => ⟨Nat.le_trans (past time member).past later, Nat.le_refl now⟩
      born := nofun }⟩
  | timeOut now later waited =>
    refine ⟨times, { told with
      running := fun _ => notes
      finished := fun finished => absurd finished unfinished
      past := fun time member => ?_
      born := nofun }⟩
    obtain ⟨before, _⟩ := past time member
    exact Nat.le_trans (Nat.add_le_add_right before _) waited
  | report now later =>
    refine ⟨times ++ [now], { told with
      running := fun _ => ?_
      finished := fun finished => absurd finished unfinished
      spaced := List.pairwise_append.mpr ⟨told.spaced, List.pairwise_singleton _ _, ?_⟩
      past := ?_
      born := nofun }⟩
    · rw [notesIn_append, notes, List.map_append]
      rfl
    · intro time member _ same
      obtain rfl := List.mem_singleton.mp same
      exact Nat.le_trans (past time member) later
    · rw [List.forall_mem_append]
      refine ⟨fun time member => Nat.le_trans (past time member).past later, ?_⟩
      rintro _ same
      exact Nat.le_of_eq (List.mem_singleton.mp same)
  | leave listening closed now later =>
    exact ⟨times, { told with
      running := fun _ => notes
      finished := fun finished => absurd finished unfinished
      past := fun time member => Nat.le_trans (past time member).past later
      born := nofun }⟩

theorem Run.told {count : Nat} (run : Run task count {} threads) :
    threads = {} ∨ ∃ times, Told task threads times := by
  generalize start : ({} : Threads) = first at run
  induction run with
  | none => exact .inl rfl
  | more run step ih =>
    right
    rcases ih start with rfl | ⟨times, told⟩
    -- Nothing but the announcement can come first.
    · rw [← start] at step
      exact ⟨[], told_announced step⟩
    · exact told.step step

theorem Told.goesOn {times : List Nat} (told : Told task threads times)
    (unfinished : threads.main ≠ .finished) : ∃ next, Step task threads next := by
  obtain ⟨main, ticker, clock, said⟩ := threads
  cases main with
  | starting => exact absurd rfl told.started
  | working todo =>
    cases todo with
    | nil => exact ⟨_, .done clock (Nat.le_refl _)⟩
    | cons event todo => exact ⟨_, .work event clock (Nat.le_refl _)⟩
  | returned => exact ⟨_, .close clock (Nat.le_refl _)⟩
  | joining =>
    cases ticker with
    | unborn => exact absurd rfl told.born
    | looking | waiting => exact ⟨_, .leave rfl rfl clock (Nat.le_refl _)⟩
    | due => exact ⟨_, .report clock (Nat.le_refl _)⟩
    | ended => exact ⟨_, .join clock (Nat.le_refl _)⟩
  | finished => exact absurd rfl unfinished

def Threads.left (threads : Threads) : Nat :=
  match threads.main, threads.ticker with
  | .joining, .waiting _ => 4
  | .joining, .due => 3
  | .joining, .looking => 2
  | .joining, .ended => 1
  | _, _ => 0

theorem left_le (threads : Threads) : threads.left ≤ 4 := by
  unfold Threads.left
  split <;> omega

structure Closed (threads : Threads) : Prop where
  closed : threads.main.isClosed = true
  ended : threads.main = .finished -> threads.ticker = .ended

theorem Closed.step (closed : Closed threads) (step : Step task threads next) :
    Closed next ∧ next.left < threads.left := by
  -- Once the installation has returned there are no more steps, so that it is still joining.
  have joining : threads.main = .joining := by
    have closes := closed.closed
    cases main : threads.main with
    | joining => rfl
    | finished => exact absurd step (still_of_finished main (closed.ended main))
    | starting | working | returned =>
      rw [main] at closes
      cases closes
  cases step with
  | announce | work | done | close => cases joining
  | join => exact ⟨⟨rfl, fun _ => rfl⟩, Nat.zero_lt_one⟩
  | look isOpen =>
    cases joining
    cases isOpen
  | timeOut | report =>
    cases joining
    exact ⟨⟨rfl, nofun⟩, Nat.lt_succ_self _⟩
  | @leave _ ticker _ _ listening =>
    cases joining
    refine ⟨⟨rfl, nofun⟩, ?_⟩
    cases ticker with
    | looking | waiting => simp [Threads.left]
    | unborn | due | ended => cases listening

theorem Closed.run {count : Nat} (closed : Closed threads) (run : Run task count threads next) :
    Closed next ∧ count + next.left ≤ threads.left := by
  induction run with
  | none => exact ⟨closed, by omega⟩
  | more run step ih =>
    obtain ⟨closed, spent⟩ := ih closed
    obtain ⟨closed, less⟩ := closed.step step
    exact ⟨closed, by omega⟩

end Order

section Schedule

variable {task : Task}

def Reaches (task : Task) (threads later : Threads) : Prop :=
  ∃ count, Run task count threads later

theorem Reaches.step {threads middle later : Threads} (reaches : Reaches task threads middle)
    (step : Step task middle later) : Reaches task threads later := by
  obtain ⟨count, run⟩ := reaches
  exact ⟨count + 1, run.more step⟩

theorem Reaches.trans {threads middle later : Threads} (first : Reaches task threads middle)
    (second : Reaches task middle later) : Reaches task threads later := by
  obtain ⟨count, run⟩ := second
  induction run with
  | none => exact first
  | more _ step ih => exact (ih first).step step

def atWork (todo : List Event) (since clock : Nat) (said : List Event) : Threads :=
  { main := .working todo, ticker := .waiting since, clock, said }

theorem reaches_report {todo said : List Event} {since clock : Nat} (now : Nat)
    (later : clock ≤ now) (waited : since + task.interval ≤ now) :
    Reaches task (atWork todo since clock said)
      (atWork todo now now (said ++ [.noted .warn (progressText now)])) := by
  have waits : Reaches task (atWork todo since clock said) _ := ⟨0, .none _⟩
  exact ((waits.step (.timeOut now later waited)).step (.report now (Nat.le_refl _))).step
    (.look rfl now (Nat.le_refl _))

theorem reaches_reports (todo said : List Event) {since clock first : Nat} (count : Nat)
    (paced : since ≤ first * task.interval) (early : clock ≤ (first + 1) * task.interval) :
    ∃ next later, next ≤ (first + count) * task.interval ∧
      later ≤ max clock ((first + count) * task.interval) ∧
      Reaches task (atWork todo since clock said)
        (atWork todo next later (said ++ (List.range count).map fun index =>
          .noted .warn (progressText ((first + index + 1) * task.interval)))) := by
  induction count with
  | zero => exact ⟨since, clock, by simpa using paced, Nat.le_max_left _ _, by simpa using ⟨0, .none _⟩⟩
  | succ count ih =>
    obtain ⟨next, later, paced, clocked, reaches⟩ := ih
    have after : (first + (count + 1)) * task.interval =
        (first + count) * task.interval + task.interval := Nat.succ_mul _ _
    have begun : (first + 1) * task.interval ≤ (first + (count + 1)) * task.interval :=
      Nat.mul_le_mul_right _ (by omega)
    have reports := reaches.trans (reaches_report ((first + (count + 1)) * task.interval)
      (by omega) (by omega))
    refine ⟨_, _, Nat.le_refl _, Nat.le_max_right _ _, ?_⟩
    rw [List.range_succ, List.map_append, ← List.append_assoc]
    exact reports

structure Paced (interval elapsed since clock : Nat) : Prop where
  clocked : clock ≤ elapsed
  begun : since ≤ elapsed
  whole : interval ≠ 0 -> since ≤ elapsed / interval * interval

theorem Paced.weaken {interval elapsed since clock : Nat} (paced : Paced interval elapsed since clock)
    (passed : Nat) : Paced interval (elapsed + passed) since clock where
  clocked := Nat.le_add_right_of_le paced.clocked
  begun := Nat.le_add_right_of_le paced.begun
  whole some := Nat.le_trans (paced.whole some)
    (Nat.mul_le_mul_right interval (Nat.div_le_div_right (Nat.le_add_right elapsed passed)))

theorem reaches_reportsDue {todo said : List Event} {since clock elapsed : Nat}
    (paced : Paced task.interval elapsed since clock) (passed : Nat) :
    ∃ next later, Paced task.interval (elapsed + passed) next later ∧
      Reaches task (atWork todo since clock said)
        (atWork todo next later (said ++ reportsDue task.interval elapsed passed)) := by
  unfold reportsDue
  split
  next zero =>
    have zero : task.interval = 0 := eq_of_beq zero
    split
    next =>
      exact ⟨since, clock, paced.weaken passed, by simpa using ⟨0, .none _⟩⟩
    next =>
      have waited : since + task.interval ≤ elapsed := by
        rw [zero]
        exact paced.begun
      exact ⟨elapsed, elapsed, ⟨Nat.le_add_right _ _, Nat.le_add_right _ _, absurd zero⟩,
        reaches_report elapsed paced.clocked waited⟩
  next some =>
    have some : task.interval ≠ 0 := by simpa using some
    let first := elapsed / task.interval
    let last := (elapsed + passed) / task.interval
    have grows : first ≤ last := Nat.div_le_div_right (Nat.le_add_right elapsed passed)
    have counted : first + (last - first) = last := by omega
    have reached : last * task.interval ≤ elapsed + passed := Nat.div_mul_le_self _ _
    have below : elapsed < first * task.interval + task.interval :=
      Nat.lt_div_mul_add (Nat.pos_of_ne_zero some)
    have early : clock ≤ (first + 1) * task.interval := by
      rw [Nat.succ_mul]
      exact Nat.le_trans paced.clocked (Nat.le_of_lt below)
    obtain ⟨next, later, begun, clocked, reaches⟩ := reaches_reports todo said
      (last - first) (paced.whole some) early
    rw [counted] at begun clocked
    have now := paced.clocked
    exact ⟨next, later, ⟨by omega, by omega, fun _ => begun⟩, reaches⟩

theorem foldl_shift {A : Type} {step : Nat -> A -> Nat}
    (adds : ∀ total item, step total item = total + step 0 item) (items : List A) (total : Nat) :
    items.foldl step total = total + items.foldl step 0 := by
  induction items generalizing total with
  | nil => rfl
  | cons item rest ih =>
    rw [List.foldl_cons, List.foldl_cons, ih, adds, ih (step 0 item), Nat.add_assoc]

theorem duration_cons (deed : Deed) (deeds : List Deed) :
    duration (deed :: deeds) = duration [deed] + duration deeds :=
  foldl_shift (fun total deed => by cases deed <;> simp) deeds _

theorem reaches_eventsOf (deeds : List Deed) (said : List Event) {since clock elapsed : Nat}
    (paced : Paced task.interval elapsed since clock) :
    ∃ next later, later ≤ elapsed + duration deeds ∧
      Reaches task (atWork (deeds.filterMap Deed.event?) since clock said)
        (atWork [] next later (said ++ eventsOf task.interval elapsed deeds)) := by
  induction deeds generalizing said since clock elapsed with
  | nil => exact ⟨since, clock, paced.clocked, by simpa [eventsOf] using ⟨0, .none _⟩⟩
  | cons deed rest ih =>
    rw [duration_cons]
    -- A command or a log record is the next thing to do; while time passes, reports fall due.
    have works (event : Event) : ∃ next later, later ≤ elapsed + duration rest ∧
        Reaches task (atWork (event :: rest.filterMap Deed.event?) since clock said)
          (atWork [] next later (said ++ event :: eventsOf task.interval elapsed rest)) := by
      have first : Reaches task (atWork (event :: rest.filterMap Deed.event?) since clock said) _ :=
        Reaches.step ⟨0, .none _⟩ (.work event clock (Nat.le_refl _))
      obtain ⟨next, later, clocked, reaches⟩ := ih (said ++ [event]) paced
      rw [List.append_assoc, List.singleton_append] at reaches
      exact ⟨next, later, clocked, first.trans reaches⟩
    cases deed with
    | ran line => simpa [duration, eventsOf, Deed.event?] using works (.ran line)
    | logged record => simpa [duration, eventsOf, Deed.event?] using works (.logged record)
    | passed milliseconds =>
      obtain ⟨middle, between, paced, reports⟩ := reaches_reportsDue paced milliseconds
      obtain ⟨next, later, clocked, reaches⟩ := ih _ paced
      rw [List.append_assoc] at reaches
      have passes : duration [.passed milliseconds] = milliseconds := Nat.zero_add _
      exact ⟨next, later, by omega, reports.trans reaches⟩

/-- The threads may take turns so that every report is made when it falls due. -/
theorem reaches_finished (task : Task) :
    Reaches task {} {
      main := .finished, ticker := .ended, clock := duration task.deeds
      said := announcement task.plan ++
        .planned task.plan :: eventsOf task.interval 0 task.deeds ++
        closing (duration task.deeds) task.result } := by
  have paced : Paced task.interval 0 0 0 := ⟨Nat.le_refl _, Nat.le_refl _, fun _ => Nat.zero_le _⟩
  have begins : Reaches task {} (atWork (task.deeds.filterMap Deed.event?) 0 0
      (announcement task.plan ++ [.planned task.plan])) :=
    ((Reaches.step ⟨0, .none _⟩ .announce).step (.look rfl 0 (Nat.le_refl _))).step
      (.work _ 0 (Nat.le_refl _))
  obtain ⟨next, later, clocked, works⟩ := reaches_eventsOf task.deeds _ paced
  have ends := ((((begins.trans works).step (.done later (Nat.le_refl _))).step
    (.close later (Nat.le_refl _))).step (.leave rfl rfl later (Nat.le_refl _))).step
    (.join (duration task.deeds) (by omega))
  simpa using ends

end Schedule

structure Ordered (task : Task) (threads : Threads) (times : List Nat) : Prop where
  starting : threads.main = .starting -> threads.said = []
  running : threads.main ≠ .starting -> threads.main ≠ .finished ->
    notesIn threads.said = startNote :: times.map progressNote
  finished : threads.main = .finished ->
    notesIn threads.said = startNote :: times.map progressNote ++ endNotes threads.clock task.result
  spaced : times.Pairwise fun time later => time + task.interval ≤ later
  past : ∀ time ∈ times, time ≤ threads.clock

structure Orderly (task : Task) : Prop where
  ordered (count : Nat) (threads : Threads) : Run task count {} threads ->
    ∃ times, Ordered task threads times
  ended (count : Nat) (threads : Threads) : Run task count {} threads ->
    threads.main = .finished -> threads.ticker = .ended ∧ ∀ next, ¬ Step task threads next
  goesOn (count : Nat) (threads : Threads) : Run task count {} threads ->
    threads.main ≠ .finished -> ∃ next, Step task threads next
  bounded (threads : Threads) : threads.main = .joining ->
    ∀ count later, Run task count threads later -> count ≤ 4

theorem threads_orderly (task : Task) : Orderly task where
  ordered count threads run := by
    rcases run.told with rfl | ⟨times, told⟩
    · exact ⟨[], fun _ => rfl, fun started => absurd rfl started, nofun, .nil, nofun⟩
    · exact ⟨times, fun starting => absurd starting told.started, fun _ => told.running,
        fun finished => (told.finished finished).2, told.spaced,
        fun time member => (told.past time member).past⟩
  ended count threads run finished := by
    rcases run.told with rfl | ⟨times, told⟩
    · cases finished
    · have ended := (told.finished finished).1
      exact ⟨ended, fun _ => still_of_finished finished ended⟩
  goesOn count threads run unfinished := by
    rcases run.told with rfl | ⟨times, told⟩
    · exact ⟨_, .announce⟩
    · exact told.goesOn unfinished
  bounded threads joining count later run := by
    have closed : Closed threads := by
      constructor
      case closed => rw [joining]; rfl
      case ended => rw [joining]; nofun
    have spent := (closed.run run).2
    have most := left_le threads
    omega

section Heard

variable {S : Type} (host : Host S) (context : Context) (python : PythonPaths)

def taskOf (attempt : Attempt S) : Task :=
  { interval := context.progressInterval
    plan := planOf context python
    deeds := attempt.deeds
    result := attempt.result }

/-- How an installation is heard of: not at all unless the gate is free and somebody has agreed, and
then by one of the ways in which its threads may take turns. -/
structure Heard (stage : Stage S) : Prop where
  unspoken : stage.gate.busy = true ∨ (host.confirm question stage.world).1 ≠ .ok true ->
    ∃ world events, ((install host context python).perform stage).2 = stage.extend world events ∧
      notesIn events = []
  spoken : stage.gate.busy = false -> (host.confirm question stage.world).1 = .ok true ->
    ∃ attempt threads,
      attempt = host.install (planOf context python) (host.confirm question stage.world).2.settled ∧
      Reaches (taskOf context python attempt) {} threads ∧ threads.main = .finished ∧
      (install host context python).perform stage = (verdict attempt.result,
        stage.extend attempt.world (inquiry host stage.world ++ .answered true :: threads.said))
  orderly (attempt : Attempt S) : Orderly (taskOf context python attempt)

theorem install_heard (stage : Stage S) : Heard host context python stage := by
  have inquired : notesIn (inquiry host stage.world) = [] := by
    simp [inquiry, notesIn, Event.note?]
  constructor
  case unspoken =>
    intro refused
    cases taken : stage.gate.busy with
    | true =>
      rw [install_busy host context python stage taken]
      exact ⟨stage.world, [], by simp, rfl⟩
    | false =>
      obtain ⟨world, events, episode, done⟩ := install_free host context python stage taken
      refine ⟨world, events, done, ?_⟩
      generalize ((install host context python).perform stage).1 = result at episode
      cases episode with
      | unanswered => exact inquired
      | declined => rw [notesIn_append, inquired]; rfl
      | attempted asked => exact absurd asked (refused.resolve_left (by simp [taken]))
  case spoken =>
    intro free asked
    obtain ⟨world, events, episode, done⟩ := install_free host context python stage free
    generalize ended : ((install host context python).perform stage).1 = result at episode
    cases episode with
    | unanswered error failed => cases failed.symm.trans asked
    | declined declined => cases declined.symm.trans asked
    | attempted _ attempt called =>
      refine ⟨attempt, _, called, reaches_finished (taskOf context python attempt), rfl,
        Prod.ext ended (done.trans ?_)⟩
      simp [taskOf]
  case orderly => exact fun attempt => threads_orderly _

end Heard

end Installation

end AnsibleTooling
