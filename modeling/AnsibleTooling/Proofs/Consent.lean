import AnsibleTooling.Proofs.Conduct
import AnsibleTooling.Proofs.Course
import AnsibleTooling.Proofs.GateTraffic

set_option autoImplicit false

namespace AnsibleTooling

open Act

/-- Something outside is asked or made to act. Log records, notifications and changes of the state
of a session are no calls. -/
def Event.isCall : Event -> Bool
  | .logged _ | .noted .. | .became _ => false
  | _ => true

def Event.isConsent : Event -> Bool
  | .prompted _ | .answered _ | .planned _ => true
  | _ => false

def Event.isPrompt : Event -> Bool
  | .prompted _ => true
  | _ => false

def Event.isYes : Event -> Bool
  | .answered consent => consent
  | _ => false

def Event.isPlan : Event -> Bool
  | .planned _ => true
  | _ => false

namespace Consent

variable {S : Type}

def calls (events : List Event) : List Event :=
  events.filter Event.isCall

/-- Calls in which every prompt fails, is answered no, or is answered yes and acted upon. -/
inductive Orderly : List Event -> Prop
  | nil : Orderly []
  | plain {rest} (event : Event) (plain : event.isConsent = false) :
    Orderly rest -> Orderly (event :: rest)
  | unanswered {rest} : Orderly rest -> Orderly (.prompted Installation.question :: rest)
  | declined {rest} :
    Orderly rest -> Orderly (.prompted Installation.question :: .answered false :: rest)
  | consented {rest} (plan : InstallPlan) :
    Orderly rest ->
      Orderly (.prompted Installation.question :: .answered true :: .planned plan :: rest)

namespace Orderly

theorem append {first second : List Event} (before : Orderly first) (after : Orderly second) :
    Orderly (first ++ second) := by
  induction before with
  | nil => exact after
  | plain event plain _ ih => exact .plain event plain ih
  | unanswered _ ih => exact .unanswered ih
  | declined _ ih => exact .declined ih
  | consented plan _ ih => exact .consented plan ih

theorem of_plain {events : List Event} (plain : ∀ event ∈ events, event.isConsent = false) :
    Orderly (calls events) := by
  induction events with
  | nil => exact .nil
  | cons event rest ih =>
    have later := ih fun event member => plain event (List.mem_cons_of_mem _ member)
    unfold calls
    cases call : event.isCall with
    | true =>
      rw [List.filter_cons_of_pos call]
      exact .plain event (plain event List.mem_cons_self) later
    | false =>
      rw [List.filter_cons_of_neg (by simp [call])]
      exact later

theorem behind {event other : Event} {rest before after : List Event} (differs : event ≠ other)
    (stands : event :: rest = before ++ other :: after) :
    ∃ earlier, before = event :: earlier ∧ rest = earlier ++ other :: after := by
  rcases before with _ | ⟨first, earlier⟩
  · cases stands
    exact absurd rfl differs
  · cases stands
    exact ⟨earlier, rfl, rfl⟩

theorem asked {events before after : List Event} {plan : InstallPlan} (orderly : Orderly events)
    (stands : events = before ++ .planned plan :: after) :
    ∃ earlier, before = earlier ++ [.prompted Installation.question, .answered true] := by
  induction orderly generalizing before with
  | nil => simp at stands
  | plain event plain _ ih =>
    have differs : event ≠ .planned plan := by rintro rfl; cases plain
    obtain ⟨first, rfl, inside⟩ := behind differs stands
    obtain ⟨earlier, rfl⟩ := ih inside
    exact ⟨event :: earlier, rfl⟩
  | unanswered _ ih =>
    obtain ⟨first, rfl, inside⟩ := behind (by simp) stands
    obtain ⟨earlier, rfl⟩ := ih inside
    exact ⟨_ :: earlier, rfl⟩
  | declined _ ih =>
    obtain ⟨first, rfl, inside⟩ := behind (by simp) stands
    obtain ⟨second, rfl, deeper⟩ := behind (by simp) inside
    obtain ⟨earlier, rfl⟩ := ih deeper
    exact ⟨_ :: _ :: earlier, rfl⟩
  | consented acted _ ih =>
    obtain ⟨first, rfl, inside⟩ := behind (by simp) stands
    obtain ⟨second, rfl, deeper⟩ := behind (by simp) inside
    -- It is either this very plan, with prompt and answer right before it, or a later one.
    rcases second with _ | ⟨third, second⟩
    · exact ⟨[], rfl⟩
    · cases deeper
      obtain ⟨earlier, rfl⟩ := ih rfl
      exact ⟨_ :: _ :: _ :: earlier, rfl⟩

theorem used {events before after : List Event} (orderly : Orderly events)
    (stands : events = before ++ .answered true :: after) :
    ∃ plan later, after = .planned plan :: later := by
  induction orderly generalizing before with
  | nil => simp at stands
  | plain event plain _ ih =>
    have differs : event ≠ .answered true := by rintro rfl; cases plain
    obtain ⟨_, _, inside⟩ := behind differs stands
    exact ih inside
  | unanswered _ ih =>
    obtain ⟨_, _, inside⟩ := behind (by simp) stands
    exact ih inside
  | declined _ ih =>
    obtain ⟨_, _, inside⟩ := behind (by simp) stands
    obtain ⟨_, _, deeper⟩ := behind (by simp) inside
    exact ih deeper
  | consented acted _ ih =>
    obtain ⟨first, rfl, inside⟩ := behind (by simp) stands
    -- It is either this very answer, with its plan right behind it, or a later one.
    rcases first with _ | ⟨second, first⟩
    · cases inside
      exact ⟨acted, _, rfl⟩
    · obtain ⟨rfl, deeper⟩ := List.cons.inj inside
      obtain ⟨_, _, last⟩ := behind (by simp) deeper
      exact ih last

theorem counted {events : List Event} (orderly : Orderly events) :
    events.countP Event.isPlan = events.countP Event.isYes := by
  induction orderly with
  | nil => rfl
  | plain event plain _ ih => cases event <;> simp_all [Event.isConsent, Event.isPlan, Event.isYes]
  | unanswered _ ih => simp [Event.isPlan, Event.isYes, ih]
  | declined _ ih => simp [Event.isPlan, Event.isYes, ih]
  | consented plan _ ih => simp [List.countP_cons, Event.isPlan, Event.isYes, ih]

end Orderly

@[simp] theorem calls_append (events more : List Event) :
    calls (events ++ more) = calls events ++ calls more :=
  List.filter_append ..

theorem calls_cons (event : Event) (events : List Event) :
    calls (event :: events) = if event.isCall then event :: calls events else calls events := by
  simp [calls, List.filter_cons]

def Plain (events : List Event) : Prop :=
  ∀ event ∈ events, event.isConsent = false

theorem plain_append {events more : List Event} (first : Plain events) (second : Plain more) :
    Plain (events ++ more) := by
  intro event member
  rcases List.mem_append.mp member with member | member
  · exact first event member
  · exact second event member

theorem plain_of_minor {events : List Event} (minor : ∀ event ∈ events, event.isMinor = true) :
    Plain events := by
  intro event member
  have only := minor event member
  cases event <;> simp_all [Event.isMinor, Event.isConsent]

@[simp] theorem calls_records (records : List LogRecord) : calls (records.map .logged) = [] := by
  induction records with
  | nil => rfl
  | cons record _ ih => exact ih

@[simp] theorem calls_announcement (plan : InstallPlan) :
    calls (Installation.announcement plan) = [] := rfl

theorem calls_of_episode {host : Host S} {context : Context} {python : PythonPaths}
    {world later : World S} {result : Except Error Unit} {events : List Event}
    (episode : Installation.Episode host context python world result later events) :
    calls events = [.prompted Installation.question] ∨
      calls events = [.prompted Installation.question, .answered false] ∨
      ∃ plan rest, Plain rest ∧ calls events =
        .prompted Installation.question :: .answered true :: .planned plan :: calls rest := by
  have inquiry : calls (Installation.inquiry host world) = [.prompted Installation.question] := by
    rw [Installation.inquiry, calls_cons, calls_records]
    rfl
  cases episode with
  | unanswered error asked => exact .inl inquiry
  | declined asked =>
    refine .inr (.inl ?_)
    rw [calls_append, inquiry]
    rfl
  | attempted asked attempt called =>
    refine .inr (.inr ⟨Installation.planOf context python, _,
      plain_of_minor (List.forall_mem_append.mpr
        ⟨Installation.eventsOf_minor context.progressInterval 0 attempt.deeds,
          Installation.closing_minor (Installation.duration attempt.deeds) attempt.result⟩), ?_⟩)
    simp [calls_cons, Event.isCall, inquiry]

theorem orderly_of_episode {host : Host S} {context : Context} {python : PythonPaths}
    {world later : World S} {result : Except Error Unit} {events : List Event}
    (episode : Installation.Episode host context python world result later events) :
    Orderly (calls events) := by
  rcases calls_of_episode episode with called | called | ⟨plan, rest, plain, called⟩ <;> rw [called]
  · exact .unanswered .nil
  · exact .declined .nil
  · exact .consented plan (.of_plain plain)

structure Heeds (before after : Stage S) : Prop where
  gate : after.gate = before.gate
  journal : ∃ events, after.journal = before.journal ++ events ∧ Orderly (calls events) ∧
    (before.gate.busy = true -> Plain events)

namespace Heeds

theorem of_plain {before after : Stage S} {events : List Event} (gate : after.gate = before.gate)
    (journal : after.journal = before.journal ++ events) (plain : Plain events) :
    Heeds before after :=
  ⟨gate, events, journal, .of_plain plain, fun _ => plain⟩

theorem of_runsTo {before after : Stage S} {lines : List String}
    (runs : before.RunsTo lines after) : Heeds before after := by
  obtain ⟨events, ran, reached⟩ := runs
  exact of_plain (by rw [reached]; rfl) (by rw [reached]; rfl) (plain_of_minor ran.minor)

theorem trans {before middle after : Stage S} (first : Heeds before middle)
    (second : Heeds middle after) : Heeds before after := by
  obtain ⟨events, journal, orderly, busy⟩ := first.journal
  obtain ⟨more, journalMore, orderlyMore, busyMore⟩ := second.journal
  -- The gate has not changed in the first part, so it was taken in the second if in the first.
  refine ⟨second.gate.trans first.gate, events ++ more, ?_, ?_, ?_⟩
  · rw [journalMore, journal, List.append_assoc]
  · rw [calls_append]
    exact orderly.append orderlyMore
  · intro taken
    exact plain_append (busy taken) (busyMore (by rw [first.gate, taken]))

instance : IsPreorder (Stage S) Heeds where
  refl stage := of_plain rfl (List.append_nil _).symm (by simp [Plain])
  trans _ _ _ := trans

theorem of_quiet {A : Type} {act : Act S A} {lines : World S -> List String}
    {result : World S -> Except Error A} {later : World S -> World S}
    (quiet : ∀ world, act.Quiet world (lines world) (result world) (later world)) :
    Moves Heeds act := by
  intro stage
  obtain ⟨after, runs, _, done⟩ := (quiet stage.world).reaches
  rw [done]
  exact of_runsTo runs

theorem record_moves (event : Event) (plain : event.isConsent = false) :
    Moves Heeds (record event : Act S Unit) :=
  fun _ => of_plain rfl rfl (by simpa [Plain] using plain)

theorem recorded_moves {A : Type} (event : Bool -> Event)
    (plain : ∀ success, (event success).isConsent = false)
    (step : World S -> Except Error A × World S) : Moves Heeds (recorded event step) := by
  intro stage
  rw [perform_recorded]
  refine of_plain rfl rfl (plain_append (plain_of_minor (minor_records _)) ?_)
  simpa [Plain] using plain _

theorem install_moves (host : Host S) (context : Context) (python : PythonPaths) :
    Moves Heeds (Installation.install host context python) := by
  refine Installation.install_moves host context python refl ?_
  intro stage result world events free episode
  exact ⟨rfl, events, rfl, orderly_of_episode episode, by simp [free]⟩

theorem startClient_moves (host : Host S) (settings : Settings) :
    Moves Heeds (Session.startClient host settings) :=
  Session.startClient_moves (fun _ => record_moves _ rfl) (recorded_moves _ (fun _ => rfl) _)
    (fun _ => recorded_moves _ (fun _ => rfl) _) settings

theorem showPlugin_moves (host : Host S) (view : DocView) (pluginType plugin : String) :
    Moves Heeds (Session.showPlugin host view pluginType plugin) := by
  refine (moves_ofExcept _).bind fun _ => ?_
  refine (Session.docTool_moves view).bind fun tool => ?_
  refine moves_world.bind fun world => ?_
  split
  · exact (recorded_moves _ (fun _ => rfl) _).bind fun _ => recorded_moves _ (fun _ => rfl) _
  · exact recorded_moves _ (fun _ => rfl) _

theorem conduct (host : Host S) : Conduct Heeds host where
  logged _ := record_moves _ rfl
  noted _ _ := record_moves _ rfl
  runs program arguments := of_quiet fun world => Probe.run_quiet host world program arguments
  stores context := of_quiet (Activation.makeStorage_quiet context)
  installs := install_moves host
  becomes state := fun _ => of_plain rfl rfl (by simp [Plain, Event.isConsent])
  stops := recorded_moves _ (fun _ => rfl) _
  starts := startClient_moves host
  sends _ _ := recorded_moves _ (fun _ => rfl) _
  awaits method milliseconds := of_quiet fun _ => quiet_ofWorld _
  disposes := recorded_moves _ (fun _ => rfl) _
  shows := showPlugin_moves host

end Heeds

theorem countP_calls (holds : Event -> Bool) (called : ∀ event, holds event = true -> event.isCall = true)
    (events : List Event) : (calls events).countP holds = events.countP holds := by
  rw [calls, List.countP_filter]
  congr 1
  funext event
  cases held : holds event with
  | false => rfl
  | true => simp [called event held]

theorem countP_isPrompt_calls (events : List Event) :
    (calls events).countP Event.isPrompt = events.countP Event.isPrompt :=
  countP_calls _ (by rintro ⟨⟩ <;> simp [Event.isPrompt, Event.isCall]) events

theorem countP_isPlan_calls (events : List Event) :
    (calls events).countP Event.isPlan = events.countP Event.isPlan :=
  countP_calls _ (by rintro ⟨⟩ <;> simp [Event.isPlan, Event.isCall]) events

theorem countP_isYes_calls (events : List Event) :
    (calls events).countP Event.isYes = events.countP Event.isYes :=
  countP_calls _ (by rintro ⟨⟩ <;> simp [Event.isYes, Event.isCall]) events

theorem countP_of_plain (holds : Event -> Bool)
    (concerned : ∀ event, holds event = true -> event.isConsent = true) {events : List Event}
    (plain : Plain events) : events.countP holds = 0 := by
  rw [List.countP_eq_zero]
  intro event member held
  have both := concerned event held
  rw [plain event member] at both
  cases both

/-- The installer is called directly upon a prompt that was answered yes, and once for each such
answer. -/
structure Consented (events : List Event) : Prop where
  asked (plan : InstallPlan) (before after : List Event) :
    calls events = before ++ .planned plan :: after ->
    ∃ earlier, before = earlier ++ [.prompted Installation.question, .answered true]
  used (before after : List Event) : calls events = before ++ .answered true :: after ->
    ∃ plan later, after = .planned plan :: later
  counted : events.countP Event.isPlan = events.countP Event.isYes

theorem consented_of_orderly {events : List Event} (orderly : Orderly (calls events)) :
    Consented events where
  asked _ _ _ := orderly.asked
  used _ _ := orderly.used
  counted := by
    rw [← countP_isPlan_calls, ← countP_isYes_calls]
    exact orderly.counted

inductive Errand
  | activation
  | activate
  | install (python : PythonPaths)
  | installTools

def Errand.act (host : Host S) (context : Context) : Errand -> Act S Unit
  | .activation => do let _ <- Activation.activate host context
  | .activate => do let _ <- Session.activate host context
  | .install python => Installation.install host context python
  | .installTools => Session.installTools host context

def runAll (host : Host S) (context : Context) (errands : List Errand) (stage : Stage S) :
    Stage S :=
  errands.foldl (fun stage errand => ((errand.act host context).perform stage).2) stage

def Sparing (before after : Stage S) : Prop :=
  ∃ events, after.journal = before.journal ++ events ∧ events.countP Event.isPrompt ≤ 1 ∧
    events.countP Event.isPlan ≤ 1

theorem countP_isPrompt_of_plain {events : List Event} (plain : Plain events) :
    events.countP Event.isPrompt = 0 :=
  countP_of_plain _ (by rintro ⟨⟩ <;> simp [Event.isPrompt, Event.isConsent]) plain

theorem countP_isPlan_of_plain {events : List Event} (plain : Plain events) :
    events.countP Event.isPlan = 0 :=
  countP_of_plain _ (by rintro ⟨⟩ <;> simp [Event.isPlan, Event.isConsent]) plain

theorem Sparing.of_runsTo {before after : Stage S} {lines : List String}
    (runs : before.RunsTo lines after) : Sparing before after := by
  obtain ⟨events, ran, reached⟩ := runs
  have plain := plain_of_minor ran.minor
  refine ⟨events, by rw [reached]; rfl, ?_, ?_⟩
  · simp [countP_isPrompt_of_plain plain]
  · simp [countP_isPlan_of_plain plain]

theorem Sparing.between {before asked done after : Stage S} {lines more : List String}
    (asks : before.RunsTo lines asked) (sparing : Sparing asked done)
    (ends : done.RunsTo more after) : Sparing before after := by
  obtain ⟨early, ranEarly, askedEq⟩ := asks
  obtain ⟨events, journal, prompts, plans⟩ := sparing
  obtain ⟨late, ranLate, afterEq⟩ := ends
  have plainEarly := plain_of_minor ranEarly.minor
  have plainLate := plain_of_minor ranLate.minor
  refine ⟨early ++ (events ++ late), ?_, ?_, ?_⟩
  · rw [afterEq, Stage.extend_journal, journal, askedEq, Stage.extend_journal]
    simp only [List.append_assoc]
  · simpa [countP_isPrompt_of_plain plainEarly, countP_isPrompt_of_plain plainLate] using prompts
  · simpa [countP_isPlan_of_plain plainEarly, countP_isPlan_of_plain plainLate] using plans

theorem episode_counts {host : Host S} {context : Context} {python : PythonPaths}
    {world later : World S} {result : Except Error Unit} {events : List Event}
    (episode : Installation.Episode host context python world result later events) :
    events.countP Event.isPrompt = 1 ∧ events.countP Event.isPlan ≤ 1 := by
  rw [← countP_isPrompt_calls, ← countP_isPlan_calls]
  rcases calls_of_episode episode with called | called | ⟨plan, rest, plain, called⟩ <;> rw [called]
  · decide
  · decide
  · simp [List.countP_cons, countP_isPrompt_calls, countP_isPlan_calls,
      countP_isPrompt_of_plain plain, countP_isPlan_of_plain plain, Event.isPrompt, Event.isPlan]

end Consent

end AnsibleTooling
