import AnsibleTooling.Proofs.Consent
import AnsibleTooling.Proofs.OnDemand
import AnsibleTooling.Proofs.ReportConsistency

set_option autoImplicit false

namespace AnsibleTooling.OnDemand

open Act Consent

variable {S : Type}

def promptsOf (stage : Stage S) : Nat :=
  stage.journal.countP Event.isPrompt

def plansOf (stage : Stage S) : Nat :=
  stage.journal.countP Event.isPlan

structure Asks (before after : Stage S) : Prop where
  prompts : promptsOf after = promptsOf before + 1
  least : plansOf before ≤ plansOf after
  most : plansOf after ≤ plansOf before + 1

structure Silent (before after : Stage S) : Prop where
  prompts : promptsOf after = promptsOf before
  plans : plansOf after = plansOf before

theorem Silent.trans {before middle after : Stage S} (first : Silent before middle)
    (second : Silent middle after) : Silent before after :=
  ⟨second.prompts.trans first.prompts, second.plans.trans first.plans⟩

theorem Asks.between {before asked done after : Stage S} (early : Silent before asked)
    (asks : Asks asked done) (late : Silent done after) : Asks before after where
  prompts := by rw [late.prompts, asks.prompts, early.prompts]
  least := by rw [late.plans, ← early.plans]; exact asks.least
  most := by rw [late.plans, ← early.plans]; exact asks.most

theorem silent_of_spares {before after : Stage S} (spares : Spares Event.isConsent before after) :
    Silent before after := by
  obtain ⟨events, journal, plain⟩ := spares
  constructor
  · rw [promptsOf, journal, List.countP_append, countP_isPrompt_of_plain plain]
    rfl
  · rw [plansOf, journal, List.countP_append, countP_isPlan_of_plain plain]
    rfl

theorem silent_of_runsTo {before after : Stage S} {lines : List String}
    (runs : before.RunsTo lines after) : Silent before after :=
  silent_of_spares (.of_runsTo runs fun event minor => by
    cases event <;> simp_all [Event.isMinor, Event.isConsent])

variable (host : Host S) (context : Context)

theorem install_asks (python : PythonPaths) (stage : Stage S) (free : stage.gate.busy = false) :
    Asks stage ((Installation.install host context python).perform stage).2 := by
  obtain ⟨world, events, episode, done⟩ :=
    Installation.install_free host context python stage free
  have counts := episode_counts episode
  rw [done]
  constructor <;> simp [promptsOf, plansOf, counts.1, counts.2]

theorem install_plans (python : PythonPaths) {stage after : Stage S}
    (installed : (Installation.install host context python).perform stage = (.ok (), after)) :
    plansOf stage < plansOf after := by
  cases taken : stage.gate.busy with
  | true =>
    rw [Installation.install_busy host context python stage taken] at installed
    cases installed
  | false =>
    obtain ⟨world, events, episode, done⟩ :=
      Installation.install_free host context python stage taken
    rw [installed] at episode done
    obtain rfl : after = stage.extend world events := done
    have planned : 0 < events.countP Event.isPlan := by
      refine List.countP_pos_iff.mpr ⟨.planned (Installation.planOf context python), ?_, rfl⟩
      exact episode.planned host context python
    simpa [plansOf] using planned

theorem activate_asks (stage : Stage S) (free : stage.gate.busy = false) :
    (∃ python, Activation.Wants host context stage.world python) ∧
        Asks stage ((Session.activate host context).perform stage).2 ∨
      (¬ ∃ python, Activation.Wants host context stage.world python) ∧
        Silent stage ((Session.activate host context).perform stage).2 := by
  rcases activated : (Activation.activate host context).perform stage with ⟨outcome, reached⟩
  have performed := Session.activate_perform host context stage reached outcome activated
  -- What a session makes of the outcome has nothing to do with consent.
  have settles : Silent reached ((Session.activate host context).perform stage).2 := by
    rw [performed]
    refine silent_of_spares ⟨Session.remarksOf outcome ++ [.became (Session.stateOf outcome)],
      by simp, ?_⟩
    rcases outcome with error | activation
    · cases degraded : error.isDegraded <;>
        simp [Session.remarksOf, degraded, Event.isConsent]
    · simp [Session.remarksOf, Event.isConsent]
  rcases Activation.activate_either host context stage with
    ⟨⟨lines, ran⟩, content⟩ | ⟨python, wants, asked, lines, more, asks, ran⟩
  · rw [activated] at ran
    exact .inr ⟨not_exists.mpr content, (silent_of_runsTo ran).trans settles⟩
  · rw [activated] at ran
    have same : asked.gate = stage.gate := by
      obtain ⟨events, _, reached⟩ := asks
      rw [reached]
      rfl
    exact .inl ⟨⟨python, wants⟩, .between (silent_of_runsTo asks)
      (install_asks host context python asked (same ▸ free)) ((silent_of_runsTo ran).trans settles)⟩

def firstAttempt (python : PythonPaths) (before : Stage S) : Except Error Unit × Stage S :=
  (Installation.install host context python).perform { before with
    world :=
      if host.client.isRunning before.world then (host.client.stop before.world).2.settled
      else before.world }

/-- The installation succeeds, and leaves a world in which nothing serves still. -/
def Disappoints (before : Stage S) : Prop :=
  ∃ python wanted, interpreterFor host context before = some python ∧
    (host.client.isRunning before.world = true -> (host.client.stop before.world).1 = .ok ()) ∧
    (firstAttempt host context python before).1 = .ok () ∧
    Activation.Wants host context (firstAttempt host context python before).2.world wanted

theorem resume_silent (wasRunning : Bool) (installed : Except Error Unit) (stage : Stage S) :
    Silent stage ((resume host context wasRunning installed).perform stage).2 := by
  have starts (settings : Settings) :
      Moves (Spares Event.isConsent) (Session.startClient host settings) :=
    Session.startClient_moves (fun _ => Spares.record_moves _ rfl)
      (Spares.recorded_moves (fun _ => rfl) _ (fun _ => rfl) _)
      (fun _ => Spares.recorded_moves (fun _ => rfl) _ (fun _ => rfl) _) settings
  exact silent_of_spares (resume_moves starts context wasRunning installed stage)

theorem paused_silent {before paused : Stage S} (pauses : Paused host before paused) :
    Silent before paused := by
  obtain ⟨records, journal⟩ := pauses.journal
  refine silent_of_spares ⟨_, by rw [journal, List.append_assoc], ?_⟩
  refine List.forall_mem_append.mpr ⟨by simp [Event.isConsent], ?_⟩
  split <;> simp [Event.isConsent]

theorem firstAttempt_paused (python : PythonPaths) {before paused : Stage S}
    (pauses : Paused host before paused) :
    (firstAttempt host context python before).1 =
        ((Installation.install host context python).perform paused).1 ∧
      (firstAttempt host context python before).2.world =
        ((Installation.install host context python).perform paused).2.world := by
  have same := Blind.install host context python paused
    { before with
      world :=
        if host.client.isRunning before.world then (host.client.stop before.world).2.settled
        else before.world } pauses.world.symm pauses.gate.symm
  exact ⟨same.1, same.2.1⟩

structure Counted (disappoints : Prop) (before after : Stage S) : Prop where
  once : ¬ disappoints -> promptsOf after ≤ promptsOf before + 1 ∧
    plansOf after ≤ plansOf before + 1
  twice : disappoints -> promptsOf after = promptsOf before + 2 ∧
    plansOf before + 1 ≤ plansOf after ∧ plansOf after ≤ plansOf before + 2

theorem Counted.of_silent {disappoints : Prop} {before paused after : Stage S}
    (silent : Silent before paused) (counted : Counted disappoints paused after) :
    Counted disappoints before after := by
  constructor
  · intro content
    simpa only [silent.prompts, silent.plans] using counted.once content
  · intro disappoints
    simpa only [silent.prompts, silent.plans] using counted.twice disappoints

theorem renew_asks (wasRunning : Bool) (left : Stage S) (free : left.gate.busy = false) :
    (∃ wanted, Activation.Wants host context left.world wanted) ∧
        Asks left (renew host context wasRunning left).2 ∨
      (¬ ∃ wanted, Activation.Wants host context left.world wanted) ∧
        Silent left (renew host context wasRunning left).2 := by
  have renews : Silent left (renewing left) := silent_of_spares (Spares.record_moves _ rfl left)
  have ends : Silent ((Session.activate host context).perform (renewing left)).2
      (renew host context wasRunning left).2 := by
    unfold renew
    split
    next activated performed =>
      rw [performed]
      exact resume_silent host context wasRunning (.ok ()) activated
    next activated performed =>
      rw [performed]
      exact ⟨rfl, rfl⟩
  rcases activate_asks host context (renewing left) free with ⟨wants, asks⟩ | ⟨content, silent⟩
  · exact .inl ⟨wants, .between renews asks ends⟩
  · exact .inr ⟨content, (renews.trans silent).trans ends⟩

theorem reinstall_counted (python : PythonPaths) (wasRunning : Bool) (paused : Stage S) :
    Counted
      (((Installation.install host context python).perform paused).1 = .ok () ∧
        ∃ wanted, Activation.Wants host context
          ((Installation.install host context python).perform paused).2.world wanted)
      paused ((reinstall host context python wasRunning).perform paused).2 := by
  rw [reinstall_perform]
  cases taken : paused.gate.busy with
  | true =>
    rw [Installation.install_busy host context python paused taken]
    have resumes := resume_silent host context wasRunning (.error .installInProgress) paused
    refine ⟨fun _ => ?_, fun disappoints => by cases disappoints.1⟩
    dsimp only
    rw [resumes.prompts, resumes.plans]
    omega
  | false =>
    have asks := install_asks host context python paused taken
    have gate := Installation.install_gate host context python paused
    rcases installs : (Installation.install host context python).perform paused with
      ⟨error | _, left⟩ <;> rw [installs] at asks gate
    · -- Without success nothing follows that asks.
      have resumes := resume_silent host context wasRunning (.error error) left
      refine ⟨fun _ => ?_, fun disappoints => by cases disappoints.1⟩
      dsimp only
      rw [resumes.prompts, resumes.plans]
      exact ⟨Nat.le_of_eq asks.prompts, asks.most⟩
    · have planned := install_plans host context python installs
      have prompts : promptsOf left = promptsOf paused + 1 := asks.prompts
      have most : plansOf left ≤ plansOf paused + 1 := asks.most
      rcases renew_asks host context wasRunning left (gate ▸ taken) with
        ⟨wants, more⟩ | ⟨content, silent⟩
      · refine ⟨fun content => absurd ⟨rfl, wants⟩ content, fun _ => ?_⟩
        dsimp only
        rw [more.prompts]
        have least := more.least
        have most := more.most
        omega
      · refine ⟨fun _ => ?_, fun disappoints => absurd disappoints.2 content⟩
        dsimp only
        rw [silent.prompts, silent.plans]
        omega

theorem unstopped_counted {disappoints : Prop} (content : ¬ disappoints) {before after : Stage S}
    (silent : Silent before after) : Counted disappoints before after := by
  refine ⟨fun _ => ?_, fun disappoints => absurd disappoints content⟩
  rw [silent.prompts, silent.plans]
  omega

theorem installTools_counted (before : Stage S) :
    Counted (Disappoints host context before) before
      ((Session.installTools host context).perform before).2 := by
  cases known : interpreterFor host context before with
  | none =>
    obtain ⟨after, searches, _, performed⟩ := installTools_lost host context before known
    rw [performed]
    refine unstopped_counted ?_ (silent_of_runsTo searches)
    rintro ⟨python, wanted, other, _⟩
    rw [known] at other
    cases other
  | some python =>
    obtain ⟨paused, pauses, performed⟩ := installTools_pauses host context before python known
    have silent := paused_silent host pauses
    have same := firstAttempt_paused host context python pauses
    have counted := reinstall_counted host context python (host.client.isRunning before.world)
      paused
    rw [performed]
    split
    next error stuck =>
      refine unstopped_counted ?_ silent
      rintro ⟨_, wanted, _, stops, _⟩
      split at stuck
      next running => simp [stops running] at stuck
      next => cases stuck
    next stopped =>
      have stops : host.client.isRunning before.world = true ->
          (host.client.stop before.world).1 = .ok () := by
        intro running
        simpa [running] using stopped
      have told : Disappoints host context before ↔
          ((Installation.install host context python).perform paused).1 = .ok () ∧
            ∃ wanted, Activation.Wants host context
              ((Installation.install host context python).perform paused).2.world wanted := by
        rw [← same.1, ← same.2]
        constructor
        · rintro ⟨other, wanted, found, _, installed, wants⟩
          rw [known] at found
          cases found
          exact ⟨installed, wanted, wants⟩
        · rintro ⟨installed, wanted, wants⟩
          exact ⟨python, wanted, known, stops, installed, wants⟩
      rw [told]
      exact .of_silent silent counted

/-- How often an installation on demand asks and installs; it is never done again unasked. -/
structure Asking (before after : Stage S) : Prop
    extends Counted (Disappoints host context before) before after where
  consented : ∃ events, after.journal = before.journal ++ events ∧ Consented events

theorem installTools_asks (before : Stage S) :
    Asking host context before ((Session.installTools host context).perform before).2 where
  toCounted := installTools_counted host context before
  consented := by
    obtain ⟨events, journal, orderly, _⟩ :=
      ((Heeds.conduct host).installTools_moves context before).journal
    exact ⟨events, journal, consented_of_orderly orderly⟩

def vainMachine : Host Rehearsal.Props :=
  Rehearsal.host { Activation.bareMachine with installing := .pretended 0 none [] } .posix

/-- One run of the command asks twice and installs twice. -/
theorem installTools_asks_again :
    promptsOf Activation.bareStage = 0 ∧ plansOf Activation.bareStage = 0 ∧
      promptsOf ((Session.installTools vainMachine Activation.bareContext).perform
        Activation.bareStage).2 = 2 ∧
      plansOf ((Session.installTools vainMachine Activation.bareContext).perform
        Activation.bareStage).2 = 2 := by
  decide +kernel

end AnsibleTooling.OnDemand
