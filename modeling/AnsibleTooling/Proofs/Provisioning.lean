import AnsibleTooling.Installation
import AnsibleTooling.Proofs.Probing

set_option autoImplicit false

namespace AnsibleTooling.Installation

variable {S : Type}

def announcement (plan : InstallPlan) : List Event := [
  .logged (.make .activation .info "installing requirements tools" [
    ("interpreter", plan.interpreter.display), ("venv", plan.directory.display),
    ("packages", Text.quoteList plan.packages)]),
  .noted .info "Install Ansible Server requirements tools..."]

def closing (elapsed : Nat) : Except Error Unit -> List Event
  | .ok _ => [
    .logged (.make .activation .info "requirements tools installed"
      [("elapsed_secs", secondsText elapsed)]),
    .noted .info (completionText elapsed)]
  | .error (.processSpawn command details) => [
    .logged (.make .activation .warn "requirements tools install failed" [
      ("command", command), ("details", details)])]
  | .error error => [
    .logged (.make .activation .warn "requirements tools install failed"
      [("error", error.message)])]

def verdict : Except Error Unit -> Except Error Unit
  | .ok _ => .ok ()
  | .error (.processSpawn command details) => .error (.installFailed command details)
  | .error error => .error error

variable (host : Host S) (context : Context) (python : PythonPaths)

def planOf : InstallPlan :=
  .make python.real context.storage context.platform context.settings.builtin

def inquiry (world : World S) : List Event :=
  .prompted question :: (host.confirm question world).2.records.map .logged

def attemptAt (world : World S) : Attempt S :=
  host.install (planOf context python) world

/-- The ways in which an installation that has been admitted goes from a world to a later one. -/
inductive Episode (world : World S) : Except Error Unit -> World S -> List Event -> Prop
  | unanswered (error : Error) (asked : (host.confirm question world).1 = .error error) :
    Episode world (.error error) (host.confirm question world).2.settled (inquiry host world)
  | declined (asked : (host.confirm question world).1 = .ok false) :
    Episode world (.error .installDeclined) (host.confirm question world).2.settled
      (inquiry host world ++ [.answered false,
        .logged (.make .activation .info "requirements tools install declined" [])])
  | attempted (asked : (host.confirm question world).1 = .ok true) (attempt : Attempt S)
    (called : attempt = attemptAt host context python (host.confirm question world).2.settled) :
    Episode world (verdict attempt.result) attempt.world
      (inquiry host world ++ .answered true :: announcement (planOf context python) ++
        .planned (planOf context python) ::
          eventsOf context.progressInterval 0 attempt.deeds ++
        closing (duration attempt.deeds) attempt.result)

theorem closing_minor (elapsed : Nat) (result : Except Error Unit) :
    ∀ event ∈ closing elapsed result, event.isMinor = true := by
  unfold closing
  split <;> simp [Event.isMinor]

theorem eventsOf_forall {holds : Event -> Prop} (interval elapsed : Nat) (deeds : List Deed)
    (ran : ∀ line, holds (.ran line)) (logged : ∀ record, holds (.logged record))
    (reported : ∀ elapsed, holds (.noted .warn (progressText elapsed))) :
    ∀ event ∈ eventsOf interval elapsed deeds, holds event := by
  induction deeds generalizing elapsed with
  | nil => simp [eventsOf]
  | cons deed rest ih =>
    cases deed with
    | ran line => simpa [eventsOf, ran] using ih elapsed
    | logged record => simpa [eventsOf, logged] using ih elapsed
    | passed milliseconds =>
      refine List.forall_mem_append.mpr ⟨?_, ih _⟩
      unfold reportsDue
      split
      · split <;> simp [reported]
      · simp [reported]

theorem eventsOf_minor (interval elapsed : Nat) (deeds : List Deed) :
    ∀ event ∈ eventsOf interval elapsed deeds, event.isMinor = true :=
  eventsOf_forall interval elapsed deeds (fun _ => rfl) (fun _ => rfl) fun _ => rfl

theorem confirm_perform (stage : Stage S) :
    (confirm host).perform stage =
      match (host.confirm question stage.world).1 with
      | .ok consent =>
        (.ok consent, stage.extend (host.confirm question stage.world).2.settled
          (inquiry host stage.world ++ [.answered consent]))
      | .error error =>
        (.error error, stage.extend (host.confirm question stage.world).2.settled
          (inquiry host stage.world)) := by
  cases asked : (host.confirm question stage.world).1 <;>
    simp [confirm, Act.perform_bind, Act.perform_map, asked, inquiry]

theorem attempt_perform (stage : Stage S) :
    (attempt host context (planOf context python)).perform stage =
      let attempt := attemptAt host context python stage.world
      (.ok (attempt.result, duration attempt.deeds),
        stage.extend attempt.world (.planned (planOf context python) ::
          eventsOf context.progressInterval 0 attempt.deeds)) := by
  simp [attempt, attemptAt, Act.perform_bind, Act.perform_map, Stage.extend]

theorem admitted_of_consent (stage : Stage S)
    (asked : (host.confirm question stage.world).1 = .ok true) :
    (admitted host context python).perform stage =
      let attempt := attemptAt host context python (host.confirm question stage.world).2.settled
      (verdict attempt.result, stage.extend attempt.world
        (inquiry host stage.world ++ .answered true :: announcement (planOf context python) ++
          .planned (planOf context python) ::
            eventsOf context.progressInterval 0 attempt.deeds ++
          closing (duration attempt.deeds) attempt.result)) := by
  let asking := (host.confirm question stage.world).2.settled
  -- What is known once the installer has returned, whatever it has returned.
  have called := attempt_perform host context python (stage.extend asking
    (inquiry host stage.world ++ .answered true :: announcement (planOf context python)))
  simp only [Stage.extend_world, Stage.extend_extend] at called
  simp only [admitted, Act.perform_bind, confirm_perform, asked, Bool.not_true, Bool.false_eq_true,
    if_false, Act.perform_log, Act.perform_note, Stage.extend_world,
    Stage.extend_extend]
  simp only [planOf, announcement, List.append_assoc, List.cons_append, List.nil_append] at called ⊢
  rw [called]
  -- Only what is said at the end depends on the result, and with it on the kind of the error.
  cases returned : (attemptAt host context python asking).result with
  | ok _ => simp [asking, verdict, closing, Act.perform_bind]
  | error error =>
    cases error <;> simp [asking, verdict, closing, Act.perform_bind]

theorem admitted_perform (stage : Stage S) :
    ∃ world events,
      Episode host context python stage.world
        ((admitted host context python).perform stage).1 world events ∧
      ((admitted host context python).perform stage).2 = stage.extend world events := by
  cases asked : (host.confirm question stage.world).1 with
  | error error =>
    simp only [admitted, Act.perform_bind, confirm_perform, asked]
    exact ⟨_, _, .unanswered error asked, rfl⟩
  | ok consent =>
    cases consent with
    | false =>
      simp only [admitted, Act.perform_bind, confirm_perform, asked]
      exact ⟨_, _, .declined asked, by simp [Act.perform_bind]⟩
    | true =>
      rw [admitted_of_consent host context python stage asked]
      exact ⟨_, _, .attempted asked _ rfl, rfl⟩

theorem install_busy (stage : Stage S) (busy : stage.gate.busy = true) :
    (install host context python).perform stage = (.error .installInProgress, stage) := by
  simp [install, Act.perform_bind, Gate.acquire, busy]

theorem install_free (stage : Stage S) (free : stage.gate.busy = false) :
    ∃ world events,
      Episode host context python stage.world
        ((install host context python).perform stage).1 world events ∧
      ((install host context python).perform stage).2 = stage.extend world events := by
  obtain ⟨world, events, episode, done⟩ :=
    admitted_perform host context python { stage with gate := { busy := true } }
  refine ⟨world, events, ?_, ?_⟩
  · simpa [install, Act.perform_bind, Gate.acquire, free] using episode
  · -- The gate is opened whatever the episode has come to, and it was open before.
    have released : stage.gate = { busy := false } := by
      cases held : stage.gate
      simpa [held] using free
    simp [install, Act.perform_bind, Gate.acquire, done, Gate.release, Stage.extend, released]

theorem install_moves {related : Stage S -> Stage S -> Prop} (refl : ∀ stage, related stage stage)
    (during : ∀ stage result world events, stage.gate.busy = false ->
      Episode host context python stage.world result world events ->
      related stage (stage.extend world events)) :
    Act.Moves related (install host context python) := by
  intro stage
  cases taken : stage.gate.busy with
  | true =>
    rw [install_busy host context python stage taken]
    exact refl stage
  | false =>
    obtain ⟨world, events, episode, done⟩ := install_free host context python stage taken
    rw [done]
    exact during stage _ world events taken episode

theorem install_gate (stage : Stage S) :
    ((install host context python).perform stage).2.gate = stage.gate :=
  @install_moves _ host context python (fun before after => after.gate = before.gate)
    (fun _ => rfl) (fun _ _ _ _ _ _ => rfl) stage

theorem Episode.forall_events {world later : World S} {result : Except Error Unit}
    {events : List Event} (episode : Episode host context python world result later events)
    {holds : Event -> Prop} (prompted : holds (.prompted question))
    (answered : ∀ consent, holds (.answered consent)) (planned : ∀ plan, holds (.planned plan))
    (ran : ∀ line, holds (.ran line)) (logged : ∀ record, holds (.logged record))
    (said : ∀ text, holds (.noted .info text))
    (reported : ∀ elapsed, holds (.noted .warn (progressText elapsed))) :
    ∀ event ∈ events, holds event := by
  have inquired : ∀ event ∈ inquiry host world, holds event := by simp [inquiry, prompted, logged]
  cases episode with
  | unanswered error asked => exact inquired
  | declined asked => simpa [or_imp, forall_and, answered, logged] using inquired
  | attempted asked attempt called =>
    have announced : ∀ event ∈ announcement (planOf context python), holds event := by
      simp [announcement, logged, said]
    have closed : ∀ event ∈ closing (duration attempt.deeds) attempt.result, holds event := by
      unfold closing
      split <;> simp [logged, said]
    have attempted := eventsOf_forall context.progressInterval 0 attempt.deeds ran logged reported
    simp only [List.forall_mem_append, List.forall_mem_cons]
    exact ⟨⟨⟨inquired, answered true, announced⟩, planned _, attempted⟩, closed⟩

theorem Episode.same_view {V : Type} {world later : World S} {result : Except Error Unit}
    {events : List Event} (episode : Episode host context python world result later events)
    {view : World S -> V} (settles : ∀ world, view world.settled = view world)
    (confirms : ∀ question world, view (host.confirm question world).2 = view world)
    (installs : ∀ plan world, view (host.install plan world).world = view world) :
    view later = view world := by
  have asking := (settles _).trans (confirms question world)
  cases episode with
  | unanswered error asked => exact asking
  | declined asked => exact asking
  | attempted asked attempt called =>
    rw [called]
    exact (installs _ _).trans asking

theorem Episode.unique {world later other : World S} {result ended : Except Error Unit}
    {events more : List Event}
    (episode : Episode host context python world result later events)
    (again : Episode host context python world ended other more) :
    result = ended ∧ later = other := by
  cases episode <;> cases again <;> simp_all

theorem Episode.prompted {world later : World S} {result : Except Error Unit} {events : List Event}
    (episode : Episode host context python world result later events) :
    .prompted question ∈ events := by
  cases episode <;> simp [inquiry]

theorem Episode.planned {world later : World S} {events : List Event}
    (episode : Episode host context python world (.ok ()) later events) :
    .planned (planOf context python) ∈ events := by
  generalize ended : (.ok () : Except Error Unit) = result at episode
  cases episode with
  | unanswered error asked => cases ended
  | declined asked => cases ended
  | attempted asked attempt called => simp

theorem install_prompts (stage : Stage S)
    (installed : ((install host context python).perform stage).1 = .ok ()) :
    ∃ world events, .prompted question ∈ events ∧
      ((install host context python).perform stage).2 = stage.extend world events := by
  cases gate : stage.gate.busy with
  | true =>
    rw [install_busy host context python stage gate] at installed
    cases installed
  | false =>
    obtain ⟨world, events, episode, done⟩ := install_free host context python stage gate
    exact ⟨world, events, episode.prompted host context python, done⟩

end AnsibleTooling.Installation
