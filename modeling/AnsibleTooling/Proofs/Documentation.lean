import AnsibleTooling.Proofs.Listing
import AnsibleTooling.Proofs.MachineLaws
import AnsibleTooling.Proofs.Teardown

set_option autoImplicit false

namespace AnsibleTooling.Documentation

open Act Resources
open Teardown (disposed disposes)

variable {S : Type}

def toolOf (stage : Stage S) : Option Path :=
  stage.state.report?.bind Report.docTool

inductive Refusal (view : DocView) (pluginType : String) (stage : Stage S) : Error -> Prop
  | unsupported (unknown : pluginType ∉ view.pluginTypes) :
    Refusal view pluginType stage (.unsupportedPluginType pluginType view.display
      (", ".intercalate view.pluginTypes))
  | toolless (known : pluginType ∈ view.pluginTypes) (missing : toolOf stage = none) :
    Refusal view pluginType stage (.commandUnavailable view.command.id)

theorem gated {A : Type} {view : DocView} {pluginType : String} {act : Act S A}
    {next : Path -> Act S A}
    (begins : act = do
      Act.ofExcept (view.validate pluginType)
      let tool <- Session.docTool view
      next tool)
    (before : Stage S) :
    (∃ error, Refusal view pluginType before error ∧
      act.perform before = (.error error, before)) ∨
    ∃ tool, pluginType ∈ view.pluginTypes ∧ toolOf before = some tool ∧
      act.perform before = (next tool).perform before := by
  subst begins
  by_cases known : pluginType ∈ view.pluginTypes
  next =>
    have valid := Gating.validate_perform known before
    cases found : toolOf before with
    | none =>
      refine .inl ⟨_, .toolless known found, (perform_bind_ok valid).trans ?_⟩
      exact perform_bind_error (Gating.docTool_refused view found)
    | some tool =>
      refine .inr ⟨tool, known, rfl, (perform_bind_ok valid).trans ?_⟩
      exact perform_bind_ok (Gating.docTool_found view found)
  next =>
    exact .inl ⟨_, .unsupported known, perform_bind_error (Gating.validate_refused known before)⟩

def showing (view : DocView) (tool : Path) (pluginType plugin : String) : Showing :=
  match view with
  | .info =>
    { name := "ansibleDocShowInfo", program := tool, arguments := ["-t", pluginType, plugin] }
  | .snippet =>
    { name := "ansibleDocShowSnippets", program := tool
      arguments := ["-t", pluginType, "-s", plugin] }

def opening (showing : Showing) (success : Bool) : Event :=
  .terminalStarted showing.name showing.program showing.arguments success

variable (host : Host S) (shows : World S -> Option Showing)

/-- From one stage to another some calls are made, in this order, and something or nothing is shown
then. The client, the gate and the state of the session are as before. -/
structure Effect (before after : Stage S) (calls : List Event) (shown : Option Showing) : Prop where
  journal : ∃ events, after.journal = before.journal ++ events ∧ Consent.calls events = calls
  shown : shows after.world = shown
  running : host.client.isRunning after.world = host.client.isRunning before.world
  state : after.state = before.state
  gate : after.gate = before.gate

theorem Effect.refl (stage : Stage S) : Effect host shows stage stage [] (shows stage.world) :=
  ⟨⟨[], (List.append_nil _).symm, rfl⟩, rfl, rfl, rfl, rfl⟩

variable {host shows} in
theorem Effect.trans {before middle after : Stage S} {calls more : List Event}
    {shown last : Option Showing} (first : Effect host shows before middle calls shown)
    (second : Effect host shows middle after more last) :
    Effect host shows before after (calls ++ more) last := by
  obtain ⟨events, journal, made⟩ := first.journal
  obtain ⟨others, journalMore, madeMore⟩ := second.journal
  constructor
  case journal =>
    refine ⟨events ++ others, by rw [journalMore, journal, List.append_assoc], ?_⟩
    rw [Consent.calls_append, made, madeMore]
  case shown => exact second.shown
  case running => exact second.running.trans first.running
  case state => exact second.state.trans first.state
  case gate => exact second.gate.trans first.gate

inductive Listed (view : DocView) (pluginType : String) (before : Stage S) :
    Except Error (List PluginEntry) -> Stage S -> Prop
  | refused (error : Error) (refusal : Refusal view pluginType before error) :
    Listed view pluginType before (.error error) before
  | ran (tool : Path) (after : Stage S) (known : pluginType ∈ view.pluginTypes)
    (found : toolOf before = some tool)
    (world : after.world = (host.runner.run tool
      (["-l", "-j", "-t", pluginType].map Text.encode) before.world).2.settled)
    (effect : Effect host shows before after
      [.ran (commandLine tool (["-l", "-j", "-t", pluginType].map Text.encode))]
      (shows before.world)) :
    Listed view pluginType before
      (.ok (PluginEntry.ofRun (host.runner.run tool
        (["-l", "-j", "-t", pluginType].map Text.encode) before.world).1)) after

def disposalsDue (before : Stage S) : List Event :=
  if (shows before.world).isSome then [.terminalDisposed true] else []

def cleared (before : Stage S) : Stage S :=
  if (shows before.world).isSome then disposed host before else before

def opens (host : Host S) (showing : Showing) (stage : Stage S) : Except Error Unit :=
  (host.terminal.start showing.name showing.program showing.arguments stage.world).1

/-- How a request to show a plugin goes. The first call that fails ends it. -/
inductive Shown (view : DocView) (pluginType plugin : String) (before : Stage S) :
    Except Error Unit -> Stage S -> Prop
  | refused (error : Error) (refusal : Refusal view pluginType before error) :
    Shown view pluginType plugin before (.error error) before
  | stuck (tool : Path) (old : Showing) (error : Error) (after : Stage S)
    (known : pluginType ∈ view.pluginTypes) (found : toolOf before = some tool)
    (shown : shows before.world = some old) (fails : disposes host before = .error error)
    (effect : Effect host shows before after [.terminalDisposed false] (some old)) :
    Shown view pluginType plugin before (.error error) after
  | unopened (tool : Path) (error : Error) (after : Stage S)
    (known : pluginType ∈ view.pluginTypes) (found : toolOf before = some tool)
    (fails : opens host (showing view tool pluginType plugin) (cleared host shows before) =
      .error error)
    (effect : Effect host shows before after
      (disposalsDue shows before ++ [opening (showing view tool pluginType plugin) false]) none) :
    Shown view pluginType plugin before (.error error) after
  | opened (tool : Path) (after : Stage S)
    (known : pluginType ∈ view.pluginTypes) (found : toolOf before = some tool)
    (opens : opens host (showing view tool pluginType plugin) (cleared host shows before) = .ok ())
    (effect : Effect host shows before after
      (disposalsDue shows before ++ [opening (showing view tool pluginType plugin) true])
      (some (showing view tool pluginType plugin))) :
    Shown view pluginType plugin before (.ok ()) after

section Steps

variable {host shows} (lawful : Lawful host.client host.terminal shows)
include lawful

theorem recorded_effect (event : Bool -> Event) (called : ∀ success, (event success).isCall = true)
    (step : World S -> Except Error Unit × World S) {before : Stage S} {shown : Option Showing}
    (seen : viewOf host.client shows (step before.world).2 =
      { viewOf host.client shows before.world with shown }) :
    Effect host shows before ((recorded event step).perform before).2
      [event (step before.world).1.isOk] shown := by
  have view := view_settled lawful (step before.world).2
  rw [seen] at view
  rw [perform_recorded]
  constructor
  case journal =>
    refine ⟨_, rfl, ?_⟩
    rw [Consent.calls_append, Consent.calls_records, Consent.calls_cons, called]
    rfl
  case shown => exact congrArg View.shown view
  case running => exact congrArg View.running view
  case state => rfl
  case gate => rfl

theorem dispose_effect (before : Stage S) :
    Effect host shows before (disposed host before) [.terminalDisposed (disposes host before).isOk]
      (if (disposes host before).isOk then none else shows before.world) := by
  refine recorded_effect lawful .terminalDisposed (fun _ => rfl) host.terminal.dispose ?_
  rw [lawful.dispose, disposes]
  split <;> rfl

theorem open_effect (showing : Showing) {before : Stage S} (closed : shows before.world = none) :
    Effect host shows before ((Session.startTerminal host showing.name showing.program
        showing.arguments).perform before).2
      [opening showing (opens host showing before).isOk]
      (if (opens host showing before).isOk then some showing else none) := by
  refine recorded_effect lawful (opening showing) (fun _ => rfl) _ ?_
  rw [lawful.opens _ _ _ _ closed, opens]
  split
  next => rfl
  next => rw [← closed]; rfl

theorem open_shown {view : DocView} {pluginType plugin : String} {before : Stage S} {tool : Path}
    (known : pluginType ∈ view.pluginTypes) (found : toolOf before = some tool)
    (clears : Effect host shows before (cleared host shows before) (disposalsDue shows before)
      none) :
    let ended := (Session.startTerminal host view.terminalName tool
      (view.showArguments pluginType plugin)).perform (cleared host shows before)
    Shown host shows view pluginType plugin before ended.1 ended.2 := by
  have effect := clears.trans
    (open_effect lawful (showing view tool pluginType plugin) clears.shown)
  have same : Session.startTerminal host view.terminalName tool
        (view.showArguments pluginType plugin) =
      Session.startTerminal host (showing view tool pluginType plugin).name
        (showing view tool pluginType plugin).program
        (showing view tool pluginType plugin).arguments := by
    cases view <;> rfl
  have result : ((Session.startTerminal host (showing view tool pluginType plugin).name
      (showing view tool pluginType plugin).program
      (showing view tool pluginType plugin).arguments).perform (cleared host shows before)).1 =
        opens host (showing view tool pluginType plugin) (cleared host shows before) := by
    rw [Session.startTerminal, perform_recorded, opens]
  dsimp only
  rw [same, result]
  cases tried : opens host (showing view tool pluginType plugin) (cleared host shows before) with
  | error error =>
    rw [tried] at effect
    exact .unopened tool error _ known found tried effect
  | ok _ =>
    rw [tried] at effect
    exact .opened tool _ known found tried effect

theorem replace_shown {view : DocView} {pluginType plugin : String} {before : Stage S} {tool : Path}
    (known : pluginType ∈ view.pluginTypes) (found : toolOf before = some tool) :
    let ended := (do
      if host.terminal.isOpen (<- Act.world) then Session.disposeTerminal host
      Session.startTerminal host view.terminalName tool
        (view.showArguments pluginType plugin) : Act S Unit).perform before
    Shown host shows view pluginType plugin before ended.1 ended.2 := by
  dsimp only
  rw [perform_bind_ok (perform_world ..)]
  simp only [lawful.isOpen]
  have opened := @open_shown S host shows lawful view pluginType plugin before tool known found
  have disposal := dispose_effect lawful before
  have unshown := Effect.refl host shows before
  cases shown : shows before.world with
  | none =>
    rw [shown] at unshown
    simp only [cleared, disposalsDue, shown, Option.isSome_none, Bool.false_eq_true, if_false]
      at opened ⊢
    exact opened unshown
  | some old =>
    simp only [cleared, disposalsDue, shown, Option.isSome_some, if_true] at opened ⊢
    have performed := Teardown.disposeTerminal_perform host before
    cases fails : disposes host before with
    | error error =>
      rw [fails] at performed disposal
      rw [perform_bind_error performed]
      rw [shown] at disposal
      exact .stuck tool old error _ known found shown fails disposal
    | ok _ =>
      rw [fails] at performed disposal
      rw [perform_bind_ok performed]
      exact opened disposal

theorem showPlugin_shown (view : DocView) (pluginType plugin : String) (before : Stage S) :
    let ended := (Session.showPlugin host view pluginType plugin).perform before
    Shown host shows view pluginType plugin before ended.1 ended.2 := by
  dsimp only
  rcases gated (rfl : Session.showPlugin host view pluginType plugin = _) before with
    ⟨error, refusal, refused⟩ | ⟨tool, known, found, goesOn⟩
  · rw [refused]
    exact .refused error refusal
  · rw [goesOn]
    exact replace_shown lawful known found

end Steps

section Listing

variable {host shows}

theorem calls_of_ran {lines : List String} {events : List Event} (ran : Ran lines events) :
    Consent.calls events = lines.map .ran := by
  induction ran with
  | nil => rfl
  | ran line _ ih => rw [Consent.calls_cons, ih]; rfl
  | logged record _ ih => rw [Consent.calls_cons, ih]; rfl

theorem effect_of_runsTo {before after : Stage S} {lines : List String}
    (runs : before.RunsTo lines after)
    (same : viewOf host.client shows after.world = viewOf host.client shows before.world) :
    Effect host shows before after (lines.map .ran) (shows before.world) := by
  obtain ⟨events, ran, reached⟩ := runs
  constructor
  case journal => exact ⟨events, by rw [reached, Stage.extend_journal], calls_of_ran ran⟩
  case shown => exact congrArg View.shown same
  case running => exact congrArg View.running same
  case state => rw [reached, Stage.extend_state]
  case gate => rw [reached, Stage.extend_gate]

theorem listPlugins_listed (lawful : Lawful host.client host.terminal shows)
    (apart : Apart host (viewOf host.client shows)) (view : DocView) (pluginType : String)
    (before : Stage S) :
    let ended := (Session.listPlugins host view pluginType).perform before
    Listed host shows view pluginType before ended.1 ended.2 := by
  dsimp only
  rcases gated (rfl : Session.listPlugins host view pluginType = _) before with
    ⟨error, refusal, refused⟩ | ⟨tool, known, found, _⟩
  · rw [refused]
    exact .refused error refusal
  · obtain ⟨after, runs, world, done⟩ :=
      PluginEntry.listPlugins_runs host view before known found
    have same := (view_settled lawful _).trans (apart.runs tool
      (["-l", "-j", "-t", pluginType].map Text.encode) before.world)
    rw [done]
    exact .ran tool after known found world (effect_of_runsTo runs (by rw [world]; exact same))

end Listing

inductive Request
  | plugins (view : DocView) (pluginType : String)
  | plugin (view : DocView) (pluginType plugin : String)

def Request.ask (host : Host S) (request : Request) (stage : Stage S) : Stage S :=
  match request with
  | plugins view pluginType => ((Session.listPlugins host view pluginType).perform stage).2
  | plugin view pluginType name => ((Session.showPlugin host view pluginType name).perform stage).2

def askAll (requests : List Request) (stage : Stage S) : Stage S :=
  requests.foldl (fun stage request => request.ask host stage) stage

def isDisposal : Event -> Bool
  | .terminalDisposed success => success
  | _ => false

/-- Every terminal that was opened in between, or before, was disposed of or is open still. The
client, the gate and the state of the session are as before. -/
structure Accounted (before after : Stage S) : Prop where
  journal : ∃ events, after.journal = before.journal ++ events ∧
    events.countP Event.isOpening + (shows before.world).isSome.toNat =
      events.countP isDisposal + (shows after.world).isSome.toNat
  running : host.client.isRunning after.world = host.client.isRunning before.world
  state : after.state = before.state
  gate : after.gate = before.gate

section Accounts

variable {host shows}

theorem Accounted.refl (stage : Stage S) : Accounted host shows stage stage :=
  ⟨⟨[], (List.append_nil _).symm, rfl⟩, rfl, rfl, rfl⟩

theorem Accounted.trans {before middle after : Stage S} (first : Accounted host shows before middle)
    (second : Accounted host shows middle after) : Accounted host shows before after := by
  obtain ⟨events, journal, balance⟩ := first.journal
  obtain ⟨more, journalMore, balanceMore⟩ := second.journal
  constructor
  case journal =>
    refine ⟨events ++ more, by rw [journalMore, journal, List.append_assoc], ?_⟩
    rw [List.countP_append, List.countP_append]
    omega
  case running => exact second.running.trans first.running
  case state => exact second.state.trans first.state
  case gate => exact second.gate.trans first.gate

theorem Effect.accounted {before after : Stage S} {calls : List Event} {shown : Option Showing}
    (effect : Effect host shows before after calls shown)
    (balance : calls.countP Event.isOpening + (shows before.world).isSome.toNat =
      calls.countP isDisposal + shown.isSome.toNat) : Accounted host shows before after := by
  obtain ⟨events, journal, rfl⟩ := effect.journal
  rw [Consent.countP_calls _ (by rintro ⟨⟩ <;> simp [Event.isOpening, Event.isCall]),
    Consent.countP_calls _ (by rintro ⟨⟩ <;> simp [isDisposal, Event.isCall])] at balance
  exact ⟨⟨events, journal, by rw [effect.shown, balance]⟩, effect.running, effect.state, effect.gate⟩

theorem Shown.accounted {view : DocView} {pluginType plugin : String} {before after : Stage S}
    {result : Except Error Unit}
    (shown : Shown host shows view pluginType plugin before result after) :
    Accounted host shows before after := by
  cases shown with
  | refused => exact .refl before
  | stuck tool old error _ known found shown fails effect =>
    exact effect.accounted (by simp [shown, Event.isOpening, isDisposal])
  | unopened tool error _ known found fails effect =>
    refine effect.accounted ?_
    cases shown : shows before.world <;>
      simp [disposalsDue, shown, opening, Event.isOpening, isDisposal, List.countP_cons]
  | opened tool _ known found opens effect =>
    refine effect.accounted ?_
    cases shown : shows before.world <;>
      simp [disposalsDue, shown, opening, Event.isOpening, isDisposal, List.countP_cons]

theorem Listed.accounted {view : DocView} {pluginType : String} {before after : Stage S}
    {result : Except Error (List PluginEntry)}
    (listed : Listed host shows view pluginType before result after) :
    Accounted host shows before after := by
  cases listed with
  | refused => exact .refl before
  | ran tool _ known found world effect =>
    exact effect.accounted (by simp [Event.isOpening, isDisposal])

variable (lawful : Lawful host.client host.terminal shows)
variable (apart : Apart host (viewOf host.client shows))
include lawful apart

theorem ask_accounted (request : Request) (before : Stage S) :
    Accounted host shows before (request.ask host before) := by
  cases request with
  | plugins view pluginType => exact (listPlugins_listed lawful apart view pluginType before).accounted
  | plugin view pluginType plugin =>
    exact (showPlugin_shown lawful view pluginType plugin before).accounted

theorem askAll_accounted (requests : List Request) (before : Stage S) :
    Accounted host shows before (askAll host requests before) := by
  induction requests generalizing before with
  | nil => exact .refl before
  | cons request rest ih => exact (ask_accounted lawful apart request before).trans (ih _)

end Accounts

structure Documents : Prop where
  listed (view : DocView) (pluginType : String) (before : Stage S) :
    let ended := (Session.listPlugins host view pluginType).perform before
    Listed host shows view pluginType before ended.1 ended.2
  shown (view : DocView) (pluginType plugin : String) (before : Stage S) :
    let ended := (Session.showPlugin host view pluginType plugin).perform before
    Shown host shows view pluginType plugin before ended.1 ended.2
  accounted (requests : List Request) (before : Stage S) :
    Accounted host shows before (askAll host requests before)

variable {host shows} in
theorem host_documents (lawful : Lawful host.client host.terminal shows)
    (apart : Apart host (viewOf host.client shows)) : Documents host shows where
  listed := listPlugins_listed lawful apart
  shown := showPlugin_shown lawful
  accounted := askAll_accounted lawful apart

def documentedHost : Host Rehearsal.Props :=
  Rehearsal.host {} .posix

def documentedStage : Stage Rehearsal.Props :=
  { world := { tree := .empty, workDir := [], inner := {} }
    state := .ready { (default : Report) with docTool := some (Path.ofText "ansible-doc") } }

-- The second showing takes the place of the first.
theorem host_documents_rehearsal :
    Documents documentedHost Rehearsal.shows ∧
      Rehearsal.shows (askAll documentedHost
        [.plugin .info "module" "copy", .plugin .snippet "lookup" "a b"] documentedStage).world =
          some (showing .snippet (Path.ofText "ansible-doc") "lookup" "a b") ∧
      ∀ assumeYes, Documents (Machine.host assumeYes) Machine.shows :=
  ⟨host_documents Rehearsal.props_lawful (Rehearsal.host_apart {} .posix), rfl,
    fun assumeYes => host_documents Machine.machine_lawful (Machine.machine_apart assumeYes)⟩

end AnsibleTooling.Documentation
