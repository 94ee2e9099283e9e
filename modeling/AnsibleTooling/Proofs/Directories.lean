import AnsibleTooling.Proofs.Paths
import AnsibleTooling.Proofs.Walking

set_option autoImplicit false

namespace AnsibleTooling.Files

namespace Tree

/-- Every node has been given its number, as in all trees that come from the empty one. -/
def IsNumbered (tree : Tree) : Prop :=
  ∀ item ∈ tree.nodes, item.1 < tree.fresh

instance (tree : Tree) : Decidable tree.IsNumbered :=
  inferInstanceAs (Decidable (∀ item ∈ tree.nodes, item.1 < tree.fresh))

variable {tree : Tree} (location place : Location)

theorem node_mem {number : Nat} {node : Node} (found : tree.node? number = some node) :
    ∃ item ∈ tree.nodes, item.1 = number := by
  unfold node? at found
  obtain ⟨item, met, _⟩ := Option.map_eq_some_iff.mp found
  exact ⟨item, List.mem_of_find?_eq_some met, by simpa using List.find?_some met⟩

theorem find_filter_of_ne {A B : Type} [BEq A] [LawfulBEq A] {key other : A} (differ : key ≠ other)
    (items : List (A × B)) :
    (items.filter fun item => item.1 != other).find? (fun item => item.1 == key) =
      items.find? fun item => item.1 == key := by
  rw [List.find?_filter]
  refine congrArg (fun select => items.find? select) (funext fun item => ?_)
  by_cases same : item.1 = key <;> simp [same, differ]

theorem node_modifyNode_of_ne {number other : Nat} (differ : other ≠ number)
    (change : Node -> Node) : (tree.modifyNode number change).node? other = tree.node? other := by
  unfold modifyNode
  split
  · rfl
  · simp only [node?]
    rw [List.find?_cons_of_neg (by simpa using Ne.symm differ), find_filter_of_ne differ]

theorem view_modifyNode {V : Type} (view : Node -> V) (number other : Nat) (change : Node -> Node)
    (keeps : ∀ node, view (change node) = view node) :
    ((tree.modifyNode number change).node? other).map view = (tree.node? other).map view := by
  by_cases same : other = number
  · subst same
    unfold modifyNode
    split
    · rfl
    next node found =>
      rw [found]
      simp [node?, keeps]
  · rw [node_modifyNode_of_ne same]

theorem numbered_modifyNode (numbered : tree.IsNumbered) (number : Nat) (change : Node -> Node) :
    (tree.modifyNode number change).IsNumbered := by
  unfold modifyNode
  split
  · exact numbered
  next node found =>
    obtain ⟨item, member, same⟩ := node_mem found
    intro other given
    rcases List.mem_cons.mp given with rfl | kept
    · exact same ▸ numbered item member
    · exact numbered other (List.mem_filter.mp kept).1

@[simp] theorem number_noteAbove :
    (tree.noteAbove location).number? place = tree.number? place := by
  unfold noteAbove modifyNode
  split
  · split <;> rfl
  · rfl

theorem noteAbove_clock :
    (tree.noteAbove location).now = tree.now ∧ (tree.noteAbove location).mask = tree.mask ∧
      (tree.noteAbove location).fresh = tree.fresh := by
  unfold noteAbove modifyNode
  split
  · split <;> exact ⟨rfl, rfl, rfl⟩
  · exact ⟨rfl, rfl, rfl⟩

theorem view_noteAbove {V : Type} (view : Node -> V)
    (keeps : ∀ node changed, view { node with changed } = view node) (number : Nat) :
    ((tree.noteAbove location).node? number).map view = (tree.node? number).map view := by
  unfold noteAbove
  split
  · exact view_modifyNode _ _ _ _ fun node => keeps node _
  · rfl

theorem numbered_noteAbove (numbered : tree.IsNumbered) : (tree.noteAbove location).IsNumbered := by
  unfold noteAbove
  split
  · exact numbered_modifyNode numbered _ _
  · exact numbered

theorem numbered_insert (numbered : tree.IsNumbered) (entry : Entry) :
    (tree.insert location entry).IsNumbered := by
  unfold insert name
  apply numbered_noteAbove
  intro item given
  rcases List.mem_cons.mp given with rfl | kept
  · exact Nat.lt_succ_self _
  · exact Nat.lt_succ_of_lt (numbered item kept)

theorem entry_lookup (place : Location) :
    (tree.lookup place).map Node.entry =
      (tree.number? place).bind fun number => (tree.node? number).map Node.entry := by
  rw [lookup, Option.map_bind]
  rfl

theorem number_insert (entry : Entry) (below : location ≠ []) :
    (tree.insert location entry).number? place =
      if place = location then some tree.fresh else tree.number? place := by
  unfold insert name
  rw [number_noteAbove]
  by_cases same : place = location
  · simp [number?, same, below]
  · simp only [number?, if_neg same]
    rw [List.find?_cons_of_neg (by simpa using Ne.symm same), find_filter_of_ne same]

theorem entry_insert (entry : Entry) (number : Nat) :
    ((tree.insert location entry).node? number).map Node.entry =
      if number = tree.fresh then some entry else (tree.node? number).map Node.entry := by
  unfold insert name
  rw [view_noteAbove location Node.entry fun _ _ => rfl]
  by_cases same : number = tree.fresh
  · simp [node?, same]
  · simp only [node?, if_neg same]
    rw [List.find?_cons_of_neg (by simpa using Ne.symm same)]

end Tree

theorem grown_insert {tree : Tree} (numbered : tree.IsNumbered) {location : Location}
    (below : location ≠ []) (free : tree.lookup location = none) :
    Grown tree (tree.insert location .directory) location := by
  constructor
  case stands => simp [Tree.entry_lookup, Tree.number_insert, Tree.entry_insert, below]
  case keeps =>
    intro place entry found
    have other : place ≠ location := by
      rintro rfl
      simp [free] at found
    rw [Tree.entry_lookup] at found ⊢
    obtain ⟨number, named, kept⟩ := Option.bind_eq_some_iff.mp found
    obtain ⟨node, there, _⟩ := Option.map_eq_some_iff.mp kept
    obtain ⟨item, member, same⟩ := Tree.node_mem there
    -- A node that was there before the new one does not have its number.
    have old : number ≠ tree.fresh := Nat.ne_of_lt (same ▸ numbered item member)
    simp [Tree.number_insert, Tree.entry_insert, below, other, named, old, kept]

section Paths

variable {tree made : Tree} {directory : Location} {path : Path}

def start (directory : Location) (path : Path) : Location :=
  if path.isAbsolute then [] else directory

theorem locateSteps_eq_ok {follow : Bool} {names : List Bytes} {spot : Spot} :
    locateSteps tree directory follow path names = .ok spot ↔
      IsUsable path ∧ Walks tree follow linkLimit (start directory path) names spot := by
  rw [← walk_eq_ok]
  unfold locateSteps locateFrom start
  constructor
  · intro located
    -- Whatever is wrong with a path is found before the walk.
    split at located
    next => cases located
    next short =>
    split at located
    next => cases located
    next whole =>
    split at located
    next => cases located
    next named =>
      have whole : path.bytes.contains 0 = false := by simpa using whole
      refine ⟨⟨whole, ?_, by simpa using named⟩, located⟩
      rw [whole] at short
      simpa using short
  · rintro ⟨usable, walked⟩
    have short : decide (longestPath < path.bytes.length) = false := by simpa using usable.short
    simpa only [usable.whole, usable.named, short, Bool.and_false, Bool.false_eq_true, if_false]
      using walked

theorem leadsTo_eq (kind : Node -> Bool) :
    leadsTo tree directory kind path =
      match locate tree directory true path with
      | .ok (.taken place) => (tree.lookup place).any kind
      | _ => false := by
  unfold leadsTo find
  cases located : locate tree directory true path with
  | error failure => rfl
  | ok spot =>
    cases spot with
    | free parent name => rfl
    | taken place =>
      dsimp only [bind, Except.bind]
      unfold Tree.lookup
      cases tree.number? place with
      | none => rfl
      | some number => cases node : tree.node? number <;> simp [node]

theorem leadsTo_iff (kind : Node -> Bool) :
    leadsTo tree directory kind path = true ↔
      IsUsable path ∧ ∃ place, Walks tree true linkLimit (start directory path) (steps path)
        (.taken place) ∧ (tree.lookup place).any kind = true := by
  rw [leadsTo_eq]
  constructor
  · intro leads
    split at leads
    next place located =>
      obtain ⟨usable, walks⟩ := locateSteps_eq_ok.mp located
      exact ⟨usable, place, walks, leads⟩
    next => cases leads
  · rintro ⟨usable, place, walks, fits⟩
    have located : locate tree directory true path = .ok (.taken place) :=
      locateSteps_eq_ok.mpr ⟨usable, walks⟩
    rw [located]
    exact fits

theorem walks_names {place : Location}
    (walks : Walks tree true linkLimit (start directory path) (steps path) (.taken place)) :
    ∃ middle, Walks tree true linkLimit (start directory path) (nameSteps path)
      (.taken middle) := by
  unfold steps at walks
  split at walks
  · obtain ⟨middle, walks, _⟩ := walks.before (List.cons_ne_nil _ _)
    exact ⟨middle, walks⟩
  · exact ⟨place, walks⟩

theorem walks_steps {place : Location}
    (walks : Walks tree true linkLimit (start directory path) (nameSteps path) (.taken place))
    (standing : tree.isDirectory place = true) :
    Walks tree true linkLimit (start directory path) (steps path) (.taken place) := by
  unfold steps
  split
  · exact walks.separated standing
  · exact walks

theorem isDirectory_of_walks (usable : IsUsable path) {place : Location}
    (walks : Walks tree true linkLimit (start directory path) (nameSteps path) (.taken place))
    (standing : tree.isDirectory place = true) : isDirectory tree directory path = true :=
  (leadsTo_iff _).mpr ⟨usable, place, walks_steps walks standing, standing⟩

theorem makeDirectory_of_isDirectory (there : isDirectory tree directory path = true) :
    makeDirectory tree directory path = .error .alreadyThere := by
  obtain ⟨usable, place, walks, _⟩ := (leadsTo_iff _).mp there
  obtain ⟨middle, walks⟩ := walks_names walks
  obtain ⟨named, walks⟩ := walks.unfollowed
  have taken : locateName tree directory path = .ok (.taken named) :=
    locateSteps_eq_ok.mpr ⟨usable, walks⟩
  rw [makeDirectory, create, freePlace, taken]
  rfl

theorem makeDirectory_makes (numbered : tree.IsNumbered)
    (makes : makeDirectory tree directory path = .ok made) :
    isDirectory made directory path = true ∧ made.IsNumbered := by
  rw [makeDirectory, create, freePlace] at makes
  cases located : locateName tree directory path with
  | error failure => rw [located] at makes; cases makes
  | ok spot =>
    rw [located] at makes
    cases spot with
    | taken place => cases makes
    | free parent name =>
      simp only [Entry.isDirectory, Bool.not_true, Bool.and_false] at makes
      cases makes
      obtain ⟨usable, walks⟩ := locateSteps_eq_ok.mp located
      have grown := grown_insert numbered (by simp) walks.free_lookup
      exact ⟨isDirectory_of_walks usable (grown.walks rfl walks)
        (isDirectory_eq_true.mpr grown.stands), Tree.numbered_insert _ numbered _⟩

theorem makeAll_makes {paths : List Path} {last : Path} (numbered : tree.IsNumbered)
    (makes : makeAll directory tree paths = (.ok (), made)) (ends : paths.getLast? = some last) :
    isDirectory made directory last = true := by
  induction paths generalizing tree with
  | nil => cases ends
  | cons path rest ih =>
    -- Whether it was made or met, the first directory is there for the others to be made.
    have goesOn {tree : Tree} (there : isDirectory tree directory path = true)
        (numbered : tree.IsNumbered) (makes : makeAll directory tree rest = (.ok (), made)) :
        isDirectory made directory last = true := by
      cases rest with
      | nil =>
        cases makes
        cases ends
        exact there
      | cons _ _ => exact ih numbered makes ends
    rw [makeAll] at makes
    split at makes
    next first makesFirst =>
      obtain ⟨there, numbered⟩ := makeDirectory_makes numbered makesFirst
      exact goesOn there numbered makes
    next failure fails =>
      split at makes
      next there =>
        rw [Bool.and_eq_true] at there
        exact goesOn there.2 numbered makes
      next => cases makes

theorem climb_passes {paths passed missing : List Path} {last : Path} (numbered : tree.IsNumbered)
    (climbs : climb directory tree paths passed = .ok (missing, made))
    (ends : passed.getLast? = some last) : missing.getLast? = some last ∧ made.IsNumbered := by
  induction paths generalizing passed with
  | nil =>
    cases climbs
    exact ⟨ends, numbered⟩
  | cons path parents ih =>
    rw [climb] at climbs
    split at climbs
    next first makes =>
      cases climbs
      exact ⟨ends, (makeDirectory_makes numbered makes).2⟩
    next =>
      -- What is passed on the way up comes before what has been passed.
      refine ih climbs ?_
      rw [List.getLast?_cons, ends]
      rfl
    next =>
      split at climbs
      next =>
        cases climbs
        exact ⟨ends, numbered⟩
      next => cases climbs
    next => cases climbs

theorem ancestors_cases (path : Path) :
    ancestors path = [] ∨ ∃ parents, ancestors path = path :: parents := by
  unfold ancestors
  dsimp only
  split
  · exact .inl rfl
  · exact .inr ⟨_, rfl⟩

/-- The path is a directory, or has no names at all. -/
def IsThere (tree : Tree) (directory : Location) (path : Path) : Prop :=
  ancestors path = [] ∨ isDirectory tree directory path = true

theorem climb_makes {parents missing : List Path} (numbered : tree.IsNumbered)
    (climbs : climb directory tree (path :: parents) [] = .ok (missing, made)) :
    (missing = [] ∧ isDirectory made directory path = true ∨ missing.getLast? = some path) ∧
      made.IsNumbered := by
  rw [climb] at climbs
  split at climbs
  next first makes =>
    cases climbs
    obtain ⟨there, numbered⟩ := makeDirectory_makes numbered makes
    exact ⟨.inl ⟨rfl, there⟩, numbered⟩
  next =>
    obtain ⟨ends, numbered⟩ := climb_passes numbered climbs rfl
    exact ⟨.inr ends, numbered⟩
  next =>
    split at climbs
    next there =>
      cases climbs
      exact ⟨.inl ⟨rfl, there⟩, numbered⟩
    next => cases climbs
  next => cases climbs

theorem makeDirectories_makes (numbered : tree.IsNumbered)
    (makes : makeDirectories tree directory path = (.ok (), made)) :
    IsThere made directory path := by
  unfold makeDirectories at makes
  rcases ancestors_cases path with none | ⟨parents, whole⟩
  · exact .inl none
  right
  rw [whole] at makes
  split at makes
  next => cases makes
  next missing first climbs =>
    obtain ⟨ends, numbered⟩ := climb_makes numbered climbs
    rcases ends with ⟨rfl, there⟩ | ends
    · cases makes
      exact there
    · exact makeAll_makes numbered makes ends

theorem makeDirectories_of_isThere (there : IsThere tree directory path) :
    makeDirectories tree directory path = (.ok (), tree) := by
  unfold makeDirectories
  rcases there with none | there
  · rw [none]
    rfl
  rcases ancestors_cases path with none | ⟨parents, whole⟩
  · rw [none]
    rfl
  · rw [whole, climb, makeDirectory_of_isDirectory there]
    simp [there, makeAll]

theorem isThere_of_below {base : Path} (below : IsBelow base path) {kind : Node -> Bool}
    (leads : leadsTo tree directory kind path = true) : IsThere tree directory base := by
  cases named : base.isEmpty with
  | true =>
    left
    obtain ⟨bytes⟩ := base
    rw [Path.isEmpty, List.isEmpty_iff] at named
    subst named
    rfl
  | false =>
    right
    obtain ⟨usable, place, walks, _⟩ := (leadsTo_iff kind).mp leads
    obtain ⟨more, some, names⟩ := below.names
    have same : start directory base = start directory path := by
      rw [start, start, below.isAbsolute named]
    have onward : ∃ others, others ≠ [] ∧ steps path = nameSteps base ++ others := by
      unfold steps
      split
      · exact ⟨more ++ [[]], by simp, by simp [names]⟩
      · exact ⟨more, some, names⟩
    obtain ⟨others, some, onward⟩ := onward
    -- The walk along the longer path has been at the end of the shorter one.
    rw [onward, ← same] at walks
    obtain ⟨middle, walks, standing⟩ := walks.before some
    exact isDirectory_of_walks (usable.of_below below named) walks standing

end Paths

end AnsibleTooling.Files
