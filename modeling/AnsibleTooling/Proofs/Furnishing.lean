import AnsibleTooling.Proofs.Lineages

set_option autoImplicit false

namespace AnsibleTooling.Files

namespace Tree

/-- Every node has been given its number, and every name the number of a node, as in all trees that
come from the empty one. -/
structure IsSound (tree : Tree) : Prop where
  numbered : tree.IsNumbered
  named : ∀ item ∈ tree.names, (tree.node? item.2).isSome = true
  rooted : (tree.node? rootNumber).isSome = true

instance (tree : Tree) : Decidable tree.IsSound :=
  decidable_of_iff
    (tree.IsNumbered ∧ (∀ item ∈ tree.names, (tree.node? item.2).isSome = true) ∧
      (tree.node? rootNumber).isSome = true)
    ⟨fun ⟨numbered, named, rooted⟩ => ⟨numbered, named, rooted⟩,
      fun sound => ⟨sound.numbered, sound.named, sound.rooted⟩⟩

example : empty.IsSound := by decide

variable {tree : Tree} {location place : Location} {number : Nat} {node : Node}

theorem IsSound.lookup_none (sound : tree.IsSound) (free : tree.lookup place = none) :
    tree.number? place = none := by
  cases named : tree.number? place with
  | none => rfl
  | some number =>
    rw [lookup, named, Option.bind_some] at free
    have some : (tree.node? number).isSome = true := by
      unfold number? at named
      split at named
      · cases named
        exact sound.rooted
      · obtain ⟨item, met, rfl⟩ := Option.map_eq_some_iff.mp named
        exact sound.named item (List.mem_of_find?_eq_some met)
    rw [free] at some
    cases some

@[simp] theorem names_noteAbove : (tree.noteAbove location).names = tree.names := by
  unfold noteAbove modifyNode
  split
  · split <;> rfl
  · rfl

def Keeps (now : Nat) (node : Node) (found : Option Node) : Prop :=
  found = some node ∨ found = some { node with changed := now }

theorem node_noteAbove (tree : Tree) (location : Location)
    (found : tree.node? number = some node) :
    Keeps tree.now node ((tree.noteAbove location).node? number) := by
  unfold noteAbove
  split
  next above named =>
    by_cases same : number = above
    · subst same
      right
      rw [modifyNode, found]
      simp [node?]
    · left
      rw [node_modifyNode_of_ne same, found]
  next => exact .inl found

def newDirectory (tree : Tree) : Node :=
  { entry := .directory
    mode := withhold tree.mask Entry.directory.openMode
    changed := tree.now }

theorem node_insert (location : Location) (numbered : tree.IsNumbered)
    (found : tree.node? number = some node) :
    Keeps tree.now node ((tree.insert location .directory).node? number) := by
  unfold insert name
  obtain ⟨item, member, same⟩ := node_mem found
  have old : tree.fresh ≠ number := Nat.ne_of_gt (same ▸ numbered item member)
  refine node_noteAbove { tree with names := _, nodes := _, fresh := _ } location ?_
  rw [node?, List.find?_cons_of_neg (by simpa using old)]
  exact found

theorem node_insert_new :
    (tree.insert location .directory).node? tree.fresh = some tree.newDirectory := by
  have kept : Keeps tree.now tree.newDirectory
      ((tree.insert location .directory).node? tree.fresh) := by
    unfold insert name
    refine node_noteAbove { tree with names := _, nodes := _, fresh := _ } location ?_
    rw [node?, List.find?_cons_of_pos (by simp)]
    rfl
  rcases kept with kept | kept <;> exact kept

theorem lookup_insert (below : location ≠ []) :
    (tree.insert location .directory).lookup location = some tree.newDirectory := by
  rw [lookup, number_insert _ _ _ below, if_pos rfl]
  exact node_insert_new

theorem sound_insert (sound : tree.IsSound) : (tree.insert location .directory).IsSound := by
  have kept {number : Nat} (old : (tree.node? number).isSome = true) :
      ((tree.insert location .directory).node? number).isSome = true := by
    obtain ⟨node, found⟩ := Option.isSome_iff_exists.mp old
    rcases node_insert location sound.numbered found with kept | kept <;> simp [kept]
  constructor
  case numbered => exact numbered_insert location sound.numbered .directory
  case named =>
    intro item member
    have names : (tree.insert location .directory).names = (location, tree.fresh) ::
        tree.names.filter fun item => item.1 != location := by
      unfold insert name
      rw [names_noteAbove]
    rw [names] at member
    rcases List.mem_cons.mp member with rfl | member
    · rw [node_insert_new]
      rfl
    · exact kept (sound.named item (List.mem_filter.mp member).1)
  case rooted => exact kept sound.rooted

end Tree

section Kept

variable {tree made : Tree} {follow : Bool} {links : Nat} {place last : Location}
variable {names : List Bytes}

def Stop.isFound : Stop -> Bool
  | .arrived _ | .atLink .. => true
  | .missing .. | .failed _ => false

variable (keeps : ∀ place entry, (tree.lookup place).map Node.entry = some entry ->
  (made.lookup place).map Node.entry = some entry)
include keeps

theorem advance_kept (found : (advance tree follow place names).isFound = true) :
    advance made follow place names = advance tree follow place names := by
  induction names generalizing place with
  | nil => rfl
  | cons name rest ih =>
    rw [advance] at found ⊢
    rw [advance]
    cases standing : tree.isDirectory place with
    | false =>
      rw [standing] at found
      cases found
    | true =>
      have stands : made.isDirectory place = true :=
        isDirectory_eq_true.mpr (keeps _ _ (isDirectory_eq_true.mp standing))
      rw [stands]
      simp only [standing, Bool.not_true, Bool.false_eq_true, if_false] at found ⊢
      split at found
      next stays =>
        simp only [stays, if_true]
        exact ih found
      next kept =>
      split at found
      next above =>
        simp only [kept, above, if_true, Bool.false_eq_true, if_false]
        exact ih found
      next below =>
      split at found
      next => cases found
      next short =>
      simp only [kept, below, short, Bool.false_eq_true, if_false]
      split at found
      next => split at found <;> cases found
      next target link => rw [keeps _ _ link]
      next entry plain present =>
        rw [keeps _ _ present]
        split
        next absent => cases absent
        next target link => exact (plain target (Option.some.inj link)).elim
        next => exact ih found

theorem Walks.kept (walks : Walks tree follow links place names (.taken last)) :
    Walks made follow links place names (.taken last) := by
  generalize arrived : Spot.taken last = spot at walks
  induction walks with
  | misses => cases arrived
  | arrives stop => exact .arrives (by rw [advance_kept keeps (by rw [stop]; rfl), stop])
  | follows stop named _ ih =>
    exact .follows (by rw [advance_kept keeps (by rw [stop]; rfl), stop]) named (ih arrived)

end Kept

/-- Directories have come into a tree, each at the end of one of some paths. -/
structure Furnished (tree made : Tree) (directory : Location) (paths : List Path) : Prop where
  keeps (place : Location) (node : Node) : tree.lookup place = some node ->
    made.number? place = tree.number? place ∧ Tree.Keeps tree.now node (made.lookup place)
  adds (place : Location) (node : Node) : tree.lookup place = none ->
    made.lookup place = some node -> node = tree.newDirectory ∧
      ∃ path ∈ paths, locate made directory true path = .ok (.taken place)
  clock : made.now = tree.now ∧ made.mask = tree.mask
  sound : made.IsSound

namespace Furnished

variable {tree middle made : Tree} {directory : Location} {paths : List Path} {path : Path}

theorem refl (sound : tree.IsSound) : Furnished tree tree directory paths where
  keeps _ _ found := ⟨rfl, .inl found⟩
  adds _ _ free found := nomatch free.symm.trans found
  clock := ⟨rfl, rfl⟩
  sound

theorem entries (furnished : Furnished tree made directory paths) (place : Location)
    (entry : Entry) (found : (tree.lookup place).map Node.entry = some entry) :
    (made.lookup place).map Node.entry = some entry := by
  obtain ⟨node, there, rfl⟩ := Option.map_eq_some_iff.mp found
  rcases (furnished.keeps place node there).2 with kept | kept <;> rw [kept] <;> rfl

theorem newDirectory (furnished : Furnished tree made directory paths) :
    made.newDirectory = tree.newDirectory := by
  rw [Tree.newDirectory, Tree.newDirectory, furnished.clock.1, furnished.clock.2]

theorem trans (first : Furnished tree middle directory paths)
    (second : Furnished middle made directory paths) : Furnished tree made directory paths := by
  constructor
  case keeps =>
    intro place node found
    obtain ⟨named, kept⟩ := first.keeps place node found
    have later {node : Node} (found : middle.lookup place = some node) :
        made.number? place = tree.number? place ∧ Tree.Keeps tree.now node (made.lookup place) := by
      obtain ⟨same, kept⟩ := second.keeps place node found
      rw [first.clock.1] at kept
      exact ⟨same.trans named, kept⟩
    rcases kept with kept | kept
    · exact later kept
    · exact ⟨(later kept).1, .inr ((later kept).2.elim id id)⟩
  case adds =>
    intro place node free found
    cases between : middle.lookup place with
    | none =>
      rw [← first.newDirectory]
      exact second.adds place node between found
    | some added =>
      obtain ⟨rfl, path, member, located⟩ := first.adds place added free between
      obtain ⟨usable, walks⟩ := locateSteps_eq_ok.mp located
      refine ⟨?_, path, member, locateSteps_eq_ok.mpr ⟨usable, walks.kept second.entries⟩⟩
      -- It was made at the time at which something has come into it.
      have kept := (second.keeps place _ between).2
      rw [first.clock.1] at kept
      exact Option.some.inj (found.symm.trans (kept.elim id id))
  case clock => exact ⟨second.clock.1.trans first.clock.1, second.clock.2.trans first.clock.2⟩
  case sound => exact second.sound

end Furnished

section Making

variable {tree made : Tree} {directory : Location} {path : Path} {all : List Path}

theorem makeDirectory_furnishes (sound : tree.IsSound)
    (makes : makeDirectory tree directory path = .ok made) (member : path ∈ all) :
    Furnished tree made directory all := by
  rw [makeDirectory, create, freePlace] at makes
  cases located : locateName tree directory path with
  | error failure => rw [located] at makes; cases makes
  | ok spot =>
    rw [located] at makes
    cases spot with
    | taken place => cases makes
    | free parent name =>
      simp only [Entry.isDirectory, Bool.not_true, Bool.and_false] at makes
      cases makes
      obtain ⟨usable, walks⟩ := locateSteps_eq_ok.mp located
      have below : parent ++ [name] ≠ [] := by simp
      have free := walks.free_lookup
      have named (place : Location) (other : place ≠ parent ++ [name]) :
          (tree.insert (parent ++ [name]) .directory).number? place = tree.number? place := by
        rw [Tree.number_insert _ _ _ below, if_neg other]
      constructor
      case keeps =>
        intro place node found
        have other : place ≠ parent ++ [name] := by
          rintro rfl
          cases free.symm.trans found
        obtain ⟨number, has, is⟩ := Option.bind_eq_some_iff.mp found
        rw [Tree.lookup, named place other, has]
        exact ⟨rfl, Tree.node_insert _ sound.numbered is⟩
      case adds =>
        intro place node absent found
        by_cases same : place = parent ++ [name]
        · subst same
          rw [Tree.lookup_insert below] at found
          refine ⟨(Option.some.inj found).symm, path, member, ?_⟩
          have grown := grown_insert sound.numbered below free
          exact locateSteps_eq_ok.mpr
            ⟨usable, walks_steps (grown.walks rfl walks) (isDirectory_eq_true.mpr grown.stands)⟩
        · rw [Tree.lookup, named place same, sound.lookup_none absent] at found
          cases found
      case clock =>
        obtain ⟨now, mask, _⟩ := Tree.noteAbove_clock (parent ++ [name])
        exact ⟨now, mask⟩
      case sound => exact Tree.sound_insert sound

theorem makeAll_furnishes {paths : List Path} (sound : tree.IsSound) (within : paths ⊆ all) :
    Furnished tree (makeAll directory tree paths).2 directory all := by
  induction paths generalizing tree with
  | nil => exact .refl sound
  | cons path rest ih =>
    obtain ⟨member, within⟩ := List.cons_subset.mp within
    rw [makeAll]
    split
    next made makes =>
      have furnished := makeDirectory_furnishes sound makes member
      exact furnished.trans (ih furnished.sound within)
    next =>
      split
      next => exact ih sound within
      next => exact .refl sound

theorem climb_furnishes {paths passed missing : List Path} (sound : tree.IsSound)
    (within : paths ⊆ all) (passedWithin : passed ⊆ all)
    (climbs : climb directory tree paths passed = .ok (missing, made)) :
    Furnished tree made directory all ∧ missing ⊆ all := by
  induction paths generalizing passed with
  | nil =>
    cases climbs
    exact ⟨.refl sound, passedWithin⟩
  | cons path parents ih =>
    obtain ⟨member, within⟩ := List.cons_subset.mp within
    rw [climb] at climbs
    split at climbs
    next made makes =>
      cases climbs
      exact ⟨makeDirectory_furnishes sound makes member, passedWithin⟩
    next => exact ih within (List.cons_subset.mpr ⟨member, passedWithin⟩) climbs
    next =>
      split at climbs
      next =>
        cases climbs
        exact ⟨.refl sound, passedWithin⟩
      next => cases climbs
    next => cases climbs

theorem makeDirectories_furnishes (sound : tree.IsSound) :
    Furnished tree (makeDirectories tree directory path).2 directory (ancestors path) := by
  unfold makeDirectories
  split
  next => exact .refl sound
  next missing first climbs =>
    obtain ⟨furnished, within⟩ :=
      climb_furnishes sound (List.Subset.refl _) (List.nil_subset _) climbs
    exact furnished.trans (makeAll_furnishes furnished.sound within)

theorem makeDirectories_completes (numbered : tree.IsNumbered)
    (makes : (makeDirectories tree directory path).1 = .ok ()) :
    ∀ ancestor ∈ ancestors path,
      isDirectory (makeDirectories tree directory path).2 directory ancestor = true := by
  intro ancestor member
  rcases makeDirectories_makes numbered (Prod.ext makes rfl) with none | there
  · rw [none] at member
    cases member
  · exact ancestors_isDirectory there member

end Making

end AnsibleTooling.Files
