import AnsibleTooling.Files.Operations

set_option autoImplicit false

namespace AnsibleTooling.Files

def Stop.goOn (tree : Tree) (more : List Bytes) : Stop -> Stop
  | .arrived location => advance tree true location more
  | .missing parent name =>
    if more.all List.isEmpty then .missing parent name else .failed .notFound
  | .atLink parent target rest => .atLink parent target (rest ++ more)
  | .failed failure => .failed failure

section Advance

variable (tree : Tree) (place : Location) (names more : List Bytes)

theorem advance_append :
    advance tree true place (names ++ more) = (advance tree true place names).goOn tree more := by
  induction names generalizing place with
  | nil => rfl
  | cons name rest ih =>
    simp only [List.cons_append, advance, ih, List.all_append, Bool.not_true, Bool.and_false,
      Bool.false_eq_true, if_false]
    split
    · rfl
    split
    · rfl
    split
    · rfl
    split
    · rfl
    split
    · cases ends : rest.all List.isEmpty <;> simp [Stop.goOn]
    · rfl
    · rfl

theorem advance_unfollowed :
    advance tree false place names = advance tree true place names ∨
      ∃ last parent target, advance tree false place names = .arrived last ∧
        advance tree true place names = .atLink parent target [] := by
  induction names generalizing place with
  | nil => exact .inl rfl
  | cons name rest ih =>
    simp only [advance]
    split
    · exact .inl rfl
    split
    · exact ih place
    split
    · exact ih place.dropLast
    split
    · exact .inl rfl
    split
    · exact .inl rfl
    · next target _ =>
      -- Whether a link is followed only matters where it is named last.
      cases rest with
      | nil => exact .inr ⟨_, _, _, rfl, rfl⟩
      | cons _ _ => exact .inl rfl
    · exact ih (place ++ [name])

theorem advance_nowhere {follow : Bool} (name : Bytes) (absent : tree.isDirectory place = false) :
    advance tree follow place (name :: names) = .failed .notDirectory := by
  simp [advance, absent]

theorem advance_before {stop : Stop} (goes : more ≠ [])
    (onward : advance tree true place (names ++ more) = stop)
    (well : ∀ failure, stop ≠ .failed failure) :
    (∃ middle, advance tree true place names = .arrived middle ∧ tree.isDirectory middle = true) ∨
      (∃ parent name, stop = .missing parent name) ∨
      ∃ parent target rest, advance tree true place names = .atLink parent target rest ∧
        stop = .atLink parent target (rest ++ more) := by
  rw [advance_append] at onward
  cases first : advance tree true place names with
  | arrived middle =>
    rw [first, Stop.goOn] at onward
    obtain ⟨name, others, rfl⟩ := List.exists_cons_of_ne_nil goes
    refine .inl ⟨middle, rfl, ?_⟩
    cases standing : tree.isDirectory middle with
    | true => rfl
    | false =>
      rw [advance_nowhere tree middle others name standing] at onward
      exact absurd onward.symm (well _)
  | missing parent name =>
    rw [first, Stop.goOn] at onward
    split at onward
    · exact .inr (.inl ⟨parent, name, onward.symm⟩)
    · exact absurd onward.symm (well _)
  | atLink parent target rest =>
    rw [first, Stop.goOn] at onward
    exact .inr (.inr ⟨parent, target, rest, rfl, onward.symm⟩)
  | failed failure =>
    rw [first, Stop.goOn] at onward
    exact absurd onward.symm (well _)

theorem advance_separators {follow : Bool} (standing : tree.isDirectory place = true)
    (ends : names.all List.isEmpty = true) : advance tree follow place names = .arrived place := by
  induction names with
  | nil => rfl
  | cons name rest ih =>
    rw [List.all_cons, Bool.and_eq_true] at ends
    simp [advance, standing, ends.1, ih ends.2]

theorem lookup_of_missing {follow : Bool} {parent : Location} {name : Bytes}
    (misses : advance tree follow place names = .missing parent name) :
    tree.lookup (parent ++ [name]) = none := by
  induction names generalizing place with
  | nil => cases misses
  | cons first rest ih =>
    simp only [advance] at misses
    split at misses
    · cases misses
    split at misses
    · exact ih place misses
    split at misses
    · exact ih place.dropLast misses
    split at misses
    · cases misses
    split at misses
    · next absent =>
      split at misses
      · cases misses
        simpa using absent
      · cases misses
    · split at misses <;> cases misses
    · exact ih (place ++ [first]) misses

end Advance

/-- A walk that ends well: it gets through its names at once, or to a link and on from there. -/
inductive Walks (tree : Tree) (follow : Bool) : Nat -> Location -> List Bytes -> Spot -> Prop
  | arrives {links place names location}
    (stop : advance tree follow place names = .arrived location) :
    Walks tree follow links place names (.taken location)
  | misses {links place names parent name}
    (stop : advance tree follow place names = .missing parent name) :
    Walks tree follow links place names (.free parent name)
  | follows {links place names parent target rest spot}
    (stop : advance tree follow place names = .atLink parent target rest)
    (named : target.isEmpty = false)
    (goesOn : Walks tree follow links (if target.isAbsolute then [] else parent)
      (steps target ++ rest) spot) :
    Walks tree follow (links + 1) place names spot

section Walks

variable {tree : Tree} {follow : Bool} {links : Nat} {place last : Location}
variable {names more : List Bytes} {spot : Spot}

theorem walk_eq_ok :
    walk tree follow links place names = .ok spot ↔ Walks tree follow links place names spot := by
  constructor
  · intro walked
    induction links generalizing place names with
    | zero =>
      unfold walk at walked
      split at walked
      next stop => cases walked; exact .arrives stop
      next stop => cases walked; exact .misses stop
      next => cases walked
      next => cases walked
    | succ links ih =>
      unfold walk at walked
      split at walked
      next stop => cases walked; exact .arrives stop
      next stop => cases walked; exact .misses stop
      next => cases walked
      next stop =>
        simp only at walked
        split at walked
        next => cases walked
        next named => exact .follows stop (by simpa using named) (ih walked)
  · intro walks
    induction walks with
    | arrives stop => rw [walk, stop]
    | misses stop => rw [walk, stop]
    | follows stop named _ ih => simp [walk, stop, named, ih]

theorem Walks.before (goes : more ≠ [])
    (walks : Walks tree true links place (names ++ more) (.taken last)) :
    ∃ middle, Walks tree true links place names (.taken middle) ∧
      tree.isDirectory middle = true := by
  generalize whole : names ++ more = all at walks
  generalize arrived : Spot.taken last = spot at walks
  induction walks generalizing names with
  | misses => cases arrived
  | @arrives _ place _ _ stop =>
    subst whole
    rcases advance_before tree place names more goes stop nofun with
      ⟨middle, first, standing⟩ | ⟨_, _, missing⟩ | ⟨_, _, _, _, link⟩
    · exact ⟨middle, .arrives first, standing⟩
    · cases missing
    · cases link
  | @follows _ place _ _ _ _ _ stop named _ ih =>
    subst whole
    rcases advance_before tree place names more goes stop nofun with
      ⟨middle, first, standing⟩ | ⟨_, _, missing⟩ | ⟨_, _, _, first, link⟩
    · exact ⟨middle, .arrives first, standing⟩
    · cases missing
    · cases link
      obtain ⟨middle, walks, standing⟩ := ih (List.append_assoc _ _ _) arrived
      exact ⟨middle, .follows first named walks, standing⟩

theorem Walks.separated (walks : Walks tree true links place names (.taken last))
    (standing : tree.isDirectory last = true) :
    Walks tree true links place (names ++ [[]]) (.taken last) := by
  generalize arrived : Spot.taken last = spot at walks
  induction walks with
  | misses => cases arrived
  | arrives stop =>
    cases arrived
    refine .arrives ?_
    rw [advance_append, stop, Stop.goOn, advance_separators _ _ _ standing rfl]
  | follows stop named _ ih =>
    refine .follows (by rw [advance_append, stop, Stop.goOn]) named ?_
    rw [← List.append_assoc]
    exact ih arrived

theorem Walks.unfollowed (walks : Walks tree true links place names (.taken last)) :
    ∃ named, Walks tree false links place names (.taken named) := by
  generalize arrived : Spot.taken last = spot at walks
  induction walks with
  | misses => cases arrived
  | @arrives _ place names _ stop =>
    rcases advance_unfollowed tree place names with same | ⟨_, _, _, _, link⟩
    · exact ⟨_, .arrives (same.trans stop)⟩
    · rw [stop] at link
      cases link
  | @follows _ place names _ _ _ _ stop named _ ih =>
    rcases advance_unfollowed tree place names with same | ⟨last, _, _, stays, _⟩
    · obtain ⟨location, walks⟩ := ih arrived
      exact ⟨location, .follows (same.trans stop) named walks⟩
    · exact ⟨last, .arrives stays⟩

theorem Walks.free_lookup {parent : Location} {name : Bytes}
    (walks : Walks tree follow links place names (.free parent name)) :
    tree.lookup (parent ++ [name]) = none := by
  generalize missed : Spot.free parent name = spot at walks
  induction walks with
  | arrives => cases missed
  | misses stop => cases missed; exact lookup_of_missing _ _ _ stop
  | follows _ _ _ ih => exact ih missed

end Walks

def Tree.at (tree : Tree) (now : Nat) : Tree :=
  { tree with now }

section At

variable (tree : Tree) (now : Nat) (follow : Bool) (links : Nat) (place : Location)
variable (names : List Bytes)

theorem advance_at :
    advance (tree.at now) follow place names = advance tree follow place names := by
  induction names generalizing place with
  | nil => rfl
  | cons name rest ih =>
    simp only [advance, ih]
    rfl

theorem walk_at :
    walk (tree.at now) follow links place names = walk tree follow links place names := by
  induction links generalizing place names with
  | zero =>
    unfold walk
    rw [advance_at]
  | succ links ih =>
    unfold walk
    simp only [advance_at, ih]

theorem find_at (directory : Location) (path : Path) :
    find (tree.at now) directory follow path = find tree directory follow path := by
  unfold find locate locateSteps locateFrom
  rw [walk_at]
  rfl

theorem leadsTo_at (directory : Location) (kind : Node -> Bool) (path : Path) :
    leadsTo (tree.at now) directory kind path = leadsTo tree directory kind path := by
  unfold leadsTo
  rw [find_at]

theorem canonicalize_at (directory : Location) (path : Path) :
    canonicalize (tree.at now) directory path = canonicalize tree directory path := by
  unfold canonicalize locateFrom
  rw [walk_at]

end At

/-- A directory has come into a place of a tree, and whatever was elsewhere is still there. -/
structure Grown (tree made : Tree) (location : Location) : Prop where
  stands : (made.lookup location).map Node.entry = some .directory
  keeps (place : Location) (entry : Entry) :
    (tree.lookup place).map Node.entry = some entry ->
      (made.lookup place).map Node.entry = some entry

section Grown

variable {tree made : Tree} {location place : Location} {names : List Bytes} {links : Nat}

theorem isDirectory_eq_true :
    tree.isDirectory place = true ↔ (tree.lookup place).map Node.entry = some .directory := by
  unfold Tree.isDirectory
  cases tree.lookup place with
  | none => simp
  | some node => cases entry : node.entry <;> simp [Node.isDirectory, Entry.isDirectory, entry]

variable (grown : Grown tree made location)
include grown

theorem Grown.isDirectory (standing : tree.isDirectory place = true) :
    made.isDirectory place = true := by
  rw [isDirectory_eq_true] at standing ⊢
  exact grown.keeps _ _ standing

theorem Grown.stops {stop : Stop} (stops : advance tree false place names = stop) :
    (∀ parent name, stop = .missing parent name -> parent ++ [name] = location ->
        advance made true place names = .arrived location) ∧
      ∀ parent target rest, stop = .atLink parent target rest ->
        advance made true place names = .atLink parent target rest := by
  subst stops
  have standing {place : Location} (was : ¬(!tree.isDirectory place) = true) :
      made.isDirectory place = true := grown.isDirectory (by simpa using was)
  fun_induction advance tree false place names with
  | case1 => simp
  | case2 => simp
  | case3 place name rest was skipped ih =>
    simpa only [advance, standing was, skipped, Bool.not_true, Bool.false_eq_true, if_false,
      if_true] using ih
  | case4 place name rest was kept above ih =>
    simpa only [advance, standing was, kept, above, Bool.not_true, Bool.false_eq_true, if_false,
      if_true] using ih
  | case5 => simp
  | case6 place name rest was kept below short absent ends =>
    refine ⟨fun parent last missed free => ?_, nofun⟩
    cases missed
    have stands : made.isDirectory (place ++ [name]) = true :=
      isDirectory_eq_true.mpr (free ▸ grown.stands)
    have same : advance made true place (name :: rest) =
        advance made true (place ++ [name]) rest := by
      simp only [advance, standing was, kept, below, short, free, grown.stands, Bool.not_true,
        Bool.false_eq_true, if_false]
    rw [same, advance_separators _ _ _ stands ends, free]
  | case7 => simp
  | case8 => simp
  | case9 place name rest was kept below short target link goes =>
    refine ⟨nofun, fun parent target rest linked => ?_⟩
    cases linked
    simp only [advance, standing was, kept, below, short, grown.keeps _ _ link, Bool.not_true,
      Bool.false_eq_true, if_false, Bool.and_false]
  | case10 place name rest was kept below short entry other present ih =>
    have same : advance made true place (name :: rest) =
        advance made true (place ++ [name]) rest := by
      simp only [advance, standing was, kept, below, short, grown.keeps _ _ present,
        Bool.not_true, Bool.false_eq_true, if_false]
    rw [same]
    exact ih

theorem Grown.walks {parent : Location} {name : Bytes} (free : parent ++ [name] = location)
    (walks : Walks tree false links place names (.free parent name)) :
    Walks made true links place names (.taken location) := by
  generalize missed : Spot.free parent name = spot at walks
  induction walks with
  | arrives => cases missed
  | misses stop =>
    cases missed
    exact .arrives ((grown.stops stop).1 _ _ rfl free)
  | follows stop named _ ih => exact .follows ((grown.stops stop).2 _ _ _ rfl) named (ih missed)

end Grown

end AnsibleTooling.Files
