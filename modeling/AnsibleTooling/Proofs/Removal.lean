import AnsibleTooling.Proofs.Directories

set_option autoImplicit false

namespace AnsibleTooling.Files

/-- A location is empty, and so is all that was below it. Only the directory that it was in has
taken note of that. -/
structure Erased (tree left : Tree) (location : Location) : Prop where
  gone (place : Location) : location <+: place -> place ≠ [] -> left.number? place = none
  keeps (place : Location) : ¬ location <+: place -> left.number? place = tree.number? place
  nodes (number : Nat) : tree.number? location.dropLast ≠ some number ->
    left.node? number = tree.node? number
  above (number : Nat) : (left.node? number).map (fun node => (node.entry, node.mode)) =
    (tree.node? number).map fun node => (node.entry, node.mode)
  clock : left.now = tree.now ∧ left.mask = tree.mask ∧ left.fresh = tree.fresh

namespace Tree

variable (tree : Tree) (location place : Location)

theorem node_noteAbove_of_ne {number : Nat}
    (differ : tree.number? location.dropLast ≠ some number) :
    (tree.noteAbove location).node? number = tree.node? number := by
  unfold noteAbove
  split
  next other named =>
    apply node_modifyNode_of_ne
    rintro rfl
    exact differ named
  next => rfl

def without (tree : Tree) (location : Location) : Tree :=
  { tree with names := tree.names.filter fun item => !location.isPrefixOf item.1 }

theorem number_without_of_prefix (within : location <+: place) (below : place ≠ []) :
    (tree.without location).number? place = none := by
  have none : (tree.names.filter fun item => !location.isPrefixOf item.1).find?
      (fun item => item.1 == place) = .none := by
    rw [List.find?_eq_none]
    intro item member same
    have kept := (List.mem_filter.mp member).2
    rw [eq_of_beq same, List.isPrefixOf_iff_prefix.mpr within] at kept
    cases kept
  simp [without, number?, below, none]

theorem number_without_of_not_prefix (outside : ¬ location <+: place) :
    (tree.without location).number? place = tree.number? place := by
  have other : location.isPrefixOf place = false := by
    rw [← Bool.not_eq_true, List.isPrefixOf_iff_prefix]
    exact outside
  have same : (tree.names.filter fun item => !location.isPrefixOf item.1).find?
      (fun item => item.1 == place) = tree.names.find? fun item => item.1 == place := by
    rw [List.find?_filter]
    refine congrArg (fun select => tree.names.find? select) (funext fun item => ?_)
    by_cases named : item.1 = place <;> simp [named, other]
  simp [without, number?, same]

theorem number_without_above :
    (tree.without location).number? location.dropLast = tree.number? location.dropLast := by
  by_cases below : location = []
  · rw [below]
    rfl
  · apply number_without_of_not_prefix
    intro within
    have shorter := within.length_le
    have some := List.length_pos_iff.mpr below
    rw [List.length_dropLast] at shorter
    omega

theorem erase_erased : Erased tree (tree.erase location) location := by
  have erased : tree.erase location = (tree.without location).noteAbove location := rfl
  rw [erased]
  constructor
  case gone =>
    intro place within below
    rw [number_noteAbove]
    exact number_without_of_prefix tree location place within below
  case keeps =>
    intro place outside
    rw [number_noteAbove]
    exact number_without_of_not_prefix tree location place outside
  case nodes =>
    intro number other
    rw [← number_without_above] at other
    exact node_noteAbove_of_ne _ _ other
  case above =>
    intro number
    exact view_noteAbove location (fun node => (node.entry, node.mode)) (fun _ _ => rfl) number
  case clock => exact noteAbove_clock _

end Tree

section Erased

variable {tree left : Tree} {location : Location} (erased : Erased tree left location)
include erased

theorem Erased.lookup_gone {place : Location} (within : location <+: place) (below : place ≠ []) :
    left.lookup place = none := by
  rw [Tree.lookup, erased.gone place within below]
  rfl

theorem Erased.entry_kept {place : Location} (same : left.number? place = tree.number? place) :
    (left.lookup place).map Node.entry = (tree.lookup place).map Node.entry := by
  rw [Tree.entry_lookup, Tree.entry_lookup, same]
  congr
  funext number
  have entry := congrArg (Option.map Prod.fst) (erased.above number)
  rwa [Option.map_map, Option.map_map] at entry

theorem Erased.entry_cases (place : Location) :
    (left.lookup place).map Node.entry = (tree.lookup place).map Node.entry ∨
      left.lookup place = none := by
  by_cases below : place = []
  · subst below
    exact .inl (erased.entry_kept rfl)
  by_cases within : location <+: place
  · exact .inr (erased.lookup_gone within below)
  · exact .inl (erased.entry_kept (erased.keeps place within))

theorem Erased.isDirectory {place : Location} (stands : left.isDirectory place = true) :
    tree.isDirectory place = true := by
  rw [isDirectory_eq_true] at stands ⊢
  rcases erased.entry_cases place with same | absent
  · rwa [← same]
  · rw [absent] at stands
    cases stands

end Erased

def Stop.IsVain (tree : Tree) : Stop -> Prop
  | .arrived location => tree.lookup location = none
  | .atLink .. => False
  | .missing .. | .failed _ => True

section Vain

variable {tree left : Tree} {location place : Location} {names rest : List Bytes} {name : Bytes}
variable {follow : Bool}

theorem vain_nowhere (nowhere : left.isDirectory place = false) :
    (advance left follow place (name :: rest)).IsVain left := by
  rw [advance_nowhere left place rest name nowhere]
  trivial

theorem vain_absent (kept : ¬(name.isEmpty || name == Path.here) = true)
    (below : ¬(name == Path.above) = true) (absent : left.lookup (place ++ [name]) = none) :
    (advance left follow place (name :: rest)).IsVain left := by
  simp only [advance, kept, below, absent, Option.map_none, Bool.false_eq_true, if_false]
  split
  · trivial
  split
  · trivial
  split <;> trivial

variable (erased : Erased tree left location)
include erased

theorem Erased.vain (some : location ≠ [])
    (arrives : advance tree false place names = .arrived location) :
    (advance left follow place names).IsVain left := by
  fun_induction advance tree false place names with
  | case1 place =>
    cases arrives
    exact erased.lookup_gone List.prefix_rfl some
  | case2 => cases arrives
  | case3 place name rest was skipped ih =>
    cases stands : left.isDirectory place with
    | false => exact vain_nowhere stands
    | true =>
      simpa only [advance, stands, skipped, Bool.not_true, Bool.false_eq_true, if_false, if_true]
        using ih arrives
  | case4 place name rest was kept above ih =>
    cases stands : left.isDirectory place with
    | false => exact vain_nowhere stands
    | true =>
      simpa only [advance, stands, kept, above, Bool.not_true, Bool.false_eq_true, if_false,
        if_true] using ih arrives
  | case5 => cases arrives
  | case6 => cases arrives
  | case7 => cases arrives
  | case8 place name rest was kept below short target link ends =>
    cases arrives
    exact vain_absent kept below (erased.lookup_gone List.prefix_rfl some)
  | case9 => cases arrives
  | case10 place name rest was kept below short entry other present ih =>
    cases stands : left.isDirectory place with
    | false => exact vain_nowhere stands
    | true =>
      rcases erased.entry_cases (place ++ [name]) with same | absent
      · have onward : advance left follow place (name :: rest) =
            advance left follow (place ++ [name]) rest := by
          simp only [advance, stands, kept, below, short, same, present, Bool.not_true,
            Bool.false_eq_true, if_false]
        rw [onward]
        exact ih arrives
      · exact vain_absent kept below absent

theorem Erased.agrees :
    advance left follow place names = advance tree follow place names ∨
      (advance left follow place names).IsVain left := by
  induction names generalizing place with
  | nil => exact .inl rfl
  | cons name rest ih =>
    cases stands : left.isDirectory place with
    | false => exact .inr (vain_nowhere stands)
    | true =>
      have stood := erased.isDirectory stands
      by_cases kept : (name.isEmpty || name == Path.here) = true
      · simpa only [advance, stands, stood, kept, Bool.not_true, Bool.false_eq_true, if_false,
          if_true] using ih
      by_cases below : (name == Path.above) = true
      · simpa only [advance, stands, stood, kept, below, Bool.not_true, Bool.false_eq_true,
          if_false, if_true] using ih
      rcases erased.entry_cases (place ++ [name]) with same | absent
      · simp only [advance, stands, stood, kept, below, same, Bool.not_true, Bool.false_eq_true,
          if_false]
        -- What stands there is the same in both trees, so only a walk beyond it may differ.
        split
        · exact .inl rfl
        split
        · exact .inl rfl
        · exact .inl rfl
        · exact ih
      · exact .inr (vain_absent kept below absent)

end Vain

theorem Erased.walks {tree left : Tree} {location place last : Location} {names : List Bytes}
    {links : Nat} (erased : Erased tree left location) (some : location ≠ [])
    (walked : Walks tree false links place names (.taken location))
    (walks : Walks left true links place names (.taken last)) : left.lookup last = none := by
  generalize arrived : Spot.taken location = spot at walked
  induction walked with
  | arrives stop =>
    cases arrived
    have vain : (advance left true _ _).IsVain left := erased.vain some stop
    cases walks with
    | arrives ends => rwa [ends] at vain
    | follows ends => rw [ends] at vain; exact vain.elim
  | misses => cases arrived
  | @follows links place names parent target rest _ stop named _ ih =>
    have same : advance tree true place names = .atLink parent target rest := by
      rcases advance_unfollowed tree place names with same | ⟨_, _, _, stays, _⟩
      · rwa [← same]
      · rw [stop] at stays
        cases stays
    have agreement : advance left true place names = advance tree true place names ∨
      (advance left true place names).IsVain left := erased.agrees
    rcases agreement with agrees | vain
    · rw [same] at agrees
      cases walks with
      | arrives ends => rw [ends] at agrees; cases agrees
      | follows ends _ goesOn =>
        rw [ends] at agrees
        cases agrees
        exact ih goesOn arrived
    · cases walks with
      | arrives ends => rwa [ends] at vain
      | follows ends => rw [ends] at vain; exact vain.elim

theorem exists_eq_leadsTo (tree : Tree) (directory : Location) (path : Path) :
    exists? tree directory path = leadsTo tree directory (fun _ => true) path := by
  unfold exists? leadsTo
  cases find tree directory true path <;> rfl

theorem walks_of_find {tree : Tree} {directory : Location} {follow : Bool} {path : Path}
    {found : Found} (finds : find tree directory follow path = .ok found) :
    Walks tree follow linkLimit (start directory path) (steps path) (.taken found.location) := by
  unfold find at finds
  cases located : locate tree directory follow path with
  | error failure => rw [located] at finds; cases finds
  | ok spot =>
    rw [located] at finds
    cases spot with
    | free parent name => cases finds
    | taken place =>
      dsimp only [bind, Except.bind] at finds
      split at finds
      · cases finds
        exact (locateSteps_eq_ok.mp located).2
      · cases finds

theorem Erased.absent {tree left : Tree} {directory : Location} {path : Path} {found : Found}
    (erased : Erased tree left found.location) (some : found.location ≠ [])
    (finds : find tree directory false path = .ok found) : exists? left directory path = false := by
  rw [exists_eq_leadsTo, Bool.eq_false_iff]
  intro leads
  obtain ⟨_, place, walks, there⟩ := (leadsTo_iff _).mp leads
  rw [erased.walks some (walks_of_find finds) walks] at there
  cases there

theorem removeDirectory_removes {tree left : Tree} {directory : Location} {path : Path}
    (removes : removeDirectory tree directory path = .ok left) :
    ∃ found, find tree directory false path = .ok found ∧ Erased tree left found.location := by
  unfold removeDirectory at removes
  cases finds : find tree directory false path with
  | error failure => rw [finds] at removes; cases removes
  | ok found =>
    rw [finds] at removes
    dsimp only [bind, Except.bind] at removes
    split at removes
    · cases removes
      exact ⟨found, rfl, Tree.erase_erased tree found.location⟩
    · cases removes

section Named

structure IsPlain (name : Bytes) : Prop where
  kept : (name.isEmpty || name == Path.here) = false
  below : (name == Path.above) = false

def Stop.EndsIn (name : Bytes) : Stop -> Prop
  | .arrived location => ∃ above, location = above ++ [name]
  | .atLink _ _ rest => ∃ front, rest = front ++ [name]
  | .missing .. | .failed _ => True

variable {tree : Tree} {place : Location} {name : Bytes} (plain : IsPlain name)
include plain

theorem advance_named (names : List Bytes) :
    (advance tree false place (names ++ [name])).EndsIn name := by
  induction names generalizing place with
  | nil =>
    simp only [List.nil_append, advance, plain.kept, plain.below, List.isEmpty_nil, Bool.not_false,
      Bool.and_self, Bool.false_eq_true, if_false, if_true]
    split
    · trivial
    split
    · trivial
    split
    · trivial
    · exact ⟨place, rfl⟩
    · exact ⟨place, rfl⟩
  | cons first rest ih =>
    have some : (rest ++ [name]).isEmpty = false := by simp
    simp only [List.cons_append, advance, some, Bool.false_and, Bool.false_eq_true, if_false]
    split
    · trivial
    split
    · exact ih
    split
    · exact ih
    split
    · trivial
    split
    · split <;> trivial
    · exact ⟨rest, rfl⟩
    · exact ih

theorem Walks.named {links : Nat} {names : List Bytes} {last : Location}
    (walks : Walks tree false links place (names ++ [name]) (.taken last)) :
    ∃ above, last = above ++ [name] := by
  generalize whole : names ++ [name] = all at walks
  generalize arrived : Spot.taken last = spot at walks
  induction walks generalizing names with
  | @arrives _ place _ _ stop =>
    cases arrived
    subst whole
    have ends : (advance tree false place (names ++ [name])).EndsIn name :=
      advance_named plain names
    rwa [stop] at ends
  | misses => cases arrived
  | @follows _ place _ _ _ _ _ stop _ _ ih =>
    subst whole
    have ends : (advance tree false place (names ++ [name])).EndsIn name :=
      advance_named plain names
    rw [stop] at ends
    obtain ⟨front, rfl⟩ := ends
    exact ih (List.append_assoc _ _ _) arrived

end Named

theorem environment_location {tree : Tree} {directory : Location} {storage : Path} {found : Found}
    (finds : find tree directory false (Environment.directory storage) = .ok found) :
    found.location ≠ [] := by
  have plain : IsPlain (Text.encode "venv") := ⟨by decide, by decide⟩
  have walks := walks_of_find finds
  have names : steps (Environment.directory storage) =
      (nameSteps (storage.joinText "ansible")) ++ [Text.encode "venv"] := by
    have unended : endsInSeparator (Environment.directory storage) = false :=
      endsInSeparator_join (by decide) (by decide)
    rw [steps, unended, if_neg Bool.false_ne_true]
    exact nameSteps_join (by decide)
  rw [names] at walks
  obtain ⟨above, last⟩ := walks.named plain
  simp [last]

end AnsibleTooling.Files
