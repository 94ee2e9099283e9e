import AnsibleTooling.Proofs.Lineages
import AnsibleTooling.Proofs.Removal

set_option autoImplicit false

namespace AnsibleTooling.Files

def visits (tree : Tree) : Location -> List Bytes -> List Location
  | place, [] => [place]
  | place, name :: rest =>
    place ::
      if name.isEmpty || name == Path.here then visits tree place rest
      else if name == Path.above then visits tree place.dropLast rest
      else
        match (tree.lookup (place ++ [name])).map Node.entry with
        | none => []
        | some entry =>
          if entry.isLink then [place ++ [name]] else visits tree (place ++ [name]) rest

/-- A walk comes by a location or by something below it, if need be behind a link. -/
inductive Passes (tree : Tree) (location : Location) : Location -> List Bytes -> Prop
  | here {place names} (visited : Location) (member : visited ∈ visits tree place names)
    (within : location <+: visited) : Passes tree location place names
  | beyond {place names parent target rest}
    (stop : advance tree true place names = .atLink parent target rest)
    (goesOn : Passes tree location (if target.isAbsolute then [] else parent)
      (steps target ++ rest)) : Passes tree location place names

section Removed

variable {tree left : Tree} {location place last : Location} {names : List Bytes} {links : Nat}

theorem isLink_eq_false {entry : Entry} (plain : ∀ target, entry = .link target -> False) :
    entry.isLink = false := by
  cases entry with
  | link target => exact (plain target rfl).elim
  | _ => rfl

theorem start_mem_visits : place ∈ visits tree place names := by
  cases names with
  | nil => exact List.mem_singleton_self place
  | cons name rest => exact List.mem_cons_self

theorem arrived_mem_visits (arrives : advance tree true place names = .arrived last) :
    last ∈ visits tree place names := by
  induction names generalizing place with
  | nil =>
    cases arrives
    exact start_mem_visits
  | cons name rest ih =>
    rw [advance] at arrives
    rw [visits]
    refine List.mem_cons_of_mem place ?_
    split at arrives
    next => cases arrives
    split at arrives
    next stays => simpa only [stays, if_true] using ih arrives
    next kept =>
    split at arrives
    next above => simpa only [kept, above, if_true, Bool.false_eq_true, if_false] using ih arrives
    next below =>
    split at arrives
    next => cases arrives
    simp only [kept, below, Bool.false_eq_true, if_false]
    split at arrives
    next => split at arrives <;> cases arrives
    next => simp at arrives
    next entry plain present =>
      simp only [present, isLink_eq_false plain, Bool.false_eq_true, if_false]
      exact ih arrives

variable (erased : Erased tree left location) (some : location ≠ [])
include erased

theorem Erased.clear (clear : ∀ visited ∈ visits tree place names, ¬ location <+: visited) :
    advance left true place names = advance tree true place names := by
  induction names generalizing place with
  | nil => rfl
  | cons name rest ih =>
    rw [visits, List.forall_mem_cons] at clear
    obtain ⟨outside, clear⟩ := clear
    have standing : left.isDirectory place = tree.isDirectory place := by
      rw [Bool.eq_iff_iff, isDirectory_eq_true, isDirectory_eq_true,
        erased.entry_kept (erased.keeps place outside)]
    rw [advance, advance, standing]
    split
    next => rfl
    split at clear
    next stays =>
      simp only [stays, if_true]
      exact ih clear
    next kept =>
    simp only [kept, Bool.false_eq_true, if_false]
    split at clear
    next above =>
      simp only [above, if_true]
      exact ih clear
    next below =>
    simp only [below, Bool.false_eq_true, if_false]
    -- What is found there is the same in both trees, as it is not below the location.
    have same : (left.lookup (place ++ [name])).map Node.entry =
        (tree.lookup (place ++ [name])).map Node.entry := by
      cases present : (tree.lookup (place ++ [name])).map Node.entry with
      | none =>
        rcases erased.entry_cases (place ++ [name]) with same | absent
        · rw [same, present]
        · rw [absent]
          rfl
      | some entry =>
        rw [← present]
        rw [present] at clear
        dsimp only at clear
        refine erased.entry_kept (erased.keeps _ (clear _ ?_))
        split
        · exact List.mem_singleton_self _
        · exact start_mem_visits
    rw [same]
    split
    next => rfl
    split
    next => rfl
    next => rfl
    next entry plain present =>
      simp only [present, isLink_eq_false plain, Bool.false_eq_true, if_false] at clear
      exact ih clear

include some

theorem Erased.hit {visited : Location} (member : visited ∈ visits tree place names)
    (within : location <+: visited) : (advance left true place names).IsVain left := by
  -- The walk gets no further than to what is missing now, or stops even before it.
  have gone : left.lookup visited = none := by
    refine erased.lookup_gone within ?_
    rintro rfl
    exact some (List.prefix_nil.mp within)
  induction names generalizing place with
  | nil =>
    obtain rfl := List.mem_singleton.mp member
    exact gone
  | cons name rest ih =>
    cases standing : left.isDirectory place with
    | false => exact vain_nowhere standing
    | true =>
      rw [visits] at member
      rcases List.mem_cons.mp member with rfl | member
      · rw [isDirectory_eq_true, gone] at standing
        cases standing
      split at member
      next stays =>
        simpa only [advance, standing, stays, Bool.not_true, Bool.false_eq_true, if_false, if_true]
          using ih member
      next kept =>
      split at member
      next above =>
        simpa only [advance, standing, kept, above, Bool.not_true, Bool.false_eq_true, if_false,
          if_true] using ih member
      next below =>
      rcases erased.entry_cases (place ++ [name]) with same | absent
      · simp only [advance, standing, kept, below, same, Bool.not_true, Bool.false_eq_true, if_false]
        split at member
        next => cases member
        next entry present =>
          split at member
          next =>
            obtain rfl := List.mem_singleton.mp member
            rw [gone, present] at same
            cases same
          next plain =>
            split
            next => trivial
            split
            next absent => cases present.symm.trans absent
            next target link =>
              cases present.symm.trans link
              cases plain rfl
            next => exact ih member
      · exact vain_absent kept below absent

theorem Erased.misses (passes : Passes tree location place names)
    (walks : Walks left true links place names (.taken last)) : left.lookup last = none := by
  induction passes generalizing links with
  | here visited member within =>
    have vain := erased.hit some member within
    cases walks with
    | arrives ends => rwa [ends] at vain
    | follows ends => rw [ends] at vain; exact vain.elim
  | @beyond place names _ _ _ stop _ ih =>
    have agreement : advance left true place names = advance tree true place names ∨
      (advance left true place names).IsVain left := erased.agrees
    rcases agreement with agrees | vain
    · rw [stop] at agrees
      cases walks with
      | arrives ends => rw [ends] at agrees; cases agrees
      | follows ends _ goesOn =>
        rw [ends] at agrees
        cases agrees
        exact ih goesOn
    · cases walks with
      | arrives ends => rwa [ends] at vain
      | follows ends => rw [ends] at vain; exact vain.elim

omit some in
theorem Erased.keeps_walk (clear : ¬ Passes tree location place names)
    (walks : Walks tree true links place names (.taken last)) :
    Walks left true links place names (.taken last) ∧
      (left.lookup last).map Node.entry = (tree.lookup last).map Node.entry := by
  generalize arrived : Spot.taken last = spot at walks
  induction walks with
  | misses => cases arrived
  | arrives stop =>
    cases arrived
    have outside visited member : ¬ location <+: visited := fun within =>
      clear (.here visited member within)
    refine ⟨.arrives (by rw [erased.clear outside, stop]), ?_⟩
    exact erased.entry_kept (erased.keeps last (outside last (arrived_mem_visits stop)))
  | follows stop named _ ih =>
    have outside visited member : ¬ location <+: visited := fun within =>
      clear (.here visited member within)
    obtain ⟨walks, same⟩ := ih (fun passes => clear (.beyond stop passes)) arrived
    exact ⟨.follows (by rw [erased.clear outside, stop]) named walks, same⟩

theorem Erased.exists_iff {directory : Location} {path : Path}
    (there : exists? tree directory path = true) :
    exists? left directory path = true ↔
      ¬ Passes tree location (start directory path) (steps path) := by
  rw [exists_eq_leadsTo] at there ⊢
  obtain ⟨usable, last, walks, found⟩ := (leadsTo_iff _).mp there
  constructor
  · intro leads passes
    obtain ⟨_, place, walks, found⟩ := (leadsTo_iff _).mp leads
    rw [erased.misses some passes walks] at found
    cases found
  · intro clear
    obtain ⟨walks, same⟩ := erased.keeps_walk clear walks
    refine (leadsTo_iff _).mpr ⟨usable, last, walks, ?_⟩
    cases stands : tree.lookup last with
    | none =>
      rw [stands] at found
      cases found
    | some node =>
      rw [stands] at same
      obtain ⟨kept, stands, _⟩ := Option.map_eq_some_iff.mp same
      rw [stands]
      rfl

end Removed

def Stands (tree : Tree) (place : Location) : Prop :=
  ∃ entry, (tree.lookup place).map Node.entry = some entry ∧ entry.isLink = false

theorem stands_of_isDirectory {tree : Tree} {place : Location}
    (standing : tree.isDirectory place = true) : Stands tree place :=
  ⟨.directory, isDirectory_eq_true.mp standing, rfl⟩

/-- A place as it is found by names alone: below directories, and not at a link. -/
structure IsGrounded (tree : Tree) (place : Location) : Prop where
  plain : ∀ name ∈ place, IsPlain name ∧ name.length ≤ longestName ∧ Path.separator ∉ name
  above : ∀ front name rest, place = front ++ name :: rest -> tree.isDirectory front = true
  stands : place ≠ [] -> Stands tree place

section Grounded

variable {tree : Tree} {place last location : Location} {names : List Bytes} {links : Nat}

theorem grounded_nil : IsGrounded tree [] := by
  refine ⟨by simp, fun front name rest whole => ?_, by simp⟩
  simp at whole

theorem IsGrounded.dropLast (grounded : IsGrounded tree place) : IsGrounded tree place.dropLast := by
  rcases List.eq_nil_or_concat place with rfl | ⟨front, name, whole⟩
  · exact grounded
  rw [List.concat_eq_append] at whole
  subst whole
  rw [List.dropLast_concat]
  have standing := grounded.above front name [] rfl
  constructor
  case plain => exact fun other member => grounded.plain other (List.mem_append_left _ member)
  case above =>
    rintro first other rest rfl
    exact grounded.above first other (rest ++ [name]) (by simp)
  case stands => exact fun _ => stands_of_isDirectory standing

theorem IsGrounded.append {name : Bytes} (grounded : IsGrounded tree place)
    (standing : tree.isDirectory place = true) (plain : IsPlain name)
    (short : name.length ≤ longestName) (clean : Path.separator ∉ name)
    (stands : Stands tree (place ++ [name])) : IsGrounded tree (place ++ [name]) := by
  constructor
  case plain =>
    rw [List.forall_mem_append]
    exact ⟨grounded.plain, by simpa using ⟨plain, short, clean⟩⟩
  case above =>
    intro front other rest whole
    rcases List.eq_nil_or_concat rest with rfl | ⟨rest, last, split⟩
    · have same := List.append_inj_left' whole rfl
      rwa [← same]
    · rw [split, List.concat_eq_append] at whole
      have ends : place ++ [name] = (front ++ other :: rest) ++ [last] := by simpa using whole
      exact grounded.above front other rest (List.append_inj_left' ends rfl)
  case stands => exact fun _ => stands

def Stop.Grounds (tree : Tree) : Stop -> Prop
  | .arrived place => IsGrounded tree place
  | .atLink parent _ rest => IsGrounded tree parent ∧ ∀ name ∈ rest, Path.separator ∉ name
  | .missing .. | .failed _ => True

theorem IsGrounded.stops (grounded : IsGrounded tree place)
    (clean : ∀ name ∈ names, Path.separator ∉ name) :
    (advance tree true place names).Grounds tree := by
  induction names generalizing place with
  | nil => exact grounded
  | cons name rest ih =>
    obtain ⟨nameClean, clean⟩ := List.forall_mem_cons.mp clean
    rw [advance]
    cases standing : tree.isDirectory place with
    | false => trivial
    | true =>
      simp only [Bool.not_true, Bool.and_false, Bool.false_eq_true, if_false]
      split
      next => exact ih grounded clean
      next kept =>
      split
      next => exact ih grounded.dropLast clean
      next below =>
      split
      next => trivial
      next short =>
      split
      next => split <;> trivial
      next => exact ⟨grounded, clean⟩
      next entry plain present =>
        exact ih (grounded.append standing ⟨by simpa using kept, by simpa using below⟩
          (Nat.le_of_not_lt short) nameClean ⟨entry, present, isLink_eq_false plain⟩) clean

theorem clean_steps (path : Path) : ∀ name ∈ steps path, Path.separator ∉ name := by
  have clean : ∀ name ∈ nameSteps path, Path.separator ∉ name := fun name member =>
    Path.clean_split _ _ (List.mem_filter.mp member).1
  unfold steps
  split
  · exact List.forall_mem_append.mpr ⟨clean, by simp⟩
  · exact clean

theorem Walks.grounded (walks : Walks tree true links place names (.taken last))
    (grounded : IsGrounded tree place) (clean : ∀ name ∈ names, Path.separator ∉ name) :
    IsGrounded tree last := by
  generalize arrived : Spot.taken last = spot at walks
  induction walks with
  | misses => cases arrived
  | arrives stop =>
    cases arrived
    have grounds := grounded.stops clean
    rwa [stop] at grounds
  | @follows _ _ _ _ target _ _ stop named _ ih =>
    have grounds := grounded.stops clean
    rw [stop] at grounds
    refine ih ?_ (List.forall_mem_append.mpr ⟨clean_steps target, grounds.2⟩) arrived
    split
    · exact grounded_nil
    · exact grounds.1

theorem IsGrounded.straight (grounded : IsGrounded tree (place ++ names)) :
    advance tree true place names = .arrived (place ++ names) ∧
      ∀ visited ∈ visits tree place names, visited <+: place ++ names := by
  induction names generalizing place with
  | nil =>
    rw [List.append_nil]
    exact ⟨rfl, fun visited member => List.mem_singleton.mp member ▸ List.prefix_rfl⟩
  | cons name rest ih =>
    have whole : place ++ name :: rest = place ++ [name] ++ rest := by simp
    have standing := grounded.above place name rest rfl
    obtain ⟨plain, short, _⟩ := grounded.plain name (by simp)
    have stands : Stands tree (place ++ [name]) := by
      cases rest with
      | nil => exact grounded.stands (by simp)
      | cons next rest =>
        exact stands_of_isDirectory (grounded.above (place ++ [name]) next rest (by simp))
    obtain ⟨entry, present, unlinked⟩ := stands
    rw [whole] at grounded ⊢
    obtain ⟨arrives, visited⟩ := ih grounded
    constructor
    · rw [← arrives, advance]
      simp only [standing, plain.kept, plain.below, Nat.not_lt.mpr short, Bool.not_true,
        Bool.false_eq_true, if_false, present]
      cases entry with
      | link target => cases unlinked
      | _ => rfl
    · rw [visits]
      simp only [plain.kept, plain.below, present, unlinked, Bool.false_eq_true, if_false]
      exact List.forall_mem_cons.mpr ⟨⟨name :: rest, by simp⟩, visited⟩

theorem steps_ofNames (named : AreNames names) (some : names ≠ []) :
    steps (Path.ofNames names) = names := by
  have whole : nameSteps (Path.ofNames names) = names := nameSteps_ofLineage true named some
  have unended : endsInSeparator (Path.ofNames names) = false := by
    rcases List.eq_nil_or_concat names with empty | ⟨front, name, split⟩
    · exact absurd empty some
    rw [List.concat_eq_append] at split
    subst split
    obtain ⟨nonempty, clean⟩ := named name (by simp)
    have last := List.getLast?_eq_some_getLast nonempty
    have other : name.getLast nonempty ≠ Path.separator := fun same =>
      clean (same ▸ List.getLast_mem nonempty)
    simp [endsInSeparator, Path.ofNames, List.getLast?_append, List.getLast?_cons, last, other]
  rw [steps, unended, if_neg Bool.false_ne_true, whole]

theorem start_ofNames (directory : Location) (names : List Bytes) :
    start directory (Path.ofNames names) = [] := by
  have absolute : (Path.ofNames names).isAbsolute = true := by
    cases names <;> rfl
  rw [start, absolute, if_pos rfl]

theorem canonicalize_eq_ok {directory : Location} {path real : Path}
    (canonical : canonicalize tree directory path = .ok real) :
    ∃ last, real = Path.ofNames last ∧
      Walks tree true linkLimit (start directory path) (steps path) (.taken last) := by
  unfold canonicalize at canonical
  cases located : locateFrom tree directory true path (steps path) with
  | error failure => rw [located] at canonical; cases canonical
  | ok spot =>
    rw [located] at canonical
    cases spot with
    | free parent name => cases canonical
    | taken last =>
      dsimp only [bind, Except.bind] at canonical
      split at canonical
      next => cases canonical
      next =>
        cases canonical
        refine ⟨last, rfl, walk_eq_ok.mp ?_⟩
        unfold locateFrom at located
        split at located
        next => cases located
        split at located
        next => cases located
        next => exact located

theorem IsGrounded.straight_steps (grounded : IsGrounded tree place)
    (walks : Walks tree true links [] (steps (Path.ofNames place)) (.taken last)) :
    advance tree true [] (steps (Path.ofNames place)) = .arrived place ∧
      ∀ visited ∈ visits tree [] (steps (Path.ofNames place)), visited <+: place := by
  by_cases root : place = []
  · subst root
    have separator : steps (Path.ofNames []) = [[]] := rfl
    rw [separator] at walks ⊢
    cases standing : tree.isDirectory [] with
    | false =>
      have fails : advance tree true [] [[]] = .failed .notDirectory := by
        simp [advance, standing]
      cases walks with
      | arrives stop | follows stop => cases fails.symm.trans stop
    | true => exact ⟨by simp [advance, standing], by simp [visits]⟩
  · have named : AreNames place := fun name member => by
      obtain ⟨plain, _, clean⟩ := grounded.plain name member
      refine ⟨?_, clean⟩
      rintro rfl
      cases plain.kept
    rw [steps_ofNames named root]
    exact @IsGrounded.straight tree [] place grounded

theorem passes_canonical {directory : Location} {found path : Path}
    (grounded : IsGrounded tree (start directory found))
    (canonical : canonicalize tree directory found = .ok path)
    (there : exists? tree directory path = true) :
    ∃ place, path = Path.ofNames place ∧
      ∀ location, Passes tree location (start directory path) (steps path) ↔ location <+: place := by
  obtain ⟨place, rfl, walks⟩ := canonicalize_eq_ok canonical
  refine ⟨place, rfl, fun location => ?_⟩
  have grounded := walks.grounded grounded (clean_steps found)
  rw [exists_eq_leadsTo] at there
  obtain ⟨_, last, walks, _⟩ := (leadsTo_iff _).mp there
  rw [start_ofNames] at walks ⊢
  obtain ⟨arrives, visited⟩ := grounded.straight_steps walks
  constructor
  · intro passes
    cases passes with
    | here other member within => exact within.trans (visited other member)
    | beyond stop => cases arrives.symm.trans stop
  · exact .here place (arrived_mem_visits arrives)

end Grounded

end AnsibleTooling.Files
