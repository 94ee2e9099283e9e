import AnsibleTooling.Proofs.Directories

set_option autoImplicit false

namespace AnsibleTooling

namespace Path

theorem split_of_clean {name : Bytes} (clean : separator ∉ name) : split name = [name] := by
  induction name with
  | nil => rfl
  | cons byte rest ih =>
    rw [List.mem_cons, not_or] at clean
    have other : (byte == separator) = false := by simpa using Ne.symm clean.1
    simp [split, ih clean.2, other]

theorem split_separator (rest : Bytes) : split (separator :: rest) = [] :: split rest :=
  split_append_separator [] rest

def joined (first : Bytes) (rest : List Bytes) : Bytes :=
  first ++ rest.flatMap (separator :: ·)

theorem joined_cons (first name : Bytes) (rest : List Bytes) :
    joined first (name :: rest) = first ++ separator :: joined name rest := by
  simp [joined]

theorem split_joined {first : Bytes} {rest : List Bytes}
    (clean : ∀ name ∈ first :: rest, separator ∉ name) : split (joined first rest) = first :: rest := by
  induction rest generalizing first with
  | nil => simp [joined, split_of_clean (clean first (by simp))]
  | cons name others ih =>
    rw [joined_cons, split_append_separator, split_of_clean (clean first (by simp)),
      ih fun other member => clean other (List.mem_cons_of_mem first member)]
    rfl

theorem clean_split (bytes : Bytes) : ∀ part ∈ split bytes, separator ∉ part := by
  rw [split_eq]
  exact Files.clean_splitAtByte separator bytes

theorem split_subset (bytes : Bytes) : ∀ part ∈ split bytes, part ⊆ bytes := by
  induction bytes with
  | nil => simp [split]
  | cons byte rest ih =>
    have grown {part : Bytes} (within : part ⊆ rest) : part ⊆ byte :: rest :=
      List.Subset.trans within (List.subset_cons_self byte rest)
    rw [split]
    cases parts : split rest with
    | nil => exact absurd parts (split_ne_nil rest)
    | cons part others =>
      rw [parts, List.forall_mem_cons] at ih
      have later : ∀ part ∈ others, part ⊆ byte :: rest := fun part member =>
        grown (ih.2 part member)
      dsimp only
      split
      next => exact List.forall_mem_cons.mpr ⟨by simp, List.forall_mem_cons.mpr ⟨grown ih.1, later⟩⟩
      next => exact List.forall_mem_cons.mpr ⟨List.cons_subset_cons byte ih.1, later⟩

theorem mem_joined {byte : UInt8} {first : Bytes} {rest : List Bytes}
    (member : byte ∈ joined first rest) : byte = separator ∨ ∃ name ∈ first :: rest, byte ∈ name := by
  rw [joined, List.mem_append, List.mem_flatMap] at member
  rcases member with within | ⟨name, named, within⟩
  · exact .inr ⟨first, List.mem_cons_self, within⟩
  · rcases List.mem_cons.mp within with same | within
    · exact .inl same
    · exact .inr ⟨name, List.mem_cons_of_mem first named, within⟩

def span : List Bytes -> Nat
  | [] => 0
  | name :: rest => name.length + 1 + span rest

theorem span_split (bytes : Bytes) : span (split bytes) = bytes.length + 1 := by
  induction bytes with
  | nil => rfl
  | cons byte rest ih =>
    rw [split]
    cases parts : split rest with
    | nil => exact absurd parts (split_ne_nil rest)
    | cons part others =>
      rw [parts, span] at ih
      dsimp only
      split <;> simp only [span, List.length_cons, List.length_nil] <;> omega

theorem length_joined (first : Bytes) (rest : List Bytes) :
    (joined first rest).length + 1 = span (first :: rest) := by
  induction rest generalizing first with
  | nil => simp [joined, span]
  | cons name others ih =>
    rw [joined_cons, List.length_append, List.length_cons, span, ← ih]
    omega

theorem span_le {names more : List Bytes} (within : names.Sublist more) :
    span names ≤ span more := by
  induction within with
  | slnil => exact Nat.le_refl _
  | cons name _ ih => rw [span]; omega
  | cons_cons name _ ih => rw [span, span]; omega

end Path

namespace Files

/-- Some names without some of those that lead nowhere else. -/
inductive Thinned : List Bytes -> List Bytes -> Prop
  | nil : Thinned [] []
  | keep {names fewer} (name : Bytes) : Thinned names fewer -> Thinned (name :: names) (name :: fewer)
  | skip {names fewer} (name : Bytes) (stays : (name.isEmpty || name == Path.here) = true) :
    Thinned names fewer -> Thinned (name :: names) fewer

namespace Thinned

variable {names fewer : List Bytes}

theorem refl (names : List Bytes) : Thinned names names := by
  induction names with
  | nil => exact .nil
  | cons name _ ih => exact .keep name ih

theorem before (first : List Bytes) (thinned : Thinned names fewer) :
    Thinned (first ++ names) (first ++ fewer) := by
  induction first with
  | nil => exact thinned
  | cons name _ ih => exact .keep name ih

theorem separated (thinned : Thinned names fewer) : Thinned (names ++ [[]]) fewer := by
  induction thinned with
  | nil => exact .skip [] rfl .nil
  | keep name _ ih => exact .keep name ih
  | skip name stays _ ih => exact .skip name stays ih

theorem filtered (keep : Bytes -> Bool) (stays : ∀ name ∈ names, keep name = false ->
    (name.isEmpty || name == Path.here) = true) : Thinned names (names.filter keep) := by
  induction names with
  | nil => exact .nil
  | cons name rest ih =>
    rw [List.forall_mem_cons] at stays
    cases kept : keep name with
    | true =>
      rw [List.filter_cons_of_pos kept]
      exact .keep name (ih stays.2)
    | false =>
      rw [List.filter_cons_of_neg (by simp [kept])]
      exact .skip name (stays.1 kept) (ih stays.2)

theorem sublist (thinned : Thinned names fewer) : fewer.Sublist names := by
  induction thinned with
  | nil => exact .slnil
  | keep name _ ih => exact .cons_cons name ih
  | skip name _ _ ih => exact .cons name ih

end Thinned

def Stop.Precedes : Stop -> Stop -> Prop
  | .arrived location, stop => stop = .arrived location
  | .atLink parent target rest, stop =>
    ∃ fewer, Thinned rest fewer ∧ stop = .atLink parent target fewer
  | .missing .., _ | .failed _, _ => True

theorem Thinned.advance {tree : Tree} {place : Location} {names fewer : List Bytes}
    (thinned : Thinned names fewer) :
    (advance tree true place names).Precedes (advance tree true place fewer) := by
  induction thinned generalizing place with
  | nil => rfl
  | skip name stays _ ih =>
    rw [Files.advance]
    split
    next => trivial
    next => simpa only [stays, if_true] using ih
  | keep name thinned ih =>
    simp only [Files.advance, Bool.not_true, Bool.and_false, Bool.false_eq_true, if_false]
    split
    next => trivial
    split
    next => exact ih
    split
    next => exact ih
    split
    next => trivial
    split
    next => split <;> trivial
    next => exact ⟨_, thinned, rfl⟩
    next => exact ih

theorem Walks.thinned {tree : Tree} {links : Nat} {place last : Location}
    {names fewer : List Bytes} (walks : Walks tree true links place names (.taken last))
    (thinned : Thinned names fewer) : Walks tree true links place fewer (.taken last) := by
  generalize arrived : Spot.taken last = spot at walks
  -- Behind a link the names left out are still left out, after those of the target.
  induction walks generalizing fewer with
  | misses => cases arrived
  | @arrives _ place _ _ stop =>
    have stops : (Files.advance tree true place _).Precedes _ := thinned.advance
    rw [stop] at stops
    cases arrived
    exact .arrives stops
  | @follows _ place _ _ _ _ _ stop named _ ih =>
    have stops : (Files.advance tree true place _).Precedes _ := thinned.advance
    rw [stop] at stops
    obtain ⟨less, thinned, stops⟩ := stops
    exact .follows stops named (ih (thinned.before _) arrived)

section Lineage

variable {path : Path} {names : List Bytes}

theorem thinned_lineage (path : Path) : Thinned (nameSteps path) (lineage path) := by
  have thinned (parts : List Bytes) : Thinned (parts.filter fun part => !part.isEmpty)
      (parts.filter fun part => !part.isEmpty && part != Path.here) := by
    have filtered : Thinned (parts.filter fun part => !part.isEmpty)
        ((parts.filter fun part => !part.isEmpty).filter (· != Path.here)) :=
      .filtered _ (by simp +contextual)
    rwa [List.filter_filter, funext fun part => Bool.and_comm _ _] at filtered
  unfold lineage nameSteps Path.names
  split
  next first rest parts =>
    rw [parts]
    split
    next here =>
      -- Of the names that only stay where they are, a path's lineage has this one.
      obtain rfl := eq_of_beq here
      exact .keep _ (thinned rest)
    next => exact thinned _
  next parts =>
    rw [parts]
    exact .nil

def AreNames (names : List Bytes) : Prop :=
  ∀ name ∈ names, name ≠ [] ∧ Path.separator ∉ name

theorem areNames_lineage (path : Path) : AreNames (lineage path) := by
  intro name member
  have step := (thinned_lineage path).sublist.subset member
  obtain ⟨part, some⟩ := List.mem_filter.mp step
  exact ⟨by simpa using some, Path.clean_split _ _ part⟩

theorem bytes_ofLineage (absolute : Bool) (first : Bytes) (rest : List Bytes) :
    (ofLineage absolute (first :: rest)).bytes =
      (if absolute then [Path.separator] else []) ++ Path.joined first rest := by
  cases absolute <;> simp [ofLineage, Path.ofNames, Path.joined]

theorem nameSteps_ofLineage (absolute : Bool) (named : AreNames names) (some : names ≠ []) :
    nameSteps (ofLineage absolute names) = names := by
  obtain ⟨first, rest, rfl⟩ := List.exists_cons_of_ne_nil some
  have joined := Path.split_joined fun name member => (named name member).2
  have kept : (first :: rest).filter (fun part => !part.isEmpty) = first :: rest := by
    rw [List.filter_eq_self]
    intro name member
    simpa using (named name member).1
  rw [nameSteps, Path.parts, bytes_ofLineage]
  cases absolute with
  | false =>
    rw [if_neg Bool.false_ne_true, List.nil_append, joined]
    exact kept
  | true =>
    rw [if_pos rfl, List.singleton_append, Path.split_separator, joined]
    exact kept

theorem isAbsolute_ofLineage (absolute : Bool) (named : AreNames names) (some : names ≠ []) :
    (ofLineage absolute names).isAbsolute = absolute := by
  obtain ⟨first, rest, rfl⟩ := List.exists_cons_of_ne_nil some
  obtain ⟨nonempty, clean⟩ := named first (by simp)
  obtain ⟨byte, bytes, rfl⟩ := List.exists_cons_of_ne_nil nonempty
  rw [List.mem_cons, not_or] at clean
  rw [Path.isAbsolute, bytes_ofLineage]
  cases absolute <;> simp [Path.joined, Ne.symm clean.1]

theorem span_nameSteps (path : Path) :
    Path.span (nameSteps path) + (if path.isAbsolute then 1 else 0) ≤ path.bytes.length + 1 := by
  obtain ⟨bytes⟩ := path
  have size := Path.span_split
  have all (parts : List Bytes) : Path.span (parts.filter fun part => !part.isEmpty) ≤
      Path.span parts := Path.span_le List.filter_sublist
  rw [nameSteps, Path.parts]
  split
  next absolute =>
    -- What is before the first separator is no name.
    obtain ⟨rest, rfl⟩ : ∃ rest, bytes = Path.separator :: rest := by
      simpa [Path.isAbsolute, List.head?_eq_some_iff] using absolute
    have below := all (Path.split rest)
    rw [size] at below
    rw [Path.split_separator]
    exact Nat.succ_le_succ below
  next => exact Nat.le_trans (all _) (Nat.le_of_eq (size _))

theorem isUsable_ofLineage (usable : IsUsable path) (some : names ≠ [])
    (within : names.Sublist (lineage path)) : IsUsable (ofLineage path.isAbsolute names) := by
  have named : AreNames names := fun name member => areNames_lineage path name (within.subset member)
  have steps := within.trans (thinned_lineage path).sublist
  have size := Nat.le_trans (Nat.add_le_add_right (Path.span_le steps) _) (span_nameSteps path)
  obtain ⟨first, rest, rfl⟩ := List.exists_cons_of_ne_nil some
  have length := Path.length_joined first rest
  constructor
  case whole =>
    have whole := usable.whole
    rw [← Bool.not_eq_true, List.contains_iff_mem] at whole ⊢
    rw [bytes_ofLineage, List.mem_append]
    rintro (zero | zero)
    · split at zero
      next => exact absurd (List.mem_singleton.mp zero) (by decide)
      next => cases zero
    · rcases Path.mem_joined zero with zero | ⟨name, member, zero⟩
      · exact absurd zero (by decide)
      · have part := (List.mem_filter.mp (steps.subset member)).1
        exact whole (Path.split_subset _ name part zero)
  case short =>
    have short := usable.short
    have mark : (if path.isAbsolute then [Path.separator] else []).length =
        if path.isAbsolute then 1 else 0 := by split <;> rfl
    rw [bytes_ofLineage, List.length_append, mark]
    omega
  case named =>
    obtain ⟨nonempty, _⟩ := named first (by simp)
    rw [Path.isEmpty, bytes_ofLineage]
    simp [Path.joined, nonempty]

theorem ancestors_isDirectory {tree : Tree} {directory : Location} {ancestor : Path}
    (there : isDirectory tree directory path = true) (member : ancestor ∈ ancestors path) :
    isDirectory tree directory ancestor = true := by
  obtain ⟨usable, place, walks, standing⟩ := (leadsTo_iff _).mp there
  have thinned : Thinned (steps path) (lineage path) := by
    unfold steps
    split
    · exact (thinned_lineage path).separated
    · exact thinned_lineage path
  have walks := walks.thinned thinned
  unfold ancestors at member
  dsimp only at member
  split at member
  next => cases member
  next some =>
  rcases List.mem_cons.mp member with rfl | member
  · exact there
  obtain ⟨count, counted, rfl⟩ := List.mem_map.mp member
  rw [List.mem_reverse, List.mem_range] at counted
  -- There is a name after those of the ancestor, so that the walk has come by it.
  rw [← List.take_append_drop (count + 1) (lineage path)] at walks
  obtain ⟨middle, walks, standing⟩ := walks.before (by simp; omega)
  have within := List.take_sublist (count + 1) (lineage path)
  have some : (lineage path).take (count + 1) ≠ [] := by
    rw [Ne, List.take_eq_nil_iff]
    simpa using some
  have named : AreNames ((lineage path).take (count + 1)) := fun name member =>
    areNames_lineage path name (within.subset member)
  refine isDirectory_of_walks (isUsable_ofLineage usable some within) ?_ standing
  rwa [start, isAbsolute_ofLineage _ named some, nameSteps_ofLineage _ named some]

end Lineage

end Files

end AnsibleTooling
