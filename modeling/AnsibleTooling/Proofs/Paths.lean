import AnsibleTooling.Environment
import AnsibleTooling.Files.Search
import AnsibleTooling.Files.Walk

set_option autoImplicit false

namespace AnsibleTooling

namespace Files

theorem splitAtByte_ne_nil (separator : UInt8) (bytes : Bytes) :
    splitAtByte separator bytes ≠ [] := by
  cases bytes with
  | nil => simp [splitAtByte]
  | cons byte rest =>
    simp only [splitAtByte]
    split
    · simp
    · split <;> simp

theorem clean_splitAtByte (separator : UInt8) (bytes : Bytes) :
    ∀ part ∈ splitAtByte separator bytes, separator ∉ part := by
  induction bytes with
  | nil => simp [splitAtByte]
  | cons byte rest ih =>
    rw [splitAtByte]
    cases parts : splitAtByte separator rest with
    | nil => exact absurd parts (splitAtByte_ne_nil separator rest)
    | cons part others =>
      rw [parts, List.forall_mem_cons] at ih
      dsimp only
      split
      next => exact List.forall_mem_cons.mpr ⟨by simp, List.forall_mem_cons.mpr ih⟩
      next other =>
        refine List.forall_mem_cons.mpr ⟨?_, ih.2⟩
        rw [List.mem_cons, not_or]
        exact ⟨fun same => other (by simp [same]), ih.1⟩

end Files

namespace Path

theorem split_eq (bytes : Bytes) : split bytes = Files.splitAtByte separator bytes := by
  induction bytes with
  | nil => rfl
  | cons byte rest ih =>
    rw [split, ih]
    rfl

theorem split_ne_nil (bytes : Bytes) : split bytes ≠ [] := by
  rw [split_eq]
  exact Files.splitAtByte_ne_nil separator bytes

theorem split_append_separator (first second : Bytes) :
    split (first ++ separator :: second) = split first ++ split second := by
  induction first with
  | nil =>
    cases parts : split second with
    | nil => exact absurd parts (split_ne_nil second)
    | cons part others => simp [split, parts]
  | cons byte rest ih =>
    rw [List.cons_append, split, ih, split]
    cases parts : split rest with
    | nil => exact absurd parts (split_ne_nil rest)
    | cons part others =>
      simp only [List.cons_append]
      split <;> rfl

theorem takeWhile_ne_dot {tail : Bytes} (undotted : dot ∉ tail) (rest : Bytes) :
    (tail ++ dot :: rest).takeWhile (· != dot) = tail := by
  have all : ∀ byte ∈ tail, (byte != dot) = true := by
    intro byte member
    simp only [bne_iff_ne]
    rintro rfl
    exact undotted member
  rw [List.takeWhile_append_of_pos all]
  simp

theorem extension?_eq_some {path : Path} {extension : Bytes} :
    path.extension? = some extension ↔
      ∃ stem, path.fileName? = some (stem ++ dot :: extension) ∧ stem ≠ [] ∧ dot ∉ extension := by
  unfold extension?
  cases named : path.fileName? with
  | none => simp
  | some name =>
    simp only [Option.bind_eq_bind, Option.bind_some, Option.some.injEq]
    constructor
    · intro found
      split at found
      next enough =>
        cases found
        -- Read backwards, the name is its extension, a dot, and what precedes the dot.
        have parts := List.takeWhile_append_dropWhile (p := (· != dot)) (l := name.reverse)
        have undotted : dot ∉ name.reverse.takeWhile (· != dot) := fun member => by
          simpa using List.all_eq_true.mp List.all_takeWhile dot member
        have stops := List.head?_dropWhile_not (· != dot) name.reverse
        generalize name.reverse.takeWhile (· != dot) = tail at *
        generalize name.reverse.dropWhile (· != dot) = left at *
        rcases left with _ | ⟨byte, stem⟩
        · rw [List.append_nil] at parts
          rw [parts, List.length_reverse] at enough
          omega
        · obtain rfl : byte = dot := by simpa using stops
          have name_eq : name = stem.reverse ++ dot :: tail.reverse := by
            simpa using (congrArg List.reverse parts).symm
          refine ⟨stem.reverse, name_eq, ?_, by simpa using undotted⟩
          rintro empty
          simp [name_eq, empty] at enough
      next => cases found
    · rintro ⟨stem, rfl, some, undotted⟩
      have reversed : (stem ++ dot :: extension).reverse =
          extension.reverse ++ dot :: stem.reverse := by simp
      rw [reversed, takeWhile_ne_dot (by simpa using undotted), if_pos]
      · simp
      · have := List.length_pos_iff.mpr some
        simp
        omega

end Path

namespace Files

structure IsBelow (base path : Path) : Prop where
  bytes : base.bytes <+: path.bytes
  names : ∃ more, more ≠ [] ∧ nameSteps path = nameSteps base ++ more

theorem IsBelow.trans {base middle path : Path} (first : IsBelow base middle)
    (second : IsBelow middle path) : IsBelow base path := by
  obtain ⟨more, some, names⟩ := first.names
  obtain ⟨others, _, further⟩ := second.names
  exact ⟨first.bytes.trans second.bytes, more ++ others, by simp [some], by simp [names, further]⟩

theorem nameSteps_join {base part : Path} (relative : part.isAbsolute = false) :
    nameSteps (base.join part) = nameSteps base ++ nameSteps part := by
  unfold Path.join
  simp only [relative, Bool.false_eq_true, if_false]
  split
  next ends =>
    rw [Bool.or_eq_true] at ends
    rcases ends with empty | ends
    · simp [List.isEmpty_iff.mp empty, nameSteps, Path.parts, Path.split]
    · obtain ⟨front, whole⟩ := List.getLast?_eq_some_iff.mp (eq_of_beq ends)
      simp [whole, nameSteps, Path.parts, Path.split_append_separator, Path.split]
  next => simp [nameSteps, Path.parts, Path.split_append_separator]

theorem endsInSeparator_join {base part : Path} (relative : part.isAbsolute = false)
    (some : part.bytes ≠ []) : endsInSeparator (base.join part) = endsInSeparator part := by
  have ends := List.getLast?_eq_some_getLast some
  unfold endsInSeparator Path.join
  simp only [relative, Bool.false_eq_true, if_false]
  split <;> simp [List.getLast?_append, List.getLast?_cons, ends]

theorem isBelow_join {base part : Path} (relative : part.isAbsolute = false)
    (named : nameSteps part ≠ []) : IsBelow base (base.join part) := by
  refine ⟨?_, _, named, nameSteps_join relative⟩
  unfold Path.join
  simp only [relative, Bool.false_eq_true, if_false]
  split <;> exact List.prefix_append _ _

theorem isBelow_joinText (base : Path) {part : String}
    (relative : (Path.ofText part).isAbsolute = false)
    (named : nameSteps (Path.ofText part) ≠ []) : IsBelow base (base.joinText part) :=
  isBelow_join relative named

theorem isBelow_tool (storage : Path) (platform : Platform) (tool : Tool) :
    IsBelow storage (Environment.tool storage platform tool) := by
  refine (isBelow_joinText storage ?_ ?_).trans ((isBelow_joinText _ ?_ ?_).trans
    ((isBelow_joinText _ ?_ ?_).trans (isBelow_joinText _ ?_ ?_))) <;>
    cases platform <;> cases tool <;> decide

structure IsUsable (path : Path) : Prop where
  whole : path.bytes.contains 0 = false
  short : path.bytes.length ≤ longestPath
  named : path.isEmpty = false

variable {base path : Path}

theorem IsBelow.isAbsolute (below : IsBelow base path) (named : base.isEmpty = false) :
    base.isAbsolute = path.isAbsolute := by
  obtain ⟨rest, whole⟩ := below.bytes
  cases first : base.bytes with
  | nil => simp [Path.isEmpty, first] at named
  | cons byte others => simp [Path.isAbsolute, ← whole, first]

theorem IsUsable.of_below (below : IsBelow base path) (usable : IsUsable path)
    (named : base.isEmpty = false) : IsUsable base := by
  constructor
  case whole =>
    have whole := usable.whole
    rw [← Bool.not_eq_true, List.contains_iff_mem] at whole ⊢
    exact fun member => whole (below.bytes.subset member)
  case short => exact Nat.le_trans below.bytes.length_le usable.short
  case named => exact named

end Files

def Path.Continues (isKind : UInt8 -> Bool) (base path : Path) : Prop :=
  ∃ tail, path.bytes = base.bytes ++ tail ∧ tail.all isKind = true

section Continues

variable {isKind : UInt8 -> Bool}

theorem Path.Continues.trans {base middle path : Path} (first : Path.Continues isKind base middle)
    (second : Path.Continues isKind middle path) : Path.Continues isKind base path := by
  obtain ⟨tail, bytes, kind⟩ := first
  obtain ⟨more, further, moreKind⟩ := second
  refine ⟨tail ++ more, by rw [further, bytes, List.append_assoc], ?_⟩
  rw [List.all_append, kind, moreKind]
  rfl

theorem Path.joinText_continues (base : Path) {part : String}
    (relative : (Path.ofText part).isAbsolute = false)
    (kind : (Path.separator :: Text.encode part).all isKind = true) :
    Path.Continues isKind base (base.joinText part) := by
  rw [List.all_cons, Bool.and_eq_true] at kind
  unfold Path.joinText Path.join
  simp only [relative, Bool.false_eq_true, if_false]
  split
  next => exact ⟨_, rfl, kind.2⟩
  next => exact ⟨_, rfl, by simpa [Path.ofText] using kind⟩

def isPlainByte (byte : UInt8) : Bool :=
  byte < 128 && byte != Files.colon

theorem Environment.binDirectory_continues (storage : Path) (platform : Platform) :
    Path.Continues isPlainByte storage (Environment.binDirectory storage platform) := by
  refine (Path.joinText_continues storage ?_ ?_).trans ((Path.joinText_continues _ ?_ ?_).trans
    (Path.joinText_continues _ ?_ ?_)) <;> cases platform <;> decide

end Continues

end AnsibleTooling
