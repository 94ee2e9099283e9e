import AnsibleTooling.Proofs.Checking
import AnsibleTooling.Proofs.Display
import Mathlib.Data.Bool.AllAny
import Mathlib.Data.List.Forall2

set_option autoImplicit false

namespace AnsibleTooling

theorem Text.encode_injective : Function.Injective Text.encode :=
  Function.LeftInverse.injective Text.decode_encode

def pinned (version : Option String) : Option String :=
  version.filter fun version => !version.isEmpty

theorem requirement_eq (name : String) (version : Option String) :
    requirement name version =
      match pinned version with
      | some version => name ++ "==" ++ version
      | none => name := by
  cases version with
  | none => rfl
  | some version =>
    simp only [requirement, pinned, Option.filter_some]
    cases version.isEmpty <;> rfl

theorem requirement_inj {name : String} {version other : Option String} :
    requirement name version = requirement name other ↔ pinned version = pinned other := by
  rw [requirement_eq, requirement_eq]
  cases pinned version <;> cases pinned other <;>
    simp [String.ext_iff, String.toList_append]

/-- A requirement for a package: its name alone, or with one version after the only `==` in it. -/
structure Requires (name : String) (version : Option String) (specifier : String) : Prop where
  bare : version = none ∨ version = some "" -> specifier = name
  pins (pin : String) : version = some pin -> pin ≠ "" ->
    specifier = name ++ "==" ++ pin ∧ specifier.toList.count '=' = 2
  whole : ∀ char ∈ specifier.toList, Text.isBlank char = false ∧ char ∉ [';', '<', '>']

def IsPlain (text : String) : Prop :=
  ∀ char ∈ text.toList, Text.isBlank char = false ∧ char ∉ [';', '=', '<', '>']

theorem isPlain_of_unsplit {text : String} (unsplit : ¬ Settings.Splits (some text)) :
    IsPlain text := by
  intro char member
  constructor
  · refine Bool.eq_false_iff.mpr fun blank => unsplit ⟨text, rfl, char, member, .inl blank⟩
  · exact fun mark => unsplit ⟨text, rfl, char, member, .inr mark⟩

theorem IsPlain.count {text : String} (plain : IsPlain text) : text.toList.count '=' = 0 :=
  List.count_eq_zero.mpr fun member => (plain _ member).2 (by simp)

theorem IsPlain.whole {text : String} (plain : IsPlain text) :
    ∀ char ∈ text.toList, Text.isBlank char = false ∧ char ∉ [';', '<', '>'] := by
  intro char member
  obtain ⟨shown, unmarked⟩ := plain char member
  simp_all

theorem requires_requirement {name : String} {version : Option String} (named : IsPlain name)
    (unsplit : ¬ Settings.Splits version) : Requires name version (requirement name version) := by
  constructor
  case bare => rintro (rfl | rfl) <;> simp [requirement]
  case pins =>
    rintro pin rfl some
    have plain := isPlain_of_unsplit unsplit
    have whole : requirement name (.some pin) = name ++ "==" ++ pin := by simp [requirement, some]
    refine ⟨whole, ?_⟩
    simp [whole, String.toList_append, named.count, plain.count]
  case whole =>
    intro char member
    cases version with
    | none => exact named.whole char member
    | some pin =>
      have plain := isPlain_of_unsplit unsplit
      by_cases empty : pin = ""
      · exact named.whole char (by simpa [requirement, empty] using member)
      · simp only [requirement, String.isEmpty_iff, empty, if_false, String.toList_append,
          List.mem_append] at member
        obtain (inName | inMark) | inPin := member
        · exact named.whole char inName
        · revert char
          exact List.all_iff_forall_prop.mp (by decide)
        · exact plain.whole char inPin

namespace InstallPlan

def wanted (builtin : BuiltinSettings) : List (String × Option String) :=
  [("ansible", builtin.ansibleVersion), ("ansible-lint", builtin.ansibleLintVersion)] ++
    if builtin.isWithYamllint then [("yamllint", builtin.yamllintVersion)] else []

theorem packagesOf_eq (builtin : BuiltinSettings) :
    packagesOf builtin = (wanted builtin).map fun (name, version) => requirement name version := by
  unfold packagesOf wanted
  split <;> rfl

theorem length_packagesOf (builtin : BuiltinSettings) :
    (packagesOf builtin).length = if builtin.isWithYamllint then 3 else 2 := by
  rw [packagesOf_eq, List.length_map, wanted]
  split <;> rfl

theorem named_wanted {builtin : BuiltinSettings} :
    ∀ entry ∈ wanted builtin, entry.1 ∈ ["ansible", "ansible-lint", "yamllint"] := by
  unfold wanted
  split <;> simp

theorem unsplit_of_accepted {builtin : BuiltinSettings} (accepted : builtin.validate = .ok ()) :
    ∀ entry ∈ Settings.versions { builtin }, ¬ Settings.Splits entry.2 := by
  rw [← Settings.checkAll_eq_ok Settings.checkVersion_eq_ok, ← accepted]
  simp [BuiltinSettings.validate, Settings.versions, Settings.checkAll]

theorem wanted_unsplit {builtin : BuiltinSettings} (accepted : builtin.validate = .ok ()) :
    ∀ entry ∈ wanted builtin, IsPlain entry.1 ∧ ¬ Settings.Splits entry.2 := by
  have unsplit := unsplit_of_accepted accepted
  simp only [Settings.versions, List.forall_mem_cons] at unsplit
  obtain ⟨ansible, ansibleLint, yamllint, _⟩ := unsplit
  have named : ∀ name ∈ ["ansible", "ansible-lint", "yamllint"], IsPlain name := by
    simp only [List.forall_mem_cons]
    refine ⟨?_, ?_, ?_, List.forall_mem_nil _⟩ <;> exact List.all_iff_forall_prop.mp (by decide)
  refine fun entry member => ⟨named _ (named_wanted entry member), ?_⟩
  revert entry
  unfold wanted
  split <;> simp [*]

theorem requirement_encode (name : String) (version : Option String) :
    ∃ more, Text.encode (requirement name version) = Text.encode name ++ more := by
  rw [requirement_eq]
  cases pinned version with
  | none => exact ⟨[], (List.append_nil _).symm⟩
  | some pin => exact ⟨Text.encode ("==" ++ pin), by simp [Text.encode, String.toList_append]⟩

theorem undashed_requirement {name : String} (version : Option String)
    (named : name ∈ ["ansible", "ansible-lint", "yamllint"]) :
    ¬ Text.encode "-" <+: Text.encode (requirement name version) := by
  obtain ⟨more, begins⟩ := requirement_encode name version
  have undashed : ∀ name ∈ ["ansible", "ansible-lint", "yamllint"],
      (Text.encode "-").length ≤ (Text.encode name).length ∧
        ¬ Text.encode "-" <+: Text.encode name := by decide
  obtain ⟨short, undashed⟩ := undashed name named
  rw [begins]
  exact fun dashed =>
    undashed (List.prefix_of_prefix_length_le dashed (List.prefix_append _ more) short)

/-- What a plan asks of the package installer, by the settings it is made from. -/
structure Asks (builtin : BuiltinSettings) (plan : InstallPlan) : Prop where
  packages : List.Forall₂ (fun (name, version) specifier => Requires name version specifier)
    (wanted builtin) plan.packages
  arguments : plan.pipArguments =
    ["-m", "pip", "install", "-U", "pip"].map Text.encode ++ plan.packages.map Text.encode
  -- Nothing after the fixed arguments is an option.
  undashed : ∀ argument ∈ plan.packages.map Text.encode, ¬ Text.encode "-" <+: argument
  number : plan.packages.length = if builtin.isWithYamllint then 3 else 2

theorem make_packages (interpreter storage : Path) (platform : Platform)
    (builtin : BuiltinSettings) :
    (make interpreter storage platform builtin).packages = packagesOf builtin := rfl

theorem asks_make {builtin : BuiltinSettings} (accepted : builtin.validate = .ok ())
    (interpreter storage : Path) (platform : Platform) :
    Asks builtin (make interpreter storage platform builtin) := by
  have unsplit := wanted_unsplit accepted
  constructor
  case packages =>
    rw [make_packages, packagesOf_eq, List.forall₂_map_right_iff, List.forall₂_same]
    exact fun entry member => requires_requirement (unsplit entry member).1 (unsplit entry member).2
  case arguments => exact List.map_append
  case undashed =>
    intro argument member
    rw [make_packages, packagesOf_eq, List.map_map] at member
    obtain ⟨entry, wants, rfl⟩ := List.mem_map.mp member
    exact undashed_requirement entry.2 (named_wanted entry wants)
  case number => exact length_packagesOf builtin

structure Agree (builtin other : BuiltinSettings) : Prop where
  yamllint : builtin.isWithYamllint = other.isWithYamllint
  ansible : pinned builtin.ansibleVersion = pinned other.ansibleVersion
  ansibleLint : pinned builtin.ansibleLintVersion = pinned other.ansibleLintVersion
  yamllintVersion : builtin.isWithYamllint = true ->
    pinned builtin.yamllintVersion = pinned other.yamllintVersion

theorem packagesOf_inj {builtin other : BuiltinSettings} :
    packagesOf builtin = packagesOf other ↔ Agree builtin other := by
  constructor
  · intro same
    have flag : builtin.isWithYamllint = other.isWithYamllint := by
      have number := congrArg List.length same
      rw [length_packagesOf, length_packagesOf] at number
      cases wanted : builtin.isWithYamllint <;> cases also : other.isWithYamllint <;>
        simp_all
    simp only [packagesOf, List.cons_append, List.nil_append, List.cons.injEq, requirement_inj,
      ← flag] at same
    obtain ⟨ansible, ansibleLint, yamllint⟩ := same
    refine ⟨flag, ansible, ansibleLint, fun wanted => ?_⟩
    simpa [wanted, requirement_inj] using yamllint
  · rintro ⟨flag, ansible, ansibleLint, yamllint⟩
    simp only [packagesOf, List.cons_append, List.nil_append, List.cons.injEq, requirement_inj,
      ← flag]
    refine ⟨ansible, ansibleLint, ?_⟩
    split
    next wanted => rw [requirement_inj.mpr (yamllint wanted)]
    next => rfl

theorem pipArguments_inj {plan other : InstallPlan} :
    plan.pipArguments = other.pipArguments ↔ plan.packages = other.packages := by
  unfold pipArguments
  rw [(List.map_injective_iff.mpr Text.encode_injective).eq_iff, List.append_cancel_left_eq]

theorem make_asks {builtin : BuiltinSettings} (accepted : builtin.validate = .ok ())
    (interpreter storage : Path) (platform : Platform) :
    Asks builtin (make interpreter storage platform builtin) ∧
      ∀ (other : BuiltinSettings) (python place : Path) (target : Platform),
        (make interpreter storage platform builtin).pipArguments =
          (make python place target other).pipArguments ↔ Agree builtin other := by
  refine ⟨asks_make accepted interpreter storage platform, fun other python place target => ?_⟩
  rw [pipArguments_inj, make_packages, make_packages, packagesOf_inj]

def variousVersions : BuiltinSettings :=
  { isWithYamllint := true, ansibleVersion := "9.2.0", ansibleLintVersion := ""
    yamllintVersion := "-é,1!" }

theorem make_asks_various :
    variousVersions.validate = .ok () ∧
      Asks variousVersions (make (Path.ofText "/bin/python3") (Path.ofText "/srv") .posix
        variousVersions) ∧
      Agree variousVersions { variousVersions with ansibleLintVersion := none } := by
  have accepted : variousVersions.validate = .ok () := by decide +kernel
  obtain ⟨asks, told⟩ :=
    make_asks accepted (Path.ofText "/bin/python3") (Path.ofText "/srv") .posix
  exact ⟨accepted, asks,
    (told _ (Path.ofText "/bin/python3") (Path.ofText "/srv") .posix).mp (by decide +kernel)⟩

end InstallPlan

end AnsibleTooling
