import AnsibleTooling.Settings.Basic

set_option autoImplicit false

namespace AnsibleTooling.Settings

def toolPaths (settings : Settings) : List (String × String) :=
  [("ansible.path", settings.ansible.path), ("ansibleLint.path", settings.ansibleLint.path),
    ("ansibleDoc.path", settings.ansibleDoc.path)]

def versions (settings : Settings) : List (String × Option String) :=
  [("builtin.ansibleVersion", settings.builtin.ansibleVersion),
    ("builtin.ansibleLintVersion", settings.builtin.ansibleLintVersion),
    ("builtin.yamllintVersion", settings.builtin.yamllintVersion)]

def IsBlank (path : String) : Prop :=
  ∀ char ∈ path.toList, Text.isBlank char

def Splits (version : Option String) : Prop :=
  ∃ text ∈ version, ∃ char ∈ text.toList, Text.isBlank char ∨ char ∈ [';', '=', '<', '>']

structure Plain (settings : Settings) : Prop where
  paths : ∀ entry ∈ toolPaths settings, ¬IsBlank entry.2
  versions : ∀ entry ∈ versions settings, ¬Splits entry.2

section

variable {A : Type}

def checkAll (check : String -> A -> Except Error Unit) : List (String × A) -> Except Error Unit
  | [] => pure ()
  | (key, value) :: entries => do
    check key value
    checkAll check entries

def IsFirst (bad : A -> Prop) (entries : List (String × A)) (key : String) (value : A) : Prop :=
  ∃ before after, entries = before ++ (key, value) :: after ∧ (∀ entry ∈ before, ¬bad entry.2) ∧
    bad value

variable {check : String -> A -> Except Error Unit} {bad : A -> Prop} {entries : List (String × A)}
  (checks : ∀ key value, check key value = .ok () ↔ ¬bad value)

include checks

theorem checkAll_eq_ok : checkAll check entries = .ok () ↔ ∀ entry ∈ entries, ¬bad entry.2 := by
  induction entries with
  | nil => simp [checkAll, pure, Except.pure]
  | cons entry rest ih =>
    rw [List.forall_mem_cons, <- ih, <- checks entry.1]
    simp only [checkAll, bind, Except.bind]
    cases check entry.1 entry.2 <;> simp

theorem checkAll_eq_check {key : String} {value : A} (first : IsFirst bad entries key value) :
    checkAll check entries = check key value := by
  obtain ⟨before, after, rfl, good, isBad⟩ := first
  induction before with
  | nil =>
    have refused : check key value ≠ .ok () := by simpa [checks] using isBad
    simp only [List.nil_append, checkAll, bind, Except.bind]
    cases done : check key value with
    | error => rfl
    | ok => exact absurd done refused
  | cons entry rest ih =>
    obtain ⟨goodFirst, good⟩ := List.forall_mem_cons.mp good
    simp only [List.cons_append, checkAll, (checks entry.1 entry.2).mpr goodFirst]
    exact ih good

end

theorem checkNotBlank_eq_ok (key path : String) :
    checkNotBlank key path = .ok () ↔ ¬IsBlank path := by
  simp [checkNotBlank, Text.isBlankText, IsBlank]

theorem checkVersion_eq_ok (key : String) (version : Option String) :
    checkVersion key version = .ok () ↔ ¬Splits version := by
  cases version <;> simp [checkVersion, Splits, splitsRequirement, or_assoc]

theorem validate_eq (settings : Settings) :
    settings.validate = (do
      checkAll checkNotBlank (toolPaths settings)
      checkAll checkVersion (versions settings)) := by
  simp [Settings.validate, BuiltinSettings.validate, toolPaths, versions, checkAll]

theorem validate_eq_ok {settings : Settings} : settings.validate = .ok () ↔ Plain settings := by
  have paths := @checkAll_eq_ok _ _ _ (toolPaths settings) checkNotBlank_eq_ok
  have versions := @checkAll_eq_ok _ _ _ (versions settings) checkVersion_eq_ok
  rw [validate_eq]
  cases checked : checkAll checkNotBlank (toolPaths settings) with
  | error =>
    simp only [checked, reduceCtorEq, false_iff] at paths
    simp only [bind, Except.bind, reduceCtorEq, false_iff]
    exact fun plain => paths plain.paths
  | ok =>
    constructor
    · exact fun done => ⟨paths.mp checked, versions.mp done⟩
    · exact fun plain => versions.mpr plain.versions

theorem checkNotBlank_eq_error {key path : String} (blank : IsBlank path) :
    checkNotBlank key path = .error (.configuration s!"{key} must not be empty") := by
  simpa [checkNotBlank, Text.isBlankText, IsBlank] using blank

theorem checkVersion_eq_error {key version : String} (splits : Splits (some version)) :
    checkVersion key (some version) =
      .error (.configuration s!"{key} must be a plain version string, got '{version}'") := by
  have isSplit : version.toList.any splitsRequirement := by
    simpa [Splits, splitsRequirement, or_assoc] using splits
  rw [checkVersion, if_pos isSplit]

theorem validate_blank {settings : Settings} {key path : String}
    (first : IsFirst IsBlank (toolPaths settings) key path) :
    settings.validate = .error (.configuration s!"{key} must not be empty") := by
  have refused := checkAll_eq_check checkNotBlank_eq_ok first
  obtain ⟨_, _, _, _, blank⟩ := first
  rw [validate_eq, refused, checkNotBlank_eq_error blank]
  rfl

theorem validate_splits {settings : Settings}
    (shown : ∀ entry ∈ toolPaths settings, ¬IsBlank entry.2) {key version : String}
    (first : IsFirst Splits (versions settings) key (some version)) :
    settings.validate =
      .error (.configuration s!"{key} must be a plain version string, got '{version}'") := by
  have refused := checkAll_eq_check checkVersion_eq_ok first
  obtain ⟨_, _, _, _, splits⟩ := first
  rw [validate_eq, (checkAll_eq_ok checkNotBlank_eq_ok).mpr shown]
  exact refused.trans (checkVersion_eq_error splits)

end AnsibleTooling.Settings
