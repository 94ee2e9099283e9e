import AnsibleTooling.Proofs.Checking
import AnsibleTooling.Proofs.Layouts
import AnsibleTooling.Proofs.TreeBuilding

set_option autoImplicit false

namespace AnsibleTooling.Settings

open Toml (Node Span Scalar Entry Tidy Alike find? names)

def flag? : Node -> Option Bool
  | .scalar (.boolean value) _ => some value
  | _ => none

def text? : Node -> Option String
  | .scalar (.text value) _ => some value
  | _ => none

def path? (node : Node) : Option Path :=
  (text? node).map Path.ofText

def optional {A : Type} (read : Node -> Option A) (node : Node) : Option (Option A) :=
  (read node).map some

def IsFlag (node : Node) : Prop :=
  (flag? node).isSome

def IsText (node : Node) : Prop :=
  (text? node).isSome

def ansibleLayout : Layout :=
  [("path", IsText), ("useFullyQualifiedCollectionNames", IsFlag)]

def ansibleLintLayout : Layout :=
  [("enabled", IsFlag), ("path", IsText), ("arguments", IsText)]

def ansibleDocLayout : Layout :=
  [("path", IsText), ("enableSplitRight", IsFlag)]

def pythonLayout : Layout :=
  [("interpreterPath", IsText), ("activationScript", IsText)]

def builtinLayout : Layout :=
  [("force", IsFlag), ("isWithYamllint", IsFlag), ("ansibleVersion", IsText),
    ("ansibleLintVersion", IsText), ("yamllintVersion", IsText), ("probeAnsibleDoc", IsFlag)]

def devLayout : Layout :=
  [("serverPath", IsText)]

def sections : List (String × Layout) :=
  [("ansible", ansibleLayout), ("ansibleLint", ansibleLintLayout),
    ("ansibleDoc", ansibleDocLayout), ("python", pythonLayout), ("builtin", builtinLayout),
    ("dev", devLayout)]

def layout : Layout :=
  ("enable", IsFlag) :: sections.map (fun (key, layout) => (key, layout.Section)) ++
    [("disableProgressNotifications", IsFlag)]

def ansibleOf (entries : List Entry) : AnsibleSettings :=
  let defaults : AnsibleSettings := {}
  { path := held text? entries "path" defaults.path
    useFullyQualifiedCollectionNames :=
      held flag? entries "useFullyQualifiedCollectionNames"
        defaults.useFullyQualifiedCollectionNames }

def ansibleLintOf (entries : List Entry) : AnsibleLintSettings :=
  let defaults : AnsibleLintSettings := {}
  { enabled := held flag? entries "enabled" defaults.enabled
    path := held text? entries "path" defaults.path
    arguments := held text? entries "arguments" defaults.arguments }

def ansibleDocOf (entries : List Entry) : AnsibleDocSettings :=
  let defaults : AnsibleDocSettings := {}
  { path := held text? entries "path" defaults.path
    enableSplitRight := held flag? entries "enableSplitRight" defaults.enableSplitRight }

def pythonOf (entries : List Entry) : PythonSettings :=
  let defaults : PythonSettings := {}
  { interpreterPath := held (optional path?) entries "interpreterPath" defaults.interpreterPath
    activationScript := held text? entries "activationScript" defaults.activationScript }

def builtinOf (entries : List Entry) : BuiltinSettings :=
  let defaults : BuiltinSettings := {}
  { force := held flag? entries "force" defaults.force
    isWithYamllint := held flag? entries "isWithYamllint" defaults.isWithYamllint
    ansibleVersion := held (optional text?) entries "ansibleVersion" defaults.ansibleVersion
    ansibleLintVersion :=
      held (optional text?) entries "ansibleLintVersion" defaults.ansibleLintVersion
    yamllintVersion := held (optional text?) entries "yamllintVersion" defaults.yamllintVersion
    probeAnsibleDoc := held flag? entries "probeAnsibleDoc" defaults.probeAnsibleDoc }

def devOf (entries : List Entry) : DevSettings :=
  let defaults : DevSettings := {}
  { serverPath := held (optional path?) entries "serverPath" defaults.serverPath }

def settingsOf (entries : List Entry) : Settings :=
  let defaults : Settings := {}
  { enable := held flag? entries "enable" defaults.enable
    ansible := held (sectionOf? ansibleLayout ansibleOf) entries "ansible" defaults.ansible
    ansibleLint :=
      held (sectionOf? ansibleLintLayout ansibleLintOf) entries "ansibleLint" defaults.ansibleLint
    ansibleDoc :=
      held (sectionOf? ansibleDocLayout ansibleDocOf) entries "ansibleDoc" defaults.ansibleDoc
    python := held (sectionOf? pythonLayout pythonOf) entries "python" defaults.python
    builtin := held (sectionOf? builtinLayout builtinOf) entries "builtin" defaults.builtin
    dev := held (sectionOf? devLayout devOf) entries "dev" defaults.dev
    disableProgressNotifications :=
      held flag? entries "disableProgressNotifications" defaults.disableProgressNotifications }

example : settingsOf [] = {} := rfl

section

variable {node other : Node}

@[simp] theorem boolean_eq_ok {value : Bool} :
    boolean node = .ok value ↔ flag? node = some value := by
  unfold boolean flag?
  split <;> simp [wrongType]

@[simp] theorem string_eq_ok {value : String} :
    string node = .ok value ↔ text? node = some value := by
  unfold string text?
  split <;> simp [wrongType]

@[simp] theorem filePath_eq_ok {value : Path} :
    filePath node = .ok value ↔ path? node = some value := by
  unfold filePath path? text?
  split <;> simp [wrongType]

theorem flag?_congr (alike : node.Alike other) : flag? node = flag? other := by
  cases alike with
  | scalar value => cases value <;> rfl
  | array | table | tables => rfl

theorem text?_congr (alike : node.Alike other) : text? node = text? other := by
  cases alike with
  | scalar value => cases value <;> rfl
  | array | table | tables => rfl

@[simp] theorem heeds_isFlag : Heeds IsFlag := by
  intro node other alike
  rw [IsFlag, IsFlag, flag?_congr alike]

@[simp] theorem heeds_isText : Heeds IsText := by
  intro node other alike
  rw [IsText, IsText, text?_congr alike]

end

section

variable {S : Type} {name : String}

@[simp] theorem boolean_takes {set : S -> Bool -> S} :
    Field.Takes (name, IsFlag) (Field.of name boolean set) :=
  of_takes fun node => by simp only [boolean_eq_ok, IsFlag, Option.isSome_iff_exists]

@[simp] theorem string_takes {set : S -> String -> S} :
    Field.Takes (name, IsText) (Field.of name string set) :=
  of_takes fun node => by simp only [string_eq_ok, IsText, Option.isSome_iff_exists]

@[simp] theorem filePath_takes {set : S -> Path -> S} :
    Field.Takes (name, IsText) (Field.of name filePath set) :=
  of_takes fun node => by
    simp only [filePath_eq_ok, IsText, path?, <- Option.isSome_iff_exists, Option.isSome_map]

end

section

variable {entries others : List Entry} (tidy : Tidy entries) (alike : Alike entries others)
  {key : String}

include tidy alike

theorem held_flag {default : Bool} :
    held flag? entries key default = held flag? others key default :=
  held_congr (fun _ alike => flag?_congr alike) tidy alike ..

theorem held_text {default : String} :
    held text? entries key default = held text? others key default :=
  held_congr (fun _ alike => text?_congr alike) tidy alike ..

theorem held_optionalText {default : Option String} :
    held (optional text?) entries key default = held (optional text?) others key default :=
  held_congr (fun _ alike => congrArg (Option.map some) (text?_congr alike)) tidy alike ..

theorem held_optionalPath {default : Option Path} :
    held (optional path?) entries key default = held (optional path?) others key default :=
  held_congr (fun _ alike => congrArg (Option.map some <| Option.map Path.ofText ·)
    (text?_congr alike)) tidy alike ..

theorem held_section {S : Type} {fields : List (Field S)} {initial : S} {layout : Layout}
    {of : List Entry -> S} (reads : Reads fields initial layout of) {default : S} :
    held (sectionOf? layout of) entries key default =
      held (sectionOf? layout of) others key default :=
  held_congr (fun tidy alike => reads.congr tidy alike) tidy alike ..

end

theorem ansible_reads : Reads ansibleFields {} ansibleLayout ansibleOf where
  describes := ⟨by decide, by simp [ansibleLayout, ansibleFields]⟩
  heeds := by simp [ansibleLayout]
  heeds_of tidy alike := by
    simp only [ansibleOf, held_text tidy alike, held_flag tidy alike]
  gives {entries result} tidy done := by
    have leaf {A : Type} := @held_ofEntries _ _ _ _ (by decide) _ tidy done A
    have path := leaf "path" AnsibleSettings.path text? (by simp [ansibleFields])
    have useFullyQualifiedCollectionNames := leaf "useFullyQualifiedCollectionNames"
      AnsibleSettings.useFullyQualifiedCollectionNames flag? (by simp [ansibleFields])
    cases result
    simp only [ansibleOf, AnsibleSettings.mk.injEq]
    exact ⟨path, useFullyQualifiedCollectionNames⟩

theorem ansibleLint_reads : Reads ansibleLintFields {} ansibleLintLayout ansibleLintOf where
  describes := ⟨by decide, by simp [ansibleLintLayout, ansibleLintFields]⟩
  heeds := by simp [ansibleLintLayout]
  heeds_of tidy alike := by
    simp only [ansibleLintOf, held_flag tidy alike, held_text tidy alike]
  gives {entries result} tidy done := by
    have leaf {A : Type} := @held_ofEntries _ _ _ _ (by decide) _ tidy done A
    have enabled := leaf "enabled" AnsibleLintSettings.enabled flag? (by simp [ansibleLintFields])
    have path := leaf "path" AnsibleLintSettings.path text? (by simp [ansibleLintFields])
    have arguments := leaf "arguments" AnsibleLintSettings.arguments text?
      (by simp [ansibleLintFields])
    cases result
    simp only [ansibleLintOf, AnsibleLintSettings.mk.injEq]
    exact ⟨enabled, path, arguments⟩

theorem ansibleDoc_reads : Reads ansibleDocFields {} ansibleDocLayout ansibleDocOf where
  describes := ⟨by decide, by simp [ansibleDocLayout, ansibleDocFields]⟩
  heeds := by simp [ansibleDocLayout]
  heeds_of tidy alike := by
    simp only [ansibleDocOf, held_text tidy alike, held_flag tidy alike]
  gives {entries result} tidy done := by
    have leaf {A : Type} := @held_ofEntries _ _ _ _ (by decide) _ tidy done A
    have path := leaf "path" AnsibleDocSettings.path text? (by simp [ansibleDocFields])
    have enableSplitRight := leaf "enableSplitRight" AnsibleDocSettings.enableSplitRight flag?
      (by simp [ansibleDocFields])
    cases result
    simp only [ansibleDocOf, AnsibleDocSettings.mk.injEq]
    exact ⟨path, enableSplitRight⟩

theorem python_reads : Reads pythonFields {} pythonLayout pythonOf where
  describes := ⟨by decide, by simp [pythonLayout, pythonFields]⟩
  heeds := by simp [pythonLayout]
  heeds_of tidy alike := by
    simp only [pythonOf, held_optionalPath tidy alike, held_text tidy alike]
  gives {entries result} tidy done := by
    have leaf {A : Type} := @held_ofEntries _ _ _ _ (by decide) _ tidy done A
    have interpreterPath := leaf "interpreterPath" PythonSettings.interpreterPath (optional path?)
      (by simp [pythonFields, optional])
    have activationScript := leaf "activationScript" PythonSettings.activationScript text?
      (by simp [pythonFields])
    cases result
    simp only [pythonOf, PythonSettings.mk.injEq]
    exact ⟨interpreterPath, activationScript⟩

theorem builtin_reads : Reads builtinFields {} builtinLayout builtinOf where
  describes := ⟨by decide, by simp [builtinLayout, builtinFields]⟩
  heeds := by simp [builtinLayout]
  heeds_of tidy alike := by
    simp only [builtinOf, held_flag tidy alike, held_optionalText tidy alike]
  gives {entries result} tidy done := by
    have leaf {A : Type} := @held_ofEntries _ _ _ _ (by decide) _ tidy done A
    have force := leaf "force" BuiltinSettings.force flag? (by simp [builtinFields])
    have isWithYamllint := leaf "isWithYamllint" BuiltinSettings.isWithYamllint flag?
      (by simp [builtinFields])
    have ansibleVersion := leaf "ansibleVersion" BuiltinSettings.ansibleVersion (optional text?)
      (by simp [builtinFields, optional])
    have ansibleLintVersion := leaf "ansibleLintVersion"
      BuiltinSettings.ansibleLintVersion (optional text?) (by simp [builtinFields, optional])
    have yamllintVersion := leaf "yamllintVersion" BuiltinSettings.yamllintVersion (optional text?)
      (by simp [builtinFields, optional])
    have probeAnsibleDoc := leaf "probeAnsibleDoc" BuiltinSettings.probeAnsibleDoc flag?
      (by simp [builtinFields])
    cases result
    simp only [builtinOf, BuiltinSettings.mk.injEq]
    exact ⟨force, isWithYamllint, ansibleVersion, ansibleLintVersion, yamllintVersion,
      probeAnsibleDoc⟩

theorem dev_reads : Reads devFields {} devLayout devOf where
  describes := ⟨by decide, by simp [devLayout, devFields]⟩
  heeds := by simp [devLayout]
  heeds_of tidy alike := by
    simp only [devOf, held_optionalPath tidy alike]
  gives {entries result} tidy done := by
    have leaf {A : Type} := @held_ofEntries _ _ _ _ (by decide) _ tidy done A
    have serverPath := leaf "serverPath" DevSettings.serverPath (optional path?)
      (by simp [devFields, optional])
    cases result
    simp only [devOf, DevSettings.mk.injEq]
    exact serverPath

theorem settings_reads : Reads fields {} layout settingsOf where
  describes := by
    refine ⟨by decide, ?_⟩
    simp [layout, sections, fields, ansible_reads.takes, ansibleLint_reads.takes,
      ansibleDoc_reads.takes, python_reads.takes, builtin_reads.takes, dev_reads.takes]
  heeds := by
    simp [layout, sections, ansible_reads.heeds_section, ansibleLint_reads.heeds_section,
      ansibleDoc_reads.heeds_section, python_reads.heeds_section, builtin_reads.heeds_section,
      dev_reads.heeds_section]
  heeds_of tidy alike := by
    simp only [settingsOf, held_flag tidy alike, held_section tidy alike ansible_reads,
      held_section tidy alike ansibleLint_reads, held_section tidy alike ansibleDoc_reads,
      held_section tidy alike python_reads, held_section tidy alike builtin_reads,
      held_section tidy alike dev_reads]
  gives {entries result} tidy done := by
    have leaf {A : Type} := @held_ofEntries _ _ _ _ (by decide) _ tidy done A
    have enable := leaf "enable" Settings.enable flag? (by simp [fields])
    have ansible := leaf "ansible" Settings.ansible (sectionOf? ansibleLayout ansibleOf)
      (by simpa [fields] using ansible_reads.decoded)
    have ansibleLint := leaf "ansibleLint" Settings.ansibleLint
      (sectionOf? ansibleLintLayout ansibleLintOf)
      (by simpa [fields] using ansibleLint_reads.decoded)
    have ansibleDoc := leaf "ansibleDoc" Settings.ansibleDoc
      (sectionOf? ansibleDocLayout ansibleDocOf)
      (by simpa [fields] using ansibleDoc_reads.decoded)
    have python := leaf "python" Settings.python (sectionOf? pythonLayout pythonOf)
      (by simpa [fields] using python_reads.decoded)
    have builtin := leaf "builtin" Settings.builtin (sectionOf? builtinLayout builtinOf)
      (by simpa [fields] using builtin_reads.decoded)
    have dev := leaf "dev" Settings.dev (sectionOf? devLayout devOf)
      (by simpa [fields] using dev_reads.decoded)
    have disableProgressNotifications := leaf "disableProgressNotifications"
      Settings.disableProgressNotifications flag? (by simp [fields])
    cases result
    simp only [settingsOf, Settings.mk.injEq]
    exact ⟨enable, ansible, ansibleLint, ansibleDoc, python, builtin, dev,
      disableProgressNotifications⟩

section

variable {node : Node} {items : List Node} {origin : Toml.Origin} {span : Option Span}

theorem assign_row {name : String} {part : Layout} (isSection : (name, part) ∈ sections)
    (isRow : row? node = some items) {settings result : Settings} :
    ∀ field ∈ fields, field.key = name ->
      (field.assign settings (.table origin span (paired part.keys items)) = .ok result ↔
        field.assign settings node = .ok result) := by
  simp only [sections, List.mem_cons, Prod.mk.injEq, List.not_mem_nil, or_false] at isSection
  obtain ⟨rfl, rfl⟩ | ⟨rfl, rfl⟩ | ⟨rfl, rfl⟩ | ⟨rfl, rfl⟩ | ⟨rfl, rfl⟩ | ⟨rfl, rfl⟩ := isSection
  · simp [fields, of_assign, ansible_reads.row isRow]
  · simp [fields, of_assign, ansibleLint_reads.row isRow]
  · simp [fields, of_assign, ansibleDoc_reads.row isRow]
  · simp [fields, of_assign, python_reads.row isRow]
  · simp [fields, of_assign, builtin_reads.row isRow]
  · simp [fields, of_assign, dev_reads.row isRow]

theorem decode_row {name : String} {part : Layout} (isSection : (name, part) ∈ sections)
    {before after : List Entry} {key : Toml.Key} (named : key.name = name)
    (isRow : row? node = some items) {settings : Settings} :
    decode (before ++ (key, .table origin span (paired part.keys items)) :: after) = .ok settings ↔
      decode (before ++ (key, node) :: after) = .ok settings := by
  have distinct := settings_reads.describes.apart
  have same {value result : Settings} :
      assignEntry fields value (key, .table origin span (paired part.keys items)) = .ok result ↔
        assignEntry fields value (key, node) = .ok result := by
    rw [assignEntry_eq_ok distinct, assignEntry_eq_ok distinct]
    refine exists_congr fun field => and_congr_right fun member => and_congr_right fun isNamed => ?_
    exact assign_row isSection isRow field member (isNamed.trans named)
  simp only [decode, ofEntries_append, ofEntries_cons, same]

end

section

variable {entries : List Entry} (tidy : Tidy entries)

include tidy

theorem decode_eq_ok {settings : Settings} :
    decode entries = .ok settings ↔ layout.Table entries ∧ settings = settingsOf entries := by
  constructor
  · intro done
    exact ⟨settings_reads.describes.ofEntries.mp ⟨settings, done⟩, settings_reads.gives tidy done⟩
  · rintro ⟨fits, rfl⟩
    obtain ⟨result, done⟩ := settings_reads.describes.ofEntries.mpr fits
    rwa [settings_reads.gives tidy done] at done

theorem decode_congr {others : List Entry} (alike : Alike entries others) {settings : Settings} :
    decode others = .ok settings ↔ decode entries = .ok settings := by
  rw [decode_eq_ok tidy, decode_eq_ok (tidy.alike alike),
    Layout.table_congr settings_reads.heeds alike, settings_reads.heeds_of tidy alike]

end

section

variable {document : String} {entries : List Entry} (read : Toml.parse? document = some entries)

include read

theorem parse_of_decode {settings : Settings} (decoded : decode entries = .ok settings) :
    parse document = settings.validate.map fun _ => settings := by
  simp only [parse, read, decoded, Except.mapError, bind, Except.bind]
  cases settings.validate <;> rfl

theorem parse_of_refusal {refusal : Refusal} (refused : decode entries = .error refusal) :
    parse document = .error (.toml (.refused (refusal.report document))) := by
  simp only [parse, read, refused]
  rfl

theorem parse_eq_ok {settings : Settings} :
    parse document = .ok settings ↔ decode entries = .ok settings ∧ settings.validate = .ok () := by
  cases decoded : decode entries with
  | error refusal => simp [parse_of_refusal read decoded]
  | ok held =>
    rw [parse_of_decode read decoded, Except.ok.injEq]
    cases validated : held.validate with
    | error =>
      simp only [Except.map, reduceCtorEq, false_iff]
      rintro ⟨rfl, valid⟩
      simp [validated] at valid
    | ok =>
      simp only [Except.map, Except.ok.injEq, iff_self_and]
      rintro rfl
      exact validated

end

/-- The defaults, overridden by exactly the keys present. -/
structure Overrides (entries : List Entry) : Prop where
  accepted : (∃ settings, decode entries = .ok settings) ↔ layout.Table entries
  overridden : ∀ settings, decode entries = .ok settings -> settings = settingsOf entries
  rows : ∀ name part before key node items after, (name, part) ∈ sections ->
    entries = before ++ (key, node) :: after -> key.name = name -> row? node = some items ->
    ∀ origin span settings,
      decode (before ++ (key, .table origin span (paired part.keys items)) :: after) =
        .ok settings ↔ decode entries = .ok settings
  reordered : ∀ others, Alike entries others ->
    ∀ settings, decode others = .ok settings ↔ decode entries = .ok settings

structure Checked (document : String) (entries : List Entry) : Prop where
  accepted : ∀ settings, parse document = .ok settings ↔
    layout.Table entries ∧ settings = settingsOf entries ∧ Plain settings
  refused : ¬layout.Table entries -> ∃ report, parse document = .error (.toml (.refused report))
  blank : ∀ key path, layout.Table entries ->
    IsFirst IsBlank (toolPaths (settingsOf entries)) key path ->
    parse document = .error (.configuration s!"{key} must not be empty")
  splits : ∀ key version, layout.Table entries ->
    (∀ entry ∈ toolPaths (settingsOf entries), ¬IsBlank entry.2) ->
    IsFirst Splits (versions (settingsOf entries)) key (some version) ->
    parse document =
      .error (.configuration s!"{key} must be a plain version string, got '{version}'")

theorem parse_overrides {document : String} {entries : List Entry}
    (read : Toml.parse? document = some entries) :
    Overrides entries ∧ Checked document entries := by
  have tidy := Toml.parse?_tidy read
  have decoded {settings : Settings} := @decode_eq_ok _ tidy settings
  refine ⟨?_, ?_⟩
  · constructor
    case accepted => exact settings_reads.describes.ofEntries
    case overridden => exact fun settings done => (decoded.mp done).2
    case rows =>
      rintro name part before key node items after isSection rfl named isRow origin span settings
      exact decode_row isSection named isRow
    case reordered => exact fun others alike settings => decode_congr tidy alike
  · constructor
    case accepted =>
      intro settings
      rw [parse_eq_ok read, decoded, validate_eq_ok, and_assoc]
    case refused =>
      intro unfit
      cases done : decode entries with
      | error refusal => exact ⟨_, parse_of_refusal read done⟩
      | ok settings => exact absurd (decoded.mp done).1 unfit
    case blank =>
      intro key path fits first
      rw [parse_of_decode read (decoded.mpr ⟨fits, rfl⟩), validate_blank first]
      rfl
    case splits =>
      intro key version fits shown first
      rw [parse_of_decode read (decoded.mpr ⟨fits, rfl⟩), validate_splits shown first]
      rfl

def rowDocument : String :=
  "ansibleLint = [false, \"/opt/lint\"]\n[builtin]\nansibleVersion = \"9.2.0\"\n"

theorem parse_overrides_rowDocument :
    ∃ entries, Toml.parse? rowDocument = some entries ∧
      (Overrides entries ∧ Checked rowDocument entries) ∧
      (parse rowDocument).toOption = some {
        ansibleLint := { enabled := false, path := "/opt/lint" }
        builtin := { ansibleVersion := some "9.2.0" } } := by
  have isRead : (Toml.parse? rowDocument).isSome := by decide +kernel
  obtain ⟨entries, read⟩ := Option.isSome_iff_exists.mp isRead
  exact ⟨entries, read, parse_overrides read, by decide +kernel⟩

end AnsibleTooling.Settings
