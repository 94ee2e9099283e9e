import AnsibleTooling.Proofs.Pointers
import AnsibleTooling.Proofs.Serving

set_option autoImplicit false

namespace AnsibleTooling.Configuration

open Json (Value Member)
open Json.Pointer (unescape step)

def sections (configuration : Configuration) : List (String × List Member) := [
  ("ansible", [
    ("path", .text configuration.ansiblePath),
    ("useFullyQualifiedCollectionNames", .bool configuration.useFullyQualifiedCollectionNames)]),
  ("ansibleLint", [
    ("enabled", .bool configuration.lintEnabled),
    ("path", .text configuration.lintPath),
    ("arguments", .text configuration.lintArguments)]),
  ("python", [
    ("interpreterPath", .text configuration.interpreterPath),
    ("activationScript", .text configuration.activationScript)])]

def separates (char : Char) : Bool :=
  char == '.' || char == '/'

inductive Names (configuration : Configuration) : String -> Value -> Prop
  | part {name : String} {settings : List Member}
    (isPart : (name, settings) ∈ configuration.sections) :
    Names configuration ("ansible." ++ name) (.ofMembers settings)
  | setting {name key : String} {settings : List Member} {value : Value} {separator : Char}
    (isPart : (name, settings) ∈ configuration.sections) (separator_separates : separates separator)
    (isSetting : (key, value) ∈ settings) :
    Names configuration ("ansible." ++ name ++ separator.toString ++ key) value

inductive Answers (configuration : Configuration) (item : Value) : Value -> Prop
  | wrapped (unnamed : ∀ name, item.get? "section" ≠ some (.text name)) :
    Answers configuration item (.object [("ansible", configuration.toJson)])
  | whole (named : item.get? "section" = some (.text "ansible")) :
    Answers configuration item configuration.toJson
  | found {name : String} {value : Value} (named : item.get? "section" = some (.text name))
    (names : Names configuration name value) : Answers configuration item value
  | missing {name : String} (named : item.get? "section" = some (.text name))
    (other : name ≠ "ansible") (nothing : ∀ value, ¬ Names configuration name value) :
    Answers configuration item .null

def segments (chars : List Char) : List (List Char) :=
  chars.splitOnP separates

inductive IsVain (name : String) : Prop
  | escaped (escaped : '~' ∈ name.toList)
  | gapped (gapped : [] ∈ segments name.toList)
  -- The first segment is that of the configuration itself.
  | deep (deep : 3 < (segments name.toList).length)
  | foreign (other : name ≠ "ansible") (foreign : ¬ "ansible.".toList <+: name.toList)

theorem segments_eq_cons {chars first : List Char} {others : List (List Char)}
    (parts : segments chars = first :: others) :
    (chars = first ∧ others = []) ∨
      ∃ separator rest, separates separator ∧ chars = first ++ separator :: rest ∧
        segments rest = others := by
  induction chars generalizing first with
  | nil =>
    cases parts
    exact .inl ⟨rfl, rfl⟩
  | cons char rest ih =>
    rw [segments, List.splitOnP_cons_eq_if_modifyHead] at parts
    split at parts
    next char_separates =>
      cases parts
      exact .inr ⟨char, rest, char_separates, rfl, rfl⟩
    next =>
      cases after : segments rest with
      | nil => exact (List.splitOnP_ne_nil _ _ after).elim
      | cons part more =>
        rw [← segments, after] at parts
        cases parts
        rcases ih after with ⟨rfl, rfl⟩ | ⟨separator, rest, separates, rfl, rfl⟩
        · exact .inl ⟨rfl, rfl⟩
        · exact .inr ⟨separator, rest, separates, rfl, rfl⟩

theorem segments_eq_singleton {chars first : List Char} (single : segments chars = [first]) :
    chars = first := by
  rcases segments_eq_cons single with ⟨same, _⟩ | ⟨_, rest, _, _, none⟩
  · exact same
  · exact (List.splitOnP_ne_nil _ _ none).elim

def slashed (char : Char) : Char :=
  if char == '.' then '/' else char

theorem splitOnP_slashed (chars : List Char) :
    (chars.map slashed).splitOnP (· == '/') = segments chars := by
  unfold segments
  induction chars with
  | nil => rfl
  | cons char rest ih =>
    rw [List.map_cons, List.splitOnP_cons_eq_if_modifyHead, List.splitOnP_cons_eq_if_modifyHead, ih]
    by_cases isDot : char = '.'
    · simp [slashed, separates, isDot]
    · by_cases isSlash : char = '/' <;> simp [slashed, separates, isDot, isSlash]

theorem pointer?_slashed (value : Value) (chars : List Char) :
    value.pointer? (String.ofList ('/' :: chars.map slashed)) =
      ((segments chars).map unescape).foldlM step value := by
  have split : ('/' :: chars.map slashed).splitOnP (· == '/') = [] :: segments chars := by
    rw [List.splitOnP_cons_eq_if_modifyHead, splitOnP_slashed]
    rfl
  unfold Value.pointer?
  rw [String.toList_ofList, Json.Pointer.splitAtChar_eq, List.splitOn_eq_splitOnP, split]

theorem pointer?_append (rest : String) :
    pointer? ("ansible." ++ rest) = some (String.ofList ('/' :: rest.toList.map slashed)) := by
  have start : sectionName ++ "." = "ansible." := rfl
  unfold pointer?
  simp only [start, String.toList_append]
  rw [if_pos (by simp), List.drop_left' (by rfl)]
  rfl

theorem pointer?_eq_none {name : String} (foreign : ¬ "ansible.".toList <+: name.toList) :
    pointer? name = none := by
  have start : sectionName ++ "." = "ansible." := rfl
  unfold pointer?
  simp only [start]
  rw [if_neg (by simpa using foreign)]

theorem exists_eq_append {name : String} (own : "ansible.".toList <+: name.toList) :
    ∃ rest : String, name = "ansible." ++ rest := by
  obtain ⟨rest, whole⟩ := own
  exact ⟨String.ofList rest, String.toList_inj.mp (by simpa using whole.symm)⟩

def IsPlain (name : String) : Prop :=
  name.toList ≠ [] ∧ ∀ char ∈ name.toList, char ≠ '~' ∧ separates char = false

structure IsPart (part : String × List Member) : Prop where
  plain : IsPlain part.1
  distinct : (part.2.map Prod.fst).Nodup
  keys : ∀ setting ∈ part.2, IsPlain setting.1
  -- Nothing lies below a setting.
  flat : ∀ setting ∈ part.2, ∀ token, step setting.2 token = none

variable {configuration : Configuration} {name : String} {settings : List Member} {value : Value}

namespace IsPlain

variable (plain : IsPlain name)
include plain

theorem unescape_eq {token : List Char} :
    unescape token = name ↔ token = name.toList := by
  refine Json.Pointer.unescape_eq ?_ ?_
  · exact fun member => (plain.2 _ member).1 rfl
  · exact fun member => by simpa [separates] using (plain.2 _ member).2

theorem segments_eq : segments name.toList = [name.toList] :=
  List.splitOnP_eq_singleton fun char member => (plain.2 char member).2

theorem segments_append {separator : Char} (separator_separates : separates separator)
    (rest : List Char) :
    segments (name.toList ++ separator :: rest) = name.toList :: segments rest :=
  List.splitOnP_append_cons_of_forall_mem (fun char member => (plain.2 char member).2) _
    separator_separates _

theorem unmarked : '~' ∉ name.toList :=
  fun member => (plain.2 _ member).1 rfl

end IsPlain

theorem isPart_of_mem {part : String × List Member} (isPart : part ∈ configuration.sections) :
    IsPart part := by
  simp only [sections, List.mem_cons, List.not_mem_nil, or_false] at isPart
  rcases isPart with rfl | rfl | rfl <;> constructor
  case inl.plain | inr.inl.plain | inr.inr.plain => simp [IsPlain, separates]
  case inl.distinct | inr.inl.distinct | inr.inr.distinct => simp
  case inl.keys | inr.inl.keys | inr.inr.keys => simp [IsPlain, separates]
  case inl.flat | inr.inl.flat | inr.inr.flat => simp [step]

theorem isPlain_whole : IsPlain "ansible" := by
  simp [IsPlain, separates]

theorem toJson_eq : configuration.toJson =
    .ofMembers (configuration.sections.map fun part => (part.1, .ofMembers part.2)) := rfl

theorem step_toJson {token : List Char} :
    step configuration.toJson (unescape token) = some value ↔
      ∃ name settings, (name, settings) ∈ configuration.sections ∧ token = name.toList ∧
        value = .ofMembers settings := by
  have distinct : ((configuration.sections.map fun part =>
    (part.1, Value.ofMembers part.2)).map Prod.fst).Nodup := by simp [sections]
  rw [toJson_eq]
  refine (Value.get?_ofMembers distinct).trans ?_
  simp only [List.mem_map, Prod.mk.injEq, Prod.exists]
  constructor
  · rintro ⟨name, settings, isPart, named, rfl⟩
    exact ⟨name, settings, isPart, (isPart_of_mem isPart).plain.unescape_eq.mp named.symm, rfl⟩
  · rintro ⟨name, settings, isPart, named, rfl⟩
    exact ⟨name, settings, isPart, ((isPart_of_mem isPart).plain.unescape_eq.mpr named).symm, rfl⟩

theorem step_part (isPart : (name, settings) ∈ configuration.sections) {token : List Char} :
    step (.ofMembers settings) (unescape token) = some value ↔
      ∃ key, (key, value) ∈ settings ∧ token = key.toList := by
  obtain ⟨_, distinct, keys, _⟩ := isPart_of_mem isPart
  refine (Value.get?_ofMembers distinct).trans ?_
  constructor
  · exact fun held => ⟨_, held, (keys _ held).unescape_eq.mp rfl⟩
  · rintro ⟨key, held, named⟩
    rwa [(keys _ held).unescape_eq.mpr named]

inductive Leads (configuration : Configuration) : List (List Char) -> Value -> Prop
  | part {name : String} {settings : List Member}
    (isPart : (name, settings) ∈ configuration.sections) :
    Leads configuration [name.toList] (.ofMembers settings)
  | setting {name key : String} {settings : List Member} {value : Value}
    (isPart : (name, settings) ∈ configuration.sections) (isSetting : (key, value) ∈ settings) :
    Leads configuration [name.toList, key.toList] value

theorem leads_iff {first : List Char} {others : List (List Char)} :
    ((first :: others).map unescape).foldlM step configuration.toJson =
        some value ↔ Leads configuration (first :: others) value := by
  rw [List.map_cons, List.foldlM_cons, Option.bind_eq_bind, Option.bind_eq_some_iff]
  simp only [step_toJson]
  constructor
  · rintro ⟨_, ⟨name, settings, isPart, rfl, rfl⟩, rest⟩
    rcases others with _ | ⟨second, others⟩
    · cases rest
      exact .part isPart
    · rw [List.map_cons, List.foldlM_cons, Option.bind_eq_bind, Option.bind_eq_some_iff] at rest
      simp only [step_part isPart] at rest
      obtain ⟨found, ⟨key, isSetting, rfl⟩, rest⟩ := rest
      rcases others with _ | ⟨third, others⟩
      · cases rest
        exact .setting isPart isSetting
      · -- Settings are no objects, so that a third segment leads nowhere.
        rw [List.map_cons, List.foldlM_cons,
          (isPart_of_mem isPart).flat _ isSetting (unescape third)] at rest
        cases rest
  · intro leads
    cases leads with
    | part isPart => exact ⟨_, ⟨_, _, isPart, rfl, rfl⟩, rfl⟩
    | setting isPart isSetting =>
      refine ⟨_, ⟨_, _, isPart, rfl, rfl⟩, ?_⟩
      rw [List.map_cons, List.foldlM_cons, (step_part isPart).mpr ⟨_, isSetting, rfl⟩]
      rfl

def find? (configuration : Configuration) (name : String) : Option Value :=
  (pointer? name).bind configuration.toJson.pointer?

theorem find?_append {rest : String} : configuration.find? ("ansible." ++ rest) = some value ↔
    Leads configuration (segments rest.toList) value := by
  rw [find?, pointer?_append, Option.bind_some, pointer?_slashed]
  cases parts : segments rest.toList with
  | nil => exact (List.splitOnP_ne_nil _ _ parts).elim
  | cons first others => exact leads_iff

theorem Names.exists_leads (names : Names configuration name value) :
    ∃ rest : String, name = "ansible." ++ rest ∧ '~' ∉ rest.toList ∧
      Leads configuration (segments rest.toList) value := by
  cases names with
  | @part name settings isPart =>
    have plain := (isPart_of_mem isPart).plain
    refine ⟨name, rfl, plain.unmarked, ?_⟩
    rw [plain.segments_eq]
    exact .part isPart
  | @setting name key settings value separator isPart separates isSetting =>
    have plain := (isPart_of_mem isPart).plain
    have key_plain := (isPart_of_mem isPart).keys _ isSetting
    have chars : (name ++ (separator.toString ++ key)).toList =
        name.toList ++ separator :: key.toList := by simp
    refine ⟨name ++ (separator.toString ++ key), by simp only [String.append_assoc], ?_, ?_⟩
    · rw [chars, List.mem_append, List.mem_cons]
      rintro (member | rfl | member)
      · exact plain.unmarked member
      · cases separates
      · exact key_plain.unmarked member
    · rw [chars, plain.segments_append separates, key_plain.segments_eq]
      exact .setting isPart isSetting

theorem find?_eq_some : configuration.find? name = some value ↔ Names configuration name value := by
  constructor
  · intro found
    by_cases own : "ansible.".toList <+: name.toList
    · -- The name is put together again from the segments that it was split into.
      obtain ⟨rest, rfl⟩ := exists_eq_append own
      have leads := find?_append.mp found
      generalize parts : segments rest.toList = named at leads
      cases leads with
      | part isPart =>
        rw [String.toList_inj.mp (segments_eq_singleton parts)]
        exact .part isPart
      | @setting name key settings value isPart isSetting =>
        obtain ⟨_, none⟩ | ⟨separator, last, separates, whole, final⟩ := segments_eq_cons parts
        · cases none
        rw [segments_eq_singleton final] at whole
        have rest_eq : rest = name ++ separator.toString ++ key := by
          apply String.toList_inj.mp
          simp [whole]
        rw [rest_eq, ← String.append_assoc, ← String.append_assoc]
        exact .setting isPart separates isSetting
    · simp [find?, pointer?_eq_none own] at found
  · intro names
    obtain ⟨rest, rfl, _, leads⟩ := names.exists_leads
    exact find?_append.mpr leads

theorem Leads.few {named : List (List Char)} (leads : Leads configuration named value) :
    named.length ≤ 2 ∧ [] ∉ named := by
  cases leads with
  | part isPart => simp [(isPart_of_mem isPart).plain.1.symm]
  | setting isPart isSetting =>
    simp [(isPart_of_mem isPart).plain.1.symm, ((isPart_of_mem isPart).keys _ isSetting).1.symm]

theorem Names.not_vain (names : Names configuration name value) : ¬ IsVain name := by
  obtain ⟨rest, rfl, unmarked, leads⟩ := names.exists_leads
  obtain ⟨few, whole⟩ := leads.few
  have chars : ("ansible." ++ rest).toList = "ansible".toList ++ '.' :: rest.toList := by simp
  have split : segments ("ansible".toList ++ '.' :: rest.toList) = _ :=
    isPlain_whole.segments_append rfl rest.toList
  rintro (escaped | gapped | deep | ⟨_, foreign⟩)
  · rw [chars, List.mem_append, List.mem_cons] at escaped
    rcases escaped with member | marked | member
    · exact isPlain_whole.unmarked member
    · cases marked
    · exact unmarked member
  · rw [chars, split, List.mem_cons] at gapped
    exact gapped.elim (fun empty => isPlain_whole.1 empty.symm) whole
  · rw [chars, split, List.length_cons] at deep
    omega
  · exact foreign (by simp)

theorem not_isVain_whole : ¬ IsVain "ansible" := by
  rintro (escaped | gapped | deep | ⟨other, _⟩)
  · exact isPlain_whole.unmarked escaped
  · rw [isPlain_whole.segments_eq, List.mem_singleton] at gapped
    exact isPlain_whole.1 gapped.symm
  · rw [isPlain_whole.segments_eq, List.length_singleton] at deep
    omega
  · exact other rfl

theorem answerItem_named {item : Value} (named : item.get? "section" = some (.text name)) :
    configuration.answerItem item =
      if name = "ansible" then configuration.toJson else (configuration.find? name).getD .null := by
  simp only [answerItem, named, Option.bind_some, Value.text?, sectionName, beq_iff_eq, find?]

theorem answerItem_unnamed {item : Value}
    (unnamed : ∀ name, item.get? "section" ≠ some (.text name)) :
    configuration.answerItem item = configuration.wrapped := by
  have silent : (item.get? "section").bind Value.text? = none := by
    cases asked : item.get? "section" with
    | none => rfl
    | some value =>
      cases value with
      | text name => exact absurd asked (unnamed name)
      | _ => rfl
  simp only [answerItem, silent]

theorem answers_answerItem (item : Value) :
    configuration.Answers item (configuration.answerItem item) := by
  by_cases unnamed : ∀ name, item.get? "section" ≠ some (.text name)
  · rw [answerItem_unnamed unnamed]
    exact .wrapped unnamed
  · push Not at unnamed
    obtain ⟨name, named⟩ := unnamed
    rw [answerItem_named named]
    split
    next whole => exact .whole (whole ▸ named)
    next other =>
      cases found : configuration.find? name with
      | some value => exact .found named (find?_eq_some.mp found)
      | none =>
        exact .missing named other fun value names => by simp [find?_eq_some.mpr names] at found

theorem answerItem_vain {item : Value} (named : item.get? "section" = some (.text name))
    (vain : IsVain name) : configuration.answerItem item = .null := by
  have other : name ≠ "ansible" := by
    rintro rfl
    exact not_isVain_whole vain
  rw [answerItem_named named, if_neg other]
  cases found : configuration.find? name with
  | some value => exact absurd vain (find?_eq_some.mp found).not_vain
  | none => rfl

theorem answers_iff {item answer : Value} :
    configuration.Answers item answer ↔ configuration.answerItem item = answer := by
  constructor
  · intro answers
    cases answers with
    | wrapped unnamed => exact answerItem_unnamed unnamed
    | whole named => rw [answerItem_named named, if_pos rfl]
    | @found name value named names =>
      have other : name ≠ "ansible" := by
        rintro rfl
        obtain ⟨rest, same, _⟩ := names.exists_leads
        simpa using congrArg String.toList same
      rw [answerItem_named named, if_neg other, find?_eq_some.mpr names]
      rfl
    | @missing name named other nothing =>
      have none : configuration.find? name = none :=
        Option.eq_none_iff_forall_ne_some.mpr fun value found =>
          nothing value (find?_eq_some.mp found)
      rw [answerItem_named named, if_neg other, none]
      rfl
  · rintro rfl
    exact answers_answerItem item

theorem answer_unlisted {parameters : Value}
    (missing : ∀ items, parameters.get? "items" ≠ some (.array items)) :
    configuration.answer parameters = .array [] := by
  have none : (parameters.get? "items").bind Value.items? = none := by
    cases given : parameters.get? "items" with
    | none => rfl
    | some value =>
      cases value with
      | array items => exact absurd given (missing items)
      | _ => rfl
  rw [answer, none]
  rfl

def pushes (messages : List Rpc.Message) : List Rpc.Notification :=
  (Rpc.notifications messages).filter fun told => told.method == "workspace/didChangeConfiguration"

section

variable {clientId : Nat} {launch : ServerLaunch} {history : List Rpc.Event}

variable (clientId launch) in
def opening : List Rpc.Message :=
  [Rpc.openingRequest clientId launch, Rpc.openedNotice, Rpc.settingsNotice launch]

theorem attempts_opened (opened : Rpc.Opened clientId launch history) :
    Rpc.attempts history = opening clientId launch := by
  have nothing : Rpc.attempts [] = [] := rfl
  cases opened
  simp [opening, nothing]

theorem attempts_refused (refused : Rpc.Refused clientId launch history) :
    Rpc.attempts history <+: opening clientId launch := by
  have nothing : Rpc.attempts [] = [] := rfl
  cases refused <;> simp [opening, nothing]

theorem parameters_of_mem_pushes {messages : List Rpc.Message} {told : Rpc.Notification}
    (early : messages <+: opening clientId launch) (isPush : told ∈ pushes messages) :
    told.parameters = Rpc.Talk.settingsParameters launch.configuration := by
  have inOpening : told ∈ pushes (opening clientId launch) :=
    ((early.filterMap _).filter _).subset isPush
  rw [List.mem_singleton.mp inOpening]

end

/-- The answers to what is asked, whatever that is. -/
structure Answering (configuration : Configuration) : Prop where
  -- Each item has an answer of its own, whatever the others are.
  listed {parameters : Value} {items : List Value}
    (given : parameters.get? "items" = some (.array items)) :
    configuration.answer parameters = .array (items.map configuration.answerItem)
  unlisted {parameters : Value} (missing : ∀ items, parameters.get? "items" ≠ some (.array items)) :
    configuration.answer parameters = .array []
  answers {item answer : Value} :
    configuration.answerItem item = answer ↔ configuration.Answers item answer
  vain {item : Value} {name : String} (named : item.get? "section" = some (.text name))
    (vain : IsVain name) : configuration.answerItem item = .null

structure Telling (launch : ServerLaunch) : Prop where
  pushed {W : Type} (wire : Rpc.Wire W) (clientId : Nat) (far : W) {told : Rpc.Notification}
    (isPush : told ∈ pushes (Rpc.attempts
      ((Rpc.Talk.handshake wire clientId launch).perform { far }).2.history)) :
    ∃ settings, told.parameters = .object [("settings", settings)] ∧
      (∀ item : Value, (∀ name, item.get? "section" ≠ some (.text name)) ->
        launch.configuration.answerItem item = settings) ∧
      ∀ item : Value, item.get? "section" = some (.text "ansible") ->
        settings.get? "ansible" = some (launch.configuration.answerItem item)
  once {W : Type} (wire : Rpc.Wire W) (clientId : Nat) (far : W)
    (opened : ((Rpc.Talk.handshake wire clientId launch).perform { far }).1 = .ok ()) :
    (pushes (Rpc.attempts
      ((Rpc.Talk.handshake wire clientId launch).perform { far }).2.history)).length = 1
  -- All that it asks later is answered from the same configuration.
  pulled {clientId : Nat} {phase : Rpc.Phase} {connection : Rpc.Connection Machine.Child}
    (spoken : Machine.Spoken clientId launch phase connection) :
    connection.far.listener.replies.map Prod.fst =
      (Rpc.requests connection.far.listener.heard).map (Rpc.replyTo launch.configuration)

theorem telling (launch : ServerLaunch) : Telling launch := by
  constructor
  case pushed =>
    intro W wire clientId far told isPush
    have early : Rpc.attempts ((Rpc.Talk.handshake wire clientId launch).perform { far }).2.history
        <+: opening clientId launch := by
      have handshake := Rpc.handshake_handshake wire clientId launch far
      generalize (Rpc.Talk.handshake wire clientId launch).perform { far } = ended at handshake
      cases handshake with
      | opened history => exact (attempts_opened history).symm ▸ List.prefix_rfl
      | refused history => exact attempts_refused history
    refine ⟨launch.configuration.wrapped, parameters_of_mem_pushes early isPush, ?_, ?_⟩
    · exact fun item unnamed => answerItem_unnamed unnamed
    · intro item named
      rw [answers_iff.mp (.whole named)]
      rfl
  case once =>
    intro W wire clientId far opened
    have handshake := Rpc.handshake_handshake wire clientId launch far
    generalize (Rpc.Talk.handshake wire clientId launch).perform { far } = ended at handshake opened
    cases handshake with
    | opened history => exact attempts_opened history ▸ rfl
    | refused => cases opened
  case pulled =>
    intro _ _ _ spoken
    obtain ⟨streams, reached⟩ := Machine.spoken_meets (fun _ => trivial) spoken
    exact reached.orderly.replied

theorem server_informed (launch : ServerLaunch) :
    Answering launch.configuration ∧ Telling launch := by
  refine ⟨⟨?listed, answer_unlisted, answers_iff.symm, answerItem_vain⟩, telling launch⟩
  intro parameters items given
  rw [answer, given]
  rfl

end AnsibleTooling.Configuration
