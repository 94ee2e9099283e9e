import AnsibleTooling.Decimal.Shortest
import AnsibleTooling.Settings.Basic
import AnsibleTooling.Text.Quoted
import AnsibleTooling.Toml.Document
import AnsibleTooling.Toml.Excerpt
/-!
Settings from a TOML tree: the defaults, overridden by exactly the keys present. A section is a
table, or an array of its values in the order of its fields. The first problem in document order
is reported.
-/

set_option autoImplicit false

namespace AnsibleTooling.Settings

open Toml (Node Span Scalar Entry)

inductive Reason
  | unknownField (name : String) (expected : List String)
  | wrongType (found expected : String)
  deriving DecidableEq, Repr

structure Refusal where
  span : Option Span
  reason : Reason
  deriving DecidableEq, Repr

def ticked (name : String) : String :=
  "`" ++ name ++ "`"

def alternatives : List String -> String
  | [] => "there are no fields"
  | [only] => "expected " ++ ticked only
  | [first, second] => "expected " ++ ticked first ++ " or " ++ ticked second
  | names => "expected one of " ++ ", ".intercalate (names.map ticked)

def Reason.text : Reason -> String
  | .unknownField name expected => "unknown field " ++ ticked name ++ ", " ++ alternatives expected
  | .wrongType found expected => s!"invalid type: {found}, expected {expected}"

def floatText : Decimal.Binary64 -> String
  | .finite negative magnitude =>
    Decimal.signed negative (Decimal.shortest .upward magnitude).positional
  | .infinite negative => Decimal.signed negative "inf"
  | .nan => "NaN"

def describe : Node -> String
  | .scalar (.text value) _ => "string " ++ Text.quote value
  | .scalar (.integer value) _ => "integer " ++ ticked (toString value)
  | .scalar (.float value) _ => "floating point " ++ ticked (floatText value)
  | .scalar (.boolean value) _ => "boolean " ++ ticked (if value then "true" else "false")
  | .scalar .moment _ => "map"
  | .array .. => "sequence"
  | .tables _ => "sequence"
  | .table .. => "map"

abbrev Decoder (A : Type) := Node -> Except Refusal A

def wrongType {A : Type} (expected : String) : Decoder A :=
  fun node => .error { span := node.span?, reason := .wrongType (describe node) expected }

def boolean : Decoder Bool
  | .scalar (.boolean value) _ => .ok value
  | node => wrongType "a boolean" node

def string : Decoder String
  | .scalar (.text value) _ => .ok value
  | node => wrongType "a string" node

def filePath : Decoder Path
  | .scalar (.text value) _ => .ok (Path.ofText value)
  | node => wrongType "path string" node

/-- A field of a section: its key, and what its value does to the section. -/
structure Field (S : Type) where
  key : String
  assign : S -> Decoder S

def Field.of {S A : Type} (key : String) (decoder : Decoder A) (set : S -> A -> S) : Field S :=
  { key, assign := fun value node => (decoder node).map (set value) }

def Refusal.atKey (refusal : Refusal) (key : Toml.Key) : Refusal :=
  { refusal with span := some (refusal.span.getD key.span) }

def assignEntry {S : Type} (fields : List (Field S)) (value : S) (entry : Entry) :
    Except Refusal S :=
  let (key, node) := entry
  match fields.find? fun field => field.key == key.name with
  | some field => (field.assign value node).mapError (·.atKey key)
  | none =>
    .error { span := some key.span, reason := .unknownField key.name (fields.map Field.key) }

def ofEntries {S : Type} (fields : List (Field S)) (value : S) (entries : List Entry) :
    Except Refusal S :=
  entries.foldlM (assignEntry fields) value

/-- The leading fields from the items of an array; further items are not looked at. -/
def ofItems {S : Type} (fields : List (Field S)) (value : S) (items : List Node) :
    Except Refusal S :=
  (fields.zip items).foldlM (fun value (field, node) => field.assign value node) value

def momentKey : String := "$__toml_private_datetime"

def decodeSection {S : Type} (name : String) (fields : List (Field S)) (initial : S) : Decoder S
  | .table _ _ entries => ofEntries fields initial entries
  | .array items _ => ofItems fields initial items
  | .tables items => ofItems fields initial items
  | .scalar .moment span =>
    .error { span := some span, reason := .unknownField momentKey (fields.map Field.key) }
  | node => wrongType ("struct " ++ name) node

def ansibleFields : List (Field AnsibleSettings) := [
  .of "path" string fun settings path => { settings with path },
  .of "useFullyQualifiedCollectionNames" boolean
    fun settings useFullyQualifiedCollectionNames =>
      { settings with useFullyQualifiedCollectionNames }]

def ansibleLintFields : List (Field AnsibleLintSettings) := [
  .of "enabled" boolean fun settings enabled => { settings with enabled },
  .of "path" string fun settings path => { settings with path },
  .of "arguments" string fun settings arguments => { settings with arguments }]

def ansibleDocFields : List (Field AnsibleDocSettings) := [
  .of "path" string fun settings path => { settings with path },
  .of "enableSplitRight" boolean
    fun settings enableSplitRight => { settings with enableSplitRight }]

def pythonFields : List (Field PythonSettings) := [
  .of "interpreterPath" filePath fun settings path => { settings with interpreterPath := path },
  .of "activationScript" string
    fun settings activationScript => { settings with activationScript }]

def builtinFields : List (Field BuiltinSettings) := [
  .of "force" boolean fun settings force => { settings with force },
  .of "isWithYamllint" boolean fun settings isWithYamllint => { settings with isWithYamllint },
  .of "ansibleVersion" string fun settings version => { settings with ansibleVersion := version },
  .of "ansibleLintVersion" string
    fun settings version => { settings with ansibleLintVersion := version },
  .of "yamllintVersion" string
    fun settings version => { settings with yamllintVersion := version },
  .of "probeAnsibleDoc" boolean
    fun settings probeAnsibleDoc => { settings with probeAnsibleDoc }]

def devFields : List (Field DevSettings) := [
  .of "serverPath" filePath fun settings path => { settings with serverPath := path }]

def fields : List (Field Settings) := [
  .of "enable" boolean fun settings enable => { settings with enable },
  .of "ansible" (decodeSection "AnsibleSettings" ansibleFields {})
    fun settings ansible => { settings with ansible },
  .of "ansibleLint" (decodeSection "AnsibleLintSettings" ansibleLintFields {})
    fun settings ansibleLint => { settings with ansibleLint },
  .of "ansibleDoc" (decodeSection "AnsibleDocSettings" ansibleDocFields {})
    fun settings ansibleDoc => { settings with ansibleDoc },
  .of "python" (decodeSection "PythonSettings" pythonFields {})
    fun settings python => { settings with python },
  .of "builtin" (decodeSection "BuiltinSettings" builtinFields {})
    fun settings builtin => { settings with builtin },
  .of "dev" (decodeSection "DevSettings" devFields {})
    fun settings dev => { settings with dev },
  .of "disableProgressNotifications" boolean
    fun settings disableProgressNotifications => { settings with disableProgressNotifications }]

def decode (entries : List Entry) : Except Refusal Settings :=
  ofEntries fields {} entries

def Refusal.report (document : String) (refusal : Refusal) : String :=
  Toml.report document (refusal.span.getD { start := 0, stop := 0 }) refusal.reason.text

def parse (document : String) : Except Error Settings := do
  match Toml.parse? document with
  | none => .error (.toml .malformed)
  | some entries =>
    let settings <- (decode entries).mapError fun refusal =>
      Error.toml (.refused (refusal.report document))
    settings.validate
    return settings

end AnsibleTooling.Settings
