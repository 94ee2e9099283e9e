import AnsibleTooling.CommandLine.Reader
import AnsibleTooling.Log
import AnsibleTooling.Regex.Parser
/-!
Which log records are shown. A filter is a list of directives, separated by commas: a level, or a
topic, possibly with a span and a field in brackets, and with the level up to which its records are
shown. A directive also holds for the topics below its own, and of those that hold for a record the
most particular one decides.
-/

set_option autoImplicit false

namespace AnsibleTooling

def LogTopic.names : LogTopic -> List String
  | .settings => ["ansible bootstrap", "app", "config", "load config"]
  | .probing => ["ansible bootstrap", "app", "tool resolver"]
  | .activation => ["ansible bootstrap", "app", "bootstrap"]
  | .session => ["ansible bootstrap", "app", "session"]
  | .installing => ["ansible bootstrap", "app", "commands", "install requirements tools"]
  | .metadata => ["ansible bootstrap", "app", "commands", "server show metadata"]
  | .documentation => ["ansible bootstrap", "app", "commands", "ansible doc"]
  | .environment => ["ansible bootstrap", "adapters", "venv installer"]
  | .client => ["ansible bootstrap", "adapters", "server process client"]
  | .terminal => ["ansible bootstrap", "adapters", "child terminal"]
  | .prompt => ["ansible bootstrap", "adapters", "dialoguer confirmer"]
  | .messages => ["lsp server", "msg"]

def LogTopic.path (topic : LogTopic) : List Char :=
  ("::".intercalate topic.names).toList.map fun char => if char == ' ' then '_' else char

def LogRecord.fieldNames (record : LogRecord) : List String :=
  let origin := if record.topic = .messages then
    ["log.target", "log.module_path", "log.file", "log.line"] else []
  "message" :: origin ++ record.fields.map Prod.fst

end AnsibleTooling

namespace AnsibleTooling.CommandLine

inductive Detail
  | off
  | error
  | warn
  | info
  | debug
  | trace
  deriving DecidableEq, Repr

namespace Detail

def all : List Detail :=
  [off, error, warn, info, debug, trace]

def name : Detail -> String
  | off => "off"
  | error => "error"
  | warn => "warn"
  | info => "info"
  | debug => "debug"
  | trace => "trace"

def ofText? (text : List Char) : Option Detail :=
  match number (String.ofList text) with
  | .ok number => all[number]?
  | .error _ => all.find? fun detail => detail.name.toList == text.map Char.toLower

def covers (detail : Detail) (level : LogLevel) : Bool :=
  match detail, level with
  | .trace, _ => true
  | .debug, level => level != .trace
  | .info, level => level = .info || level = .warn
  | .warn, level => level = .warn
  | _, _ => false

end Detail

structure Directive where
  -- How the paths begin that it holds for.
  topic : List Char := []
  -- A field that a record needs.
  field? : Option String := none
  detail : Detail := .trace
  -- Whether it asks for something that no record has: a span, or a field with a value.
  isVoid : Bool := false
  deriving DecidableEq, Repr

namespace Directive

def holdsFor (directive : Directive) (record : LogRecord) : Bool :=
  !directive.isVoid && directive.topic.isPrefixOf record.topic.path &&
    directive.field?.all record.fieldNames.contains

/-- The one of two directives that decides where both hold. A longer topic is more particular, then
a field is, of two fields that which comes later by its name, and the later directive if neither
is more particular. -/
def moreParticular (first second : Directive) : Directive :=
  let isShorter := second.topic.length < first.topic.length
  let isBefore := second.topic.length = first.topic.length &&
    decide (second.field?.toList < first.field?.toList)
  if isShorter || isBefore then first else second

inductive Part
  | opening
  -- A level, or a topic.
  | word (start : Nat)
  | span (start : Nat)
  | field (start : Nat)
  | afterField
  | afterSpan
  | level (start : Nat)
  deriving DecidableEq, Repr

def dropBytes? : Nat -> List Char -> Option (List Char)
  | 0, text => some text
  | _ + 1, [] => none
  | count + 1, char :: rest =>
    if char.utf8Size <= count + 1 then dropBytes? (count + 1 - char.utf8Size) rest else none

def cut? (text : List Char) (start stop : Nat) : Option (List Char) := do
  let chars <- dropBytes? start text
  return chars.take (chars.length - (<- dropBytes? stop text).length)

def isWordStart (char : Char) : Bool :=
  char == '-' || char == ':' || char == '_' || Text.isAlphanumeric char

def isSign (char : Char) : Bool :=
  char == '+' || char == '-'

def isPositive : List Char -> Bool
  | '+' :: text =>
    let whole := text.takeWhile Char.isDigit
    let rest := text.drop whole.length
    let fraction := if rest.head? == some '.' then (rest.drop 1).takeWhile Char.isDigit else []
    let rest := if rest.head? == some '.' then rest.drop (fraction.length + 1) else rest
    let isExponent := match rest with
      | [] => true
      | mark :: digits =>
        let digits := if digits.head?.any isSign then digits.drop 1 else digits
        mark.toLower == 'e' && !digits.isEmpty && digits.all Char.isDigit
    (!(whole.isEmpty && fraction.isEmpty) && isExponent) ||
      ["inf", "infinity", "nan"].contains (String.ofList (text.map Char.toLower))
  | _ => false

/-- A field is given by its name, possibly with a value after an equals sign: a number or a regular
expression. What follows a further equals sign does not count. -/
def withField? (directive : Directive) (text : List Char) : Option Directive :=
  let name := text.takeWhile (· != '=')
  let named := { directive with field? := some (String.ofList name) }
  match text.drop name.length with
  | [] => if name.isEmpty then none else some named
  | _ :: rest =>
    let value := rest.takeWhile (· != '=')
    if isPositive value || Regex.isValid value then some { named with isVoid := true } else none

def withWord (directive : Directive) (word : List Char) : Directive :=
  match Detail.ofText? word with
  | some detail => { directive with detail }
  | none => { directive with topic := word }

def withLevel? (directive : Directive) (text : List Char) : Option Directive :=
  if text.isEmpty then some directive
  else (Detail.ofText? text).map fun detail => { directive with detail }

def read (text : List Char) (place : Nat) (char : Char) (directive : Directive) :
    Part -> Option (Directive × Part)
  | .opening =>
    if char == '[' then some (directive, .span (place + 1))
    else if isWordStart char then some (directive, .word place)
    else none
  | .word start =>
    if char == '=' || char == '[' then do
      let directive := { directive with topic := <- cut? text start place }
      return (directive, if char == '=' then .level (place + 1) else .span (place + 1))
    else some (directive, .word start)
  | .span start =>
    if char == ']' then some ({ directive with isVoid := true }, .afterSpan)
    else if char == '\x7b' then
      some ({ directive with isVoid := place != start }, .field (place + 1))
    else some (directive, .span start)
  | .field start =>
    if char == '\x7d' then do
      return (<- directive.withField? (<- cut? text start place), .afterField)
    else some (directive, .field start)
  | .afterField => if char == ']' then some (directive, .afterSpan) else none
  | .afterSpan => if char == '=' then some (directive, .level (place + 1)) else none
  | .level start => some (directive, .level start)

def readAll (text : List Char) : Nat -> Directive × Part -> List Char -> Option (Directive × Part)
  | _, reading, [] => some reading
  | place, (directive, part), char :: rest => do
    readAll text (place + char.utf8Size) (<- read text place char directive part) rest

def close (text : List Char) (directive : Directive) : Part -> Option Directive
  | .word start => (dropBytes? start text).map directive.withWord
  | .level start => do directive.withLevel? (<- dropBytes? start text)
  | .afterSpan => some directive
  | _ => none

/-- The directive that a text is. Blanks around it are passed over to find the places of its parts,
but they are not taken away: the parts are what stands at these places with the blanks. -/
def ofText? (text : List Char) : Option Directive := do
  let trimmed := Text.trimEnd (text.dropWhile Text.isBlank)
  let (directive, part) <- readAll text 0 ({}, .opening) trimmed
  close text directive part

end Directive

structure LogFilter where
  directives : List Directive
  deriving DecidableEq, Repr

namespace LogFilter

def ofText? (text : String) : Option LogFilter := do
  let parts := (text.toList.splitOn ',').filter fun part => !part.isEmpty
  return { directives := <- parts.mapM Directive.ofText? }

def ofVerbosity (verbosity : Nat) : LogFilter :=
  let detail := if verbosity == 0 then .warn else if verbosity == 1 then .info else .debug
  { directives := [{ topic := "ansible_bootstrap".toList, detail }] }

def shows (filter : LogFilter) (record : LogRecord) : Bool :=
  match filter.directives.filter fun directive => directive.holdsFor record with
  | [] => false
  | first :: rest => (rest.foldl Directive.moreParticular first).detail.covers record.level

def choose (asked : Option String) (verbosity : Nat) : LogFilter :=
  (asked.bind ofText?).getD (ofVerbosity verbosity)

end LogFilter

end AnsibleTooling.CommandLine
