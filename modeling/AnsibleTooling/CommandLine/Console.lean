import AnsibleTooling.CommandLine.LogFilter
import AnsibleTooling.CommandLine.Operation

set_option autoImplicit false

namespace AnsibleTooling.CommandLine

structure Transcript where
  output : String
  errors : String
  status : Nat
  deriving DecidableEq, Repr

def noteMark : NoteLevel -> String
  | .info => "ℹ️  "
  | .warn => "⚠️  "
  | .error => "❌ "

def levelName : LogLevel -> String
  | .trace => "TRACE"
  | .debug => "DEBUG"
  | .info => " INFO"
  | .warn => " WARN"

def LogValue.shown : LogValue -> String
  | .plain text => text
  | .quoted text => Text.quote text

/-- A character of a log line's message. What a terminal would act on is written as an escape, but
for the end of a line, the tab and a few marks that do little. -/
def shownChar (char : Char) : List Char :=
  let code := char.toNat
  let digits := [code / 16, code % 16].map Nat.digitChar
  if [0x07, 0x08, 0x0C, 0x1B, 0x7F].contains code then
    "\\x".toList ++ digits
  else if 0x80 <= code && code < 0xA0 then
    "\\u\x7b".toList ++ digits ++ ['\x7d']
  else [char]

def logLine (stamp : String) (record : LogRecord) : String :=
  let fields := record.fields.map fun (name, value) => s!" {name}=" ++ LogValue.shown value
  let message := String.ofList (record.message.toList.flatMap shownChar)
  s!"{stamp} {levelName record.level} {message}" ++ String.join fields

def eventText (stamp : String) (filter : LogFilter) : Event -> String
  | .noted level text => noteMark level ++ text ++ "\n"
  | .logged record =>
    if filter.shows record then logLine stamp record ++ "\n" else ""
  | _ => ""

def journalText (stamp : String) (filter : LogFilter) (journal : List Event) : String :=
  String.join (journal.map (eventText stamp filter))

def usage : String :=
  "Resolve and provision Ansible tooling for the Ansible language server\n\n" ++
    s!"Usage: {programName} [OPTIONS] <COMMAND>\n"

def Departure.transcript : Departure -> Transcript
  | .version => { output := s!"{programName} {CommandLine.version}\n", errors := "", status := 0 }
  | .help => { output := usage, errors := "", status := 0 }
  | .nothingGiven => { output := "", errors := usage, status := 2 }
  | .refused refusal =>
    { output := "", errors := s!"error: {refusal.message}\n\n{usage}", status := 2 }

def closing : Except Error Answer -> Transcript
  | .ok answer => { output := answer.output, errors := "", status := answer.status }
  | .error error => { output := "", errors := s!"Error: {error.message}\n", status := 1 }

/-- Everything written by an action that ended on a stage; `shown` is what programs wrote to the
terminal. -/
def transcript {S : Type} (stamp : String) (filter : LogFilter) (shown : World S -> String × String)
    (result : Except Error Answer) (stage : Stage S) : Transcript :=
  let closing := closing result
  let (output, errors) := shown stage.world
  { closing with
    output := output ++ closing.output
    errors := journalText stamp filter stage.journal ++ errors ++ closing.errors }

end AnsibleTooling.CommandLine
