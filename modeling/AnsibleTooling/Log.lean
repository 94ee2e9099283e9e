import AnsibleTooling.Text.Utf8

set_option autoImplicit false

namespace AnsibleTooling

inductive LogLevel
  | trace
  | debug
  | info
  | warn
  deriving DecidableEq, Repr

inductive LogTopic
  | settings
  | probing
  | activation
  | session
  | installing
  | metadata
  | documentation
  | environment
  | client
  | terminal
  | prompt
  | messages
  deriving DecidableEq, Repr

/-- The value of a field: a text as it is, or one that a log line shows in quotes. -/
inductive LogValue
  | plain (text : String)
  | quoted (text : String)
  deriving DecidableEq, Repr

def LogValue.text : LogValue -> String
  | .plain text => text
  | .quoted text => text

structure LogRecord where
  topic : LogTopic
  level : LogLevel
  message : String
  fields : List (String × LogValue) := []
  deriving DecidableEq, Repr

def LogRecord.make (topic : LogTopic) (level : LogLevel) (message : String)
    (fields : List (String × String)) : LogRecord :=
  { topic, level, message, fields := fields.map fun (name, text) => (name, .plain text) }

end AnsibleTooling
