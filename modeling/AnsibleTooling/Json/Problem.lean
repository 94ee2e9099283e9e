import AnsibleTooling.Text.Utf8

set_option autoImplicit false

namespace AnsibleTooling.Json

inductive Problem
  | unclosedList
  | unclosedObject
  | unclosedText
  | missingValue
  | expectedColon
  | expectedListEnd
  | expectedObjectEnd
  | expectedIdent
  | expectedValue
  | invalidEscape
  | invalidNumber
  | numberOutOfRange
  | controlCharacter
  | keyNotText
  | loneSurrogate
  | trailingComma
  | trailingCharacters
  | cutEscape
  | tooDeep
  deriving DecidableEq, Repr

def Problem.description : Problem -> String
  | .unclosedList => "EOF while parsing a list"
  | .unclosedObject => "EOF while parsing an object"
  | .unclosedText => "EOF while parsing a string"
  | .missingValue => "EOF while parsing a value"
  | .expectedColon => "expected `:`"
  | .expectedListEnd => "expected `,` or `]`"
  | .expectedObjectEnd => "expected `,` or `\x7d`"
  | .expectedIdent => "expected ident"
  | .expectedValue => "expected value"
  | .invalidEscape => "invalid escape"
  | .invalidNumber => "invalid number"
  | .numberOutOfRange => "number out of range"
  | .controlCharacter => "control character (\\u0000-\\u001F) found while parsing a string"
  | .keyNotText => "key must be a string"
  | .loneSurrogate => "lone leading surrogate in hex escape"
  | .trailingComma => "trailing comma"
  | .trailingCharacters => "trailing characters"
  | .cutEscape => "unexpected end of hex escape"
  | .tooDeep => "recursion limit exceeded"

structure Failure where
  problem : Problem
  left : Nat
  deriving DecidableEq, Repr

abbrev Reading (A : Type) := Except Failure A

def failHere {A : Type} (problem : Problem) (rest : Bytes) : Reading A :=
  .error { problem, left := rest.length }

def failNext {A : Type} (problem : Problem) (rest : Bytes) : Reading A :=
  .error { problem, left := rest.length - 1 }

def newline : UInt8 := 10

def position (taken : Bytes) : Nat × Nat :=
  (1 + taken.count newline, (taken.reverse.takeWhile (· != newline)).length)

def Failure.message (document : Bytes) (failure : Failure) : String :=
  let (line, column) := position (document.take (document.length - failure.left))
  s!"{failure.problem.description} at line {line} column {column}"

end AnsibleTooling.Json
