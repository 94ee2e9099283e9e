import AnsibleTooling.Shell.Utility.Options

set_option autoImplicit false

namespace AnsibleTooling.Shell.Builtin

open Utility (number?)

def print (text : Chars) : Job Nat := do
  if text.isEmpty then return 0
  if let some failure := <- Job.writeChars 1 text then
    Job.modifyProcess fun process => { process with lost? := some failure }
  return 0

def finish (status : Nat) : Job Unit := do
  let process <- Job.process
  if process.lost?.isSome then
    Job.complain (process.builtin?.getD [] ++ ": I/O error".toList)
    Job.setStatus (status ||| 1)
  else Job.setStatus status

def printLine (text : Chars) : Job Nat :=
  print (text ++ ['\n'])

def splitAssignment (word : Chars) : Chars × Option Chars :=
  let name := word.takeWhile (· != '=')
  let rest := word.drop name.length
  (name, if rest.isEmpty then none else some (rest.drop 1))

def quoteParts : Nat -> Chars -> Chars
  | 0, _ => []
  | fuel + 1, text =>
    let plain := text.takeWhile (· != '\'')
    let rest := text.drop plain.length
    let quotes := rest.takeWhile (· == '\'')
    let after := rest.drop quotes.length
    let first := '\'' :: plain ++ ['\'']
    if rest.isEmpty then first
    else first ++ '"' :: quotes ++ '"' :: if after.isEmpty then [] else quoteParts fuel after

def inQuotes (text : Chars) : Chars :=
  quoteParts (text.length + 1) text

def optionWords : List Chars -> Chars × List Chars
  | ('-' :: letter :: letters) :: rest =>
    if letter == '-' && letters.isEmpty then ([], rest)
    else
      let (found, words) := optionWords rest
      (letter :: letters ++ found, words)
  | words => ([], words)

def options (known : String) (words : List Chars) : Job (Chars × List Chars) := do
  let (letters, rest) := optionWords words
  match letters.find? fun letter => !known.toList.contains letter with
  | some letter => Job.fail ("Illegal option -".toList ++ [letter])
  | none => return (letters, rest)

def number (word : Chars) : Job Nat := do
  match number? word with
  | some value => return value
  | none => Job.fail ("Illegal number: ".toList ++ word)

def firstNumber? (words : List Chars) : Job (Option Nat) := do
  match words with
  | [] => return none
  | word :: _ => return some (<- number word)

end AnsibleTooling.Shell.Builtin
