import AnsibleTooling.Shell.Arithmetic
import AnsibleTooling.Shell.Stream

set_option autoImplicit false

namespace AnsibleTooling.Shell.Utility

structure Options where
  flags : Chars := []
  values : List (Char × Chars) := []
  operands : List Chars := []

namespace Options

def has (options : Options) (letter : Char) : Bool :=
  options.flags.contains letter

def value? (options : Options) (letter : Char) : Option Chars :=
  (options.values.find? fun entry => entry.1 == letter).map Prod.snd

structure Known where
  flags : String := ""
  valued : String := ""

inductive Fault
  | unknownLetter (letter : Char)
  | unknownName (word : Chars)
  | noValue (letter : Char)

def Fault.display : Fault -> Chars
  | .unknownLetter letter => "invalid option -- '".toList ++ [letter, '\'']
  | .unknownName word => "unrecognized option '".toList ++ word ++ ['\'']
  | .noValue letter => "option requires an argument -- '".toList ++ [letter, '\'']

def ofLetters (known : Known) (options : Options) :
    Chars -> Except Fault (Options × Option Char)
  | [] => .ok (options, none)
  | letter :: rest =>
    if known.flags.toList.contains letter then
      ofLetters known { options with flags := letter :: options.flags } rest
    else if known.valued.toList.contains letter then
      if rest.isEmpty then .ok (options, some letter)
      else .ok ({ options with values := (letter, rest) :: options.values }, none)
    else .error (.unknownLetter letter)

def ofWords (known : Known) (options : Options) (awaited : Option Char) :
    List Chars -> Except Fault Options
  | [] =>
    match awaited with
    | some letter => .error (.noValue letter)
    | none => .ok options
  | word :: rest =>
    match awaited, word with
    | some letter, _ =>
      ofWords known { options with values := (letter, word) :: options.values } none rest
    | none, ['-', '-'] => .ok { options with operands := options.operands ++ rest }
    | none, '-' :: '-' :: _ => .error (.unknownName word)
    | none, '-' :: letter :: letters => do
      let (options, awaited) <- ofLetters known options (letter :: letters)
      ofWords known options awaited rest
    | none, _ => ofWords known { options with operands := options.operands ++ [word] } none rest

end Options

def quoted (text : Chars) : Chars :=
  '\'' :: text ++ ['\'']

def report (text : Chars) : Job Unit := do
  Job.warn ((<- Job.process).name ++ ": ".toList ++ text ++ ['\n'])

def misuse (text : Chars) : Job Nat := do
  report text
  Job.warn ("Try '".toList ++ (<- Job.process).name ++ " --help' for more information.\n".toList)
  return 1

def reason (failure : Io.Failure) : Chars :=
  ((failure.message.splitOn " (os error").headD "").toList

def withOptions (known : Options.Known) (words : List Chars) (run : Options -> Job Nat) :
    Job Nat := do
  match Options.ofWords known {} none words with
  | .ok options => run options
  | .error fault => misuse fault.display

def withOperands (known : Options.Known) (words : List Chars) (what : String)
    (run : Options -> Job Nat) : Job Nat :=
  withOptions known words fun options =>
    if options.operands.isEmpty then misuse ("missing ".toList ++ what.toList) else run options

def forAll (operands : List Chars) (act : Chars -> Job Bool) : Job Nat := do
  let results <- operands.mapM act
  return if results.all id then 0 else 1

def printBytes (bytes : Bytes) : Job Nat := do
  if bytes.isEmpty then return 0
  if let some failure := <- Job.write 1 bytes then
    Job.modifyProcess fun process => { process with lost? := process.lost?.or (some failure) }
  return 0

def close (lostStatus status : Nat) : Job Nat := do
  match (<- Job.process).lost? with
  | none => return status
  | some failure =>
    report ("write error: ".toList ++ reason failure)
    return lostStatus

def print (text : Chars) : Job Nat :=
  printBytes (toBytes text)

def printLine (text : Chars) : Job Nat :=
  print (text ++ ['\n'])

def number? (text : Chars) : Option Nat :=
  if text.isEmpty || !text.all Char.isDigit then none
  else some (Arithmetic.valueOfDigits 10 text)

end AnsibleTooling.Shell.Utility
