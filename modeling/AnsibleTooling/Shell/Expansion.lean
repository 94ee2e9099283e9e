import AnsibleTooling.Shell.Arithmetic
import AnsibleTooling.Shell.Job
import AnsibleTooling.Shell.Pathname
import AnsibleTooling.Shell.Splitting

set_option autoImplicit false

namespace AnsibleTooling.Shell

def separators : Job Chars := do
  return (<- Job.value? "IFS".toList).getD defaultSeparators

def optionLetters : Chars := "pubaCEVvxsnmiIfe".toList

/-- Where an expansion stands: in text that is to be split into fields, in a word of an expansion
there that is not quoted, or elsewhere. -/
inductive Context
  | fields
  | word
  | text
  deriving DecidableEq, Repr

def joint (context : Context) (name : Chars) (isQuoted : Bool) : Job Chars := do
  let separators? <- Job.value? "IFS".toList
  let isApart := if isQuoted then name == ['@'] else separators?.isSome
  return if context != .text && isApart then [boundary] else (separators?.getD [' ']).take 1

/-- The value of a parameter. All arguments are joined, or put together so that they can be told
apart. -/
def parameterValue (context : Context) (isQuoted : Bool) (name : Chars) : Job (Option Chars) := do
  let process <- Job.process
  let number (value : Nat) : Option Chars := some (toString value).toList
  match name with
  | ['?'] => return number process.status
  | ['$'] => return number process.shell
  | ['#'] => return number process.arguments.length
  | ['!'] => return process.latestChild?.bind number
  | ['-'] => return some (optionLetters.filter process.hasOption)
  | ['*'] => return some ((<- joint context name isQuoted).intercalate process.arguments)
  | ['@'] => return some ((<- joint context name isQuoted).intercalate process.arguments)
  | _ =>
    if name.all Char.isDigit then
      match Arithmetic.valueOfDigits 10 name with
      | 0 => return some process.name
      | index + 1 => return process.arguments[index]?
    else return process.value? name

def requirePresent (name : Chars) (value? : Option Chars) : Job Unit := do
  if value?.isNone && (<- Job.process).hasOption 'u' then
    Job.fail (name ++ ": parameter not set".toList)

def glyphsOf (isQuoted : Bool) (text : Chars) : List Glyph :=
  if isQuoted then text.map .quoted else .region false :: text.map .soft

def parameterGlyphs (isQuoted : Bool) (name text : Chars) : Job (List Glyph) := do
  if isQuoted && name == ['@'] && !(<- Job.process).arguments.isEmpty then
    return .region true :: text.map fun char => if char == boundary then .soft char else .quoted char
  else return glyphsOf isQuoted text

def trimOutput (output : Bytes) : Chars :=
  let kept := (ofBytes output).filter fun char => char.toNat != 0
  (kept.reverse.dropWhile (· == '\n')).reverse

def homeOf (user : Chars) : Job (Option Chars) := do
  if user.isEmpty then Job.value? "HOME".toList
  else return if user == "root".toList then some "/root".toList else none

/-- Replaces a tilde at a start of plain text, and in assignments also after each colon. Names of
users do not reach beyond the text unless the word ends with it. -/
def expandTildes (inAssignment endsWord : Bool) : Nat -> Chars -> Job Word
  | 0, text => return [.plain text false]
  | fuel + 1, text => do
    let endsName (char : Char) : Bool := char == '/' || (inAssignment && char == ':')
    let user := (text.drop 1).takeWhile fun char => !endsName char
    let after := text.drop (user.length + 1)
    let isNamed := text.head? == some '~' && (endsWord || !after.isEmpty)
    let (before, rest) :=
      match <- homeOf user with
      | some home =>
        if !isNamed then ([], text)
        else (if home.isEmpty then [] else [Piece.plain home true], after)
      | none => ([], text)
    let part := rest.takeWhile (· != ':')
    if inAssignment && part.length < rest.length then
      let part := part ++ [':']
      let after <- expandTildes inAssignment endsWord fuel (rest.drop part.length)
      return before ++ .plain part false :: after
    else return before ++ [.plain rest false]

def withTildes (inAssignment : Bool) (word : Word) : Job Word :=
  match word with
  | .plain text false :: rest => do
    if text.contains '~' then
      return (<- expandTildes inAssignment rest.isEmpty (text.length + 1) text) ++ rest
    else return word
  | _ => return word

abbrev Substitute := Option Command -> Job (Nat × Bytes)

def fallbackGlyphs (context : Context) (isQuoted : Bool) (name : Chars) (kind : Fallback)
    (orEmpty hasWord : Bool) (word : Context -> Job (List Glyph)) : Job (List Glyph) := do
  let value? <- parameterValue context isQuoted name
  let isPresent := value?.isSome && !(orEmpty && value? == some [])
  let present : Job (List Glyph) := parameterGlyphs isQuoted name (value?.getD [])
  let instead : Job (List Glyph) :=
    word (if context = .text then .text else if isQuoted then .fields else .word)
  match kind with
  | .useInstead => if isPresent then present else instead
  | .useIfPresent => if isPresent then instead else return []
  | .assign =>
    if isPresent then present
    else if !isName name then Job.fail (name ++ ": bad variable name".toList)
    else
      let text := (<- word .text).filterMap Glyph.char?
      Job.assign name text
      return glyphsOf isQuoted text
  | .complain =>
    if isPresent then present
    else
      let text := (<- word .text).filterMap Glyph.char?
      let standard := if orEmpty then "parameter not set or null" else "parameter not set"
      Job.fail (name ++ ": ".toList ++ if hasWord then text else standard.toList)

def calculate (text : Chars) : Job Int := do
  let process <- Job.process
  match Arithmetic.evaluate (fun name => (process.value? name).getD []) text with
  | .ok (value, assigned) =>
    for (name, value) in assigned.reverse do
      Job.assign name (toString value).toList
    return value
  | .error (.noNumber text) => Job.fail ("Illegal number: ".toList ++ text)
  | .error (.malformed what) =>
    Job.fail (s!"arithmetic expression: {what}: \"".toList ++ text ++ ['"'])

def toLast : Word -> Word
  | [] => []
  | .parameter name (.last word) isQuoted :: _ => .parameter name .value isQuoted :: word
  | piece :: rest => piece :: toLast rest

def expandPieces (substitute : Substitute) : Nat -> Context -> Word -> Job (List Glyph)
  | 0, _, _ => return []
  | depth + 1, context, word => do
    let inner (context : Context) (word : Word) : Job (List Glyph) :=
      expandPieces substitute depth context word
    let parts <- (toLast word).mapM fun piece => do
      match piece with
      | .plain text true => return .anchor :: text.map .quoted
      | .plain text false =>
        return if context = .word then glyphsOf false text else text.map .bare
      | .parameter name .value isQuoted =>
        match <- parameterValue context isQuoted name with
        | some value => parameterGlyphs isQuoted name value
        | none =>
          requirePresent name none
          return []
      | .parameter name .length isQuoted =>
        let value? <- parameterValue .text isQuoted name
        requirePresent name value?
        return glyphsOf isQuoted (toString (value?.getD []).length).toList
      | .parameter name (.trim fromEnd longest pattern) isQuoted =>
        let value? <- parameterValue context isQuoted name
        requirePresent name value?
        let marks := (<- inner .text (<- withTildes false pattern)).filterMap Glyph.mark?
        let trim := if fromEnd then trimEnd else trimStart
        match value? with
        | some value => parameterGlyphs isQuoted name (trim longest marks value)
        | none => return []
      | .parameter name (.fallback kind orEmpty fallback) isQuoted =>
        fallbackGlyphs context isQuoted name kind orEmpty (!fallback.isEmpty) fun context => do
          inner context (<- withTildes false fallback)
      | .parameter name (.last _) isQuoted => inner context [.parameter name .value isQuoted]
      | .parameter _ .bad _ => Job.fail "Bad substitution".toList
      | .output command isQuoted =>
        let (status, output) <- substitute command
        Job.modifyProcess fun process => { process with outputStatus := status }
        return glyphsOf isQuoted (trimOutput output)
      | .arithmetic expression isQuoted =>
        let text := (<- inner .text expression).filterMap Glyph.char?
        return glyphsOf isQuoted (toString (<- calculate text)).toList
    return parts.flatten

def expansionDepth : Nat := 300

def expandWord (substitute : Substitute) (context : Context) (inAssignment : Bool)
    (word : Word) : Job (List Glyph) := do
  expandPieces substitute expansionDepth context (<- withTildes inAssignment word)

def expandText (substitute : Substitute) (word : Word) : Job Chars := do
  return (<- expandWord substitute .text false word).filterMap Glyph.char?

def expandValue (substitute : Substitute) (word : Word) : Job Chars := do
  return (<- expandWord substitute .text true word).filterMap Glyph.char?

def expandPattern (substitute : Substitute) (word : Word) : Job (List Mark) := do
  return (<- expandWord substitute .text false word).filterMap Glyph.mark?

def expandFields (substitute : Substitute) (word : Word) : Job (List Chars) := do
  let glyphs <- expandWord substitute .fields false word
  let fields := splitFields (<- separators) none glyphs
  let process <- Job.process
  if process.hasOption 'f' || !fields.any Pathname.isPattern then
    return fields.map Pathname.text
  else return fields.flatMap (Pathname.expand (<- Job.files) process.directory)

end AnsibleTooling.Shell
