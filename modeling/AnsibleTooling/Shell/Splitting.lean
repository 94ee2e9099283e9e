import AnsibleTooling.Shell.Pattern
/-!
From expanded text to fields. Expanded text remembers how it came about: quoted text is kept
together, and text from an expansion is split at separators, region by region. A zero stands between
arguments that have been put together.
-/

set_option autoImplicit false

namespace AnsibleTooling.Shell

/-- A step of expanded text. An anchor makes a field exist even if it stays empty. -/
inductive Glyph
  | quoted (char : Char)
  | bare (char : Char)
  | soft (char : Char)
  | anchor
  -- The start of text that is split, or of arguments that are only kept apart.
  | region (ofArguments : Bool)
  deriving DecidableEq, Repr

namespace Glyph

def mark? : Glyph -> Option Mark
  | .quoted char => some (char, true)
  | .bare char => some (char, false)
  | .soft char => some (char, false)
  | .anchor => none
  | .region _ => none

def char? (glyph : Glyph) : Option Char :=
  glyph.mark?.map Prod.fst

end Glyph

def boundary : Char := Char.ofNat 0

def defaultSeparators : Chars := [' ', '\t', '\n']

abbrev Begun := Option (List Mark)

structure Split where
  -- Fields that have ended, the latest first.
  fields : List (List Mark) := []
  begun : Begun := none
  -- How many more fields there can be, if not any number.
  left? : Option Nat := none
  -- What the last field is if only separators follow.
  kept? : Option Begun := none
  ofArguments : Bool := false
  afterArguments : Bool := false
  -- Whether the latest field was ended by a blank.
  afterBlank : Bool := false

namespace Split

def add (mark : Mark) (split : Split) : Split :=
  { split with begun := some (mark :: split.begun.getD []) }

def endField (split : Split) : Split := { split with
  fields := (split.begun.getD []).reverse :: split.fields
  begun := none
  left? := split.left?.map (· - 1) }

def addLast (char : Char) (isSeparator isBlank : Bool) (split : Split) : Split :=
  let next := split.add (char, false)
  if isBlank then { next with kept? := split.kept?.or (some split.begun) }
  else { next with
    kept? := if isSeparator && split.afterBlank then split.kept? else none
    afterBlank := false }

/-- A character of text that is split. Blanks are passed over, and so is one other separator with
them. After arguments no separator is passed over. -/
def addSoft (separators : Chars) (char : Char) (split : Split) : Split :=
  let isSeparator := char == boundary || (!split.ofArguments && separators.contains char)
  let isBlank := isSeparator && (char == boundary || defaultSeparators.contains char)
  if split.left? == some 0 then split.addLast char isSeparator isBlank
  else if split.afterBlank then
    if isBlank then split
    else if isSeparator then { split with afterBlank := false }
    else { split.add (char, false) with afterBlank := false }
  else if isSeparator then
    let afterBlank := isBlank && !split.ofArguments && !split.afterArguments
    if split.begun.isNone && afterBlank then split
    else if split.left? == some 1 then
      { split.add (char, false) with left? := some 0, kept? := some split.begun, afterBlank }
    else { split.endField with afterBlank }
  else split.add (char, false)

def step (separators : Chars) (split : Split) : Glyph -> Split
  | .anchor => { split with begun := some (split.begun.getD []) }
  | .quoted char => split.add (char, true)
  | .bare char => split.add (char, false)
  | .soft char => split.addSoft separators char
  | .region ofArguments => { split with
    ofArguments
    afterArguments := split.ofArguments
    afterBlank := false }

def finish (split : Split) : List (List Mark) :=
  let begun := split.kept?.getD split.begun
  let last := if split.ofArguments then some (begun.getD []) else begun
  (last.toList.map List.reverse ++ split.fields).reverse

end Split

def splitFields (separators : Chars) (limit? : Option Nat) (glyphs : List Glyph) :
    List (List Mark) :=
  (glyphs.foldl (Split.step separators) { left? := limit? }).finish

def trimStart (longest : Bool) (pattern : List Mark) (text : Chars) : Chars :=
  let first := text.takeWhile (· != boundary)
  let counts := List.range (first.length + 1)
  if longest && matchesPattern pattern first then []
  else
    let ordered := if longest then counts.reverse else counts
    match ordered.find? fun count => matchesPattern pattern (first.take count) with
    | some count => text.drop count
    | none => text

/-- Removes an end of the text that matches, the shortest or the longest. What matches is the end of
an argument, for the longest of the first one. -/
def trimEnd (longest : Bool) (pattern : List Mark) (text : Chars) : Chars :=
  let first := text.takeWhile (· != boundary)
  let ordered :=
    if longest then List.range (first.length + 1) else (List.range (text.length + 1)).reverse
  let isMatched (count : Nat) : Bool :=
    matchesPattern pattern ((text.drop count).takeWhile (· != boundary))
  match ordered.find? isMatched with
  | some count => text.take count
  | none => text

end AnsibleTooling.Shell
