import AnsibleTooling.Text.Utf8
import AnsibleTooling.Toml.Basic
/-!
The report of a problem in a document: its line and column, the line itself, and carets under
the place. Columns count characters, carets count bytes and end with the line.
-/

set_option autoImplicit false

namespace AnsibleTooling.Toml

def splitLines : List Char -> List (List Char)
  | [] => [[]]
  | char :: rest =>
    match splitLines rest with
    | [] => [[]]
    | line :: lines => if char == '\n' then [] :: line :: lines else (char :: line) :: lines

def repeated (count : Nat) (char : Char) : String :=
  String.ofList (List.replicate count char)

def report (document : String) (span : Span) (reason : String) : String :=
  let chars := document.toList
  let before := chars.take span.start
  let line := before.count '\n'
  let column := (before.reverse.takeWhile (· != '\n')).length
  let content := ((splitLines chars)[line]?).getD []
  let covered := (Text.encodeChars ((chars.take span.stop).drop span.start)).length
  let carets := max 1 (min covered ((Text.encodeChars content).length - column))
  let gutter := repeated (toString (line + 1)).length ' '
  s!"TOML parse error at line {line + 1}, column {column + 1}\n" ++
    gutter ++ " |\n" ++
    toString (line + 1) ++ " | " ++ String.ofList content ++ "\n" ++
    gutter ++ " | " ++ repeated column ' ' ++ repeated carets '^' ++ "\n" ++
    reason ++ "\n"

end AnsibleTooling.Toml
