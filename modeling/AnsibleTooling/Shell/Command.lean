import AnsibleTooling.Text.Utf8

set_option autoImplicit false

namespace AnsibleTooling.Shell

abbrev Chars := List Char

def ofBytes (bytes : Bytes) : Chars :=
  bytes.map fun byte => Char.ofNat byte.toNat

def toBytes (chars : Chars) : Bytes :=
  chars.map fun char => UInt8.ofNat char.toNat

def ofText (text : String) : Chars :=
  ofBytes (Text.encode text)

inductive Fallback
  | useInstead
  | assign
  | useIfPresent
  | complain
  deriving DecidableEq, Repr

inductive Opening
  | read
  | replace
  -- As `replace`, even where files that are there are protected.
  | clobber
  | append
  | both
  deriving DecidableEq, Repr

mutual

inductive Piece
  | plain (text : Chars) (quoted : Bool)
  | parameter (name : Chars) (operation : Operation) (quoted : Bool)
  | output (command : Option Command) (quoted : Bool)
  | arithmetic (expression : List Piece) (quoted : Bool)

inductive Operation
  | value
  | length
  | fallback (kind : Fallback) (orEmpty : Bool) (word : List Piece)
  | trim (fromEnd : Bool) (longest : Bool) (pattern : List Piece)
  -- The value, a word, and nothing more of the text in which that stands.
  | last (word : List Piece)
  -- None that there is.
  | bad

inductive Redirection
  | file (descriptor : Nat) (opening : Opening) (target : List Piece)
  -- To what another descriptor stands for.
  | copy (descriptor : Nat) (target : List Piece)
  -- From a text in the script.
  | text (descriptor : Nat) (content : List Piece)

inductive Command
  | simple (line : Nat) (assignments : List (Chars × List Piece)) (words : List (List Piece))
      (redirections : List Redirection)
  | pipeline (commands : List Command)
  | negated (command : Command)
  | background (command : Command)
  | both (left right : Command)
  | either (left right : Command)
  | sequence (first second : Command)
  | branch (condition body : Command) (otherwise : Option Command)
  | loop (untilTrue : Bool) (condition body : Command)
  | each (line : Nat) (name : Chars) (words : Option (List (List Piece))) (body : Command)
  | choose (line : Nat) (word : List Piece) (arms : List (List (List Piece) × Option Command))
  | subshell (line : Nat) (body : Command)
  | define (line : Nat) (name : Chars) (body : Command)
  | redirected (line : Nat) (body : Command) (redirections : List Redirection)

end

abbrev Word := List Piece

instance : Inhabited Command := ⟨.simple 0 [] [] []⟩

end AnsibleTooling.Shell
