import AnsibleTooling.Decimal.Binary64

set_option autoImplicit false

namespace AnsibleTooling.Toml

open Decimal (Binary64)

structure Span where
  start : Nat
  stop : Nat
  deriving DecidableEq, Repr, Inhabited

structure Key where
  name : String
  span : Span
  deriving DecidableEq, Repr

inductive Scalar
  | text (value : String)
  | integer (value : Int)
  | float (value : Binary64)
  | boolean (value : Bool)
  | moment
  deriving DecidableEq, Repr

/-- How a table came to be: by a header of its own, as the parent of another header, by a dotted
key, or in braces. -/
inductive Origin
  | header
  | parent
  | dotted
  | braces
  deriving DecidableEq, Repr

inductive Node
  | scalar (value : Scalar) (span : Span)
  | array (items : List Node) (span : Span)
  | table (origin : Origin) (span : Option Span) (entries : List (Key × Node))
  | tables (items : List Node)
  deriving Inhabited

abbrev Entry := Key × Node

def Span.cover : Option Span -> Option Span -> Option Span
  | some first, some last => some { start := first.start, stop := last.stop }
  | _, _ => none

def Node.ownSpan? : Node -> Option Span
  | .scalar _ span => some span
  | .array _ span => some span
  | .table _ span _ => span
  | .tables _ => none

def Node.span? : Node -> Option Span
  | .tables items =>
    Span.cover (items.head?.bind Node.ownSpan?) (items.getLast?.bind Node.ownSpan?)
  | node => node.ownSpan?

def hasKey (name : String) (entries : List Entry) : Bool :=
  entries.any fun entry => entry.1.name == name

def find? (name : String) (entries : List Entry) : Option Node :=
  (entries.find? fun entry => entry.1.name == name).map Prod.snd

end AnsibleTooling.Toml
