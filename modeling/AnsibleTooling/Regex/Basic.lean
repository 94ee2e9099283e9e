/-!
Regular expressions as trees, and which of them can be compiled. Characters are compared as they
are: there are no tables of letter cases or of classes of Unicode characters, and whatever needs
one is refused. An expression that could match bytes that are no text is refused as well.
-/

set_option autoImplicit false

namespace AnsibleTooling.Regex

structure Mode where
  ignoreCase : Bool := false
  unicode : Bool := true
  deriving DecidableEq, Repr

abbrev FlagChanges := List (Char × Bool)

def FlagChanges.find? (changes : FlagChanges) (letter : Char) : Option Bool :=
  (List.find? (fun change => change.1 == letter) changes).map Prod.snd

def Mode.change (mode : Mode) (changes : FlagChanges) : Mode :=
  { ignoreCase := (changes.find? 'i').getD mode.ignoreCase
    unicode := (changes.find? 'u').getD mode.unicode }

structure Literal where
  char : Char
  isByte : Bool := false
  deriving DecidableEq, Repr

def Literal.isAscii (literal : Literal) : Bool :=
  literal.char.toNat < 128

inductive Item
  | literal (literal : Literal)
  | range (first last : Literal)
  -- A class named in colons.
  | named (negated : Bool)
  -- A class that a backslash and a letter stand for.
  | letterClass (negated : Bool)
  | property
  | union (items : List Item)
  -- Two sides with an operator between them.
  | operation (left right : Item)
  | set (negated : Bool) (content : Item)

inductive Node
  | empty
  | flags (changes : FlagChanges)
  | literal (literal : Literal)
  | anyChar
  -- A place: an end of a line or of the text, or of a word.
  | boundary (ofWord : Bool)
  | letterClass (negated : Bool)
  | property
  | set (negated : Bool) (content : Item)
  | repeated (node : Node)
  | group (changes : FlagChanges) (node : Node)
  | alternatives (nodes : List Node)
  | sequence (nodes : List Node)

namespace Item

mutual

def isPermitted (mode : Mode) : Item -> Bool
  | .literal symbol => if mode.unicode then !mode.ignoreCase else symbol.isAscii
  | .range first last =>
    if mode.unicode then !mode.ignoreCase else first.isAscii && last.isAscii
  | .named negated => if mode.unicode then !mode.ignoreCase else !negated
  | .letterClass negated => !mode.unicode && !negated
  | .property => false
  | .union items => arePermitted mode items
  | .operation left right => isPermitted mode left && isPermitted mode right
  | .set negated content => (mode.unicode || !negated) && isPermitted mode content

def arePermitted (mode : Mode) : List Item -> Bool
  | [] => true
  | item :: items => isPermitted mode item && arePermitted mode items

end

mutual

def depth : Item -> Nat
  | .union items => depthAll items + (if items.isEmpty then 0 else 1)
  | .operation left right => max (depth left) (depth right) + 1
  | .set _ content => depth content + 1
  | _ => 0

def depthAll : List Item -> Nat
  | [] => 0
  | item :: items => max (depth item) (depthAll items)

end

def ofList : List Item -> Item
  | [item] => item
  | items => .union items

end Item

namespace Node

mutual

def check (mode : Mode) : Node -> Option Mode
  | .empty => some mode
  | .flags changes => some (mode.change changes)
  | .literal symbol =>
    let isPermitted := if mode.unicode then !mode.ignoreCase else !symbol.isByte || symbol.isAscii
    if isPermitted then some mode else none
  | .anyChar => if mode.unicode then some mode else none
  | .boundary ofWord => if ofWord && mode.unicode then none else some mode
  | .letterClass negated => if mode.unicode || negated then none else some mode
  | .property => none
  | .set negated content =>
    if (Item.set negated content).isPermitted mode then some mode else none
  | .repeated node => check mode node
  | .group changes node => (check (mode.change changes) node).map fun _ => mode
  | .alternatives nodes => checkAll mode nodes
  | .sequence nodes => checkAll mode nodes

def checkAll (mode : Mode) : List Node -> Option Mode
  | [] => some mode
  | node :: nodes =>
    match check mode node with
    | some mode => checkAll mode nodes
    | none => none

end

mutual

def depth : Node -> Nat
  | .set _ content => content.depth + 1
  | .repeated node => depth node + 1
  | .group _ node => depth node + 1
  | .alternatives nodes => depthAll nodes + 1
  | .sequence nodes => depthAll nodes + 1
  | _ => 0

def depthAll : List Node -> Nat
  | [] => 0
  | node :: nodes => max (depth node) (depthAll nodes)

end

def depthLimit : Nat := 250

def isPermitted (node : Node) : Bool :=
  node.depth <= depthLimit && (check {} node).isSome

end Node

end AnsibleTooling.Regex
