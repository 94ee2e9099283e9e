import AnsibleTooling.Toml.Lexical
import AnsibleTooling.Toml.Number
/-!
Whole documents: statements in the order written, and the tree they build. A table is defined
once; a header may complete a table that so far is only the parent of others, and it then stands
where that header stands.
-/

set_option autoImplicit false

namespace AnsibleTooling.Toml

open Reader

abbrev Edit := Origin -> List Entry -> Option (List Entry)

def editLast (edit : Node -> Option Node) : List Node -> Option (List Node)
  | [] => none
  | [item] => (edit item).map fun edited => [edited]
  | item :: items => (editLast edit items).map (item :: ·)

def editEntry (name : String) (edit : Node -> Option Node) : List Entry -> Option (List Entry)
  | [] => none
  | (key, node) :: entries =>
    if key.name == name then (edit node).map fun edited => (key, edited) :: entries
    else (editEntry name edit entries).map ((key, node) :: ·)

/-- Whether keys of an origin can be reached through a table: a dotted key cannot reopen a table
that has a header, and a brace table is complete. -/
def opens (through : Origin) (reached : Origin) : Bool :=
  match through, reached with
  | .dotted, .header => false
  | _, .braces => false
  | _, _ => true

/-- Reaches a table along keys and edits it. Missing tables on the way are created with the
origin given. Of an array of tables the last one is entered, by dotted keys too: what they add
there they only must not put into the item itself. -/
def descend (through : Origin) (edit : Edit) : List Key -> Edit
  | [], origin, entries => edit origin entries
  | key :: keys, _, entries =>
    let inner := descend through edit keys
    let enter (isItem : Bool) : Node -> Option Node
      | .table origin span entries =>
        if isItem || opens through origin then (inner origin entries).map (.table origin span ·)
        else none
      | _ => none
    if hasKey key.name entries then
      editEntry key.name (fun node =>
        match node with
        | .tables items => (editLast (enter true) items).map .tables
        | node => enter false node) entries
    else (inner through []).map fun created => entries ++ [(key, .table through none created)]

def insertValue (dotted : Bool) (key : Key) (value : Node) : Edit :=
  fun origin entries =>
    if dotted && origin != .dotted then none
    else if hasKey key.name entries then none
    else some (entries ++ [(key, value)])

def addValue (keys : List Key) (value : Node) : Edit :=
  fun origin entries =>
    match keys.getLast? with
    | none => none
    | some key =>
      let path := keys.dropLast
      descend .dotted (insertValue (!path.isEmpty) key value) path origin entries

def bracesOf (members : List (List Key × Node)) : Option (List Entry) :=
  members.foldlM (fun entries (keys, value) => addValue keys value .header entries) []

def arrayItems (item : Reader Node) : Nat -> List Node -> Reader (List Node)
  | 0, _ => fail
  | fuel + 1, taken => do
    skipLoose ((<- rest).length + 1)
    if <- accept "]" then return taken.reverse
    else
      let taken := (<- item) :: taken
      skipLoose ((<- rest).length + 1)
      if <- accept "," then arrayItems item fuel taken
      else
        expect "]"
        return taken.reverse

def braceMembers (item : Reader Node) :
    Nat -> List (List Key × Node) -> Reader (List (List Key × Node))
  | 0, _ => fail
  | fuel + 1, taken => do
    let keys <- dottedKey
    expect "="
    skipBlanks
    let value <- item
    skipBlanks
    let taken := (keys, value) :: taken
    if <- accept "," then braceMembers item fuel taken
    else
      expect "\x7d"
      return taken.reverse

def placed (reader : Reader (Span -> Node)) : Reader Node := do
  let (node, span) <- withSpan reader
  return node span

def plainValue : Reader Node :=
  placed do
    match <- peek? with
    | some '"' => return .scalar (.text (<- stringValue))
    | some '\'' => return .scalar (.text (<- stringValue))
    | some 't' => expect "true"; return .scalar (.boolean true)
    | some 'f' => expect "false"; return .scalar (.boolean false)
    | _ => return .scalar (<- number)

def array (item : Reader Node) : Reader Node :=
  placed do
    expect "["
    return .array (<- arrayItems item ((<- rest).length + 1) [])

def braces (item : Reader Node) : Reader Node :=
  placed do
    expect "\x7b"
    skipBlanks
    let members <-
      if <- accept "\x7d" then pure [] else braceMembers item ((<- rest).length + 1) []
    match bracesOf members with
    | some entries => return fun span => .table .braces (some span) entries
    | none => fail

def value : Nat -> Reader Node
  | 0 => plainValue
  | inner + 1 => do
    match <- peek? with
    | some '[' => array (value inner)
    | some '\x7b' => braces (value inner)
    | _ => plainValue

inductive Statement
  | header (keys : List Key) (span : Span)
  | arrayHeader (keys : List Key) (span : Span)
  | assignment (keys : List Key) (value : Node)

def statement : Reader (Option Statement) := do
  skipBlanks
  match <- peek? with
  | none => return none
  | some '#' => comment; lineEnd; return none
  | some '\n' => newline; return none
  | some '\r' => newline; return none
  | some '[' =>
    if <- startsWith "[[" then
      let (keys, span) <- withSpan do
        expect "[["
        let keys <- dottedKey
        expect "]]"
        return keys
      lineTail
      return some (.arrayHeader keys span)
    else
      let (keys, span) <- withSpan do
        expect "["
        let keys <- dottedKey
        expect "]"
        return keys
      lineTail
      return some (.header keys span)
  | some _ =>
    let keys <- dottedKey
    expect "="
    skipBlanks
    let value <- value (depthLimit - 1)
    lineTail
    return some (.assignment keys value)

def statements : Nat -> List Statement -> Reader (List Statement)
  | 0, _ => fail
  | fuel + 1, taken => do
    if (<- rest).isEmpty then return taken.reverse
    else
      match <- statement with
      | some next => statements fuel (next :: taken)
      | none => statements fuel taken

structure Section where
  keys : List Key
  repeated : Bool
  span : Option Span
  entries : List Entry

structure Draft where
  root : List Entry
  current : Section

def Draft.empty : Draft :=
  { root := [], current := { keys := [], repeated := false, span := none, entries := [] } }

def editTables (key : Key) (edit : List Node -> List Node) : Edit :=
  fun _ entries =>
    if hasKey key.name entries then
      editEntry key.name (fun node =>
        match node with
        | .tables items => some (.tables (edit items))
        | _ => none) entries
    else some (entries ++ [(key, .tables (edit []))])

def Draft.close (draft : Draft) : Option (List Entry) :=
  let current := draft.current
  match current.keys.getLast? with
  | none => some current.entries
  | some key =>
    let table := Node.table .header current.span current.entries
    let place : Edit :=
      if current.repeated then editTables key (· ++ [table])
      else fun _ entries =>
        if hasKey key.name entries then none else some (entries ++ [(key, table)])
    descend .parent place current.keys.dropLast .header draft.root

def reopened : Option Node -> Option (List Entry)
  | none => some []
  | some (.table .parent _ entries) => some entries
  | some _ => none

def locate (keys : List Key) (entries : List Entry) : Option Node :=
  match keys with
  | [] => none
  | key :: keys =>
    match find? key.name entries with
    | none => none
    | some node =>
      if keys.isEmpty then some node
      else
        match node with
        | .table _ _ entries => locate keys entries
        | .tables items =>
          match items.getLast? with
          | some (.table _ _ entries) => locate keys entries
          | _ => none
        | _ => none

def Draft.openTable (root : List Entry) (keys : List Key) (span : Span) : Option Draft := do
  let key <- keys.getLast?
  let entries <- reopened (locate keys root)
  let root <- descend .parent (fun _ entries =>
    some (entries.filter fun entry => entry.1.name != key.name)) keys.dropLast .header root
  return { root, current := { keys, repeated := false, span := some span, entries } }

def Draft.openItem (root : List Entry) (keys : List Key) (span : Span) : Option Draft := do
  let key <- keys.getLast?
  let root <- descend .parent (editTables key id) keys.dropLast .header root
  return { root, current := { keys, repeated := true, span := some span, entries := [] } }

def Section.add (current : Section) (keys : List Key) (value : Node) : Option Section := do
  let entries <- addValue keys value .header current.entries
  let span :=
    match current.span, value.span? with
    | some own, some added => some { own with stop := added.stop }
    | _, _ => current.span
  return { current with entries, span }

def Draft.add (draft : Draft) : Statement -> Option Draft
  | .header keys span => do Draft.openTable (<- draft.close) keys span
  | .arrayHeader keys span => do Draft.openItem (<- draft.close) keys span
  | .assignment keys value => do return { draft with current := <- draft.current.add keys value }

def parse? (document : String) : Option (List Entry) := do
  let chars := document.toList
  let marked := chars.head? == some (Char.ofNat 0xFEFF)
  let cursor : Cursor :=
    if marked then { place := 1, rest := chars.drop 1 } else { place := 0, rest := chars }
  let (statements, _) <- statements (chars.length + 2) [] cursor
  (<- statements.foldlM Draft.add Draft.empty).close

end AnsibleTooling.Toml
