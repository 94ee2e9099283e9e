import AnsibleTooling.Files.Operations
import AnsibleTooling.Shell.Pattern

set_option autoImplicit false

namespace AnsibleTooling.Shell.Pathname

def isPattern (marks : List Mark) : Bool :=
  marks.any fun (char, quoted) => !quoted && ['*', '?', '['].contains char

def text (marks : List Mark) : Chars :=
  marks.map Prod.fst

def parts : List Mark -> List (List Mark)
  | [] => [[]]
  | mark :: marks =>
    match parts marks with
    | [] => [[mark]]
    | part :: rest => if mark.1 == '/' then [] :: part :: rest else (mark :: part) :: rest

variable (tree : Files.Tree) (directory : Files.Location)

def pathOf (chars : Chars) : Path :=
  { bytes := toBytes chars }

def exists? (name : Chars) : Bool :=
  (Files.find tree directory false (pathOf name)).isOk

def namesIn (path : Chars) : List Chars :=
  match Files.find tree directory true (pathOf (if path.isEmpty then ['.'] else path)) with
  | .ok found =>
    if found.node.isDirectory then
      ['.'] :: ['.', '.'] :: (tree.below found.location).filterMap fun item =>
        match item.1 with
        | [name] => some (ofBytes name)
        | _ => none
    else []
  | .error _ => []

def stands (part : List Mark) (name : Chars) : Bool :=
  matchesPattern part name && (name.head? != some '.' || (text part).head? == some '.')

def following : List (List Mark) -> Chars -> List Chars
  | [], found => [found]
  | part :: rest, found =>
    let goOn (path : Chars) : List Chars :=
      if rest.isEmpty then [path] else following rest (path ++ ['/'])
    if isPattern part then
      ((namesIn tree directory found).filter (stands part)).flatMap fun name => goOn (found ++ name)
    else
      let path := found ++ text part
      if rest.isEmpty && !exists? tree directory path then [] else goOn path

def expand (marks : List Mark) : List Chars :=
  if isPattern marks then
    let found := following tree directory (parts marks) []
    if found.isEmpty then [text marks]
    else found.mergeSort fun first second => !(second < first)
  else [text marks]

end AnsibleTooling.Shell.Pathname
