import HarnessRepair.Text.Search

/-!
# Paths

A path is kept as it was written and printed so.  Its meaning is the list of its
components: repeated slashes, a slash at the end and inner dots say nothing, a
dot in front and double dots are kept.

## Main definitions

* `Path.components` — the meaning of a path.
* `Path.same` — whether two paths mean the same.
* `Path.fileName?`, `Path.parent?`, `Path.join`, `Path.extension?` — parts of paths.
* `Path.ancestors` — the directories on the way.
-/

namespace HarnessRepair.Path

open Text

/-- One component of a path. -/
inductive Component where
  /-- The slash in front of an absolute path. -/
  | root
  /-- The dot in front of a relative path. -/
  | here
  /-- A double dot. -/
  | up
  /-- A name. -/
  | name (s : String)
  deriving DecidableEq, Repr

/-- Whether a path starts at the root. -/
def isAbsolute (p : String) : Bool := startsWith p "/"

/-- The part of a path that stands for itself in front, and the rest. -/
def splitHead (cs : List Char) : List Char × List Char :=
  match cs with
  | '/' :: rest => (['/'], rest)
  | ['.'] => (['.'], [])
  | '.' :: '/' :: rest => (['.'], '/' :: rest)
  | _ => ([], cs)

/-- Whether a piece between two slashes says nothing. -/
def isVoid (piece : List Char) : Bool := piece.isEmpty || piece == ['.']

/-- The component that a piece between two slashes stands for. -/
def componentOf (piece : List Char) : Component :=
  if piece = ['.', '.'] then .up else .name (String.ofList piece)

/-- The components of a path. -/
def components (p : String) : List Component :=
  let (head, body) := splitHead p.toList
  let front : List Component :=
    match head with
    | '/' :: _ => [.root]
    | '.' :: _ => [.here]
    | _ => []
  front ++ ((splitChars (· == '/') body).filter (!isVoid ·)).map componentOf

/-- Whether two paths have the same components. -/
def same (p q : String) : Bool := components p == components q

/-- The name of the file that a path leads to. -/
def fileName? (p : String) : Option String :=
  match (components p).getLast? with
  | some (.name s) => some s
  | _ => none

/-- The pieces up to the last that says something. -/
def dropVoidEnd (pieces : List (List Char)) : List (List Char) :=
  (pieces.reverse.dropWhile isVoid).reverse

/-- Pieces with slashes between them. -/
def joinPieces (pieces : List (List Char)) : List Char :=
  List.intercalate ['/'] pieces

/-- A path without its last component, or `none` if it has none to lose. -/
def parent? (p : String) : Option String :=
  let (head, body) := splitHead p.toList
  let pieces := dropVoidEnd (splitChars (· == '/') body)
  if pieces.isEmpty then
    if head = ['.'] then some "" else none
  else some (String.ofList (head ++ joinPieces (dropVoidEnd pieces.dropLast)))

/-- A path, and as many of the directories that it lies in as is said: each is followed by the
one in which it stands. -/
def ancestorsWithin : Nat → String → List String
  | 0, p => [p]
  | n + 1, p =>
    match parent? p with
    | some q => p :: ancestorsWithin n q
    | none => [p]

/-- A path and all directories that it lies in. -/
def ancestors (p : String) : List String := ancestorsWithin p.length p

/-- The path `q` as seen from the directory `p`. -/
def join (p q : String) : String :=
  if isAbsolute q then q
  else if p.isEmpty || endsWith p "/" then p ++ q
  else p ++ "/" ++ q

/-- What stands behind the last dot of a file name that does not start with it. -/
def extension? (p : String) : Option String :=
  (fileName? p).bind fun name =>
    match (splitOnChar '.' name).reverse with
    | ext :: stem :: more => if stem.isEmpty && more.isEmpty then none else some ext
    | _ => none

end HarnessRepair.Path
