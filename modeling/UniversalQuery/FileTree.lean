import UniversalQuery.Entries

set_option autoImplicit false

/-! Trees of files. A file is found by the names on the way to it. -/

namespace UniversalQuery

/-- Why a file cannot be opened. -/
inductive FileError where
  | notFound
  | notADirectory
  | isADirectory
deriving DecidableEq, Repr

def FileError.message : FileError → String
  | .notFound => "No such file or directory (os error 2)"
  | .notADirectory => "Not a directory (os error 20)"
  | .isADirectory => "Is a directory (os error 21)"

abbrev FileTree := List (List String × String)

namespace FileTree

/-- The names on a path. Empty ones and single dots lead nowhere. -/
def namesOf (path : String) : List String :=
  ((path.splitToList (· == '/')).filter fun name => name != "" && name != ".")

/-- Whether a path can only be that of a directory. -/
def namesDirectory (path : String) : Bool :=
  match (path.splitToList (· == '/')).getLast? with
  | some last => last == "" || last == "."
  | none => true

def content? (tree : FileTree) (names : List String) : Option String :=
  tree.lookup names

/-- Whether there is a directory of the given names. The empty list is the tree itself. -/
def hasDirectory (tree : FileTree) (names : List String) : Bool :=
  names.isEmpty || tree.any fun file => names.isPrefixOf file.1 && names != file.1

/-- Follows names to a directory, which is none outside the tree, where nothing is known. Two dots
lead to the directory around it. -/
def enter (tree : FileTree) :
    Option (List String) → List String → Except FileError (Option (List String))
  | place, [] => .ok place
  | none, name :: rest => if name = ".." then tree.enter none rest else .error .notFound
  | some place, name :: rest =>
    if name = ".." then tree.enter (if place = [] then none else some place.dropLast) rest
    else if (tree.content? (place ++ [name])).isSome then .error .notADirectory
    else if tree.hasDirectory (place ++ [name]) then tree.enter (some (place ++ [name])) rest
    else .error .notFound

/-- Where a path leads: a directory, or a name in a directory of the tree. -/
inductive Location where
  | directory
  | entry (names : List String)
deriving DecidableEq, Repr

/-- Where a path leads. Nothing is known of places outside the tree. -/
def locate (tree : FileTree) (path : String) : Except FileError Location :=
  if path = "" ∨ path.startsWith "/" then .error .notFound
  else
    let names := namesOf path
    match names.getLast? with
    | none => .ok .directory
    | some last =>
      if last = ".." then (tree.enter (some []) names).map fun _ => .directory
      else do
        match ← tree.enter (some []) names.dropLast with
        | some place => .ok (.entry (place ++ [last]))
        | none => .error .notFound

def read (tree : FileTree) (path : String) : Except FileError String := do
  match ← tree.locate path with
  | .directory => .error .isADirectory
  | .entry names =>
    match tree.content? names with
    | some content => if namesDirectory path then .error .notADirectory else .ok content
    | none => if tree.hasDirectory names then .error .isADirectory else .error .notFound

def write (tree : FileTree) (path content : String) : Except FileError FileTree := do
  match ← tree.locate path with
  | .directory => .error .isADirectory
  | .entry names =>
    if tree.hasDirectory names ∨ namesDirectory path then .error .isADirectory
    else .ok ((names, content) :: tree.filter (·.1 != names))

def ofPaths (files : Entries String) : FileTree :=
  files.map fun file => (namesOf file.1, file.2)

end FileTree

end UniversalQuery
