/-!
# Paths

A path is a root and a list of names.  Repeated separators, names that are a
single dot, and a separator at the end are not part of it.  Exactly two
separators at the start make a root of their own; one, or more than two, make
the plain root.
-/

namespace SqlAccess

/-- A path. -/
structure Path where
  /-- The root: nothing for a relative path, one separator or two. -/
  root : String
  /-- The names from the root on. -/
  names : List String
  deriving DecidableEq, Repr

namespace Path

/-- Cuts a list of characters at every separator. -/
def segments : List Char → List (List Char)
  | [] => [[]]
  | '/' :: rest => [] :: segments rest
  | c :: rest =>
    match segments rest with
    | [] => [[c]]
    | segment :: others => (c :: segment) :: others

/-- The root that a list of characters starts with. -/
def rootOf : List Char → String
  | ['/', '/'] => "//"
  | '/' :: '/' :: c :: _ => if c = '/' then "/" else "//"
  | '/' :: _ => "/"
  | _ => ""

/-- Reads a path. -/
def ofText (text : String) : Path :=
  let names := ((segments text.toList).map String.ofList).filter fun name => name ≠ "" ∧ name ≠ "."
  ⟨rootOf text.toList, names⟩

/-- Whether a path starts at a root. -/
def isAbsolute (path : Path) : Bool :=
  path.root != ""

/-- The path as text; the empty relative path is a dot. -/
def toText (path : Path) : String :=
  let text := path.root ++ "/".intercalate path.names
  if text = "" then "." else text

/-- The second path seen from the first one.  An absolute path is the same from
everywhere. -/
def join (directory path : Path) : Path :=
  if path.isAbsolute then path else ⟨directory.root, directory.names ++ path.names⟩

example : (ofText "///a//./b/").toText = "/a/b" := by decide +kernel
example : (ofText "").toText = "." := by decide +kernel
example : ((ofText "a/..").join (ofText "b")).toText = "a/../b" := by decide +kernel

end Path

end SqlAccess
