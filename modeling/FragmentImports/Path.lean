/-!
Paths of a POSIX file system as values: an anchor and the components behind it. Empty and `.`
components carry no meaning and are dropped when a path is read.
-/

namespace FragmentImports

/-- Where a path starts: at the working directory, at the root, or at the doubled slash whose
meaning POSIX leaves open. -/
inductive Anchor where
  | relative
  | root
  | doubled
  deriving DecidableEq, Repr

namespace Anchor

def ofText : List Char → Anchor
  | '/' :: '/' :: '/' :: _ => .root
  | '/' :: '/' :: _ => .doubled
  | '/' :: _ => .root
  | _ => .relative

def render : Anchor → String
  | .relative => ""
  | .root => "/"
  | .doubled => "//"

end Anchor

structure Path where
  anchor : Anchor
  parts : List String
  deriving DecidableEq, Repr

namespace Path

def components (text : List Char) : List String :=
  ((text.splitOn '/').filter fun part => part ≠ [] ∧ part ≠ ['.']).map String.ofList

def ofString (text : String) : Path := ⟨.ofText text.toList, components text.toList⟩

def render (path : Path) : String :=
  if path.anchor = .relative ∧ path.parts = [] then "."
  else path.anchor.render ++ "/".intercalate path.parts

def descend (rooted : Bool) (behind : List String) (part : String) : List String :=
  if part ≠ ".." then part :: behind
  else match behind with
    | [] => if rooted then [] else [".."]
    | last :: rest => if last = ".." then ".." :: last :: rest else rest

/-- Resolves `..` against the component before it, without looking at a file system. -/
def collapse (rooted : Bool) (parts : List String) : List String :=
  (parts.foldl (descend rooted) []).reverse

def normalize (path : Path) : Path :=
  { path with parts := collapse (path.anchor ≠ .relative) path.parts }

def parent (path : Path) : Path := { path with parts := path.parts.dropLast }

def name (path : Path) : String := path.parts.getLast?.getD ""

def join (base path : Path) : Path :=
  if path.anchor = .relative then { base with parts := base.parts ++ path.parts } else path

def fromRoot (cwd : List String) (path : Path) : List String :=
  collapse true (if path.anchor = .relative then cwd ++ path.parts else path.parts)

/-- The steps from one directory to a target: up to their common ancestor, then down. -/
def steps : List String → List String → List String
  | here :: up, target :: down =>
      if here = target then steps up down
      else List.replicate (up.length + 1) ".." ++ target :: down
  | up, down => List.replicate up.length ".." ++ down

end Path

/-- Splits a file name before its last dot, unless the dot is its first or last character. -/
def splitSuffix (name : List Char) : List Char × List Char :=
  let tail := name.reverse.takeWhile (· ≠ '.')
  let cut := name.length - tail.length - 1
  if tail.length < name.length ∧ 0 < cut ∧ cut + 1 < name.length then
    (name.take cut, name.drop cut)
  else (name, [])

namespace Path

def stem (path : Path) : String := String.ofList (splitSuffix path.name.toList).1

def suffix (path : Path) : String := String.ofList (splitSuffix path.name.toList).2

end Path

end FragmentImports
