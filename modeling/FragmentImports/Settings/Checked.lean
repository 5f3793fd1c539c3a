/-!
Values read with every issue collected: two readings together report the issues of both.
-/

namespace FragmentImports.Settings

inductive Step where
  | key (name : String)
  | index (position : Nat)
  deriving DecidableEq, Repr

inductive IssueKind where
  | missing
  | notText
  | notBoolean
  | unknownBoolean
  | notList
  | notObject
  | unknownMode
  | unknownKey
  | invalidJson
  deriving DecidableEq, Repr

/-- What is wrong at a place of the input, which is given by the steps from its root. -/
structure Issue where
  location : List Step
  kind : IssueKind
  deriving DecidableEq, Repr

inductive Checked (α : Type) where
  | valid (value : α)
  | invalid (issues : List Issue)
  deriving DecidableEq, Repr

namespace Checked

variable {α β : Type}

def issues : Checked α → List Issue
  | valid _ => []
  | invalid found => found

def map (f : α → β) : Checked α → Checked β
  | valid value => valid (f value)
  | invalid found => invalid found

def apply : Checked (α → β) → Checked α → Checked β
  | valid f, checked => checked.map f
  | invalid found, checked => invalid (found ++ checked.issues)

instance : Applicative Checked where
  pure := valid
  seq f checked := apply f (checked ())

def andIssues (checked : Checked α) : List Issue → Checked α
  | [] => checked
  | further => invalid (checked.issues ++ further)

def each (read : Nat → α → Checked β) : Nat → List α → Checked (List β)
  | _, [] => valid []
  | position, item :: rest =>
      apply (map List.cons (read position item)) (each read (position + 1) rest)

def toExcept : Checked α → Except (List Issue) α
  | valid value => .ok value
  | invalid found => .error found

end Checked

end FragmentImports.Settings
