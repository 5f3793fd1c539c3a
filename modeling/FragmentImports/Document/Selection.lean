import FragmentImports.Document.Value

/-!
Selections: what an operation or a fragment asks for. A field without a selection set differs from
one whose selection set is empty.
-/

namespace FragmentImports.Document

inductive Selection where
  | field (alias? : Option String) (name : String) (arguments : List Argument)
      (directives : List Directive) (selections? : Option (List Selection))
  | spread (fragment : String) (directives : List Directive)
  | inline (onType? : Option String) (directives : List Directive) (selections : List Selection)
  deriving Repr, Inhabited

namespace Selection

mutual

def decEq : (a b : Selection) → Decidable (a = b)
  | .field alias? name arguments directives inner,
    .field alias?' name' arguments' directives' inner' =>
      have := decEqOptional inner inner'
      decidable_of_decidable_of_iff
        (p := alias? = alias?' ∧ name = name' ∧ arguments = arguments' ∧ directives = directives' ∧
          inner = inner') (by simp)
  | .spread fragment directives, .spread fragment' directives' =>
      decidable_of_decidable_of_iff
        (p := fragment = fragment' ∧ directives = directives') (by simp)
  | .inline onType? directives inner, .inline onType?' directives' inner' =>
      have := decEqAll inner inner'
      decidable_of_decidable_of_iff
        (p := onType? = onType?' ∧ directives = directives' ∧ inner = inner') (by simp)
  | .field .., .spread .. => isFalse (by simp)
  | .field .., .inline .. => isFalse (by simp)
  | .spread .., .field .. => isFalse (by simp)
  | .spread .., .inline .. => isFalse (by simp)
  | .inline .., .field .. => isFalse (by simp)
  | .inline .., .spread .. => isFalse (by simp)

def decEqOptional : (a b : Option (List Selection)) → Decidable (a = b)
  | none, none => isTrue rfl
  | none, some _ => isFalse (by simp)
  | some _, none => isFalse (by simp)
  | some a, some b =>
      have := decEqAll a b
      decidable_of_decidable_of_iff (p := a = b) (by simp)

def decEqAll : (a b : List Selection) → Decidable (a = b)
  | [], [] => isTrue rfl
  | [], _ :: _ => isFalse (by simp)
  | _ :: _, [] => isFalse (by simp)
  | a :: as, b :: bs =>
      have := decEq a b
      have := decEqAll as bs
      decidable_of_decidable_of_iff (p := a = b ∧ as = bs) (by simp)

end

instance : DecidableEq Selection := decEq

mutual

/-- The fragments spread inside a selection, at any depth, in document order. -/
def spreads : Selection → List String
  | .field _ _ _ _ none => []
  | .field _ _ _ _ (some selections) => allSpreads selections
  | .spread fragment _ => [fragment]
  | .inline _ _ selections => allSpreads selections

def allSpreads : List Selection → List String
  | [] => []
  | selection :: rest => selection.spreads ++ allSpreads rest

end

end Selection

end FragmentImports.Document
