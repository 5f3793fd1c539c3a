/-!
Literal values, arguments and directives of GraphQL documents, without their source positions.
-/

namespace FragmentImports.Document

/-- A value without parts; numbers keep their spelling, texts whether they were block strings. -/
inductive Scalar where
  | reference (variableName : String)
  | integer (spelling : String)
  | float (spelling : String)
  | string (content : String) (block : Bool)
  | boolean (value : Bool)
  | null
  | enum (name : String)
  deriving DecidableEq, Repr, Inhabited

inductive Value where
  | scalar (leaf : Scalar)
  | list (items : List Value)
  | object (fields : List (String × Value))
  deriving Repr, Inhabited

namespace Value

mutual

def decEq : (a b : Value) → Decidable (a = b)
  | .scalar a, .scalar b => decidable_of_decidable_of_iff (p := a = b) (by simp)
  | .list a, .list b =>
      have := decEqItems a b
      decidable_of_decidable_of_iff (p := a = b) (by simp)
  | .object a, .object b =>
      have := decEqFields a b
      decidable_of_decidable_of_iff (p := a = b) (by simp)
  | .scalar _, .list _ => isFalse (by simp)
  | .scalar _, .object _ => isFalse (by simp)
  | .list _, .scalar _ => isFalse (by simp)
  | .list _, .object _ => isFalse (by simp)
  | .object _, .scalar _ => isFalse (by simp)
  | .object _, .list _ => isFalse (by simp)

def decEqItems : (a b : List Value) → Decidable (a = b)
  | [], [] => isTrue rfl
  | [], _ :: _ => isFalse (by simp)
  | _ :: _, [] => isFalse (by simp)
  | a :: as, b :: bs =>
      have := decEq a b
      have := decEqItems as bs
      decidable_of_decidable_of_iff (p := a = b ∧ as = bs) (by simp)

def decEqFields : (a b : List (String × Value)) → Decidable (a = b)
  | [], [] => isTrue rfl
  | [], _ :: _ => isFalse (by simp)
  | _ :: _, [] => isFalse (by simp)
  | (name, a) :: as, (name', b) :: bs =>
      have := decEq a b
      have := decEqFields as bs
      decidable_of_decidable_of_iff (p := name = name' ∧ a = b ∧ as = bs) (by simp [and_assoc])

end

instance : DecidableEq Value := decEq

end Value

structure Argument where
  name : String
  value : Value
  deriving DecidableEq, Repr, Inhabited

structure Directive where
  name : String
  arguments : List Argument
  deriving DecidableEq, Repr, Inhabited

structure Description where
  content : String
  block : Bool
  deriving DecidableEq, Repr

inductive TypeReference where
  | named (name : String)
  | list (item : TypeReference)
  | nonNull (type : TypeReference)
  deriving DecidableEq, Repr

namespace TypeReference

def namedType : TypeReference → String
  | named name => name
  | list item => item.namedType
  | nonNull type => type.namedType

def render : TypeReference → String
  | named name => name
  | list item => "[" ++ item.render ++ "]"
  | nonNull type => type.render ++ "!"

def isNonNull : TypeReference → Bool
  | nonNull _ => true
  | _ => false

end TypeReference

end FragmentImports.Document
