import FragmentImports.Binary64
import FragmentImports.OrderedMap
import FragmentImports.Text.Basic
import FragmentImports.Text.Quoted

/-!
JSON values. Members of an object keep their order and their repetitions; a look-up finds the last
member of a key.
-/

namespace FragmentImports

inductive Json where
  | null
  | boolean (value : Bool)
  | integer (value : Int)
  | float (value : Binary64)
  | string (value : String)
  | array (items : List Json)
  | object (members : List (String × Json))
  deriving Repr, BEq, Inhabited

namespace Json

def lookup? (members : List (String × Json)) (key : String) : Option Json :=
  (members.reverse.find? fun member => member.1 = key).map Prod.snd

theorem mem_of_lookup? {members : List (String × Json)} {key : String} {value : Json}
    (found : lookup? members key = some value) : (key, value) ∈ members := by
  obtain ⟨member, hit, rfl⟩ := Option.map_eq_some_iff.1 found
  have named : member.1 = key := by simpa using List.find?_some hit
  exact named ▸ List.mem_reverse.1 (List.mem_of_find?_eq_some hit)

theorem sizeOf_lookup? {members : List (String × Json)} {key : String} {value : Json}
    (found : lookup? members key = some value) : sizeOf value < sizeOf members := by
  have below := List.sizeOf_lt_of_mem (mem_of_lookup? found)
  rw [Prod.mk.sizeOf_spec] at below
  omega

def lastMembers : List (String × Json) → List (String × Json)
  | [] => []
  | member :: rest =>
      if rest.any fun later => later.1 = member.1 then lastMembers rest
      else member :: lastMembers rest

/-- Values that count as absent: null, false, zero and everything empty. -/
def isEmpty : Json → Bool
  | null => true
  | boolean value => !value
  | integer value => value = 0
  | float value => value.isZero
  | string value => value = ""
  | array items => items.isEmpty
  | object members => members.isEmpty

mutual

/-- The members with every key once: at its first place, with its last value. -/
def unifyKeys : Json → Json
  | array items => array (unifyItems items)
  | object members =>
      object ((unifyMembers members).foldl (fun kept member => assign kept member.1 member.2) [])
  | leaf => leaf

def unifyItems : List Json → List Json
  | [] => []
  | item :: rest => unifyKeys item :: unifyItems rest

def unifyMembers : List (String × Json) → List (String × Json)
  | [] => []
  | (key, value) :: rest => (key, unifyKeys value) :: unifyMembers rest

end

mutual

def literal : Json → String
  | null => "None"
  | boolean value => if value then "True" else "False"
  | integer value => toString value
  | float value => value.render ⟨"inf", "nan"⟩
  | string value => quoted value
  | array items => "[" ++ ", ".intercalate (literalItems items) ++ "]"
  | object members => "\x7b" ++ ", ".intercalate (literalMembers members) ++ "\x7d"

def literalItems : List Json → List String
  | [] => []
  | item :: rest => literal item :: literalItems rest

def literalMembers : List (String × Json) → List String
  | [] => []
  | (key, value) :: rest => (quoted key ++ ": " ++ literal value) :: literalMembers rest

end

def escapeChar (c : Char) : List Char :=
  if c = '"' ∨ c = '\\' then ['\\', c]
  else if 32 ≤ c.toNat ∧ c.toNat < 127 then [c]
  else if c.toNat < 0x10000 then '\\' :: 'u' :: Digits.hex 4 c.toNat
  else
    let offset := c.toNat - 0x10000
    '\\' :: 'u' :: Digits.hex 4 (0xD800 + offset / 0x400)
      ++ '\\' :: 'u' :: Digits.hex 4 (0xDC00 + offset % 0x400)

def renderText (value : String) : String :=
  "\"" ++ String.ofList (value.toList.flatMap escapeChar) ++ "\""

mutual

def render : Json → String
  | null => "null"
  | boolean value => if value then "true" else "false"
  | integer value => toString value
  | float value => value.render ⟨"Infinity", "NaN"⟩
  | string value => renderText value
  | array items => "[" ++ ", ".intercalate (renderItems items) ++ "]"
  | object members => "\x7b" ++ ", ".intercalate (renderMembers members) ++ "\x7d"

def renderItems : List Json → List String
  | [] => []
  | item :: rest => render item :: renderItems rest

def renderMembers : List (String × Json) → List String
  | [] => []
  | (key, value) :: rest => (renderText key ++ ": " ++ render value) :: renderMembers rest

end

end Json

end FragmentImports
