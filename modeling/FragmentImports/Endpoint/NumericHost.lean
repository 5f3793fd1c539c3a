import FragmentImports.Text.Basic

/-!
Hosts that are given by numbers: four numbers with points between them, or up to eight groups of
hexadecimal digits with colons between them, where two colons stand for any number of empty groups.
-/

namespace FragmentImports.Endpoint.NumericHost

/-- Where the reading of four groups of digits with one character between them may stand: behind
`2 * i` when group `i` comes next, behind `2 * i + 1` within it. -/
def groupSteps (state : Nat) (c : Char) : List Nat :=
  if state % 2 = 0 then if c.isDigit then [state + 1] else []
  else (if c.isDigit then [state] else []) ++ (if state < 7 then [state + 1] else [])

def looksNumeric (host : List Char) : Bool :=
  let reached := host.foldl (fun states c => (states.flatMap (groupSteps · c)).eraseDups) [0]
  reached.contains 7

def isOctet (part : List Char) : Bool :=
  part ≠ [] && part.all Char.isDigit && part.length ≤ 3
    && (part.length = 1 || part.head? ≠ some '0') && Digits.decimal part < 256

def isFourOctets (host : List Char) : Bool :=
  let parts := host.splitOn '.'
  parts.length = 4 && parts.all isOctet

def isGroup (part : List Char) : Bool :=
  part.length ≤ 4 && part.all fun c => (Digits.hexDigit? c).isSome

/-- Whether groups are complete, `skips` being the places of the empty ones between two others. An
empty group at either end needs another one beside it. -/
def areGroups (parts : List (List Char)) : Bool :=
  let skips := (List.range (parts.length - 2)).filterMap fun i =>
    if parts[i + 1]? = some [] then some (i + 1) else none
  match skips with
  | [] => parts.length = 8 && parts.all (· ≠ []) && parts.all isGroup
  | [skip] =>
      let front := parts.take skip
      let back := parts.drop (skip + 1)
      let isEnd (groups : List (List Char)) : Bool := groups = [[]] || !groups.contains []
      isEnd front && isEnd back && (front ++ back).countP (· ≠ []) < 8
        && (front ++ back).all isGroup
  | _ => false

def isGroupHost (text : List Char) : Bool :=
  let parts := text.splitOn ':'
  let last := parts.getLastD []
  let hasOctets := last.contains '.'
  let parts := if hasOctets then parts.dropLast ++ [['0'], ['0']] else parts
  3 ≤ (text.splitOn ':').length && parts.length ≤ 9 && (!hasOctets || isFourOctets last)
    && areGroups parts

def isZonedHost (text : List Char) : Bool :=
  let host := text.takeWhile (· ≠ '%')
  match text.drop host.length with
  | [] => isGroupHost host
  | _ :: zone => zone ≠ [] && !zone.contains '%' && !text.contains '/' && isGroupHost host

end FragmentImports.Endpoint.NumericHost
