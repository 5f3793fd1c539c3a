/-!
Streams of bits with the bytes that are made of them: the ground on which compressed formats are
read.
-/

namespace FragmentImports

inductive BitOrder where
  | lowFirst
  | highFirst
  deriving DecidableEq, Repr

structure BitStream where
  input : ByteArray
  order : BitOrder
  bit : Nat := 0
  output : ByteArray := .empty

namespace BitStream

inductive Stop (ε : Type) where
  | endOfInput
  | malformed (cause : ε)
  deriving DecidableEq, Repr

abbrev Reader (ε : Type) := ExceptT (Stop ε) (StateM BitStream)

variable {ε : Type}

def refuse {α : Type} (cause : ε) : Reader ε α := throw (.malformed cause)

def expect {α : Type} (cause : ε) : Option α → Reader ε α
  | some value => return value
  | none => refuse cause

def readBit : Reader ε Nat := do
  let stream ← get
  match stream.input[stream.bit / 8]? with
  | none => throw .endOfInput
  | some byte =>
      modify fun stream => { stream with bit := stream.bit + 1 }
      let place := match stream.order with
        | .lowFirst => stream.bit % 8
        | .highFirst => 7 - stream.bit % 8
      return (byte.toNat >>> place) % 2

def readLowFirst : (width : Nat) → Reader ε Nat
  | 0 => return 0
  | width + 1 => do
      let low ← readBit
      return low + 2 * (← readLowFirst width)

def readHighFirst (above : Nat) : (width : Nat) → Reader ε Nat
  | 0 => return above
  | width + 1 => do readHighFirst (2 * above + (← readBit)) width

def skipToByte : Reader ε Unit :=
  modify fun stream => { stream with bit := (stream.bit + 7) / 8 * 8 }

def write (byte : UInt8) : Reader ε Unit :=
  modify fun stream => { stream with output := stream.output.push byte }

def readList {α : Type} : (count : Nat) → Reader ε α → Reader ε (List α)
  | 0, _ => return []
  | count + 1, one => do
      let first ← one
      return first :: (← readList count one)

inductive Ending (ε : Type) where
  | complete
  | cutOff
  | malformed (cause : ε)
  deriving DecidableEq, Repr

structure Outcome (ε : Type) where
  output : ByteArray
  ending : Ending ε
  size : Nat

def run (reader : Reader ε Unit) (order : BitOrder) (input : ByteArray) : Outcome ε :=
  let (result, stream) := (ExceptT.run reader).run { input := input, order := order }
  let ending : Ending ε := match result with
    | .ok () => .complete
    | .error .endOfInput => .cutOff
    | .error (.malformed cause) => .malformed cause
  ⟨stream.output, ending, (stream.bit + 7) / 8⟩

end BitStream

/-- A canonical code: how many codes there are of each length from one on, and the symbols in the
order of their codes. -/
structure PrefixCode where
  counts : List Nat
  symbols : Array Nat

namespace PrefixCode

open BitStream (Reader expect readBit refuse)

def ofLengths (longest : Nat) (lengths : List Nat) : PrefixCode :=
  let ofLength (length : Nat) : List Nat :=
    lengths.zipIdx.filterMap fun (found, symbol) => if found = length then some symbol else none
  let groups := (List.range longest).map fun i => ofLength (i + 1)
  ⟨groups.map List.length, groups.flatten.toArray⟩

variable {ε : Type}

/-- Reads a code bit by bit: `first` is the least code of the length reached, `index` the number of
symbols with shorter codes. -/
def readFrom (cause : ε) (symbols : Array Nat) :
    (counts : List Nat) → (code first index : Nat) → Reader ε Nat
  | [], _, _, _ => refuse cause
  | count :: longer, code, first, index => do
      let code := 2 * code + (← readBit)
      let first := 2 * first
      if code < first + count then
        if index + code < first then refuse cause else expect cause symbols[index + code - first]?
      else readFrom cause symbols longer code (first + count) (index + count)

def read (code : PrefixCode) (cause : ε) : Reader ε Nat :=
  readFrom cause code.symbols code.counts 0 0 0

end PrefixCode

end FragmentImports
