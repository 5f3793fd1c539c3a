import FragmentImports.Archive.BitStream

/-!
Decompression of chained streams that a range coder has written: every bit narrows a range in
proportion to the chance that it had in its context.
-/

namespace FragmentImports.Lzma

open BitStream (Ending Outcome Stop)

structure Parameters where
  contextBits : Nat
  placeBits : Nat
  stepBits : Nat
  window : Nat
  deriving DecidableEq, Repr

def Parameters.ofBytes? : List UInt8 → Option Parameters
  | [first, a, b, c, d] =>
      let packed := first.toNat
      let given := a.toNat + 256 * (b.toNat + 256 * (c.toNat + 256 * d.toNat))
      let contextBits := packed % 9
      let placeBits := packed / 9 % 5
      if packed < 225 ∧ contextBits + placeBits ≤ 4 then
        some ⟨contextBits, placeBits, packed / 45, (max 4096 given + 15) / 16 * 16⟩
      else none
  | _ => none

/-- What was written last, as far as it changes the chances of what comes next: seven states behind
a byte and five behind a copy. -/
abbrev History := Nat

def History.isBehindCopy (history : History) : Bool := 7 ≤ history

def History.addByte (history : History) : History :=
  if history < 4 then 0 else if history < 10 then history - 3 else history - 6

def History.addCopy (history : History) (behindByte behindCopy : Nat) : History :=
  if history.isBehindCopy then behindCopy else behindByte

structure Coder where
  input : ByteArray
  taken : Nat := 0
  range : Nat := 0xFFFFFFFF
  code : Nat := 0
  chances : Array Nat
  output : ByteArray := .empty
  history : History := 0
  distances : List Nat := [0, 0, 0, 0]

abbrev Reader := ExceptT (Stop Unit) (StateM Coder)

def refuse {α : Type} : Reader α := throw (.malformed ())

/-! Places of the contexts among the chances. -/

def copyContext : Nat := 0
def repeatContext : Nat := 192
def firstContext : Nat := 204
def secondContext : Nat := 216
def thirdContext : Nat := 228
def longContext : Nat := 240
def slotContext : Nat := 432
def nearContext : Nat := 688
def alignContext : Nat := 803
def newLengthContext : Nat := 819
def oldLengthContext : Nat := 1333
def byteContext : Nat := 1847

def readByte : Reader Nat := do
  let coder ← get
  match coder.input[coder.taken]? with
  | none => throw .endOfInput
  | some byte =>
      modify fun coder => { coder with taken := coder.taken + 1 }
      return byte.toNat

def widen : Reader Unit := do
  if (← get).range < 0x1000000 then
    let byte ← readByte
    modify fun coder =>
      { coder with range := coder.range * 256, code := (coder.code * 256 + byte) % 0x100000000 }

def readBit (context : Nat) : Reader Nat := do
  widen
  let coder ← get
  let chance := coder.chances.getD context 1024
  let bound := coder.range / 2048 * chance
  if coder.code < bound then
    modify fun coder => { coder with
      range := bound
      chances := coder.chances.setIfInBounds context (chance + (2048 - chance) / 32) }
    return 0
  else
    modify fun coder => { coder with
      range := coder.range - bound
      code := coder.code - bound
      chances := coder.chances.setIfInBounds context (chance - chance / 32) }
    return 1

def readEvenBits (above : Nat) : (width : Nat) → Reader Nat
  | 0 => return above
  | width + 1 => do
      widen
      let half := (← get).range / 2
      let bit := if (← get).code < half then 0 else 1
      modify fun coder => { coder with range := half, code := coder.code - bit * half }
      readEvenBits (2 * above + bit) width

/-- A path of some bits through a tree of contexts, the highest bit first, behind a node. -/
def walkTree (context node : Nat) : (width : Nat) → Reader Nat
  | 0 => return node
  | width + 1 => do walkTree context (2 * node + (← readBit (context + node))) width

def readTree (context width : Nat) : Reader Nat := do
  return (← walkTree context 1 width) - 1 <<< width

def readReversedTree (context node : Nat) : (width : Nat) → Reader Nat
  | 0 => return 0
  | width + 1 => do
      let bit ← readBit (context + node)
      return bit + 2 * (← readReversedTree context (2 * node + bit) width)

def byteBack (distance : Nat) : Reader Nat := do
  let output := (← get).output
  if output.size ≤ distance then return 0
  return (output[output.size - 1 - distance]?.getD 0).toNat

/-- A byte in the contexts that another byte chooses, as long as the two agree. -/
def walkBeside (context : Nat) : (width other node : Nat) → Reader Nat
  | 0, _, node => return node
  | width + 1, other, node => do
      let expected := other / 128 % 2
      let bit ← readBit (context + 0x100 * (1 + expected) + node)
      if bit = expected then walkBeside context width (2 * other) (2 * node + bit)
      else walkTree context (2 * node + bit) width

def push (byte : Nat) : Reader Unit :=
  modify fun coder => { coder with output := coder.output.push byte.toUInt8 }

def readLiteral (parameters : Parameters) : Reader Unit := do
  let coder ← get
  let place := coder.output.size % (1 <<< parameters.placeBits)
  let before := (← byteBack 0) >>> (8 - parameters.contextBits)
  let context := byteContext + 0x300 * ((place <<< parameters.contextBits) + before)
  let node ←
    if coder.history.isBehindCopy then do
      walkBeside context 8 (← byteBack (coder.distances.headD 0)) 1
    else walkTree context 1 8
  push (node % 256)
  modify fun coder => { coder with history := coder.history.addByte }

def readLength (context step : Nat) : Reader Nat := do
  if (← readBit context) = 0 then return 2 + (← readTree (context + 2 + 8 * step) 3)
  if (← readBit (context + 1)) = 0 then return 10 + (← readTree (context + 130 + 8 * step) 3)
  return 18 + (← readTree (context + 258) 8)

/-- The distance of a copy of some length: a slot, and what lies between this slot and the next. -/
def readDistance (length : Nat) : Reader Nat := do
  let slot ← readTree (slotContext + 64 * (min length 5 - 2)) 6
  if slot < 4 then return slot
  let width := slot / 2 - 1
  let base := 2 + slot % 2
  if slot < 14 then
    let start := base <<< width
    return start + (← readReversedTree (nearContext + start - slot - 1) 1 width)
  let above ← readEvenBits base (width - 4)
  return 16 * above + (← readReversedTree alignContext 1 4)

def copyBack (distance : Nat) : (length : Nat) → Reader Unit
  | 0 => return ()
  | length + 1 => do
      push (← byteBack distance)
      copyBack distance length

def copyFrom (parameters : Parameters) (distances : List Nat) (length : Nat) : Reader Unit := do
  let distance := distances.headD 0
  if min (← get).output.size parameters.window ≤ distance then refuse
  modify fun coder => { coder with distances := distances }
  copyBack distance length

def readOldDistances (distances : List Nat) (history : History) : Reader (List Nat) := do
  let take (place : Nat) : List Nat := distances.getD place 0 :: distances.eraseIdx place
  if (← readBit (secondContext + history)) = 0 then return take 1
  if (← readBit (thirdContext + history)) = 0 then return take 2
  return take 3

def endDistance : Nat := 0xFFFFFFFF

def finish : Reader Unit := do
  widen
  if (← get).code ≠ 0 then refuse

def readStep (parameters : Parameters) : Reader Bool := do
  let coder ← get
  let history := coder.history
  let step := coder.output.size % (1 <<< parameters.stepBits)
  if (← readBit (copyContext + 16 * history + step)) = 0 then
    readLiteral parameters
    return true
  if (← readBit (repeatContext + history)) = 0 then
    let length ← readLength newLengthContext step
    let distance ← readDistance length
    if distance = endDistance then
      finish
      return false
    modify fun coder => { coder with history := history.addCopy 7 10 }
    copyFrom parameters (distance :: coder.distances.take 3) length
    return true
  if coder.output.size = 0 then refuse
  let isOld := (← readBit (firstContext + history)) = 1
  let isLong ← if isOld then pure 1 else readBit (longContext + 16 * history + step)
  if isLong = 0 then
    modify fun coder => { coder with history := history.addCopy 9 11 }
    copyFrom parameters coder.distances 1
    return true
  let distances ←
    if isOld then readOldDistances coder.distances history else pure coder.distances
  let length ← readLength oldLengthContext step
  modify fun coder => { coder with history := history.addCopy 8 11 }
  copyFrom parameters distances length
  return true

def readSteps (parameters : Parameters) : (bound : Nat) → Reader Unit
  | 0 => throw .endOfInput
  | bound + 1 => do if ← readStep parameters then readSteps parameters bound

/-- Reads the four bytes of the code behind a zero, and what follows. Every bit narrows the range by
a 66th or more, so a byte lasts for fewer than 512 of them. -/
def readStream (parameters : Parameters) : Reader Unit := do
  if (← readByte) ≠ 0 then refuse
  for _ in List.range 4 do
    let byte ← readByte
    modify fun coder => { coder with code := 256 * coder.code + byte }
  readSteps parameters (512 * ((← get).input.size + 8))

def contextCount (parameters : Parameters) : Nat :=
  byteContext + 0x300 <<< (parameters.contextBits + parameters.placeBits)

def run (parameters : Parameters) (input : ByteArray) : Outcome Unit :=
  let chances := Array.replicate (contextCount parameters) 1024
  let start : Coder := { input := input, chances := chances }
  let (result, coder) := (ExceptT.run (readStream parameters)).run start
  let ending : Ending Unit := match result with
    | .ok () => .complete
    | .error .endOfInput => .cutOff
    | .error (.malformed cause) => .malformed cause
  ⟨coder.output, ending, coder.taken⟩

end FragmentImports.Lzma

namespace FragmentImports

def unchain (parameters : List UInt8) (input : ByteArray) : BitStream.Outcome Unit :=
  match Lzma.Parameters.ofBytes? parameters with
  | some parameters => Lzma.run parameters input
  | none => ⟨.empty, .malformed (), 0⟩

end FragmentImports
