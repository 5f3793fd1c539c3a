import FragmentImports.Archive.BitStream

/-!
Decompression of DEFLATE streams: stored blocks, and blocks of canonical codes over literals and
copies of earlier output.
-/

namespace FragmentImports.Inflate

open BitStream (Ending Outcome expect readBit readList readLowFirst refuse skipToByte write)

inductive Fault where
  | blockType
  | storedLengths
  | tooManySymbols
  | codeLengths
  | lengthRepeat
  | missingEnd
  | literalLengths
  | distanceLengths
  | literalCode
  | distanceCode
  | distanceTooFar
  deriving DecidableEq, Repr

def Fault.message : Fault → String
  | blockType => "invalid block type"
  | storedLengths => "invalid stored block lengths"
  | tooManySymbols => "too many length or distance symbols"
  | codeLengths => "invalid code lengths set"
  | lengthRepeat => "invalid bit length repeat"
  | missingEnd => "invalid code -- missing end-of-block"
  | literalLengths => "invalid literal/lengths set"
  | distanceLengths => "invalid distances set"
  | literalCode => "invalid literal/length code"
  | distanceCode => "invalid distance code"
  | distanceTooFar => "invalid distance too far back"

abbrev Reader := BitStream.Reader Fault

/-- Whether lengths make a code: every row of bits has to be the start of one code, but a code of
one symbol may leave the other bit free, and one of none may stand unused. -/
def isCode (mayBeSingle : Bool) (lengths : List Nat) : Bool :=
  let used := lengths.filter (0 < ·)
  let share := (used.map fun length => 1 <<< (15 - length)).foldl (· + ·) 0
  used = [] || share = 0x8000 || (mayBeSingle && used = [1])

def codeOf (lengths : List Nat) : PrefixCode := .ofLengths (lengths.foldl max 1) lengths

def expectCode (fault : Fault) (mayBeSingle : Bool) (lengths : List Nat) : Reader PrefixCode :=
  if isCode mayBeSingle lengths then return codeOf lengths else refuse fault

def lengthRanges : List (Nat × Nat) :=
  [(3, 0), (4, 0), (5, 0), (6, 0), (7, 0), (8, 0), (9, 0), (10, 0), (11, 1), (13, 1), (15, 1),
   (17, 1), (19, 2), (23, 2), (27, 2), (31, 2), (35, 3), (43, 3), (51, 3), (59, 3), (67, 4),
   (83, 4), (99, 4), (115, 4), (131, 5), (163, 5), (195, 5), (227, 5), (258, 0)]

def distanceRanges : List (Nat × Nat) :=
  [(1, 0), (2, 0), (3, 0), (4, 0), (5, 1), (7, 1), (9, 2), (13, 2), (17, 3), (25, 3), (33, 4),
   (49, 4), (65, 5), (97, 5), (129, 6), (193, 6), (257, 7), (385, 7), (513, 8), (769, 8),
   (1025, 9), (1537, 9), (2049, 10), (3073, 10), (4097, 11), (6145, 11), (8193, 12), (12289, 12),
   (16385, 13), (24577, 13)]

def readRange (fault : Fault) (ranges : List (Nat × Nat)) (symbol : Nat) : Reader Nat := do
  let (base, extra) ← expect fault ranges[symbol]?
  return base + (← readLowFirst extra)

def copyBack (distance : Nat) : (length : Nat) → Reader Unit
  | 0 => return ()
  | length + 1 => do
      let output := (← get).output
      if output.size < distance then refuse .distanceTooFar
      write (← expect .distanceTooFar output[output.size - distance]?)
      copyBack distance length

/-- Writes the symbols of a block up to its end; every symbol takes a bit, so `bound` suffices. -/
def readSymbols (literals distances : PrefixCode) : (bound : Nat) → Reader Unit
  | 0 => throw .endOfInput
  | bound + 1 => do
      let symbol ← literals.read .literalCode
      if symbol < 256 then
        write symbol.toUInt8
        readSymbols literals distances bound
      else if symbol = 256 then return ()
      else
        let length ← readRange .literalCode lengthRanges (symbol - 257)
        let distance ← readRange .distanceCode distanceRanges (← distances.read .distanceCode)
        copyBack distance length
        readSymbols literals distances bound

def readStored : Reader Unit := do
  skipToByte
  let length ← readLowFirst 16
  let complement ← readLowFirst 16
  if length + complement ≠ 0xFFFF then refuse .storedLengths
  let stream ← get
  let start := stream.bit / 8
  let found := stream.input.extract start (start + length)
  set { stream with bit := stream.bit + 8 * found.size, output := stream.output ++ found }
  if found.size < length then throw .endOfInput

def fixedLiterals : PrefixCode :=
  codeOf (List.replicate 144 8 ++ List.replicate 112 9 ++ List.replicate 24 7
    ++ List.replicate 8 8)

def fixedDistances : PrefixCode := codeOf (List.replicate 30 5)

def lengthOrder : List Nat := [16, 17, 18, 0, 8, 7, 9, 6, 10, 5, 11, 4, 12, 3, 13, 2, 14, 1, 15]

def readLengthSymbol (code : PrefixCode) : Reader Nat := do
  if code.symbols.isEmpty then
    let _ ← readBit
    return 0
  else code.read .codeLengths

/-- Code lengths with repetitions, the latest first, until `total` are read; `bound` suffices when
it is the number of lengths to come. -/
def readLengths (code : PrefixCode) (total : Nat) :
    (bound : Nat) → List Nat → Reader (List Nat)
  | 0, lengths => return lengths
  | bound + 1, lengths => do
      if total ≤ lengths.length then return lengths
      let more (value times : Nat) : Reader (List Nat) :=
        if total < lengths.length + times then refuse .lengthRepeat
        else readLengths code total bound (List.replicate times value ++ lengths)
      match ← readLengthSymbol code with
      | 16 =>
          let last ← expect .lengthRepeat lengths.head?
          more last (3 + (← readLowFirst 2))
      | 17 => more 0 (3 + (← readLowFirst 3))
      | 18 => more 0 (11 + (← readLowFirst 7))
      | length => more length 1

def readCodes : Reader (PrefixCode × PrefixCode) := do
  let literalCount := 257 + (← readLowFirst 5)
  let distanceCount := 1 + (← readLowFirst 5)
  let lengthCount := 4 + (← readLowFirst 4)
  if 286 < literalCount ∨ 30 < distanceCount then refuse .tooManySymbols
  let given ← readList lengthCount (readLowFirst 3)
  let ordered := (List.range 19).map fun symbol =>
    ((lengthOrder.zip given).find? fun pair => pair.1 = symbol).elim 0 Prod.snd
  let total := literalCount + distanceCount
  let lengthCode ← expectCode .codeLengths false ordered
  let lengths := (← readLengths lengthCode total total []).reverse
  if lengths[256]?.getD 0 = 0 then refuse .missingEnd
  return (← expectCode .literalLengths true (lengths.take literalCount),
    ← expectCode .distanceLengths true (lengths.drop literalCount))

def readBlock (bound : Nat) : Reader Unit := do
  match ← readLowFirst 2 with
  | 0 => readStored
  | 1 => readSymbols fixedLiterals fixedDistances bound
  | 2 =>
      let (literals, distances) ← readCodes
      readSymbols literals distances bound
  | _ => refuse .blockType

def readBlocks : (bound : Nat) → Reader Unit
  | 0 => throw .endOfInput
  | bound + 1 => do
      let last ← readBit
      readBlock (8 * (← get).input.size + 1)
      if last ≠ 1 then readBlocks bound

end FragmentImports.Inflate

namespace FragmentImports

/-- What a DEFLATE stream stands for. Bytes behind the stream are ignored. -/
def inflate (input : ByteArray) : BitStream.Outcome Inflate.Fault :=
  BitStream.run (Inflate.readBlocks (8 * input.size + 1)) .lowFirst input

end FragmentImports
