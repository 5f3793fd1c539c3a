import FragmentImports.Archive.BitStream
import FragmentImports.Archive.Checksum

/-!
Decompression of block-sorted streams: every block is a text whose rotations were sorted, its
letters given by their places in a list that moves to the front what is used, and these places by
canonical codes that change every fifty symbols.
-/

namespace FragmentImports.Bzip2

open BitStream (Outcome readBit readHighFirst refuse write)

abbrev Reader := BitStream.Reader Unit

def blockMark : Nat := 0x314159265359
def endMark : Nat := 0x177245385090

def expectBytes : List Nat → Reader Unit
  | [] => return ()
  | byte :: rest => do
      if (← readHighFirst 0 8) ≠ byte then refuse ()
      expectBytes rest

def bytesOf (mark : Nat) : List Nat :=
  (List.range 6).map fun i => (mark >>> (8 * (5 - i))) % 256

def readSixteen : Reader (List Nat) := do
  let bits ← readHighFirst 0 16
  return (List.range 16).filter fun i => bits.testBit (15 - i)

def readLetters : Reader (List Nat) := do
  let rows ← readSixteen
  let found ← rows.mapM fun row => do return (← readSixteen).map (16 * row + ·)
  return found.flatten

def readOnes : (bound : Nat) → Reader Nat
  | 0 => refuse ()
  | bound + 1 => do
      if (← readBit) = 0 then return 0
      return 1 + (← readOnes bound)

def moveToFront? {α : Type} (items : List α) (place : Nat) : Option (α × List α) :=
  items[place]?.map fun item => (item, item :: items.eraseIdx place)

def readSelectors (codes : Nat) : (count : Nat) → (order : List Nat) → Reader (List Nat)
  | 0, _ => return []
  | count + 1, order => do
      match moveToFront? order (← readOnes codes) with
      | none => refuse ()
      | some (code, order) => return code :: (← readSelectors codes count order)

def readLength : (bound last : Nat) → Reader Nat
  | 0, _ => throw .endOfInput
  | bound + 1, last => do
      if last < 1 ∨ 20 < last then refuse ()
      if (← readBit) = 0 then return last
      readLength bound (if (← readBit) = 0 then last + 1 else last - 1)

def readLengths (bound : Nat) : (count last : Nat) → Reader (List Nat)
  | 0, _ => return []
  | count + 1, last => do
      let length ← readLength bound last
      return length :: (← readLengths bound count length)

def readCode (bound symbols : Nat) : Reader PrefixCode := do
  return .ofLengths 21 (← readLengths bound symbols (← readHighFirst 0 5))

def groupSize : Nat := 50

structure Codes where
  groups : List PrefixCode
  left : Nat := groupSize

def Codes.read (codes : Codes) : Reader (Nat × Codes) :=
  let codes := if codes.left = 0 then ⟨codes.groups.drop 1, groupSize⟩ else codes
  match codes.groups with
  | [] => refuse ()
  | code :: _ => do return (← code.read (), { codes with left := codes.left - 1 })

def maximalRunWeight : Nat := 0x200000

/-- Reads the letters of a block. A run of the front letter is written in the digits one and two,
the lowest first: `weight` is that of the next digit and `run` the number so far. -/
def readBlockLetters (size : Nat) : (bound : Nat) → Codes → (order : List Nat) →
    (weight run : Nat) → Array Nat → Reader (Array Nat)
  | 0, _, _, _, _, _ => throw .endOfInput
  | bound + 1, codes, order, weight, run, letters => do
      let (symbol, codes) ← codes.read
      if symbol < 2 then
        if maximalRunWeight ≤ weight then refuse ()
        readBlockLetters size bound codes order (2 * weight) (run + (symbol + 1) * weight) letters
      else
        if size < letters.size + run then refuse ()
        let letters := letters ++ List.replicate run (order.headD 0)
        if symbol = order.length + 1 then return letters
        if size ≤ letters.size then refuse ()
        match moveToFront? order (symbol - 1) with
        | none => refuse ()
        | some (letter, order) =>
            readBlockLetters size bound codes order 1 0 (letters.push letter)

/-- The letters of a block in their order: the letter behind the place `start` of the sorted
rotations first, and then from each letter to the one that follows it. -/
def unsorted (letters : Array Nat) (start : Nat) : List Nat :=
  let sorted := (List.range letters.size).mergeSort fun i j => letters.getD i 0 ≤ letters.getD j 0
  let followers := sorted.toArray
  let step (state : Nat × List Nat) (_ : Nat) : Nat × List Nat :=
    (followers.getD state.1 0, letters.getD state.1 0 :: state.2)
  ((List.range letters.size).foldl step (followers.getD start 0, [])).2.reverse

def shuffleDistances : List Nat :=
  [619, 720, 127, 481, 931, 816, 813, 233, 566, 247, 985, 724, 205, 454, 863, 491, 741, 242, 949,
   214, 733, 859, 335, 708, 621, 574, 73, 654, 730, 472, 419, 436, 278, 496, 867, 210, 399, 680,
   480, 51, 878, 465, 811, 169, 869, 675, 611, 697, 867, 561, 862, 687, 507, 283, 482, 129, 807,
   591, 733, 623, 150, 238, 59, 379, 684, 877, 625, 169, 643, 105, 170, 607, 520, 932, 727, 476,
   693, 425, 174, 647, 73, 122, 335, 530, 442, 853, 695, 249, 445, 515, 909, 545, 703, 919, 874,
   474, 882, 500, 594, 612, 641, 801, 220, 162, 819, 984, 589, 513, 495, 799, 161, 604, 958, 533,
   221, 400, 386, 867, 600, 782, 382, 596, 414, 171, 516, 375, 682, 485, 911, 276, 98, 553, 163,
   354, 666, 933, 424, 341, 533, 870, 227, 730, 475, 186, 263, 647, 537, 686, 600, 224, 469, 68,
   770, 919, 190, 373, 294, 822, 808, 206, 184, 943, 795, 384, 383, 461, 404, 758, 839, 887, 715,
   67, 618, 276, 204, 918, 873, 777, 604, 560, 951, 160, 578, 722, 79, 804, 96, 409, 713, 940, 652,
   934, 970, 447, 318, 353, 859, 672, 112, 785, 645, 863, 803, 350, 139, 93, 354, 99, 820, 908, 609,
   772, 154, 274, 580, 184, 79, 626, 630, 742, 653, 282, 762, 623, 680, 81, 927, 626, 789, 125, 411,
   521, 938, 300, 821, 78, 343, 175, 128, 250, 170, 774, 972, 275, 999, 639, 495, 78, 352, 126, 857,
   956, 358, 619, 580, 124, 737, 594, 701, 612, 669, 112, 134, 694, 363, 992, 809, 743, 168, 974,
   944, 375, 748, 52, 600, 747, 642, 182, 862, 81, 344, 805, 988, 739, 511, 655, 814, 334, 249, 515,
   897, 955, 664, 981, 649, 113, 974, 459, 893, 228, 433, 837, 553, 268, 926, 240, 102, 654, 459,
   51, 686, 754, 806, 760, 493, 403, 415, 394, 687, 700, 946, 670, 656, 610, 738, 392, 760, 799,
   887, 653, 978, 321, 576, 617, 626, 502, 894, 679, 243, 440, 680, 879, 194, 572, 640, 724, 926,
   56, 204, 700, 707, 151, 457, 449, 797, 195, 791, 558, 945, 679, 297, 59, 87, 824, 713, 663, 412,
   693, 342, 606, 134, 108, 571, 364, 631, 212, 174, 643, 304, 329, 343, 97, 430, 751, 497, 314,
   983, 374, 822, 928, 140, 206, 73, 263, 980, 736, 876, 478, 430, 305, 170, 514, 364, 692, 829, 82,
   855, 953, 676, 246, 369, 970, 294, 750, 807, 827, 150, 790, 288, 923, 804, 378, 215, 828, 592,
   281, 565, 555, 710, 82, 896, 831, 547, 261, 524, 462, 293, 465, 502, 56, 661, 821, 976, 991, 658,
   869, 905, 758, 745, 193, 768, 550, 608, 933, 378, 286, 215, 979, 792, 961, 61, 688, 793, 644,
   986, 403, 106, 366, 905, 644, 372, 567, 466, 434, 645, 210, 389, 550, 919, 135, 780, 773, 635,
   389, 707, 100, 626, 958, 165, 504, 920, 176, 193, 713, 857, 265, 203, 50, 668, 108, 645, 990,
   626, 197, 510, 357, 358, 850, 858, 364, 936, 638]

/-- Changes the lowest bit of the last letter but one of every distance; `left` letters of the
present one are to come. -/
def unshuffled (left : Nat) (distances : List Nat) : List Nat → List Nat
  | [] => []
  | letter :: rest =>
      let distances := if distances = [] then shuffleDistances else distances
      let (left, distances) :=
        if left = 0 then (distances.headD 0, distances.drop 1) else (left, distances)
      (if left = 2 then letter ^^^ 1 else letter) :: unshuffled (left - 1) distances rest

structure Expansion where
  output : ByteArray := .empty
  last : Nat := 0
  times : Nat := 0

/-- Four equal bytes in a row are followed by the number of those to come. -/
def Expansion.add (state : Expansion) (byte : Nat) : Expansion :=
  if state.times = 4 then
    let more := List.replicate byte state.last.toUInt8
    ⟨more.foldl ByteArray.push state.output, 0, 0⟩
  else
    let times := if byte = state.last then state.times + 1 else 1
    ⟨state.output.push byte.toUInt8, byte, times⟩

def readBlock (size bound : Nat) : Reader Nat := do
  let checksum ← readHighFirst 0 32
  let isShuffled := (← readBit) = 1
  let start ← readHighFirst 0 24
  if size + 10 < start then refuse ()
  let found ← readLetters
  if found = [] then refuse ()
  let codeCount ← readHighFirst 0 3
  if codeCount < 2 ∨ 6 < codeCount then refuse ()
  let groupCount ← readHighFirst 0 15
  if groupCount < 1 then refuse ()
  let selectors ← readSelectors codeCount groupCount (List.range codeCount)
  let codes ← BitStream.readList codeCount (readCode bound (found.length + 2))
  let groups := (selectors.take 18002).filterMap fun selector => codes[selector]?
  let letters ← readBlockLetters size bound { groups := groups } found 1 0 #[]
  if letters.size ≤ start then refuse ()
  let sorted := unsorted letters start
  let given := if isShuffled then unshuffled 0 [] sorted else sorted
  let expansion := given.foldl Expansion.add {}
  if expansion.times = 4 ∨ Checksum.crc32HighFirst expansion.output ≠ checksum then refuse ()
  modify fun stream => { stream with output := stream.output ++ expansion.output }
  return checksum

def readBlocks (size : Nat) : (bound : Nat) → (total : Nat) → Reader Unit
  | 0, _ => throw .endOfInput
  | bound + 1, total => do
      let first ← readHighFirst 0 8
      if some first = (bytesOf endMark).head? then
        expectBytes ((bytesOf endMark).drop 1)
        if (← readHighFirst 0 32) ≠ total then refuse ()
      else
        if some first ≠ (bytesOf blockMark).head? then refuse ()
        expectBytes ((bytesOf blockMark).drop 1)
        let checksum ← readBlock size (8 * (← get).input.size + 1)
        let rotated := (2 * total) % 0x100000000 + total >>> 31
        readBlocks size bound (rotated ^^^ checksum)

def readStream (bound : Nat) : Reader Unit := do
  expectBytes ("BZh".toList.map Char.toNat)
  let level ← readHighFirst 0 8
  if level < '1'.toNat ∨ '9'.toNat < level then refuse ()
  readBlocks (100000 * (level - '0'.toNat)) bound 0

end FragmentImports.Bzip2

namespace FragmentImports

/-- What a block-sorted stream stands for. Bytes behind the stream are ignored. -/
def unsortBlocks (input : ByteArray) : BitStream.Outcome Unit :=
  BitStream.run (Bzip2.readStream (8 * input.size + 1)) .highFirst input

end FragmentImports
