import FragmentImports.Text.CharacterName.A
import FragmentImports.Text.CharacterName.B
import FragmentImports.Text.CharacterName.C
import FragmentImports.Text.CharacterName.DToF
import FragmentImports.Text.CharacterName.GToK
import FragmentImports.Text.CharacterName.L
import FragmentImports.Text.CharacterName.M
import FragmentImports.Text.CharacterName.NToR
import FragmentImports.Text.CharacterName.S
import FragmentImports.Text.CharacterName.TToZ
import FragmentImports.Text.Basic

/-!
The names of characters, which stand for them in a text (Unicode 14.0; later versions name more
characters). Most are listed, with the aliases; those of ideographs tell the code point, and those
of Hangul syllables tell the letters.
-/

namespace FragmentImports.CharacterName

def listings : List (List String) :=
  [fromA, fromB, fromC, fromDToF, fromGToK, fromL, fromM, fromNToR, fromS, fromTToZ]

/-- The entries of a listing: the number of words that are shared, and the others. -/
def entries (listing : List Char) : List (Nat × List (List Char)) :=
  (listing.foldr
    (fun c (own, later) =>
      if c.isLower then ([], (c.toNat - 97, own.splitOn ' ') :: later) else (c :: own, later))
    (([] : List Char), [])).2

def isAmong (name : List (List Char)) :
    (before : List (List Char)) → List (Nat × List (List Char)) → Bool
  | _, [] => false
  | before, (shared, own) :: later =>
      let words := before.take shared ++ own
      words = name || isAmong name words later

def isListed (name : List Char) : Bool :=
  let words := (name.map Char.toUpper).splitOn ' '
  listings.any fun listing => isAmong words [] (entries (listing.flatMap String.toList))

def unifiedBlocks : List (Nat × Nat) :=
  [(0x3400, 0x4DBF), (0x4E00, 0x9FFF), (0x20000, 0x2A6DF), (0x2A700, 0x2B738), (0x2B740, 0x2B81D),
   (0x2B820, 0x2CEA1), (0x2CEB0, 0x2EBE0), (0x30000, 0x3134A)]

def compatibilityBlocks : List (Nat × Nat) :=
  [(0xF900, 0xFA6D), (0xFA70, 0xFAD9), (0x2F800, 0x2FA1D)]

def khitanBlocks : List (Nat × Nat) := [(0x18B00, 0x18CD5)]

def nushuBlocks : List (Nat × Nat) := [(0x1B170, 0x1B2FB)]

def behind? (start : String) (name : List Char) : Option (List Char) :=
  if start.toList.isPrefixOf name then some (name.drop start.toList.length) else none

def isNumber (blocks : List (Nat × Nat)) (digits : List Char) : Bool :=
  (digits.length = 4 || digits.length = 5) && !digits.any Char.isLower
    && (Digits.hexadecimal? digits).any fun codePoint =>
      blocks.any fun (first, last) => first ≤ codePoint && codePoint ≤ last

/-- The start of a name, the blocks of the characters named so, and whether small letters pass for
capital ones. -/
def numbered : List (String × List (Nat × Nat) × Bool) :=
  [("CJK UNIFIED IDEOGRAPH-", unifiedBlocks, false),
   ("CJK COMPATIBILITY IDEOGRAPH-", compatibilityBlocks, true),
   ("KHITAN SMALL SCRIPT CHARACTER-", khitanBlocks, true),
   ("NUSHU CHARACTER-", nushuBlocks, true)]

def isNumbered (name : List Char) : Bool :=
  numbered.any fun (start, blocks, anyCase) =>
    (behind? start (if anyCase then name.map Char.toUpper else name)).any (isNumber blocks)

def leading : List String :=
  ["GG", "G", "N", "DD", "D", "R", "M", "BB", "B", "SS", "S", "JJ", "J", "C", "K", "T", "P", "H",
   ""]

def vowels : List String :=
  ["YAE", "YEO", "WAE", "WEO", "AE", "YA", "EO", "YE", "WA", "OE", "YO", "WE", "WI", "YU", "EU",
   "YI", "A", "E", "O", "U", "I"]

def trailing : List String :=
  ["GG", "GS", "NJ", "NH", "NG", "LG", "LM", "LB", "LS", "LT", "LP", "LH", "BS", "SS", "G", "N",
   "D", "L", "M", "B", "S", "J", "C", "K", "T", "P", "H", ""]

def behindFirst? (spellings : List String) (name : List Char) : Option (List Char) :=
  spellings.findSome? (behind? · name)

def isSyllable (name : List Char) : Bool :=
  behind? "HANGUL SYLLABLE " name >>= behindFirst? leading >>= behindFirst? vowels
    >>= behindFirst? trailing = some []

end CharacterName

def isCharacterName (name : List Char) : Bool :=
  CharacterName.isSyllable name || CharacterName.isNumbered name || CharacterName.isListed name

end FragmentImports
