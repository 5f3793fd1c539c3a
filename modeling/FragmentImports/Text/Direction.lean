import FragmentImports.Text.Mark

/-!
The directions in which characters are written (Unicode 14.0), for those of international domain
names.
-/

namespace FragmentImports

inductive Direction where
  | leftToRight
  | rightToLeft
  | europeanDigit
  | arabicDigit
  | neutral
  | mark
  deriving DecidableEq, Repr

namespace Direction

def rightToLeftBoundaries : List Nat :=
  [1488, 1552, 1568, 1611, 1646, 1648, 1649, 1750, 1765, 1767, 1774, 1776, 1786, 1809, 1810, 1840,
   1869, 1958, 1969, 2027, 2036, 2045, 2048, 2070, 2074, 2075, 2084, 2085, 2088, 2089, 2112, 2137,
   2144, 2200, 2208, 2250, 65139, 65536, 67584, 68097, 68112, 68152, 68192, 68325, 68352, 68900,
   69248, 69291, 69296, 69446, 69488, 69506, 69552, 69632, 124928, 125136, 125218, 125252, 125259,
   131072]

def neutralBoundaries : List Nat :=
  [45, 48, 183, 223, 697, 699, 710, 720, 748, 750, 885, 887, 8204, 8526, 11823, 12293, 12539, 12540,
   42623, 42625, 42775, 42787, 42888, 42892]

def europeanDigitBoundaries : List Nat := [48, 97, 1776, 1786]

def arabicDigitBoundaries : List Nat := [1632, 1646, 68912, 69248]

def of (c : Char) : Direction :=
  if isNonspacingMark c then mark
  else if withinBoundaries europeanDigitBoundaries c.toNat then europeanDigit
  else if withinBoundaries arabicDigitBoundaries c.toNat then arabicDigit
  else if withinBoundaries neutralBoundaries c.toNat then neutral
  else if withinBoundaries rightToLeftBoundaries c.toNat then rightToLeft
  else leftToRight

end Direction

end FragmentImports
