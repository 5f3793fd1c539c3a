import FragmentImports.Text.Basic

/-!
Combining marks (Unicode 14.0). The tables hold for the letters of international domain names; what
lies between two of these belongs to either side.
-/

namespace FragmentImports

def nonspacingMarkBoundaries : List Nat :=
  [768, 880, 1155, 1162, 1425, 1488, 1552, 1568, 1611, 1632, 1648, 1649, 1750, 1765, 1767, 1774,
   1809, 1810, 1840, 1869, 1958, 1969, 2027, 2036, 2045, 2048, 2070, 2074, 2075, 2084, 2085, 2088,
   2089, 2112, 2137, 2144, 2200, 2208, 2250, 2307, 2362, 2363, 2364, 2365, 2369, 2377, 2381, 2382,
   2385, 2400, 2402, 2406, 2433, 2434, 2492, 2493, 2497, 2503, 2509, 2510, 2530, 2534, 2558, 2563,
   2620, 2622, 2625, 2652, 2672, 2674, 2677, 2691, 2748, 2749, 2753, 2761, 2765, 2768, 2786, 2790,
   2810, 2818, 2876, 2877, 2879, 2880, 2881, 2887, 2893, 2903, 2914, 2918, 2946, 2947, 3008, 3009,
   3021, 3024, 3072, 3073, 3076, 3077, 3132, 3133, 3134, 3137, 3142, 3160, 3170, 3174, 3201, 3202,
   3260, 3261, 3276, 3285, 3298, 3302, 3328, 3330, 3387, 3389, 3393, 3398, 3405, 3406, 3426, 3430,
   3457, 3458, 3530, 3535, 3538, 3544, 3633, 3634, 3636, 3648, 3655, 3664, 3761, 3762, 3764, 3773,
   3784, 3792, 3864, 3872, 3893, 3902, 3953, 3967, 3968, 3976, 3981, 4096, 4141, 4145, 4146, 4152,
   4153, 4155, 4157, 4159, 4184, 4186, 4190, 4193, 4209, 4213, 4226, 4227, 4229, 4231, 4237, 4238,
   4253, 4256, 4957, 4992, 5906, 5909, 5938, 5940, 5970, 5984, 6002, 6016, 6071, 6078, 6086, 6087,
   6089, 6103, 6109, 6112, 6277, 6279, 6313, 6314, 6432, 6435, 6439, 6441, 6450, 6451, 6457, 6470,
   6679, 6681, 6683, 6688, 6742, 6743, 6744, 6753, 6754, 6755, 6757, 6765, 6771, 6784, 6832, 6916,
   6964, 6965, 6966, 6971, 6972, 6973, 6978, 6979, 7019, 7042, 7074, 7078, 7080, 7082, 7083, 7086,
   7142, 7143, 7144, 7146, 7149, 7150, 7151, 7154, 7212, 7220, 7222, 7232, 7376, 7393, 7394, 7401,
   7405, 7406, 7412, 7413, 7416, 7418, 7616, 7680, 11503, 11506, 11647, 11648, 11744, 11823, 12330,
   12348, 12441, 12445, 42607, 42623, 42654, 42656, 42736, 42775, 43010, 43011, 43014, 43015, 43019,
   43020, 43045, 43047, 43052, 43072, 43204, 43216, 43232, 43250, 43263, 43264, 43302, 43312, 43335,
   43346, 43392, 43395, 43443, 43444, 43446, 43450, 43452, 43454, 43493, 43494, 43561, 43567, 43569,
   43571, 43573, 43584, 43587, 43588, 43596, 43597, 43644, 43645, 43696, 43697, 43698, 43701, 43703,
   43705, 43710, 43712, 43713, 43714, 43756, 43758, 43766, 43777, 44005, 44006, 44008, 44009, 44013,
   44016, 64286, 65139, 66045, 66176, 66272, 66304, 66422, 66432, 68097, 68112, 68152, 68192, 68325,
   68352, 68900, 68912, 69291, 69296, 69446, 69488, 69506, 69552, 69633, 69634, 69688, 69734, 69744,
   69745, 69747, 69749, 69759, 69762, 69811, 69815, 69817, 69840, 69888, 69891, 69927, 69932, 69933,
   69942, 70003, 70006, 70016, 70018, 70070, 70079, 70089, 70094, 70095, 70096, 70191, 70194, 70196,
   70197, 70198, 70272, 70367, 70368, 70371, 70384, 70400, 70402, 70459, 70461, 70464, 70465, 70502,
   70656, 70712, 70720, 70722, 70725, 70726, 70727, 70750, 70751, 70835, 70841, 70842, 70843, 70847,
   70849, 70850, 70852, 71090, 71096, 71100, 71102, 71103, 71128, 71132, 71168, 71219, 71227, 71229,
   71230, 71231, 71236, 71339, 71340, 71341, 71342, 71344, 71350, 71351, 71352, 71453, 71456, 71458,
   71462, 71463, 71472, 71727, 71736, 71737, 71840, 71995, 71997, 71998, 71999, 72003, 72016, 72148,
   72156, 72160, 72161, 72193, 72199, 72201, 72203, 72243, 72249, 72251, 72272, 72273, 72279, 72281,
   72284, 72330, 72343, 72344, 72349, 72752, 72766, 72850, 72873, 72874, 72881, 72882, 72884, 72885,
   72960, 73009, 73030, 73031, 73040, 73104, 73107, 73109, 73110, 73111, 73112, 73459, 73461, 92912,
   92928, 92976, 92992, 94031, 94032, 94095, 94099, 94180, 94192, 113821, 122624, 122880, 123136,
   123184, 123191, 123566, 123584, 123628, 123632, 125136, 125184, 125252, 125259]

def spacingMarkBoundaries : List Nat :=
  [2307, 2308, 2363, 2364, 2366, 2369, 2377, 2381, 2382, 2384, 2434, 2437, 2494, 2497, 2503, 2509,
   2519, 2528, 2563, 2565, 2622, 2625, 2691, 2693, 2750, 2753, 2761, 2765, 2818, 2821, 2878, 2879,
   2880, 2881, 2887, 2893, 2903, 2911, 3006, 3008, 3009, 3021, 3031, 3046, 3073, 3076, 3137, 3142,
   3202, 3205, 3262, 3276, 3285, 3293, 3330, 3332, 3390, 3393, 3398, 3405, 3415, 3423, 3458, 3461,
   3535, 3538, 3544, 3558, 3570, 3585, 3902, 3904, 3967, 3968, 4139, 4141, 4145, 4146, 4152, 4153,
   4155, 4157, 4182, 4184, 4194, 4197, 4199, 4206, 4227, 4229, 4231, 4237, 4239, 4240, 4250, 4253,
   5909, 5919, 5940, 5952, 6070, 6071, 6078, 6086, 6087, 6089, 6435, 6439, 6441, 6450, 6451, 6457,
   6681, 6683, 6741, 6742, 6743, 6744, 6753, 6754, 6755, 6757, 6765, 6771, 6916, 6917, 6965, 6966,
   6971, 6972, 6973, 6978, 6979, 6981, 7042, 7043, 7073, 7074, 7078, 7080, 7082, 7083, 7143, 7144,
   7146, 7149, 7150, 7151, 7154, 7168, 7204, 7212, 7220, 7222, 7393, 7394, 7415, 7416, 43043, 43045,
   43047, 43052, 43136, 43138, 43188, 43204, 43346, 43392, 43395, 43396, 43444, 43446, 43450, 43452,
   43454, 43471, 43567, 43569, 43571, 43573, 43597, 43600, 43643, 43644, 43645, 43646, 43755, 43756,
   43758, 43762, 43765, 43766, 44003, 44005, 44006, 44008, 44009, 44013, 69632, 69633, 69634, 69635,
   69762, 69763, 69808, 69811, 69815, 69817, 69932, 69933, 69957, 69959, 70018, 70019, 70067, 70070,
   70079, 70081, 70094, 70095, 70188, 70191, 70194, 70196, 70197, 70198, 70368, 70371, 70402, 70405,
   70462, 70464, 70465, 70480, 70487, 70493, 70498, 70502, 70709, 70712, 70720, 70722, 70725, 70726,
   70832, 70835, 70841, 70842, 70843, 70847, 70849, 70850, 71087, 71090, 71096, 71100, 71102, 71103,
   71216, 71219, 71227, 71229, 71230, 71231, 71340, 71341, 71342, 71344, 71350, 71351, 71456, 71458,
   71462, 71463, 71724, 71727, 71736, 71737, 71984, 71995, 71997, 71998, 72000, 72001, 72002, 72003,
   72145, 72148, 72156, 72160, 72164, 72192, 72199, 72201, 72249, 72250, 72279, 72281, 72343, 72344,
   72751, 72752, 72766, 72768, 72873, 72874, 72881, 72882, 72884, 72885, 73098, 73104, 73107, 73109,
   73110, 73111, 73461, 73648, 94033, 94095, 94192, 94208]

def isNonspacingMark (c : Char) : Bool := withinBoundaries nonspacingMarkBoundaries c.toNat

def isMark (c : Char) : Bool :=
  isNonspacingMark c || withinBoundaries spacingMarkBoundaries c.toNat

def combiningClassRuns : List (Nat × Nat) :=
  [(768, 230), (789, 232), (790, 220), (794, 232), (795, 216), (796, 220), (801, 202), (803, 220),
   (807, 202), (809, 220), (820, 1), (825, 220), (829, 230), (839, 220), (842, 230), (845, 220),
   (848, 230), (851, 220), (855, 230), (856, 232), (857, 220), (859, 230), (860, 233), (861, 234),
   (863, 233), (864, 234), (866, 233), (867, 230), (881, 0), (1155, 230), (1163, 0), (1425, 220),
   (1426, 230), (1430, 220), (1431, 230), (1434, 222), (1435, 220), (1436, 230), (1442, 220),
   (1448, 230), (1450, 220), (1451, 230), (1453, 222), (1454, 228), (1455, 230), (1456, 10),
   (1457, 11), (1458, 12), (1459, 13), (1460, 14), (1461, 15), (1462, 16), (1463, 17), (1464, 18),
   (1465, 19), (1467, 20), (1468, 21), (1469, 22), (1471, 23), (1473, 24), (1474, 25), (1476, 230),
   (1477, 220), (1479, 18), (1488, 0), (1552, 230), (1560, 30), (1561, 31), (1562, 32), (1568, 0),
   (1611, 27), (1612, 28), (1613, 29), (1614, 30), (1615, 31), (1616, 32), (1617, 33), (1618, 34),
   (1619, 230), (1621, 220), (1623, 230), (1628, 220), (1629, 230), (1631, 220), (1632, 0),
   (1648, 35), (1649, 0), (1750, 230), (1763, 220), (1764, 230), (1765, 0), (1767, 230),
   (1770, 220), (1771, 230), (1773, 220), (1774, 0), (1809, 36), (1810, 0), (1840, 230),
   (1841, 220), (1842, 230), (1844, 220), (1845, 230), (1847, 220), (1850, 230), (1851, 220),
   (1853, 230), (1854, 220), (1855, 230), (1858, 220), (1859, 230), (1860, 220), (1861, 230),
   (1862, 220), (1863, 230), (1864, 220), (1865, 230), (1869, 0), (2027, 230), (2034, 220),
   (2035, 230), (2036, 0), (2045, 220), (2048, 0), (2070, 230), (2074, 0), (2075, 230), (2084, 0),
   (2085, 230), (2088, 0), (2089, 230), (2112, 0), (2137, 220), (2144, 0), (2200, 230), (2201, 220),
   (2204, 230), (2208, 0), (2250, 230), (2255, 220), (2260, 230), (2275, 220), (2276, 230),
   (2278, 220), (2279, 230), (2281, 220), (2282, 230), (2285, 220), (2288, 27), (2289, 28),
   (2290, 29), (2291, 230), (2294, 220), (2295, 230), (2297, 220), (2299, 230), (2304, 0),
   (2364, 7), (2365, 0), (2381, 9), (2382, 0), (2385, 230), (2386, 220), (2387, 230), (2389, 0),
   (2492, 7), (2493, 0), (2509, 9), (2510, 0), (2558, 230), (2561, 0), (2620, 7), (2622, 0),
   (2637, 9), (2641, 0), (2748, 7), (2749, 0), (2765, 9), (2768, 0), (2876, 7), (2877, 0),
   (2893, 9), (2901, 0), (3021, 9), (3024, 0), (3132, 7), (3133, 0), (3149, 9), (3157, 84),
   (3158, 91), (3160, 0), (3260, 7), (3261, 0), (3277, 9), (3285, 0), (3387, 9), (3389, 0),
   (3405, 9), (3406, 0), (3530, 9), (3535, 0), (3640, 103), (3642, 9), (3648, 0), (3656, 107),
   (3660, 0), (3768, 118), (3770, 9), (3771, 0), (3784, 122), (3788, 0), (3864, 220), (3872, 0),
   (3893, 220), (3897, 216), (3902, 0), (3953, 129), (3954, 130), (3956, 132), (3962, 130),
   (3966, 0), (3968, 130), (3970, 230), (3972, 9), (3974, 230), (3976, 0), (4038, 220), (4096, 0),
   (4151, 7), (4152, 0), (4153, 9), (4155, 0), (4237, 220), (4238, 0), (4957, 230), (4992, 0),
   (5908, 9), (5919, 0), (5940, 9), (5952, 0), (6098, 9), (6099, 0), (6109, 230), (6112, 0),
   (6313, 228), (6314, 0), (6457, 222), (6458, 230), (6459, 220), (6470, 0), (6679, 230),
   (6680, 220), (6681, 0), (6752, 9), (6753, 0), (6773, 230), (6783, 220), (6784, 0), (6832, 230),
   (6837, 220), (6843, 230), (6845, 220), (6849, 230), (6851, 220), (6853, 230), (6858, 220),
   (6859, 230), (6912, 0), (6964, 7), (6965, 0), (6980, 9), (6981, 0), (7019, 230), (7020, 220),
   (7021, 230), (7040, 0), (7082, 9), (7084, 0), (7142, 7), (7143, 0), (7154, 9), (7168, 0),
   (7223, 7), (7232, 0), (7376, 230), (7380, 1), (7381, 220), (7386, 230), (7388, 220), (7392, 230),
   (7393, 0), (7394, 1), (7401, 0), (7405, 220), (7406, 0), (7412, 230), (7413, 0), (7416, 230),
   (7418, 0), (7616, 230), (7618, 220), (7619, 230), (7626, 220), (7627, 230), (7629, 234),
   (7630, 214), (7631, 220), (7632, 202), (7633, 230), (7670, 232), (7671, 228), (7673, 220),
   (7674, 218), (7675, 230), (7676, 233), (7677, 220), (7678, 230), (7679, 220), (7681, 0),
   (11503, 230), (11507, 0), (11647, 9), (11648, 0), (11744, 230), (11823, 0), (12330, 218),
   (12331, 228), (12332, 232), (12333, 222), (12348, 0), (12441, 8), (12445, 0), (42607, 230),
   (42623, 0), (42654, 230), (42656, 0), (42736, 230), (42775, 0), (43014, 9), (43015, 0),
   (43052, 9), (43072, 0), (43204, 9), (43205, 0), (43232, 230), (43250, 0), (43307, 220),
   (43312, 0), (43347, 9), (43392, 0), (43443, 7), (43444, 0), (43456, 9), (43471, 0), (43696, 230),
   (43697, 0), (43698, 230), (43700, 220), (43701, 0), (43703, 230), (43705, 0), (43710, 230),
   (43712, 0), (43713, 230), (43714, 0), (43766, 9), (43777, 0), (44013, 9), (44016, 0),
   (64286, 26), (65056, 230), (65063, 220), (65070, 230), (65139, 0), (66045, 220), (66176, 0),
   (66272, 220), (66304, 0), (66422, 230), (66432, 0), (68109, 220), (68110, 0), (68111, 230),
   (68112, 0), (68152, 230), (68153, 1), (68154, 220), (68159, 9), (68192, 0), (68325, 230),
   (68326, 220), (68352, 0), (68900, 230), (68912, 0), (69291, 230), (69296, 0), (69446, 220),
   (69448, 230), (69451, 220), (69452, 230), (69453, 220), (69488, 0), (69506, 230), (69507, 220),
   (69508, 230), (69509, 220), (69552, 0), (69702, 9), (69734, 0), (69744, 9), (69745, 0),
   (69759, 9), (69760, 0), (69817, 9), (69818, 7), (69826, 0), (69888, 230), (69891, 0), (69939, 9),
   (69942, 0), (70003, 7), (70006, 0), (70080, 9), (70081, 0), (70090, 7), (70091, 0), (70197, 9),
   (70198, 7), (70199, 0), (70377, 7), (70378, 9), (70384, 0), (70459, 7), (70461, 0), (70477, 9),
   (70480, 0), (70502, 230), (70656, 0), (70722, 9), (70723, 0), (70726, 7), (70727, 0),
   (70750, 230), (70751, 0), (70850, 9), (70851, 7), (70852, 0), (71103, 9), (71104, 7), (71128, 0),
   (71231, 9), (71232, 0), (71350, 9), (71351, 7), (71352, 0), (71467, 9), (71472, 0), (71737, 9),
   (71738, 7), (71872, 0), (71997, 9), (71999, 0), (72003, 7), (72016, 0), (72160, 9), (72161, 0),
   (72244, 9), (72245, 0), (72263, 9), (72272, 0), (72345, 9), (72349, 0), (72767, 9), (72768, 0),
   (73026, 7), (73027, 0), (73028, 9), (73030, 0), (73111, 9), (73112, 0), (92912, 1), (92928, 0),
   (92976, 230), (92992, 0), (94192, 6), (94208, 0), (113822, 1), (118528, 0), (122880, 230),
   (123136, 0), (123184, 230), (123191, 0), (123566, 230), (123584, 0), (123628, 230), (123632, 0),
   (125136, 220), (125218, 0), (125252, 230), (125258, 7), (125259, 0)]

/-- Where a mark has its place around a base; zero stands for characters that are no such mark. -/
def combiningClass (c : Char) : Nat :=
  combiningClassRuns.foldl (fun found (start, next) => if start ≤ c.toNat then next else found) 0

def viramaClass : Nat := 9

end FragmentImports
