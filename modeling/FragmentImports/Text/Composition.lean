import FragmentImports.Text.Mark

/-!
Composed texts: those in which marks stand in canonical order and every base that composes with a
mark is written as one character. The table holds for the letters of international domain names.
-/

namespace FragmentImports.Composition

def triples : List (Nat × Nat × Nat) :=
  [(224, 97, 768), (225, 97, 769), (226, 97, 770), (227, 97, 771), (228, 97, 776), (229, 97, 778),
   (231, 99, 807), (232, 101, 768), (233, 101, 769), (234, 101, 770), (235, 101, 776),
   (236, 105, 768), (237, 105, 769), (238, 105, 770), (239, 105, 776), (241, 110, 771),
   (242, 111, 768), (243, 111, 769), (244, 111, 770), (245, 111, 771), (246, 111, 776),
   (249, 117, 768), (250, 117, 769), (251, 117, 770), (252, 117, 776), (253, 121, 769),
   (255, 121, 776), (257, 97, 772), (259, 97, 774), (261, 97, 808), (263, 99, 769), (265, 99, 770),
   (267, 99, 775), (269, 99, 780), (271, 100, 780), (275, 101, 772), (277, 101, 774),
   (279, 101, 775), (281, 101, 808), (283, 101, 780), (285, 103, 770), (287, 103, 774),
   (289, 103, 775), (291, 103, 807), (293, 104, 770), (297, 105, 771), (299, 105, 772),
   (301, 105, 774), (303, 105, 808), (309, 106, 770), (311, 107, 807), (314, 108, 769),
   (316, 108, 807), (318, 108, 780), (324, 110, 769), (326, 110, 807), (328, 110, 780),
   (333, 111, 772), (335, 111, 774), (337, 111, 779), (341, 114, 769), (343, 114, 807),
   (345, 114, 780), (347, 115, 769), (349, 115, 770), (351, 115, 807), (353, 115, 780),
   (355, 116, 807), (357, 116, 780), (361, 117, 771), (363, 117, 772), (365, 117, 774),
   (367, 117, 778), (369, 117, 779), (371, 117, 808), (373, 119, 770), (375, 121, 770),
   (378, 122, 769), (380, 122, 775), (382, 122, 780), (417, 111, 795), (432, 117, 795),
   (462, 97, 780), (464, 105, 780), (466, 111, 780), (468, 117, 780), (470, 252, 772),
   (472, 252, 769), (474, 252, 780), (476, 252, 768), (479, 228, 772), (481, 551, 772),
   (483, 230, 772), (487, 103, 780), (489, 107, 780), (491, 111, 808), (493, 491, 772),
   (495, 658, 780), (496, 106, 780), (501, 103, 769), (505, 110, 768), (507, 229, 769),
   (509, 230, 769), (511, 248, 769), (513, 97, 783), (515, 97, 785), (517, 101, 783),
   (519, 101, 785), (521, 105, 783), (523, 105, 785), (525, 111, 783), (527, 111, 785),
   (529, 114, 783), (531, 114, 785), (533, 117, 783), (535, 117, 785), (537, 115, 806),
   (539, 116, 806), (543, 104, 780), (551, 97, 775), (553, 101, 807), (555, 246, 772),
   (557, 245, 772), (559, 111, 775), (561, 559, 772), (563, 121, 772), (912, 970, 769),
   (940, 945, 769), (941, 949, 769), (942, 951, 769), (943, 953, 769), (944, 971, 769),
   (970, 953, 776), (971, 965, 776), (972, 959, 769), (973, 965, 769), (974, 969, 769),
   (1081, 1080, 774), (1104, 1077, 768), (1105, 1077, 776), (1107, 1075, 769), (1111, 1110, 776),
   (1116, 1082, 769), (1117, 1080, 768), (1118, 1091, 774), (1143, 1141, 783), (1218, 1078, 774),
   (1233, 1072, 774), (1235, 1072, 776), (1239, 1077, 774), (1243, 1241, 776), (1245, 1078, 776),
   (1247, 1079, 776), (1251, 1080, 772), (1253, 1080, 776), (1255, 1086, 776), (1259, 1257, 776),
   (1261, 1101, 776), (1263, 1091, 772), (1265, 1091, 776), (1267, 1091, 779), (1269, 1095, 776),
   (1273, 1099, 776), (1570, 1575, 1619), (1571, 1575, 1620), (1572, 1608, 1620),
   (1573, 1575, 1621), (1574, 1610, 1620), (1728, 1749, 1620), (1730, 1729, 1620),
   (1747, 1746, 1620), (2345, 2344, 2364), (2353, 2352, 2364), (2356, 2355, 2364),
   (2507, 2503, 2494), (2508, 2503, 2519), (2888, 2887, 2902), (2891, 2887, 2878),
   (2892, 2887, 2903), (2964, 2962, 3031), (3018, 3014, 3006), (3019, 3015, 3006),
   (3020, 3014, 3031), (3144, 3142, 3158), (3264, 3263, 3285), (3271, 3270, 3285),
   (3272, 3270, 3286), (3274, 3270, 3266), (3275, 3274, 3285), (3402, 3398, 3390),
   (3403, 3399, 3390), (3404, 3398, 3415), (3546, 3545, 3530), (3548, 3545, 3535),
   (3549, 3548, 3530), (3550, 3545, 3551), (4134, 4133, 4142), (6918, 6917, 6965),
   (6920, 6919, 6965), (6922, 6921, 6965), (6924, 6923, 6965), (6926, 6925, 6965),
   (6930, 6929, 6965), (6971, 6970, 6965), (6973, 6972, 6965), (6976, 6974, 6965),
   (6977, 6975, 6965), (6979, 6978, 6965), (7681, 97, 805), (7683, 98, 775), (7685, 98, 803),
   (7687, 98, 817), (7689, 231, 769), (7691, 100, 775), (7693, 100, 803), (7695, 100, 817),
   (7697, 100, 807), (7699, 100, 813), (7701, 275, 768), (7703, 275, 769), (7705, 101, 813),
   (7707, 101, 816), (7709, 553, 774), (7711, 102, 775), (7713, 103, 772), (7715, 104, 775),
   (7717, 104, 803), (7719, 104, 776), (7721, 104, 807), (7723, 104, 814), (7725, 105, 816),
   (7727, 239, 769), (7729, 107, 769), (7731, 107, 803), (7733, 107, 817), (7735, 108, 803),
   (7737, 7735, 772), (7739, 108, 817), (7741, 108, 813), (7743, 109, 769), (7745, 109, 775),
   (7747, 109, 803), (7749, 110, 775), (7751, 110, 803), (7753, 110, 817), (7755, 110, 813),
   (7757, 245, 769), (7759, 245, 776), (7761, 333, 768), (7763, 333, 769), (7765, 112, 769),
   (7767, 112, 775), (7769, 114, 775), (7771, 114, 803), (7773, 7771, 772), (7775, 114, 817),
   (7777, 115, 775), (7779, 115, 803), (7781, 347, 775), (7783, 353, 775), (7785, 7779, 775),
   (7787, 116, 775), (7789, 116, 803), (7791, 116, 817), (7793, 116, 813), (7795, 117, 804),
   (7797, 117, 816), (7799, 117, 813), (7801, 361, 769), (7803, 363, 776), (7805, 118, 771),
   (7807, 118, 803), (7809, 119, 768), (7811, 119, 769), (7813, 119, 776), (7815, 119, 775),
   (7817, 119, 803), (7819, 120, 775), (7821, 120, 776), (7823, 121, 775), (7825, 122, 770),
   (7827, 122, 803), (7829, 122, 817), (7830, 104, 817), (7831, 116, 776), (7832, 119, 778),
   (7833, 121, 778), (7841, 97, 803), (7843, 97, 777), (7845, 226, 769), (7847, 226, 768),
   (7849, 226, 777), (7851, 226, 771), (7853, 7841, 770), (7855, 259, 769), (7857, 259, 768),
   (7859, 259, 777), (7861, 259, 771), (7863, 7841, 774), (7865, 101, 803), (7867, 101, 777),
   (7869, 101, 771), (7871, 234, 769), (7873, 234, 768), (7875, 234, 777), (7877, 234, 771),
   (7879, 7865, 770), (7881, 105, 777), (7883, 105, 803), (7885, 111, 803), (7887, 111, 777),
   (7889, 244, 769), (7891, 244, 768), (7893, 244, 777), (7895, 244, 771), (7897, 7885, 770),
   (7899, 417, 769), (7901, 417, 768), (7903, 417, 777), (7905, 417, 771), (7907, 417, 803),
   (7909, 117, 803), (7911, 117, 777), (7913, 432, 769), (7915, 432, 768), (7917, 432, 777),
   (7919, 432, 771), (7921, 432, 803), (7923, 121, 768), (7925, 121, 803), (7927, 121, 777),
   (7929, 121, 771), (7936, 945, 787), (7937, 945, 788), (7938, 7936, 768), (7939, 7937, 768),
   (7940, 7936, 769), (7941, 7937, 769), (7942, 7936, 834), (7943, 7937, 834), (7952, 949, 787),
   (7953, 949, 788), (7954, 7952, 768), (7955, 7953, 768), (7956, 7952, 769), (7957, 7953, 769),
   (7968, 951, 787), (7969, 951, 788), (7970, 7968, 768), (7971, 7969, 768), (7972, 7968, 769),
   (7973, 7969, 769), (7974, 7968, 834), (7975, 7969, 834), (7984, 953, 787), (7985, 953, 788),
   (7986, 7984, 768), (7987, 7985, 768), (7988, 7984, 769), (7989, 7985, 769), (7990, 7984, 834),
   (7991, 7985, 834), (8000, 959, 787), (8001, 959, 788), (8002, 8000, 768), (8003, 8001, 768),
   (8004, 8000, 769), (8005, 8001, 769), (8016, 965, 787), (8017, 965, 788), (8018, 8016, 768),
   (8019, 8017, 768), (8020, 8016, 769), (8021, 8017, 769), (8022, 8016, 834), (8023, 8017, 834),
   (8032, 969, 787), (8033, 969, 788), (8034, 8032, 768), (8035, 8033, 768), (8036, 8032, 769),
   (8037, 8033, 769), (8038, 8032, 834), (8039, 8033, 834), (8048, 945, 768), (8050, 949, 768),
   (8052, 951, 768), (8054, 953, 768), (8056, 959, 768), (8058, 965, 768), (8060, 969, 768),
   (8112, 945, 774), (8113, 945, 772), (8118, 945, 834), (8134, 951, 834), (8144, 953, 774),
   (8145, 953, 772), (8146, 970, 768), (8150, 953, 834), (8151, 970, 834), (8160, 965, 774),
   (8161, 965, 772), (8162, 971, 768), (8164, 961, 787), (8165, 961, 788), (8166, 965, 834),
   (8167, 971, 834), (8182, 969, 834), (12364, 12363, 12441), (12366, 12365, 12441),
   (12368, 12367, 12441), (12370, 12369, 12441), (12372, 12371, 12441), (12374, 12373, 12441),
   (12376, 12375, 12441), (12378, 12377, 12441), (12380, 12379, 12441), (12382, 12381, 12441),
   (12384, 12383, 12441), (12386, 12385, 12441), (12389, 12388, 12441), (12391, 12390, 12441),
   (12393, 12392, 12441), (12400, 12399, 12441), (12401, 12399, 12442), (12403, 12402, 12441),
   (12404, 12402, 12442), (12406, 12405, 12441), (12407, 12405, 12442), (12409, 12408, 12441),
   (12410, 12408, 12442), (12412, 12411, 12441), (12413, 12411, 12442), (12436, 12358, 12441),
   (12446, 12445, 12441), (12460, 12459, 12441), (12462, 12461, 12441), (12464, 12463, 12441),
   (12466, 12465, 12441), (12468, 12467, 12441), (12470, 12469, 12441), (12472, 12471, 12441),
   (12474, 12473, 12441), (12476, 12475, 12441), (12478, 12477, 12441), (12480, 12479, 12441),
   (12482, 12481, 12441), (12485, 12484, 12441), (12487, 12486, 12441), (12489, 12488, 12441),
   (12496, 12495, 12441), (12497, 12495, 12442), (12499, 12498, 12441), (12500, 12498, 12442),
   (12502, 12501, 12441), (12503, 12501, 12442), (12505, 12504, 12441), (12506, 12504, 12442),
   (12508, 12507, 12441), (12509, 12507, 12442), (12532, 12454, 12441), (12535, 12527, 12441),
   (12536, 12528, 12441), (12537, 12529, 12441), (12538, 12530, 12441), (12542, 12541, 12441),
   (69786, 69785, 69818), (69788, 69787, 69818), (69803, 69797, 69818), (69934, 69937, 69927),
   (69935, 69938, 69927), (70475, 70471, 70462), (70476, 70471, 70487), (70843, 70841, 70842),
   (70844, 70841, 70832), (70846, 70841, 70845), (71098, 71096, 71087), (71099, 71097, 71087),
   (71992, 71989, 71984)]

def parts? (c : Char) : Option (Char × Char) :=
  (triples.find? fun triple => triple.1 = c.toNat).map fun (_, base, mark) =>
    (Char.ofNat base, Char.ofNat mark)

def compose? (base mark : Char) : Option Char :=
  (triples.find? fun triple => triple.2 = (base.toNat, mark.toNat)).map fun triple =>
    Char.ofNat triple.1

def maximalSteps : Nat := 4

def decompose : (steps : Nat) → Char → List Char
  | 0, c => [c]
  | steps + 1, c =>
      match parts? c with
      | some (base, mark) => decompose steps base ++ [mark]
      | none => [c]

def settle (c : Char) : List Char → List Char
  | [] => [c]
  | last :: before =>
      let isNearer := 0 < combiningClass c && combiningClass c < combiningClass last
      if isNearer then last :: settle c before else c :: last :: before

/-- A text on its way to be composed: what is done, the latest first, the base that may still
compose, and the marks that stayed behind it, the latest first. -/
structure Progress where
  done : List Char := []
  base? : Option Char := none
  marks : List Char := []

namespace Progress

def all (progress : Progress) : List Char :=
  progress.marks ++ progress.base?.toList ++ progress.done

/-- A mark composes unless one behind the base stands as near to it. -/
def add (progress : Progress) (c : Char) : Progress :=
  let isBlocked := progress.marks.head?.any fun mark => combiningClass c ≤ combiningClass mark
  match if isBlocked then none else progress.base?.bind fun base => compose? base c with
  | some composed => { progress with base? := some composed }
  | none =>
      if combiningClass c = 0 then ⟨progress.all, some c, []⟩
      else { progress with marks := c :: progress.marks }

end Progress

def composed (text : List Char) : List Char :=
  let apart := text.flatMap (decompose maximalSteps)
  let ordered := (apart.foldl (fun before c => settle c before) []).reverse
  (ordered.foldl Progress.add {}).all.reverse

def isComposed (text : List Char) : Bool := composed text = text

end FragmentImports.Composition
