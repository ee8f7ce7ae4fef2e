/-!
Marks: characters that belong to the character before them (Unicode 17).

A nonspacing mark takes no room of its own, a spacing mark does. A few spacing marks and joiners
extend the character before them as a nonspacing mark would.
-/
namespace ScriptBench.Marks

/-- Runs of nonspacing and enclosing marks: the first, and how many. -/
def nonspacing : List (Nat × Nat) :=
  [(768, 112), (1155, 7), (1425, 45), (1471, 1), (1473, 2), (1476, 2), (1479, 1), (1552, 11),
   (1611, 21), (1648, 1), (1750, 7), (1759, 6), (1767, 2), (1770, 4), (1809, 1), (1840, 27),
   (1958, 11), (2027, 9), (2045, 1), (2070, 4), (2075, 9), (2085, 3), (2089, 5), (2137, 3),
   (2199, 9), (2250, 24), (2275, 32), (2362, 1), (2364, 1), (2369, 8), (2381, 1), (2385, 7),
   (2402, 2), (2433, 1), (2492, 1), (2497, 4), (2509, 1), (2530, 2), (2558, 1), (2561, 2),
   (2620, 1), (2625, 2), (2631, 2), (2635, 3), (2641, 1), (2672, 2), (2677, 1), (2689, 2),
   (2748, 1), (2753, 5), (2759, 2), (2765, 1), (2786, 2), (2810, 6), (2817, 1), (2876, 1),
   (2879, 1), (2881, 4), (2893, 1), (2901, 2), (2914, 2), (2946, 1), (3008, 1), (3021, 1),
   (3072, 1), (3076, 1), (3132, 1), (3134, 3), (3142, 3), (3146, 4), (3157, 2), (3170, 2),
   (3201, 1), (3260, 1), (3263, 1), (3270, 1), (3276, 2), (3298, 2), (3328, 2), (3387, 2),
   (3393, 4), (3405, 1), (3426, 2), (3457, 1), (3530, 1), (3538, 3), (3542, 1), (3633, 1),
   (3636, 7), (3655, 8), (3761, 1), (3764, 9), (3784, 7), (3864, 2), (3893, 1), (3895, 1),
   (3897, 1), (3953, 14), (3968, 5), (3974, 2), (3981, 11), (3993, 36), (4038, 1), (4141, 4),
   (4146, 6), (4153, 2), (4157, 2), (4184, 2), (4190, 3), (4209, 4), (4226, 1), (4229, 2),
   (4237, 1), (4253, 1), (4957, 3), (5906, 3), (5938, 2), (5970, 2), (6002, 2), (6068, 2),
   (6071, 7), (6086, 1), (6089, 11), (6109, 1), (6155, 3), (6159, 1), (6277, 2), (6313, 1),
   (6432, 3), (6439, 2), (6450, 1), (6457, 3), (6679, 2), (6683, 1), (6742, 1), (6744, 7),
   (6752, 1), (6754, 1), (6757, 8), (6771, 10), (6783, 1), (6832, 46), (6880, 12), (6912, 4),
   (6964, 1), (6966, 5), (6972, 1), (6978, 1), (7019, 9), (7040, 2), (7074, 4), (7080, 2),
   (7083, 3), (7142, 1), (7144, 2), (7149, 1), (7151, 3), (7212, 8), (7222, 2), (7376, 3),
   (7380, 13), (7394, 7), (7405, 1), (7412, 1), (7416, 2), (7616, 64), (8400, 33), (11503, 3),
   (11647, 1), (11744, 32), (12330, 4), (12441, 2), (42607, 4), (42612, 10), (42654, 2),
   (42736, 2), (43010, 1), (43014, 1), (43019, 1), (43045, 2), (43052, 1), (43204, 2), (43232, 18),
   (43263, 1), (43302, 8), (43335, 11), (43392, 3), (43443, 1), (43446, 4), (43452, 2), (43493, 1),
   (43561, 6), (43569, 2), (43573, 2), (43587, 1), (43596, 1), (43644, 1), (43696, 1), (43698, 3),
   (43703, 2), (43710, 2), (43713, 1), (43756, 2), (43766, 1), (44005, 1), (44008, 1), (44013, 1),
   (64286, 1), (65024, 16), (65056, 16), (66045, 1), (66272, 1), (66422, 5), (68097, 3),
   (68101, 2), (68108, 4), (68152, 3), (68159, 1), (68325, 2), (68900, 4), (68969, 5), (69291, 2),
   (69370, 6), (69446, 11), (69506, 4), (69633, 1), (69688, 15), (69744, 1), (69747, 2),
   (69759, 3), (69811, 4), (69817, 2), (69826, 1), (69888, 3), (69927, 5), (69933, 8), (70003, 1),
   (70016, 2), (70070, 9), (70089, 4), (70095, 1), (70191, 3), (70196, 1), (70198, 2), (70206, 1),
   (70209, 1), (70367, 1), (70371, 8), (70400, 2), (70459, 2), (70464, 1), (70502, 7), (70512, 5),
   (70587, 6), (70606, 1), (70608, 1), (70610, 1), (70625, 2), (70712, 8), (70722, 3), (70726, 1),
   (70750, 1), (70835, 6), (70842, 1), (70847, 2), (70850, 2), (71090, 4), (71100, 2), (71103, 2),
   (71132, 2), (71219, 8), (71229, 1), (71231, 2), (71339, 1), (71341, 1), (71344, 6), (71351, 1),
   (71453, 1), (71455, 1), (71458, 4), (71463, 5), (71727, 9), (71737, 2), (71995, 2), (71998, 1),
   (72003, 1), (72148, 4), (72154, 2), (72160, 1), (72193, 10), (72243, 6), (72251, 4), (72263, 1),
   (72273, 6), (72281, 3), (72330, 13), (72344, 2), (72544, 1), (72546, 3), (72550, 1), (72752, 7),
   (72760, 6), (72767, 1), (72850, 22), (72874, 7), (72882, 2), (72885, 2), (73009, 6), (73018, 1),
   (73020, 2), (73023, 7), (73031, 1), (73104, 2), (73109, 1), (73111, 1), (73459, 2), (73472, 2),
   (73526, 5), (73536, 1), (73538, 1), (73562, 1), (78912, 1), (78919, 15), (90398, 12),
   (90413, 3), (92912, 5), (92976, 7), (94031, 1), (94095, 4), (94180, 1), (113821, 2),
   (118528, 46), (118576, 23), (119143, 3), (119163, 8), (119173, 7), (119210, 4), (119362, 3),
   (121344, 55), (121403, 50), (121461, 1), (121476, 1), (121499, 5), (121505, 15), (122880, 7),
   (122888, 17), (122907, 7), (122915, 2), (122918, 5), (123023, 1), (123184, 7), (123566, 1),
   (123628, 4), (124140, 4), (124398, 2), (124643, 1), (124646, 1), (124654, 2), (124661, 1),
   (125136, 7), (125252, 7), (917760, 240)]

/-- Runs of spacing marks. -/
def spacing : List (Nat × Nat) :=
  [(2307, 1), (2363, 1), (2366, 3), (2377, 4), (2382, 2), (2434, 2), (2494, 3), (2503, 2),
   (2507, 2), (2519, 1), (2563, 1), (2622, 3), (2691, 1), (2750, 3), (2761, 1), (2763, 2),
   (2818, 2), (2878, 1), (2880, 1), (2887, 2), (2891, 2), (2903, 1), (3006, 2), (3009, 2),
   (3014, 3), (3018, 3), (3031, 1), (3073, 3), (3137, 4), (3202, 2), (3262, 1), (3264, 5),
   (3271, 2), (3274, 2), (3285, 2), (3315, 1), (3330, 2), (3390, 3), (3398, 3), (3402, 3),
   (3415, 1), (3458, 2), (3535, 3), (3544, 8), (3570, 2), (3902, 2), (3967, 1), (4139, 2),
   (4145, 1), (4152, 1), (4155, 2), (4182, 2), (4194, 3), (4199, 7), (4227, 2), (4231, 6),
   (4239, 1), (4250, 3), (5909, 1), (5940, 1), (6070, 1), (6078, 8), (6087, 2), (6435, 4),
   (6441, 3), (6448, 2), (6451, 6), (6681, 2), (6741, 1), (6743, 1), (6753, 1), (6755, 2),
   (6765, 6), (6916, 1), (6965, 1), (6971, 1), (6973, 5), (6979, 2), (7042, 1), (7073, 1),
   (7078, 2), (7082, 1), (7143, 1), (7146, 3), (7150, 1), (7154, 2), (7204, 8), (7220, 2),
   (7393, 1), (7415, 1), (12334, 2), (43043, 2), (43047, 1), (43136, 2), (43188, 16), (43346, 2),
   (43395, 1), (43444, 2), (43450, 2), (43454, 3), (43567, 2), (43571, 2), (43597, 1), (43643, 1),
   (43645, 1), (43755, 1), (43758, 2), (43765, 1), (44003, 2), (44006, 2), (44009, 2), (44012, 1),
   (69632, 1), (69634, 1), (69762, 1), (69808, 3), (69815, 2), (69932, 1), (69957, 2), (70018, 1),
   (70067, 3), (70079, 2), (70094, 1), (70188, 3), (70194, 2), (70197, 1), (70368, 3), (70402, 2),
   (70462, 2), (70465, 4), (70471, 2), (70475, 3), (70487, 1), (70498, 2), (70584, 3), (70594, 1),
   (70597, 1), (70599, 4), (70604, 2), (70607, 1), (70709, 3), (70720, 2), (70725, 1), (70832, 3),
   (70841, 1), (70843, 4), (70849, 1), (71087, 3), (71096, 4), (71102, 1), (71216, 3), (71227, 2),
   (71230, 1), (71340, 1), (71342, 2), (71350, 1), (71454, 1), (71456, 2), (71462, 1), (71724, 3),
   (71736, 1), (71984, 6), (71991, 2), (71997, 1), (72000, 1), (72002, 1), (72145, 3), (72156, 4),
   (72164, 1), (72249, 1), (72279, 2), (72343, 1), (72545, 1), (72549, 1), (72551, 1), (72751, 1),
   (72766, 1), (72873, 1), (72881, 1), (72884, 1), (73098, 5), (73107, 2), (73110, 1), (73461, 2),
   (73475, 1), (73524, 2), (73534, 2), (73537, 1), (90410, 3), (94033, 55), (94192, 2),
   (119141, 2), (119149, 6)]

/-- Runs of characters that extend the one before them without being nonspacing marks. -/
def otherExtending : List (Nat × Nat) :=
  [(2494, 1), (2519, 1), (2878, 1), (2903, 1), (3006, 1), (3031, 1), (3264, 1), (3266, 1),
   (3271, 2), (3274, 2), (3285, 2), (3390, 1), (3415, 1), (3535, 1), (3551, 1), (5909, 1),
   (5940, 1), (6965, 1), (6971, 1), (6973, 1), (6979, 2), (7082, 1), (7154, 2), (8204, 1),
   (12334, 2), (43347, 1), (43456, 1), (65438, 2), (70080, 1), (70197, 1), (70462, 1), (70477, 1),
   (70487, 1), (70584, 1), (70594, 1), (70597, 1), (70599, 3), (70607, 1), (70832, 1), (70845, 1),
   (71087, 1), (71350, 1), (71984, 1), (71997, 1), (73537, 1), (94192, 2), (119141, 2),
   (119149, 6), (917536, 96)]

/-- Whether a code point lies in one of some runs. -/
def isIn (runs : List (Nat × Nat)) (n : Nat) : Bool :=
  runs.any fun (first, count) => first ≤ n && n < first + count

/-- Whether a character is a mark; no ASCII character is one. -/
def isMark (c : Char) : Bool := 128 ≤ c.toNat && (isIn nonspacing c.toNat || isIn spacing c.toNat)

/-- Whether a character becomes one with the character before it. -/
def isExtending (c : Char) : Bool :=
  128 ≤ c.toNat && (isIn nonspacing c.toNat || isIn otherExtending c.toNat)

end ScriptBench.Marks
