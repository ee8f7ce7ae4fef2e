import ScriptBench.Text.Marks

/-!
The direction in which characters are written, and which labels can be read without ambiguity when
directions mix (Unicode 17).

The runs also pass over characters that have no place in a name.
-/
namespace ScriptBench

/-- The class of a character in text that is written in both directions. -/
inductive Direction where
  | leftToRight
  | rightToLeft
  | arabicLetter
  | arabicNumber
  | europeanNumber
  | europeanSeparator
  | commonSeparator
  | europeanTerminator
  | neutral
  | boundary
  | mark
  deriving DecidableEq, Repr

namespace Direction

/-! Runs of characters of each class: the first, and how many. -/

/-- Letters written from right to left. -/
def rightToLeftRuns : List (Nat × Nat) :=
  [(1470, 1), (1472, 1), (1475, 1), (1478, 1), (1488, 37), (1984, 43), (2036, 2), (2042, 1),
   (2046, 24), (2074, 1), (2084, 1), (2088, 1), (2096, 41), (2142, 1), (67584, 284), (67872, 225),
   (68112, 38), (68160, 165), (68331, 75), (68416, 448), (68928, 16), (68975, 33), (69248, 42),
   (69293, 5), (69376, 40), (69488, 18), (69510, 113), (124928, 208), (125218, 34), (125259, 21)]

/-- Letters of the Arabic kind. -/
def arabicLetterRuns : List (Nat × Nat) :=
  [(1544, 1), (1547, 1), (1549, 1), (1563, 48), (1645, 3), (1649, 101), (1765, 2), (1774, 2),
   (1786, 23), (1810, 30), (1869, 89), (1969, 1), (2144, 48), (2208, 42), (64434, 17), (65139, 1),
   (68864, 36), (69314, 6), (69424, 22), (69457, 9), (126065, 205)]

/-- Digits that go with Arabic letters. -/
def arabicNumberRuns : List (Nat × Nat) :=
  [(1632, 10), (1643, 2), (68912, 10), (69216, 31)]

/-- Digits of the common kind. -/
def europeanNumberRuns : List (Nat × Nat) :=
  [(48, 10), (1776, 10), (66273, 27)]

/-- Signs in front of common digits. -/
def europeanSeparatorRuns : List (Nat × Nat) :=
  [(43, 1), (45, 1), (8722, 1)]

/-- Separators inside numbers. -/
def commonSeparatorRuns : List (Nat × Nat) :=
  [(44, 1), (46, 2), (58, 1), (1548, 1), (8260, 1)]

/-- Signs that go with amounts. -/
def europeanTerminatorRuns : List (Nat × Nat) :=
  [(35, 3), (162, 4), (176, 2), (1423, 1), (1545, 2), (1642, 1), (2546, 2), (2555, 1), (2801, 1),
   (3065, 1), (3647, 1), (6107, 1), (8240, 3), (8352, 34), (8494, 1), (8723, 1), (43064, 2),
   (73693, 4), (123647, 1)]

/-- Symbols without a direction of their own. -/
def neutralRuns : List (Nat × Nat) :=
  [(33, 2), (38, 5), (59, 38), (123, 4), (161, 1), (166, 9), (182, 34), (247, 1), (697, 2),
   (706, 14), (722, 28), (751, 17), (885, 1), (1014, 1), (1418, 5), (1542, 2), (1550, 2),
   (1758, 1), (1769, 1), (2038, 4), (3059, 6), (3066, 1), (3192, 7), (3898, 4), (5008, 10),
   (5120, 1), (5787, 2), (6128, 27), (6464, 6), (6622, 34), (8208, 24), (8245, 15), (8261, 26),
   (8452, 38), (8506, 20), (8586, 136), (8724, 290), (9083, 26), (9110, 790), (9901, 339),
   (10496, 768), (11493, 6), (11513, 7), (11776, 517), (12296, 25), (12336, 1), (12343, 1),
   (12349, 3), (12448, 1), (12539, 1), (12736, 38), (19904, 64), (42128, 55), (42509, 3),
   (42611, 1), (42622, 2), (42752, 34), (42888, 1), (43048, 4), (43124, 4), (43882, 2),
   (64451, 573), (65093, 2), (65793, 1), (65856, 77), (65936, 17), (67871, 1), (68409, 7),
   (68974, 1), (69328, 9), (69714, 20), (71264, 13), (73685, 8), (73697, 17), (94178, 1),
   (117760, 753), (119273, 89), (119365, 1), (119552, 87), (126704, 576), (127341, 3),
   (127405, 1), (127584, 2459)]

/-- Characters that count for nothing. -/
def boundaryRuns : List (Nat × Nat) :=
  [(0, 9), (14, 14), (127, 1), (8204, 2)]

/-- Nonspacing marks that are written like letters. -/
def letterMarks : List Nat := [0xCBF, 0xCC6, 0x11A07, 0x11A08, 0x11C3F]

/-- The direction of a character. -/
def ofChar (c : Char) : Direction :=
  let n := c.toNat
  if n < 128 ∧ c.isAlpha then .leftToRight
  else if n = 0x1171E then .mark
  else if 128 ≤ n ∧ Marks.isIn Marks.nonspacing n then
    if n ∈ letterMarks then .leftToRight else .mark
  else
    ([(rightToLeftRuns, .rightToLeft), (arabicLetterRuns, .arabicLetter),
      (arabicNumberRuns, .arabicNumber), (europeanNumberRuns, .europeanNumber),
      (europeanSeparatorRuns, .europeanSeparator), (commonSeparatorRuns, .commonSeparator),
      (europeanTerminatorRuns, .europeanTerminator), (neutralRuns, .neutral),
      (boundaryRuns, .boundary)].find? fun (runs, _) => Marks.isIn runs n).elim .leftToRight (·.2)

/-- Classes that make a text one of both directions. -/
def isBackward : Direction → Bool
  | .rightToLeft | .arabicLetter | .arabicNumber => true
  | _ => false

/-- Classes that may stand in any label. -/
def isCommon : Direction → Bool
  | .europeanNumber | .europeanSeparator | .commonSeparator | .europeanTerminator | .neutral
  | .boundary | .mark => true
  | _ => false

/-- Whether the last class that is no mark is one of some. -/
def endsIn (allowed : List Direction) (ds : List Direction) : Bool :=
  match ds.reverse.dropWhile (· = .mark) with
  | d :: _ => allowed.contains d
  | [] => false

/-- What a label from left to right has behind its first letter. -/
def isForwardTail (ds : List Direction) : Bool :=
  ds.all (fun d => d.isCommon || d = .leftToRight) &&
    endsIn [.leftToRight, .europeanNumber] (.leftToRight :: ds)

/-- What a label from right to left has behind its first letter; its digits are of one kind. -/
def isBackwardTail (ds : List Direction) : Bool :=
  ds.all (fun d => d.isCommon || d.isBackward) &&
    endsIn [.rightToLeft, .arabicLetter, .europeanNumber, .arabicNumber] (.rightToLeft :: ds) &&
    !(ds.contains .europeanNumber && ds.contains .arabicNumber)

/-- Whether a label can stand in a name of both directions. -/
def isReadable (label : List Char) : Bool :=
  match label.map ofChar with
  | [] => true
  | .leftToRight :: ds => isForwardTail ds
  | .rightToLeft :: ds => isBackwardTail ds
  | .arabicLetter :: ds => isBackwardTail ds
  | _ => false

end Direction

end ScriptBench
