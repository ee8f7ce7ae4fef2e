import ScriptBench.Text.Composition
import ScriptBench.Text.Marks

/-!
Letters that join their neighbours in cursive scripts, and the joiners between letters (Unicode 17).

A joiner shapes the letters around it and is else invisible, so it has a place in a name only where
it makes a difference.
-/
namespace ScriptBench.Joining

/-! Runs of letters: the first, and how many. -/

/-- Letters that join the next one only. -/
def forward : List (Nat × Nat) :=
  [(43122, 1), (68301, 1), (68311, 1), (68864, 1), (69579, 1)]

/-- Letters that join the one before only. -/
def backward : List (Nat × Nat) :=
  [(1570, 4), (1575, 1), (1577, 1), (1583, 4), (1608, 1), (1649, 3), (1672, 18), (1728, 1),
   (1731, 9), (1741, 1), (1743, 1), (1746, 2), (1749, 1), (1774, 2), (1808, 1), (1813, 5),
   (1822, 1), (1832, 1), (1834, 1), (1836, 1), (1839, 1), (1869, 1), (1881, 3), (1899, 2),
   (1905, 1), (1907, 2), (1912, 2), (2112, 1), (2118, 2), (2121, 1), (2132, 1), (2134, 3),
   (2151, 1), (2153, 26), (2190, 1), (2218, 3), (2222, 1), (2225, 2), (2233, 1), (68293, 1),
   (68295, 1), (68297, 2), (68302, 5), (68317, 1), (68321, 1), (68324, 1), (68335, 1), (68481, 1),
   (68483, 3), (68489, 1), (68492, 1), (68494, 2), (68497, 1), (68521, 4), (68898, 1), (69314, 1),
   (69427, 1), (69460, 1), (69492, 2), (69556, 3), (69561, 2), (69565, 1), (69570, 2), (69577, 1)]

/-- Letters that join on both sides. -/
def both : List (Nat × Nat) :=
  [(1568, 1), (1574, 1), (1576, 1), (1578, 5), (1587, 13), (1601, 7), (1609, 2), (1646, 2),
   (1657, 15), (1690, 38), (1729, 2), (1740, 1), (1742, 1), (1744, 2), (1786, 3), (1791, 1),
   (1810, 3), (1818, 4), (1823, 9), (1833, 1), (1835, 1), (1837, 2), (1870, 11), (1884, 15),
   (1901, 4), (1906, 1), (1909, 3), (1914, 6), (1994, 33), (2113, 5), (2120, 1), (2122, 10),
   (2133, 1), (2144, 1), (2146, 4), (2152, 1), (2182, 1), (2185, 5), (2191, 1), (2208, 10),
   (2223, 2), (2227, 6), (2234, 15), (6151, 1), (6176, 89), (6279, 34), (6314, 1), (43072, 50),
   (68288, 5), (68307, 4), (68312, 5), (68318, 3), (68331, 4), (68480, 1), (68482, 1), (68486, 3),
   (68490, 2), (68493, 1), (68496, 1), (68525, 2), (68865, 33), (68899, 1), (69315, 2),
   (69318, 2), (69424, 3), (69428, 17), (69457, 3), (69488, 4), (69494, 12), (69552, 1),
   (69554, 2), (69560, 1), (69563, 2), (69566, 2), (69569, 1), (69572, 1), (69578, 1),
   (125218, 34)]

/-- A mark on a letter that does not keep it from joining. -/
def isPassedOver (c : Char) : Bool :=
  c.toNat = 0x1E94B || (128 ≤ c.toNat && Marks.isIn Marks.nonspacing c.toNat)

/-- Whether the first letter that is not passed over joins in some way. -/
def reaches (joins : List (Nat × Nat)) (cs : List Char) : Bool :=
  match cs.dropWhile fun c => isPassedOver c && !Marks.isIn (joins ++ both) c.toNat with
  | c :: _ => Marks.isIn (joins ++ both) c.toNat
  | [] => false

def nonJoiner : Char := Char.ofNat 0x200C

def joiner : Char := Char.ofNat 0x200D

/-- Whether each joiner of a label makes a difference; `before` are the characters in front of
`rest`, latest first. Behind a mark that joins letters both do, and a non-joiner does between
letters that would join. -/
def allMatter (before : List Char) : List Char → Bool
  | [] => true
  | c :: rest =>
    let isBound := (before.head?.map Composition.classOf) = some Composition.joiningClass
    (if c = joiner then isBound
      else if c = nonJoiner then isBound || (reaches forward before && reaches backward rest)
      else true) &&
      allMatter (c :: before) rest

end ScriptBench.Joining
