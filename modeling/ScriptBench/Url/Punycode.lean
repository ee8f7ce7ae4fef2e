/-!
Labels of domain names with characters outside of ASCII, written in ASCII.

The plain characters come first. Each further character is one number, which tells where it goes and
how much its code exceeds that of the one before; numbers are written in base 36 with a moving
threshold that ends them, lowest digit first.
-/
namespace ScriptBench.Punycode

def digit (d : Nat) : Char := if d < 26 then Char.ofNat (97 + d) else Char.ofNat (22 + d)

def digitValue? (c : Char) : Option Nat :=
  if 'a' ≤ c ∧ c ≤ 'z' then some (c.toNat - 97)
  else if 'A' ≤ c ∧ c ≤ 'Z' then some (c.toNat - 65)
  else if '0' ≤ c ∧ c ≤ '9' then some (c.toNat - 22)
  else none

/-- The digit at a place ends the number if it is below this. -/
def threshold (place bias : Nat) : Nat :=
  if place ≤ bias then 1 else if bias + 26 ≤ place then 26 else place - bias

theorem threshold_bounds (place bias : Nat) :
    1 ≤ threshold place bias ∧ threshold place bias ≤ 26 := by
  unfold threshold
  split
  · omega
  · split <;> omega

/-- Scales a number down until it is below 456, and counts 36 for each time. -/
def scale (delta places : Nat) : Nat × Nat :=
  if 455 < delta then scale (delta / 35) (places + 36) else (delta, places)
termination_by delta
decreasing_by exact Nat.div_lt_self (by omega) (by omega)

/-- The bias after a number; it follows the size of the numbers. -/
def adapt (delta count : Nat) (isFirst : Bool) : Nat :=
  let halved := if isFirst then delta / 700 else delta / 2
  let (delta, places) := scale (halved + halved / count) 0
  places + 36 * delta / (delta + 38)

/-- A number with a moving threshold. -/
def number (bias place n : Nat) : List Char :=
  let t := threshold place bias
  if n < t then [digit n]
  else digit (t + (n - t) % (36 - t)) :: number bias (place + 36) ((n - t) / (36 - t))
termination_by n
decreasing_by
  have h := threshold_bounds place bias
  have := Nat.div_le_self (n - threshold place bias) (36 - threshold place bias)
  omega

/-- How far writing has come: what is written, the number for the next character, the bias, and how
many characters are written, of which so many are plain. -/
structure Progress where
  written : List Char
  delta : Nat
  bias : Nat
  count : Nat
  plain : Nat

/-- Passes one character while those of a code are written. -/
def visit (code : Nat) (p : Progress) (c : Char) : Progress :=
  if c.toNat < code then { p with delta := p.delta + 1 }
  else if c.toNat = code then
    { p with
      written := p.written ++ number p.bias 36 p.delta, delta := 0
      bias := adapt p.delta (p.count + 1) (p.count = p.plain), count := p.count + 1 }
  else p

/-- Writes the characters of each code in rising order; `next` is the first code not yet passed. -/
def writeCodes (label : List Char) : List Nat → Nat → Progress → Progress
  | [], _, p => p
  | code :: rest, next, p =>
    let p := { p with delta := p.delta + (code - next) * (p.count + 1) }
    let p := label.foldl (visit code) p
    writeCodes label rest (code + 1) { p with delta := p.delta + 1 }

def insertCode (n : Nat) : List Nat → List Nat
  | [] => [n]
  | m :: rest =>
    if n < m then n :: m :: rest else if n = m then m :: rest else m :: insertCode n rest

/-- A label in ASCII. -/
def encode (label : List Char) : List Char :=
  let plain := label.filter fun c => c.toNat < 128
  let codes := (label.filter fun c => 128 ≤ c.toNat).foldr (fun c acc => insertCode c.toNat acc) []
  let p := writeCodes label codes 128 ⟨[], 0, 72, plain.length, plain.length⟩
  plain ++ (if plain.isEmpty then [] else ['-']) ++ p.written

/-- Reads a number: its value added to a start, and the characters after it. -/
def readNumber (bias : Nat) : List Char → Nat → Nat → Nat → Option (Nat × List Char)
  | [], _, _, _ => none
  | c :: rest, place, weight, sum =>
    match digitValue? c with
    | none => none
    | some d =>
      let sum := sum + d * weight
      if d < threshold place bias then some (sum, rest)
      else readNumber bias rest (place + 36) (weight * (36 - threshold place bias)) sum

/-- Puts in one character after the other; `fuel` bounds their number. -/
def readCodes : Nat → List Char → Nat → Nat → Nat → List Char → Option (List Char)
  | _, [], _, _, _, label => some label
  | 0, _, _, _, _, _ => none
  | fuel + 1, cs, bias, code, at_, label =>
    match readNumber bias cs 36 1 at_ with
    | none => none
    | some (sum, rest) =>
      let count := label.length + 1
      let code := code + sum / count
      let place := sum % count
      if code.isValidChar then
        readCodes fuel rest (adapt (sum - at_) count (at_ = 0)) code (place + 1)
          (label.insertIdx place (Char.ofNat code))
      else none

/-- The label that an ASCII form stands for. -/
def decode? (cs : List Char) : Option (List Char) :=
  let tail := (cs.reverse.takeWhile (· != '-')).reverse
  let head := cs.take (cs.length - tail.length - 1)
  readCodes cs.length tail 72 128 0 head

end ScriptBench.Punycode
