import ScriptBench.Number.Format

/-!
Points in time as calendar fields in universal time, and their text.

A time is kept as it is written, so writing and reading need no count of days; only an offset that
is not zero moves the fields, by at most one day.
-/
namespace ScriptBench

/-- A character that separates words or lines and leaves nothing to see: the Unicode property
White_Space, which has not grown since Unicode 6.3. -/
def Blank.isBlank (c : Char) : Bool :=
  let n := c.toNat
  (9 ≤ n && n ≤ 13) || n = 32 || n = 0x85 || n = 0xA0 || n = 0x1680 || (0x2000 ≤ n && n ≤ 0x200A) ||
    n = 0x2028 || n = 0x2029 || n = 0x202F || n = 0x205F || n = 0x3000

/-- The text without the blanks in front. -/
def Blank.skip (cs : List Char) : List Char := cs.dropWhile isBlank

/-- A calendar date and time of day in universal time. Second 60 is a leap second. -/
structure Time where
  year : Int
  month : Nat
  day : Nat
  hour : Nat
  minute : Nat
  second : Nat
  nano : Nat
  deriving DecidableEq, Repr, Inhabited

/-- Why a text is no time. -/
inductive TimeFault where
  | tooShort
  | invalid
  | tooLong
  | outOfRange
  /-- The offset leads out of the calendar. -/
  | impossible
  deriving DecidableEq, Repr

def TimeFault.message : TimeFault → String
  | .tooShort => "premature end of input"
  | .invalid => "input contains invalid characters"
  | .tooLong => "trailing input"
  | .outOfRange => "input is out of range"
  | .impossible => "no possible date and time matching input"

namespace Time

/-- The first moment of 1970. -/
def epoch : Time := ⟨1970, 1, 1, 0, 0, 0, 0⟩

def isLeapYear (year : Int) : Bool := year % 4 = 0 && (year % 100 ≠ 0 || year % 400 = 0)

def daysInMonth (year : Int) (month : Nat) : Nat :=
  if month = 2 then (if isLeapYear year then 29 else 28)
  else if month = 4 ∨ month = 6 ∨ month = 9 ∨ month = 11 then 30
  else 31

/-- The first and the last year of the calendar. -/
def firstYear : Int := -262143
def lastYear : Int := 262142

/-- The year is one of the calendar. -/
def inCalendar (t : Time) : Bool := firstYear ≤ t.year && t.year ≤ lastYear

/-- The fields name a moment that exists. -/
def isValid (t : Time) : Bool :=
  t.inCalendar && 1 ≤ t.month && t.month ≤ 12 && 1 ≤ t.day && t.day ≤ daysInMonth t.year t.month &&
    t.hour ≤ 23 && t.minute ≤ 59 && t.second ≤ 60 && t.nano < 1000000000

/-- The order of moments. -/
def le (a b : Time) : Bool :=
  compare (key a) (key b) != .gt
where
  key (t : Time) : Int × Nat × Nat :=
    (t.year, (t.month * 32 + t.day) * 86400 + (t.hour * 60 + t.minute) * 61 + t.second, t.nano)
  compare (a b : Int × Nat × Nat) : Ordering :=
    (Ord.compare a.1 b.1).then ((Ord.compare a.2.1 b.2.1).then (Ord.compare a.2.2 b.2.2))

def nextDay (t : Time) : Time :=
  if t.day < daysInMonth t.year t.month then { t with day := t.day + 1 }
  else if t.month < 12 then { t with month := t.month + 1, day := 1 }
  else { t with year := t.year + 1, month := 1, day := 1 }

def previousDay (t : Time) : Time :=
  if 1 < t.day then { t with day := t.day - 1 }
  else if 1 < t.month then
    { t with month := t.month - 1, day := daysInMonth t.year (t.month - 1) }
  else { t with year := t.year - 1, month := 12, day := 31 }

/-- The universal time of a local time that is `minutes` ahead, less than a day. -/
def fromOffset (t : Time) (minutes : Int) : Time :=
  let total : Int := (t.hour * 60 + t.minute : Nat) - minutes
  let ofDay (m : Int) : Time := { t with hour := m.toNat / 60, minute := m.toNat % 60 }
  if total < 0 then (ofDay (total + 1440)).previousDay
  else if 1440 ≤ total then (ofDay (total - 1440)).nextDay
  else ofDay total

/-! Writing. -/

/-- A number with at least `width` digits. -/
def padded (width n : Nat) : List Char :=
  let ds := decimalDigits n
  List.replicate (width - ds.length) '0' ++ ds

/-- A year: four digits, and outside of that range a sign in front. -/
def yearChars (year : Int) : List Char :=
  if 0 ≤ year ∧ year ≤ 9999 then padded 4 year.toNat
  else (if year < 0 then '-' else '+') :: padded 4 year.natAbs

/-- A fraction of a second with 0, 3, 6 or 9 digits, the fewest that lose nothing. -/
def fractionChars (nano : Nat) : List Char :=
  if nano = 0 then []
  else if nano % 1000000 = 0 then '.' :: padded 3 (nano / 1000000)
  else if nano % 1000 = 0 then '.' :: padded 6 (nano / 1000)
  else '.' :: padded 9 nano

/-- The date and time with a `Z`. -/
def text (t : Time) : String :=
  String.ofList (yearChars t.year ++ '-' :: padded 2 t.month ++ '-' :: padded 2 t.day ++
    'T' :: padded 2 t.hour ++ ':' :: padded 2 t.minute ++ ':' :: padded 2 t.second ++
    fractionChars t.nano ++ ['Z'])

/-- The time of day alone. -/
def clockText (t : Time) : String :=
  String.ofList (padded 2 t.hour ++ ':' :: padded 2 t.minute ++ ':' :: padded 2 t.second)

/-! Reading. -/

/-- The largest count that a field may hold while it is read. -/
def maxField : Nat := Nat.pow 2 63 - 1

/-- The leading digits of a text, at most `width` of them, as a number with their count. -/
def leading (width : Nat) (acc count : Nat) : List Char → Nat × Nat × List Char
  | [] => (acc, count, [])
  | c :: rest =>
    if c.isDigit ∧ count < width then leading width (acc * 10 + (c.toNat - 48)) (count + 1) rest
    else (acc, count, c :: rest)

/-- A number of one to `width` digits. -/
def number (width : Nat) (cs : List Char) : Except TimeFault (Nat × List Char) :=
  match cs with
  | [] => .error .tooShort
  | cs =>
    match leading width 0 0 cs with
    | (_, 0, _) => .error .invalid
    | (n, _, rest) => if n ≤ maxField then .ok (n, rest) else .error .outOfRange

/-- A number in a range, blanks in front. -/
def field (width low high : Nat) (cs : List Char) : Except TimeFault (Nat × List Char) := do
  let (n, rest) ← number width (Blank.skip cs)
  if low ≤ n ∧ n ≤ high then return (n, rest) else throw .outOfRange

/-- A separator, blanks in front. -/
def separator (c : Char) (cs : List Char) : Except TimeFault (List Char) :=
  match Blank.skip cs with
  | [] => .error .tooShort
  | d :: rest => if d = c then .ok rest else .error .invalid

/-- A year, blanks in front: up to four digits, or any number of them right after a sign. Whether
the calendar has the year is seen when the whole text has been read. -/
def yearField (cs : List Char) : Except TimeFault (Int × List Char) := do
  let cs := Blank.skip cs
  let (year, rest) ←
    match cs with
    | '-' :: rest => (number rest.length rest).map fun (n, r) => (-(n : Int), r)
    | '+' :: rest => (number rest.length rest).map fun (n, r) => ((n : Int), r)
    | _ => (number 4 cs).map fun (n, r) => ((n : Int), r)
  if -2147483648 ≤ year ∧ year ≤ 2147483647 then return (year, rest) else throw .outOfRange

/-- A fraction of a second in nanoseconds; digits beyond the ninth are dropped. -/
def fraction (cs : List Char) : Except TimeFault (Nat × List Char) :=
  match cs with
  | '.' :: rest =>
    match leading 9 0 0 rest with
    | (_, 0, []) => .error .tooShort
    | (_, 0, _) => .error .invalid
    | (n, count, rest) => .ok (n * Nat.pow 10 (9 - count), rest.dropWhile Char.isDigit)
  | _ => .ok (0, cs)

/-- The minutes a zone is ahead of universal time: `Z`, `UTC`, or a sign, hours and minutes. Whether
there is such a zone is seen when the whole text has been read. -/
def offset (cs : List Char) : Except TimeFault (Int × List Char) :=
  match Blank.skip cs with
  | [] => .error .tooShort
  | 'z' :: rest => .ok (0, rest)
  | 'Z' :: rest => .ok (0, rest)
  | c :: rest =>
    match (c :: rest).take 3 |>.map Char.toUpper with
    | ['U', 'T', 'C'] => .ok (0, rest.drop 2)
    | _ =>
      if c = '+' then signed 1 rest
      else if c = '-' ∨ c = '\u2212' then signed (-1) rest
      else .error .invalid
where
  signed (sign : Int) (cs : List Char) : Except TimeFault (Int × List Char) := do
    let (hours, rest) ← pair cs
    let (minutes, rest) ← pair (rest.dropWhile fun c => c = ':' || Blank.isBlank c)
    if 59 < minutes then throw .outOfRange
    return (sign * (hours * 60 + minutes : Nat), rest)
  /-- Two digits; a character of more than one byte is not the end of the text. -/
  pair : List Char → Except TimeFault (Nat × List Char)
    | a :: b :: rest =>
      if a.isDigit && b.isDigit then .ok ((a.toNat - 48) * 10 + (b.toNat - 48), rest)
      else .error .invalid
    | [a] => .error (if 1 < a.utf8Size then .invalid else .tooShort)
    | [] => .error .tooShort

/-- The moment that local fields stand for, if the calendar has both. -/
def ofLocal (t : Time) (minutes : Int) : Except TimeFault Time :=
  if !t.isValid || 1440 ≤ minutes.natAbs then .error .outOfRange
  else
    let moved := t.fromOffset minutes
    if moved.inCalendar then .ok moved else .error .impossible

/-- The time a text stands for: a date, `T` or a blank, a time of day with any fraction, and a
zone. -/
def parse (text : String) : Except TimeFault Time := do
  let (year, cs) ← yearField text.toList
  let (month, cs) ← field 2 1 12 (← separator '-' cs)
  let (day, cs) ← field 2 1 31 (← separator '-' cs)
  let cs ←
    match cs with
    | [] => .error .tooShort
    | c :: rest => if c = 'T' ∨ c = 't' ∨ c = ' ' then .ok rest else .error .invalid
  let (hour, cs) ← field 2 0 23 cs
  let (minute, cs) ← field 2 0 59 (← separator ':' cs)
  let (second, cs) ← field 2 0 60 (← separator ':' cs)
  let (nano, cs) ← fraction cs
  let (minutes, cs) ← offset cs
  if Blank.skip cs ≠ [] then throw .tooLong
  ofLocal ⟨year, month, day, hour, minute, second, nano⟩ minutes

end Time

end ScriptBench
