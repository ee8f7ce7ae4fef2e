/-!
Tables of characters that are written as text.

An entry is `first=values`, or `first+count=values` for `count` characters in a row, or
`first+count/2=values` for every second character. All numbers are hexadecimal and a dot stands
between values. The values are those of the first character; a later one has them moved on by its
distance from the first. Entries stand in rising order with blanks between them.
-/
namespace ScriptBench

/-- An entry of a table: `count` characters from `first`, `step` apart, and the values of the
first. -/
structure TableEntry where
  first : Nat
  count : Nat
  step : Nat
  values : List Nat
  deriving Repr, Inhabited

/-- Entries in rising order. -/
structure Table where
  entries : Array TableEntry

namespace TableEntry

/-- The value of a hexadecimal digit, in lower case. -/
def digit? (c : Char) : Option Nat :=
  if '0' ≤ c ∧ c ≤ '9' then some (c.toNat - 48)
  else if 'a' ≤ c ∧ c ≤ 'f' then some (c.toNat - 87)
  else none

/-- The number in front of a text, and what is left. -/
def number (cs : List Char) : Nat × List Char :=
  match cs with
  | [] => (0, [])
  | _ => go 0 cs
where
  go : Nat → List Char → Nat × List Char
    | n, [] => (n, [])
    | n, c :: rest =>
      match digit? c with
      | some d => go (16 * n + d) rest
      | none => (n, c :: rest)

/-- The numbers of a word, each behind its mark; the first number has none. -/
def marked : Nat → List Char → List (Char × Nat)
  | 0, _ => []
  | _, [] => []
  | fuel + 1, mark :: rest =>
    let (n, rest) := number rest
    (mark, n) :: marked fuel rest

/-- The entry a word stands for. -/
def ofWord (word : List Char) : TableEntry :=
  let (first, rest) := number word
  let parts := marked rest.length rest
  ⟨first, (parts.lookup '+').getD 1, (parts.lookup '/').getD 1,
    parts.filterMap fun p => if p.1 = '=' ∨ p.1 = '.' then some p.2 else none⟩

/-- The values of a character, if the entry has any for it. -/
def values? (e : TableEntry) (n : Nat) : Option (List Nat) :=
  let distance := n - e.first
  if e.first ≤ n ∧ distance % e.step = 0 ∧ distance / e.step < e.count then
    some (e.values.map (· + distance))
  else none

end TableEntry

namespace Table

/-- The words of a text, with blanks or line breaks between them. -/
def words (cs : List Char) : List (List Char) :=
  let (word, words) := cs.foldr (fun c (word, words) =>
    if c = ' ' ∨ c = '\n' then ([], if word.isEmpty then words else word :: words)
    else (c :: word, words)) ([], [])
  if word.isEmpty then words else word :: words

/-- The table a text holds. -/
def ofText (text : String) : Table := ⟨((words text.toList).map TableEntry.ofWord).toArray⟩

/-- The last entry from `low` on, and before `high`, that starts at or before a character. -/
def search (t : Table) (n low high : Nat) : Option TableEntry :=
  if low + 1 < high then
    let middle := (low + high) / 2
    match t.entries[middle]? with
    | some e => if e.first ≤ n then search t n middle high else search t n low middle
    | none => none
  else t.entries[low]?
termination_by high - low

/-- The values of a character. -/
def find? (t : Table) (n : Nat) : Option (List Nat) :=
  (t.search n 0 t.entries.size).bind (·.values? n)

end Table

end ScriptBench
