import ScriptBench.Url.Domain

/-!
The host of an address: a domain name, a number of version 4 or 6 of the internet protocol, or a
name that only its scheme understands.
-/
namespace ScriptBench

/-- Why a text is no address. -/
inductive UrlError where
  | emptyHost
  | invalidDomainName
  | invalidPort
  | invalidIpv4
  | invalidIpv6
  | invalidDomainCharacter
  | relativeWithoutBase
  deriving DecidableEq, Repr

def UrlError.message : UrlError → String
  | .emptyHost => "empty host"
  | .invalidDomainName => "invalid international domain name"
  | .invalidPort => "invalid port number"
  | .invalidIpv4 => "invalid IPv4 address"
  | .invalidIpv6 => "invalid IPv6 address"
  | .invalidDomainCharacter => "invalid domain character"
  | .relativeWithoutBase => "relative URL without a base"

inductive UrlHost where
  /-- A domain name or an opaque name, as it is written. -/
  | name (text : List Char)
  | ipv4 (value : Nat)
  /-- Eight groups of 16 bits. -/
  | ipv6 (groups : List Nat)
  deriving DecidableEq, Repr, Inhabited

namespace UrlHost

/-! Numbers of version 4. -/

/-- The number of digits that are all of a base. -/
def ofDigits? (base : Nat) (cs : List Char) : Option Nat :=
  cs.foldlM (fun n c =>
    match Percent.digitValue? c with
    | some d => if d < base then some (n * base + d) else none
    | none => none) 0

/-- A part of a number: decimal, octal after a zero, or hexadecimal after `0x`; nothing after `0x`
is zero. -/
def ipv4Part? : List Char → Option Nat
  | [] => none
  | '0' :: 'x' :: rest => ofDigits? 16 rest
  | '0' :: 'X' :: rest => ofDigits? 16 rest
  | '0' :: c :: rest => ofDigits? 8 (c :: rest)
  | cs => ofDigits? 10 cs

/-- The parts of a name; an empty last one does not count. -/
def ipv4Parts (name : List Char) : List (List Char) :=
  let parts := Form.split '.' name
  if 1 < parts.length && parts.getLast? = some [] then parts.dropLast else parts

/-- Whether a name has to be read as a number: its last part is one, or looks like one. -/
def endsInNumber (name : List Char) : Bool :=
  match (ipv4Parts name).getLast? with
  | none => false
  | some [] => false
  | some part => part.all Char.isDigit || (ipv4Part? part).isSome

/-- Parts as a number: each but the last gives one byte, the last fills the rest. -/
def ofIpv4Parts? (parts : List Nat) : Option Nat :=
  match parts.reverse with
  | [] => none
  | last :: before =>
    let room := Nat.pow 256 (5 - parts.length)
    if 4 < parts.length || before.any (255 < ·) || room ≤ last then none
    else some ((parts.dropLast.foldl (fun n b => n * 256 + b) 0) * room + last)

def ipv4? (name : List Char) : Option Nat := do
  ofIpv4Parts? (← (ipv4Parts name).mapM ipv4Part?)

/-- The four bytes of a number, the highest first. -/
def ipv4Bytes (n : Nat) : List Nat :=
  [n / 0x1000000, n / 0x10000 % 256, n / 256 % 256, n % 256]

/-- Four bytes with points between them. -/
def ipv4Chars (n : Nat) : List Char := Domain.join ((ipv4Bytes n).map fun b => (toString b).toList)

/-! Numbers of version 6. -/

/-- One to four hexadecimal digits. -/
def ipv6Group? (cs : List Char) : Option Nat :=
  if cs.isEmpty || 4 < cs.length then none else ofDigits? 16 cs

/-- A byte in decimal, without a leading zero. -/
def decimalByte? (cs : List Char) : Option Nat :=
  match cs with
  | [] => none
  | '0' :: _ :: _ => none
  | cs => (ofDigits? 10 cs).filter (· < 256)

/-- Two groups written as a number of version 4. -/
def ipv6Tail? (cs : List Char) : Option (List Nat) :=
  match (Form.split '.' cs).map decimalByte? with
  | [some a, some b, some c, some d] => some [a * 256 + b, c * 256 + d]
  | _ => none

/-- Groups with colons between them; the last may be a number of version 4 if `mayEnd`. -/
def ipv6Groups? (mayEnd : Bool) : List (List Char) → Option (List Nat)
  | [] => some []
  | [last] =>
    if mayEnd && last.contains '.' then ipv6Tail? last else (ipv6Group? last).map fun g => [g]
  | part :: rest => do
    let g ← ipv6Group? part
    return g :: (← ipv6Groups? mayEnd rest)

/-- What stands before and after the first double colon. -/
def splitDoubleColon : List Char → Option (List Char × List Char)
  | [] => none
  | ':' :: ':' :: rest => some ([], rest)
  | c :: rest => (splitDoubleColon rest).map fun (before, after) => (c :: before, after)

/-- The groups on one side of a double colon; there may be none. -/
def ipv6Side? (mayEnd : Bool) (cs : List Char) : Option (List Nat) :=
  if cs.isEmpty then some [] else ipv6Groups? mayEnd (Form.split ':' cs)

/-- Eight groups; a double colon stands for one or more groups of zero. -/
def ipv6? (cs : List Char) : Option (List Nat) :=
  match splitDoubleColon cs with
  | none => (ipv6Groups? true (Form.split ':' cs)).filter (·.length = 8)
  | some (before, after) => do
    let first ← ipv6Side? false before
    let last ← ipv6Side? true after
    if 7 < first.length + last.length then none
    else return first ++ List.replicate (8 - first.length - last.length) 0 ++ last

/-- Where the longest run of zeros of at least two groups starts, and its length; the first of
several counts. -/
def zeroRun (groups : List Nat) : Nat × Nat :=
  let runAt (i : Nat) : Nat := ((groups.drop i).takeWhile (· = 0)).length
  (List.range groups.length).foldl (fun best i => if best.2 < runAt i then (i, runAt i) else best)
    (0, 1)

def groupChars (g : Nat) : List Char := Nat.toDigits 16 g

def joinColons : List (List Char) → List Char
  | [] => []
  | [g] => g
  | g :: rest => g ++ ':' :: joinColons rest

def ipv6Chars (groups : List Nat) : List Char :=
  let (start, length) := zeroRun groups
  if length < 2 then joinColons (groups.map groupChars)
  else
    joinColons ((groups.take start).map groupChars) ++ ':' :: ':' ::
      joinColons ((groups.drop (start + length)).map groupChars)

/-! Hosts. -/

def chars : UrlHost → List Char
  | .name text => text
  | .ipv4 n => ipv4Chars n
  | .ipv6 groups => '[' :: ipv6Chars groups ++ [']']

/-- A host in brackets. -/
def ofBrackets (cs : List Char) : Except UrlError UrlHost :=
  match cs.getLast?, ipv6? (cs.drop 1).dropLast with
  | some ']', some groups => .ok (.ipv6 groups)
  | _, _ => .error .invalidIpv6

/-- The host of an address of the web. -/
def ofSpecial (cs : List Char) : Except UrlError UrlHost :=
  if cs.head? = some '[' then ofBrackets cs
  else
    match (Utf8.decode? (Percent.decode cs)).bind Domain.toAscii? with
    | none => .error .invalidDomainName
    | some [] => .error .emptyHost
    | some domain =>
      if endsInNumber domain then
        match ipv4? domain with
        | some n => .ok (.ipv4 n)
        | none => .error .invalidIpv4
      else .ok (.name domain)

/-- Characters that no host can have. -/
def isDenied (c : Char) : Bool :=
  ['\x00', '\t', '\n', '\r', ' ', '#', '/', ':', '<', '>', '?', '@', '[', '\\', ']',
    '^', '|'].contains c

/-- The host of any other address. -/
def ofOpaque (cs : List Char) : Except UrlError UrlHost :=
  if cs.head? = some '[' then ofBrackets cs
  else if cs.any isDenied then .error .invalidDomainCharacter
  else .ok (.name (Percent.encode Percent.controls cs))

end UrlHost

end ScriptBench
