import Glyphcast.Text.Cut
import Glyphcast.Text.Decimal
import Glyphcast.Text.Quoted

/-!
# Network addresses

The written forms of addresses of the internet protocol, in both versions, with or without a port.

An address of version 6 is eight groups of hexadecimal digits. Two colons stand once for groups of
zeros that are left out, at least one, and the last two groups may be written as an address of
version 4. What is printed is the usual short form: the longest run of zero groups is left out if
it is longer than one, the first of several, and addresses that stand for one of version 4 show it.

Readers here take a list of characters and give what is left, so that each part of a form is read
by the function of its name.
-/

namespace Glyphcast.Net

/-- An address of version 4, its four numbers below 256. -/
structure Ipv4 where
  /-- The first number. -/
  a : Nat
  /-- The second number. -/
  b : Nat
  /-- The third number. -/
  c : Nat
  /-- The fourth number. -/
  d : Nat
  deriving DecidableEq, Repr

/-- An address of either version. -/
inductive IpAddress where
  /-- An address of version 4. -/
  | v4 (address : Ipv4)
  /-- An address of version 6, its eight groups below 65536. -/
  | v6 (groups : List Nat)
  deriving DecidableEq, Repr

/-- An address and a port. -/
structure SocketAddress where
  /-- The address. -/
  ip : IpAddress
  /-- The port. -/
  port : Nat
  /-- The zone that an address of version 6 belongs to; zero is none. -/
  scope : Nat := 0
  deriving DecidableEq, Repr

/-! ## Reading -/

/-- The value of a digit in a base of at most sixteen. -/
def digitValue? (base : Nat) (c : Char) : Option Nat :=
  let value :=
    if c.isDigit then some (c.toNat - '0'.toNat)
    else if 'a' ≤ c ∧ c ≤ 'f' then some (c.toNat - 'a'.toNat + 10)
    else if 'A' ≤ c ∧ c ≤ 'F' then some (c.toNat - 'A'.toNat + 10)
    else none
  value.filter (· < base)

/-- A number below `bound`: all digits that follow, at least one. -/
def readNumber? (base bound : Nat) (cs : List Char) : Option (Nat × List Char) :=
  let isDigit := fun c ↦ (digitValue? base c).isSome
  let digits := cs.takeWhile isDigit
  let value := digits.foldl (fun n c ↦ n * base + (digitValue? base c).getD 0) 0
  if digits.isEmpty ∨ bound ≤ value then none else some (value, cs.dropWhile isDigit)

/-- How many digits the text starts with. -/
def digitCount (base : Nat) (cs : List Char) : Nat :=
  (cs.takeWhile fun c ↦ (digitValue? base c).isSome).length

/-- A given character. -/
def readChar? (expected : Char) : List Char → Option (List Char)
  | c :: cs => if c = expected then some cs else none
  | [] => none

/-- One of the four numbers: up to three digits, without a zero in front. -/
def readOctet? (cs : List Char) : Option (Nat × List Char) :=
  let count := digitCount 10 cs
  if 3 < count ∨ (cs.head? = some '0' ∧ 1 < count) then none else readNumber? 10 256 cs

/-- An address of version 4. -/
def readIpv4? (cs : List Char) : Option (Ipv4 × List Char) := do
  let (a, cs) ← readOctet? cs
  let (b, cs) ← readOctet? (← readChar? '.' cs)
  let (c, cs) ← readOctet? (← readChar? '.' cs)
  let (d, cs) ← readOctet? (← readChar? '.' cs)
  return (⟨a, b, c, d⟩, cs)

/-- A group of up to four hexadecimal digits. -/
def readGroup? (cs : List Char) : Option (Nat × List Char) :=
  if 4 < digitCount 16 cs then none else readNumber? 16 65536 cs

/-- The two groups that an address of version 4 fills. -/
def Ipv4.groups (address : Ipv4) : List Nat :=
  [address.a * 256 + address.b, address.c * 256 + address.d]

/-- Up to `room` groups between colons, of which an address of version 4 at the end fills two, and
whether there was one. The first group has no colon in front. -/
def readGroups (first : Bool) : (room : Nat) → List Char → (List Nat × Bool) × List Char
  | 0, cs => (([], false), cs)
  | room + 1, cs =>
    let separated : Option (List Char) := if first then some cs else readChar? ':' cs
    let embedded := if room = 0 then none else separated.bind readIpv4?
    match embedded with
    | some (address, rest) => ((address.groups, true), rest)
    | none =>
      match separated.bind readGroup? with
      | some (group, rest) =>
        let ((groups, ended), rest) := readGroups false room rest
        ((group :: groups, ended), rest)
      | none => (([], false), cs)

/-- An address of version 6. -/
def readIpv6? (cs : List Char) : Option (List Nat × List Char) := do
  let ((front, ended), cs) := readGroups true 8 cs
  if front.length = 8 then return (front, cs)
  -- nothing follows an address of version 4
  if ended then none
  let cs ← readChar? ':' cs
  let cs ← readChar? ':' cs
  -- the two colons stand for one group at least
  let ((back, _), cs) := readGroups true (8 - (front.length + 1)) cs
  return (front ++ List.replicate (8 - front.length - back.length) 0 ++ back, cs)

/-- A port, after a colon. -/
def readPort? (cs : List Char) : Option (Nat × List Char) := do
  readNumber? 10 65536 (← readChar? ':' cs)

/-- A zone, after a percent sign, or no zone. -/
def readScope (cs : List Char) : Nat × List Char :=
  ((readChar? '%' cs).bind (readNumber? 10 UInt32.size)).getD (0, cs)

/-- What was read, if nothing is left. -/
def complete? {α : Type} : Option (α × List Char) → Option α
  | some (value, []) => some value
  | _ => none

/-- The address that a text stands for. -/
def IpAddress.ofText? (text : String) : Option IpAddress :=
  match complete? (readIpv4? text.toList) with
  | some address => some (.v4 address)
  | none => (complete? (readIpv6? text.toList)).map .v6

/-- An address of version 4 and a port. -/
def readSocket4? (cs : List Char) : Option (SocketAddress × List Char) := do
  let (address, cs) ← readIpv4? cs
  let (port, cs) ← readPort? cs
  return ({ ip := .v4 address, port }, cs)

/-- An address of version 6 in brackets, and a port. -/
def readSocket6? (cs : List Char) : Option (SocketAddress × List Char) := do
  let (groups, cs) ← readIpv6? (← readChar? '[' cs)
  let (scope, cs) := readScope cs
  let (port, cs) ← readPort? (← readChar? ']' cs)
  return ({ ip := .v6 groups, port, scope }, cs)

/-- The address and port that a text stands for. -/
def SocketAddress.ofText? (text : String) : Option SocketAddress :=
  (complete? (readSocket4? text.toList)).or (complete? (readSocket6? text.toList))

/-! ## Writing -/

/-- The written form of an address of version 4. -/
def Ipv4.text (address : Ipv4) : String :=
  ".".intercalate ([address.a, address.b, address.c, address.d].map toString)

/-- Groups in hexadecimal with colons between them. -/
def groupsText (groups : List Nat) : String :=
  ":".intercalate (groups.map fun group ↦ .ofList (Text.hex group))

/-- How many zero groups there are in front. -/
def zeroRun (groups : List Nat) : Nat := (groups.takeWhile (· == 0)).length

/-- The start and the length of the longest run of zero groups, the first of several. -/
def longestZeros (groups : List Nat) : Nat × Nat :=
  (List.range groups.length).foldl (fun best start ↦
    let run := zeroRun (groups.drop start)
    if best.2 < run then (start, run) else best) (0, 0)

/-- The written form of an address of version 6. -/
def ipv6Text (groups : List Nat) : String :=
  match groups with
  | [0, 0, 0, 0, 0, 0xffff, g, h] =>
    "::ffff:" ++ (Ipv4.mk (g / 256) (g % 256) (h / 256) (h % 256)).text
  | _ =>
    let (start, run) := longestZeros groups
    if run ≤ 1 then groupsText groups
    else groupsText (groups.take start) ++ "::" ++ groupsText (groups.drop (start + run))

/-- The written form of an address and a port. -/
def SocketAddress.text (socket : SocketAddress) : String :=
  match socket.ip with
  | .v4 address => address.text ++ ":" ++ toString socket.port
  | .v6 groups =>
    let scope := if socket.scope = 0 then "" else "%" ++ toString socket.scope
    "[" ++ ipv6Text groups ++ scope ++ "]:" ++ toString socket.port

/-- Every interface of the host, at a port. -/
def SocketAddress.anywhere (port : Nat) : SocketAddress := { ip := .v4 ⟨0, 0, 0, 0⟩, port }

end Glyphcast.Net
