import RegisterMachine.Text.Numeral

/-!
# Socket addresses

Internet addresses with a port, in the text forms of versions 4 and 6.  Four decimal octets without
leading zeros, or eight groups of hexadecimal digits, of which one row of zero groups may be left
out and the last two may be written as four octets; the latter form stands in brackets, where a
scope may follow it.  Names of hosts are no addresses.

An address is written in its shortest form: the longest row of at least two zero groups is left
out, the first one of several, and octets are used for addresses that stand for one of version 4.
-/

namespace RegisterMachine

/-- An address of version 4. -/
structure IPv4 where
  octets : Vector UInt8 4
deriving DecidableEq, Repr

/-- An address of version 6. -/
structure IPv6 where
  groups : Vector UInt16 8
deriving DecidableEq, Repr

/-- An address with a port. -/
inductive SocketAddress where
  | v4 (ip : IPv4) (port : UInt16)
  | v6 (ip : IPv6) (scope : UInt32) (port : UInt16)
deriving DecidableEq, Repr

namespace SocketAddress

/-! ### Reading -/

/-- Reads a part of an address and gives back the rest of the text. -/
abbrev Reader (α : Type) := List Char → Option (α × List Char)

/-- Reads one given character. -/
def skip (c : Char) (cs : List Char) : Option (List Char) :=
  match cs with
  | []      => none
  | d :: cs => if d = c then some cs else none

/-- Reads all digits that stand in front, a number of at most `limit`.  There may be no more than
`most` digits, if that is given, and no zeros in front unless `leadingZeros`. -/
def number (base limit : Nat) (most : Option Nat) (leadingZeros : Bool) : Reader Nat := fun cs =>
  let isDigit := fun c => (Text.digit? base c).isSome
  let digits := cs.takeWhile isDigit
  let tooMany := most.any fun n => decide (n < digits.length)
  let zeroFirst := digits.head? == some '0' && decide (1 < digits.length)
  if tooMany || (zeroFirst && !leadingZeros) then none
  else (Text.natural? base limit digits).map fun n => (n, cs.dropWhile isDigit)

/-- Reads an octet. -/
def octet : Reader UInt8 := fun cs =>
  (number 10 255 (some 3) false cs).map fun (n, cs) => (UInt8.ofNat n, cs)

/-- Reads an address of version 4. -/
def ipv4 : Reader IPv4 := fun cs => do
  let (a, cs) ← octet cs
  let (b, cs) ← octet (← skip '.' cs)
  let (c, cs) ← octet (← skip '.' cs)
  let (d, cs) ← octet (← skip '.' cs)
  return (⟨#v[a, b, c, d]⟩, cs)

/-- The two groups that the octets of an address make up. -/
def IPv4.toGroups (ip : IPv4) : List UInt16 :=
  [UInt16.ofNat (ip.octets[0].toNat * 256 + ip.octets[1].toNat),
   UInt16.ofNat (ip.octets[2].toNat * 256 + ip.octets[3].toNat)]

/-- Reads at most `room` groups, the first of them with or without a colon in front.  Where there
is room for two, four octets can stand for the last two groups; the flag says whether they do. -/
def groups (colon : Bool) : Nat → List Char → List UInt16 × Bool × List Char
  | 0,        cs => ([], false, cs)
  | room + 1, cs =>
    match if colon then skip ':' cs else some cs with
    | none      => ([], false, cs)
    | some body =>
      match if 0 < room then ipv4 body else none with
      | some (ip, rest) => (IPv4.toGroups ip, true, rest)
      | none            =>
        match number 16 0xffff (some 4) true body with
        | none           => ([], false, cs)
        | some (n, rest) =>
          let (gs, octets, rest) := groups true room rest
          (UInt16.ofNat n :: gs, octets, rest)

/-- Eight groups, the first of which are `front` and the last `back`. -/
def fill (front back : List UInt16) : IPv6 :=
  ⟨Vector.ofFn fun i =>
    (front ++ List.replicate (8 - front.length - back.length) 0 ++ back).getD i 0⟩

/-- Reads an address of version 6. -/
def ipv6 : Reader IPv6 := fun cs =>
  let (front, octets, rest) := groups false 8 cs
  if front.length = 8 then some (fill front [], rest)
  else if octets then none
  else do
    let rest ← skip ':' (← skip ':' rest)
    let (back, _, rest) := groups false (7 - front.length) rest
    return (fill front back, rest)

/-- Reads a port with the colon in front. -/
def port : Reader UInt16 := fun cs => do
  let (n, cs) ← number 10 0xffff none true (← skip ':' cs)
  return (UInt16.ofNat n, cs)

/-- Reads a scope with the percent sign in front. -/
def scope : Reader UInt32 := fun cs => do
  let (n, cs) ← number 10 0xffffffff none true (← skip '%' cs)
  return (UInt32.ofNat n, cs)

/-- Reads an address of version 4 with its port. -/
def readV4 : Reader SocketAddress := fun cs => do
  let (ip, cs) ← ipv4 cs
  let (p, cs) ← port cs
  return (.v4 ip p, cs)

/-- Reads an address of version 6 with its port. -/
def readV6 : Reader SocketAddress := fun cs => do
  let (ip, cs) ← ipv6 (← skip '[' cs)
  let (s, cs) := (scope cs).getD (0, cs)
  let (p, cs) ← port (← skip ']' cs)
  return (.v6 ip s p, cs)

/-- The address that a text stands for. -/
def read? (s : String) : Option SocketAddress :=
  match readV4 s.toList <|> readV6 s.toList with
  | some (a, []) => some a
  | _            => none

/-! ### Writing -/

/-- The text of an address of version 4. -/
def IPv4.text (ip : IPv4) : String :=
  ".".intercalate (ip.octets.toList.map fun b => toString b.toNat)

/-- Groups in hexadecimal digits, with colons between them. -/
def groupText (gs : List UInt16) : String :=
  ":".intercalate (gs.map fun g => Text.zeroFilled 16 1 g.toNat)

/-- The place and the length of the longest row of zeros, the first one of several. -/
def longestZeros (gs : List UInt16) : Nat × Nat :=
  let rows := (List.range gs.length).map fun i => (i, ((gs.drop i).takeWhile (· == 0)).length)
  rows.foldl (fun best row => if best.2 < row.2 then row else best) (0, 0)

/-- The address of version 4 that one of version 6 stands for. -/
def IPv6.mapped? (ip : IPv6) : Option IPv4 :=
  match ip.groups.toList with
  | [0, 0, 0, 0, 0, 0xffff, g, h] =>
    some ⟨#v[(g >>> 8).toUInt8, g.toUInt8, (h >>> 8).toUInt8, h.toUInt8]⟩
  | _ => none

/-- The text of an address of version 6. -/
def IPv6.text (ip : IPv6) : String :=
  match IPv6.mapped? ip with
  | some ip => "::ffff:" ++ IPv4.text ip
  | none    =>
    let gs := ip.groups.toList
    let (start, count) := longestZeros gs
    if 1 < count then groupText (gs.take start) ++ "::" ++ groupText (gs.drop (start + count))
    else groupText gs

/-- The text of an address with its port. -/
def text : SocketAddress → String
  | v4 ip p   => IPv4.text ip ++ ":" ++ toString p.toNat
  | v6 ip s p =>
    let zone := if s = 0 then "" else "%" ++ toString s.toNat
    "[" ++ IPv6.text ip ++ zone ++ "]:" ++ toString p.toNat

end SocketAddress

end RegisterMachine
