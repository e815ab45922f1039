/-!
# Addresses in numbers

Four numbers below 256 with dots between them, or up to eight groups of hexadecimal digits with
colons between them, where two colons in a row stand for as many groups of zeros as are missing.
-/

namespace TypeGraph.Host

/-- Whether a run of digits is a number below 256 without a leading zero. -/
def isOctet (digits : List Char) : Bool :=
  digits ≠ [] && digits.all Char.isDigit && digits.length ≤ 3 &&
    (digits.length = 1 || digits.head? ≠ some '0') &&
    digits.foldl (fun n c => 10 * n + (c.toNat - 0x30)) 0 < 256

def isIpv4 (s : List Char) : Bool :=
  let parts := s.splitOn '.'
  parts.length = 4 && parts.all isOctet

def isGroup (s : List Char) : Bool :=
  let isHex (c : Char) : Bool := c.isDigit || ('a' ≤ c && c ≤ 'f') || ('A' ≤ c && c ≤ 'F')
  s ≠ [] && s.length ≤ 4 && s.all isHex

/-- The groups on one side of two colons: nothing, or groups only. -/
def areSideGroups (side : List (List Char)) : Option Nat :=
  if side = [[]] then some 0 else if side.all isGroup then some side.length else none

def areGroups (parts : List (List Char)) : Bool :=
  let inner := (parts.drop 1).dropLast
  match inner.findIdx? (· = []) with
  | none => parts.length = 8 && parts.all isGroup
  | some i =>
    match areSideGroups (parts.take (i + 1)), areSideGroups (parts.drop (i + 2)) with
    | some high, some low => high + low < 8
    | _, _ => false

/-- The parts between colons, with an address of four numbers at the end as two groups. -/
def groupParts? (s : List Char) : Option (List (List Char)) :=
  let parts := s.splitOn ':'
  match parts.getLast? with
  | some last =>
    if last.contains '.' then
      if isIpv4 last then some (parts.dropLast ++ [['0'], ['0']]) else none
    else some parts
  | none => none

/-- Whether a text is an address of groups.  A zone may be named behind a percent sign. -/
def isIpv6 (s : List Char) : Bool :=
  let address := s.takeWhile (· ≠ '%')
  let zone := s.dropWhile (· ≠ '%')
  let zoneOk := zone = [] || (zone.length ≠ 1 && !(zone.drop 1).contains '%')
  let isLong := 3 ≤ (address.splitOn ':').length
  zoneOk && isLong && (groupParts? address).any areGroups

end TypeGraph.Host
