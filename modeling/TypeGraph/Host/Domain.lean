import TypeGraph.Host.Label
import TypeGraph.Host.Mapping

/-!
# Host names as people type them

A domain is a host name in which characters may stand for others.  Its labels are read one by one:
each character is replaced by what it stands for, the result is composed, and a label in ASCII form
is read as the label that it is the form of.  Some symbols of ASCII, an initial mark and a joiner
out of place spoil a label.  If any label holds something that runs from right to left, all labels
have to run one way.
-/

namespace TypeGraph.Host.Domain

open Text (CodePoints)

/-- Whether a code point of ASCII may not stand in a domain: controls, blanks and the marks that
divide addresses. -/
def isRefused (n : Nat) : Bool :=
  n ≤ 0x20 || n = 0x7F || (CodePoints.ofString ".%#/:<>?@[\\]^|").contains n

/-- What a text stands for, in composed form. -/
def folded? (text : CodePoints) : Option CodePoints :=
  (text.mapM meaning?).map fun meanings => composed .later meanings.flatten

/-- The label of its ASCII form, which has to hold something outside ASCII and nothing that stands
for something else. -/
def ofForm? (form : CodePoints) : Option CodePoints := do
  if form.any (0x80 ≤ ·) || form.getLast? = some 0x2D then none
  let label ← Punycode.decode (form.map Char.ofNat)
  let same := (folded? label).any (· = label)
  if same && label.any (0x80 ≤ ·) then some label else none

/-- Whether all joiners of a label stand where they may, given the characters already passed, the
nearest first. -/
def areJoinersAllowed (before : CodePoints) : CodePoints → Bool
  | [] => true
  | n :: rest =>
    (!(n = 0x200C || n = 0x200D) || isJoinerAllowed .later n before rest) &&
      areJoinersAllowed (n :: before) rest

def maxLabel : Nat := 1000

def label? (text : CodePoints) : Option CodePoints := do
  let label ← folded? text
  let label ← if startsForm label then ofForm? (label.drop formMark.length) else some label
  if label.any isRefused || label.head?.any (isMark .later) || !areJoinersAllowed [] label then none
  else if label.any (0x80 ≤ ·) && maxLabel < label.length then none
  else some label

/-- Whether a label runs one way; an empty one does. -/
def runsOneWay (label : CodePoints) : Bool :=
  let directions := label.map direction
  match directions.head? with
  | none => true
  | some .rightToLeft =>
    (checkDirections true 1 none directions).isOk && endsWell true directions
  | some .leftToRight =>
    (checkDirections false 1 none directions).isOk && endsWell false directions
  | some _ => false

def read? (text : CodePoints) : Option (List CodePoints) := do
  let parts := (text.map fun n => if fullStops.contains n then 0x2E else n).splitOn 0x2E
  let labels ← parts.mapM label?
  let turns := labels.flatten.any fun n => direction n = .rightToLeft || direction n = .arabicNumber
  if turns && !labels.all runsOneWay then none else some labels

end TypeGraph.Host.Domain
