import TypeGraph.Host.Composed
import TypeGraph.Host.Letter
import TypeGraph.Host.Punycode
import TypeGraph.Host.Script
import TypeGraph.Text.CodePoints

/-!
# International host names

A host name is made of labels.  A label outside ASCII has to obey the rules on its characters, their
order and their direction; it is sent in an ASCII form that starts with `xn--`.
-/

namespace TypeGraph.Host

open Text (CodePoints)

inductive NameError where
  | empty
  | tooLong
  | notComposed
  | reservedHyphens
  | outerHyphen
  | initialMark
  /-- A character that no label may hold, at a place of the label. -/
  | character (code place : Nat) (label : CodePoints)
  /-- A joiner where it may not stand. -/
  | joiner (code place : Nat) (label : CodePoints)
  /-- A joiner behind a letter of which too little is known. -/
  | unknownNeighbour (code place : Nat) (label : CodePoints)
  /-- A character that needs others around it. -/
  | context (code place : Nat) (label : CodePoints)
  /-- A character whose direction is not known. -/
  | unknownDirection (place : Nat) (label : CodePoints)
  /-- The first character has no direction. -/
  | firstDirection (label : CodePoints)
  /-- A character that runs the other way than its label. -/
  | mixedDirection (place : Nat) (rightToLeft : Bool)
  | mixedNumbers
  | lastDirection
  /-- The ASCII form of a label holds nothing. -/
  | emptyForm
  /-- The ASCII form of a label ends in a hyphen. -/
  | hyphenForm
  /-- The ASCII form of a label cannot be read. -/
  | malformedForm
deriving DecidableEq, Repr

def codeName (n : Nat) : String :=
  "U+" ++ String.ofList ((Text.hexDigits 4 n).map Char.toUpper)

def NameError.message : NameError → String
  | .empty => "Empty Label"
  | .tooLong => "Label too long"
  | .notComposed => "Label must be in Normalization Form C"
  | .reservedHyphens => "Label has disallowed hyphens in 3rd and 4th position"
  | .outerHyphen => "Label must not start or end with a hyphen"
  | .initialMark => "Label begins with an illegal combining character"
  | .character code place label =>
    s!"Codepoint {codeName code} at position {place} of {label.quoted} not allowed"
  | .joiner code place label =>
    s!"Joiner {codeName code} not allowed at position {place} in {label.quoted}"
  | .unknownNeighbour code place label =>
    s!"Unknown codepoint adjacent to joiner {codeName code} at position {place} in {label.quoted}"
  | .context code place label =>
    s!"Codepoint {codeName code} not allowed at position {place} in {label.quoted}"
  | .unknownDirection place label =>
    s!"Unknown directionality in label {label.quoted} at position {place}"
  | .firstDirection label =>
    s!"First codepoint in label {label.quoted} must be directionality L, R or AL"
  | .mixedDirection place rightToLeft =>
    let side := if rightToLeft then "right-to-left" else "left-to-right"
    s!"Invalid direction for codepoint at position {place} in a {side} label"
  | .mixedNumbers => "Can not mix numeral types in a right-to-left label"
  | .lastDirection => "Label ends with illegal codepoint directionality"
  | .emptyForm => "Malformed A-label, no Punycode eligible content found"
  | .hyphenForm => "A-label must not end with a hyphen"
  | .malformedForm => "Invalid A-label"

/-! ## Context -/

/-- Whether a joiner may stand between the characters before it, the nearest first, and those behind
it: behind a virama, or, for the one that keeps letters apart, between two letters that join. -/
def isJoinerAllowed (edition : Edition) (code : Nat) (before behind : CodePoints) : Bool :=
  let followsVirama := (before.head?.map (combiningClass edition)) = some viramaClass
  let next (s : CodePoints) : Option Nat := s.find? (!isTransparent edition ·)
  followsVirama ||
    (code = 0x200C &&
      (next before).any (fun n => leftJoiningRanges.covers n || dualJoiningRanges.covers n) &&
      (next behind).any (fun n => rightJoiningRanges.covers n || dualJoiningRanges.covers n))

def isContextual (n : Nat) : Bool :=
  [0xB7, 0x375, 0x5F3, 0x5F4, 0x30FB].contains n || (0x660 ≤ n && n ≤ 0x669) ||
    (0x6F0 ≤ n && n ≤ 0x6F9)

/-- Whether a character has the right neighbours: the middle dot stands between two letters `l`, the
Greek numeral sign before a Greek letter, Hebrew marks behind a Hebrew letter, the katakana middle
dot in Japanese or Chinese text, and the two kinds of Arabic digits do not mix. -/
def isContextRight (code : Nat) (before behind label : CodePoints) : Bool :=
  if code = 0xB7 then before.head? = some 0x6C && behind.head? = some 0x6C
  else if code = 0x375 then behind.head?.any greekRanges.covers
  else if code = 0x30FB then label.any fun n => n ≠ 0x30FB && eastAsianRanges.covers n
  else if 0x660 ≤ code && code ≤ 0x669 then !label.any fun n => 0x6F0 ≤ n && n ≤ 0x6F9
  else if 0x6F0 ≤ code && code ≤ 0x6F9 then !label.any fun n => 0x660 ≤ n && n ≤ 0x669
  else before.head?.any hebrewRanges.covers

/-- Checks the characters of a label, given those already passed, the nearest first. -/
def checkCharacters (label before : CodePoints) : CodePoints → Except NameError Unit
  | [] => .ok ()
  | n :: rest =>
    let place := before.length + 1
    if isLetter n then checkCharacters label (n :: before) rest
    else if n = 0x200C ∨ n = 0x200D then
      if before.head?.any isUnnamed then .error (.unknownNeighbour n place label)
      else if isJoinerAllowed .earlier n before rest then checkCharacters label (n :: before) rest
      else .error (.joiner n place label)
    else if isContextual n then
      if isContextRight n before rest label then checkCharacters label (n :: before) rest
      else .error (.context n place label)
    else .error (.character n place label)

/-! ## Direction -/

/-- Whether the last character that takes space may end a label. -/
def endsWell (rightToLeft : Bool) (directions : List Direction) : Bool :=
  match directions.reverse.find? (· ≠ .nonspacing) with
  | some .rightToLeft | some .arabicNumber => rightToLeft
  | some .leftToRight => !rightToLeft
  | some .europeanNumber => true
  | _ => false

/-- Whether a direction may stand in a label that runs from right to left, or the other way. -/
def mayStand (rightToLeft : Bool) : Direction → Bool
  | .leftToRight => !rightToLeft
  | .rightToLeft | .arabicNumber => rightToLeft
  | _ => true

/-- Checks the directions of a label from a place on, with the kind of numbers met. -/
def checkDirections (rightToLeft : Bool) :
    (place : Nat) → (number : Option Direction) → List Direction → Except NameError Unit
  | _, _, [] => .ok ()
  | place, number, d :: rest =>
    if !mayStand rightToLeft d then .error (.mixedDirection place rightToLeft)
    else if rightToLeft ∧ (d = .arabicNumber ∨ d = .europeanNumber) then
      match number with
      | none => checkDirections rightToLeft (place + 1) (some d) rest
      | some kind =>
        if kind = d then checkDirections rightToLeft (place + 1) number rest
        else .error .mixedNumbers
    else checkDirections rightToLeft (place + 1) number rest

/-- Checks the directions of a label, which have to be known.  Only a label that holds something
running from right to left is checked further. -/
def checkDirection (label : CodePoints) : Except NameError Unit := do
  if let some i := label.findIdx? isRecent then throw (.unknownDirection (i + 1) label)
  let directions := label.map direction
  if !directions.any fun d => d = .rightToLeft || d = .arabicNumber then return
  match directions.head? with
  | some .rightToLeft =>
    checkDirections true 1 none directions
    if !endsWell true directions then throw .lastDirection
  | some .leftToRight =>
    checkDirections false 1 none directions
    if !endsWell false directions then throw .lastDirection
  | _ => throw (.firstDirection label)

/-! ## Labels and names -/

def maxLabel : Nat := 63

def maxName : Nat := 253

def checkLabel (label : CodePoints) : Except NameError Unit := do
  if label = [] then throw .empty
  if maxName + 1 < label.length then throw .tooLong
  if !isComposed .earlier label then throw .notComposed
  if (label.drop 2).take 2 = [0x2D, 0x2D] then throw .reservedHyphens
  if label.head? = some 0x2D ∨ label.getLast? = some 0x2D then throw .outerHyphen
  if label.head?.any (isMark .earlier) then throw .initialMark
  checkCharacters label [] label
  checkDirection label

/-- What starts the ASCII form of a label. -/
def formMark : CodePoints := CodePoints.ofString "xn--"

def startsForm (s : CodePoints) : Bool := formMark.isPrefixOf s

/-- The label of an ASCII text, which may be the form of another one. -/
def readLabel (text : CodePoints) : Except NameError CodePoints := do
  if !startsForm text then
    checkLabel text
    return text
  let form := text.drop formMark.length
  if form = [] then throw .emptyForm
  if form.getLast? = some 0x2D then throw .hyphenForm
  match Punycode.decode (form.map Char.ofNat) with
  | none => throw .malformedForm
  | some label =>
    checkLabel label
    return label

def writeLabel (label : CodePoints) : Except NameError CodePoints := do
  let text ←
    if label.all (· < 0x80) then do
      let _ ← readLabel label
      pure label
    else do
      checkLabel label
      pure (formMark ++ CodePoints.ofChars (Punycode.encode label))
  if maxLabel < text.length then throw .tooLong
  return text

def fullStops : List Nat := [0x2E, 0x3002, 0xFF0E, 0xFF61]

/-- The labels of a name; a full stop at its end divides off nothing. -/
def labels (name : CodePoints) : List CodePoints × Bool :=
  let parts := (name.map fun n => if fullStops.contains n then 0x2E else n).splitOn 0x2E
  if parts.getLast? = some [] then (parts.dropLast, true) else (parts, false)

def mapLabels (f : CodePoints → Except NameError CodePoints) (name : CodePoints) :
    Except NameError CodePoints := do
  if maxName + 1 < name.length then throw .tooLong
  let (parts, dot) := labels name
  let done ← parts.mapM f
  return [0x2E].intercalate (done ++ if dot then [[]] else [])

def encodeName (name : CodePoints) : Except NameError CodePoints := do
  let text ← mapLabels writeLabel name
  if maxName + (if (labels name).2 then 1 else 0) < text.length then throw .tooLong
  return text

def decodeName (text : CodePoints) : Except NameError CodePoints := mapLabels readLabel text

end TypeGraph.Host
