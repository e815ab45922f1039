import TypeGraph.Charset.Stream
import TypeGraph.Charset.Unit

/-!
# Texts with escapes

Each byte is the character of the same code, and a backslash starts an escape.  In full, an escape
is a letter that names a control character, a number of up to three octal digits, or a number of
two, four or eight hexadecimal digits behind a letter.  In the raw form only the last two are known.
An escape that is broken off gives the replacement character.
-/

namespace TypeGraph.Charset.Escaped

open Utf8 (replacement)

def byteChar (b : UInt8) : Char := Char.ofNat b.toNat

def hexDigit? (b : UInt8) : Option Nat :=
  let c := byteChar b
  if c.isDigit then some (b.toNat - 0x30)
  else if 'a' ≤ c ∧ c ≤ 'f' then some (b.toNat - 0x61 + 10)
  else if 'A' ≤ c ∧ c ≤ 'F' then some (b.toNat - 0x41 + 10)
  else none

/-- Takes an escape of `count` hexadecimal digits, of which a backslash and a letter were read. -/
def hexStep (count : Nat) (bytes : List UInt8) : Step Unit :=
  let digits := ((bytes.take count).map hexDigit?).takeWhile Option.isSome
  if digits.length < count then
    if bytes.length ≤ digits.length then .unfinished else .wrong (2 + digits.length)
  else
    let n := digits.foldl (fun n d => 16 * n + d.getD 0) 0
    if 0x10FFFF < n then .wrong (2 + count) else .chars [codeChar n] (2 + count) ()

def digitCount? (c : Char) : Option Nat :=
  if c = 'u' then some 4 else if c = 'U' then some 8 else none

def rawStep (bytes : List UInt8) : Step Unit :=
  match bytes with
  | [] => .unfinished
  | [b] => single (byteChar b)
  | b :: e :: rest =>
    if b ≠ 0x5C then single (byteChar b)
    else
      match digitCount? (byteChar e) with
      | some count => hexStep count rest
      | none => .chars ['\\', byteChar e] 2 ()

/-- The characters that letters behind a backslash name. -/
def named : List (Char × Char) :=
  [('\\', '\\'), ('\'', '\''), ('"', '"'), ('a', '\x07'), ('b', '\x08'), ('f', '\x0c'),
    ('n', '\n'), ('r', '\r'), ('t', '\t'), ('v', '\x0b')]

def octalStep (bytes : List UInt8) : Step Unit :=
  let digits := (bytes.take 3).takeWhile fun b => 0x30 ≤ b && b ≤ 0x37
  let n := digits.foldl (fun n b => 8 * n + (b.toNat - 0x30)) 0
  .chars [Char.ofNat n] (1 + digits.length) ()

/-- Takes the name of a character in braces, none of which is known. -/
def nameStep (bytes : List UInt8) : Step Unit :=
  match bytes with
  | [] => .unfinished
  | 0x7B :: rest =>
    let name := rest.takeWhile (· ≠ 0x7D)
    if name.length = rest.length then .unfinished
    else .wrong (if name = [] then 3 else 4 + name.length)
  | _ => .wrong 2

def fullStep (bytes : List UInt8) : Step Unit :=
  match bytes with
  | [] => .unfinished
  | b :: rest =>
    if b ≠ 0x5C then single (byteChar b)
    else
      match rest with
      | [] => .unfinished
      | e :: after =>
        let c := byteChar e
        let count := if c = 'x' then some 2 else digitCount? c
        if c = '\n' then .chars [] 2 ()
        else if 0x30 ≤ e ∧ e ≤ 0x37 then octalStep rest
        else if c = 'N' then nameStep after
        else
          match named.lookup c, count with
          | some control, _ => .chars [control] 2 ()
          | none, some count => hexStep count after
          | none, none => .chars ['\\', c] 2 ()

end TypeGraph.Charset.Escaped
