import TypeGraph.Text.CodeRange

/-!
# Blank characters

The blank characters are the ASCII controls from tab to carriage return and from file to unit
separator, the next-line control, and the space separators of Unicode.  The zero-width space and
the byte order mark are not blank.
-/

namespace TypeGraph.Text

def blankRanges : CodeRanges where
  ranges := [
    (0x09, 0x0D), (0x1C, 0x20), (0x85, 0x85), (0xA0, 0xA0), (0x1680, 0x1680), (0x2000, 0x200A),
    (0x2028, 0x2029), (0x202F, 0x202F), (0x205F, 0x205F), (0x3000, 0x3000)]

def isBlank (c : Char) : Bool := blankRanges.covers c.toNat

def trimStart (s : List Char) : List Char := s.dropWhile isBlank

def trimEnd (s : List Char) : List Char := (s.reverse.dropWhile isBlank).reverse

def trim (s : List Char) : List Char := trimEnd (trimStart s)

def isBlankText (s : String) : Bool := s.toList.all isBlank

def strip (s : String) : String := String.ofList (trim s.toList)

end TypeGraph.Text
