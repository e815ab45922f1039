import TypeGraph.Text.Quoted

/-!
# Texts that may hold lone surrogates

An escape can name a code point that no text may hold: half of a surrogate pair.  Such a text is
kept as its code points.  It is quoted like any other, with each surrogate by its code.
-/

namespace TypeGraph.Text

abbrev CodePoints := List Nat

namespace CodePoints

def ofChars (s : List Char) : CodePoints := s.map Char.toNat

def ofString (s : String) : CodePoints := ofChars s.toList

def toString? (codes : CodePoints) : Option String :=
  if codes.all fun n => n.isValidChar then some (String.ofList (codes.map Char.ofNat)) else none

def quotedCode (quote : Char) (n : Nat) : List Char :=
  if n.isValidChar then quotedChar quote (Char.ofNat n) else escapeCode n

def quoted (codes : CodePoints) : String :=
  let q := quoteFor (codes.map Char.ofNat)
  String.ofList (q :: codes.flatMap (quotedCode q) ++ [q])

end CodePoints

end TypeGraph.Text
