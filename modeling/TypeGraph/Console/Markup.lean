import TypeGraph.Console.Literal
import TypeGraph.Console.Page
import TypeGraph.Console.Style
import TypeGraph.Number.Integer

/-!
# Console markup

A tag in square brackets starts with a lower-case letter, `#`, `/` or `@` and holds no other opening
bracket.  An opening tag lasts until its closing tag or the end of the text; a closing tag that
matches no open one is an error.  Tags do not show.  Backslashes in front of a tag escape it, two of
them standing for one.

A tag names a style or, with `@` in front, a handler; parameters may stand behind an equals sign.
Those of a handler are read when its tag is closed, and those of a style are words of its name when
it is put on the text.
-/

namespace TypeGraph.Console

/-- A piece of marked-up text: shown text, or the content of a tag. -/
inductive Piece where
  | text (s : List Char)
  | tag (content : List Char)
deriving DecidableEq, Repr

def startsTag (c : Char) : Bool := ('a' ≤ c && c ≤ 'z') || c = '#' || c = '/' || c = '@'

/-- The content of a tag behind its opening bracket, and the rest behind its closing one. -/
def tagContent? (s : List Char) : Option (List Char × List Char) :=
  match s with
  | [] => none
  | c :: _ =>
    let content := s.takeWhile fun c => c ≠ ']' && c ≠ '['
    match s.dropWhile fun c => c ≠ ']' && c ≠ '[' with
    | ']' :: rest => if startsTag c then some (content, rest) else none
    | _ => none

/-- A tag with the backslashes in front of it: their number, the content and the rest. -/
def escapedTag? (s : List Char) : Option (Nat × List Char × List Char) :=
  let slashes := s.takeWhile (· = '\\')
  match s.drop slashes.length with
  | '[' :: rest => (tagContent? rest).map fun (content, rest) => (slashes.length, content, rest)
  | _ => none

theorem length_tagContent?_lt {s content rest : List Char}
    (h : tagContent? s = some (content, rest)) : rest.length < s.length := by
  unfold tagContent? at h
  split at h
  · simp at h
  · rename_i c cs
    split at h
    · rename_i r hr
      have hle : ((c :: cs).dropWhile fun c => c ≠ ']' && c ≠ '[').length ≤ (c :: cs).length :=
        (List.dropWhile_suffix _).length_le
      simp only [Option.ite_none_right_eq_some, Option.some.injEq, Prod.mk.injEq] at h
      rw [hr] at hle
      rw [← h.2.2]
      simp only [List.length_cons] at hle ⊢
      omega
    · simp at h

theorem length_escapedTag?_lt {s content rest : List Char} {n : Nat}
    (h : escapedTag? s = some (n, content, rest)) : rest.length < s.length := by
  unfold escapedTag? at h
  simp only at h
  split at h
  · rename_i r hr
    obtain ⟨⟨c, r'⟩, hc, he⟩ := Option.map_eq_some_iff.mp h
    simp only [Prod.mk.injEq] at he
    have hlt := length_tagContent?_lt hc
    have hlen := congrArg List.length hr
    simp only [List.length_drop, List.length_cons] at hlen
    rw [← he.2.2]
    omega
  · simp at h

/-- The pieces of a tag with backslashes in front: an odd number of them escapes the tag. -/
def tagPieces (slashes : Nat) (content : List Char) : List Piece :=
  let shown := if slashes / 2 = 0 then [] else [.text (List.replicate (slashes / 2) '\\')]
  shown ++ [if slashes % 2 = 1 then .text ('[' :: content ++ [']']) else .tag content]

/-- The pieces of a marked-up text; `done` is the text in front, last character first. -/
def pieces (done : List Char) : List Char → List Piece
  | [] => if done = [] then [] else [.text done.reverse]
  | c :: cs =>
    match _h : escapedTag? (c :: cs) with
    | some (n, content, rest) =>
      (if done = [] then [] else [.text done.reverse]) ++ tagPieces n content ++ pieces [] rest
    | none => pieces (c :: done) cs
termination_by s => s.length
decreasing_by
  · exact length_escapedTag?_lt _h
  · simp

/-- A text in which a backslash in front of a bracket is dropped. -/
def dropBracketEscapes : List Char → List Char
  | [] => []
  | '\\' :: '[' :: rest => '[' :: dropBracketEscapes rest
  | c :: rest => c :: dropBracketEscapes rest

inductive MarkupError where
  /-- A closing tag matches no open one. -/
  | unmatched
  /-- The parameters of a handler are neither a call with literal arguments nor a literal value. -/
  | handler
  /-- A colour has a component without digits. -/
  | blankComponent
deriving DecidableEq, Repr

def MarkupError.message : MarkupError → String
  | .unmatched => "A closing tag matches no open one."
  | .handler => "The parameters of a handler are no values."
  | .blankComponent => Integer.ReadError.message 10 [] .malformed

/-- An open tag: the normal form of its name, its parameters and the place where it starts. -/
structure OpenTag where
  name : String
  parameters : Option (List Char)
  start : Nat

structure Span where
  start : Nat
  stop : Nat
  style : String

/-- What a handler is given: the arguments of a call, which may be left out, or else everything. -/
def handlerValue (parameters : List Char) : List Char :=
  let parameters := Text.trim parameters
  let rest := parameters.dropWhile fun c => Text.isWord c || c = '.'
  if rest = [] then ['(', ')']
  else if rest.head? = some '(' && rest.getLast? = some ')' && 2 ≤ rest.length &&
      !rest.contains '\n' then rest
  else parameters

/-- Closes a tag.  A handler leaves no style. -/
def OpenTag.close (t : OpenTag) (position : Nat) : Except MarkupError (Option Span) :=
  match t.name.toList, t.parameters with
  | '@' :: _, none | '@' :: _, some [] => .ok none
  | '@' :: _, some parameters =>
    if Literal.isLiteral (handlerValue parameters) then .ok none else .error .handler
  | _, none => .ok (some ⟨t.start, position, t.name⟩)
  | _, some parameters =>
    .ok (some ⟨t.start, position, t.name ++ " " ++ String.ofList parameters⟩)

/-- The stretch of a tag that is never closed. -/
def OpenTag.span (t : OpenTag) (position : Nat) : Span where
  start := t.start
  stop := position
  style := t.name ++ String.ofList ((t.parameters.map (' ' :: ·)).getD [])

def takeTag? (name : String) : List OpenTag → Option (OpenTag × List OpenTag)
  | [] => none
  | t :: rest =>
    if t.name = name then some (t, rest)
    else (takeTag? name rest).map fun (found, rest) => (found, t :: rest)

def tagName (name : List Char) : Except MarkupError String :=
  (normalStyle (String.ofList name)).mapError fun _ => .blankComponent

def applyTag (position : Nat) (openTags : List OpenTag) (content : List Char) :
    Except MarkupError (List OpenTag × Option Span) := do
  let name := content.takeWhile (· ≠ '=')
  let parameters := (content.dropWhile (· ≠ '=')).tail?
  match name with
  | '/' :: closing =>
    let closing := Text.trim closing
    let found ←
      if closing = [] then pure (openTags.head?.map fun t => (t, openTags.drop 1))
      else pure (takeTag? (← tagName closing) openTags)
    match found with
    | none => throw .unmatched
    | some (tag, rest) => return (rest, ← tag.close position)
  | _ => return (⟨← tagName name, parameters, position⟩ :: openTags, none)

/-- The text that some pieces show from a place on, given the tags that are open there, and the
stretches that end there or later. -/
def showPieces : (position : Nat) → List OpenTag → List Piece →
    Except MarkupError (List Char × List Span)
  | position, openTags, [] => .ok ([], openTags.map (·.span position))
  | position, openTags, .text s :: rest => do
    let shown := dropBracketEscapes s
    let (text, spans) ← showPieces (position + shown.length) openTags rest
    return (shown ++ text, spans)
  | position, openTags, .tag content :: rest => do
    let (openTags, closed) ← applyTag position openTags content
    let (text, spans) ← showPieces position openTags rest
    return (text, closed.toList ++ spans)

/-- Whether the style of a stretch is looked up: an empty one is dropped where a text is cut at line
ends or tabs. -/
def Span.isUsed (s : Span) (text : List Char) : Bool :=
  ((text.take s.stop).drop s.start).any (fun c => !isDropped c && c ≠ '\n') ||
    text.all fun c => c ≠ '\n' && c ≠ '\t'

/-- Whether a stretch has a style that can be looked up, be it one or not. -/
def Span.isSound (s : Span) : Bool :=
  match Style.ofName s.style with
  | .error .blankComponent => false
  | _ => true

def showMarkup (s : String) : Except MarkupError String := do
  let (text, spans) ← showPieces 0 [] (pieces [] s.toList)
  if spans.all fun span => !span.isUsed text || span.isSound then return String.ofList text
  else throw .blankComponent

/-- Doubles the backslashes in front of every tag and adds one. -/
def escapeTags : List Char → List Char
  | [] => []
  | c :: cs =>
    match _h : escapedTag? (c :: cs) with
    | some (n, content, rest) =>
      List.replicate (2 * n + 1) '\\' ++ '[' :: content ++ ']' :: escapeTags rest
    | none => c :: escapeTags cs
termination_by s => s.length
decreasing_by
  · exact length_escapedTag?_lt _h
  · simp

/-- A text in which no tag is one.  A single backslash at the end is doubled, so that it does not
escape what follows. -/
def escapeMarkup (s : String) : String :=
  let escaped := escapeTags s.toList
  match escaped.reverse with
  | '\\' :: '\\' :: _ => String.ofList escaped
  | '\\' :: _ => String.ofList (escaped ++ ['\\'])
  | _ => String.ofList escaped

end TypeGraph.Console
