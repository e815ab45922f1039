import TypeGraph.Graph.Basic
import TypeGraph.Source.Lexeme
import TypeGraph.Source.Pattern

/-!
# Methods with a receiver

A method definition is `func`, a receiver in parentheses, a name, a parameter list, the results, and
the opening brace of the body.  The results are all that stands between the parameter list and the
first opening brace, without the blanks around it; they must lie on one line, although the blanks
need not.
-/

namespace TypeGraph.Source

open TypeGraph.Text

/-- A method together with the type that receives it, as written. -/
structure ReceiverMethod where
  receiver : String
  method : Method
deriving DecidableEq, Repr

/-- A method record from captured texts; the parameters and the results lose the blanks around
them. -/
def methodOf (name params returns : List Char) : Method where
  name := String.ofList name
  params := String.ofList (trim params)
  returns := String.ofList (trim returns)

def receiverType? (s : List Char) : Option (List Char × List Char) :=
  match s with
  | '*' :: cs => (name? cs).map fun (name, rest) => ('*' :: name, rest)
  | cs => name? cs

/-- Reads a method definition at the start of the text, up to the opening brace of its body. -/
def ReceiverMethod.read? (s : List Char) : Option (ReceiverMethod × List Char) := do
  let s ← expect ['f', 'u', 'n', 'c'] s
  let s ← blanks? s
  let s ← expect ['('] s
  let (_, s) ← name? (trimStart s)
  let s ← blanks? s
  let (receiver, s) ← receiverType? s
  let s ← expect [')'] (trimStart s)
  let s ← blanks? s
  let (name, s) ← name? s
  let (params, s) ← parameters? (trimStart s)
  let (before, s) ← upTo? '{' (trimStart s)
  if '\n' ∈ trimEnd before then none
  else some (⟨String.ofList receiver, methodOf name params before⟩, s)

theorem length_receiverType?_lt {s run rest : List Char} (h : receiverType? s = some (run, rest)) :
    rest.length < s.length := by
  unfold receiverType? at h
  split at h
  · obtain ⟨⟨n, r⟩, hn, he⟩ := Option.map_eq_some_iff.mp h
    simp only [Prod.mk.injEq] at he
    have := length_name?_lt hn
    simp [← he.2]; omega
  · exact length_name?_lt h

theorem ReceiverMethod.length_read?_lt {s rest : List Char} {m : ReceiverMethod}
    (h : ReceiverMethod.read? s = some (m, rest)) : rest.length < s.length := by
  simp only [ReceiverMethod.read?, Option.bind_eq_bind, Option.bind_eq_some_iff, Prod.exists,
    Option.ite_none_left_eq_some, Option.some.injEq, Prod.mk.injEq] at h
  obtain ⟨s₁, h₁, s₂, h₂, s₃, h₃, v, s₄, h₄, s₅, h₅, r, s₆, h₆, s₇, h₇, s₈, h₈, n, s₉, h₉,
    p, s₁₀, h₁₀, b, s₁₁, h₁₁, -, -, rfl⟩ := h
  have := length_expect h₁
  have := length_blanks?_lt h₂
  have := length_expect h₃
  have := length_trimStart_le s₃
  have := length_name?_lt h₄
  have := length_blanks?_lt h₅
  have := length_receiverType?_lt h₆
  have := length_trimStart_le s₆
  have := length_expect h₇
  have := length_blanks?_lt h₈
  have := length_name?_lt h₉
  have := length_trimStart_le s₉
  have := length_parameters?_lt h₁₀
  have := length_trimStart_le s₁₀
  have := length_upTo?_lt h₁₁
  omega

def ReceiverMethod.pattern : Pattern ReceiverMethod where
  read? := ReceiverMethod.read?
  progress := ReceiverMethod.length_read?_lt

def receiverMethods (code : List Char) : List ReceiverMethod :=
  ReceiverMethod.pattern.findAll code

end TypeGraph.Source
