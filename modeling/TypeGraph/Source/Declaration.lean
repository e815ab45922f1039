import TypeGraph.Graph.Basic
import TypeGraph.Source.Lexeme
import TypeGraph.Source.Pattern

/-!
# Type declarations

A declaration is `type`, a name, one of the words `struct` and `interface`, and a body in braces.
The body ends at the first closing brace, so braces do not nest.  Declarations are searched for at
every position, without regard to word boundaries, and never overlap.
-/

namespace TypeGraph.Source

open TypeGraph.Text

inductive Keyword where
  | struct
  | interface
deriving DecidableEq, Repr

def Keyword.kind : Keyword → Kind
  | .struct => .aggregate
  | .interface => .contract

structure Declaration where
  name : String
  keyword : Keyword
  body : List Char
deriving DecidableEq, Repr

def Declaration.kind (d : Declaration) : Kind := d.keyword.kind

def Keyword.read? (s : List Char) : Option (Keyword × List Char) :=
  match expect ['s', 't', 'r', 'u', 'c', 't'] s with
  | some rest => some (.struct, rest)
  | none =>
    match expect ['i', 'n', 't', 'e', 'r', 'f', 'a', 'c', 'e'] s with
    | some rest => some (.interface, rest)
    | none => none

def Declaration.read? (s : List Char) : Option (Declaration × List Char) := do
  let s ← expect ['t', 'y', 'p', 'e'] s
  let s ← blanks? s
  let (name, s) ← name? s
  let s ← blanks? s
  let (keyword, s) ← Keyword.read? s
  let s ← expect ['{'] (trimStart s)
  let (body, s) ← upTo? '}' s
  return (⟨String.ofList name, keyword, body⟩, s)

theorem Keyword.length_read?_le {s rest : List Char} {k : Keyword}
    (h : Keyword.read? s = some (k, rest)) : rest.length ≤ s.length := by
  unfold Keyword.read? at h
  split at h
  · rename_i hs
    simp only [Option.some.injEq, Prod.mk.injEq] at h
    have := length_expect hs
    rw [← h.2]; omega
  · split at h
    · rename_i hs
      simp only [Option.some.injEq, Prod.mk.injEq] at h
      have := length_expect hs
      rw [← h.2]; omega
    · simp at h

theorem Declaration.length_read?_lt {s rest : List Char} {d : Declaration}
    (h : Declaration.read? s = some (d, rest)) : rest.length < s.length := by
  simp only [Declaration.read?, Option.bind_eq_bind, Option.bind_eq_some_iff, Prod.exists,
    Option.pure_def, Option.some.injEq, Prod.mk.injEq] at h
  obtain ⟨s₁, h₁, s₂, h₂, name, s₃, h₃, s₄, h₄, k, s₅, h₅, s₆, h₆, body, s₇, h₇, -, rfl⟩ := h
  have := length_expect h₁
  have := length_blanks?_lt h₂
  have := length_name?_lt h₃
  have := length_blanks?_lt h₄
  have := Keyword.length_read?_le h₅
  have := length_expect h₆
  have := length_trimStart_le s₅
  have := length_upTo?_lt h₇
  simp at *
  omega

def Declaration.pattern : Pattern Declaration where
  read? := Declaration.read?
  progress := Declaration.length_read?_lt

def declarations (code : List Char) : List Declaration := Declaration.pattern.findAll code

end TypeGraph.Source
