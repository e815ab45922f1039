import TypeGraph.Text.Blank
import TypeGraph.Text.Word

/-!
# Lexical pieces of a source text

The readers below take a text and give what they read together with the rest behind it, or nothing
when the text does not start that way.  A run (of blanks, of word characters, up to a delimiter) is
always the longest one: the pieces that follow a run never start with a character of its class, so
no shorter run could lead further.
-/

namespace TypeGraph.Source

open TypeGraph.Text

def expect : List Char → List Char → Option (List Char)
  | [], s => some s
  | _ :: _, [] => none
  | w :: ws, c :: s => if w = c then expect ws s else none

/-- The rest behind a run of at least one blank. -/
def blanks? : List Char → Option (List Char)
  | [] => none
  | c :: s => if isBlank c then some (trimStart s) else none

def name? (s : List Char) : Option (List Char × List Char) :=
  match s.takeWhile isWord with
  | [] => none
  | run => some (run, s.dropWhile isWord)

/-- The text in front of the nearest `stop`, which itself is dropped. -/
def upTo? (stop : Char) (s : List Char) : Option (List Char × List Char) :=
  match s.dropWhile (· ≠ stop) with
  | [] => none
  | _ :: rest => some (s.takeWhile (· ≠ stop), rest)

/-- The text without one leading pointer star. -/
def dropStar : List Char → List Char
  | '*' :: s => s
  | s => s

/-- Whether an inner parenthesis is open behind `c`, given whether one is open in front of it.  A
second level, a closing parenthesis without an opening one, and a line feed are refused. -/
def nestedAfter (nested : Bool) (c : Char) : Option Bool :=
  if c = '\n' then none
  else if c = '(' then if nested then none else some true
  else if c = ')' then if nested then some false else none
  else some nested

/-- The text of a parameter list up to its closing parenthesis, read from behind the opening one.
`nested` says whether an inner parenthesis is open. -/
def parameterText : Bool → List Char → Option (List Char × List Char)
  | _, [] => none
  | nested, c :: s =>
    if c = ')' ∧ nested = false then some ([], s)
    else
      match nestedAfter nested c with
      | none => none
      | some nested' => (parameterText nested' s).map fun (p, rest) => (c :: p, rest)

/-- A parenthesised parameter list, with at most one level of parentheses inside. -/
def parameters? (s : List Char) : Option (List Char × List Char) := do
  let s ← expect ['('] s
  parameterText false s

/-! ## Every reader leaves a shorter text -/

theorem length_dropWhile_le (p : Char → Bool) (s : List Char) :
    (s.dropWhile p).length ≤ s.length :=
  (List.dropWhile_suffix p).length_le

theorem length_trimStart_le (s : List Char) : (trimStart s).length ≤ s.length :=
  length_dropWhile_le isBlank s

theorem length_expect {w s rest : List Char} (h : expect w s = some rest) :
    rest.length + w.length = s.length := by
  fun_induction expect w s with
  | case1 s => simp_all
  | case2 => simp at h
  | case3 w ws s ih => have := ih h; simp; omega
  | case4 => simp at h

theorem length_blanks?_lt {s rest : List Char} (h : blanks? s = some rest) :
    rest.length < s.length := by
  cases s with
  | nil => simp [blanks?] at h
  | cons c s =>
    simp only [blanks?, Option.ite_none_right_eq_some, Option.some.injEq] at h
    have := length_trimStart_le s
    simp [← h.2]
    omega

theorem length_name?_lt {s run rest : List Char} (h : name? s = some (run, rest)) :
    rest.length < s.length := by
  unfold name? at h
  split at h
  · simp at h
  · rename_i hne
    simp only [Option.some.injEq, Prod.mk.injEq] at h
    have hlen := congrArg List.length (List.takeWhile_append_dropWhile (p := isWord) (l := s))
    have hpos : 0 < (s.takeWhile isWord).length := List.length_pos_iff.mpr hne
    rw [← h.2]
    simp only [List.length_append] at hlen
    omega

theorem length_upTo?_lt {stop : Char} {s run rest : List Char}
    (h : upTo? stop s = some (run, rest)) : rest.length < s.length := by
  unfold upTo? at h
  split at h
  · simp at h
  · rename_i hd
    simp only [Option.some.injEq, Prod.mk.injEq] at h
    have := length_dropWhile_le (fun c => decide (c ≠ stop)) s
    rw [hd] at this
    simp [← h.2] at this ⊢
    omega

theorem length_parameterText_lt {nested : Bool} {s p rest : List Char}
    (h : parameterText nested s = some (p, rest)) : rest.length < s.length := by
  induction s generalizing nested p rest with
  | nil => simp [parameterText] at h
  | cons c s ih =>
    simp only [parameterText] at h
    split at h
    · simp only [Option.some.injEq, Prod.mk.injEq] at h
      simp [← h.2]
    · split at h
      · simp at h
      · obtain ⟨⟨q, r⟩, hq, he⟩ := Option.map_eq_some_iff.mp h
        simp only [Prod.mk.injEq] at he
        have := ih hq
        simp [← he.2]
        omega

theorem length_parameters?_lt {s p rest : List Char} (h : parameters? s = some (p, rest)) :
    rest.length < s.length := by
  simp only [parameters?, Option.bind_eq_bind, Option.bind_eq_some_iff] at h
  obtain ⟨t, ht, h⟩ := h
  have := length_expect ht
  have := length_parameterText_lt h
  omega

def stripPointer (type : String) : String := String.ofList (dropStar type.toList)

end TypeGraph.Source
