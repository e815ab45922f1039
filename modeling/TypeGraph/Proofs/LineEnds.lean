import TypeGraph.Diagram
import TypeGraph.Proofs.Comments
import TypeGraph.Proofs.EdgeModel
import TypeGraph.Proofs.Grammar
import TypeGraph.Proofs.Trimming

/-!
# Line ends

A line may end in a line feed or in a carriage return and a line feed; the graph is the same.  The
two texts are compared by a relation, `Returned`: one is the other with carriage returns put in
front of some of the line feeds.  Some and not all, for a line comment takes a carriage return at
its end along and leaves the line feed.  Every reader respects the relation: on related texts it
reads related pieces and leaves related rests, or fails on both.  What is captured on one line is
equal, and the lines of a body differ in empty ones only.
-/

namespace TypeGraph.Text

/-- The second text is the first with carriage returns put in front of some line feeds. -/
inductive Returned : List Char → List Char → Prop
  | nil : Returned [] []
  | keep (c : Char) {s t : List Char} (h : Returned s t) : Returned (c :: s) (c :: t)
  | insert {s t : List Char} (h : Returned s t) : Returned ('\n' :: s) ('\r' :: '\n' :: t)

/-- A text with a carriage return in front of every line feed. -/
def withReturns (s : List Char) : List Char :=
  s.flatMap fun c => if c = '\n' then ['\r', '\n'] else [c]

theorem returned_withReturns (s : List Char) : Returned s (withReturns s) := by
  induction s with
  | nil => exact .nil
  | cons c s ih =>
      rw [withReturns, List.flatMap_cons]
      by_cases hc : c = '\n'
      · rw [if_pos hc, hc]
        exact .insert ih
      · rw [if_neg hc]
        exact .keep c ih

namespace Returned

variable {s t : List Char}

theorem eq_nil_iff (h : Returned s t) : s = [] ↔ t = [] := by
  cases h <;> simp

theorem mem_newline_iff (h : Returned s t) : '\n' ∈ s ↔ '\n' ∈ t := by
  induction h with
  | nil => rfl
  | keep c _ ih => rw [List.mem_cons, List.mem_cons, ih]
  | insert _ _ => simp

/-- On one line there is nothing to put in. -/
theorem eq_of_not_mem (h : Returned s t) (hs : '\n' ∉ s) : s = t := by
  induction h with
  | nil => rfl
  | keep c _ ih => rw [ih fun hmem => hs (List.mem_cons_of_mem c hmem)]
  | insert _ _ => exact absurd List.mem_cons_self hs

theorem head?_eq_some_iff (h : Returned s t) {c : Char} (hr : c ≠ '\r') (hn : c ≠ '\n') :
    t.head? = some c ↔ s.head? = some c := by
  cases h with
  | nil => rfl
  | keep d _ => rfl
  | insert _ => simp [hr.symm, hn.symm]

theorem exists_cons {c : Char} (h : Returned (c :: s) t) (hc : c ≠ '\n') :
    ∃ t', t = c :: t' ∧ Returned s t' := by
  cases h with
  | keep _ h => exact ⟨_, rfl, h⟩
  | insert _ => exact absurd rfl hc

/-! ## Runs and trimming -/

theorem dropWhile {p : Char → Bool} (hp : p '\r' = p '\n') (h : Returned s t) :
    Returned (s.dropWhile p) (t.dropWhile p) := by
  induction h with
  | nil => exact .nil
  | @keep c s t h ih =>
      by_cases hc : p c = true
      · rw [List.dropWhile_cons_of_pos hc, List.dropWhile_cons_of_pos hc]
        exact ih
      · rw [List.dropWhile_cons_of_neg hc, List.dropWhile_cons_of_neg hc]
        exact .keep c h
  | @insert s t h ih =>
      by_cases hc : p '\n' = true
      · rw [List.dropWhile_cons_of_pos hc, List.dropWhile_cons_of_pos (hp.trans hc),
          List.dropWhile_cons_of_pos hc]
        exact ih
      · rw [List.dropWhile_cons_of_neg hc, List.dropWhile_cons_of_neg (by rwa [hp])]
        exact .insert h

theorem takeWhile {p : Char → Bool} (hp : p '\r' = p '\n') (h : Returned s t) :
    Returned (s.takeWhile p) (t.takeWhile p) := by
  induction h with
  | nil => exact .nil
  | @keep c s t h ih =>
      by_cases hc : p c = true
      · rw [List.takeWhile_cons_of_pos hc, List.takeWhile_cons_of_pos hc]
        exact .keep c ih
      · rw [List.takeWhile_cons_of_neg hc, List.takeWhile_cons_of_neg hc]
        exact .nil
  | @insert s t h ih =>
      by_cases hc : p '\n' = true
      · rw [List.takeWhile_cons_of_pos hc, List.takeWhile_cons_of_pos (hp.trans hc),
          List.takeWhile_cons_of_pos hc]
        exact .insert ih
      · rw [List.takeWhile_cons_of_neg hc, List.takeWhile_cons_of_neg (by rwa [hp])]
        exact .nil

theorem trimStart (h : Returned s t) : Returned (trimStart s) (trimStart t) :=
  h.dropWhile (by decide)

theorem trimEnd (h : Returned s t) : Returned (trimEnd s) (trimEnd t) := by
  induction h with
  | nil => exact .nil
  | @keep c s t h ih =>
      rw [trimEnd_cons, trimEnd_cons]
      by_cases hc : Text.trimEnd s = [] ∧ isBlank c = true
      · rw [if_pos hc, if_pos ⟨ih.eq_nil_iff.mp hc.1, hc.2⟩]
        exact .nil
      · rw [if_neg hc, if_neg fun hc' => hc ⟨ih.eq_nil_iff.mpr hc'.1, hc'.2⟩]
        exact .keep c ih
  | @insert s t h ih =>
      have hreturn : isBlank '\r' = true := by decide
      have hfeed : isBlank '\n' = true := by decide
      rw [trimEnd_cons, trimEnd_cons '\r', trimEnd_cons '\n' t]
      by_cases hs : Text.trimEnd s = []
      · simp [hs, ih.eq_nil_iff.mp hs, hreturn, hfeed, Returned.nil]
      · simp [hs, mt ih.eq_nil_iff.mpr hs, ih.insert]

theorem trim (h : Returned s t) : Returned (trim s) (trim t) := h.trimStart.trimEnd

end Returned

/-! ## The lines of a body -/

def fullLines (ls : List (List Char)) : List (List Char) := (ls.map trim).filter (· ≠ [])

theorem fullLines_nil_cons (ls : List (List Char)) : fullLines ([] :: ls) = fullLines ls :=
  List.filter_cons_of_neg (by decide)

/-- The lines of a body come from its first line and from the others. -/
theorem bodyLines_eq_append (s : List Char) :
    bodyLines s = fullLines (lines s).head?.toList ++ fullLines (lines s).tail := by
  show fullLines (lines s) = _
  cases lines s with
  | nil => rfl
  | cons l ls =>
      show ((l :: ls).map trim).filter _ = ([l].map trim).filter _ ++ (ls.map trim).filter _
      rw [← List.filter_append, ← List.map_append, List.singleton_append]

/-- Behind a line break the line is new, and the body goes on as if the break were not there. -/
theorem lines_cons_of_break {c : Char} (hc : isLineBreak c = true) (s : List Char) :
    (lines (c :: s)).head? = some [] ∧ fullLines (lines (c :: s)).tail = bodyLines s := by
  by_cases hpair : c = '\r' ∧ s.head? = some '\n'
  · obtain ⟨rfl, hs⟩ := hpair
    cases s with
    | nil => exact absurd hs (by simp)
    | cons d s =>
        obtain rfl : d = '\n' := by simpa using hs
        exact ⟨rfl, (fullLines_nil_cons (lines s)).symm⟩
  · have hlines : lines (c :: s) = [] :: lines s := by
      rw [lines, if_pos hc]
      rintro s' rfl rfl
      exact hpair ⟨rfl, rfl⟩
    rw [hlines]
    exact ⟨rfl, rfl⟩

theorem lines_cons_of_not_break {c : Char} (hc : isLineBreak c = false) (s : List Char) :
    (lines (c :: s)).head? = some (c :: (lines s).head?.getD []) ∧
      (lines (c :: s)).tail = (lines s).tail := by
  rw [lines_cons_eq_consLine hc]
  cases lines s with
  | nil => exact ⟨rfl, rfl⟩
  | cons l ls => exact ⟨rfl, rfl⟩

/-- Equal lines are shown of related bodies, line by line: the first lines agree, and of the others
those that hold more than blanks. -/
theorem Returned.lines {s t : List Char} (h : Returned s t) :
    (lines s).head? = (lines t).head? ∧ fullLines (lines s).tail = fullLines (lines t).tail := by
  induction h with
  | nil => exact ⟨rfl, rfl⟩
  | @keep c s t h ih =>
      by_cases hc : isLineBreak c = true
      · obtain ⟨hs, hs'⟩ := lines_cons_of_break hc s
        obtain ⟨ht, ht'⟩ := lines_cons_of_break hc t
        rw [hs, ht, hs', ht', bodyLines_eq_append, bodyLines_eq_append, ih.1, ih.2]
        exact ⟨rfl, rfl⟩
      · have hc : isLineBreak c = false := by simpa using hc
        obtain ⟨hs, hs'⟩ := lines_cons_of_not_break hc s
        obtain ⟨ht, ht'⟩ := lines_cons_of_not_break hc t
        rw [hs, ht, hs', ht', ih.1, ih.2]
        exact ⟨rfl, rfl⟩
  | @insert s t h ih =>
      obtain ⟨hs, hs'⟩ := lines_cons_of_break (c := '\n') (by decide) s
      rw [hs, hs', bodyLines_eq_append, ih.1, ih.2, ← bodyLines_eq_append]
      exact ⟨rfl, rfl⟩

theorem Returned.bodyLines {s t : List Char} (h : Returned s t) : bodyLines s = bodyLines t := by
  rw [bodyLines_eq_append, bodyLines_eq_append, h.lines.1, h.lines.2]

end TypeGraph.Text

namespace TypeGraph

open TypeGraph.Source TypeGraph.Text

/-! ## Comments -/

theorem Text.Returned.afterBlockComment {s t : List Char} (h : Returned s t) :
    Option.Rel Returned (afterBlockComment s) (afterBlockComment t) := by
  induction h with
  | nil => exact .none
  | @keep c s t h ih =>
      by_cases hend : c = '*' ∧ s.head? = some '/'
      · obtain ⟨rfl, hs⟩ := hend
        cases h with
        | nil => exact absurd hs (by simp)
        | @keep d s t h =>
            obtain rfl : d = '/' := by simpa using hs
            exact .some h
        | insert _ => exact absurd hs (by simp)
      · have hend' : ¬ (c = '*' ∧ t.head? = some '/') := by
          rwa [h.head?_eq_some_iff (by decide) (by decide)]
        rw [afterBlockComment_cons hend, afterBlockComment_cons hend']
        exact ih
  | insert _ ih => exact ih

/-- A line comment ends at the line feed, so a carriage return in front of it goes. -/
theorem Text.Returned.afterLine {s t : List Char} (h : Returned s t) :
    Returned (s.dropWhile (· ≠ '\n')) (t.dropWhile (· ≠ '\n')) := by
  induction h with
  | nil => exact .nil
  | @keep c s t h ih =>
      by_cases hc : c = '\n'
      · subst hc
        exact .keep '\n' h
      · rw [List.dropWhile_cons_of_pos (by simpa using hc),
          List.dropWhile_cons_of_pos (by simpa using hc)]
        exact ih
  | insert h _ => exact .keep '\n' h

theorem Text.Returned.stripComments {s t : List Char} (h : Returned s t) :
    Returned (Source.stripComments s) (Source.stripComments t) := by
  fun_induction Source.stripComments s generalizing t with
  | case1 =>
      cases h
      rw [Source.stripComments]
      exact .nil
  | case2 cs rest hrest ih =>
      obtain ⟨t₁, rfl, hstar⟩ := h.exists_cons (by decide)
      obtain ⟨t₂, rfl, hcs⟩ := hstar.exists_cons (by decide)
      have hrel := hcs.afterBlockComment
      rw [hrest] at hrel
      generalize hafter : Source.afterBlockComment t₂ = after at hrel
      cases hrel with
      | some hrel =>
          rw [Source.stripComments, hafter]
          exact ih hrel
  | case3 cs hrest ih =>
      obtain ⟨t₁, rfl, hstar⟩ := h.exists_cons (by decide)
      obtain ⟨t₂, rfl, hcs⟩ := hstar.exists_cons (by decide)
      have hrel := hcs.afterBlockComment
      rw [hrest] at hrel
      generalize hafter : Source.afterBlockComment t₂ = after at hrel
      cases hrel with
      | none =>
          rw [Source.stripComments, hafter]
          exact .keep '/' (ih hstar)
  | case4 cs ih =>
      obtain ⟨t₁, rfl, hslash⟩ := h.exists_cons (by decide)
      obtain ⟨t₂, rfl, hcs⟩ := hslash.exists_cons (by decide)
      rw [Source.stripComments]
      exact ih hcs.afterLine
  | case5 c cs hblock hline ih =>
      cases h with
      | keep _ h =>
          rw [stripComments_cons]
          · exact .keep c (ih h)
          · intro hc
            rw [Ne, Ne, h.head?_eq_some_iff (by decide) (by decide),
              h.head?_eq_some_iff (by decide) (by decide)]
            constructor
            · intro hhead
              obtain ⟨cs', rfl⟩ := List.head?_eq_some_iff.mp hhead
              exact hblock cs' hc rfl
            · intro hhead
              obtain ⟨cs', rfl⟩ := List.head?_eq_some_iff.mp hhead
              exact hline cs' hc rfl
      | insert h =>
          rw [stripComments_cons, stripComments_cons]
          · exact .insert (ih h)
          · simp
          · simp

/-! ## Readers -/

/-- Two readings that both fail, or read pieces related by `R` and leave related rests. -/
def ReadAlike {α : Type} (R : α → α → Prop) :
    Option (α × List Char) → Option (α × List Char) → Prop :=
  Option.Rel fun p q => R p.1 q.1 ∧ Returned p.2 q.2

theorem ReadAlike.imp {α : Type} {R S : α → α → Prop} (hRS : ∀ a b, R a b → S a b)
    {x y : Option (α × List Char)} (h : ReadAlike R x y) : ReadAlike S x y := by
  cases h with
  | none => exact .none
  | some h => exact .some ⟨hRS _ _ h.1, h.2⟩

theorem rel_bind {α β γ δ : Type} {R : α → β → Prop} {S : γ → δ → Prop} {x : Option α}
    {y : Option β} {f : α → Option γ} {g : β → Option δ} (h : Option.Rel R x y)
    (hfg : ∀ a b, R a b → Option.Rel S (f a) (g b)) : Option.Rel S (x.bind f) (y.bind g) := by
  cases h with
  | none => exact .none
  | some h => exact hfg _ _ h

theorem rel_map {α β γ δ : Type} {R : α → β → Prop} {S : γ → δ → Prop} {x : Option α}
    {y : Option β} {f : α → γ} {g : β → δ} (h : Option.Rel R x y)
    (hfg : ∀ a b, R a b → S (f a) (g b)) : Option.Rel S (x.map f) (y.map g) := by
  cases h with
  | none => exact .none
  | some h => exact .some (hfg _ _ h)

theorem Source.receiverType?_of_head {s : List Char} (h : s.head? ≠ some '*') :
    receiverType? s = name? s := by
  unfold receiverType?
  split
  · exact absurd rfl h
  · rfl

section Readers

variable {s t : List Char} (h : Returned s t)

include h

theorem Text.Returned.expect {w : List Char} (hw : ∀ c ∈ w, c ≠ '\r' ∧ c ≠ '\n') :
    Option.Rel Returned (expect w s) (expect w t) := by
  induction w generalizing s t with
  | nil => exact .some h
  | cons c w ih =>
      obtain ⟨hr, hn⟩ := hw c List.mem_cons_self
      cases h with
      | nil => exact .none
      | @keep d s t h =>
          rw [Source.expect, Source.expect]
          by_cases hc : c = d
          · rw [if_pos hc, if_pos hc]
            exact ih h fun x hx => hw x (List.mem_cons_of_mem c hx)
          · rw [if_neg hc, if_neg hc]
            exact .none
      | insert _ =>
          rw [Source.expect, Source.expect, if_neg hn, if_neg hr]
          exact .none

theorem Text.Returned.blanks? : Option.Rel Returned (blanks? s) (blanks? t) := by
  cases h with
  | nil => exact .none
  | @keep c s t h =>
      rw [Source.blanks?, Source.blanks?]
      by_cases hc : isBlank c = true
      · rw [if_pos hc, if_pos hc]
        exact .some h.trimStart
      · rw [if_neg hc, if_neg hc]
        exact .none
  | insert h => exact .some h.trimStart

theorem Text.Returned.name? : ReadAlike (· = ·) (name? s) (name? t) := by
  have hrest := h.dropWhile (p := isWord) (by decide)
  have hname : s.takeWhile isWord = t.takeWhile isWord := by
    refine (h.takeWhile (by decide)).eq_of_not_mem fun hmem => ?_
    exact absurd (List.mem_takeWhile_imp hmem) (by decide)
  unfold Source.name?
  rw [← hname]
  cases s.takeWhile isWord with
  | nil => exact .none
  | cons c name => exact .some ⟨rfl, hrest⟩

theorem Text.Returned.upTo? {stop : Char} (hr : stop ≠ '\r') (hn : stop ≠ '\n') :
    ReadAlike Returned (upTo? stop s) (upTo? stop t) := by
  have hclass : decide ('\r' ≠ stop) = decide ('\n' ≠ stop) := by
    simp [hr.symm, hn.symm]
  have hrun := h.takeWhile (p := fun c => decide (c ≠ stop)) hclass
  have hrest := h.dropWhile (p := fun c => decide (c ≠ stop)) hclass
  have hstop := avoids_dropWhile (fun c => decide (c ≠ stop)) s
  unfold Source.upTo?
  generalize s.dropWhile (fun c => decide (c ≠ stop)) = s' at hrest hstop
  generalize t.dropWhile (fun c => decide (c ≠ stop)) = t' at hrest
  cases hrest with
  | nil => exact .none
  | keep c hrest => exact .some ⟨hrun, hrest⟩
  | insert _ => exact absurd (avoids_cons.mp hstop) (by simp [hn.symm])

theorem Text.Returned.parameterText (nested : Bool) :
    ReadAlike (· = ·) (parameterText nested s) (parameterText nested t) := by
  induction h generalizing nested with
  | nil => exact .none
  | @keep c s t h ih =>
      rw [Source.parameterText, Source.parameterText]
      by_cases hc : c = ')' ∧ nested = false
      · rw [if_pos hc, if_pos hc]
        exact .some ⟨rfl, h⟩
      · rw [if_neg hc, if_neg hc]
        cases nestedAfter nested c with
        | none => exact .none
        | some nested' =>
            exact rel_map (ih nested') fun p q hpq => ⟨congrArg (c :: ·) hpq.1, hpq.2⟩
  | insert h ih =>
      cases nested <;> exact .none

theorem Text.Returned.parameters? : ReadAlike (· = ·) (parameters? s) (parameters? t) := by
  refine rel_bind (h.expect (forall_mem_of_all (by decide))) fun s t h => ?_
  exact h.parameterText false

theorem Text.Returned.keyword? :
    ReadAlike (· = ·) (Keyword.read? s) (Keyword.read? t) := by
  have hstruct := h.expect (w := ['s', 't', 'r', 'u', 'c', 't']) (forall_mem_of_all (by decide))
  have hinterface := h.expect (w := ['i', 'n', 't', 'e', 'r', 'f', 'a', 'c', 'e'])
    (forall_mem_of_all (by decide))
  unfold Keyword.read?
  generalize Source.expect ['s', 't', 'r', 'u', 'c', 't'] s = x at hstruct
  generalize Source.expect ['s', 't', 'r', 'u', 'c', 't'] t = y at hstruct
  generalize Source.expect ['i', 'n', 't', 'e', 'r', 'f', 'a', 'c', 'e'] s = x' at hinterface
  generalize Source.expect ['i', 'n', 't', 'e', 'r', 'f', 'a', 'c', 'e'] t = y' at hinterface
  cases hstruct with
  | some h => exact .some ⟨rfl, h⟩
  | none =>
      cases hinterface with
      | some h => exact .some ⟨rfl, h⟩
      | none => exact .none

theorem Text.Returned.receiverType? :
    ReadAlike (· = ·) (receiverType? s) (receiverType? t) := by
  by_cases hstar : s.head? = some '*'
  · obtain ⟨s, rfl⟩ := List.head?_eq_some_iff.mp hstar
    obtain ⟨t, rfl, hrest⟩ := h.exists_cons (by decide)
    exact rel_map hrest.name? fun p q hpq => ⟨congrArg ('*' :: ·) hpq.1, hpq.2⟩
  · have hstar' : t.head? ≠ some '*' := by
      rwa [Ne, h.head?_eq_some_iff (by decide) (by decide)]
    rw [receiverType?_of_head hstar, receiverType?_of_head hstar']
    exact h.name?

/-- **Declarations in related texts** stand at the same places and have the same contents. -/
theorem Text.Returned.declaration? :
    ReadAlike (fun d d' => d.contents = d'.contents) (Declaration.read? s)
      (Declaration.read? t) := by
  unfold Declaration.read?
  refine rel_bind (h.expect (forall_mem_of_all (by decide))) fun s t h => ?_
  refine rel_bind h.blanks? fun s t h => ?_
  refine rel_bind h.name? ?_
  rintro ⟨name, s⟩ ⟨_, t⟩ ⟨rfl, h⟩
  refine rel_bind h.blanks? fun s t h => ?_
  refine rel_bind h.keyword? ?_
  rintro ⟨keyword, s⟩ ⟨_, t⟩ ⟨rfl, h⟩
  refine rel_bind (h.trimStart.expect (forall_mem_of_all (by decide))) fun s t h => ?_
  refine rel_bind (h.upTo? (by decide) (by decide)) ?_
  rintro ⟨body, s⟩ ⟨body', t⟩ ⟨hbody, h⟩
  refine .some ⟨?_, h⟩
  simp only [Declaration.contents, Declaration.kind, otherLines, hbody.bodyLines]

theorem Text.Returned.receiverMethod? :
    ReadAlike (· = ·) (ReceiverMethod.read? s) (ReceiverMethod.read? t) := by
  unfold ReceiverMethod.read?
  refine rel_bind (h.expect (forall_mem_of_all (by decide))) fun s t h => ?_
  refine rel_bind h.blanks? fun s t h => ?_
  refine rel_bind (h.expect (forall_mem_of_all (by decide))) fun s t h => ?_
  refine rel_bind h.trimStart.name? ?_
  rintro ⟨v, s⟩ ⟨_, t⟩ ⟨rfl, h⟩
  refine rel_bind h.blanks? fun s t h => ?_
  refine rel_bind h.receiverType? ?_
  rintro ⟨receiver, s⟩ ⟨_, t⟩ ⟨rfl, h⟩
  refine rel_bind (h.trimStart.expect (forall_mem_of_all (by decide))) fun s t h => ?_
  refine rel_bind h.blanks? fun s t h => ?_
  refine rel_bind h.name? ?_
  rintro ⟨name, s⟩ ⟨_, t⟩ ⟨rfl, h⟩
  refine rel_bind h.trimStart.parameters? ?_
  rintro ⟨params, s⟩ ⟨_, t⟩ ⟨rfl, h⟩
  refine rel_bind (h.trimStart.upTo? (by decide) (by decide)) ?_
  rintro ⟨before, s⟩ ⟨before', t⟩ ⟨hbefore, h⟩
  have hmethod : '\n' ∉ Text.trimEnd before →
      methodOf name params before = methodOf name params before' := by
    intro hline
    rw [methodOf, hbefore.trim.eq_of_not_mem (mt mem_trimEnd_of_mem_trim hline), methodOf]
  by_cases hline : '\n' ∈ Text.trimEnd before
  · simp only [if_pos hline, if_pos (hbefore.trimEnd.mem_newline_iff.mp hline)]
    exact .none
  · simp only [if_neg hline, if_neg (mt hbefore.trimEnd.mem_newline_iff.mpr hline)]
    exact .some ⟨by rw [hmethod hline], h⟩

end Readers

/-! ## Searches and graphs -/

/-- A search whose pattern reads related texts alike finds alike items in them. -/
theorem Source.Pattern.findAll_alike {α β : Type} {p : Pattern α} {f : α → β}
    (hp : ∀ s t, Returned s t → ReadAlike (fun a b => f a = f b) (p.read? s) (p.read? t))
    {s t : List Char} (h : Returned s t) : (p.findAll s).map f = (p.findAll t).map f := by
  fun_induction Pattern.findAll p s generalizing t with
  | case1 =>
      cases h
      rw [Pattern.findAll]
  | case2 c s a rest hread ih =>
      have hrel := hp _ _ h
      rw [hread] at hrel
      generalize ht : p.read? t = y at hrel
      cases hrel with
      | @some _ b hrel =>
          rw [Pattern.findAll_of_read ht, List.map_cons, List.map_cons, hrel.1, ih hrel.2]
  | case3 c s hread ih =>
      have hnone : ∀ t, Returned (c :: s) t → p.read? t = none := by
        intro t h
        have hrel := hp _ _ h
        rw [hread] at hrel
        generalize p.read? t = y at hrel
        cases hrel
        rfl
      cases h with
      | keep _ h => rw [Pattern.findAll_cons_of_none (hnone _ (.keep c h)), ih h]
      | insert h =>
          rw [Pattern.findAll_cons_of_none (hnone _ (.insert h)),
            Pattern.findAll_cons_of_none (hnone _ (.keep _ h)), ih h]

theorem Inventory.ofSource_of_returned {source source' : String}
    (h : Returned source.toList source'.toList) :
    Inventory.ofSource source = Inventory.ofSource source' := by
  have hcode := h.stripComments
  rw [Inventory.ofSource, Inventory.ofSource]
  congr 1
  · exact Pattern.findAll_alike (p := Declaration.pattern) (fun s t h => h.declaration?) hcode
  · exact Pattern.findAll_alike (p := ReceiverMethod.pattern)
      (fun s t h => h.receiverMethod?.imp fun m m' heq => congrArg _ heq) hcode

/-- **The graph does not depend on how lines end**: with a carriage return in front of every line
feed, a source text has the same graph and so the same diagram. -/
theorem Graph.ofSource_withReturns (source : String) :
    let returned := String.ofList (withReturns source.toList)
    Graph.ofSource returned = Graph.ofSource source ∧
      Diagram.render (Graph.ofSource returned) = Diagram.render (Graph.ofSource source) := by
  intro returned
  have h : Returned source.toList returned.toList := by
    rw [String.toList_ofList]
    exact returned_withReturns source.toList
  have hgraph : Graph.ofSource returned = Graph.ofSource source := by
    rw [Graph.ofSource_eq_graph, Graph.ofSource_eq_graph, Inventory.ofSource_of_returned h]
  exact ⟨hgraph, congrArg Diagram.render hgraph⟩

end TypeGraph
