import Mathlib.Data.List.TakeWhile
import TypeGraph.Console.Markup
import TypeGraph.Proofs.NoMatch

/-!
# The parts of a marked-up text

Every text is a sequence of parts, each of which is text, backslashes and a tag, and a last text
behind them, where no text holds a tag and no text in front of a tag ends in a backslash.  The
pieces of a marked-up text are read off its parts, and escaping it changes nothing but the number of
the backslashes.
-/

namespace TypeGraph.Console

open TypeGraph.Source (mem_of_cut)

/-! ## Tags -/

def isTagged (c : Char) : Bool := c ≠ ']' && c ≠ '['

structure TagText (content : List Char) : Prop where
  starts : content.head?.any startsTag = true
  tagged : ∀ c ∈ content, isTagged c = true

theorem tagContent?_eq_some_iff {s content rest : List Char} :
    tagContent? s = some (content, rest) ↔ s = content ++ ']' :: rest ∧ TagText content := by
  constructor
  · intro h
    have hsplit : s.takeWhile isTagged ++ s.dropWhile isTagged = s :=
      List.takeWhile_append_dropWhile
    have htagged : ∀ c ∈ s.takeWhile isTagged, isTagged c = true :=
      fun c hc => List.mem_takeWhile_imp hc
    rw [tagContent?.eq_def] at h
    split at h
    · cases h
    · rename_i c cs
      dsimp only at h
      split at h
      · rename_i rest' hrest
        change (c :: cs).dropWhile isTagged = ']' :: rest' at hrest
        split at h
        · rename_i hstarts
          cases h
          refine ⟨(hrest ▸ hsplit).symm, ?_, htagged⟩
          have hc : isTagged c = true := by
            cases hc : isTagged c with
            | true => rfl
            | false =>
                rw [List.dropWhile_cons_of_neg (by simp [hc])] at hrest
                cases hrest
                exact absurd hstarts (by decide)
          show ((c :: cs).takeWhile isTagged).head?.any startsTag = true
          rw [List.takeWhile_cons_of_pos hc]
          exact hstarts
        · cases h
      · cases h
  · rintro ⟨rfl, hstarts, htagged⟩
    cases content with
    | nil => cases hstarts
    | cons c cs =>
        have htake : (c :: cs ++ ']' :: rest).takeWhile isTagged = c :: cs := by
          rw [List.takeWhile_append_of_pos htagged, List.takeWhile_cons_of_neg (by decide),
            List.append_nil]
        have hdrop : (c :: cs ++ ']' :: rest).dropWhile isTagged = ']' :: rest := by
          rw [List.dropWhile_append_of_pos htagged, List.dropWhile_cons_of_neg (by decide)]
        have hstarts : startsTag c = true := hstarts
        unfold isTagged at htake hdrop
        rw [List.cons_append] at htake hdrop ⊢
        simp only [tagContent?, htake, hdrop, hstarts, if_true]

theorem TagText.no_open {content : List Char} (h : TagText content) : '[' ∉ content :=
  fun hmem => absurd (h.tagged _ hmem) (by decide)

theorem escapedTag?_eq_some_iff {s content rest : List Char} {n : Nat} :
    escapedTag? s = some (n, content, rest) ↔
      s = List.replicate n '\\' ++ '[' :: (content ++ ']' :: rest) ∧ TagText content := by
  constructor
  · intro h
    have hslashes : s.takeWhile (· = '\\') =
        List.replicate (s.takeWhile (· = '\\')).length '\\' :=
      List.eq_replicate_of_mem fun c hc => by simpa using List.mem_takeWhile_imp hc
    have hsplit : s.takeWhile (· = '\\') ++ s.drop (s.takeWhile (· = '\\')).length = s :=
      List.prefix_iff_eq_append.mp (List.takeWhile_prefix _)
    rw [escapedTag?] at h
    dsimp only at h
    split at h
    · rename_i rest' hrest
      obtain ⟨⟨content', rest''⟩, htag, heq⟩ := Option.map_eq_some_iff.mp h
      cases heq
      obtain ⟨rfl, htext⟩ := tagContent?_eq_some_iff.mp htag
      exact ⟨by rw [← hslashes, ← hrest, hsplit], htext⟩
    · cases h
  · rintro ⟨rfl, htext⟩
    have htake : (List.replicate n '\\' ++ '[' :: (content ++ ']' :: rest)).takeWhile (· = '\\') =
        List.replicate n '\\' := by
      rw [List.takeWhile_append_of_pos (by simp), List.takeWhile_cons_of_neg (by decide),
        List.append_nil]
    have htag : tagContent? (content ++ ']' :: rest) = some (content, rest) :=
      tagContent?_eq_some_iff.mpr ⟨rfl, htext⟩
    simp only [escapedTag?, htake, List.length_replicate, List.drop_left', htag, Option.map_some]

/-! ## Parts -/

/-- A text in which no bracket opens a tag. -/
def Untagged (s : List Char) : Prop :=
  ∀ before rest, s = before ++ '[' :: rest → tagContent? rest = none

/-- A tag with the backslashes and the text in front of it. -/
structure Part where
  text : List Char
  slashes : Nat
  content : List Char
  untagged : Untagged text
  unslashed : text.getLast? ≠ some '\\'
  tagText : TagText content

/-- The tag of a part as it is written, with the backslashes in front. -/
def Part.tag (p : Part) : List Char :=
  List.replicate p.slashes '\\' ++ '[' :: (p.content ++ [']'])

def Part.written (p : Part) : List Char := p.text ++ p.tag

def written (parts : List Part) (last : List Char) : List Char :=
  parts.flatMap Part.written ++ last

@[simp] theorem written_nil (last : List Char) : written [] last = last := rfl

theorem written_cons (p : Part) (parts : List Part) (last : List Char) :
    written (p :: parts) last = p.text ++ (p.tag ++ written parts last) := by
  simp [written, Part.written]

theorem Untagged.of_append {s t : List Char} (h : Untagged (s ++ t)) : Untagged t := by
  rintro before rest rfl
  exact h (s ++ before) rest (by simp)

/-- What cannot end a tag that is open: a text that meets an opening bracket, or none, before a
closing one. -/
def Unclosing (s : List Char) : Prop :=
  ∀ content rest, (∀ c ∈ content, isTagged c = true) → s ≠ content ++ ']' :: rest

theorem unclosing_nil : Unclosing [] := by
  intro content rest _ h
  simp at h

theorem unclosing_tag (p : Part) (rest : List Char) : Unclosing (p.tag ++ rest) := by
  intro content rest' htagged h
  have hcut : content ++ ']' :: rest' =
      List.replicate p.slashes '\\' ++ '[' :: (p.content ++ ([']'] ++ rest)) := by
    rw [← h, Part.tag]
    simp
  have hopen : '[' ∈ content := mem_of_cut hcut (by simp) (by decide)
  exact absurd (htagged _ hopen) (by decide)

/-- An untagged text in front of what cannot end a tag has no tag at any of its brackets. -/
theorem Untagged.tagContent?_eq_none {u before rest tail : List Char} (h : Untagged u)
    (hu : u = before ++ '[' :: rest) (htail : Unclosing tail) :
    tagContent? (rest ++ tail) = none := by
  rw [Option.eq_none_iff_forall_ne_some]
  rintro ⟨content, after⟩ htag
  obtain ⟨hcut, htext⟩ := tagContent?_eq_some_iff.mp htag
  rcases List.append_eq_append_iff.mp hcut with ⟨inner, rfl, hafter⟩ | ⟨inner, rfl, hafter⟩
  · exact htail inner after (fun c hc => htext.tagged c (List.mem_append_right rest hc)) hafter
  · cases inner with
    | nil => exact htail [] after (by simp) hafter.symm
    | cons c inner =>
        cases hafter
        have hsome : tagContent? (content ++ ']' :: inner) = some (content, inner) :=
          tagContent?_eq_some_iff.mpr ⟨rfl, htext⟩
        rw [h before _ hu] at hsome
        cases hsome

/-- A text that is passed over in front of another one: no tag starts within it, neither by itself
nor with the help of what is behind it. -/
structure Leads (u tail : List Char) : Prop where
  untagged : Untagged u
  unslashed : u.getLast? ≠ some '\\' ∨ tail = []
  unclosing : Unclosing tail

theorem Part.leads (p : Part) (rest : List Char) : Leads p.text (p.tag ++ rest) :=
  ⟨p.untagged, Or.inl p.unslashed, unclosing_tag p rest⟩

theorem Untagged.leads {s : List Char} (h : Untagged s) : Leads s [] :=
  ⟨h, Or.inr rfl, unclosing_nil⟩

theorem Leads.of_cons {c : Char} {u tail : List Char} (h : Leads (c :: u) tail) :
    Leads u tail where
  untagged := Untagged.of_append (s := [c]) h.untagged
  unslashed := h.unslashed.imp_left fun hlast hu => hlast (by rw [List.getLast?_cons, hu]; rfl)
  unclosing := h.unclosing

theorem Leads.escapedTag?_eq_none {c : Char} {u tail : List Char} (h : Leads (c :: u) tail) :
    escapedTag? (c :: (u ++ tail)) = none := by
  rw [Option.eq_none_iff_forall_ne_some]
  rintro ⟨n, content, rest⟩ htag
  obtain ⟨hcut, htext⟩ := escapedTag?_eq_some_iff.mp htag
  have hinside : ∀ inner, List.replicate n '\\' = c :: u ++ inner →
      tail = inner ++ '[' :: (content ++ ']' :: rest) → False := by
    intro inner hreplicate htail
    rcases h.unslashed with hslash | rfl
    · have hlast : (c :: u).getLast (List.cons_ne_nil c u) = '\\' := by
        refine List.eq_of_mem_replicate (n := n) ?_
        rw [hreplicate]
        exact List.mem_append_left inner (List.getLast_mem _)
      exact hslash (by rw [List.getLast?_eq_some_getLast (List.cons_ne_nil c u), hlast])
    · simp at htail
  rw [← List.cons_append] at hcut
  rcases List.append_eq_append_iff.mp hcut with ⟨inner, hreplicate, hrest⟩ | ⟨inner, hu, hrest⟩
  · exact hinside inner hreplicate hrest
  · cases inner with
    | nil => exact hinside [] (by rw [hu]; simp) hrest.symm
    | cons d inner =>
        rw [List.cons_append] at hrest
        obtain ⟨rfl, hinner⟩ := List.cons.inj hrest
        have hnone := h.untagged.tagContent?_eq_none hu h.unclosing
        rw [← hinner, tagContent?_eq_some_iff.mpr ⟨rfl, htext⟩] at hnone
        cases hnone

theorem escapedTag?_tag (p : Part) (rest : List Char) :
    escapedTag? (p.tag ++ rest) = some (p.slashes, p.content, rest) :=
  escapedTag?_eq_some_iff.mpr ⟨by simp [Part.tag], p.tagText⟩

/-! ## Pieces -/

/-- The piece of a text, unless it is empty. -/
def textPieces (s : List Char) : List Piece := if s = [] then [] else [.text s]

def Part.pieces (p : Part) : List Piece := textPieces p.text ++ tagPieces p.slashes p.content

theorem pieces_of_none {c : Char} {cs : List Char} (h : escapedTag? (c :: cs) = none)
    (done : List Char) : pieces done (c :: cs) = pieces (c :: done) cs := by
  rw [pieces]
  split
  · rename_i n content rest htag
    rw [h] at htag
    cases htag
  · rfl

theorem pieces_of_some {s content rest : List Char} {n : Nat}
    (h : escapedTag? s = some (n, content, rest)) (done : List Char) :
    pieces done s = textPieces done.reverse ++ tagPieces n content ++ pieces [] rest := by
  cases s with
  | nil => cases h
  | cons c cs =>
      rw [pieces]
      split
      · rename_i htag
        rw [h] at htag
        cases htag
        simp [textPieces]
      · rename_i hnone
        rw [h] at hnone
        cases hnone

theorem Leads.pieces_append {u tail : List Char} (h : Leads u tail) (done : List Char) :
    pieces done (u ++ tail) = pieces (u.reverse ++ done) tail := by
  induction u generalizing done with
  | nil => rfl
  | cons c u ih =>
      rw [List.cons_append, pieces_of_none h.escapedTag?_eq_none, ih h.of_cons]
      simp

/-- The pieces of a text are those of its parts. -/
theorem pieces_written (parts : List Part) {last : List Char} (h : Untagged last) :
    pieces [] (written parts last) = parts.flatMap Part.pieces ++ textPieces last := by
  induction parts with
  | nil =>
      have hpieces := h.leads.pieces_append []
      rw [List.append_nil, List.append_nil] at hpieces
      rw [written_nil, hpieces, pieces]
      simp [textPieces]
  | cons p parts ih =>
      rw [written_cons, (p.leads _).pieces_append, pieces_of_some (escapedTag?_tag p _), ih,
        List.flatMap_cons, Part.pieces]
      simp

/-! ## Escaping -/

def Part.escaped (p : Part) : Part := { p with slashes := 2 * p.slashes + 1 }

theorem escapeTags_of_none {c : Char} {cs : List Char} (h : escapedTag? (c :: cs) = none) :
    escapeTags (c :: cs) = c :: escapeTags cs := by
  rw [escapeTags]
  split
  · rename_i n content rest htag
    rw [h] at htag
    cases htag
  · rfl

theorem escapeTags_of_some {s content rest : List Char} {n : Nat}
    (h : escapedTag? s = some (n, content, rest)) :
    escapeTags s =
      List.replicate (2 * n + 1) '\\' ++ '[' :: content ++ ']' :: escapeTags rest := by
  cases s with
  | nil => cases h
  | cons c cs =>
      rw [escapeTags]
      split
      · rename_i htag
        rw [h] at htag
        cases htag
        rfl
      · rename_i hnone
        rw [h] at hnone
        cases hnone

theorem Leads.escapeTags_append {u tail : List Char} (h : Leads u tail) :
    escapeTags (u ++ tail) = u ++ escapeTags tail := by
  induction u with
  | nil => rfl
  | cons c u ih =>
      rw [List.cons_append, escapeTags_of_none h.escapedTag?_eq_none, ih h.of_cons,
        List.cons_append]

/-- Escaping a text escapes its parts and leaves what is behind them. -/
theorem escapeTags_written (parts : List Part) {last : List Char} (h : Untagged last) :
    escapeTags (written parts last) = written (parts.map Part.escaped) last := by
  induction parts with
  | nil =>
      have hescape := h.leads.escapeTags_append
      rw [List.append_nil] at hescape
      rw [written_nil, hescape, escapeTags]
      simp
  | cons p parts ih =>
      rw [written_cons, (p.leads _).escapeTags_append, escapeTags_of_some (escapedTag?_tag p _), ih,
        List.map_cons, written_cons]
      simp [Part.tag, Part.escaped]

/-! ## Every text has parts -/

/-- A character in front of an untagged text, if it opens no tag either. -/
theorem Untagged.cons {c : Char} {s : List Char} (h : Untagged s)
    (hc : c = '[' → tagContent? s = none) : Untagged (c :: s) := by
  rintro (_ | ⟨d, before⟩) rest hs
  · obtain ⟨hopen, rfl⟩ := List.cons.inj hs
    exact hc hopen
  · obtain ⟨-, rfl⟩ := List.cons.inj hs
    exact h before rest rfl

/-- A bracket that starts no tag opens none. -/
theorem tagContent?_of_none {s : List Char} (h : escapedTag? ('[' :: s) = none) :
    tagContent? s = none := by
  rw [Option.eq_none_iff_forall_ne_some]
  rintro ⟨content, rest⟩ hcontent
  obtain ⟨hcut, htext⟩ := tagContent?_eq_some_iff.mp hcontent
  have hsome : escapedTag? ('[' :: s) = some (0, content, rest) :=
    escapedTag?_eq_some_iff.mpr ⟨by rw [hcut]; rfl, htext⟩
  rw [h] at hsome
  cases hsome

/-- A part with one more character in front, where that starts no tag. -/
theorem Part.exists_cons (p : Part) {c : Char} {rest : List Char}
    (h : escapedTag? (c :: (p.text ++ (p.tag ++ rest))) = none) :
    ∃ q : Part, q.text = c :: p.text ∧ q.tag = p.tag := by
  refine ⟨⟨c :: p.text, p.slashes, p.content, ?_, ?_, p.tagText⟩, rfl, rfl⟩
  · refine p.untagged.cons ?_
    rintro rfl
    rw [Option.eq_none_iff_forall_ne_some]
    rintro ⟨content, after⟩ hcontent
    obtain ⟨hcut, htext⟩ := tagContent?_eq_some_iff.mp hcontent
    have hnone := tagContent?_of_none h
    rw [hcut, List.append_assoc, List.cons_append,
      tagContent?_eq_some_iff.mpr ⟨rfl, htext⟩] at hnone
    cases hnone
  · intro hslash
    cases htext : p.text with
    | nil =>
        rw [htext] at hslash h
        obtain rfl : c = '\\' := by simpa using hslash
        have hsome : escapedTag? ('\\' :: ([] ++ (p.tag ++ rest))) =
            some (p.slashes + 1, p.content, rest) := by
          refine escapedTag?_eq_some_iff.mpr ⟨?_, p.tagText⟩
          simp [Part.tag, List.replicate_succ]
        rw [h] at hsome
        cases hsome
    | cons d ds =>
        rw [htext, List.getLast?_cons_cons, ← htext] at hslash
        exact p.unslashed hslash

theorem untagged_of_no_open {s : List Char} (h : '[' ∉ s) : Untagged s := by
  rintro before rest rfl
  exact absurd (by simp) h

theorem untagged_nil : Untagged [] := untagged_of_no_open List.not_mem_nil

theorem exists_parts (s : List Char) :
    ∃ parts last, Untagged last ∧ s = written parts last := by
  induction hlength : s.length using Nat.strong_induction_on generalizing s with
  | _ n ih =>
  subst hlength
  cases s with
  | nil => exact ⟨[], [], untagged_nil, rfl⟩
  | cons c cs =>
      cases htag : escapedTag? (c :: cs) with
      | some found =>
          obtain ⟨n, content, rest⟩ := found
          obtain ⟨hcut, htext⟩ := escapedTag?_eq_some_iff.mp htag
          obtain ⟨parts, last, hlast, hrest⟩ := ih _ (length_escapedTag?_lt htag) rest rfl
          refine ⟨⟨[], n, content, untagged_nil, by simp, htext⟩ :: parts, last, hlast, ?_⟩
          rw [hcut, written_cons, ← hrest]
          simp [Part.tag]
      | none =>
          obtain ⟨parts, last, hlast, rfl⟩ := ih _ (Nat.lt_succ_self _) cs rfl
          cases parts with
          | nil =>
              refine ⟨[], c :: last, hlast.cons ?_, rfl⟩
              rintro rfl
              exact tagContent?_of_none htag
          | cons p parts =>
              rw [written_cons] at htag
              obtain ⟨q, hqtext, hqtag⟩ := p.exists_cons htag
              refine ⟨q :: parts, last, hlast, ?_⟩
              rw [written_cons, written_cons, hqtext, hqtag, List.cons_append]

/-! ## The end of a text -/

theorem exists_slashes (s : List Char) :
    ∃ l k, s = l ++ List.replicate k '\\' ∧ l.getLast? ≠ some '\\' := by
  induction s using List.reverseRecOn with
  | nil => exact ⟨[], 0, rfl, by simp⟩
  | append_singleton s c ih =>
      by_cases hc : c = '\\'
      · obtain ⟨l, k, rfl, hl⟩ := ih
        refine ⟨l, k + 1, ?_, hl⟩
        rw [hc, List.replicate_succ', List.append_assoc]
      · exact ⟨s ++ [c], 0, by simp, by simpa using hc⟩

theorem written_append (parts : List Part) (l m : List Char) :
    written parts (l ++ m) = written parts l ++ m := by
  rw [written, written, List.append_assoc]

theorem getLast?_written (parts : List Part) {l : List Char} (h : l.getLast? ≠ some '\\') :
    (written parts l).getLast? ≠ some '\\' := by
  cases hl : l with
  | cons c cs =>
      rw [written, List.getLast?_append_of_ne_nil _ (List.cons_ne_nil c cs), ← hl]
      exact h
  | nil =>
      induction parts using List.reverseRecOn with
      | nil => simp
      | append_singleton parts p =>
          have hend : written (parts ++ [p]) [] = written parts (p.text ++
              (List.replicate p.slashes '\\' ++ '[' :: p.content)) ++ [']'] := by
            simp [written, Part.written, Part.tag]
          rw [hend]
          simp

theorem Untagged.of_append_left {s t : List Char} (h : Untagged (s ++ t)) : Untagged s := by
  rintro before rest rfl
  rw [Option.eq_none_iff_forall_ne_some]
  rintro ⟨content, after⟩ hcontent
  obtain ⟨rfl, htext⟩ := tagContent?_eq_some_iff.mp hcontent
  have hnone := h before (content ++ ']' :: (after ++ t)) (by simp)
  rw [tagContent?_eq_some_iff.mpr ⟨rfl, htext⟩] at hnone
  cases hnone

/-- The backslashes that an escaped text ends in, for those that the text ends in. -/
def endSlashes (k : Nat) : Nat := if k = 1 then 2 else k

/-- A text by its parts and the backslashes that it ends in, and what escaping makes of it. -/
theorem exists_escaped (s : String) :
    ∃ parts l k, Untagged (l ++ List.replicate k '\\') ∧ l.getLast? ≠ some '\\' ∧
      s.toList = written parts l ++ List.replicate k '\\' ∧
      (escapeMarkup s).toList =
        written (parts.map Part.escaped) l ++ List.replicate (endSlashes k) '\\' := by
  obtain ⟨parts, last, hlast, hs⟩ := exists_parts s.toList
  obtain ⟨l, k, rfl, hl⟩ := exists_slashes last
  refine ⟨parts, l, k, hlast, hl, by rw [hs, written_append], ?_⟩
  have hfront := getLast?_written (parts.map Part.escaped) hl
  have hescaped : escapeTags s.toList =
      written (parts.map Part.escaped) l ++ List.replicate k '\\' := by
    rw [hs, escapeTags_written parts hlast, written_append]
  have hreverse : (written (parts.map Part.escaped) l ++ List.replicate k '\\').reverse =
      List.replicate k '\\' ++ (written (parts.map Part.escaped) l).reverse := by simp
  rw [escapeMarkup, hescaped, hreverse]
  generalize written (parts.map Part.escaped) l = front at hfront
  rw [← List.head?_reverse] at hfront
  match k with
  | 0 =>
      split
      · rename_i hends
        change front.reverse = _ at hends
        rw [hends] at hfront
        exact absurd rfl hfront
      · rename_i hends
        change front.reverse = _ at hends
        rw [hends] at hfront
        exact absurd rfl hfront
      · simp [endSlashes]
  | 1 =>
      split
      · rename_i hends
        change '\\' :: front.reverse = _ at hends
        rw [(List.cons.inj hends).2] at hfront
        exact absurd rfl hfront
      · simp [endSlashes]
      · rename_i hone
        exact absurd rfl (hone _)
  | k + 2 =>
      split
      · simp [endSlashes]
      · rename_i htwo hends
        exact absurd (List.cons.inj hends).2.symm (htwo _)
      · rename_i hone
        exact absurd rfl (hone _)

end TypeGraph.Console
