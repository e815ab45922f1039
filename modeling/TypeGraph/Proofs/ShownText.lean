import TypeGraph.Proofs.MarkupParts

/-!
# What a marked-up text shows

The text that shows is read off the parts: no text shows more than itself, a tag and a half of the
backslashes in front of it never show, and neither does a backslash in front of a bracket that opens
no tag.  So what is lost can be told by counting opening brackets and backslashes.
-/

namespace TypeGraph.Console

open TypeGraph.Source (cut_behind)

/-! ## Marks -/

/-- Whether a character means something in a marked-up text. -/
def isMark (c : Char) : Bool := c = '[' || c = '\\'

@[simp] theorem isMark_open : isMark '[' = true := rfl

@[simp] theorem isMark_slash : isMark '\\' = true := rfl

/-- The number of marks in a text. -/
def marks (s : List Char) : Nat := s.countP isMark

@[simp] theorem marks_append (s t : List Char) : marks (s ++ t) = marks s + marks t :=
  List.countP_append

@[simp] theorem marks_cons (c : Char) (s : List Char) :
    marks (c :: s) = marks s + if isMark c then 1 else 0 :=
  List.countP_cons

@[simp] theorem marks_slashes (n : Nat) : marks (List.replicate n '\\') = n := by
  rw [marks, List.countP_replicate]
  rfl

theorem marks_le_of_sublist {s t : List Char} (h : s.Sublist t) : marks s ≤ marks t := h.countP_le

/-! ## Backslashes in front of brackets -/

/-- A text with a backslash in front of a bracket. -/
def HoldsEscape (s : List Char) : Prop := ['\\', '['] <:+: s

theorem dropBracketEscapes_sublist (s : List Char) : (dropBracketEscapes s).Sublist s := by
  fun_induction dropBracketEscapes s with
  | case1 => exact List.Sublist.slnil
  | case2 rest ih => exact (ih.cons_cons '[').cons '\\'
  | case3 c rest _ ih => exact ih.cons_cons c

theorem dropBracketEscapes_eq_self {s : List Char} (h : ¬HoldsEscape s) :
    dropBracketEscapes s = s := by
  fun_induction dropBracketEscapes s with
  | case1 => rfl
  | case2 rest ih => exact absurd (List.prefix_append ['\\', '['] rest).isInfix h
  | case3 c rest _ ih => rw [ih fun hrest => h (hrest.trans (List.suffix_cons c rest).isInfix)]

theorem marks_dropBracketEscapes_lt {s : List Char} (h : HoldsEscape s) :
    marks (dropBracketEscapes s) < marks s := by
  fun_induction dropBracketEscapes s with
  | case1 => simp [HoldsEscape] at h
  | case2 rest ih =>
      have hle := marks_le_of_sublist (dropBracketEscapes_sublist rest)
      simp only [marks_cons, isMark_open, isMark_slash, if_true]
      omega
  | case3 c rest hne ih =>
      have hrest : HoldsEscape rest := by
        rcases List.infix_cons_iff.mp h with hprefix | hrest
        · obtain ⟨after, hafter⟩ := hprefix
          cases hafter
          exact absurd rfl (hne after rfl)
        · exact hrest
      simp only [marks_cons]
      exact Nat.add_lt_add_right (ih hrest) _

theorem not_holdsEscape_of_no_open {s : List Char} (h : '[' ∉ s) : ¬HoldsEscape s :=
  fun hescape => h (hescape.subset (by simp))

/-! ## Shown parts -/

def Piece.shown : Piece → List Char
  | .text s => dropBracketEscapes s
  | .tag _ => []

/-- What shows of a part's tag: half of its backslashes, and the tag itself if one is left over. -/
def Part.shownTag (p : Part) : List Char :=
  List.replicate (p.slashes / 2) '\\' ++
    if p.slashes % 2 = 1 then '[' :: (p.content ++ [']']) else []

def Part.shown (p : Part) : List Char := dropBracketEscapes p.text ++ p.shownTag

/-- What shows of a text of some parts. -/
def shown (parts : List Part) (last : List Char) : List Char :=
  parts.flatMap Part.shown ++ dropBracketEscapes last

theorem shown_cons (p : Part) (parts : List Part) (last : List Char) :
    shown (p :: parts) last = p.shown ++ shown parts last := by
  simp [shown]

theorem shown_textPieces (s : List Char) :
    (textPieces s).flatMap Piece.shown = dropBracketEscapes s := by
  rw [textPieces]
  split
  · rename_i hs
    rw [hs]
    rfl
  · simp [Piece.shown]

theorem Part.shown_pieces (p : Part) : p.pieces.flatMap Piece.shown = p.shown := by
  have hslashes : dropBracketEscapes (List.replicate (p.slashes / 2) '\\') =
      List.replicate (p.slashes / 2) '\\' :=
    dropBracketEscapes_eq_self (not_holdsEscape_of_no_open (by simp))
  have htag : dropBracketEscapes ('[' :: (p.content ++ [']'])) = '[' :: (p.content ++ [']']) := by
    refine dropBracketEscapes_eq_self fun hescape => ?_
    rcases List.infix_cons_iff.mp hescape with hprefix | hrest
    · cases List.cons_prefix_cons.mp hprefix |>.1
    · exact not_holdsEscape_of_no_open (by simp [p.tagText.no_open]) hrest
  rw [Part.pieces, List.flatMap_append, shown_textPieces, tagPieces, Part.shown, Part.shownTag]
  congr 1
  rw [List.flatMap_append]
  congr 1
  · split
    · rename_i hzero
      rw [hzero]
      rfl
    · simp [Piece.shown, hslashes]
  · split
    · simpa [Piece.shown] using htag
    · rfl

theorem shown_pieces_written (parts : List Part) {last : List Char} (h : Untagged last) :
    (pieces [] (written parts last)).flatMap Piece.shown = shown parts last := by
  rw [pieces_written parts h, List.flatMap_append, shown_textPieces, List.flatMap_assoc, shown]
  simp only [Part.shown_pieces]

/-! ## What is lost -/

theorem Part.shown_sublist (p : Part) : p.shown.Sublist p.written := by
  refine (dropBracketEscapes_sublist p.text).append (List.Sublist.append ?_ ?_)
  · exact List.replicate_sublist_replicate '\\' |>.mpr (Nat.div_le_self _ _)
  · split
    · exact List.Sublist.refl _
    · exact List.nil_sublist _

theorem shown_sublist (parts : List Part) (last : List Char) :
    (shown parts last).Sublist (written parts last) := by
  refine List.Sublist.append ?_ (dropBracketEscapes_sublist last)
  induction parts with
  | nil => exact List.Sublist.refl _
  | cons p parts ih => exact p.shown_sublist.append ih

/-- A part shows fewer marks than it has. -/
theorem Part.marks_shown_lt (p : Part) : marks p.shown < marks p.written := by
  have htext := marks_le_of_sublist (dropBracketEscapes_sublist p.text)
  have hshown : marks p.shownTag < marks p.tag := by
    simp only [Part.shownTag, Part.tag, marks_append, marks_slashes, marks_cons]
    split
    · simp only [marks_cons, marks_append]
      omega
    · have hnil : marks [] = 0 := rfl
      simp only [hnil, isMark_open, if_true]
      omega
  simp only [Part.shown, Part.written, marks_append]
  omega

theorem marks_shown_lt_of_part {parts : List Part} (last : List Char) (h : parts ≠ []) :
    marks (shown parts last) < marks (written parts last) := by
  cases parts with
  | nil => exact absurd rfl h
  | cons p parts =>
      have hp := p.marks_shown_lt
      have hrest := marks_le_of_sublist (shown_sublist parts last)
      have hwritten : written (p :: parts) last = p.written ++ written parts last := by
        simp [written]
      rw [shown_cons, hwritten, marks_append, marks_append]
      omega

/-! ## Showing pieces -/

/-- What shows does not depend on the tags. -/
theorem text_of_showPieces {position : Nat} {openTags : List OpenTag} {ps : List Piece}
    {text : List Char} {spans : List Span}
    (h : showPieces position openTags ps = .ok (text, spans)) : text = ps.flatMap Piece.shown := by
  induction ps generalizing position openTags text spans with
  | nil =>
      cases h
      rfl
  | cons p ps ih =>
      cases p with
      | text s =>
          rw [showPieces] at h
          cases hrest : showPieces (position + (dropBracketEscapes s).length) openTags ps with
          | error e =>
              rw [hrest] at h
              cases h
          | ok shown =>
              rw [hrest] at h
              cases h
              rw [ih hrest]
              rfl
      | tag content =>
          rw [showPieces] at h
          cases htag : applyTag position openTags content with
          | error e =>
              rw [htag] at h
              cases h
          | ok applied =>
              cases hrest : showPieces position applied.1 ps with
              | error e =>
                  rw [htag] at h
                  dsimp only [bind, Except.bind] at h
                  rw [hrest] at h
                  cases h
              | ok shown =>
                  rw [htag] at h
                  dsimp only [bind, Except.bind] at h
                  rw [hrest] at h
                  cases h
                  rw [ih hrest]
                  rfl

theorem toList_of_showMarkup {s shown : String} (h : showMarkup s = .ok shown) :
    shown.toList = (pieces [] s.toList).flatMap Piece.shown := by
  rw [showMarkup] at h
  cases hpieces : showPieces 0 [] (pieces [] s.toList) with
  | error e =>
      rw [hpieces] at h
      cases h
  | ok found =>
      rw [hpieces] at h
      dsimp only [bind, Except.bind] at h
      split at h
      · cases h
        rw [text_of_showPieces hpieces]
        simp
      · cases h

/-- Pieces that show without an error, wherever they stand, and give a text only styles that can be
looked up. -/
def Displays (openTags : List OpenTag) (ps : List Piece) : Prop :=
  ∀ position, ∃ text spans, showPieces position openTags ps = .ok (text, spans) ∧
    ∀ span ∈ spans, span.isSound = true

theorem Displays.showMarkup_eq {s : String} (h : Displays [] (pieces [] s.toList)) :
    showMarkup s = .ok (String.ofList ((pieces [] s.toList).flatMap Piece.shown)) := by
  obtain ⟨text, spans, hpieces, hspans⟩ := h 0
  have hused : spans.all (fun span => !span.isUsed text || span.isSound) = true :=
    List.all_eq_true.mpr fun span hspan => by rw [hspans span hspan, Bool.or_true]
  rw [showMarkup, hpieces]
  dsimp only [bind, Except.bind]
  rw [if_pos hused, text_of_showPieces hpieces]
  rfl

theorem Displays.text {openTags : List OpenTag} {ps : List Piece} (h : Displays openTags ps)
    (s : List Char) : Displays openTags (.text s :: ps) := by
  intro position
  obtain ⟨text, spans, hpieces, hspans⟩ := h (position + (dropBracketEscapes s).length)
  refine ⟨dropBracketEscapes s ++ text, spans, ?_, hspans⟩
  rw [showPieces, hpieces]
  rfl

theorem Displays.texts {openTags : List OpenTag} {ts ps : List Piece} (h : Displays openTags ps)
    (hts : ∀ t ∈ ts, ∃ s, t = .text s) : Displays openTags (ts ++ ps) := by
  induction ts with
  | nil => exact h
  | cons t ts ih =>
      obtain ⟨s, rfl⟩ := hts t List.mem_cons_self
      exact (ih fun t ht => hts t (List.mem_cons_of_mem _ ht)).text s

theorem displays_nil : Displays [] [] := fun _ => ⟨[], [], rfl, fun _ h => by cases h⟩

/-! ## Styles -/

structure Styled (name : String) : Prop where
  opening : TagText name.toList
  closing : TagText ('/' :: name.toList)
  opens : ∀ position openTags,
    applyTag position openTags name.toList = .ok (⟨name, none, position⟩ :: openTags, none)
  closes : ∀ position start,
    applyTag position [⟨name, none, start⟩] ('/' :: name.toList) =
      .ok ([], some ⟨start, position, name⟩)
  sound : ∀ start stop, Span.isSound ⟨start, stop, name⟩ = true
  unmarked : marks name.toList = 0

/-- The styles of the lines on standard error. -/
def lineStyles : List String := ["red", "green"]

theorem tagName_of_mem_lineStyles : ∀ name ∈ lineStyles,
    tagName name.toList = .ok name ∧ Text.trim name.toList = name.toList ∧
      Span.isSound ⟨0, 0, name⟩ = true := by
  decide +kernel

theorem styled_of_mem_lineStyles {name : String} (h : name ∈ lineStyles) : Styled name := by
  obtain ⟨hname, htrim, hsound⟩ := tagName_of_mem_lineStyles name h
  have hcases : name = "red" ∨ name = "green" := by simpa [lineStyles] using h
  refine ⟨?_, ?_, ?_, ?_, fun _ _ => hsound, ?_⟩
  · rcases hcases with rfl | rfl <;> exact ⟨rfl, List.all_eq_true.mp (by decide)⟩
  · rcases hcases with rfl | rfl <;> exact ⟨rfl, List.all_eq_true.mp (by decide)⟩
  · intro position openTags
    rcases hcases with rfl | rfl <;>
      simp at hname <;> simp [applyTag, hname, bind, Except.bind, pure, Except.pure]
  · intro position start
    rcases hcases with rfl | rfl <;>
      simp at hname htrim <;>
      simp [applyTag, hname, htrim, takeTag?, OpenTag.close, bind, Except.bind, pure, Except.pure]
  · rcases hcases with rfl | rfl <;> decide

section Styles

variable {name : String} {ps : List Piece}

theorem Styled.displays_open (h : Styled name)
    (hps : ∀ start, Displays [⟨name, none, start⟩] ps) :
    Displays [] (.tag name.toList :: ps) := by
  intro position
  obtain ⟨text, spans, hpieces, hspans⟩ := hps position position
  refine ⟨text, spans, ?_, hspans⟩
  rw [showPieces, h.opens]
  dsimp only [bind, Except.bind]
  rw [hpieces]
  rfl

theorem Styled.displays_close (h : Styled name) (hps : Displays [] ps) (start : Nat) :
    Displays [⟨name, none, start⟩] (.tag ('/' :: name.toList) :: ps) := by
  intro position
  obtain ⟨text, spans, hpieces, hspans⟩ := hps position
  refine ⟨text, ⟨start, position, name⟩ :: spans, ?_, ?_⟩
  · rw [showPieces, h.closes]
    dsimp only [bind, Except.bind]
    rw [hpieces]
    rfl
  · exact List.forall_mem_cons.mpr ⟨h.sound start position, hspans⟩

/-- A tag that is never closed does no harm. -/
theorem Styled.displays_unclosed (h : Styled name) (start : Nat) :
    Displays [⟨name, none, start⟩] [] := by
  intro position
  refine ⟨[], [⟨start, position, name⟩], ?_, ?_⟩
  · rw [showPieces]
    simp [OpenTag.span]
  · exact List.forall_mem_cons.mpr ⟨h.sound start position, fun _ h => by cases h⟩

end Styles

end TypeGraph.Console
