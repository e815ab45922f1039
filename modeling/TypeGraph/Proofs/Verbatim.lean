import TypeGraph.Proofs.Effects
import TypeGraph.Proofs.EscapedText

/-!
# Texts that are shown as they are

The lines on standard error are marked-up texts that hold messages and paths.  A message is escaped
first, which saves its tags but neither a backslash in front of a bracket that opens no tag nor two
backslashes at the end.  A path is not escaped: its tags and its backslashes in front of brackets
are taken for what they are not.  Everything else is shown as it is.

The controls of the console are not looked at here.  The console is wide enough for every line and
folds none, and the texts have no codes for pictures, such as `:smile:`: a line that is folded, or
that has such a code, may show as something else although it passes every condition below.
-/

namespace TypeGraph.Console

/-! ## Lines -/

def Styled.openingPart {name : String} (h : Styled name) : Part where
  text := []
  slashes := 0
  content := name.toList
  untagged := untagged_nil
  unslashed := by simp
  tagText := h.opening

def Styled.closingPart {name : String} (h : Styled name) {text : List Char} (slashes : Nat)
    (huntagged : Untagged text) (hlast : text.getLast? ≠ some '\\') : Part where
  text
  slashes
  content := '/' :: name.toList
  untagged := huntagged
  unslashed := hlast
  tagText := h.closing

theorem Styled.pieces_openingPart {name : String} (h : Styled name) :
    h.openingPart.pieces = [.tag name.toList] := by
  simp [openingPart, Part.pieces, textPieces, tagPieces]

theorem Styled.shown_openingPart {name : String} (h : Styled name) :
    h.openingPart.shown = [] := by
  simp [openingPart, Part.shown, Part.shownTag, dropBracketEscapes]

def styled (name : String) (text : List Char) : List Char :=
  '[' :: (name.toList ++ ']' :: (text ++ '[' :: '/' :: (name.toList ++ [']'])))

theorem textPieces_are_texts (s : List Char) : ∀ t ∈ textPieces s, ∃ s, t = .text s := by
  rw [textPieces]
  split <;> simp

/-- An escaped part holds no tag. -/
theorem Part.pieces_escaped_are_texts (p : Part) : ∀ t ∈ p.escaped.pieces, ∃ s, t = .text s := by
  have hodd : p.escaped.slashes % 2 = 1 := by
    simp only [Part.escaped]
    omega
  rw [Part.pieces, tagPieces, if_pos hodd]
  intro t ht
  rcases List.mem_append.mp ht with ht | ht
  · exact textPieces_are_texts _ t ht
  · rcases List.mem_append.mp ht with ht | ht
    · split at ht
      · cases ht
      · exact ⟨_, List.mem_singleton.mp ht⟩
    · exact ⟨_, List.mem_singleton.mp ht⟩

section Refusal

variable {name : String} (h : Styled name) {l : List Char} {k : Nat} (huntagged : Untagged l)
  (hl : l.getLast? ≠ some '\\')

/-- The closing tag of a style shows if backslashes escape it, and otherwise closes the style. -/
theorem Styled.displays_closingPart (start : Nat) :
    Displays [⟨name, none, start⟩] (h.closingPart k huntagged hl).pieces := by
  have htag : Displays [⟨name, none, start⟩] [if k % 2 = 1
      then .text ('[' :: ('/' :: name.toList) ++ [']']) else .tag ('/' :: name.toList)] := by
    by_cases hodd : k % 2 = 1
    · rw [if_pos hodd]
      exact (h.displays_unclosed start).text _
    · rw [if_neg hodd]
      exact h.displays_close displays_nil start
  rw [Part.pieces, tagPieces]
  refine (htag.texts ?_).texts (textPieces_are_texts l)
  intro t ht
  split at ht
  · cases ht
  · exact ⟨_, List.mem_singleton.mp ht⟩

def Styled.escapedParts (parts : List Part) (k : Nat) : List Part :=
  h.openingPart :: (parts.map Part.escaped ++ [h.closingPart k huntagged hl])

/-- An escaped text in a style shows without an error. -/
theorem Styled.displays_escaped (parts : List Part) :
    Displays [] (pieces [] (written (h.escapedParts huntagged hl parts k) [])) := by
  have hpieces : pieces [] (written (h.escapedParts huntagged hl parts k) []) =
      .tag name.toList :: ((parts.map Part.escaped).flatMap Part.pieces ++
        (h.closingPart k huntagged hl).pieces) := by
    rw [pieces_written _ untagged_nil, escapedParts, List.flatMap_cons, h.pieces_openingPart]
    simp [textPieces]
  rw [hpieces]
  refine h.displays_open fun start => (h.displays_closingPart huntagged hl start).texts ?_
  intro t ht
  obtain ⟨q, hq, ht⟩ := List.mem_flatMap.mp ht
  obtain ⟨p, -, rfl⟩ := List.mem_map.mp hq
  exact p.pieces_escaped_are_texts t ht

theorem Styled.written_escaped (parts : List Part) :
    written (h.escapedParts huntagged hl parts k) [] =
      styled name (written (parts.map Part.escaped) l ++ List.replicate k '\\') := by
  simp [escapedParts, written, Part.written, Part.tag, openingPart, closingPart, styled]

theorem Styled.shown_escaped (parts : List Part) :
    shown (h.escapedParts huntagged hl parts k) [] =
      shown (parts.map Part.escaped) l ++ (h.closingPart k huntagged hl).shownTag := by
  rw [escapedParts, shown_cons, h.shown_openingPart]
  simp [shown, Part.shown, closingPart, dropBracketEscapes]

theorem Styled.shownTag_closingPart :
    (h.closingPart k huntagged hl).shownTag =
      List.replicate (k / 2) '\\' ++
        if k % 2 = 1 then '[' :: '/' :: (name.toList ++ [']']) else [] :=
  rfl

theorem Styled.shownTag_closingPart_of_le (hk : k ≤ 1) :
    (h.closingPart (endSlashes k) huntagged hl).shownTag = List.replicate k '\\' := by
  rw [h.shownTag_closingPart]
  obtain rfl | rfl : k = 0 ∨ k = 1 := by omega
  · simp [endSlashes]
  · simp [endSlashes]

/-- Of two or more backslashes at the end of a text a half is lost at least, and the closing tag
that may show instead makes up for one. -/
theorem Styled.marks_shownTag_closingPart_lt (hk : 2 ≤ k) :
    marks (h.closingPart (endSlashes k) huntagged hl).shownTag < k := by
  have hend : endSlashes k = k := if_neg (by omega)
  have hclosing : marks ('[' :: '/' :: (name.toList ++ [']'])) = 1 := by
    have hslash : isMark '/' = false := rfl
    have hbracket : marks [']'] = 0 := rfl
    simp [h.unmarked, hslash, hbracket]
  rw [hend, h.shownTag_closingPart, marks_append, marks_slashes]
  split
  · rw [hclosing]
    omega
  · rw [show marks [] = 0 from rfl]
    omega

end Refusal

/-- What a line with an escaped text shows: the text if escaping keeps it, and otherwise something
with fewer marks. -/
theorem Styled.exists_escaped_line {name : String} (h : Styled name) {markup text : String}
    (hmarkup : markup.toList = styled name (escapeMarkup text).toList) :
    ∃ line : List Char, showMarkup markup = .ok (String.ofList line) ∧
      (Kept text.toList → line = text.toList) ∧
      (¬Kept text.toList → marks line < marks text.toList) ∧
      ∀ c ∈ line, c ∈ text.toList ∨ c = '\\' ∨ c ∈ '[' :: '/' :: (name.toList ++ [']']) := by
  obtain ⟨parts, l, k, huntagged, hl, htext, hescaped⟩ := exists_escaped text
  have huntagged' := huntagged.of_append_left
  have hwritten : markup.toList =
      written (h.escapedParts huntagged' hl parts (endSlashes k)) [] := by
    rw [hmarkup, hescaped, h.written_escaped]
  have hdisplays := h.displays_escaped (k := endSlashes k) huntagged' hl parts
  rw [← hwritten] at hdisplays
  refine ⟨_, hdisplays.showMarkup_eq, ?_⟩
  rw [hwritten, shown_pieces_written _ untagged_nil, h.shown_escaped, htext,
    kept_iff huntagged hl]
  have hsublist := shown_escaped_sublist parts l
  refine ⟨?_, ?_, ?_⟩
  · rintro ⟨⟨hparts, hlast⟩, hk⟩
    rw [shown_escaped_eq hparts hlast, h.shownTag_closingPart_of_le huntagged' hl hk]
  · intro hlost
    rw [marks_append, marks_append, marks_slashes]
    have hle := marks_le_of_sublist hsublist
    by_cases hk : k ≤ 1
    · have hlt := marks_shown_escaped_lt fun hall => hlost ⟨hall, hk⟩
      rw [h.shownTag_closingPart_of_le huntagged' hl hk, marks_slashes]
      omega
    · have hlt := h.marks_shownTag_closingPart_lt huntagged' hl (k := k) (by omega)
      omega
  · intro c hc
    rcases List.mem_append.mp hc with hc | hc
    · exact Or.inl (List.mem_append_left _ (hsublist.subset hc))
    · rw [h.shownTag_closingPart] at hc
      rcases List.mem_append.mp hc with hc | hc
      · exact Or.inr (Or.inl (List.eq_of_mem_replicate hc))
      · split at hc
        · exact Or.inr (Or.inr hc)
        · cases hc

/-! ## Pages -/

/-- Whether a character shows as it is: no control that a console drops or widens. -/
def isPlain (c : Char) : Bool := !isDropped c && c ≠ '\t'

/-- A text of characters that show as they are. -/
def Plain (s : List Char) : Prop := ∀ c ∈ s, isPlain c = true

theorem plain_of_all {s : List Char} (h : s.all isPlain = true) : Plain s := List.all_eq_true.mp h

theorem expandTabs_of_plain {s : List Char} (done : List Char) (h : ∀ c ∈ s, c ≠ '\t') :
    expandTabs done s = done.reverse ++ s := by
  induction s generalizing done with
  | nil => simp [expandTabs]
  | cons c s ih =>
      obtain ⟨hc, hs⟩ := List.forall_mem_cons.mp h
      rw [expandTabs, if_neg hc]
      split
      · rw [ih [] hs]
        rfl
      · rw [ih (c :: done) hs]
        simp

theorem toList_page {s : List Char} (h : Plain s) :
    (page (String.ofList s)).toList = s ++ ['\n'] := by
  have hkept : s.filter (!isDropped ·) = s :=
    List.filter_eq_self.mpr fun c hc => (Bool.and_eq_true_iff.mp (h c hc)).1
  have htabs : ∀ c ∈ s, c ≠ '\t' := fun c hc => by
    simpa using (Bool.and_eq_true_iff.mp (h c hc)).2
  rw [page, String.toList_ofList, String.toList_ofList, hkept, expandTabs_of_plain [] htabs]
  rfl

theorem marks_le_of_infix_page {s t : List Char} (ht : Plain t)
    (h : s <:+: (page (String.ofList t)).toList) : marks s ≤ marks t := by
  rw [toList_page ht] at h
  have hle := marks_le_of_sublist h.sublist
  have hend : marks ['\n'] = 0 := rfl
  rw [marks_append, hend] at hle
  exact hle

/-! ## Lines with a message -/

/-- An escaped text in a style shows without an error, and as it is exactly if escaping keeps it. -/
theorem Styled.escaped_line {name : String} (h : Styled name) (hname : Plain name.toList)
    {markup text : String} (hmarkup : markup.toList = styled name (escapeMarkup text).toList)
    (htext : Plain text.toList) :
    ∃ shown, showMarkup markup = .ok shown ∧
      (text.toList <:+: (page shown).toList ↔ Kept text.toList) := by
  obtain ⟨line, hshown, hkept, hlost, hchars⟩ := h.exists_escaped_line hmarkup
  have hline : Plain line := by
    intro c hc
    rcases hchars c hc with hc | rfl | hc
    · exact htext c hc
    · decide
    · rcases List.mem_cons.mp hc with rfl | hc
      · decide
      · rcases List.mem_cons.mp hc with rfl | hc
        · decide
        · rcases List.mem_append.mp hc with hc | hc
          · exact hname c hc
          · obtain rfl := List.mem_singleton.mp hc
            decide
  refine ⟨String.ofList line, hshown, ?_, ?_⟩
  · intro hinfix
    by_contra hnot
    exact absurd (marks_le_of_infix_page hline hinfix) (Nat.not_le.mpr (hlost hnot))
  · intro hkeeps
    rw [toList_page hline, hkept hkeeps]
    exact (List.prefix_append _ _).isInfix

/-! ## Lines with a path -/

/-- A text that is shown as it is without being escaped. -/
structure Unmarked (s : List Char) : Prop where
  untagged : Untagged s
  unescaped : ¬HoldsEscape s

theorem unmarked_iff {text last : List Char} {parts : List Part} (hlast : Untagged last)
    (h : ' ' :: text = written parts last) :
    Unmarked text ↔ parts = [] ∧ ¬HoldsEscape last := by
  constructor
  · rintro ⟨huntagged, hescape⟩
    have hblank : Untagged (' ' :: text) := huntagged.cons fun hopen => absurd hopen (by decide)
    have hparts : parts = [] := by
      cases parts with
      | nil => rfl
      | cons p parts =>
          have hcut : ' ' :: text = (p.text ++ List.replicate p.slashes '\\') ++
              '[' :: (p.content ++ ']' :: written parts last) := by
            rw [h, written_cons, Part.tag]
            simp
          have hnone := hblank _ _ hcut
          rw [tagContent?_eq_some_iff.mpr ⟨rfl, p.tagText⟩] at hnone
          cases hnone
    refine ⟨hparts, ?_⟩
    rw [hparts, written_nil] at h
    rw [← h]
    intro hholds
    rcases List.infix_cons_iff.mp hholds with hprefix | hin
    · cases (List.cons_prefix_cons.mp hprefix).1
    · exact hescape hin
  · rintro ⟨rfl, hescape⟩
    rw [written_nil] at h
    subst h
    exact ⟨Untagged.of_append (s := [' ']) hlast,
      fun hholds => hescape (hholds.trans (List.suffix_cons ' ' text).isInfix)⟩

/-! ## Labels -/

section Label

variable {label : List Char}

theorem not_mem_of_marks_eq_zero (hlabel : marks label = 0) {c : Char} (hc : isMark c = true) :
    c ∉ label := by
  intro hmem
  have hnone := List.countP_eq_zero.mp hlabel c hmem
  exact hnone hc

theorem untagged_of_marks_eq_zero (hlabel : marks label = 0) : Untagged label :=
  untagged_of_no_open (not_mem_of_marks_eq_zero hlabel isMark_open)

theorem getLast?_of_marks_eq_zero (hlabel : marks label = 0) : label.getLast? ≠ some '\\' :=
  fun hlast => not_mem_of_marks_eq_zero hlabel isMark_slash (List.mem_of_getLast? hlast)

variable {name : String} (h : Styled name) (hlabel : marks label = 0)

def Styled.labelParts : List Part :=
  [h.openingPart,
   h.closingPart 0 (untagged_of_marks_eq_zero hlabel) (getLast?_of_marks_eq_zero hlabel)]

theorem Styled.written_label (parts : List Part) (last : List Char) :
    written (h.labelParts hlabel ++ parts) last = styled name label ++ written parts last := by
  simp [labelParts, written, Part.written, Part.tag, openingPart, closingPart, styled]

theorem Styled.shown_label (parts : List Part) (last : List Char) :
    shown (h.labelParts hlabel ++ parts) last = label ++ shown parts last := by
  have hkept : dropBracketEscapes label = label :=
    dropBracketEscapes_eq_self
      (not_holdsEscape_of_no_open (not_mem_of_marks_eq_zero hlabel isMark_open))
  have hclosing : (h.closingPart 0 (untagged_of_marks_eq_zero hlabel)
      (getLast?_of_marks_eq_zero hlabel)).shown = label := by
    simp [closingPart, Part.shown, Part.shownTag, hkept]
  rw [labelParts, List.cons_append, List.cons_append, List.nil_append, shown_cons, shown_cons,
    h.shown_openingPart, hclosing]
  rfl

/-- A label in a style with an untagged text behind it shows without an error. -/
theorem Styled.displays_label {last : List Char} (hlast : Untagged last) :
    Displays [] (pieces [] (written (h.labelParts hlabel) last)) := by
  have hpieces : pieces [] (written (h.labelParts hlabel) last) =
      .tag name.toList :: (textPieces label ++ .tag ('/' :: name.toList) ::
        (textPieces last ++ [])) := by
    rw [pieces_written _ hlast, labelParts, List.flatMap_cons, h.pieces_openingPart]
    simp [closingPart, Part.pieces, textPieces, tagPieces]
  rw [hpieces]
  refine h.displays_open fun start => ?_
  refine Displays.texts (h.displays_close ?_ start) (textPieces_are_texts label)
  exact displays_nil.texts (textPieces_are_texts last)

end Label

/-- A text behind a label in a style shows without an error and as it is exactly if nothing in it
means anything. -/
theorem Styled.labelled_line_iff {name : String} (h : Styled name) {label : List Char}
    (hlabel : marks label = 0) (hplain : Plain label) {markup text : String}
    (hmarkup : markup.toList = styled name label ++ ' ' :: text.toList)
    (htext : Plain text.toList) :
    (∃ shown, showMarkup markup = .ok shown ∧ text.toList <:+: (page shown).toList) ↔
      Unmarked text.toList := by
  obtain ⟨parts, last, hlast, hparts⟩ := exists_parts (' ' :: text.toList)
  have hwritten : markup.toList = written (h.labelParts hlabel ++ parts) last := by
    rw [hmarkup, hparts, h.written_label hlabel]
  have hshown : (pieces [] markup.toList).flatMap Piece.shown = label ++ shown parts last := by
    rw [hwritten, shown_pieces_written _ hlast, h.shown_label hlabel]
  have hline : Plain (label ++ shown parts last) := by
    intro c hc
    rcases List.mem_append.mp hc with hc | hc
    · exact hplain c hc
    · have hmem := (shown_sublist parts last).subset hc
      rw [← hparts] at hmem
      rcases List.mem_cons.mp hmem with rfl | hmem
      · decide
      · exact htext c hmem
  rw [unmarked_iff hlast hparts]
  constructor
  · rintro ⟨shown', hshow, hinfix⟩
    have hshown' : shown' = String.ofList (label ++ shown parts last) := by
      rw [← hshown, ← toList_of_showMarkup hshow, String.ofList_toList]
    rw [hshown'] at hinfix
    have hle := marks_le_of_infix_page hline hinfix
    have htotal : marks text.toList = marks (written parts last) := by
      rw [← hparts, marks_cons]
      rfl
    rw [marks_append, hlabel, htotal] at hle
    by_contra hnot
    have hlt : marks (shown parts last) < marks (written parts last) := by
      by_cases hnil : parts = []
      · subst hnil
        exact marks_dropBracketEscapes_lt (by simpa using hnot)
      · exact marks_shown_lt_of_part last hnil
    omega
  · rintro ⟨rfl, hescape⟩
    have hdisplays : Displays [] (pieces [] markup.toList) := by
      rw [hwritten, List.append_nil]
      exact h.displays_label hlabel hlast
    have hlast' : shown [] last = ' ' :: text.toList := by
      rw [hparts]
      exact dropBracketEscapes_eq_self hescape
    refine ⟨_, hdisplays.showMarkup_eq, ?_⟩
    rw [hshown, toList_page hline, hlast']
    exact ⟨label ++ [' '], ['\n'], by simp⟩

end TypeGraph.Console

namespace TypeGraph.Command

open TypeGraph.Console

/-! ## Commands -/

/-- A command that goes on to an exit code without a crash and writes a line with a text as it
is. -/
structure Shows (o o' : Outcome) (code : Nat) (text : String) : Prop where
  crash : o'.crash = none
  exitCode : o'.exitCode = code
  line : ∃ line, o'.stderr = o.stderr ++ line ∧ text.toList <:+: line.toList

/-- A command that prints marked-up text and goes on shows a text if the marked-up text does. -/
theorem shows_printMarkup_iff {b o : Outcome} {markup text : String} {code : Nat}
    {next : Outcome → Outcome} (hb : o.stderr = b.stderr)
    (hnext : ∀ stderr, (next { o with stderr }).crash = none ∧
      (next { o with stderr }).exitCode = code ∧ (next { o with stderr }).stderr = stderr) :
    Shows b (o.printMarkup markup next) code text ↔
      ∃ shown, showMarkup markup = .ok shown ∧ text.toList <:+: (page shown).toList := by
  rw [Outcome.printMarkup]
  cases hshown : showMarkup markup with
  | error e =>
      constructor
      · intro h
        cases h.crash
      · rintro ⟨shown, hok, -⟩
        cases hok
  | ok shown =>
      obtain ⟨hcrash, hexit, hstderr⟩ := hnext (o.stderr ++ page shown)
      constructor
      · rintro ⟨-, -, line, hline, hinfix⟩
        dsimp only at hline
        rw [hstderr, hb, String.append_right_inj] at hline
        exact ⟨shown, rfl, hline ▸ hinfix⟩
      · rintro ⟨shown', hok, hinfix⟩
        cases hok
        exact ⟨hcrash, hexit, page shown, by rw [← hb]; exact hstderr, hinfix⟩

/-- A message is shown without a crash, and as it is exactly if escaping keeps it. -/
theorem shows_refuse_iff {o : Outcome} (ho : o.crash = none) {message : String}
    (h : Plain message.toList) :
    (o.refuse message).crash = none ∧ (o.refuse message).exitCode = 1 ∧
      (Shows o (o.refuse message) 1 message ↔ Kept message.toList) := by
  have hred : Styled "red" := styled_of_mem_lineStyles (by decide)
  have hmarkup : ("[red]" ++ escapeMarkup message ++ "[/red]").toList =
      styled "red" (escapeMarkup message).toList := by
    simp [styled]
  obtain ⟨shown, hshown, hkept⟩ := hred.escaped_line (plain_of_all (by decide)) hmarkup h
  have hrefuse : o.refuse message = { o with stderr := o.stderr ++ page shown, exitCode := 1 } := by
    rw [Outcome.refuse, Outcome.printMarkup, hshown]
    rfl
  refine ⟨by rw [hrefuse]; exact ho, by rw [hrefuse], ?_⟩
  rw [← hkept, Outcome.refuse, shows_printMarkup_iff rfl fun _ => ⟨ho, rfl, rfl⟩, hshown]
  constructor
  · rintro ⟨shown', hok, hinfix⟩
    cases hok
    exact hinfix
  · exact fun hinfix => ⟨shown, rfl, hinfix⟩

/-- The path of a source that is missing or no text is shown, with exit code 1, exactly if nothing
in it means anything. -/
theorem shows_sourceOf_iff {world : World} {a : Arguments} {path : FilePath}
    (hsource : SourceAt world a path .missing ∨
      ∃ bytes, SourceAt world a path (.file bytes) ∧ decodeText? bytes = none)
    (h : Plain path.text.toList) :
    ∃ stop, sourceOf world a = .error stop ∧ ∀ o : Outcome, o.crash = none →
      (Shows o (stop o) 1 path.text ↔ Unmarked path.text.toList) := by
  have hred : Styled "red" := styled_of_mem_lineStyles (by decide)
  rcases hsource with hmissing | ⟨bytes, hfile, hbytes⟩
  · have hlabel : marks "Source file not found:".toList = 0 := by decide
    refine ⟨_, sourceOf_of_missing hmissing, fun o ho => ?_⟩
    rw [shows_printMarkup_iff rfl fun _ => ⟨ho, rfl, rfl⟩]
    exact hred.labelled_line_iff hlabel (plain_of_all (by decide)) (by simp [styled]) h
  · have hlabel : marks "Source file is not valid UTF-8:".toList = 0 := by decide
    refine ⟨_, sourceOf_of_undecodable hfile hbytes, fun o ho => ?_⟩
    rw [shows_printMarkup_iff rfl fun _ => ⟨ho, rfl, rfl⟩]
    exact hred.labelled_line_iff hlabel (plain_of_all (by decide)) (by simp [styled]) h

/-- The path that an image is written to is shown, with the exit code as it was, exactly if nothing
in it means anything. -/
theorem shows_writeImage_iff {world : World} {path name : FilePath}
    (htarget : world.tree.target path = .ok name) {o : Outcome} (ho : o.crash = none)
    (image : List UInt8) (format : ImageFormat) (h : Plain path.text.toList) :
    Shows o (writeImage world o path image format.mediaType) o.exitCode path.text ↔
      Unmarked path.text.toList := by
  have hgreen : Styled "green" := styled_of_mem_lineStyles (by decide)
  have hlabel : marks ("Wrote " ++ format.mediaType ++ " to").toList = 0 := by
    cases format <;> decide
  have hplain : Plain ("Wrote " ++ format.mediaType ++ " to").toList := by
    cases format <;> exact plain_of_all (by decide)
  have hmarkup : ("[green]Wrote " ++ format.mediaType ++ " to[/green] " ++ path.text).toList =
      styled "green" ("Wrote " ++ format.mediaType ++ " to").toList ++ ' ' :: path.text.toList := by
    simp [styled]
  rw [← hgreen.labelled_line_iff hlabel hplain hmarkup h, writeImage, htarget]
  exact shows_printMarkup_iff rfl fun _ => ⟨ho, rfl, rfl⟩

/-- **Verbatim texts.**  A message ends a command with exit code 1 and without a crash, and its line
holds the message exactly if escaping keeps it.  The line of a source's or an image's path holds the
path, and the command ends with its exit code and without a crash, exactly if the path holds neither
a tag nor a backslash in front of a bracket. -/
theorem shows_verbatim_iff (world : World) (o : Outcome) (ho : o.crash = none) :
    (∀ message : String, Plain message.toList →
      (o.refuse message).crash = none ∧ (o.refuse message).exitCode = 1 ∧
        (Shows o (o.refuse message) 1 message ↔ Kept message.toList)) ∧
    (∀ (a : Arguments) (path : FilePath),
      (SourceAt world a path .missing ∨
        ∃ bytes, SourceAt world a path (.file bytes) ∧ decodeText? bytes = none) →
      Plain path.text.toList →
      ∃ stop, sourceOf world a = .error stop ∧
        (Shows o (stop o) 1 path.text ↔ Unmarked path.text.toList)) ∧
    ∀ (path name : FilePath) (image : List UInt8) (format : ImageFormat),
      world.tree.target path = .ok name → Plain path.text.toList →
      (Shows o (writeImage world o path image format.mediaType) o.exitCode path.text ↔
        Unmarked path.text.toList) := by
  refine ⟨?_, ?_, ?_⟩
  · intro message h
    exact shows_refuse_iff ho h
  · intro a path hsource h
    obtain ⟨stop, hstop, hshows⟩ := shows_sourceOf_iff hsource h
    exact ⟨stop, hstop, hshows o ho⟩
  · intro path name image format htarget h
    exact shows_writeImage_iff htarget ho image format h

/-- A path with a tag is not shown, and neither is a message that ends in two backslashes. -/
theorem not_shows_tagged :
    (∃ stop, sourceOf { server := fun _ => .failure "" } { positional := ["a[b].go"] } =
        .error stop ∧ ¬Shows {} (stop {}) 1 "a[b].go") ∧
      ¬Shows {} (({} : Outcome).refuse "C:\\\\") 1 "C:\\\\" := by
  have htag : ¬Unmarked "a[b].go".toList := by
    rintro ⟨huntagged, -⟩
    have hnone := huntagged ['a'] "b].go".toList rfl
    cases hnone
  have hslashes : ¬Kept "C:\\\\".toList := fun h => h.ending ⟨"C:".toList, rfl⟩
  have hsource : SourceAt { server := fun _ => .failure "" } { positional := ["a[b].go"] }
      (FilePath.ofText "a[b].go") .missing :=
    ⟨"a[b].go", rfl, rfl, by decide, by decide⟩
  obtain ⟨hmessages, hsources, -⟩ := shows_verbatim_iff { server := fun _ => .failure "" } {} rfl
  constructor
  · obtain ⟨stop, hstop, hshows⟩ :=
      hsources _ _ (Or.inl hsource) (plain_of_all (by decide))
    exact ⟨stop, hstop, fun h => htag (hshows.mp h)⟩
  · intro h
    obtain ⟨-, -, hshows⟩ := hmessages "C:\\\\" (plain_of_all (by decide))
    exact hslashes (hshows.mp h)

end TypeGraph.Command
