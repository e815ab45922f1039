import TypeGraph.Proofs.ShownText

/-!
# What escaping keeps

Escaping saves the tags of a text.  It saves neither a backslash in front of a bracket that opens no
tag nor more than one backslash at the end, which a closing tag behind the text takes for its own.
The first of these losses can be read off the parts of a text, and the second off its end.
-/

namespace TypeGraph.Console

open TypeGraph.Source (cut_behind)

/-! ## Texts that are kept -/

/-- A text that is shown as it is once it is escaped. -/
structure Kept (s : List Char) : Prop where
  /-- Every bracket behind a backslash opens a tag. -/
  brackets : ∀ before after, s = before ++ '\\' :: '[' :: after → tagContent? after ≠ none
  /-- At most one backslash stands at the end. -/
  ending : ¬['\\', '\\'] <:+ s

theorem holdsEscape_iff {s : List Char} :
    HoldsEscape s ↔ ∃ before after, s = before ++ '\\' :: '[' :: after := by
  constructor
  · rintro ⟨before, after, rfl⟩
    exact ⟨before, after, by simp⟩
  · rintro ⟨before, after, rfl⟩
    exact ⟨before, after, by simp⟩

/-- A cut at a character that is not in the second of two texts is in the first. -/
theorem cut_in_front {x y b z : List Char} {c : Char} (h : x ++ y = b ++ c :: z) (hy : c ∉ y) :
    ∃ k, x = b ++ c :: k ∧ z = k ++ y := by
  rcases List.append_eq_append_iff.mp h with ⟨inner, -, rfl⟩ | ⟨inner, rfl, hz⟩
  · exact absurd (by simp) hy
  · cases inner with
    | nil =>
        rw [List.nil_append] at hz
        exact absurd (hz ▸ List.mem_cons_self) hy
    | cons d inner =>
        rw [List.cons_append] at hz
        obtain ⟨rfl, hz'⟩ := List.cons.inj hz
        exact ⟨inner, rfl, hz'⟩

/-- Backslashes at the end stand in front of no bracket. -/
theorem holdsEscape_append_slashes_iff {s : List Char} {k : Nat} :
    HoldsEscape (s ++ List.replicate k '\\') ↔ HoldsEscape s := by
  constructor
  · intro h
    obtain ⟨before, after, hcut⟩ := holdsEscape_iff.mp h
    rw [List.append_cons] at hcut
    obtain ⟨inner, hs, -⟩ := cut_in_front hcut (by simp)
    exact holdsEscape_iff.mpr ⟨before, inner, by rw [hs]; simp⟩
  · exact fun h => h.trans (List.prefix_append _ _).isInfix

/-- A bracket behind a backslash that opens no tag stands in the text in front of the first tag or
behind that tag. -/
theorem brackets_written_cons_iff (p : Part) (parts : List Part) (last : List Char) :
    (∀ before after, written (p :: parts) last = before ++ '\\' :: '[' :: after →
        tagContent? after ≠ none) ↔
      ¬HoldsEscape p.text ∧
        ∀ before after, written parts last = before ++ '\\' :: '[' :: after →
          tagContent? after ≠ none := by
  constructor
  · intro h
    constructor
    · intro hescape
      obtain ⟨before, after, htext⟩ := holdsEscape_iff.mp hescape
      have hsplit : p.text = (before ++ ['\\']) ++ '[' :: after := by simpa using htext
      refine h before (after ++ (p.tag ++ written parts last)) ?_
        (p.untagged.tagContent?_eq_none hsplit (unclosing_tag p _))
      rw [written_cons, htext]
      simp
    · intro before after hrest
      refine h (p.text ++ (p.tag ++ before)) after ?_
      rw [written_cons, hrest]
      simp
  · rintro ⟨htext, hrest⟩ before after hcut
    have htag : ∀ rest, tagContent? (p.content ++ ']' :: rest) ≠ none := fun rest hnone => by
      rw [tagContent?_eq_some_iff.mpr ⟨rfl, p.tagText⟩] at hnone
      cases hnone
    have hwhole : (p.text ++ List.replicate p.slashes '\\') ++
        '[' :: (p.content ++ ']' :: written parts last) = (before ++ ['\\']) ++ '[' :: after := by
      rw [← List.append_cons, ← hcut, written_cons, Part.tag]
      simp
    rcases List.append_eq_append_iff.mp hwhole with ⟨inner, hbefore, hbehind⟩ | ⟨inner, hfront, hin⟩
    · cases inner with
      | nil =>
          cases hbehind
          exact htag _
      | cons c inner =>
          rw [List.cons_append] at hbehind
          obtain ⟨rfl, hbehind'⟩ := List.cons.inj hbehind
          obtain ⟨k, rfl, hk⟩ := cut_behind hbehind' p.tagText.no_open (by decide)
          rcases List.eq_nil_or_concat k with rfl | ⟨k, d, rfl⟩
          · have hends : before ++ ['\\'] =
                (p.text ++ List.replicate p.slashes '\\' ++ '[' :: p.content) ++ [']'] := by
              simpa using hbefore
            cases (List.append_inj' hends rfl).2
          · have hends : before ++ ['\\'] = (p.text ++ List.replicate p.slashes '\\' ++
                '[' :: (p.content ++ ']' :: k)) ++ [d] := by
              simpa using hbefore
            obtain rfl : '\\' = d := List.singleton_inj.mp (List.append_inj' hends rfl).2
            exact hrest k after (by rw [hk]; simp)
    · cases inner with
      | nil =>
          cases hin
          exact htag _
      | cons c inner =>
          rw [List.cons_append] at hin
          obtain ⟨rfl, -⟩ := List.cons.inj hin
          obtain ⟨k, hk, -⟩ := cut_in_front hfront (by simp)
          exact absurd (holdsEscape_iff.mpr ⟨before, k, by rw [hk]; simp⟩) htext

/-- Every bracket behind a backslash opens a tag exactly if none stands outside of the tags. -/
theorem brackets_iff (parts : List Part) {last : List Char} (hlast : Untagged last) :
    (∀ before after, written parts last = before ++ '\\' :: '[' :: after →
        tagContent? after ≠ none) ↔
      (∀ p ∈ parts, ¬HoldsEscape p.text) ∧ ¬HoldsEscape last := by
  induction parts with
  | nil =>
      rw [written_nil, holdsEscape_iff]
      constructor
      · intro h
        refine ⟨by simp, ?_⟩
        rintro ⟨before, after, rfl⟩
        exact h before after rfl (hlast (before ++ ['\\']) after (by simp))
      · rintro ⟨-, h⟩ before after hcut
        exact absurd ⟨before, after, hcut⟩ h
  | cons p parts ih =>
      rw [brackets_written_cons_iff, ih, List.forall_mem_cons, and_assoc]

theorem suffix_slashes_iff {s : List Char} {k : Nat} (h : s.getLast? ≠ some '\\') :
    ['\\', '\\'] <:+ s ++ List.replicate k '\\' ↔ 2 ≤ k := by
  match k with
  | 0 =>
      refine ⟨?_, by omega⟩
      rintro ⟨before, hs⟩
      rw [List.replicate_zero, List.append_nil] at hs
      rw [← hs] at h
      simp at h
  | 1 =>
      refine ⟨?_, by omega⟩
      rintro ⟨before, hs⟩
      have hends : (before ++ ['\\']) ++ ['\\'] = s ++ ['\\'] := by simpa using hs
      rw [← (List.append_inj' hends rfl).1] at h
      simp at h
  | k + 2 =>
      refine ⟨fun _ => by omega, fun _ => ?_⟩
      exact ⟨s ++ List.replicate k '\\', by simp [List.replicate_succ']⟩

theorem kept_iff {parts : List Part} {l : List Char} {k : Nat}
    (huntagged : Untagged (l ++ List.replicate k '\\')) (hl : l.getLast? ≠ some '\\') :
    Kept (written parts l ++ List.replicate k '\\') ↔
      ((∀ p ∈ parts, ¬HoldsEscape p.text) ∧ ¬HoldsEscape l) ∧ k ≤ 1 := by
  have hbrackets := brackets_iff parts huntagged
  rw [holdsEscape_append_slashes_iff] at hbrackets
  have hending := suffix_slashes_iff (k := k) (getLast?_written parts hl)
  rw [← hbrackets, written_append]
  constructor
  · rintro ⟨hkept, hends⟩
    rw [hending] at hends
    exact ⟨hkept, by omega⟩
  · rintro ⟨hkept, hk⟩
    exact ⟨hkept, by rw [hending]; omega⟩

/-! ## Escaped texts -/

theorem Part.shown_escaped (p : Part) :
    p.escaped.shown = dropBracketEscapes p.text ++ p.tag := by
  have hhalf : (2 * p.slashes + 1) / 2 = p.slashes := by omega
  have hodd : (2 * p.slashes + 1) % 2 = 1 := by omega
  simp only [Part.shown, Part.shownTag, Part.escaped, hhalf, hodd, if_true, Part.tag]

theorem shown_escaped_sublist (parts : List Part) (l : List Char) :
    (shown (parts.map Part.escaped) l).Sublist (written parts l) := by
  induction parts with
  | nil => exact dropBracketEscapes_sublist l
  | cons p parts ih =>
      rw [List.map_cons, shown_cons, Part.shown_escaped, written_cons, List.append_assoc]
      exact (dropBracketEscapes_sublist p.text).append ((List.Sublist.refl _).append ih)

theorem shown_escaped_eq {parts : List Part} {l : List Char}
    (hparts : ∀ p ∈ parts, ¬HoldsEscape p.text) (hl : ¬HoldsEscape l) :
    shown (parts.map Part.escaped) l = written parts l := by
  induction parts with
  | nil => exact dropBracketEscapes_eq_self hl
  | cons p parts ih =>
      obtain ⟨hp, hparts⟩ := List.forall_mem_cons.mp hparts
      rw [List.map_cons, shown_cons, Part.shown_escaped, written_cons, ih hparts,
        dropBracketEscapes_eq_self hp, List.append_assoc]

theorem marks_shown_escaped_lt {parts : List Part} {l : List Char}
    (h : ¬((∀ p ∈ parts, ¬HoldsEscape p.text) ∧ ¬HoldsEscape l)) :
    marks (shown (parts.map Part.escaped) l) < marks (written parts l) := by
  induction parts with
  | nil => exact marks_dropBracketEscapes_lt (by simpa using h)
  | cons p parts ih =>
      have htext := marks_le_of_sublist (dropBracketEscapes_sublist p.text)
      have hrest := marks_le_of_sublist (shown_escaped_sublist parts l)
      rw [List.map_cons, shown_cons, Part.shown_escaped, written_cons]
      simp only [marks_append]
      by_cases hp : HoldsEscape p.text
      · have hlost := marks_dropBracketEscapes_lt hp
        omega
      · have hlost := ih fun hall => h ⟨List.forall_mem_cons.mpr ⟨hp, hall.1⟩, hall.2⟩
        omega

end TypeGraph.Console
