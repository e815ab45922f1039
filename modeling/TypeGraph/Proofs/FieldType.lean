import TypeGraph.Proofs.Legible
import TypeGraph.Proofs.NoMatch
import TypeGraph.Proofs.ProgramLines

/-!
# The types of fields

The type of a field is the text between its name and its tag.  It is never empty and holds no tag
mark, and where there is such a text it has no blanks around it.  A name with a tag and no type is
no field if one blank divides the two; if there are more, the last of them is taken for the type.
-/

namespace TypeGraph.Source

open TypeGraph.Text

structure IsTypeText (s : List Char) : Prop where
  ne_nil : s ≠ []
  trimmed : Trimmed s
  unmarked : tagMark ∉ s

/-- A tag: two marks and the text between them. -/
def IsTag (s : List Char) : Prop := ∃ inner, s = tagMark :: (inner ++ [tagMark])

/-- A name and a tag, with at least two blanks and nothing else between them. -/
def TaggedAlone (line : List Char) : Prop :=
  ∃ name gap tag, IsName name ∧ AllBlank gap ∧ 2 ≤ gap.length ∧ IsTag tag ∧
    line = name ++ (gap ++ tag)

/-! ## The type behind a name -/

theorem isTag_cons_iff {rest : List Char} :
    isTag (tagMark :: rest) = true ↔ IsTag (tagMark :: rest) := by
  simp [isTag, IsTag, List.getLast?_eq_some_iff]

theorem fieldType?_of_unmarked {gap text : List Char} (h : tagMark ∉ text) :
    fieldType? gap text = if gap = [] ∨ text = [] then none else some text := by
  have hclass : ∀ c ∈ text, decide (c ≠ tagMark) = true := by
    intro c hc
    have hne : c ≠ tagMark := fun heq => h (heq ▸ hc)
    simpa using hne
  simp only [fieldType?, List.takeWhile_eq_self_iff.mpr hclass,
    List.dropWhile_eq_nil_iff.mpr hclass]
  by_cases hgap : gap = [] <;> by_cases htext : text = [] <;> simp [hgap, htext]

theorem fieldType?_of_marked {gap before rest : List Char} (h : tagMark ∉ before) :
    fieldType? gap (before ++ tagMark :: rest) =
      if gap = [] ∨ isTag (tagMark :: rest) = false then none
      else if before ≠ [] then some (trimEnd before)
      else if 2 ≤ gap.length then gap.getLast?.map ([·]) else none := by
  simp only [fieldType?, Program.takeWhile_mark h, Program.dropWhile_mark h]
  by_cases hgap : gap = []
  · simp [hgap]
  · by_cases htag : isTag (tagMark :: rest) = true <;> simp [hgap, htag]

/-- **The type of a field**: a text without a tag mark; the text in front of a tag, without the
blanks in between; or else, with the tag right behind two or more blanks, the last of these. -/
theorem fieldType?_eq_some_iff {gap text type : List Char} :
    fieldType? gap text = some type ↔
      (gap ≠ [] ∧ text ≠ [] ∧ tagMark ∉ text ∧ type = text) ∨
      (gap ≠ [] ∧ ∃ before tag, text = before ++ tag ∧ before ≠ [] ∧ tagMark ∉ before ∧
        IsTag tag ∧ type = trimEnd before) ∨
      (2 ≤ gap.length ∧ IsTag text ∧ ∃ c, gap.getLast? = some c ∧ type = [c]) := by
  by_cases hmark : tagMark ∈ text
  · obtain ⟨before, rest, rfl, hbefore⟩ := List.eq_append_cons_of_mem hmark
    have hcut : ∀ {a tag}, before ++ tagMark :: rest = a ++ tag → tagMark ∉ a → IsTag tag →
        before = a ∧ tagMark :: rest = tag := by
      rintro a _ heq ha ⟨inner, rfl⟩
      obtain ⟨rfl, rfl⟩ := cut_unique heq hbefore ha
      exact ⟨rfl, rfl⟩
    rw [fieldType?_of_marked hbefore]
    constructor
    · intro h
      split at h
      · exact absurd h (by simp)
      · rename_i htag
        rw [not_or, Bool.not_eq_false, isTag_cons_iff] at htag
        right
        split at h
        · rename_i hne
          left
          exact ⟨htag.1, before, _, rfl, hne, hbefore, htag.2, (Option.some.inj h).symm⟩
        · rename_i hnil
          obtain rfl : before = [] := not_not.mp hnil
          right
          split at h
          · rename_i hlength
            obtain ⟨c, hc, rfl⟩ := Option.map_eq_some_iff.mp h
            exact ⟨hlength, htag.2, c, hc, rfl⟩
          · exact absurd h (by simp)
    · rintro (⟨-, -, hnot, -⟩ | ⟨hgap, a, tag, heq, hne, ha, htag, rfl⟩ |
        ⟨hlength, htag, c, hc, rfl⟩)
      · exact absurd hmark hnot
      · obtain ⟨rfl, rfl⟩ := hcut heq ha htag
        rw [if_neg, if_pos hne]
        rw [not_or, Bool.not_eq_false, isTag_cons_iff]
        exact ⟨hgap, htag⟩
      · obtain ⟨rfl, -⟩ := hcut (a := []) rfl (by simp) htag
        have hgap : gap ≠ [] := by
          rintro rfl
          exact absurd hlength (by simp)
        rw [if_neg, if_neg (by simp), if_pos hlength, hc]
        · rfl
        · rw [not_or, Bool.not_eq_false, isTag_cons_iff]
          exact ⟨hgap, htag⟩
  · rw [fieldType?_of_unmarked hmark]
    constructor
    · intro h
      split at h
      · exact absurd h (by simp)
      · rename_i hsome
        rw [not_or] at hsome
        exact Or.inl ⟨hsome.1, hsome.2, hmark, (Option.some.inj h).symm⟩
    · rintro (⟨hgap, htext, -, rfl⟩ | ⟨-, a, _, rfl, -, -, ⟨inner, rfl⟩, -⟩ |
        ⟨-, ⟨inner, rfl⟩, -⟩)
      · rw [if_neg (by simp [hgap, htext])]
      · exact absurd (by simp) hmark
      · exact absurd (by simp) hmark

theorem field?_eq_some_iff {line : List Char} {f : Field} :
    field? line = some f ↔
      ∃ name gap text type, IsName name ∧ AllBlank gap ∧ Avoids isBlank text ∧
        line = name ++ (gap ++ text) ∧ fieldType? gap text = some type ∧
        f = ⟨String.ofList name, String.ofList type⟩ := by
  simp only [field?, Option.bind_eq_bind, Option.bind_eq_some_iff, Prod.exists, Option.pure_def,
    Option.some.injEq, name?_eq_some_iff]
  constructor
  · rintro ⟨name, rest, ⟨hname, rfl, -⟩, type, htype, rfl⟩
    refine ⟨name, _, _, type, hname, ?_, avoids_dropWhile isBlank rest, ?_, htype, rfl⟩
    · intro c hc
      exact List.mem_takeWhile_imp hc
    · rw [List.takeWhile_append_dropWhile]
  · rintro ⟨name, gap, text, type, hname, hgap, htext, rfl, htype, rfl⟩
    have hne : gap ≠ [] := by
      rintro rfl
      exact absurd htype (by simp [fieldType?])
    refine ⟨name, gap ++ text, ⟨hname, rfl, hgap.avoids_word hne⟩, type, ?_, rfl⟩
    rw [takeWhile_append_of_avoids hgap htext, dropWhile_append_of_avoids hgap htext]
    exact htype

/-! ## Fields of lines -/

/-- A field has a type, unless its line is a name and a tag apart. -/
theorem isTypeText_of_field? {line : List Char} (hline : Trimmed line) {f : Field}
    (h : field? line = some f) :
    IsTypeText f.type.toList ∨
      (TaggedAlone line ∧ ∃ c, isBlank c = true ∧ f.type.toList = [c]) := by
  obtain ⟨name, gap, text, type, hname, hgap, htext, rfl, htype, rfl⟩ := field?_eq_some_iff.mp h
  simp only [String.toList_ofList]
  rcases fieldType?_eq_some_iff.mp htype with ⟨-, hne, hmark, rfl⟩ |
    ⟨-, before, tag, rfl, hne, hmark, -, rfl⟩ | ⟨hlength, htag, c, hc, rfl⟩
  · left
    refine ⟨hne, ⟨htext, ?_⟩, hmark⟩
    rw [← List.append_assoc] at hline
    intro c hc
    refine hline.2 c ?_
    rwa [List.getLast?_append_of_ne_nil _ hne]
  · left
    have hstart : Avoids isBlank before := (avoids_append hne).mp htext
    refine ⟨trimEnd_ne_nil hstart hne, trimmed_trimEnd hstart, ?_⟩
    exact fun hmem => hmark ((trimEnd_isPrefix before).subset hmem)
  · right
    exact ⟨⟨name, gap, text, hname, hgap, hlength, htag, rfl⟩, c,
      hgap c (List.mem_of_getLast? hc), rfl⟩

theorem TaggedAlone.embedding?_eq_none {line : List Char} (h : TaggedAlone line) :
    embedding? line = none := by
  obtain ⟨name, gap, tag, hname, hgap, hlength, -, rfl⟩ := h
  cases gap with
  | nil => exact absurd hlength (by simp)
  | cons c gap =>
      exact Program.embedding?_eq_none hname (isWord_eq_false_of_isBlank (hgap c List.mem_cons_self))

/-- A name and a tag apart make a field without a type. -/
theorem TaggedAlone.exists_field? {line : List Char} (h : TaggedAlone line) :
    ∃ f, field? line = some f ∧ ¬ IsTypeText f.type.toList := by
  obtain ⟨name, gap, tag, hname, hgap, hlength, htag, rfl⟩ := h
  have hne : gap ≠ [] := by
    rintro rfl
    exact absurd hlength (by simp)
  obtain ⟨c, hc⟩ : ∃ c, gap.getLast? = some c :=
    ⟨gap.getLast hne, List.getLast?_eq_some_getLast hne⟩
  have htext : Avoids isBlank tag := by
    obtain ⟨inner, rfl⟩ := htag
    exact avoids_cons.mpr (by decide)
  refine ⟨_, field?_eq_some_iff.mpr ⟨name, gap, tag, [c], hname, hgap, htext, rfl,
    fieldType?_eq_some_iff.mpr (Or.inr (Or.inr ⟨hlength, htag, c, hc, rfl⟩)), rfl⟩, ?_⟩
  intro htype
  have hblank := htype.trimmed.1 c (by simp)
  rw [hgap c (List.mem_of_getLast? hc)] at hblank
  exact Bool.noConfusion hblank

theorem trimmed_of_mem_bodyLines {body line : List Char} (h : line ∈ bodyLines body) :
    Trimmed line := by
  obtain ⟨hmem, -⟩ := List.mem_filter.mp h
  obtain ⟨l, -, rfl⟩ := List.mem_map.mp hmem
  exact trimmed_trim l

end TypeGraph.Source

namespace TypeGraph

open TypeGraph.Source TypeGraph.Text

/-- The fields of a graph are the fields of the lines of its struct bodies. -/
theorem Graph.exists_mem_fields_iff {source : String} {f : Field} :
    (∃ e ∈ (Graph.ofSource source).entities, f ∈ e.fields) ↔
      ∃ d ∈ declarations (stripComments source.toList), d.keyword = .struct ∧
        ∃ line ∈ bodyLines d.body, embedding? line = none ∧ field? line = some f := by
  have hcontents : ∀ d : Declaration, f ∈ d.contents.fields ↔ d.keyword = .struct ∧
      ∃ line ∈ bodyLines d.body, embedding? line = none ∧ field? line = some f := by
    intro d
    cases hkeyword : d.keyword <;>
      simp [Declaration.contents, hkeyword, otherLines, List.mem_filterMap, and_assoc]
  rw [Graph.entities_ofSource]
  constructor
  · rintro ⟨e, he, hf⟩
    obtain ⟨name, -, rfl⟩ := List.mem_map.mp he
    obtain ⟨c, hc, hf⟩ := List.mem_flatMap.mp hf
    obtain ⟨d, hd, rfl⟩ := List.mem_map.mp (List.mem_filter.mp hc).1
    exact ⟨d, hd, (hcontents d).mp hf⟩
  · rintro ⟨d, hd, hf⟩
    have hdeclared : d.contents ∈ (Inventory.ofSource source).declared := List.mem_map_of_mem hd
    have hname : d.contents.name ∈ (Inventory.ofSource source).names :=
      Inventory.mem_names.mpr (Or.inl ⟨_, hdeclared, Or.inl rfl⟩)
    refine ⟨_, List.mem_map_of_mem hname, List.mem_flatMap.mpr ⟨d.contents, ?_, ?_⟩⟩
    · exact List.mem_filter.mpr ⟨hdeclared, by simp⟩
    · exact (hcontents d).mpr hf

/-- **When all fields have a type.**  Every field of a source text has a type exactly if no line of
a struct body is a name and a tag with two or more blanks between them.  A field of such a line has
a single blank for its type, so that a type is never empty and never holds a tag mark. -/
theorem Graph.fields_typed_iff (source : String) :
    ((∀ e ∈ (Graph.ofSource source).entities, ∀ f ∈ e.fields, IsTypeText f.type.toList) ↔
      ∀ d ∈ declarations (stripComments source.toList), d.keyword = .struct →
        ∀ line ∈ bodyLines d.body, ¬ TaggedAlone line) ∧
    ∀ e ∈ (Graph.ofSource source).entities, ∀ f ∈ e.fields,
      f.type.toList ≠ [] ∧ tagMark ∉ f.type.toList ∧
        (IsTypeText f.type.toList ∨ ∃ c, isBlank c = true ∧ f.type.toList = [c]) := by
  have hline : ∀ e ∈ (Graph.ofSource source).entities, ∀ f ∈ e.fields,
      ∃ d ∈ declarations (stripComments source.toList), d.keyword = .struct ∧
        ∃ line ∈ bodyLines d.body, IsTypeText f.type.toList ∨
          (TaggedAlone line ∧ ∃ c, isBlank c = true ∧ f.type.toList = [c]) := by
    intro e he f hf
    obtain ⟨d, hd, hstruct, line, hmem, -, hfield⟩ :=
      Graph.exists_mem_fields_iff.mp ⟨e, he, hf⟩
    exact ⟨d, hd, hstruct, line, hmem, isTypeText_of_field? (trimmed_of_mem_bodyLines hmem) hfield⟩
  refine ⟨⟨?_, ?_⟩, ?_⟩
  · intro hall d hd hstruct line hmem halone
    obtain ⟨f, hfield, hnot⟩ := halone.exists_field?
    obtain ⟨e, he, hf⟩ := Graph.exists_mem_fields_iff.mpr
      ⟨d, hd, hstruct, line, hmem, halone.embedding?_eq_none, hfield⟩
    exact hnot (hall e he f hf)
  · intro hnone e he f hf
    obtain ⟨d, hd, hstruct, line, hmem, htype | ⟨halone, -⟩⟩ := hline e he f hf
    · exact htype
    · exact absurd halone (hnone d hd hstruct line hmem)
  · intro e he f hf
    obtain ⟨d, -, -, line, -, htype | ⟨-, c, hc, hlist⟩⟩ := hline e he f hf
    · exact ⟨htype.ne_nil, htype.unmarked, Or.inl htype⟩
    · refine ⟨by simp [hlist], ?_, Or.inr ⟨c, hc, hlist⟩⟩
      rw [hlist, List.mem_singleton]
      rintro rfl
      exact absurd hc (by decide)

/-- An embedded type with a tag two blanks behind it is recorded as a field of type blank, and with
one blank it is not recorded. -/
theorem Graph.not_typed_taggedBase :
    let source := "type Shape struct \x7b\n\tBase  \x60json\x60\n\tSide \x60json\x60\n\x7d\n"
    (Graph.ofSource source).entities =
        [{ name := "Shape", fields := [⟨"Base", " "⟩], declared := true }] ∧
      ¬ ∀ e ∈ (Graph.ofSource source).entities, ∀ f ∈ e.fields, IsTypeText f.type.toList := by
  intro source
  refine ⟨by decide +kernel, ?_⟩
  rw [(Graph.fields_typed_iff source).1]
  intro hnone
  have hbody : (⟨"Shape", .struct, "\n\tBase  \x60json\x60\n\tSide \x60json\x60\n".toList⟩ :
      Declaration) ∈ declarations (stripComments source.toList) := by decide +kernel
  have hmem : "Base  \x60json\x60".toList ∈
      bodyLines "\n\tBase  \x60json\x60\n\tSide \x60json\x60\n".toList := by decide +kernel
  have hname : IsName "Base".toList := ⟨by simp, forall_mem_of_all (by decide)⟩
  have hgap : AllBlank [' ', ' '] := forall_mem_of_all (by decide)
  refine hnone _ hbody rfl _ hmem ⟨"Base".toList, [' ', ' '], _, hname, hgap, by simp,
    ⟨"json".toList, rfl⟩, ?_⟩
  decide +kernel

end TypeGraph
