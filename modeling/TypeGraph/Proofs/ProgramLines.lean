import TypeGraph.Proofs.Program

/-!
# The lines of printed bodies

Every member line of a program reads back as the member that it prints, and the lines of a printed
body are exactly its member lines.
-/

namespace TypeGraph.Program

open TypeGraph.Source TypeGraph.Text

/-! ## Embeddings -/

theorem dropStar_reference (r : Reference) : dropStar r.text = r.name.chars := by
  unfold Reference.text
  cases r.pointer with
  | true => rfl
  | false => exact dropStar_of_isName r.name.isName

theorem embedding?_reference (r : Reference) : embedding? r.text = some r.name.toString := by
  have hword : r.name.chars.all isWord = true := List.all_eq_true.mpr r.name.isName.2
  simp only [embedding?, dropStar_reference]
  rw [if_pos ⟨r.name.isName.1, hword⟩, Name.toString]

theorem embedding?_eq_none {s t : List Char} {c : Char} (hs : IsName s) (hc : isWord c = false) :
    embedding? (s ++ c :: t) = none := by
  simp only [embedding?, dropStar_append_of_isName hs]
  rw [if_neg]
  rintro ⟨-, hall⟩
  have hmem : c ∈ s ++ c :: t := List.mem_append_right s List.mem_cons_self
  rw [List.all_eq_true.mp hall c hmem] at hc
  exact Bool.noConfusion hc

/-! ## Fields -/

theorem Fragment.not_mem_tagMark (f : Fragment) : tagMark ∉ f.chars :=
  fun h => (f.plain _ h).2.2.1 rfl

theorem TypeText.avoids_blank (t : TypeText) (rest : List Char) :
    Avoids isBlank (t.chars ++ rest) :=
  (avoids_append t.ne_nil).mpr t.trimmed.1

theorem takeWhile_mark {s t : List Char} (hs : tagMark ∉ s) :
    (s ++ tagMark :: t).takeWhile (· ≠ tagMark) = s := by
  refine takeWhile_append_of_avoids ?_ (by simp)
  intro c hc
  have hne : c ≠ tagMark := fun h => hs (h ▸ hc)
  simpa using hne

theorem dropWhile_mark {s t : List Char} (hs : tagMark ∉ s) :
    (s ++ tagMark :: t).dropWhile (· ≠ tagMark) = tagMark :: t := by
  refine dropWhile_append_of_avoids ?_ (by simp)
  intro c hc
  have hne : c ≠ tagMark := fun h => hs (h ▸ hc)
  simpa using hne

theorem fieldType?_untagged (type : TypeText) : fieldType? [' '] type.chars = some type.chars := by
  have hclass : ∀ c ∈ type.chars, decide (c ≠ tagMark) = true := by
    intro c hc
    have hne : c ≠ tagMark := fun h => type.not_mem_tagMark (h ▸ hc)
    simpa using hne
  have htake := takeWhile_append_of_avoids hclass (avoids_nil _)
  have hdrop := dropWhile_append_of_avoids hclass (avoids_nil _)
  rw [List.append_nil] at htake hdrop
  simp only [fieldType?, htake, hdrop]
  simp [type.ne_nil]

theorem fieldType?_tagged (type : TypeText) (tag : Fragment) :
    fieldType? [' '] (type.chars ++ ' ' :: tagMark :: (tag.chars ++ [tagMark])) =
      some type.chars := by
  have hmark : tagMark ∉ type.chars ++ [' '] := by
    intro hmem
    rcases List.mem_append.mp hmem with hmem | hmem
    · exact type.not_mem_tagMark hmem
    · exact absurd (List.mem_singleton.mp hmem) (by decide)
  have hsplit : type.chars ++ ' ' :: tagMark :: (tag.chars ++ [tagMark]) =
      (type.chars ++ [' ']) ++ tagMark :: (tag.chars ++ [tagMark]) := by simp
  have htrim : trimEnd (type.chars ++ [' ']) = type.chars := by
    rw [trimEnd_append gap_space.2, trimEnd_of_last type.trimmed.2]
  rw [hsplit]
  simp only [fieldType?, takeWhile_mark hmark, dropWhile_mark hmark]
  simp [isTag, htrim]

theorem field?_of_gap {name text type : List Char} (hname : IsName name)
    (htext : Avoids isBlank text) (htype : fieldType? [' '] text = some type) :
    field? (name ++ ' ' :: text) = some ⟨String.ofList name, String.ofList type⟩ := by
  have hread : name? (name ++ ' ' :: text) = some (name, ' ' :: text) :=
    name?_eq_some_iff.mpr ⟨hname, rfl, avoids_cons.mpr (by decide)⟩
  have htake := takeWhile_append_of_avoids gap_space.2 htext
  have hdrop := dropWhile_append_of_avoids gap_space.2 htext
  rw [List.singleton_append] at htake hdrop
  simp [field?, hread, htake, hdrop, htype]

theorem StructLine.embedding?_text (m : StructLine) : embedding? m.text = m.embedded? := by
  cases m with
  | embedding r => exact embedding?_reference r
  | field name type tag =>
      cases tag with
      | none => exact embedding?_eq_none name.isName (by decide)
      | some tag => exact embedding?_eq_none name.isName (by decide)

theorem StructLine.field?_text (m : StructLine) :
    (if embedding? m.text = none then Source.field? m.text else none) = m.field? := by
  rw [m.embedding?_text]
  cases m with
  | embedding r => rfl
  | field name type tag =>
      rw [StructLine.embedded?, if_pos rfl]
      cases tag with
      | none =>
          have hstart := type.avoids_blank []
          rw [List.append_nil] at hstart
          exact field?_of_gap name.isName hstart (fieldType?_untagged type)
      | some tag =>
          exact field?_of_gap name.isName (type.avoids_blank _) (fieldType?_tagged type tag)

/-! ## Methods -/

theorem Fragment.not_mem_newline (f : Fragment) : '\n' ∉ f.chars := by
  intro h
  exact absurd (f.plain _ h).2.2.2 (by decide)

theorem method?_of_params {name returns : List Char} (hname : IsName name) (params : Params) :
    Source.method? (name ++ '(' :: (params.chars ++ ')' :: returns)) =
      some ⟨String.ofList name, params.toString, String.ofList (trim returns)⟩ := by
  have hread : name? (name ++ '(' :: (params.chars ++ ')' :: returns)) =
      some (name, '(' :: (params.chars ++ ')' :: returns)) :=
    name?_eq_some_iff.mpr ⟨hname, rfl, avoids_cons.mpr (by decide)⟩
  have hparams : parameters? ('(' :: (params.chars ++ ')' :: returns)) =
      some (params.chars, returns) :=
    parameters?_eq_some_iff.mpr ⟨rfl, params.oneLevel, params.not_mem_newline⟩
  simp [Source.method?, hread, hparams, methodOf, trim_of_trimmed params.trimmed,
    Fragment.toString]

theorem InterfaceLine.embedding?_text (m : InterfaceLine) : embedding? m.text = m.embedded? := by
  cases m with
  | embedding r => exact embedding?_reference r
  | method name params results =>
      cases results with
      | none => exact embedding?_eq_none name.isName (by decide)
      | some results => exact embedding?_eq_none name.isName (by decide)

theorem InterfaceLine.method?_text (m : InterfaceLine) :
    (if embedding? m.text = none then Source.method? m.text else none) = m.method? := by
  rw [m.embedding?_text]
  cases m with
  | embedding r => rfl
  | method name params results =>
      rw [InterfaceLine.embedded?, if_pos rfl]
      cases results with
      | none => exact method?_of_params name.isName params
      | some results =>
          have htrim : trim (' ' :: results.chars) = results.chars := by
            rw [← List.singleton_append, trim_append gap_space.2, trim_of_trimmed results.trimmed]
          show Source.method?
            (name.chars ++ '(' :: (params.chars ++ ')' :: ' ' :: results.chars)) = _
          rw [method?_of_params name.isName params, htrim]
          rfl

/-! ## Lines that stand alone -/

/-- A character that neither ends a line nor is a brace. -/
def Inner (c : Char) : Prop := c ≠ '{' ∧ c ≠ '}' ∧ isLineBreak c = false

instance : DecidablePred Inner := fun _ => inferInstanceAs (Decidable (_ ∧ _ ∧ _))

/-- A line of a body, as it stands between two line feeds. -/
structure StandsAlone (line : List Char) : Prop where
  ne_nil : line ≠ []
  trimmed : Trimmed line
  inner : ∀ c ∈ line, Inner c
  uncommented : Uncommented line

theorem inner_of_isWord {c : Char} (h : isWord c = true) : Inner c := by
  refine ⟨?_, ?_, ?_⟩
  · rintro rfl
    exact absurd h (by decide)
  · rintro rfl
    exact absurd h (by decide)
  · cases hbreak : isLineBreak c with
    | false => rfl
    | true =>
        have hblank := isBlank_of_isLineBreak hbreak
        rw [isBlank_eq_false_of_isWord h] at hblank
        exact Bool.noConfusion hblank

theorem Name.inner (n : Name) : ∀ c ∈ n.chars, Inner c :=
  fun c hc => inner_of_isWord (n.isName.2 c hc)

theorem Fragment.inner (f : Fragment) : ∀ c ∈ f.chars, Inner c := by
  intro c hc
  obtain ⟨hopen, hclose, -, hbreak⟩ := f.plain c hc
  exact ⟨hopen, hclose, hbreak⟩

theorem inner_append_cons {a b : List Char} {c : Char} (ha : ∀ x ∈ a, Inner x) (hc : Inner c)
    (hb : ∀ x ∈ b, Inner x) : ∀ x ∈ a ++ c :: b, Inner x := by
  intro x hx
  rcases List.mem_append.mp hx with hx | hx
  · exact ha x hx
  · rcases List.mem_cons.mp hx with rfl | hx
    · exact hc
    · exact hb x hx

theorem Name.not_mem_slash (n : Name) : '/' ∉ n.chars := n.isName.not_mem (by decide)

theorem Name.uncommented_append (n : Name) (s : List Char) :
    Uncommented (n.chars ++ s) ↔ Uncommented s :=
  uncommented_append_of_not_mem n.not_mem_slash

theorem Name.uncommented (n : Name) : Uncommented n.chars := by
  simpa using (n.uncommented_append []).mpr uncommented_nil

theorem IsName.last_not_blank {s : List Char} (h : IsName s) :
    ∀ c ∈ s.getLast?, isBlank c = false :=
  fun c hc => isBlank_eq_false_of_isWord (h.2 c (List.mem_of_getLast? hc))

theorem trimmed_append {a b : List Char} (ha : a ≠ []) (hb : b ≠ []) (hstart : Avoids isBlank a)
    (hlast : ∀ c ∈ b.getLast?, isBlank c = false) : Trimmed (a ++ b) := by
  refine ⟨(avoids_append ha).mpr hstart, ?_⟩
  intro c hc
  rw [List.getLast?_append_of_ne_nil a hb] at hc
  exact hlast c hc

theorem Reference.standsAlone (r : Reference) : StandsAlone r.text := by
  have hname := r.name.isName
  have hlast := IsName.last_not_blank hname
  unfold Reference.text
  cases r.pointer with
  | true =>
      refine ⟨by simp, ?_, ?_, ?_⟩
      · exact trimmed_append (a := ['*']) (by simp) hname.1 (avoids_cons.mpr (by decide)) hlast
      · exact inner_append_cons (a := []) (by simp) (by decide) r.name.inner
      · exact (uncommented_cons_of_ne (by decide)).mpr r.name.uncommented
  | false =>
      have hstart := hname.avoids_blank (t := [])
      rw [List.append_nil] at hstart
      exact ⟨hname.1, ⟨hstart, hlast⟩, r.name.inner, r.name.uncommented⟩

/-- A name, a character that is no part of it, and more. -/
theorem Name.standsAlone_append_cons (n : Name) {c : Char} {s : List Char} (hinner : Inner c)
    (hslash : c ≠ '/') (hlast : ∀ x ∈ (c :: s).getLast?, isBlank x = false)
    (hs : ∀ x ∈ s, Inner x) (hcomment : Uncommented s) : StandsAlone (n.chars ++ c :: s) := by
  have hstart := n.isName.avoids_blank (t := [])
  rw [List.append_nil] at hstart
  refine ⟨by simp, ?_, inner_append_cons n.inner hinner hs, ?_⟩
  · exact trimmed_append n.isName.1 (by simp) hstart hlast
  · exact (n.uncommented_append _).mpr ((uncommented_cons_of_ne hslash).mpr hcomment)

theorem StructLine.standsAlone (m : StructLine) : StandsAlone m.text := by
  cases m with
  | embedding r => exact r.standsAlone
  | field name type tag =>
      cases tag with
      | none =>
          refine name.standsAlone_append_cons (by decide) (by decide) ?_ type.inner type.uncommented
          intro c hc
          rw [← List.singleton_append, List.getLast?_append_of_ne_nil _ type.ne_nil] at hc
          exact type.trimmed.2 c hc
      | some tag =>
          refine name.standsAlone_append_cons (by decide) (by decide) ?_ ?_ ?_
          · intro c hc
            have hlast : c = tagMark := by simpa [List.getLast?_cons] using hc.symm
            rw [hlast]
            decide
          · refine inner_append_cons type.inner (by decide) ?_
            exact inner_append_cons (a := []) (by simp) (by decide)
              (inner_append_cons tag.inner (by decide) (by simp))
          · rw [uncommented_append_cons (by decide) (by decide),
              uncommented_cons_of_ne (by decide), uncommented_append_cons (by decide) (by decide)]
            exact ⟨type.uncommented, tag.uncommented, uncommented_nil⟩

theorem InterfaceLine.standsAlone (m : InterfaceLine) : StandsAlone m.text := by
  cases m with
  | embedding r => exact r.standsAlone
  | method name params results =>
      cases results with
      | none =>
          refine name.standsAlone_append_cons (by decide) (by decide) ?_ ?_ ?_
          · intro c hc
            have hlast : c = ')' := by simpa [List.getLast?_cons] using hc.symm
            rw [hlast]
            decide
          · exact inner_append_cons params.inner (by decide) (by simp)
          · rw [uncommented_append_cons (by decide) (by decide)]
            exact ⟨params.uncommented, uncommented_nil⟩
      | some results =>
          refine name.standsAlone_append_cons (by decide) (by decide) ?_ ?_ ?_
          · intro c hc
            have hsplit : '(' :: (params.chars ++ ')' :: ' ' :: results.chars) =
                ('(' :: (params.chars ++ [')', ' '])) ++ results.chars := by simp
            rw [hsplit, List.getLast?_append_of_ne_nil _ results.ne_nil] at hc
            exact results.trimmed.2 c hc
          · exact inner_append_cons params.inner (by decide)
              (inner_append_cons (a := []) (by simp) (by decide) results.inner)
          · rw [uncommented_append_cons (by decide) (by decide), uncommented_cons_of_ne (by decide)]
            exact ⟨params.uncommented, results.uncommented⟩

/-! ## The lines of a block -/

theorem lines_append_newline {l : List Char} (h : ∀ c ∈ l, isLineBreak c = false)
    (rest : List Char) : lines (l ++ '\n' :: rest) = l :: lines rest := by
  induction l with
  | nil => rfl
  | cons c l ih =>
      rw [List.cons_append, lines_cons_eq_consLine (h c List.mem_cons_self),
        ih fun x hx => h x (List.mem_cons_of_mem c hx)]
      rfl

theorem lines_flatMap_newline {ls : List (List Char)}
    (h : ∀ l ∈ ls, ∀ c ∈ l, isLineBreak c = false) : lines (ls.flatMap (· ++ ['\n'])) = ls := by
  induction ls with
  | nil => rfl
  | cons l ls ih =>
      rw [List.flatMap_cons, List.append_assoc, List.singleton_append,
        lines_append_newline (h l List.mem_cons_self),
        ih fun l' hl' => h l' (List.mem_cons_of_mem l hl')]

/-- The lines of a printed block are the lines that were printed. -/
theorem bodyLines_block {ls : List (List Char)} (h : ∀ l ∈ ls, StandsAlone l) :
    bodyLines (block ls) = ls := by
  have hlines : lines (block ls) = [] :: ls := by
    have hbreaks : ∀ l ∈ ls, ∀ c ∈ l, isLineBreak c = false :=
      fun l hl c hc => ((h l hl).inner c hc).2.2
    show lines ([] ++ '\n' :: ls.flatMap (· ++ ['\n'])) = _
    rw [lines_append_newline (by simp), lines_flatMap_newline hbreaks]
  have htrim : ls.map trim = ls := by
    conv => rhs; rw [← List.map_id ls]
    exact List.map_congr_left fun l hl => trim_of_trimmed (h l hl).trimmed
  have hne : ls.filter (· ≠ []) = ls :=
    List.filter_eq_self.mpr fun l hl => by simpa using (h l hl).ne_nil
  rw [bodyLines, hlines, List.map_cons, htrim, List.filter_cons_of_neg (by simp [trim, trimStart,
    trimEnd]), hne]

end TypeGraph.Program
