import TypeGraph.Proofs.Trimming
import TypeGraph.Settings

/-!
# Settings that were read can be read again

Settings are changed by writing them out as data, putting another format in, and reading the data by
the same rules.  This changes one field and can fail at that field only, because what a rule lets
through it lets through again and leaves as it is.  The one rule for which that is not plain to see
is upper-casing: one character may become three, and none of the three may have another upper case.
-/

namespace TypeGraph

namespace Text

/-! ## Upper case is reached in one step -/

/-- A set of numbers as the bits of one number, so that two large sets can be compared at once. -/
def bitsOf (points : List Nat) : Nat := points.foldr (fun n bits => bits ||| 1 <<< n) 0

theorem testBit_bitsOf {points : List Nat} {n : Nat} (h : n ∈ points) :
    (bitsOf points).testBit n = true := by
  induction points with
  | nil => simp at h
  | cons p points ih =>
      rw [bitsOf, List.foldr_cons, Nat.testBit_or]
      rcases List.mem_cons.mp h with rfl | h
      · simp [Nat.testBit_shiftLeft]
      · have hbit : (bitsOf points).testBit n = true := ih h
        rw [bitsOf] at hbit
        rw [hbit, Bool.true_or]

theorem not_mem_of_bitsOf {xs ys : List Nat} (h : bitsOf xs &&& bitsOf ys = 0) {n : Nat}
    (hx : n ∈ xs) : n ∉ ys := by
  intro hy
  have hbit := congrArg (Nat.testBit · n) h
  simp [testBit_bitsOf hx, testBit_bitsOf hy] at hbit

def CodeSpan.points (s : CodeSpan) : List Nat :=
  (List.range ((s.last - s.first) / s.step + 1)).map (s.first + s.step * ·)

theorem CodeSpan.mem_points {s : CodeSpan} {n : Nat} (h : s.covers n = true) : n ∈ s.points := by
  simp only [covers, Bool.and_eq_true, decide_eq_true_eq, beq_iff_eq] at h
  obtain ⟨⟨hfirst, hlast⟩, hstep⟩ := h
  refine List.mem_map.mpr ⟨(n - s.first) / s.step, ?_, ?_⟩
  · have hle : (n - s.first) / s.step ≤ (s.last - s.first) / s.step :=
      Nat.div_le_div_right (by omega)
    rw [List.mem_range]
    omega
  · have hmul := Nat.mul_div_cancel' (Nat.dvd_of_mod_eq_zero hstep)
    omega

def upperSources : List Nat :=
  upperExpansions.map (·.1) ++ upperSpans.flatMap (·.span.points)

def upperTargets : List Nat :=
  upperExpansions.flatMap (·.2) ++
    upperSpans.flatMap fun s => s.span.points.map fun n => (Int.ofNat n + s.shift).toNat

theorem not_mem_upperSources_of_mem_upperTargets {n : Nat} (h : n ∈ upperTargets) :
    n ∉ upperSources := by
  have hbits : bitsOf upperTargets &&& bitsOf upperSources = 0 := by decide +kernel
  exact not_mem_of_bitsOf hbits h

theorem toNat_ofNat_of_mem_upperTargets {n : Nat} (h : n ∈ upperTargets) :
    (Char.ofNat n).toNat = n := by
  have hvalid : ∀ m ∈ upperTargets, m.isValidChar := by decide +kernel
  rw [Char.ofNat, dif_pos (hvalid n h)]
  rfl

theorem CaseSpan.mem_of_lookup {table : List CaseSpan} {n m : Nat}
    (h : CaseSpan.lookup table n = some m) :
    n ∈ table.flatMap (·.span.points) ∧
      m ∈ table.flatMap fun s => s.span.points.map fun n => (Int.ofNat n + s.shift).toNat := by
  obtain ⟨s, hs, rfl⟩ := Option.map_eq_some_iff.mp h
  have hmem := List.mem_of_find?_eq_some hs
  have hcovers : s.span.covers n = true := by simpa using List.find?_some hs
  have hpoint : n ∈ s.span.points := CodeSpan.mem_points hcovers
  exact ⟨List.mem_flatMap.mpr ⟨s, hmem, hpoint⟩,
    List.mem_flatMap.mpr ⟨s, hmem, List.mem_map_of_mem hpoint⟩⟩

theorem mem_of_lookup_eq_some {α : Type} {table : List (Nat × α)} {n : Nat} {a : α}
    (h : table.lookup n = some a) : (n, a) ∈ table := by
  obtain ⟨front, back, rfl, -⟩ := List.lookup_eq_some_iff.mp h
  simp

theorem upperChar_of_not_mem {c : Char} (h : c.toNat ∉ upperSources) : upperChar c = [c] := by
  have hexpansion : upperExpansions.lookup c.toNat = none := by
    by_contra hsome
    obtain ⟨codes, hcodes⟩ := Option.ne_none_iff_exists'.mp hsome
    exact h (List.mem_append_left _ (List.mem_map_of_mem (mem_of_lookup_eq_some hcodes)))
  have hspan : CaseSpan.lookup upperSpans c.toNat = none := by
    by_contra hsome
    obtain ⟨m, hm⟩ := Option.ne_none_iff_exists'.mp hsome
    exact h (List.mem_append_right _ (CaseSpan.mem_of_lookup hm).1)
  rw [upperChar, hexpansion, hspan]
  rfl

/-- What stands in the upper case of a character is its own upper case. -/
theorem upperChar_of_mem_upperChar {c d : Char} (h : d ∈ upperChar c) : upperChar d = [d] := by
  have htarget : ∀ n ∈ upperTargets, upperChar (Char.ofNat n) = [Char.ofNat n] := by
    intro n hn
    apply upperChar_of_not_mem
    rw [toNat_ofNat_of_mem_upperTargets hn]
    exact not_mem_upperSources_of_mem_upperTargets hn
  cases hexpansion : upperExpansions.lookup c.toNat with
  | some codes =>
      have hself : upperChar c = codes.map Char.ofNat := by rw [upperChar, hexpansion]
      rw [hself] at h
      obtain ⟨n, hn, rfl⟩ := List.mem_map.mp h
      exact htarget n (List.mem_append_left _
        (List.mem_flatMap.mpr ⟨_, mem_of_lookup_eq_some hexpansion, hn⟩))
  | none =>
      have hself : upperChar c =
          [((CaseSpan.lookup upperSpans c.toNat).map Char.ofNat).getD c] := by
        rw [upperChar, hexpansion]
      rw [hself, List.mem_singleton] at h
      cases hspan : CaseSpan.lookup upperSpans c.toNat with
      | none =>
          rw [hspan] at h hself
          rw [h]
          exact hself
      | some n =>
          rw [hspan] at h
          rw [h]
          exact htarget n (List.mem_append_right _ (CaseSpan.mem_of_lookup hspan).2)

theorem upperCase_upperCase (s : String) : upperCase (upperCase s) = upperCase s := by
  have hagain : ∀ c : Char, (upperChar c).flatMap upperChar = upperChar c := by
    intro c
    have hmap : (upperChar c).flatMap upperChar = (upperChar c).flatMap fun d => [d] :=
      List.flatMap_congr fun d hd => upperChar_of_mem_upperChar hd
    rw [hmap]
    exact List.flatMap_singleton' _
  rw [upperCase, upperCase, String.toList_ofList, List.flatMap_assoc]
  simp only [hagain]

end Text

/-! ## Formats by name -/

section Formats

variable {name : String} {format : ImageFormat}

theorem ImageFormat.label_inj {format' : ImageFormat} :
    format.label = format'.label ↔ format = format' := by
  cases format <;> cases format' <;> decide

theorem ImageFormat.find?_label_eq_some_iff {table : List ImageFormat} :
    table.find? (·.label = name) = some format ↔ format ∈ table ∧ name = format.label := by
  constructor
  · intro h
    have hname : format.label = name := by simpa using List.find?_some h
    exact ⟨List.mem_of_find?_eq_some h, hname.symm⟩
  · rintro ⟨hmem, rfl⟩
    cases hfind : table.find? (·.label = format.label) with
    | none =>
        have hnone := List.find?_eq_none.mp hfind format hmem
        simp at hnone
    | some found =>
        have hlabel : found.label = format.label := by simpa using List.find?_some hfind
        rw [ImageFormat.label_inj.mp hlabel]

theorem ImageFormat.ofLabel?_eq_some_iff :
    ofLabel? name = some format ↔ format ∈ mediaTypes.map (·.1) ∧ name = format.label := by
  have hfind : ofLabel? name = (mediaTypes.map (·.1)).find? (·.label = name) := by
    rw [ofLabel?, List.find?_map]
    rfl
  rw [hfind, find?_label_eq_some_iff]

/-- The formats that settings may name are those that a renderer takes. -/
theorem mem_outputFormats_iff :
    format ∈ outputFormats ↔ format ∈ ImageFormat.mediaTypes.map (·.1) := by
  simp [outputFormats, ImageFormat.mediaTypes]

/-- No format is without a media type. -/
theorem ImageFormat.lookup_mediaTypes (format : ImageFormat) :
    mediaTypes.lookup format = some format.mediaType := by
  cases format <;> rfl

end Formats

namespace Settings

/-! ## Reading field by field -/

section Fields

variable {α : Type} {data : List (String × Value)} {field : SettingsField} {default : α}
  {rule : Value → Except FieldProblem α}

theorem readField_of_lookup {v : Value} (h : data.lookup field.label = some v) :
    readField data field default rule =
      match rule v with
      | .ok a => .ok a
      | .error problem => .error ⟨field, problem⟩ := by
  cases hrule : rule v with
  | ok a => simp only [readField, h, hrule]
  | error problem => simp only [readField, h, hrule]

/-- A field that was read has its default or a value that its rule lets through. -/
theorem readField_cases {a : α} (h : readField data field default rule = .ok a) :
    a = default ∨ ∃ v, rule v = .ok a := by
  rw [readField] at h
  split at h
  · cases h
    exact Or.inl rfl
  · rename_i v _
    split at h
    · rename_i hrule
      cases h
      exact Or.inr ⟨v, hrule⟩
    · cases h

end Fields

/-- The fields of some data are those of the settings. -/
structure Reads (data : List (String × Value)) (s : Settings) : Prop where
  rendererUrl : readField data .rendererUrl ({} : Settings).rendererUrl readText = .ok s.rendererUrl
  outputFormat :
    readField data .outputFormat ({} : Settings).outputFormat readFormat = .ok s.outputFormat
  theme : readField data .theme ({} : Settings).theme readOptionalText = .ok s.theme
  timeout : readField data .timeout ({} : Settings).timeout readPositive = .ok s.timeout
  logLevel : readField data .logLevel ({} : Settings).logLevel readLevel = .ok s.logLevel

theorem reads_of_ofData {data : List (String × Value)} {s : Settings} (h : ofData data = .ok s) :
    Reads data s := by
  simp only [ofData] at h
  split at h
  · rename_i hurl hformat htheme htimeout hlevel
    cases h
    exact ⟨hurl, hformat, htheme, htimeout, hlevel⟩
  · cases h

/-! ## What the rules leave behind -/

/-- Settings that the rules let through again: the format may be named, the time limit is positive
and the log level is in upper case.  Any text is an address, and any text or none a theme. -/
structure Sound (s : Settings) : Prop where
  format : s.outputFormat ∈ outputFormats
  timeout : s.timeout.isPositive = true
  logLevel : Text.upperCase s.logLevel = s.logLevel

theorem readPositive_eq (v : Value) :
    readPositive v =
      match readNumber v with
      | .ok x => if x.isPositive then .ok x else .error .notPositive
      | .error problem => .error problem := by
  rw [readPositive]
  cases readNumber v <;> rfl

theorem isPositive_of_readPositive {v : Value} {x : Binary64} (h : readPositive v = .ok x) :
    x.isPositive = true := by
  rw [readPositive_eq] at h
  split at h
  · split at h
    · rename_i hpositive
      cases h
      exact hpositive
    · cases h
  · cases h

theorem upperCase_of_readLevel {v : Value} {level : String} (h : readLevel v = .ok level) :
    Text.upperCase level = level := by
  have hmapped : ∃ text, level = Text.upperCase text := by
    unfold readLevel at h
    split at h
    · cases h
    · cases hdisplayed : displayed v with
      | error problem =>
          rw [hdisplayed] at h
          cases h
      | ok text =>
          rw [hdisplayed] at h
          cases h
          exact ⟨text, rfl⟩
  obtain ⟨text, rfl⟩ := hmapped
  exact Text.upperCase_upperCase text

theorem readFormat_eq_ok_iff {f : Value} {format : ImageFormat} :
    readFormat f = .ok format ↔
      format ∈ outputFormats ∧
        ∃ text, displayed f = .ok text ∧ Text.lowerCase text = format.label := by
  cases hdisplayed : displayed f with
  | error problem =>
      have hread : readFormat f = .error problem := by
        rw [readFormat, hdisplayed]
        rfl
      rw [hread]
      simp
  | ok text =>
      simp only [Except.ok.injEq, exists_eq_left']
      rw [← ImageFormat.find?_label_eq_some_iff]
      cases hfind : outputFormats.find? (·.label = Text.lowerCase text) with
      | none => simp [readFormat, hdisplayed, hfind, bind, Except.bind, throw, throwThe,
          MonadExceptOf.throw]
      | some format => simp [readFormat, hdisplayed, hfind, bind, Except.bind, pure, Except.pure]

theorem Reads.sound {data : List (String × Value)} {s : Settings} (h : Reads data s) :
    s.Sound := by
  refine ⟨?_, ?_, ?_⟩
  · rcases readField_cases h.outputFormat with hdefault | ⟨v, hv⟩
    · rw [hdefault]
      decide
    · exact (readFormat_eq_ok_iff.mp hv).1
  · rcases readField_cases h.timeout with hdefault | ⟨v, hv⟩
    · rw [hdefault]
      decide +kernel
    · exact isPositive_of_readPositive hv
  · rcases readField_cases h.logLevel with hdefault | ⟨v, hv⟩
    · rw [hdefault]
      decide +kernel
    · exact upperCase_of_readLevel hv

/-! ## Reading settings again -/

def value (s : Settings) : SettingsField → Value
  | .rendererUrl => .text s.rendererUrl
  | .outputFormat => .text s.outputFormat.label
  | .theme => (s.theme.map Value.text).getD .null
  | .timeout => .real s.timeout
  | .logLevel => .text s.logLevel

theorem lookup_toData (s : Settings) (field : SettingsField) :
    s.toData.lookup field.label = some (s.value field) := by
  cases field <;> rfl

theorem lookup_override (s : Settings) (f : Value) {field : SettingsField}
    (h : field ≠ .outputFormat) :
    ((SettingsField.outputFormat.label, f) :: s.toData).lookup field.label =
      some (s.value field) := by
  cases field with
  | outputFormat => exact absurd rfl h
  | rendererUrl | theme | timeout | logLevel => rfl

theorem readOptionalText_value (theme : Option String) :
    readOptionalText ((theme.map Value.text).getD .null) = .ok theme := by
  cases theme <;> rfl

theorem readPositive_real {x : Binary64} (h : x.isPositive = true) :
    readPositive (.real x) = .ok x := by
  rw [readPositive_eq]
  exact if_pos h

theorem readLevel_text {level : String} (h : Text.upperCase level = level) :
    readLevel (.text level) = .ok level := by
  show Except.ok (Text.upperCase level) = .ok level
  rw [h]

theorem readFormat_label {format : ImageFormat} (h : format ∈ outputFormats) :
    readFormat (.text format.label) = .ok format := by
  have hlower : Text.lowerCase format.label = format.label := by
    cases format <;> decide +kernel
  exact readFormat_eq_ok_iff.mpr ⟨h, format.label, rfl, hlower⟩

/-- Sound settings are read again from data that holds their fields, but for the format, which is
read from whatever stands there. -/
theorem Sound.ofData_of_lookup {s : Settings} (h : s.Sound) {data : List (String × Value)}
    {f : Value} (hformat : data.lookup SettingsField.outputFormat.label = some f)
    (hothers : ∀ field, field ≠ .outputFormat → data.lookup field.label = some (s.value field)) :
    ofData data =
      match readFormat f with
      | .ok format => .ok { s with outputFormat := format }
      | .error problem => .error [⟨.outputFormat, problem⟩] := by
  simp only [ofData, readField_of_lookup hformat, readField_of_lookup (hothers .rendererUrl nofun),
    readField_of_lookup (hothers .theme nofun), readField_of_lookup (hothers .timeout nofun),
    readField_of_lookup (hothers .logLevel nofun), value, readText, readOptionalText_value,
    readPositive_real h.timeout, readLevel_text h.logLevel]
  cases readFormat f <;> rfl

theorem Sound.ofData_toData {s : Settings} (h : s.Sound) : ofData s.toData = .ok s := by
  have hself : readFormat (s.value .outputFormat) = .ok s.outputFormat :=
    readFormat_label h.format
  rw [h.ofData_of_lookup (s.lookup_toData .outputFormat) fun field _ => s.lookup_toData field,
    hself]

theorem Sound.withFormat_eq {s : Settings} (h : s.Sound) (f : Value) :
    s.withFormat f =
      match readFormat f with
      | .ok format => .ok { s with outputFormat := format }
      | .error problem => .error [⟨.outputFormat, problem⟩] :=
  h.ofData_of_lookup rfl fun _ hfield => s.lookup_override f hfield

/-- A renderer takes the format of settings, because the two tables agree. -/
theorem Sound.ofLabel_renderer {s : Settings} (h : s.Sound) :
    Renderer.ofLabel s.rendererUrl s.outputFormat.label s.theme = .ok s.renderer := by
  have hlabel : ImageFormat.ofLabel? s.outputFormat.label = some s.outputFormat :=
    ImageFormat.ofLabel?_eq_some_iff.mpr ⟨mem_outputFormats_iff.mp h.format, rfl⟩
  rw [Renderer.ofLabel, hlabel]
  rfl

/-- **Settings that were read are a fixed point, and another format touches one field.**  A renderer
can be built from them, and their data is read as these settings again.  With any value put in as
the format, reading succeeds exactly if that value displays as the name of a format in any case;
then that is the format and no other field changes, and otherwise the format is the one field that
is reported. -/
theorem ofData_again {data : List (String × Value)} {s : Settings} (h : ofData data = .ok s) :
    Renderer.ofLabel s.rendererUrl s.outputFormat.label s.theme = .ok s.renderer ∧
    ofData s.toData = .ok s ∧
    ∀ f : Value,
      ((∃ t, s.withFormat f = .ok t) ↔
        ∃ text, displayed f = .ok text ∧
          (Text.lowerCase text = "svg" ∨ Text.lowerCase text = "png")) ∧
      (∀ t, s.withFormat f = .ok t →
        t.rendererUrl = s.rendererUrl ∧ t.theme = s.theme ∧ t.timeout = s.timeout ∧
          t.logLevel = s.logLevel ∧
          ∃ text, displayed f = .ok text ∧ t.outputFormat.label = Text.lowerCase text) ∧
      ∀ errors, s.withFormat f = .error errors →
        ∃ problem, errors = [⟨.outputFormat, problem⟩] := by
  have hsound := (reads_of_ofData h).sound
  refine ⟨hsound.ofLabel_renderer, hsound.ofData_toData, fun f => ?_⟩
  have hoverride := hsound.withFormat_eq f
  cases hread : readFormat f with
  | ok format =>
      obtain ⟨-, text, hdisplayed, hlower⟩ := readFormat_eq_ok_iff.mp hread
      rw [hread] at hoverride
      refine ⟨⟨fun _ => ⟨text, hdisplayed, ?_⟩, fun _ => ⟨_, hoverride⟩⟩, ?_, ?_⟩
      · rw [hlower]
        cases format
        · exact Or.inl rfl
        · exact Or.inr rfl
      · intro t ht
        rw [hoverride] at ht
        cases ht
        exact ⟨rfl, rfl, rfl, rfl, text, hdisplayed, hlower.symm⟩
      · intro errors herrors
        rw [hoverride] at herrors
        cases herrors
  | error problem =>
      rw [hread] at hoverride
      refine ⟨⟨?_, ?_⟩, ?_, ?_⟩
      · rintro ⟨t, ht⟩
        rw [hoverride] at ht
        cases ht
      · rintro ⟨text, hdisplayed, hname⟩
        have hformat : ∃ format ∈ outputFormats, Text.lowerCase text = format.label := by
          rcases hname with hsvg | hpng
          · exact ⟨.svg, by decide, hsvg⟩
          · exact ⟨.png, by decide, hpng⟩
        obtain ⟨format, hmem, hlower⟩ := hformat
        rw [readFormat_eq_ok_iff.mpr ⟨hmem, text, hdisplayed, hlower⟩] at hread
        cases hread
      · intro t ht
        rw [hoverride] at ht
        cases ht
      · intro errors herrors
        rw [hoverride] at herrors
        cases herrors
        exact ⟨problem, rfl⟩

/-- No theme, no end to waiting, and a level that is longer in upper case. -/
theorem ofData_again_strasse :
    ∃ s, ofData [("theme", .null), ("timeout", .text "inf"), ("log_level", .text "straße")] =
        .ok s ∧
      s.theme = none ∧ s.timeout = .infinite false ∧ s.logLevel = "STRASSE" ∧
      ofData s.toData = .ok s ∧ (∃ t, s.withFormat (.text "PNG") = .ok t) ∧
      ¬ ∃ t, s.withFormat (.text "gif") = .ok t := by
  have h : ofData [("theme", .null), ("timeout", .text "inf"), ("log_level", .text "straße")] =
      .ok ⟨"https://mermaid.ink", .svg, none, .infinite false, "STRASSE"⟩ := by
    decide +kernel
  obtain ⟨-, hagain, hoverride⟩ := ofData_again h
  refine ⟨_, h, rfl, rfl, rfl, hagain, ?_, ?_⟩
  · exact (hoverride (.text "PNG")).1.mpr ⟨"PNG", rfl, Or.inr (by decide +kernel)⟩
  · rw [(hoverride (.text "gif")).1]
    rintro ⟨text, hdisplayed, hname⟩
    cases hdisplayed
    exact absurd hname (by decide +kernel)

end Settings

end TypeGraph
