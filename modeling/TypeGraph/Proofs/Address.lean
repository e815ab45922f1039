import Mathlib.Data.List.TakeWhile
import TypeGraph.Proofs.Trimming
import TypeGraph.Settings

/-!
# Addresses on the rendering server

The text of a diagram is written into the path of an address.  The letters of base 64 stand in a
path as they are, and none of them is a dot, so the address that is asked for is the one that was
written: nothing in it is escaped, no segment is removed.  What is left to go wrong is its length,
which grows with the text of the diagram; `target_standing` says exactly when it does.
-/

namespace TypeGraph

/-! ## The length of a diagram in base 64 -/

theorem length_byteList (bytes : ByteArray) (i : Nat) (done : List UInt8) :
    (ByteArray.toList.loop bytes i done).length = done.length + (bytes.size - i) := by
  fun_induction ByteArray.toList.loop bytes i done with
  | case1 i done hlt ih =>
      rw [ih, List.length_cons]
      omega
  | case2 i done hge =>
      rw [List.length_reverse]
      omega

theorem Utf8.length_encode (s : String) : (Utf8.encode s).length = s.utf8ByteSize := by
  rw [Utf8.encode, ByteArray.toList, length_byteList]
  simp

theorem length_le_utf8ByteSize (s : List Char) : s.length ≤ (String.ofList s).utf8ByteSize := by
  induction s with
  | nil => exact Nat.zero_le _
  | cons c s ih =>
      have hcons : String.ofList (c :: s) = String.singleton c ++ String.ofList s := by simp
      have hpos := c.utf8Size_pos
      rw [hcons, String.utf8ByteSize_append, String.utf8ByteSize_singleton, List.length_cons]
      omega

namespace Base64.Alphabet

theorem length_encode (a : Alphabet) (bytes : List UInt8) :
    (a.encode bytes).length = 4 * ((bytes.length + 2) / 3) := by
  fun_induction a.encode bytes with
  | case1 => rfl
  | case2 | case3 => simp
  | case4 x y z rest ih =>
      simp only [List.length_cons, ih]
      omega

/-- What holds of the characters of an alphabet and of the padding holds of every text in it. -/
theorem forall_mem_encode {p : Char → Prop} {a : Alphabet} (hchar : ∀ n < 64, p (a.char n))
    (hpad : p '=') (bytes : List UInt8) : ∀ c ∈ a.encode bytes, p c := by
  fun_induction a.encode bytes with
  | case1 => simp
  | case2 x =>
      have hx := x.toNat_lt
      simp only [List.forall_mem_cons]
      exact ⟨hchar _ (by omega), hchar _ (by omega), hpad, hpad, by simp⟩
  | case3 x y =>
      have hx := x.toNat_lt
      have hy := y.toNat_lt
      simp only [List.forall_mem_cons]
      exact ⟨hchar _ (by omega), hchar _ (by omega), hchar _ (by omega), hpad, by simp⟩
  | case4 x y z rest ih =>
      have hx := x.toNat_lt
      have hy := y.toNat_lt
      have hz := z.toNat_lt
      simp only [List.forall_mem_cons]
      exact ⟨hchar _ (by omega), hchar _ (by omega), hchar _ (by omega), hchar _ (by omega), ih⟩

end Base64.Alphabet

/-! ## Paths that stay as they are -/

theorem mem_intercalate {α : Type} {gap piece : List α} {c : α} (hc : c ∈ piece) :
    ∀ {pieces : List (List α)}, piece ∈ pieces → c ∈ gap.intercalate pieces
  | [first], h => by
      rw [List.mem_singleton] at h
      rwa [List.intercalate_singleton, ← h]
  | first :: second :: rest, h => by
      rw [List.intercalate_cons_cons, List.append_assoc, List.mem_append, List.mem_append]
      rcases List.mem_cons.mp h with rfl | h
      · exact Or.inl hc
      · exact Or.inr (Or.inr (mem_intercalate hc h))

namespace Url

theorem escape_of_safe {isSafe : Char → Bool} {s : List Char} (h : ∀ c ∈ s, isSafe c) :
    escape isSafe s = String.ofList s := by
  have hself : s.flatMap (fun c =>
      if isSafe c then [c] else (Utf8.encode (String.singleton c)).flatMap escapeByte) = s := by
    induction s with
    | nil => rfl
    | cons c s ih =>
        rw [List.flatMap_cons, if_pos (h c List.mem_cons_self),
          ih fun c hc => h c (List.mem_cons_of_mem _ hc)]
        rfl
  rw [escape, hself]

theorem removeDots_of_dotless {segments : List (List Char)} (h : ∀ s ∈ segments, '.' ∉ s)
    (done : List (List Char)) : removeDots done segments = done.reverse ++ segments := by
  fun_induction removeDots done segments with
  | case1 => simp
  | case2 | case3 => simp at h
  | case4 done s rest _ _ ih =>
      rw [ih fun s hs => h s (List.mem_cons_of_mem _ hs)]
      simp

theorem normalizePath_of_dotless {path : List Char} (h : '.' ∉ path) :
    normalizePath path = path := by
  have hjoin : ['/'].intercalate (path.splitOn '/') = path := List.intercalate_splitOn '/'
  have hsegments : ∀ segment ∈ path.splitOn '/', '.' ∉ segment := by
    intro segment hsegment hdot
    apply h
    rw [← hjoin]
    exact mem_intercalate hdot hsegment
  rw [normalizePath, removeDots_of_dotless hsegments]
  exact hjoin

theorem isVisible_of_isPathChar {c : Char} (h : isPathChar c) : isVisible c := by
  simp only [isPathChar, isQueryChar, Bool.and_eq_true] at h
  exact h.1.1.1.1.1.1.1.1

theorem firstControl?_eq_none {s : List Char} (h : ∀ c ∈ s, isVisible c) :
    firstControl? s = none := by
  rw [firstControl?, List.find?_eq_none]
  rintro ⟨c, i⟩ hmem
  have hc := h c (List.fst_mem_of_mem_zipIdx hmem)
  simp only [isVisible, Bool.and_eq_true, decide_eq_true_eq] at hc
  simp only [Bool.or_eq_true, decide_eq_true_eq]
  omega

/-- A text that stands in a path as it is: no character is escaped, and no segment has a dot. -/
def IsPlain (s : List Char) : Prop := ∀ c ∈ s, isPathChar c ∧ c ≠ '.'

theorem IsPlain.slash_cons {path : List Char} (h : IsPlain path) : IsPlain ('/' :: path) := by
  rintro c (_ | ⟨_, hc⟩)
  · decide
  · exact h c hc

theorem IsPlain.isVisible {path : List Char} (h : IsPlain path) : ∀ c ∈ path, isVisible c :=
  fun c hc => isVisible_of_isPathChar (h c hc).1

theorem IsPlain.ne_marks {path : List Char} (h : IsPlain path) :
    ∀ c ∈ path, (c ≠ '?' && c ≠ '#') = true := by
  intro c hc
  have hsafe := (h c hc).1
  simp only [isPathChar, isQueryChar, Bool.and_eq_true] at hsafe
  rw [hsafe.1.1.1.2, hsafe.1.1.1.1.1.1.2, Bool.and_self]

theorem IsPlain.not_mem_hash {path : List Char} (h : IsPlain path) : '#' ∉ path :=
  fun hmem => absurd (h.ne_marks '#' hmem) (by decide)

/-! ## The server -/

def serverText : List Char := "https://mermaid.ink/".toList

theorem length_serverText : serverText.length = 20 := by decide

def atServer (path : List Char) (query : Option String) : Url where
  scheme := "https"
  host := "mermaid.ink"
  path := String.ofList ('/' :: path)
  query := query

theorem authority_atServer (path : List Char) (query : Option String) :
    (atServer path query).authority = "mermaid.ink" := by
  simp [authority, place, atServer]

theorem ofText_of_isPlain {path : List Char} (h : IsPlain path) :
    Written.ofText (serverText ++ path) =
      { scheme := "https".toList, authority := "mermaid.ink".toList, path := '/' :: path } := by
  have hwritten : Written.ofText (serverText ++ path) =
      { scheme := "https".toList
        authority := "mermaid.ink".toList
        path := ('/' :: path).takeWhile fun c => c ≠ '?' && c ≠ '#'
        query := (behindMark '?' ['#'] (('/' :: path).drop
          (('/' :: path).takeWhile fun c => c ≠ '?' && c ≠ '#').length)).1
        fragment := (behindMark '#' [] (behindMark '?' ['#'] (('/' :: path).drop
          (('/' :: path).takeWhile fun c => c ≠ '?' && c ≠ '#').length)).2).1 } := rfl
  rw [hwritten, List.takeWhile_eq_self_iff.mpr h.slash_cons.ne_marks, List.drop_length]
  rfl

theorem ofWritten_of_isPlain {path : List Char} (h : IsPlain path) (query : Option (List Char)) :
    ofWritten
        { scheme := "https".toList
          authority := "mermaid.ink".toList
          path := '/' :: path
          query := query } =
      .ok (atServer path (query.map (escape isQueryChar))) := by
  have hwritten : ofWritten
        { scheme := "https".toList
          authority := "mermaid.ink".toList
          path := '/' :: path
          query := query } =
      .ok
        { scheme := "https"
          host := "mermaid.ink"
          path := escape isPathChar (normalizePath ('/' :: path))
          query := query.map (escape isQueryChar) } := rfl
  have hdotless : '.' ∉ '/' :: path := fun hdot => (h.slash_cons '.' hdot).2 rfl
  rw [hwritten, normalizePath_of_dotless hdotless,
    escape_of_safe fun c hc => (h.slash_cons c hc).1]
  rfl

/-- The text of an address on the server is read as that address, unless it is too long. -/
theorem parse_of_isPlain {path : List Char} (h : IsPlain path) {text : String}
    (htext : text.toList = serverText ++ path) :
    parse text = if maxLength < text.length then .error .tooLong else .ok (atServer path none) := by
  have hserver : ∀ c ∈ serverText, Url.isVisible c := Text.forall_mem_of_all (by decide)
  have hvisible : ∀ c ∈ text.toList, Url.isVisible c := by
    intro c hc
    rw [htext] at hc
    rcases List.mem_append.mp hc with hc | hc
    · exact hserver c hc
    · exact h.isVisible c hc
  rw [parse, firstControl?_eq_none hvisible, String.length_toList, htext, ofText_of_isPlain h,
    ofWritten_of_isPlain h]
  split <;> rfl

theorem ofChanged_of_fits {w : Written}
    (h : ∀ s ∈ [w.scheme, w.authority, w.path, w.query.getD [], w.fragment.getD [],
      w.host.getD []], ¬ maxLength < s.length ∧ firstControl? s = none) :
    ofChanged w = ofWritten w := by
  simp only [List.forall_mem_cons] at h
  obtain ⟨hscheme, hauthority, hpath, hquery, hfragment, hhost, -⟩ := h
  simp only [ofChanged, hscheme, hauthority, hpath, hquery, hfragment, hhost, if_false]
  rfl

theorem isVisible_of_isQueryChar {c : Char} (h : isQueryChar c) : isVisible c := by
  simp only [isQueryChar, Bool.and_eq_true] at h
  exact h.1.1.1.1

theorem withQuery_of_isPlain {path : List Char} (h : IsPlain path)
    (hlength : path.length < maxLength) {query : String}
    (hquery : ∀ c ∈ query.toList, isQueryChar c) (hshort : query.length ≤ maxLength) :
    (atServer path none).withQuery (some query) = .ok (atServer path (some query)) := by
  have hwritten : { (atServer path none).written with query := (some query).map String.toList } =
      ({ scheme := "https".toList
         authority := "mermaid.ink".toList
         path := '/' :: path
         query := some query.toList } : Written) := by
    rw [written, authority_atServer]
    simp only [atServer, String.toList_ofList, Option.map_some, Option.map_none]
  have hvisible : ∀ c ∈ query.toList, Url.isVisible c :=
    fun c hc => isVisible_of_isQueryChar (hquery c hc)
  rw [withQuery, hwritten, ofChanged_of_fits, ofWritten_of_isPlain h, Option.map_some,
    escape_of_safe hquery, String.ofList_toList]
  simp only [List.forall_mem_cons]
  refine ⟨by decide, by decide, ⟨?_, firstControl?_eq_none h.slash_cons.isVisible⟩,
    ⟨?_, firstControl?_eq_none hvisible⟩, by decide, by decide, by simp⟩
  · rw [List.length_cons]
    omega
  · show ¬ maxLength < query.toList.length
    rw [String.length_toList]
    omega

end Url

/-! ## The address of an image -/

def imagePath (diagram : String) : List Char :=
  ['s', 'v', 'g', '/'] ++ Base64.urlSafe.encode (Utf8.encode diagram)

def imageUrl (diagram : String) : Url := Url.atServer (imagePath diagram) (some "theme=default")

theorem isPlain_imagePath (diagram : String) : Url.IsPlain (imagePath diagram) := by
  have hsegment : ∀ c ∈ ['s', 'v', 'g', '/'], Url.isPathChar c ∧ c ≠ '.' :=
    Text.forall_mem_of_all (by decide)
  have hchar : ∀ n < 64, Url.isPathChar (Base64.urlSafe.char n) ∧ Base64.urlSafe.char n ≠ '.' := by
    decide
  intro c hc
  rcases List.mem_append.mp hc with hc | hc
  · exact hsegment c hc
  · exact Base64.Alphabet.forall_mem_encode (p := fun c => Url.isPathChar c ∧ c ≠ '.') hchar
      (by decide) _ c hc

/-- The renderer that the standing settings ask for. -/
theorem renderer_standing :
    ({} : Settings).renderer = ⟨"https://mermaid.ink", .svg, some "default"⟩ := by
  decide +kernel

theorem toList_url_standing (diagram : String) :
    (({} : Settings).renderer.url diagram).toList = Url.serverText ++ imagePath diagram := by
  have hserver : Url.serverText = "https://mermaid.ink".toList ++ "/".toList := by decide
  rw [renderer_standing, Renderer.url, hserver]
  simp only [String.toList_append, encodeDiagram, String.toList_ofList, imagePath,
    List.append_assoc]
  rfl

/-- The length of the address that is written for a diagram. -/
theorem length_url_standing (diagram : String) :
    (({} : Settings).renderer.url diagram).length = 24 + 4 * ((diagram.utf8ByteSize + 2) / 3) := by
  rw [← String.length_toList, toList_url_standing, imagePath, List.length_append,
    List.length_append, Base64.Alphabet.length_encode, Utf8.length_encode, Url.length_serverText]
  simp only [List.length_cons, List.length_nil]
  omega

/-- **The address that is asked for is the one that is written**, unless that is too long. -/
theorem target_standing (diagram : String) :
    ({} : Settings).renderer.target diagram =
      if Url.maxLength < (({} : Settings).renderer.url diagram).length then .error .tooLong
      else .ok (imageUrl diagram) := by
  have hplain := isPlain_imagePath diagram
  have hquery : ({} : Settings).renderer.query = some "theme=default" := by decide +kernel
  rw [Renderer.target, Url.parse_of_isPlain hplain (toList_url_standing diagram), hquery]
  by_cases hlong : Url.maxLength < (({} : Settings).renderer.url diagram).length
  · rw [if_pos hlong, if_pos hlong]
    rfl
  · have hlength : (imagePath diagram).length < Url.maxLength := by
      rw [← String.length_toList, toList_url_standing, List.length_append,
        Url.length_serverText] at hlong
      omega
    rw [if_neg hlong, if_neg hlong]
    exact Url.withQuery_of_isPlain hplain hlength (Text.forall_mem_of_all (by decide)) (by decide)

end TypeGraph
