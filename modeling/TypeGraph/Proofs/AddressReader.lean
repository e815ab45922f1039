import TypeGraph.Proofs.Address

/-!
# A diagram is read back from its address

The last segment of an address is the diagram in URL-safe base 64 of its UTF-8 bytes, and the one in
front of it names the format.  Both codes are undone by their readers, a strict one and a lenient
one, and no letter of base 64 is a slash, so whatever the server is called the address can be cut
at its last two slashes.
-/

namespace TypeGraph

/-! ## Bytes of a text -/

theorem byteList_eq (bytes : ByteArray) (i : Nat) (done : List UInt8) :
    ByteArray.toList.loop bytes i done = done.reverse ++ bytes.data.toList.drop i := by
  fun_induction ByteArray.toList.loop bytes i done with
  | case1 i done hlt ih =>
      have hlt' : i < bytes.data.toList.length := by simpa using hlt
      have hget : bytes.get! i = bytes.data.toList[i] := by
        simp [ByteArray.get!, getElem!_pos, hlt]
      rw [ih, List.drop_eq_getElem_cons hlt', hget]
      simp
  | case2 i done hge =>
      have hge' : bytes.data.toList.length ≤ i := by simpa using hge
      simp [List.drop_eq_nil_of_le hge']

theorem Utf8.decode?_encode (s : String) : Utf8.decode? (Utf8.encode s) = some s := by
  have hbytes : (Utf8.encode s).toArray = s.toUTF8.data := by
    rw [Utf8.encode, ByteArray.toList, byteList_eq]
    simp
  have hvalid : s.toUTF8.IsValidUTF8 := s.isValidUTF8
  rw [Utf8.decode?, hbytes]
  show String.fromUTF8? s.toUTF8 = some s
  rw [String.fromUTF8?, dif_pos hvalid]
  rfl

/-! ## Base 64 is read back -/

namespace Base64.Alphabet

/-- Every character of the alphabet is read as the number that it stands for, and none of them is
the padding mark. -/
def IsLegible (a : Alphabet) : Prop := ∀ n < 64, a.value? (a.char n) = some n ∧ a.char n ≠ '='

theorem isLegible_urlSafe : urlSafe.IsLegible := by
  unfold IsLegible
  decide

/-! The bytes of a group from its letters: whole groups give three, a group with one padding mark
gives two and a group with two padding marks gives one. -/

section Bytes

variable (x y z : UInt8)

theorem toUInt8_eq {n : Nat} {x : UInt8} (h : n = x.toNat) : n.toUInt8 = x := by
  rw [h]
  exact UInt8.ofNat_toNat

theorem firstByte : (x.toNat / 4 * 4 + (x.toNat % 4 * 16 + y.toNat / 16) / 16).toUInt8 = x := by
  have hy := y.toNat_lt
  exact toUInt8_eq (by omega)

theorem secondByte :
    ((x.toNat % 4 * 16 + y.toNat / 16) % 16 * 16 +
      (y.toNat % 16 * 4 + z.toNat / 64) / 4).toUInt8 = y := by
  have hy := y.toNat_lt
  have hz := z.toNat_lt
  exact toUInt8_eq (by omega)

theorem thirdByte :
    ((y.toNat % 16 * 4 + z.toNat / 64) % 4 * 64 + z.toNat % 64).toUInt8 = z := by
  have hz := z.toNat_lt
  exact toUInt8_eq (by omega)

theorem loneByte : (x.toNat / 4 * 4 + x.toNat % 4 * 16 / 16).toUInt8 = x :=
  toUInt8_eq (by omega)

theorem lastByte :
    ((x.toNat % 4 * 16 + y.toNat / 16) % 16 * 16 + y.toNat % 16 * 4 / 4).toUInt8 = y := by
  have hy := y.toNat_lt
  exact toUInt8_eq (by omega)

end Bytes

section Legible

variable {a : Alphabet} (h : a.IsLegible)
include h

/-- Decoding undoes encoding: the last letter of a whole group of four is no padding mark, so the
group is read as a whole one. -/
theorem decode_encode (bytes : List UInt8) : a.decode (a.encode bytes) = some bytes := by
  fun_induction a.encode bytes with
  | case1 => rfl
  | case2 x =>
      have hx := x.toNat_lt
      rw [decode, (h _ (by omega)).1, (h _ (by omega)).1]
      show some [_] = _
      rw [loneByte]
  | case3 x y =>
      have hx := x.toNat_lt
      have hy := y.toNat_lt
      rw [decode, (h _ (by omega)).1, (h _ (by omega)).1, (h _ (by omega)).1]
      · show some [_, _] = _
        rw [firstByte, lastByte]
      · exact (h _ (by omega)).2
  | case4 x y z rest ih =>
      have hx := x.toNat_lt
      have hy := y.toNat_lt
      have hz := z.toNat_lt
      have hlast := (h (z.toNat % 64) (by omega)).2
      rw [decode, (h _ (by omega)).1, (h _ (by omega)).1, (h _ (by omega)).1, (h _ (by omega)).1,
        ih]
      · show some (_ :: _ :: _ :: rest) = _
        rw [firstByte, secondByte, thirdByte]
      · exact fun _ hpad => absurd hpad hlast
      · exact fun hpad => absurd hpad hlast

theorem decodeLoosely_first {n : Nat} (hn : n < 64) (rest : List Char) :
    a.decodeLoosely {} (a.char n :: rest) = a.decodeLoosely ⟨1, n, 0⟩ rest := by
  rw [decodeLoosely, if_neg (h n hn).2, (h n hn).1]
  rfl

theorem decodeLoosely_second {n : Nat} (hn : n < 64) (bits : Nat) (rest : List Char) :
    a.decodeLoosely ⟨1, bits, 0⟩ (a.char n :: rest) =
      (a.decodeLoosely ⟨2, n % 16, 0⟩ rest).map ((bits * 4 + n / 16).toUInt8 :: ·) := by
  rw [decodeLoosely, if_neg (h n hn).2, (h n hn).1]
  rfl

theorem decodeLoosely_third {n : Nat} (hn : n < 64) (bits : Nat) (rest : List Char) :
    a.decodeLoosely ⟨2, bits, 0⟩ (a.char n :: rest) =
      (a.decodeLoosely ⟨3, n % 4, 0⟩ rest).map ((bits * 16 + n / 4).toUInt8 :: ·) := by
  rw [decodeLoosely, if_neg (h n hn).2, (h n hn).1]
  rfl

theorem decodeLoosely_fourth {n : Nat} (hn : n < 64) (bits : Nat) (rest : List Char) :
    a.decodeLoosely ⟨3, bits, 0⟩ (a.char n :: rest) =
      (a.decodeLoosely {} rest).map ((bits * 64 + n).toUInt8 :: ·) := by
  rw [decodeLoosely, if_neg (h n hn).2, (h n hn).1]
  rfl

/-- The lenient reader agrees with the strict one on what was written. -/
theorem decodeLoosely_encode (bytes : List UInt8) :
    a.decodeLoosely {} (a.encode bytes) = some bytes := by
  fun_induction a.encode bytes with
  | case1 => rfl
  | case2 x =>
      have hx := x.toNat_lt
      rw [decodeLoosely_first h (by omega), decodeLoosely_second h (by omega), loneByte]
      rfl
  | case3 x y =>
      have hx := x.toNat_lt
      have hy := y.toNat_lt
      rw [decodeLoosely_first h (by omega), decodeLoosely_second h (by omega),
        decodeLoosely_third h (by omega), firstByte, lastByte]
      rfl
  | case4 x y z rest ih =>
      have hx := x.toNat_lt
      have hy := y.toNat_lt
      have hz := z.toNat_lt
      rw [decodeLoosely_first h (by omega), decodeLoosely_second h (by omega),
        decodeLoosely_third h (by omega), decodeLoosely_fourth h (by omega), ih, firstByte,
        secondByte, thirdByte]
      rfl

end Legible

/-- A text in base 64 is letters and then at most two padding marks. -/
theorem encode_eq_letters (a : Alphabet) (bytes : List UInt8) :
    ∃ digits : List Nat, ∃ padding ≤ 2, (∀ n ∈ digits, n < 64) ∧
      a.encode bytes = digits.map a.char ++ List.replicate padding '=' := by
  fun_induction a.encode bytes with
  | case1 => exact ⟨[], 0, by omega, by simp, rfl⟩
  | case2 x =>
      have hx := x.toNat_lt
      refine ⟨[x.toNat / 4, x.toNat % 4 * 16], 2, by omega, ?_, rfl⟩
      simp only [List.forall_mem_cons]
      exact ⟨by omega, by omega, by simp⟩
  | case3 x y =>
      have hx := x.toNat_lt
      have hy := y.toNat_lt
      refine ⟨[x.toNat / 4, x.toNat % 4 * 16 + y.toNat / 16, y.toNat % 16 * 4], 1, by omega, ?_,
        rfl⟩
      simp only [List.forall_mem_cons]
      exact ⟨by omega, by omega, by omega, by simp⟩
  | case4 x y z rest ih =>
      have hx := x.toNat_lt
      have hy := y.toNat_lt
      have hz := z.toNat_lt
      obtain ⟨digits, padding, hpadding, hdigits, hrest⟩ := ih
      refine ⟨x.toNat / 4 :: (x.toNat % 4 * 16 + y.toNat / 16) ::
        (y.toNat % 16 * 4 + z.toNat / 64) :: z.toNat % 64 :: digits, padding, hpadding, ?_, ?_⟩
      · simp only [List.forall_mem_cons]
        exact ⟨by omega, by omega, by omega, by omega, hdigits⟩
      · rw [hrest]
        rfl

end Base64.Alphabet

/-! ## The code of a diagram -/

def IsUrlLetter (c : Char) : Prop :=
  ('A' ≤ c ∧ c ≤ 'Z') ∨ ('a' ≤ c ∧ c ≤ 'z') ∨ ('0' ≤ c ∧ c ≤ '9') ∨ c = '-' ∨ c = '_'

instance (c : Char) : Decidable (IsUrlLetter c) := by
  unfold IsUrlLetter
  infer_instance

theorem isUrlLetter_char : ∀ n < 64, IsUrlLetter (Base64.urlSafe.char n) := by decide

theorem encodeDiagram_eq_letters (diagram : String) :
    ∃ letters : List Char, ∃ padding ≤ 2, (∀ c ∈ letters, IsUrlLetter c) ∧
      (encodeDiagram diagram).toList = letters ++ List.replicate padding '=' := by
  obtain ⟨digits, padding, hpadding, hdigits, hencode⟩ :=
    Base64.urlSafe.encode_eq_letters (Utf8.encode diagram)
  refine ⟨digits.map Base64.urlSafe.char, padding, hpadding, ?_, ?_⟩
  · intro c hc
    obtain ⟨n, hn, rfl⟩ := List.mem_map.mp hc
    exact isUrlLetter_char n (hdigits n hn)
  · rw [encodeDiagram, String.toList_ofList, hencode]

theorem length_encodeDiagram (diagram : String) :
    (encodeDiagram diagram).length = 4 * (((Utf8.encode diagram).length + 2) / 3) := by
  rw [encodeDiagram, String.length_ofList, Base64.Alphabet.length_encode]

theorem slash_not_mem_encodeDiagram (diagram : String) : '/' ∉ (encodeDiagram diagram).toList := by
  obtain ⟨letters, padding, -, hletters, hcode⟩ := encodeDiagram_eq_letters diagram
  rw [hcode, List.mem_append]
  rintro (hmem | hmem)
  · exact absurd (hletters _ hmem) (by decide)
  · exact absurd (List.eq_of_mem_replicate hmem) (by decide)

def decodeDiagram? (code : String) : Option String :=
  (Base64.urlSafe.decode code.toList).bind Utf8.decode?

theorem decodeDiagram?_encodeDiagram (diagram : String) :
    decodeDiagram? (encodeDiagram diagram) = some diagram := by
  rw [decodeDiagram?, encodeDiagram, String.toList_ofList,
    Base64.Alphabet.decode_encode Base64.Alphabet.isLegible_urlSafe, Option.bind_some,
    Utf8.decode?_encode]

/-! ## The segments of an address -/

theorem dropTrailingSlashes_append (server : String) (count : Nat) :
    dropTrailingSlashes (server ++ String.ofList (List.replicate count '/')) =
      dropTrailingSlashes server := by
  have hslashes : ∀ c ∈ List.replicate count '/', decide (c = '/') = true := by
    intro c hc
    exact decide_eq_true (List.eq_of_mem_replicate hc)
  rw [dropTrailingSlashes, dropTrailingSlashes, String.toList_append, String.toList_ofList,
    List.reverse_append, List.reverse_replicate, List.dropWhile_append_of_pos hslashes]

theorem splitOn_append_slash (front last : List Char) (hlast : '/' ∉ last) :
    (front ++ '/' :: last).splitOn '/' = front.splitOn '/' ++ [last] := by
  have hpiece : last.splitOn '/' = [last] := by
    have hone : (['/'].intercalate [last]).splitOn '/' = [last] :=
      List.splitOn_intercalate '/' (by simpa using hlast) (by simp)
    rwa [List.intercalate_singleton] at hone
  have hcut := List.splitOnP_append_cons (p := (· == '/')) front last (beq_self_eq_true '/')
  exact hcut.trans (congrArg (front.splitOn '/' ++ ·) hpiece)

theorem ImageFormat.toList_segment (format : ImageFormat) :
    format.segment.toList = if format = .svg then ['s', 'v', 'g'] else ['i', 'm', 'g'] := by
  cases format <;> decide

theorem ImageFormat.slash_not_mem_segment (format : ImageFormat) :
    '/' ∉ format.segment.toList := by
  cases format <;> decide

/-- The segments of the address of a diagram: those of the server, then one that names the format
and one that holds the diagram. -/
theorem Renderer.splitOn_url (r : Renderer) (diagram : String) :
    (r.url diagram).toList.splitOn '/' =
      r.serverUrl.toList.splitOn '/' ++
        [r.format.segment.toList, (encodeDiagram diagram).toList] := by
  have hurl : (r.url diagram).toList =
      (r.serverUrl.toList ++ '/' :: r.format.segment.toList) ++
        '/' :: (encodeDiagram diagram).toList := by
    simp [Renderer.url]
  rw [hurl, splitOn_append_slash _ _ (slash_not_mem_encodeDiagram diagram),
    splitOn_append_slash _ _ r.format.slash_not_mem_segment, List.append_assoc]
  rfl

/-- The image that an address asks for: its format by the segment in front of the last, its diagram
by the last. -/
def Renderer.readUrl? (url : String) : Option (ImageFormat × String) :=
  match (url.toList.splitOn '/').reverse with
  | code :: segment :: _ =>
    if segment = ['s', 'v', 'g'] then (decodeDiagram? (String.ofList code)).map (.svg, ·)
    else if segment = ['i', 'm', 'g'] then (decodeDiagram? (String.ofList code)).map (.png, ·)
    else none
  | _ => none

theorem Renderer.readUrl?_url (r : Renderer) (diagram : String) :
    readUrl? (r.url diagram) = some (r.format, diagram) := by
  have hcode := decodeDiagram?_encodeDiagram diagram
  rw [readUrl?, splitOn_url, List.reverse_append]
  cases hformat : r.format with
  | svg => simp [ImageFormat.segment, hcode]
  | png => simp [ImageFormat.segment, hcode]

/-- **A diagram is read back from its address.**  Its code is letters of URL-safe base 64 and at
most two padding marks, has four characters for every three bytes begun, and is undone by a strict
and by a lenient reader.  The last segment of the address is that code and the one in front of it
says which format is meant, whatever the server is called; so two addresses on one server are the
same only for the same format and diagram, and slashes at the end of the server's name do not
count. -/
theorem Renderer.url_reads_back (server : String) (theme : Option String) (format : ImageFormat)
    (diagram : String) :
    (∃ letters : List Char, ∃ padding ≤ 2, (∀ c ∈ letters, IsUrlLetter c) ∧
      (encodeDiagram diagram).toList = letters ++ List.replicate padding '=') ∧
    (encodeDiagram diagram).length = 4 * (((Utf8.encode diagram).length + 2) / 3) ∧
    (Base64.urlSafe.decode (encodeDiagram diagram).toList).bind Utf8.decode? = some diagram ∧
    (Base64.urlSafe.decodeLoosely {} (encodeDiagram diagram).toList).bind Utf8.decode? =
      some diagram ∧
    (∃ front, ((Renderer.of server format theme).url diagram).toList.splitOn '/' =
      front ++ [if format = .svg then ['s', 'v', 'g'] else ['i', 'm', 'g'],
        (encodeDiagram diagram).toList]) ∧
    (∀ theme' format' diagram',
      (Renderer.of server format theme).url diagram =
          (Renderer.of server format' theme').url diagram' ↔
        format = format' ∧ diagram = diagram') ∧
    ∀ count, Renderer.of (server ++ String.ofList (List.replicate count '/')) format theme =
      Renderer.of server format theme := by
  refine ⟨encodeDiagram_eq_letters diagram, length_encodeDiagram diagram,
    decodeDiagram?_encodeDiagram diagram, ?_, ?_, ?_, ?_⟩
  · rw [encodeDiagram, String.toList_ofList,
      Base64.Alphabet.decodeLoosely_encode Base64.Alphabet.isLegible_urlSafe, Option.bind_some,
      Utf8.decode?_encode]
  · refine ⟨(dropTrailingSlashes server).toList.splitOn '/', ?_⟩
    rw [splitOn_url, ← ImageFormat.toList_segment]
    rfl
  · intro theme' format' diagram'
    constructor
    · intro heq
      have hread := readUrl?_url (Renderer.of server format theme) diagram
      rw [heq, readUrl?_url, Option.some.injEq, Prod.mk.injEq] at hread
      exact ⟨hread.1.symm, hread.2.symm⟩
    · rintro ⟨rfl, rfl⟩
      rfl
  · intro count
    rw [Renderer.of, dropTrailingSlashes_append]
    rfl

end TypeGraph
