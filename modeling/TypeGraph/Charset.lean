import TypeGraph.Charset.Designated
import TypeGraph.Charset.Escaped
import TypeGraph.Charset.SevenBit
import TypeGraph.Charset.Table
import TypeGraph.Host.Punycode
import TypeGraph.Text.Case
import TypeGraph.Text.Quoted

/-!
# Character sets

A character set says which text some bytes are.  Bytes that are no text give the replacement
character.  A set has many names; marks between the letters and digits of a name, and the case of
its letters, do not count.
-/

namespace TypeGraph

inductive CharsetError where
  /-- No mark tells the order of the bytes in units of so many bits. -/
  | unmarked (bits : Nat)
  /-- Too many bytes are left over. -/
  | overflow
  /-- A character is taken from a place that holds none. -/
  | undesignated
  /-- A byte outside ASCII stands at a place where only ASCII may. -/
  | notAscii (byte : UInt8) (place : Nat)
  /-- The set has no replacement for what cannot be read. -/
  | noReplacement
  /-- The set that refuses all bytes. -/
  | refused
  /-- The name is that of a cipher for texts. -/
  | cipher
  /-- The name is that of a coding of bytes as other bytes. -/
  | binary
  /-- The name holds a null character. -/
  | nullName
  /-- Some parts of the name are numbered, and others not: whether the first one out of order is. -/
  | mixedParts (isNumbered : Bool)
deriving DecidableEq, Repr

def CharsetError.message : CharsetError → String
  | .unmarked bits => s!"UTF-{bits} stream does not start with BOM"
  | .overflow => "pending buffer overflow"
  | .undesignated => "internal codec error"
  | .notAscii byte place =>
    let digits := String.ofList (Text.hexDigits 2 byte.toNat)
    s!"'ascii' codec can't decode byte 0x{digits} in position {place}: ordinal not in range(128)"
  | .noReplacement => "Unsupported error handling replace"
  | .refused => "undefined encoding"
  | .cipher => "descriptor 'translate' for 'str' objects doesn't apply to a 'bytes' object"
  | .binary => ""
  | .nullName => "embedded null character"
  | .mixedParts isNumbered =>
    let (first, second) := if isNumbered then ("int", "NoneType") else ("NoneType", "int")
    s!"'<' not supported between instances of '{first}' and '{second}'"

namespace Charset

inductive Multibyte where
  | japanese
  | japaneseExtended (edition : JapaneseEdition)
  | shifted
  | shiftedVendor
  | shiftedExtended (edition : JapaneseEdition)
  | korean
  | koreanUnified
  | koreanCombining
  | simplified
  | simplifiedWide
  | simplifiedFull
  | traditional
  | traditionalVendor
  | hongKong
deriving DecidableEq, Repr

def Multibyte.step : Multibyte → List UInt8 → Step Unit
  | .japanese => japaneseStep
  | .japaneseExtended edition => extendedStep edition
  | .shifted => shiftedKanjiStep
  | .shiftedVendor => vendorStep
  | .shiftedExtended edition => shiftedExtendedStep edition
  | .korean => koreanStep
  | .koreanUnified => unifiedKoreanStep
  | .koreanCombining => combiningKoreanStep
  | .simplified => simplifiedStep
  | .simplifiedWide => wideStep
  | .simplifiedFull => fullStep
  | .traditional => traditionalStep
  | .traditionalVendor => traditionalVendorStep
  | .hongKong => hongKongStep

end Charset

inductive Charset where
  | utf8
  /-- UTF-8 with a mark in front. -/
  | utf8Marked
  | ascii
  | latin1
  | table (table : Charset.Table)
  /-- Units of two bytes; without an order, a mark in front tells it. -/
  | utf16 (order : Option Charset.ByteOrder)
  /-- Units of four bytes; without an order, a mark in front tells it. -/
  | utf32 (order : Option Charset.ByteOrder)
  | sevenBit
  | escaped
  | rawEscaped
  /-- The form in which the labels of host names are sent. -/
  | punycode
  | multibyte (set : Charset.Multibyte)
  /-- Simplified Chinese behind tildes. -/
  | tilde
  | designated (scheme : Charset.Scheme)
  /-- A name under which nothing can be read. -/
  | unreadable (error : CharsetError)
deriving DecidableEq, Repr

namespace Charset

/-! ## Names -/

/-- A name with a single underscore for each run of marks, and none at its ends. -/
def plainName (name : String) : String :=
  let isPart (c : Char) : Bool := c.isAlphanum || c = '.'
  let runs := name.toList.splitBy fun a b => isPart a == isPart b
  let parts := runs.filter (·.any isPart)
  Text.lowerCase ("_".intercalate (parts.map String.ofList))

/-- The sets other than those of single bytes, each with its name and its other names, between which
there are blanks. -/
def named : List (Charset × String × String) :=
  [(.utf8, "utf_8", "cp65001 u8 utf utf8 utf8_ucs2 utf8_ucs4"),
    (.utf8Marked, "utf_8_sig", ""),
    (.ascii, "ascii", "646 ansi_x3.4_1968 ansi_x3.4_1986 ansi_x3_4_1968 cp367 csascii ibm367 " ++
      "iso646_us iso_646.irv_1991 iso_ir_6 us us_ascii"),
    (.latin1, "latin_1", "8859 cp819 csisolatin1 ibm819 iso8859 iso8859_1 iso_8859_1 " ++
      "iso_8859_1_1987 iso_ir_100 l1 latin latin1"),
    (.latin1, "charmap", ""),
    (.utf16 none, "utf_16", "u16 utf16"),
    (.utf16 (some .lowFirst), "utf_16_le", "unicodelittleunmarked utf_16le"),
    (.utf16 (some .highFirst), "utf_16_be", "unicodebigunmarked utf_16be"),
    (.utf32 none, "utf_32", "u32 utf32"),
    (.utf32 (some .lowFirst), "utf_32_le", "utf_32le"),
    (.utf32 (some .highFirst), "utf_32_be", "utf_32be"),
    (.sevenBit, "utf_7", "u7 unicode_1_1_utf_7 utf7"),
    (.escaped, "unicode_escape", ""),
    (.rawEscaped, "raw_unicode_escape", ""),
    (.punycode, "punycode", ""),
    (.unreadable .noReplacement, "idna", ""),
    (.unreadable .refused, "undefined", ""),
    (.unreadable .cipher, "rot_13", "rot13"),
    (.unreadable .binary, "base64_codec", "base64 base_64"),
    (.unreadable .binary, "bz2_codec", "bz2"),
    (.unreadable .binary, "hex_codec", "hex"),
    (.unreadable .binary, "quopri_codec", "quopri quoted_printable quotedprintable"),
    (.unreadable .binary, "uu_codec", "uu"),
    (.unreadable .binary, "zlib_codec", "zip zlib"),
    (.multibyte .traditional, "big5", "big5_tw csbig5 x_mac_trad_chinese"),
    (.multibyte .hongKong, "big5hkscs", "big5_hkscs hkscs"),
    (.multibyte .traditionalVendor, "cp950", "950 ms950"),
    (.multibyte .shiftedVendor, "cp932", "932 ms932 ms_kanji mskanji"),
    (.multibyte .koreanUnified, "cp949", "949 ms949 uhc"),
    (.multibyte (.japaneseExtended .second), "euc_jis_2004", "euc_jis2004 eucjis2004 jisx0213"),
    (.multibyte (.japaneseExtended .first), "euc_jisx0213", "eucjisx0213"),
    (.multibyte .japanese, "euc_jp", "eucjp u_jis ujis"),
    (.multibyte .korean, "euc_kr", "euckr korean ks_c_5601 ks_c_5601_1987 ks_x_1001 ksc5601 " ++
      "ksx1001 x_mac_korean"),
    (.multibyte .simplifiedFull, "gb18030", "gb18030_2000"),
    (.multibyte .simplified, "gb2312", "chinese csiso58gb231280 euc_cn euccn eucgb2312_cn " ++
      "gb2312_1980 gb2312_80 iso_ir_58 x_mac_simp_chinese"),
    (.multibyte .simplifiedWide, "gbk", "936 cp936 ms936"),
    (.tilde, "hz", "hz_gb hz_gb_2312 hzgb"),
    (.designated japaneseScheme, "iso2022_jp", "csiso2022jp iso2022jp iso_2022_jp"),
    (.designated japaneseScheme₁, "iso2022_jp_1", "iso2022jp_1 iso_2022_jp_1"),
    (.designated japaneseScheme₂, "iso2022_jp_2", "iso2022jp_2 iso_2022_jp_2"),
    (.designated japaneseScheme₃, "iso2022_jp_3", "iso2022jp_3 iso_2022_jp_3"),
    (.designated japaneseScheme₄, "iso2022_jp_2004", "iso2022jp_2004 iso_2022_jp_2004"),
    (.designated japaneseSchemeKana, "iso2022_jp_ext", "iso2022jp_ext iso_2022_jp_ext"),
    (.designated koreanScheme, "iso2022_kr", "csiso2022kr iso2022kr iso_2022_kr"),
    (.multibyte .koreanCombining, "johab", "cp1361 ms1361"),
    (.multibyte .shifted, "shift_jis", "csshiftjis s_jis shiftjis sjis x_mac_japanese"),
    (.multibyte (.shiftedExtended .second), "shift_jis_2004",
      "s_jis_2004 shiftjis2004 sjis_2004"),
    (.multibyte (.shiftedExtended .first), "shift_jisx0213",
      "s_jisx0213 shiftjisx0213 sjisx0213")]

def all : List (Charset × String × String) :=
  named ++ tables.map fun t => (.table t, t.name, t.aliases)

def ofAlias? (name : String) : Option Charset :=
  (all.find? fun (_, _, aliases) => (aliases.splitOn " ").contains name).map (·.1)

/-- The set of a name.  Other names come first, and in them a dot may stand for an underscore; a
name with a null character is refused. -/
def ofName? (name : String) : Option Charset :=
  let plain := plainName name
  if name.toList.contains '\x00' then some (.unreadable .nullName)
  else if plain = "" then none
  else
    (ofAlias? plain).or
      ((ofAlias? (plain.replace "." "_")).or
        ((all.find? fun (_, own, _) => own = plain).map (·.1)))

/-! ## Reading -/

def utf8Mark : List UInt8 := [0xEF, 0xBB, 0xBF]

def ofMarkedUtf8 (bytes : List UInt8) : String :=
  if bytes.length < utf8Mark.length ∧ bytes.isPrefixOf utf8Mark then ""
  else if utf8Mark.isPrefixOf bytes then Utf8.decodeLossy (bytes.drop utf8Mark.length)
  else Utf8.decodeLossy bytes

def ofBytes (char : UInt8 → Char) (bytes : List UInt8) : String := String.ofList (bytes.map char)

/-- The text of units of `size` bytes whose order is told by the mark in front.  Less than a unit is
no text. -/
def ofMarked (size : Nat) (read : ByteOrder → List UInt8 → List Char) (bytes : List UInt8) :
    Except CharsetError String :=
  match markedOrder? size bytes with
  | some (order, rest) => .ok (String.ofList (read order rest))
  | none =>
    if bytes.length < size then .ok (String.singleton Utf8.replacement)
    else .error (.unmarked (8 * size))

/-- How many bytes may be left over where some bytes in a row are one character. -/
def maxLeft : Nat := 8

/-- The text that came of reading; what is left over gives the replacement character. -/
def ofReading (limit : Option Nat) : Reading → Except CharsetError String
  | .undesignated => .error .undesignated
  | .done text left =>
    if limit.any (· < left.length) then .error .overflow
    else .ok (String.ofList ((if left = [] then text else Utf8.replacement :: text).reverse))

/-- Puts characters into a label, each behind the place of the one before, up to the first that
cannot be read.  A code beyond the last one is a question mark. -/
def insertCodes : (fuel : Nat) → (place code bias : Nat) → (first : Bool) → (done : List Nat) →
    List Char → List Nat
  | 0, _, _, _, _, done, _ => done
  | fuel + 1, place, code, bias, first, done, text =>
    match Host.Punycode.readNumber bias 0 1 0 text with
    | none => done
    | some (delta, rest) =>
      let size := done.length + 1
      let code := code + (place + delta) / size
      let code := if 0x10FFFF < code then 0x3F else code
      let place := (place + delta) % size
      insertCodes fuel (place + 1) code (Host.Punycode.adapt delta size first) false
        (done.take place ++ code :: done.drop place) rest

/-- The ASCII part of a label and the rest behind its last hyphen. -/
def labelParts (bytes : List UInt8) : List UInt8 × List UInt8 :=
  let rest := (bytes.reverse.takeWhile (· ≠ 0x2D)).reverse
  (bytes.take (bytes.length - rest.length - 1), rest)

/-- The label of its ASCII form.  Behind the last hyphen there may be only ASCII. -/
def ofLabel (bytes : List UInt8) : Except CharsetError String :=
  let (front, rest) := labelParts bytes
  match rest.findIdx? (0x80 ≤ ·) with
  | some place => .error (.notAscii (rest.getD place 0) place)
  | none =>
    let basic := front.map fun b => if b < 0x80 then b.toNat else Utf8.replacement.toNat
    let codes := insertCodes rest.length 0 0x80 72 true basic (rest.map asciiChar)
    .ok (String.ofList (codes.map codeChar))

/-- The text of bytes.  Nothing is no text in any set. -/
def decode (charset : Charset) (bytes : List UInt8) : Except CharsetError String :=
  if bytes = [] then .ok ""
  else
    match charset with
    | .utf8 => .ok (Utf8.decodeLossy bytes)
    | .utf8Marked => .ok (ofMarkedUtf8 bytes)
    | .ascii => .ok (ofBytes (fun b => if b < 0x80 then asciiChar b else Utf8.replacement) bytes)
    | .latin1 => .ok (ofBytes asciiChar bytes)
    | .table t => .ok (String.ofList (t.decode bytes))
    | .utf16 (some order) => .ok (String.ofList (ofPairs order bytes))
    | .utf16 none => ofMarked 2 ofPairs bytes
    | .utf32 (some order) => .ok (String.ofList (ofQuads order bytes))
    | .utf32 none => ofMarked 4 ofQuads bytes
    | .sevenBit => .ok (String.ofList (SevenBit.decode bytes))
    | .escaped => ofReading none (read (fun _ => Escaped.fullStep) () bytes)
    | .rawEscaped => ofReading none (read (fun _ => Escaped.rawStep) () bytes)
    | .punycode => ofLabel bytes
    | .multibyte set => ofReading (some maxLeft) (read (fun _ => set.step) () bytes)
    | .tilde => ofReading (some maxLeft) (read tildeStep false bytes)
    | .designated scheme => ofReading (some maxLeft) (read (designatedStep scheme) {} bytes)
    | .unreadable error => .error error

/-- The text of bytes that are text throughout.  Without a mark, the low byte comes first. -/
def decodeStrict? (charset : Charset) (bytes : List UInt8) : Option String :=
  let text := match charset with
    | .utf16 none =>
      if (markedOrder? 2 bytes).isSome then charset.decode bytes
      else decode (.utf16 (some .lowFirst)) bytes
    | .utf32 none =>
      if (markedOrder? 4 bytes).isSome then charset.decode bytes
      else decode (.utf32 (some .lowFirst)) bytes
    | .unreadable .noReplacement => decode .ascii bytes
    | .punycode =>
      let (front, rest) := labelParts bytes
      let codes := Host.Punycode.readCodes (rest.length + 1) 0 0x80 72 true
        (front.map UInt8.toNat) (rest.map asciiChar)
      .ok (String.ofList ((codes.getD [0xFFFD]).map codeChar))
    | charset => charset.decode bytes
  text.toOption.filter fun text => !text.toList.contains Utf8.replacement

end Charset

end TypeGraph
