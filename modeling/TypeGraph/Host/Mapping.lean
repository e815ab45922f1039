import TypeGraph.Host.Letter
import TypeGraph.Text.CodePoints

/-!
# Characters that stand for others

Where a host name is typed by a person, capital letters, wide letters, ligatures and the like stand
for plain ones, and some invisible characters count for nothing.  Symbols are welcome there, but
not the letters that came last.
-/

namespace TypeGraph.Host

open Text (CodePoints CodeRanges CodeSpan)

/-- Characters that stand for others: what each character of the span stands for, with a blank
between two. -/
structure Folding where
  span : CodeSpan
  words : String

def foldings : List Folding := [
  ⟨⟨0xAA, 0xAA, 1⟩, "a"⟩, ⟨⟨0xB2, 0xB3, 1⟩, "2 3"⟩, ⟨⟨0xB5, 0xB5, 1⟩, "μ"⟩,
  ⟨⟨0xB9, 0xBA, 1⟩, "1 o"⟩, ⟨⟨0xBC, 0xBE, 1⟩, "1⁄4 1⁄2 3⁄4"⟩,
  ⟨⟨0xC0, 0xD6, 1⟩, "à á â ã ä å æ ç è é ê ë ì í î ï ð ñ ò ó ô õ ö"⟩,
  ⟨⟨0xD8, 0xDE, 1⟩, "ø ù ú û ü ý þ"⟩,
  ⟨⟨0x100, 0x132, 2⟩, "ā ă ą ć ĉ ċ č ď đ ē ĕ ė ę ě ĝ ğ ġ ģ ĥ ħ ĩ ī ĭ į i\u0307 ij"⟩,
  ⟨⟨0x133, 0x134, 1⟩, "ij ĵ"⟩, ⟨⟨0x136, 0x136, 1⟩, "ķ"⟩, ⟨⟨0x139, 0x13F, 2⟩, "ĺ ļ ľ l·"⟩,
  ⟨⟨0x140, 0x141, 1⟩, "l· ł"⟩, ⟨⟨0x143, 0x149, 2⟩, "ń ņ ň ʼn"⟩,
  ⟨⟨0x14A, 0x178, 2⟩, "ŋ ō ŏ ő œ ŕ ŗ ř ś ŝ ş š ţ ť ŧ ũ ū ŭ ů ű ų ŵ ŷ ÿ"⟩,
  ⟨⟨0x179, 0x181, 2⟩, "ź ż ž s ɓ"⟩, ⟨⟨0x182, 0x186, 2⟩, "ƃ ƅ ɔ"⟩, ⟨⟨0x187, 0x189, 2⟩, "ƈ ɖ"⟩,
  ⟨⟨0x18A, 0x18B, 1⟩, "ɗ ƌ"⟩, ⟨⟨0x18E, 0x191, 1⟩, "ǝ ə ɛ ƒ"⟩, ⟨⟨0x193, 0x194, 1⟩, "ɠ ɣ"⟩,
  ⟨⟨0x196, 0x198, 1⟩, "ɩ ɨ ƙ"⟩, ⟨⟨0x19C, 0x19D, 1⟩, "ɯ ɲ"⟩, ⟨⟨0x19F, 0x1A0, 1⟩, "ɵ ơ"⟩,
  ⟨⟨0x1A2, 0x1A6, 2⟩, "ƣ ƥ ʀ"⟩, ⟨⟨0x1A7, 0x1A9, 2⟩, "ƨ ʃ"⟩, ⟨⟨0x1AC, 0x1AE, 2⟩, "ƭ ʈ"⟩,
  ⟨⟨0x1AF, 0x1B1, 2⟩, "ư ʊ"⟩, ⟨⟨0x1B2, 0x1B3, 1⟩, "ʋ ƴ"⟩, ⟨⟨0x1B5, 0x1B7, 2⟩, "ƶ ʒ"⟩,
  ⟨⟨0x1B8, 0x1B8, 1⟩, "ƹ"⟩, ⟨⟨0x1BC, 0x1BC, 1⟩, "ƽ"⟩,
  ⟨⟨0x1C4, 0x1CD, 1⟩, "dž dž dž lj lj lj nj nj nj ǎ"⟩, ⟨⟨0x1CF, 0x1DB, 2⟩, "ǐ ǒ ǔ ǖ ǘ ǚ ǜ"⟩,
  ⟨⟨0x1DE, 0x1EE, 2⟩, "ǟ ǡ ǣ ǥ ǧ ǩ ǫ ǭ ǯ"⟩, ⟨⟨0x1F1, 0x1F4, 1⟩, "dz dz dz ǵ"⟩,
  ⟨⟨0x1F6, 0x1F8, 1⟩, "ƕ ƿ ǹ"⟩,
  ⟨⟨0x1FA, 0x232, 2⟩, "ǻ ǽ ǿ ȁ ȃ ȅ ȇ ȉ ȋ ȍ ȏ ȑ ȓ ȕ ȗ ș ț ȝ ȟ ƞ ȣ ȥ ȧ ȩ ȫ ȭ ȯ ȱ ȳ"⟩,
  ⟨⟨0x23A, 0x23B, 1⟩, "ⱥ ȼ"⟩, ⟨⟨0x23D, 0x23E, 1⟩, "ƚ ⱦ"⟩, ⟨⟨0x241, 0x243, 2⟩, "ɂ ƀ"⟩,
  ⟨⟨0x244, 0x246, 1⟩, "ʉ ʌ ɇ"⟩, ⟨⟨0x248, 0x24E, 2⟩, "ɉ ɋ ɍ ɏ"⟩,
  ⟨⟨0x2B0, 0x2B8, 1⟩, "h ɦ j r ɹ ɻ ʁ w y"⟩, ⟨⟨0x2E0, 0x2E4, 1⟩, "ɣ l s x ʕ"⟩,
  ⟨⟨0x340, 0x341, 1⟩, "\u0300 \u0301"⟩, ⟨⟨0x343, 0x345, 1⟩, "\u0313 \u0308\u0301 ι"⟩,
  ⟨⟨0x370, 0x376, 2⟩, "ͱ ͳ ʹ ͷ"⟩, ⟨⟨0x37E, 0x37F, 1⟩, "; ϳ"⟩, ⟨⟨0x386, 0x38A, 1⟩, "ά · έ ή ί"⟩,
  ⟨⟨0x38C, 0x38E, 2⟩, "ό ύ"⟩, ⟨⟨0x38F, 0x391, 2⟩, "ώ α"⟩,
  ⟨⟨0x392, 0x3A1, 1⟩, "β γ δ ε ζ η θ ι κ λ μ ν ξ ο π ρ"⟩,
  ⟨⟨0x3A3, 0x3AB, 1⟩, "σ τ υ φ χ ψ ω ϊ ϋ"⟩, ⟨⟨0x3CF, 0x3D6, 1⟩, "ϗ β θ υ ύ ϋ φ π"⟩,
  ⟨⟨0x3D8, 0x3F0, 2⟩, "ϙ ϛ ϝ ϟ ϡ ϣ ϥ ϧ ϩ ϫ ϭ ϯ κ"⟩, ⟨⟨0x3F1, 0x3F2, 1⟩, "ρ σ"⟩,
  ⟨⟨0x3F4, 0x3F5, 1⟩, "θ ε"⟩, ⟨⟨0x3F7, 0x3F9, 2⟩, "ϸ σ"⟩, ⟨⟨0x3FA, 0x3FA, 1⟩, "ϻ"⟩,
  ⟨⟨0x3FD, 0x41E, 1⟩, "ͻ ͼ ͽ ѐ ё ђ ѓ є ѕ і ї ј љ њ ћ ќ ѝ ў џ а б в г д е ж з и й к л м н о"⟩,
  ⟨⟨0x41F, 0x42F, 1⟩, "п р с т у ф х ц ч ш щ ъ ы ь э ю я"⟩,
  ⟨⟨0x460, 0x480, 2⟩, "ѡ ѣ ѥ ѧ ѩ ѫ ѭ ѯ ѱ ѳ ѵ ѷ ѹ ѻ ѽ ѿ ҁ"⟩,
  ⟨⟨0x48A, 0x4BE, 2⟩, "ҋ ҍ ҏ ґ ғ ҕ җ ҙ қ ҝ ҟ ҡ ң ҥ ҧ ҩ ҫ ҭ ү ұ ҳ ҵ ҷ ҹ һ ҽ ҿ"⟩,
  ⟨⟨0x4C1, 0x4CD, 2⟩, "ӂ ӄ ӆ ӈ ӊ ӌ ӎ"⟩,
  ⟨⟨0x4D0, 0x512, 2⟩, "ӑ ӓ ӕ ӗ ә ӛ ӝ ӟ ӡ ӣ ӥ ӧ ө ӫ ӭ ӯ ӱ ӳ ӵ ӷ ӹ ӻ ӽ ӿ ԁ ԃ ԅ ԇ ԉ ԋ ԍ ԏ ԑ ԓ"⟩,
  ⟨⟨0x514, 0x52E, 2⟩, "ԕ ԗ ԙ ԛ ԝ ԟ ԡ ԣ ԥ ԧ ԩ ԫ ԭ ԯ"⟩,
  ⟨⟨0x531, 0x552, 1⟩, "ա բ գ դ ե զ է ը թ ժ ի լ խ ծ կ հ ձ ղ ճ մ յ ն շ ո չ պ ջ ռ ս վ տ ր ց ւ"⟩,
  ⟨⟨0x553, 0x556, 1⟩, "փ ք օ ֆ"⟩, ⟨⟨0x587, 0x587, 1⟩, "եւ"⟩,
  ⟨⟨0x675, 0x678, 1⟩, "\u0627\u0674 \u0648\u0674 \u06c7\u0674 \u064a\u0674"⟩,
  ⟨⟨0x958, 0x95F, 1⟩, "क\u093c ख\u093c ग\u093c ज\u093c ड\u093c ढ\u093c फ\u093c य\u093c"⟩,
  ⟨⟨0x9DC, 0x9DD, 1⟩, "ড\u09bc ঢ\u09bc"⟩, ⟨⟨0x9DF, 0x9DF, 1⟩, "য\u09bc"⟩,
  ⟨⟨0xA33, 0xA33, 1⟩, "ਲ\u0a3c"⟩, ⟨⟨0xA36, 0xA36, 1⟩, "ਸ\u0a3c"⟩,
  ⟨⟨0xA59, 0xA5B, 1⟩, "ਖ\u0a3c ਗ\u0a3c ਜ\u0a3c"⟩, ⟨⟨0xA5E, 0xA5E, 1⟩, "ਫ\u0a3c"⟩,
  ⟨⟨0xB5C, 0xB5D, 1⟩, "ଡ\u0b3c ଢ\u0b3c"⟩, ⟨⟨0xE33, 0xE33, 1⟩, "\u0e4dา"⟩,
  ⟨⟨0xEB3, 0xEB3, 1⟩, "\u0ecdາ"⟩, ⟨⟨0xEDC, 0xEDD, 1⟩, "ຫນ ຫມ"⟩, ⟨⟨0xF0C, 0xF0C, 1⟩, "་"⟩,
  ⟨⟨0xF43, 0xF43, 1⟩, "ག\u0fb7"⟩, ⟨⟨0xF4D, 0xF4D, 1⟩, "ཌ\u0fb7"⟩, ⟨⟨0xF52, 0xF52, 1⟩, "ད\u0fb7"⟩,
  ⟨⟨0xF57, 0xF57, 1⟩, "བ\u0fb7"⟩, ⟨⟨0xF5C, 0xF5C, 1⟩, "ཛ\u0fb7"⟩, ⟨⟨0xF69, 0xF69, 1⟩, "ཀ\u0fb5"⟩,
  ⟨⟨0xF73, 0xF75, 2⟩, "\u0f71\u0f72 \u0f71\u0f74"⟩,
  ⟨⟨0xF76, 0xF79, 1⟩, "\u0fb2\u0f80 \u0fb2\u0f71\u0f80 \u0fb3\u0f80 \u0fb3\u0f71\u0f80"⟩,
  ⟨⟨0xF81, 0xF81, 1⟩, "\u0f71\u0f80"⟩, ⟨⟨0xF93, 0xF93, 1⟩, "\u0f92\u0fb7"⟩,
  ⟨⟨0xF9D, 0xF9D, 1⟩, "\u0f9c\u0fb7"⟩, ⟨⟨0xFA2, 0xFA2, 1⟩, "\u0fa1\u0fb7"⟩,
  ⟨⟨0xFA7, 0xFA7, 1⟩, "\u0fa6\u0fb7"⟩, ⟨⟨0xFAC, 0xFAC, 1⟩, "\u0fab\u0fb7"⟩,
  ⟨⟨0xFB9, 0xFB9, 1⟩, "\u0f90\u0fb5"⟩, ⟨⟨0x10C7, 0x10C7, 1⟩, "ⴧ"⟩, ⟨⟨0x10CD, 0x10CD, 1⟩, "ⴭ"⟩,
  ⟨⟨0x10FC, 0x10FC, 1⟩, "ნ"⟩, ⟨⟨0x13F8, 0x13FD, 1⟩, "Ᏸ Ᏹ Ᏺ Ᏻ Ᏼ Ᏽ"⟩,
  ⟨⟨0x1C80, 0x1C88, 1⟩, "в д о с т т ъ ѣ ꙋ"⟩,
  ⟨⟨0x1C90, 0x1CB1, 1⟩, "ა ბ გ დ ე ვ ზ თ ი კ ლ მ ნ ო პ ჟ რ ს ტ უ ფ ქ ღ ყ შ ჩ ც ძ წ ჭ ხ ჯ ჰ ჱ"⟩,
  ⟨⟨0x1CB2, 0x1CBA, 1⟩, "ჲ ჳ ჴ ჵ ჶ ჷ ჸ ჹ ჺ"⟩, ⟨⟨0x1CBD, 0x1CBF, 1⟩, "ჽ ჾ ჿ"⟩,
  ⟨⟨0x1D2C, 0x1D2E, 1⟩, "a æ b"⟩, ⟨⟨0x1D30, 0x1D3A, 1⟩, "d e ǝ g h i j k l m n"⟩,
  ⟨⟨0x1D3C, 0x1D4D, 1⟩, "o ȣ p r t u w a ɐ ɑ ᴂ b d e ə ɛ ɜ g"⟩,
  ⟨⟨0x1D4F, 0x1D6A, 1⟩, "k m ŋ o ɔ ᴖ ᴗ p t u ᴝ ɯ v ᴥ β γ δ φ χ i r u v β γ ρ φ χ"⟩,
  ⟨⟨0x1D78, 0x1D78, 1⟩, "н"⟩,
  ⟨⟨0x1D9B, 0x1DBC, 1⟩, "ɒ c ɕ ð ɜ f ɟ ɡ ɥ ɨ ɩ ɪ ᵻ ʝ ɭ ᶅ ʟ ɱ ɰ ɲ ɳ ɴ ɵ ɸ ʂ ʃ ƫ ʉ ʊ ᴜ ʋ ʌ z ʐ"⟩,
  ⟨⟨0x1DBD, 0x1DBF, 1⟩, "ʑ ʒ θ"⟩,
  ⟨⟨0x1E00, 0x1E42, 2⟩, "ḁ ḃ ḅ ḇ ḉ ḋ ḍ ḏ ḑ ḓ ḕ ḗ ḙ ḛ ḝ ḟ ḡ ḣ ḥ ḧ ḩ ḫ ḭ ḯ ḱ ḳ ḵ ḷ ḹ ḻ ḽ ḿ ṁ ṃ"⟩,
  ⟨⟨0x1E44, 0x1E86, 2⟩, "ṅ ṇ ṉ ṋ ṍ ṏ ṑ ṓ ṕ ṗ ṙ ṛ ṝ ṟ ṡ ṣ ṥ ṧ ṩ ṫ ṭ ṯ ṱ ṳ ṵ ṷ ṹ ṻ ṽ ṿ ẁ ẃ ẅ ẇ"⟩,
  ⟨⟨0x1E88, 0x1E94, 2⟩, "ẉ ẋ ẍ ẏ ẑ ẓ ẕ"⟩, ⟨⟨0x1E9A, 0x1E9B, 1⟩, "aʾ ṡ"⟩,
  ⟨⟨0x1E9E, 0x1EE0, 2⟩, "ß ạ ả ấ ầ ẩ ẫ ậ ắ ằ ẳ ẵ ặ ẹ ẻ ẽ ế ề ể ễ ệ ỉ ị ọ ỏ ố ồ ổ ỗ ộ ớ ờ ở ỡ"⟩,
  ⟨⟨0x1EE2, 0x1EFE, 2⟩, "ợ ụ ủ ứ ừ ử ữ ự ỳ ỵ ỷ ỹ ỻ ỽ ỿ"⟩,
  ⟨⟨0x1F08, 0x1F0F, 1⟩, "ἀ ἁ ἂ ἃ ἄ ἅ ἆ ἇ"⟩, ⟨⟨0x1F18, 0x1F1D, 1⟩, "ἐ ἑ ἒ ἓ ἔ ἕ"⟩,
  ⟨⟨0x1F28, 0x1F2F, 1⟩, "ἠ ἡ ἢ ἣ ἤ ἥ ἦ ἧ"⟩, ⟨⟨0x1F38, 0x1F3F, 1⟩, "ἰ ἱ ἲ ἳ ἴ ἵ ἶ ἷ"⟩,
  ⟨⟨0x1F48, 0x1F4D, 1⟩, "ὀ ὁ ὂ ὃ ὄ ὅ"⟩, ⟨⟨0x1F59, 0x1F5F, 2⟩, "ὑ ὓ ὕ ὗ"⟩,
  ⟨⟨0x1F68, 0x1F6F, 1⟩, "ὠ ὡ ὢ ὣ ὤ ὥ ὦ ὧ"⟩, ⟨⟨0x1F71, 0x1F7D, 2⟩, "ά έ ή ί ό ύ ώ"⟩,
  ⟨⟨0x1F80, 0x1F96, 1⟩, "ἀι ἁι ἂι ἃι ἄι ἅι ἆι ἇι ἀι ἁι ἂι ἃι ἄι ἅι ἆι ἇι ἠι ἡι ἢι ἣι ἤι ἥι ἦι"⟩,
  ⟨⟨0x1F97, 0x1FAD, 1⟩, "ἧι ἠι ἡι ἢι ἣι ἤι ἥι ἦι ἧι ὠι ὡι ὢι ὣι ὤι ὥι ὦι ὧι ὠι ὡι ὢι ὣι ὤι ὥι"⟩,
  ⟨⟨0x1FAE, 0x1FAF, 1⟩, "ὦι ὧι"⟩, ⟨⟨0x1FB2, 0x1FB4, 1⟩, "ὰι αι άι"⟩,
  ⟨⟨0x1FB7, 0x1FBC, 1⟩, "ᾶι ᾰ ᾱ ὰ ά αι"⟩, ⟨⟨0x1FBE, 0x1FBE, 1⟩, "ι"⟩,
  ⟨⟨0x1FC2, 0x1FC4, 1⟩, "ὴι ηι ήι"⟩, ⟨⟨0x1FC7, 0x1FCC, 1⟩, "ῆι ὲ έ ὴ ή ηι"⟩,
  ⟨⟨0x1FD3, 0x1FD3, 1⟩, "ΐ"⟩, ⟨⟨0x1FD8, 0x1FDB, 1⟩, "ῐ ῑ ὶ ί"⟩, ⟨⟨0x1FE3, 0x1FE3, 1⟩, "ΰ"⟩,
  ⟨⟨0x1FE8, 0x1FEC, 1⟩, "ῠ ῡ ὺ ύ ῥ"⟩, ⟨⟨0x1FEF, 0x1FEF, 1⟩, "`"⟩,
  ⟨⟨0x1FF2, 0x1FF4, 1⟩, "ὼι ωι ώι"⟩, ⟨⟨0x1FF7, 0x1FFC, 1⟩, "ῶι ὸ ό ὼ ώ ωι"⟩,
  ⟨⟨0x2011, 0x2011, 1⟩, "‐"⟩, ⟨⟨0x2033, 0x2034, 1⟩, "′′ ′′′"⟩, ⟨⟨0x2036, 0x2037, 1⟩, "‵‵ ‵‵‵"⟩,
  ⟨⟨0x203C, 0x203C, 1⟩, "!!"⟩, ⟨⟨0x2057, 0x2057, 1⟩, "′′′′"⟩, ⟨⟨0x2070, 0x2071, 1⟩, "0 i"⟩,
  ⟨⟨0x2074, 0x208E, 1⟩, "4 5 6 7 8 9 + − = ( ) n 0 1 2 3 4 5 6 7 8 9 + − = ( )"⟩,
  ⟨⟨0x2090, 0x209C, 1⟩, "a e o x ə h k l m n p s t"⟩, ⟨⟨0x20A8, 0x20A8, 1⟩, "rs"⟩,
  ⟨⟨0x2102, 0x2103, 1⟩, "c °c"⟩, ⟨⟨0x2107, 0x2109, 2⟩, "ɛ °f"⟩,
  ⟨⟨0x210A, 0x2113, 1⟩, "g h h h h ħ i i l l"⟩, ⟨⟨0x2115, 0x2116, 1⟩, "n no"⟩,
  ⟨⟨0x2119, 0x211D, 1⟩, "p q r r r"⟩, ⟨⟨0x2120, 0x2122, 1⟩, "sm tel tm"⟩,
  ⟨⟨0x2124, 0x212A, 2⟩, "z ω z k"⟩, ⟨⟨0x212B, 0x212D, 1⟩, "å b c"⟩,
  ⟨⟨0x212F, 0x2131, 1⟩, "e e f"⟩, ⟨⟨0x2133, 0x2139, 1⟩, "m o \u05d0 \u05d1 \u05d2 \u05d3 i"⟩,
  ⟨⟨0x213B, 0x2140, 1⟩, "fax π γ γ π ∑"⟩, ⟨⟨0x2145, 0x2149, 1⟩, "d d e i j"⟩,
  ⟨⟨0x2150, 0x2161, 1⟩, "1⁄7 1⁄9 1⁄10 1⁄3 2⁄3 1⁄5 2⁄5 3⁄5 4⁄5 1⁄6 5⁄6 1⁄8 3⁄8 5⁄8 7⁄8 1⁄ i ii"⟩,
  ⟨⟨0x2162, 0x2177, 1⟩, "iii iv v vi vii viii ix x xi xii l c d m i ii iii iv v vi vii viii"⟩,
  ⟨⟨0x2178, 0x217F, 1⟩, "ix x xi xii l c d m"⟩, ⟨⟨0x2189, 0x2189, 1⟩, "0⁄3"⟩,
  ⟨⟨0x222C, 0x222D, 1⟩, "∫∫ ∫∫∫"⟩, ⟨⟨0x222F, 0x2230, 1⟩, "∮∮ ∮∮∮"⟩, ⟨⟨0x2329, 0x232A, 1⟩, "〈 〉"⟩,
  ⟨⟨0x2460, 0x2477, 1⟩, "1 2 3 4 5 6 7 8 9 10 11 12 13 14 15 16 17 18 19 20 (1) (2) (3) (4)"⟩,
  ⟨⟨0x2478, 0x2485, 1⟩, "(5) (6) (7) (8) (9) (10) (11) (12) (13) (14) (15) (16) (17) (18)"⟩,
  ⟨⟨0x2486, 0x2487, 1⟩, "(19) (20)"⟩,
  ⟨⟨0x249C, 0x24AC, 1⟩, "(a) (b) (c) (d) (e) (f) (g) (h) (i) (j) (k) (l) (m) (n) (o) (p) (q)"⟩,
  ⟨⟨0x24AD, 0x24C5, 1⟩, "(r) (s) (t) (u) (v) (w) (x) (y) (z) a b c d e f g h i j k l m n o p"⟩,
  ⟨⟨0x24C6, 0x24E7, 1⟩, "q r s t u v w x y z a b c d e f g h i j k l m n o p q r s t u v w x"⟩,
  ⟨⟨0x24E8, 0x24EA, 1⟩, "y z 0"⟩, ⟨⟨0x2A0C, 0x2A0C, 1⟩, "∫∫∫∫"⟩, ⟨⟨0x2A75, 0x2A76, 1⟩, "== ==="⟩,
  ⟨⟨0x2ADC, 0x2ADC, 1⟩, "⫝\u0338"⟩,
  ⟨⟨0x2C00, 0x2C21, 1⟩, "ⰰ ⰱ ⰲ ⰳ ⰴ ⰵ ⰶ ⰷ ⰸ ⰹ ⰺ ⰻ ⰼ ⰽ ⰾ ⰿ ⱀ ⱁ ⱂ ⱃ ⱄ ⱅ ⱆ ⱇ ⱈ ⱉ ⱊ ⱋ ⱌ ⱍ ⱎ ⱏ ⱐ ⱑ"⟩,
  ⟨⟨0x2C22, 0x2C2F, 1⟩, "ⱒ ⱓ ⱔ ⱕ ⱖ ⱗ ⱘ ⱙ ⱚ ⱛ ⱜ ⱝ ⱞ ⱟ"⟩, ⟨⟨0x2C60, 0x2C62, 2⟩, "ⱡ ɫ"⟩,
  ⟨⟨0x2C63, 0x2C64, 1⟩, "ᵽ ɽ"⟩, ⟨⟨0x2C67, 0x2C6D, 2⟩, "ⱨ ⱪ ⱬ ɑ"⟩, ⟨⟨0x2C6E, 0x2C70, 1⟩, "ɱ ɐ ɒ"⟩,
  ⟨⟨0x2C72, 0x2C72, 1⟩, "ⱳ"⟩, ⟨⟨0x2C75, 0x2C75, 1⟩, "ⱶ"⟩, ⟨⟨0x2C7C, 0x2C80, 1⟩, "j v ȿ ɀ ⲁ"⟩,
  ⟨⟨0x2C82, 0x2CC4, 2⟩, "ⲃ ⲅ ⲇ ⲉ ⲋ ⲍ ⲏ ⲑ ⲓ ⲕ ⲗ ⲙ ⲛ ⲝ ⲟ ⲡ ⲣ ⲥ ⲧ ⲩ ⲫ ⲭ ⲯ ⲱ ⲳ ⲵ ⲷ ⲹ ⲻ ⲽ ⲿ ⳁ ⳃ ⳅ"⟩,
  ⟨⟨0x2CC6, 0x2CE2, 2⟩, "ⳇ ⳉ ⳋ ⳍ ⳏ ⳑ ⳓ ⳕ ⳗ ⳙ ⳛ ⳝ ⳟ ⳡ ⳣ"⟩, ⟨⟨0x2CEB, 0x2CED, 2⟩, "ⳬ ⳮ"⟩,
  ⟨⟨0x2CF2, 0x2CF2, 1⟩, "ⳳ"⟩, ⟨⟨0x2D6F, 0x2D6F, 1⟩, "ⵡ"⟩, ⟨⟨0x2E9F, 0x2E9F, 1⟩, "母"⟩,
  ⟨⟨0x2EF3, 0x2EF3, 1⟩, "龟"⟩,
  ⟨⟨0x2F00, 0x2F21, 1⟩, "一 丨 丶 丿 乙 亅 二 亠 人 儿 入 八 冂 冖 冫 几 凵 刀 力 勹 匕 匚 匸 十 卜 卩 厂 厶 又 口 囗 土 士 夂"⟩,
  ⟨⟨0x2F22, 0x2F43, 1⟩, "夊 夕 大 女 子 宀 寸 小 尢 尸 屮 山 巛 工 己 巾 干 幺 广 廴 廾 弋 弓 彐 彡 彳 心 戈 戶 手 支 攴 文 斗"⟩,
  ⟨⟨0x2F44, 0x2F65, 1⟩, "斤 方 无 日 曰 月 木 欠 止 歹 殳 毋 比 毛 氏 气 水 火 爪 父 爻 爿 片 牙 牛 犬 玄 玉 瓜 瓦 甘 生 用 田"⟩,
  ⟨⟨0x2F66, 0x2F87, 1⟩, "疋 疒 癶 白 皮 皿 目 矛 矢 石 示 禸 禾 穴 立 竹 米 糸 缶 网 羊 羽 老 而 耒 耳 聿 肉 臣 自 至 臼 舌 舛"⟩,
  ⟨⟨0x2F88, 0x2FA9, 1⟩, "舟 艮 色 艸 虍 虫 血 行 衣 襾 見 角 言 谷 豆 豕 豸 貝 赤 走 足 身 車 辛 辰 辵 邑 酉 釆 里 金 長 門 阜"⟩,
  ⟨⟨0x2FAA, 0x2FCB, 1⟩, "隶 隹 雨 靑 非 面 革 韋 韭 音 頁 風 飛 食 首 香 馬 骨 高 髟 鬥 鬯 鬲 鬼 魚 鳥 鹵 鹿 麥 麻 黃 黍 黑 黹"⟩,
  ⟨⟨0x2FCC, 0x2FD5, 1⟩, "黽 鼎 鼓 鼠 鼻 齊 齒 龍 龜 龠"⟩, ⟨⟨0x3002, 0x3002, 1⟩, "."⟩,
  ⟨⟨0x3036, 0x3038, 2⟩, "〒 十"⟩, ⟨⟨0x3039, 0x303A, 1⟩, "卄 卅"⟩, ⟨⟨0x309F, 0x309F, 1⟩, "より"⟩,
  ⟨⟨0x30FF, 0x30FF, 1⟩, "コト"⟩,
  ⟨⟨0x3131, 0x3152, 1⟩, "ᄀ ᄁ ᆪ ᄂ ᆬ ᆭ ᄃ ᄄ ᄅ ᆰ ᆱ ᆲ ᆳ ᆴ ᆵ ᄚ ᄆ ᄇ ᄈ ᄡ ᄉ ᄊ ᄋ ᄌ ᄍ ᄎ ᄏ ᄐ ᄑ ᄒ ᅡ ᅢ ᅣ ᅤ"⟩,
  ⟨⟨0x3153, 0x3163, 1⟩, "ᅥ ᅦ ᅧ ᅨ ᅩ ᅪ ᅫ ᅬ ᅭ ᅮ ᅯ ᅰ ᅱ ᅲ ᅳ ᅴ ᅵ"⟩,
  ⟨⟨0x3165, 0x3186, 1⟩, "ᄔ ᄕ ᇇ ᇈ ᇌ ᇎ ᇓ ᇗ ᇙ ᄜ ᇝ ᇟ ᄝ ᄞ ᄠ ᄢ ᄣ ᄧ ᄩ ᄫ ᄬ ᄭ ᄮ ᄯ ᄲ ᄶ ᅀ ᅇ ᅌ ᇱ ᇲ ᅗ ᅘ ᅙ"⟩,
  ⟨⟨0x3187, 0x318E, 1⟩, "ᆄ ᆅ ᆈ ᆑ ᆒ ᆔ ᆞ ᆡ"⟩, ⟨⟨0x3192, 0x319F, 1⟩, "一 二 三 四 上 中 下 甲 乙 丙 丁 天 地 人"⟩,
  ⟨⟨0x3200, 0x3210, 1⟩, "(ᄀ) (ᄂ) (ᄃ) (ᄅ) (ᄆ) (ᄇ) (ᄉ) (ᄋ) (ᄌ) (ᄎ) (ᄏ) (ᄐ) (ᄑ) (ᄒ) (가) (나) (다)"⟩,
  ⟨⟨0x3211, 0x321E, 1⟩, "(라) (마) (바) (사) (아) (자) (차) (카) (타) (파) (하) (주) (오전) (오후)"⟩,
  ⟨⟨0x3220, 0x3230, 1⟩, "(一) (二) (三) (四) (五) (六) (七) (八) (九) (十) (月) (火) (水) (木) (金) (土) (日)"⟩,
  ⟨⟨0x3231, 0x3241, 1⟩, "(株) (有) (社) (名) (特) (財) (祝) (労) (代) (呼) (学) (監) (企) (資) (協) (祭) (休)"⟩,
  ⟨⟨0x3242, 0x3247, 1⟩, "(自) (至) 問 幼 文 箏"⟩,
  ⟨⟨0x3250, 0x3269, 1⟩, "pte 21 22 23 24 25 26 27 28 29 30 31 32 33 34 35 ᄀ ᄂ ᄃ ᄅ ᄆ ᄇ ᄉ ᄋ ᄌ ᄎ"⟩,
  ⟨⟨0x326A, 0x327E, 1⟩, "ᄏ ᄐ ᄑ ᄒ 가 나 다 라 마 바 사 아 자 차 카 타 파 하 참고 주의 우"⟩,
  ⟨⟨0x3280, 0x32A1, 1⟩, "一 二 三 四 五 六 七 八 九 十 月 火 水 木 金 土 日 株 有 社 名 特 財 祝 労 秘 男 女 適 優 印 注 項 休"⟩,
  ⟨⟨0x32A2, 0x32BD, 1⟩, "写 正 上 中 下 左 右 医 宗 学 監 企 資 協 夜 36 37 38 39 40 41 42 43 44 45 46 47 48"⟩,
  ⟨⟨0x32BE, 0x32D4, 1⟩, "49 50 1月 2月 3月 4月 5月 6月 7月 8月 9月 10月 11月 12月 hg erg ev ltd ア イ ウ エ オ"⟩,
  ⟨⟨0x32D5, 0x32F6, 1⟩, "カ キ ク ケ コ サ シ ス セ ソ タ チ ツ テ ト ナ ニ ヌ ネ ノ ハ ヒ フ ヘ ホ マ ミ ム メ モ ヤ ユ ヨ ラ"⟩,
  ⟨⟨0x32F7, 0x3309, 1⟩, "リ ル レ ロ ワ ヰ ヱ ヲ 令和 アパート アルファ アンペア アール イニング インチ ウォン エスクード エーカー オンス"⟩,
  ⟨⟨0x330A, 0x3318, 1⟩, "オーム カイリ カラット カロリー ガロン ガンマ ギガ ギニー キュリー ギルダー キロ キログラム キロメートル キロワット グラム"⟩,
  ⟨⟨0x3319, 0x3328, 1⟩, "グラムトン クルゼイロ クローネ ケース コルナ コーポ サイクル サンチーム シリング センチ セント ダース デシ ドル トン ナノ"⟩,
  ⟨⟨0x3329, 0x3337, 1⟩, "ノット ハイツ パーセント パーツ バーレル ピアストル ピクル ピコ ビル ファラッド フィート ブッシェル フラン ヘクタール ペソ"⟩,
  ⟨⟨0x3338, 0x3347, 1⟩, "ペニヒ ヘルツ ペンス ページ ベータ ポイント ボルト ホン ポンド ホール ホーン マイクロ マイル マッハ マルク マンション"⟩,
  ⟨⟨0x3348, 0x3357, 1⟩, "ミクロン ミリ ミリバール メガ メガトン メートル ヤード ヤール ユアン リットル リラ ルピー ルーブル レム レントゲン ワット"⟩,
  ⟨⟨0x3358, 0x336A, 1⟩, "0点 1点 2点 3点 4点 5点 6点 7点 8点 9点 10点 11点 12点 13点 14点 15点 16点 17点 18点"⟩,
  ⟨⟨0x336B, 0x337D, 1⟩, "19点 20点 21点 22点 23点 24点 hpa da au bar ov pc dm dm2 dm3 iu 平成 昭和 大正"⟩,
  ⟨⟨0x337E, 0x3391, 1⟩, "明治 株式会社 pa na μa ma ka kb mb gb cal kcal pf nf μf μg mg kg hz khz"⟩,
  ⟨⟨0x3392, 0x33A5, 1⟩, "mhz ghz thz μl ml dl kl fm nm μm mm cm km mm2 cm2 m2 km2 mm3 cm3 m3"⟩,
  ⟨⟨0x33A6, 0x33B7, 1⟩, "km3 m∕s m∕s2 pa kpa mpa gpa rad rad∕s rad∕s2 ps ns μs ms pv nv μv mv"⟩,
  ⟨⟨0x33B8, 0x33C1, 1⟩, "kv mv pw nw μw mw kw mw kω mω"⟩, ⟨⟨0x33C3, 0x33C6, 1⟩, "bq cc cd c∕kg"⟩,
  ⟨⟨0x33C8, 0x33D7, 1⟩, "db gy ha hp in kk km kt lm ln log lx mb mil mol ph"⟩,
  ⟨⟨0x33D9, 0x33EC, 1⟩, "ppm pr sr sv wb v∕m a∕m 1日 2日 3日 4日 5日 6日 7日 8日 9日 10日 11日 12日 13日"⟩,
  ⟨⟨0x33ED, 0x33FD, 1⟩, "14日 15日 16日 17日 18日 19日 20日 21日 22日 23日 24日 25日 26日 27日 28日 29日 30日"⟩,
  ⟨⟨0x33FE, 0x33FF, 1⟩, "31日 gal"⟩,
  ⟨⟨0xA640, 0xA66C, 2⟩, "ꙁ ꙃ ꙅ ꙇ ꙉ ꙋ ꙍ ꙏ ꙑ ꙓ ꙕ ꙗ ꙙ ꙛ ꙝ ꙟ ꙡ ꙣ ꙥ ꙧ ꙩ ꙫ ꙭ"⟩,
  ⟨⟨0xA680, 0xA69C, 2⟩, "ꚁ ꚃ ꚅ ꚇ ꚉ ꚋ ꚍ ꚏ ꚑ ꚓ ꚕ ꚗ ꚙ ꚛ ъ"⟩, ⟨⟨0xA69D, 0xA69D, 1⟩, "ь"⟩,
  ⟨⟨0xA722, 0xA72E, 2⟩, "ꜣ ꜥ ꜧ ꜩ ꜫ ꜭ ꜯ"⟩,
  ⟨⟨0xA732, 0xA770, 2⟩, "ꜳ ꜵ ꜷ ꜹ ꜻ ꜽ ꜿ ꝁ ꝃ ꝅ ꝇ ꝉ ꝋ ꝍ ꝏ ꝑ ꝓ ꝕ ꝗ ꝙ ꝛ ꝝ ꝟ ꝡ ꝣ ꝥ ꝧ ꝩ ꝫ ꝭ ꝯ ꝯ"⟩,
  ⟨⟨0xA779, 0xA77D, 2⟩, "ꝺ ꝼ ᵹ"⟩, ⟨⟨0xA77E, 0xA786, 2⟩, "ꝿ ꞁ ꞃ ꞅ ꞇ"⟩,
  ⟨⟨0xA78B, 0xA78D, 2⟩, "ꞌ ɥ"⟩, ⟨⟨0xA790, 0xA792, 2⟩, "ꞑ ꞓ"⟩,
  ⟨⟨0xA796, 0xA7AA, 2⟩, "ꞗ ꞙ ꞛ ꞝ ꞟ ꞡ ꞣ ꞥ ꞧ ꞩ ɦ"⟩, ⟨⟨0xA7AB, 0xA7AE, 1⟩, "ɜ ɡ ɬ ɪ"⟩,
  ⟨⟨0xA7B0, 0xA7B4, 1⟩, "ʞ ʇ ʝ ꭓ ꞵ"⟩, ⟨⟨0xA7B6, 0xA7C4, 2⟩, "ꞷ ꞹ ꞻ ꞽ ꞿ ꟁ ꟃ ꞔ"⟩,
  ⟨⟨0xA7C5, 0xA7C7, 1⟩, "ʂ ᶎ ꟈ"⟩, ⟨⟨0xA7C9, 0xA7C9, 1⟩, "ꟊ"⟩, ⟨⟨0xA7D0, 0xA7D0, 1⟩, "ꟑ"⟩,
  ⟨⟨0xA7D6, 0xA7D8, 2⟩, "ꟗ ꟙ"⟩, ⟨⟨0xA7F2, 0xA7F5, 1⟩, "c f q ꟶ"⟩, ⟨⟨0xA7F8, 0xA7F9, 1⟩, "ħ œ"⟩,
  ⟨⟨0xAB5C, 0xAB5F, 1⟩, "ꜧ ꬷ ɫ ꭒ"⟩, ⟨⟨0xAB69, 0xAB69, 1⟩, "ʍ"⟩,
  ⟨⟨0xAB70, 0xAB91, 1⟩, "Ꭰ Ꭱ Ꭲ Ꭳ Ꭴ Ꭵ Ꭶ Ꭷ Ꭸ Ꭹ Ꭺ Ꭻ Ꭼ Ꭽ Ꭾ Ꭿ Ꮀ Ꮁ Ꮂ Ꮃ Ꮄ Ꮅ Ꮆ Ꮇ Ꮈ Ꮉ Ꮊ Ꮋ Ꮌ Ꮍ Ꮎ Ꮏ Ꮐ Ꮑ"⟩,
  ⟨⟨0xAB92, 0xABB3, 1⟩, "Ꮒ Ꮓ Ꮔ Ꮕ Ꮖ Ꮗ Ꮘ Ꮙ Ꮚ Ꮛ Ꮜ Ꮝ Ꮞ Ꮟ Ꮠ Ꮡ Ꮢ Ꮣ Ꮤ Ꮥ Ꮦ Ꮧ Ꮨ Ꮩ Ꮪ Ꮫ Ꮬ Ꮭ Ꮮ Ꮯ Ꮰ Ꮱ Ꮲ Ꮳ"⟩,
  ⟨⟨0xABB4, 0xABBF, 1⟩, "Ꮴ Ꮵ Ꮶ Ꮷ Ꮸ Ꮹ Ꮺ Ꮻ Ꮼ Ꮽ Ꮾ Ꮿ"⟩,
  ⟨⟨0xF900, 0xF921, 1⟩, "豈 更 車 賈 滑 串 句 龜 龜 契 金 喇 奈 懶 癩 羅 蘿 螺 裸 邏 樂 洛 烙 珞 落 酪 駱 亂 卵 欄 爛 蘭 鸞 嵐"⟩,
  ⟨⟨0xF922, 0xF943, 1⟩, "濫 藍 襤 拉 臘 蠟 廊 朗 浪 狼 郎 來 冷 勞 擄 櫓 爐 盧 老 蘆 虜 路 露 魯 鷺 碌 祿 綠 菉 錄 鹿 論 壟 弄"⟩,
  ⟨⟨0xF944, 0xF965, 1⟩, "籠 聾 牢 磊 賂 雷 壘 屢 樓 淚 漏 累 縷 陋 勒 肋 凜 凌 稜 綾 菱 陵 讀 拏 樂 諾 丹 寧 怒 率 異 北 磻 便"⟩,
  ⟨⟨0xF966, 0xF987, 1⟩, "復 不 泌 數 索 參 塞 省 葉 說 殺 辰 沈 拾 若 掠 略 亮 兩 凉 梁 糧 良 諒 量 勵 呂 女 廬 旅 濾 礪 閭 驪"⟩,
  ⟨⟨0xF988, 0xF9A9, 1⟩, "麗 黎 力 曆 歷 轢 年 憐 戀 撚 漣 煉 璉 秊 練 聯 輦 蓮 連 鍊 列 劣 咽 烈 裂 說 廉 念 捻 殮 簾 獵 令 囹"⟩,
  ⟨⟨0xF9AA, 0xF9CB, 1⟩, "寧 嶺 怜 玲 瑩 羚 聆 鈴 零 靈 領 例 禮 醴 隸 惡 了 僚 寮 尿 料 樂 燎 療 蓼 遼 龍 暈 阮 劉 杻 柳 流 溜"⟩,
  ⟨⟨0xF9CC, 0xF9ED, 1⟩, "琉 留 硫 紐 類 六 戮 陸 倫 崙 淪 輪 律 慄 栗 率 隆 利 吏 履 易 李 梨 泥 理 痢 罹 裏 裡 里 離 匿 溺 吝"⟩,
  ⟨⟨0xF9EE, 0xFA0D, 1⟩, "燐 璘 藺 隣 鱗 麟 林 淋 臨 立 笠 粒 狀 炙 識 什 茶 刺 切 度 拓 糖 宅 洞 暴 輻 行 降 見 廓 兀 嗀"⟩,
  ⟨⟨0xFA10, 0xFA12, 2⟩, "塚 晴"⟩, ⟨⟨0xFA15, 0xFA1E, 1⟩, "凞 猪 益 礼 神 祥 福 靖 精 羽"⟩,
  ⟨⟨0xFA20, 0xFA22, 2⟩, "蘒 諸"⟩, ⟨⟨0xFA25, 0xFA26, 1⟩, "逸 都"⟩,
  ⟨⟨0xFA2A, 0xFA4B, 1⟩, "飯 飼 館 鶴 郞 隷 侮 僧 免 勉 勤 卑 喝 嘆 器 塀 墨 層 屮 悔 慨 憎 懲 敏 既 暑 梅 海 渚 漢 煮 爫 琢 碑"⟩,
  ⟨⟨0xFA4C, 0xFA6D, 1⟩, "社 祉 祈 祐 祖 祝 禍 禎 穀 突 節 練 縉 繁 署 者 臭 艹 艹 著 褐 視 謁 謹 賓 贈 辶 逸 難 響 頻 恵 𤋮 舘"⟩,
  ⟨⟨0xFA70, 0xFA91, 1⟩, "並 况 全 侀 充 冀 勇 勺 喝 啕 喙 嗢 塚 墳 奄 奔 婢 嬨 廒 廙 彩 徭 惘 慎 愈 憎 慠 懲 戴 揄 搜 摒 敖 晴"⟩,
  ⟨⟨0xFA92, 0xFAB3, 1⟩, "朗 望 杖 歹 殺 流 滛 滋 漢 瀞 煮 瞧 爵 犯 猪 瑱 甆 画 瘝 瘟 益 盛 直 睊 着 磌 窱 節 类 絛 練 缾 者 荒"⟩,
  ⟨⟨0xFAB4, 0xFAD5, 1⟩, "華 蝹 襁 覆 視 調 諸 請 謁 諾 諭 謹 變 贈 輸 遲 醙 鉶 陼 難 靖 韛 響 頋 頻 鬒 龜 𢡊 𢡄 𣏕 㮝 䀘 䀹 𥉉"⟩,
  ⟨⟨0xFAD6, 0xFAD9, 1⟩, "𥳐 𧻓 齃 龎"⟩, ⟨⟨0xFB00, 0xFB06, 1⟩, "ff fi fl ffi ffl st st"⟩,
  ⟨⟨0xFB13, 0xFB17, 1⟩, "մն մե մի վն մխ"⟩, ⟨⟨0xFB1D, 0xFB1F, 2⟩, "\u05d9\u05b4 \u05f2\u05b7"⟩,
  ⟨⟨0xFB20, 0xFB29, 1⟩, "\u05e2 \u05d0 \u05d3 \u05d4 \u05db \u05dc \u05dd \u05e8 \u05ea +"⟩,
  ⟨⟨0xFB2A, 0xFB2D, 1⟩, "\u05e9\u05c1 \u05e9\u05c2 \u05e9\u05bc\u05c1 \u05e9\u05bc\u05c2"⟩,
  ⟨⟨0xFB2E, 0xFB32, 1⟩, "\u05d0\u05b7 \u05d0\u05b8 \u05d0\u05bc \u05d1\u05bc \u05d2\u05bc"⟩,
  ⟨⟨0xFB33, 0xFB36, 1⟩, "\u05d3\u05bc \u05d4\u05bc \u05d5\u05bc \u05d6\u05bc"⟩,
  ⟨⟨0xFB38, 0xFB3C, 1⟩, "\u05d8\u05bc \u05d9\u05bc \u05da\u05bc \u05db\u05bc \u05dc\u05bc"⟩,
  ⟨⟨0xFB3E, 0xFB40, 2⟩, "\u05de\u05bc \u05e0\u05bc"⟩,
  ⟨⟨0xFB41, 0xFB43, 2⟩, "\u05e1\u05bc \u05e3\u05bc"⟩,
  ⟨⟨0xFB44, 0xFB46, 2⟩, "\u05e4\u05bc \u05e6\u05bc"⟩,
  ⟨⟨0xFB47, 0xFB4B, 1⟩, "\u05e7\u05bc \u05e8\u05bc \u05e9\u05bc \u05ea\u05bc \u05d5\u05b9"⟩,
  ⟨⟨0xFB4C, 0xFB51, 1⟩, "\u05d1\u05bf \u05db\u05bf \u05e4\u05bf \u05d0\u05dc \u0671 \u0671"⟩,
  ⟨⟨0xFB52, 0xFB5A, 1⟩, "\u067b \u067b \u067b \u067b \u067e \u067e \u067e \u067e \u0680"⟩,
  ⟨⟨0xFB5B, 0xFB63, 1⟩, "\u0680 \u0680 \u0680 \u067a \u067a \u067a \u067a \u067f \u067f"⟩,
  ⟨⟨0xFB64, 0xFB6C, 1⟩, "\u067f \u067f \u0679 \u0679 \u0679 \u0679 \u06a4 \u06a4 \u06a4"⟩,
  ⟨⟨0xFB6D, 0xFB75, 1⟩, "\u06a4 \u06a6 \u06a6 \u06a6 \u06a6 \u0684 \u0684 \u0684 \u0684"⟩,
  ⟨⟨0xFB76, 0xFB7E, 1⟩, "\u0683 \u0683 \u0683 \u0683 \u0686 \u0686 \u0686 \u0686 \u0687"⟩,
  ⟨⟨0xFB7F, 0xFB87, 1⟩, "\u0687 \u0687 \u0687 \u068d \u068d \u068c \u068c \u068e \u068e"⟩,
  ⟨⟨0xFB88, 0xFB90, 1⟩, "\u0688 \u0688 \u0698 \u0698 \u0691 \u0691 \u06a9 \u06a9 \u06a9"⟩,
  ⟨⟨0xFB91, 0xFB99, 1⟩, "\u06a9 \u06af \u06af \u06af \u06af \u06b3 \u06b3 \u06b3 \u06b3"⟩,
  ⟨⟨0xFB9A, 0xFBA2, 1⟩, "\u06b1 \u06b1 \u06b1 \u06b1 \u06ba \u06ba \u06bb \u06bb \u06bb"⟩,
  ⟨⟨0xFBA3, 0xFBAB, 1⟩, "\u06bb \u06c0 \u06c0 \u06c1 \u06c1 \u06c1 \u06c1 \u06be \u06be"⟩,
  ⟨⟨0xFBAC, 0xFBB1, 1⟩, "\u06be \u06be \u06d2 \u06d2 \u06d3 \u06d3"⟩,
  ⟨⟨0xFBD3, 0xFBDB, 1⟩, "\u06ad \u06ad \u06ad \u06ad \u06c7 \u06c7 \u06c6 \u06c6 \u06c8"⟩,
  ⟨⟨0xFBDC, 0xFBE4, 1⟩, "\u06c8 \u06c7\u0674 \u06cb \u06cb \u06c5 \u06c5 \u06c9 \u06c9 \u06d0"⟩,
  ⟨⟨0xFBE5, 0xFBEB, 1⟩, "\u06d0 \u06d0 \u06d0 \u0649 \u0649 \u0626\u0627 \u0626\u0627"⟩,
  ⟨⟨0xFBEC, 0xFBF0, 1⟩, "\u0626\u06d5 \u0626\u06d5 \u0626\u0648 \u0626\u0648 \u0626\u06c7"⟩,
  ⟨⟨0xFBF1, 0xFBF5, 1⟩, "\u0626\u06c7 \u0626\u06c6 \u0626\u06c6 \u0626\u06c8 \u0626\u06c8"⟩,
  ⟨⟨0xFBF6, 0xFBFA, 1⟩, "\u0626\u06d0 \u0626\u06d0 \u0626\u06d0 \u0626\u0649 \u0626\u0649"⟩,
  ⟨⟨0xFBFB, 0xFC01, 1⟩, "\u0626\u0649 \u06cc \u06cc \u06cc \u06cc \u0626\u062c \u0626\u062d"⟩,
  ⟨⟨0xFC02, 0xFC06, 1⟩, "\u0626\u0645 \u0626\u0649 \u0626\u064a \u0628\u062c \u0628\u062d"⟩,
  ⟨⟨0xFC07, 0xFC0B, 1⟩, "\u0628\u062e \u0628\u0645 \u0628\u0649 \u0628\u064a \u062a\u062c"⟩,
  ⟨⟨0xFC0C, 0xFC10, 1⟩, "\u062a\u062d \u062a\u062e \u062a\u0645 \u062a\u0649 \u062a\u064a"⟩,
  ⟨⟨0xFC11, 0xFC15, 1⟩, "\u062b\u062c \u062b\u0645 \u062b\u0649 \u062b\u064a \u062c\u062d"⟩,
  ⟨⟨0xFC16, 0xFC1A, 1⟩, "\u062c\u0645 \u062d\u062c \u062d\u0645 \u062e\u062c \u062e\u062d"⟩,
  ⟨⟨0xFC1B, 0xFC1F, 1⟩, "\u062e\u0645 \u0633\u062c \u0633\u062d \u0633\u062e \u0633\u0645"⟩,
  ⟨⟨0xFC20, 0xFC24, 1⟩, "\u0635\u062d \u0635\u0645 \u0636\u062c \u0636\u062d \u0636\u062e"⟩,
  ⟨⟨0xFC25, 0xFC29, 1⟩, "\u0636\u0645 \u0637\u062d \u0637\u0645 \u0638\u0645 \u0639\u062c"⟩,
  ⟨⟨0xFC2A, 0xFC2E, 1⟩, "\u0639\u0645 \u063a\u062c \u063a\u0645 \u0641\u062c \u0641\u062d"⟩,
  ⟨⟨0xFC2F, 0xFC33, 1⟩, "\u0641\u062e \u0641\u0645 \u0641\u0649 \u0641\u064a \u0642\u062d"⟩,
  ⟨⟨0xFC34, 0xFC38, 1⟩, "\u0642\u0645 \u0642\u0649 \u0642\u064a \u0643\u0627 \u0643\u062c"⟩,
  ⟨⟨0xFC39, 0xFC3D, 1⟩, "\u0643\u062d \u0643\u062e \u0643\u0644 \u0643\u0645 \u0643\u0649"⟩,
  ⟨⟨0xFC3E, 0xFC42, 1⟩, "\u0643\u064a \u0644\u062c \u0644\u062d \u0644\u062e \u0644\u0645"⟩,
  ⟨⟨0xFC43, 0xFC47, 1⟩, "\u0644\u0649 \u0644\u064a \u0645\u062c \u0645\u062d \u0645\u062e"⟩,
  ⟨⟨0xFC48, 0xFC4C, 1⟩, "\u0645\u0645 \u0645\u0649 \u0645\u064a \u0646\u062c \u0646\u062d"⟩,
  ⟨⟨0xFC4D, 0xFC51, 1⟩, "\u0646\u062e \u0646\u0645 \u0646\u0649 \u0646\u064a \u0647\u062c"⟩,
  ⟨⟨0xFC52, 0xFC56, 1⟩, "\u0647\u0645 \u0647\u0649 \u0647\u064a \u064a\u062c \u064a\u062d"⟩,
  ⟨⟨0xFC57, 0xFC5B, 1⟩, "\u064a\u062e \u064a\u0645 \u064a\u0649 \u064a\u064a \u0630\u0670"⟩,
  ⟨⟨0xFC5C, 0xFC5D, 1⟩, "\u0631\u0670 \u0649\u0670"⟩,
  ⟨⟨0xFC64, 0xFC68, 1⟩, "\u0626\u0631 \u0626\u0632 \u0626\u0645 \u0626\u0646 \u0626\u0649"⟩,
  ⟨⟨0xFC69, 0xFC6D, 1⟩, "\u0626\u064a \u0628\u0631 \u0628\u0632 \u0628\u0645 \u0628\u0646"⟩,
  ⟨⟨0xFC6E, 0xFC72, 1⟩, "\u0628\u0649 \u0628\u064a \u062a\u0631 \u062a\u0632 \u062a\u0645"⟩,
  ⟨⟨0xFC73, 0xFC77, 1⟩, "\u062a\u0646 \u062a\u0649 \u062a\u064a \u062b\u0631 \u062b\u0632"⟩,
  ⟨⟨0xFC78, 0xFC7C, 1⟩, "\u062b\u0645 \u062b\u0646 \u062b\u0649 \u062b\u064a \u0641\u0649"⟩,
  ⟨⟨0xFC7D, 0xFC81, 1⟩, "\u0641\u064a \u0642\u0649 \u0642\u064a \u0643\u0627 \u0643\u0644"⟩,
  ⟨⟨0xFC82, 0xFC86, 1⟩, "\u0643\u0645 \u0643\u0649 \u0643\u064a \u0644\u0645 \u0644\u0649"⟩,
  ⟨⟨0xFC87, 0xFC8B, 1⟩, "\u0644\u064a \u0645\u0627 \u0645\u0645 \u0646\u0631 \u0646\u0632"⟩,
  ⟨⟨0xFC8C, 0xFC90, 1⟩, "\u0646\u0645 \u0646\u0646 \u0646\u0649 \u0646\u064a \u0649\u0670"⟩,
  ⟨⟨0xFC91, 0xFC95, 1⟩, "\u064a\u0631 \u064a\u0632 \u064a\u0645 \u064a\u0646 \u064a\u0649"⟩,
  ⟨⟨0xFC96, 0xFC9A, 1⟩, "\u064a\u064a \u0626\u062c \u0626\u062d \u0626\u062e \u0626\u0645"⟩,
  ⟨⟨0xFC9B, 0xFC9F, 1⟩, "\u0626\u0647 \u0628\u062c \u0628\u062d \u0628\u062e \u0628\u0645"⟩,
  ⟨⟨0xFCA0, 0xFCA4, 1⟩, "\u0628\u0647 \u062a\u062c \u062a\u062d \u062a\u062e \u062a\u0645"⟩,
  ⟨⟨0xFCA5, 0xFCA9, 1⟩, "\u062a\u0647 \u062b\u0645 \u062c\u062d \u062c\u0645 \u062d\u062c"⟩,
  ⟨⟨0xFCAA, 0xFCAE, 1⟩, "\u062d\u0645 \u062e\u062c \u062e\u0645 \u0633\u062c \u0633\u062d"⟩,
  ⟨⟨0xFCAF, 0xFCB3, 1⟩, "\u0633\u062e \u0633\u0645 \u0635\u062d \u0635\u062e \u0635\u0645"⟩,
  ⟨⟨0xFCB4, 0xFCB8, 1⟩, "\u0636\u062c \u0636\u062d \u0636\u062e \u0636\u0645 \u0637\u062d"⟩,
  ⟨⟨0xFCB9, 0xFCBD, 1⟩, "\u0638\u0645 \u0639\u062c \u0639\u0645 \u063a\u062c \u063a\u0645"⟩,
  ⟨⟨0xFCBE, 0xFCC2, 1⟩, "\u0641\u062c \u0641\u062d \u0641\u062e \u0641\u0645 \u0642\u062d"⟩,
  ⟨⟨0xFCC3, 0xFCC7, 1⟩, "\u0642\u0645 \u0643\u062c \u0643\u062d \u0643\u062e \u0643\u0644"⟩,
  ⟨⟨0xFCC8, 0xFCCC, 1⟩, "\u0643\u0645 \u0644\u062c \u0644\u062d \u0644\u062e \u0644\u0645"⟩,
  ⟨⟨0xFCCD, 0xFCD1, 1⟩, "\u0644\u0647 \u0645\u062c \u0645\u062d \u0645\u062e \u0645\u0645"⟩,
  ⟨⟨0xFCD2, 0xFCD6, 1⟩, "\u0646\u062c \u0646\u062d \u0646\u062e \u0646\u0645 \u0646\u0647"⟩,
  ⟨⟨0xFCD7, 0xFCDB, 1⟩, "\u0647\u062c \u0647\u0645 \u0647\u0670 \u064a\u062c \u064a\u062d"⟩,
  ⟨⟨0xFCDC, 0xFCE0, 1⟩, "\u064a\u062e \u064a\u0645 \u064a\u0647 \u0626\u0645 \u0626\u0647"⟩,
  ⟨⟨0xFCE1, 0xFCE5, 1⟩, "\u0628\u0645 \u0628\u0647 \u062a\u0645 \u062a\u0647 \u062b\u0645"⟩,
  ⟨⟨0xFCE6, 0xFCEA, 1⟩, "\u062b\u0647 \u0633\u0645 \u0633\u0647 \u0634\u0645 \u0634\u0647"⟩,
  ⟨⟨0xFCEB, 0xFCEF, 1⟩, "\u0643\u0644 \u0643\u0645 \u0644\u0645 \u0646\u0645 \u0646\u0647"⟩,
  ⟨⟨0xFCF0, 0xFCF3, 1⟩, "\u064a\u0645 \u064a\u0647 \u0640\u064e\u0651 \u0640\u064f\u0651"⟩,
  ⟨⟨0xFCF4, 0xFCF7, 1⟩, "\u0640\u0650\u0651 \u0637\u0649 \u0637\u064a \u0639\u0649"⟩,
  ⟨⟨0xFCF8, 0xFCFC, 1⟩, "\u0639\u064a \u063a\u0649 \u063a\u064a \u0633\u0649 \u0633\u064a"⟩,
  ⟨⟨0xFCFD, 0xFD01, 1⟩, "\u0634\u0649 \u0634\u064a \u062d\u0649 \u062d\u064a \u062c\u0649"⟩,
  ⟨⟨0xFD02, 0xFD06, 1⟩, "\u062c\u064a \u062e\u0649 \u062e\u064a \u0635\u0649 \u0635\u064a"⟩,
  ⟨⟨0xFD07, 0xFD0B, 1⟩, "\u0636\u0649 \u0636\u064a \u0634\u062c \u0634\u062d \u0634\u062e"⟩,
  ⟨⟨0xFD0C, 0xFD10, 1⟩, "\u0634\u0645 \u0634\u0631 \u0633\u0631 \u0635\u0631 \u0636\u0631"⟩,
  ⟨⟨0xFD11, 0xFD15, 1⟩, "\u0637\u0649 \u0637\u064a \u0639\u0649 \u0639\u064a \u063a\u0649"⟩,
  ⟨⟨0xFD16, 0xFD1A, 1⟩, "\u063a\u064a \u0633\u0649 \u0633\u064a \u0634\u0649 \u0634\u064a"⟩,
  ⟨⟨0xFD1B, 0xFD1F, 1⟩, "\u062d\u0649 \u062d\u064a \u062c\u0649 \u062c\u064a \u062e\u0649"⟩,
  ⟨⟨0xFD20, 0xFD24, 1⟩, "\u062e\u064a \u0635\u0649 \u0635\u064a \u0636\u0649 \u0636\u064a"⟩,
  ⟨⟨0xFD25, 0xFD29, 1⟩, "\u0634\u062c \u0634\u062d \u0634\u062e \u0634\u0645 \u0634\u0631"⟩,
  ⟨⟨0xFD2A, 0xFD2E, 1⟩, "\u0633\u0631 \u0635\u0631 \u0636\u0631 \u0634\u062c \u0634\u062d"⟩,
  ⟨⟨0xFD2F, 0xFD33, 1⟩, "\u0634\u062e \u0634\u0645 \u0633\u0647 \u0634\u0647 \u0637\u0645"⟩,
  ⟨⟨0xFD34, 0xFD38, 1⟩, "\u0633\u062c \u0633\u062d \u0633\u062e \u0634\u062c \u0634\u062d"⟩,
  ⟨⟨0xFD39, 0xFD3D, 1⟩, "\u0634\u062e \u0637\u0645 \u0638\u0645 \u0627\u064b \u0627\u064b"⟩,
  ⟨⟨0xFD50, 0xFD52, 1⟩, "\u062a\u062c\u0645 \u062a\u062d\u062c \u062a\u062d\u062c"⟩,
  ⟨⟨0xFD53, 0xFD55, 1⟩, "\u062a\u062d\u0645 \u062a\u062e\u0645 \u062a\u0645\u062c"⟩,
  ⟨⟨0xFD56, 0xFD58, 1⟩, "\u062a\u0645\u062d \u062a\u0645\u062e \u062c\u0645\u062d"⟩,
  ⟨⟨0xFD59, 0xFD5B, 1⟩, "\u062c\u0645\u062d \u062d\u0645\u064a \u062d\u0645\u0649"⟩,
  ⟨⟨0xFD5C, 0xFD5E, 1⟩, "\u0633\u062d\u062c \u0633\u062c\u062d \u0633\u062c\u0649"⟩,
  ⟨⟨0xFD5F, 0xFD61, 1⟩, "\u0633\u0645\u062d \u0633\u0645\u062d \u0633\u0645\u062c"⟩,
  ⟨⟨0xFD62, 0xFD64, 1⟩, "\u0633\u0645\u0645 \u0633\u0645\u0645 \u0635\u062d\u062d"⟩,
  ⟨⟨0xFD65, 0xFD67, 1⟩, "\u0635\u062d\u062d \u0635\u0645\u0645 \u0634\u062d\u0645"⟩,
  ⟨⟨0xFD68, 0xFD6A, 1⟩, "\u0634\u062d\u0645 \u0634\u062c\u064a \u0634\u0645\u062e"⟩,
  ⟨⟨0xFD6B, 0xFD6D, 1⟩, "\u0634\u0645\u062e \u0634\u0645\u0645 \u0634\u0645\u0645"⟩,
  ⟨⟨0xFD6E, 0xFD70, 1⟩, "\u0636\u062d\u0649 \u0636\u062e\u0645 \u0636\u062e\u0645"⟩,
  ⟨⟨0xFD71, 0xFD73, 1⟩, "\u0637\u0645\u062d \u0637\u0645\u062d \u0637\u0645\u0645"⟩,
  ⟨⟨0xFD74, 0xFD76, 1⟩, "\u0637\u0645\u064a \u0639\u062c\u0645 \u0639\u0645\u0645"⟩,
  ⟨⟨0xFD77, 0xFD79, 1⟩, "\u0639\u0645\u0645 \u0639\u0645\u0649 \u063a\u0645\u0645"⟩,
  ⟨⟨0xFD7A, 0xFD7C, 1⟩, "\u063a\u0645\u064a \u063a\u0645\u0649 \u0641\u062e\u0645"⟩,
  ⟨⟨0xFD7D, 0xFD7F, 1⟩, "\u0641\u062e\u0645 \u0642\u0645\u062d \u0642\u0645\u0645"⟩,
  ⟨⟨0xFD80, 0xFD82, 1⟩, "\u0644\u062d\u0645 \u0644\u062d\u064a \u0644\u062d\u0649"⟩,
  ⟨⟨0xFD83, 0xFD85, 1⟩, "\u0644\u062c\u062c \u0644\u062c\u062c \u0644\u062e\u0645"⟩,
  ⟨⟨0xFD86, 0xFD88, 1⟩, "\u0644\u062e\u0645 \u0644\u0645\u062d \u0644\u0645\u062d"⟩,
  ⟨⟨0xFD89, 0xFD8B, 1⟩, "\u0645\u062d\u062c \u0645\u062d\u0645 \u0645\u062d\u064a"⟩,
  ⟨⟨0xFD8C, 0xFD8E, 1⟩, "\u0645\u062c\u062d \u0645\u062c\u0645 \u0645\u062e\u062c"⟩,
  ⟨⟨0xFD8F, 0xFD8F, 1⟩, "\u0645\u062e\u0645"⟩,
  ⟨⟨0xFD92, 0xFD94, 1⟩, "\u0645\u062c\u062e \u0647\u0645\u062c \u0647\u0645\u0645"⟩,
  ⟨⟨0xFD95, 0xFD97, 1⟩, "\u0646\u062d\u0645 \u0646\u062d\u0649 \u0646\u062c\u0645"⟩,
  ⟨⟨0xFD98, 0xFD9A, 1⟩, "\u0646\u062c\u0645 \u0646\u062c\u0649 \u0646\u0645\u064a"⟩,
  ⟨⟨0xFD9B, 0xFD9D, 1⟩, "\u0646\u0645\u0649 \u064a\u0645\u0645 \u064a\u0645\u0645"⟩,
  ⟨⟨0xFD9E, 0xFDA0, 1⟩, "\u0628\u062e\u064a \u062a\u062c\u064a \u062a\u062c\u0649"⟩,
  ⟨⟨0xFDA1, 0xFDA3, 1⟩, "\u062a\u062e\u064a \u062a\u062e\u0649 \u062a\u0645\u064a"⟩,
  ⟨⟨0xFDA4, 0xFDA6, 1⟩, "\u062a\u0645\u0649 \u062c\u0645\u064a \u062c\u062d\u0649"⟩,
  ⟨⟨0xFDA7, 0xFDA9, 1⟩, "\u062c\u0645\u0649 \u0633\u062e\u0649 \u0635\u062d\u064a"⟩,
  ⟨⟨0xFDAA, 0xFDAC, 1⟩, "\u0634\u062d\u064a \u0636\u062d\u064a \u0644\u062c\u064a"⟩,
  ⟨⟨0xFDAD, 0xFDAF, 1⟩, "\u0644\u0645\u064a \u064a\u062d\u064a \u064a\u062c\u064a"⟩,
  ⟨⟨0xFDB0, 0xFDB2, 1⟩, "\u064a\u0645\u064a \u0645\u0645\u064a \u0642\u0645\u064a"⟩,
  ⟨⟨0xFDB3, 0xFDB5, 1⟩, "\u0646\u062d\u064a \u0642\u0645\u062d \u0644\u062d\u0645"⟩,
  ⟨⟨0xFDB6, 0xFDB8, 1⟩, "\u0639\u0645\u064a \u0643\u0645\u064a \u0646\u062c\u062d"⟩,
  ⟨⟨0xFDB9, 0xFDBB, 1⟩, "\u0645\u062e\u064a \u0644\u062c\u0645 \u0643\u0645\u0645"⟩,
  ⟨⟨0xFDBC, 0xFDBE, 1⟩, "\u0644\u062c\u0645 \u0646\u062c\u062d \u062c\u062d\u064a"⟩,
  ⟨⟨0xFDBF, 0xFDC1, 1⟩, "\u062d\u062c\u064a \u0645\u062c\u064a \u0641\u0645\u064a"⟩,
  ⟨⟨0xFDC2, 0xFDC4, 1⟩, "\u0628\u062d\u064a \u0643\u0645\u0645 \u0639\u062c\u0645"⟩,
  ⟨⟨0xFDC5, 0xFDC7, 1⟩, "\u0635\u0645\u0645 \u0633\u062e\u064a \u0646\u062c\u064a"⟩,
  ⟨⟨0xFDF0, 0xFDF2, 1⟩, "\u0635\u0644\u06d2 \u0642\u0644\u06d2 \u0627\u0644\u0644\u0647"⟩,
  ⟨⟨0xFDF3, 0xFDF4, 1⟩, "\u0627\u0643\u0628\u0631 \u0645\u062d\u0645\u062f"⟩,
  ⟨⟨0xFDF5, 0xFDF6, 1⟩, "\u0635\u0644\u0639\u0645 \u0631\u0633\u0648\u0644"⟩,
  ⟨⟨0xFDF7, 0xFDF9, 1⟩, "\u0639\u0644\u064a\u0647 \u0648\u0633\u0644\u0645 \u0635\u0644\u0649"⟩,
  ⟨⟨0xFDFC, 0xFDFC, 1⟩, "\u0631\u06cc\u0627\u0644"⟩, ⟨⟨0xFE10, 0xFE11, 1⟩, ", 、"⟩,
  ⟨⟨0xFE14, 0xFE15, 1⟩, "; !"⟩, ⟨⟨0xFE17, 0xFE18, 1⟩, "〖 〗"⟩,
  ⟨⟨0xFE31, 0xFE44, 1⟩, "— – _ _ ( ) \x7b \x7d 〔 〕 【 】 《 》 〈 〉 「 」 『 』"⟩,
  ⟨⟨0xFE4D, 0xFE51, 1⟩, "_ _ _ , 、"⟩, ⟨⟨0xFE54, 0xFE54, 1⟩, ";"⟩,
  ⟨⟨0xFE57, 0xFE5E, 1⟩, "! — ( ) \x7b \x7d 〔 〕"⟩, ⟨⟨0xFE60, 0xFE63, 1⟩, "& * + -"⟩,
  ⟨⟨0xFE66, 0xFE66, 1⟩, "="⟩, ⟨⟨0xFE69, 0xFE69, 1⟩, "$"⟩, ⟨⟨0xFE71, 0xFE71, 1⟩, "\u0640\u064b"⟩,
  ⟨⟨0xFE77, 0xFE7F, 2⟩, "\u0640\u064e \u0640\u064f \u0640\u0650 \u0640\u0651 \u0640\u0652"⟩,
  ⟨⟨0xFE80, 0xFE88, 1⟩, "\u0621 \u0622 \u0622 \u0623 \u0623 \u0624 \u0624 \u0625 \u0625"⟩,
  ⟨⟨0xFE89, 0xFE91, 1⟩, "\u0626 \u0626 \u0626 \u0626 \u0627 \u0627 \u0628 \u0628 \u0628"⟩,
  ⟨⟨0xFE92, 0xFE9A, 1⟩, "\u0628 \u0629 \u0629 \u062a \u062a \u062a \u062a \u062b \u062b"⟩,
  ⟨⟨0xFE9B, 0xFEA3, 1⟩, "\u062b \u062b \u062c \u062c \u062c \u062c \u062d \u062d \u062d"⟩,
  ⟨⟨0xFEA4, 0xFEAC, 1⟩, "\u062d \u062e \u062e \u062e \u062e \u062f \u062f \u0630 \u0630"⟩,
  ⟨⟨0xFEAD, 0xFEB5, 1⟩, "\u0631 \u0631 \u0632 \u0632 \u0633 \u0633 \u0633 \u0633 \u0634"⟩,
  ⟨⟨0xFEB6, 0xFEBE, 1⟩, "\u0634 \u0634 \u0634 \u0635 \u0635 \u0635 \u0635 \u0636 \u0636"⟩,
  ⟨⟨0xFEBF, 0xFEC7, 1⟩, "\u0636 \u0636 \u0637 \u0637 \u0637 \u0637 \u0638 \u0638 \u0638"⟩,
  ⟨⟨0xFEC8, 0xFED0, 1⟩, "\u0638 \u0639 \u0639 \u0639 \u0639 \u063a \u063a \u063a \u063a"⟩,
  ⟨⟨0xFED1, 0xFED9, 1⟩, "\u0641 \u0641 \u0641 \u0641 \u0642 \u0642 \u0642 \u0642 \u0643"⟩,
  ⟨⟨0xFEDA, 0xFEE2, 1⟩, "\u0643 \u0643 \u0643 \u0644 \u0644 \u0644 \u0644 \u0645 \u0645"⟩,
  ⟨⟨0xFEE3, 0xFEEB, 1⟩, "\u0645 \u0645 \u0646 \u0646 \u0646 \u0646 \u0647 \u0647 \u0647"⟩,
  ⟨⟨0xFEEC, 0xFEF4, 1⟩, "\u0647 \u0648 \u0648 \u0649 \u0649 \u064a \u064a \u064a \u064a"⟩,
  ⟨⟨0xFEF5, 0xFEF9, 1⟩, "\u0644\u0622 \u0644\u0622 \u0644\u0623 \u0644\u0623 \u0644\u0625"⟩,
  ⟨⟨0xFEFA, 0xFEFC, 1⟩, "\u0644\u0625 \u0644\u0627 \u0644\u0627"⟩, ⟨⟨0xFF01, 0xFF02, 1⟩, "! \""⟩,
  ⟨⟨0xFF04, 0xFF06, 2⟩, "$ &"⟩, ⟨⟨0xFF07, 0xFF0E, 1⟩, "' ( ) * + , - ."⟩,
  ⟨⟨0xFF10, 0xFF19, 1⟩, "0 1 2 3 4 5 6 7 8 9"⟩, ⟨⟨0xFF1B, 0xFF1D, 2⟩, "; ="⟩,
  ⟨⟨0xFF21, 0xFF3A, 1⟩, "a b c d e f g h i j k l m n o p q r s t u v w x y z"⟩,
  ⟨⟨0xFF3F, 0xFF5B, 1⟩, "_ ` a b c d e f g h i j k l m n o p q r s t u v w x y z \x7b"⟩,
  ⟨⟨0xFF5D, 0xFF7D, 1⟩, "\x7d ~ ⦅ ⦆ . 「 」 、 ・ ヲ ァ ィ ゥ ェ ォ ャ ュ ョ ッ ー ア イ ウ エ オ カ キ ク ケ コ サ シ ス"⟩,
  ⟨⟨0xFF7E, 0xFF9D, 1⟩, "セ ソ タ チ ツ テ ト ナ ニ ヌ ネ ノ ハ ヒ フ ヘ ホ マ ミ ム メ モ ヤ ユ ヨ ラ リ ル レ ロ ワ ン"⟩,
  ⟨⟨0xFF9E, 0xFF9F, 1⟩, "\u3099 \u309a"⟩,
  ⟨⟨0xFFA1, 0xFFBE, 1⟩, "ᄀ ᄁ ᆪ ᄂ ᆬ ᆭ ᄃ ᄄ ᄅ ᆰ ᆱ ᆲ ᆳ ᆴ ᆵ ᄚ ᄆ ᄇ ᄈ ᄡ ᄉ ᄊ ᄋ ᄌ ᄍ ᄎ ᄏ ᄐ ᄑ ᄒ"⟩,
  ⟨⟨0xFFC2, 0xFFC7, 1⟩, "ᅡ ᅢ ᅣ ᅤ ᅥ ᅦ"⟩, ⟨⟨0xFFCA, 0xFFCF, 1⟩, "ᅧ ᅨ ᅩ ᅪ ᅫ ᅬ"⟩,
  ⟨⟨0xFFD2, 0xFFD7, 1⟩, "ᅭ ᅮ ᅯ ᅰ ᅱ ᅲ"⟩, ⟨⟨0xFFDA, 0xFFDC, 1⟩, "ᅳ ᅴ ᅵ"⟩,
  ⟨⟨0xFFE0, 0xFFE2, 1⟩, "¢ £ ¬"⟩, ⟨⟨0xFFE4, 0xFFE6, 1⟩, "¦ ¥ ₩"⟩,
  ⟨⟨0xFFE8, 0xFFEE, 1⟩, "│ ← ↑ → ↓ ■ ○"⟩,
  ⟨⟨0x10400, 0x10421, 1⟩, "𐐨 𐐩 𐐪 𐐫 𐐬 𐐭 𐐮 𐐯 𐐰 𐐱 𐐲 𐐳 𐐴 𐐵 𐐶 𐐷 𐐸 𐐹 𐐺 𐐻 𐐼 𐐽 𐐾 𐐿 𐑀 𐑁 𐑂 𐑃 𐑄 𐑅 𐑆 𐑇 𐑈 𐑉"⟩,
  ⟨⟨0x10422, 0x10427, 1⟩, "𐑊 𐑋 𐑌 𐑍 𐑎 𐑏"⟩,
  ⟨⟨0x104B0, 0x104D1, 1⟩, "𐓘 𐓙 𐓚 𐓛 𐓜 𐓝 𐓞 𐓟 𐓠 𐓡 𐓢 𐓣 𐓤 𐓥 𐓦 𐓧 𐓨 𐓩 𐓪 𐓫 𐓬 𐓭 𐓮 𐓯 𐓰 𐓱 𐓲 𐓳 𐓴 𐓵 𐓶 𐓷 𐓸 𐓹"⟩,
  ⟨⟨0x104D2, 0x104D3, 1⟩, "𐓺 𐓻"⟩, ⟨⟨0x10570, 0x1057A, 1⟩, "𐖗 𐖘 𐖙 𐖚 𐖛 𐖜 𐖝 𐖞 𐖟 𐖠 𐖡"⟩,
  ⟨⟨0x1057C, 0x1058A, 1⟩, "𐖣 𐖤 𐖥 𐖦 𐖧 𐖨 𐖩 𐖪 𐖫 𐖬 𐖭 𐖮 𐖯 𐖰 𐖱"⟩,
  ⟨⟨0x1058C, 0x10592, 1⟩, "𐖳 𐖴 𐖵 𐖶 𐖷 𐖸 𐖹"⟩, ⟨⟨0x10594, 0x10595, 1⟩, "𐖻 𐖼"⟩,
  ⟨⟨0x10781, 0x10785, 1⟩, "ː ˑ æ ʙ ɓ"⟩,
  ⟨⟨0x10787, 0x107A8, 1⟩, "ʣ ꭦ ʥ ʤ ɖ ɗ ᶑ ɘ ɞ ʩ ɤ ɢ ɠ ʛ ħ ʜ ɧ ʄ ʪ ʫ ɬ 𝼄 ꞎ ɮ 𝼅 ʎ 𝼆 ø ɶ ɷ q ɺ 𝼈 ɽ"⟩,
  ⟨⟨0x107A9, 0x107B0, 1⟩, "ɾ ʀ ʨ ʦ ꭧ ʧ ʈ ⱱ"⟩, ⟨⟨0x107B2, 0x107BA, 1⟩, "ʏ ʡ ʢ ʘ ǀ ǁ ǂ 𝼊 𝼞"⟩,
  ⟨⟨0x10C80, 0x10CA1, 1⟩, "𐳀 𐳁 𐳂 𐳃 𐳄 𐳅 𐳆 𐳇 𐳈 𐳉 𐳊 𐳋 𐳌 𐳍 𐳎 𐳏 𐳐 𐳑 𐳒 𐳓 𐳔 𐳕 𐳖 𐳗 𐳘 𐳙 𐳚 𐳛 𐳜 𐳝 𐳞 𐳟 𐳠 𐳡"⟩,
  ⟨⟨0x10CA2, 0x10CB2, 1⟩, "𐳢 𐳣 𐳤 𐳥 𐳦 𐳧 𐳨 𐳩 𐳪 𐳫 𐳬 𐳭 𐳮 𐳯 𐳰 𐳱 𐳲"⟩,
  ⟨⟨0x118A0, 0x118BF, 1⟩, "𑣀 𑣁 𑣂 𑣃 𑣄 𑣅 𑣆 𑣇 𑣈 𑣉 𑣊 𑣋 𑣌 𑣍 𑣎 𑣏 𑣐 𑣑 𑣒 𑣓 𑣔 𑣕 𑣖 𑣗 𑣘 𑣙 𑣚 𑣛 𑣜 𑣝 𑣞 𑣟"⟩,
  ⟨⟨0x16E40, 0x16E5F, 1⟩, "𖹠 𖹡 𖹢 𖹣 𖹤 𖹥 𖹦 𖹧 𖹨 𖹩 𖹪 𖹫 𖹬 𖹭 𖹮 𖹯 𖹰 𖹱 𖹲 𖹳 𖹴 𖹵 𖹶 𖹷 𖹸 𖹹 𖹺 𖹻 𖹼 𖹽 𖹾 𖹿"⟩,
  ⟨⟨0x1D15E, 0x1D164, 1⟩, "𝅗𝅥 𝅘𝅥 𝅘𝅥𝅮 𝅘𝅥𝅯 𝅘𝅥𝅰 𝅘𝅥𝅱 𝅘𝅥𝅲"⟩,
  ⟨⟨0x1D1BB, 0x1D1C0, 1⟩, "𝆹𝅥 𝆺𝅥 𝆹𝅥𝅮 𝆺𝅥𝅮 𝆹𝅥𝅯 𝆺𝅥𝅯"⟩,
  ⟨⟨0x1D400, 0x1D421, 1⟩, "a b c d e f g h i j k l m n o p q r s t u v w x y z a b c d e f g h"⟩,
  ⟨⟨0x1D422, 0x1D443, 1⟩, "i j k l m n o p q r s t u v w x y z a b c d e f g h i j k l m n o p"⟩,
  ⟨⟨0x1D444, 0x1D454, 1⟩, "q r s t u v w x y z a b c d e f g"⟩,
  ⟨⟨0x1D456, 0x1D477, 1⟩, "i j k l m n o p q r s t u v w x y z a b c d e f g h i j k l m n o p"⟩,
  ⟨⟨0x1D478, 0x1D499, 1⟩, "q r s t u v w x y z a b c d e f g h i j k l m n o p q r s t u v w x"⟩,
  ⟨⟨0x1D49A, 0x1D49C, 1⟩, "y z a"⟩, ⟨⟨0x1D49E, 0x1D49F, 1⟩, "c d"⟩, ⟨⟨0x1D4A2, 0x1D4A2, 1⟩, "g"⟩,
  ⟨⟨0x1D4A5, 0x1D4A6, 1⟩, "j k"⟩, ⟨⟨0x1D4A9, 0x1D4AC, 1⟩, "n o p q"⟩,
  ⟨⟨0x1D4AE, 0x1D4B9, 1⟩, "s t u v w x y z a b c d"⟩, ⟨⟨0x1D4BB, 0x1D4BD, 2⟩, "f h"⟩,
  ⟨⟨0x1D4BE, 0x1D4C3, 1⟩, "i j k l m n"⟩,
  ⟨⟨0x1D4C5, 0x1D4E6, 1⟩, "p q r s t u v w x y z a b c d e f g h i j k l m n o p q r s t u v w"⟩,
  ⟨⟨0x1D4E7, 0x1D505, 1⟩, "x y z a b c d e f g h i j k l m n o p q r s t u v w x y z a b"⟩,
  ⟨⟨0x1D507, 0x1D50A, 1⟩, "d e f g"⟩, ⟨⟨0x1D50D, 0x1D514, 1⟩, "j k l m n o p q"⟩,
  ⟨⟨0x1D516, 0x1D51C, 1⟩, "s t u v w x y"⟩,
  ⟨⟨0x1D51E, 0x1D539, 1⟩, "a b c d e f g h i j k l m n o p q r s t u v w x y z a b"⟩,
  ⟨⟨0x1D53B, 0x1D53E, 1⟩, "d e f g"⟩, ⟨⟨0x1D540, 0x1D544, 1⟩, "i j k l m"⟩,
  ⟨⟨0x1D546, 0x1D546, 1⟩, "o"⟩, ⟨⟨0x1D54A, 0x1D550, 1⟩, "s t u v w x y"⟩,
  ⟨⟨0x1D552, 0x1D573, 1⟩, "a b c d e f g h i j k l m n o p q r s t u v w x y z a b c d e f g h"⟩,
  ⟨⟨0x1D574, 0x1D595, 1⟩, "i j k l m n o p q r s t u v w x y z a b c d e f g h i j k l m n o p"⟩,
  ⟨⟨0x1D596, 0x1D5B7, 1⟩, "q r s t u v w x y z a b c d e f g h i j k l m n o p q r s t u v w x"⟩,
  ⟨⟨0x1D5B8, 0x1D5D9, 1⟩, "y z a b c d e f g h i j k l m n o p q r s t u v w x y z a b c d e f"⟩,
  ⟨⟨0x1D5DA, 0x1D5FB, 1⟩, "g h i j k l m n o p q r s t u v w x y z a b c d e f g h i j k l m n"⟩,
  ⟨⟨0x1D5FC, 0x1D61D, 1⟩, "o p q r s t u v w x y z a b c d e f g h i j k l m n o p q r s t u v"⟩,
  ⟨⟨0x1D61E, 0x1D63F, 1⟩, "w x y z a b c d e f g h i j k l m n o p q r s t u v w x y z a b c d"⟩,
  ⟨⟨0x1D640, 0x1D661, 1⟩, "e f g h i j k l m n o p q r s t u v w x y z a b c d e f g h i j k l"⟩,
  ⟨⟨0x1D662, 0x1D683, 1⟩, "m n o p q r s t u v w x y z a b c d e f g h i j k l m n o p q r s t"⟩,
  ⟨⟨0x1D684, 0x1D6A5, 1⟩, "u v w x y z a b c d e f g h i j k l m n o p q r s t u v w x y z ı ȷ"⟩,
  ⟨⟨0x1D6A8, 0x1D6C9, 1⟩, "α β γ δ ε ζ η θ ι κ λ μ ν ξ ο π ρ θ σ τ υ φ χ ψ ω ∇ α β γ δ ε ζ η θ"⟩,
  ⟨⟨0x1D6CA, 0x1D6EB, 1⟩, "ι κ λ μ ν ξ ο π ρ σ σ τ υ φ χ ψ ω ∂ ε θ κ φ ρ π α β γ δ ε ζ η θ ι κ"⟩,
  ⟨⟨0x1D6EC, 0x1D70D, 1⟩, "λ μ ν ξ ο π ρ θ σ τ υ φ χ ψ ω ∇ α β γ δ ε ζ η θ ι κ λ μ ν ξ ο π ρ σ"⟩,
  ⟨⟨0x1D70E, 0x1D72F, 1⟩, "σ τ υ φ χ ψ ω ∂ ε θ κ φ ρ π α β γ δ ε ζ η θ ι κ λ μ ν ξ ο π ρ θ σ τ"⟩,
  ⟨⟨0x1D730, 0x1D751, 1⟩, "υ φ χ ψ ω ∇ α β γ δ ε ζ η θ ι κ λ μ ν ξ ο π ρ σ σ τ υ φ χ ψ ω ∂ ε θ"⟩,
  ⟨⟨0x1D752, 0x1D773, 1⟩, "κ φ ρ π α β γ δ ε ζ η θ ι κ λ μ ν ξ ο π ρ θ σ τ υ φ χ ψ ω ∇ α β γ δ"⟩,
  ⟨⟨0x1D774, 0x1D795, 1⟩, "ε ζ η θ ι κ λ μ ν ξ ο π ρ σ σ τ υ φ χ ψ ω ∂ ε θ κ φ ρ π α β γ δ ε ζ"⟩,
  ⟨⟨0x1D796, 0x1D7B7, 1⟩, "η θ ι κ λ μ ν ξ ο π ρ θ σ τ υ φ χ ψ ω ∇ α β γ δ ε ζ η θ ι κ λ μ ν ξ"⟩,
  ⟨⟨0x1D7B8, 0x1D7CB, 1⟩, "ο π ρ σ σ τ υ φ χ ψ ω ∂ ε θ κ φ ρ π ϝ ϝ"⟩,
  ⟨⟨0x1D7CE, 0x1D7EF, 1⟩, "0 1 2 3 4 5 6 7 8 9 0 1 2 3 4 5 6 7 8 9 0 1 2 3 4 5 6 7 8 9 0 1 2 3"⟩,
  ⟨⟨0x1D7F0, 0x1D7FF, 1⟩, "4 5 6 7 8 9 0 1 2 3 4 5 6 7 8 9"⟩,
  ⟨⟨0x1E030, 0x1E051, 1⟩, "а б в г д е ж з и к л м о п р с т у ф х ц ч ш ы э ю ꚉ ә і ј ө ү ӏ а"⟩,
  ⟨⟨0x1E052, 0x1E06D, 1⟩, "б в г д е ж з и к л о п с у ф х ц ч ш ъ ы ґ і ѕ џ ҫ ꙑ ұ"⟩,
  ⟨⟨0x1E900, 0x1E921, 1⟩, "𞤢 𞤣 𞤤 𞤥 𞤦 𞤧 𞤨 𞤩 𞤪 𞤫 𞤬 𞤭 𞤮 𞤯 𞤰 𞤱 𞤲 𞤳 𞤴 𞤵 𞤶 𞤷 𞤸 𞤹 𞤺 𞤻 𞤼 𞤽 𞤾 𞤿 𞥀 𞥁 𞥂 𞥃"⟩,
  ⟨⟨0x1EE00, 0x1EE03, 1⟩, "\u0627 \u0628 \u062c \u062f"⟩,
  ⟨⟨0x1EE05, 0x1EE0D, 1⟩, "\u0648 \u0632 \u062d \u0637 \u064a \u0643 \u0644 \u0645 \u0646"⟩,
  ⟨⟨0x1EE0E, 0x1EE16, 1⟩, "\u0633 \u0639 \u0641 \u0635 \u0642 \u0631 \u0634 \u062a \u062b"⟩,
  ⟨⟨0x1EE17, 0x1EE1F, 1⟩, "\u062e \u0630 \u0636 \u0638 \u063a \u066e \u06ba \u06a1 \u066f"⟩,
  ⟨⟨0x1EE21, 0x1EE22, 1⟩, "\u0628 \u062c"⟩, ⟨⟨0x1EE24, 0x1EE24, 1⟩, "\u0647"⟩,
  ⟨⟨0x1EE27, 0x1EE29, 2⟩, "\u062d \u064a"⟩,
  ⟨⟨0x1EE2A, 0x1EE32, 1⟩, "\u0643 \u0644 \u0645 \u0646 \u0633 \u0639 \u0641 \u0635 \u0642"⟩,
  ⟨⟨0x1EE34, 0x1EE37, 1⟩, "\u0634 \u062a \u062b \u062e"⟩,
  ⟨⟨0x1EE39, 0x1EE3B, 2⟩, "\u0636 \u063a"⟩, ⟨⟨0x1EE42, 0x1EE42, 1⟩, "\u062c"⟩,
  ⟨⟨0x1EE47, 0x1EE4D, 2⟩, "\u062d \u064a \u0644 \u0646"⟩,
  ⟨⟨0x1EE4E, 0x1EE4F, 1⟩, "\u0633 \u0639"⟩, ⟨⟨0x1EE51, 0x1EE52, 1⟩, "\u0635 \u0642"⟩,
  ⟨⟨0x1EE54, 0x1EE54, 1⟩, "\u0634"⟩,
  ⟨⟨0x1EE57, 0x1EE61, 2⟩, "\u062e \u0636 \u063a \u06ba \u066f \u0628"⟩,
  ⟨⟨0x1EE62, 0x1EE64, 2⟩, "\u062c \u0647"⟩,
  ⟨⟨0x1EE67, 0x1EE6A, 1⟩, "\u062d \u0637 \u064a \u0643"⟩,
  ⟨⟨0x1EE6C, 0x1EE72, 1⟩, "\u0645 \u0646 \u0633 \u0639 \u0641 \u0635 \u0642"⟩,
  ⟨⟨0x1EE74, 0x1EE77, 1⟩, "\u0634 \u062a \u062b \u062e"⟩,
  ⟨⟨0x1EE79, 0x1EE7C, 1⟩, "\u0636 \u0638 \u063a \u066e"⟩,
  ⟨⟨0x1EE7E, 0x1EE80, 2⟩, "\u06a1 \u0627"⟩,
  ⟨⟨0x1EE81, 0x1EE89, 1⟩, "\u0628 \u062c \u062f \u0647 \u0648 \u0632 \u062d \u0637 \u064a"⟩,
  ⟨⟨0x1EE8B, 0x1EE93, 1⟩, "\u0644 \u0645 \u0646 \u0633 \u0639 \u0641 \u0635 \u0642 \u0631"⟩,
  ⟨⟨0x1EE94, 0x1EE9B, 1⟩, "\u0634 \u062a \u062b \u062e \u0630 \u0636 \u0638 \u063a"⟩,
  ⟨⟨0x1EEA1, 0x1EEA3, 1⟩, "\u0628 \u062c \u062f"⟩,
  ⟨⟨0x1EEA5, 0x1EEA9, 1⟩, "\u0648 \u0632 \u062d \u0637 \u064a"⟩,
  ⟨⟨0x1EEAB, 0x1EEB3, 1⟩, "\u0644 \u0645 \u0646 \u0633 \u0639 \u0641 \u0635 \u0642 \u0631"⟩,
  ⟨⟨0x1EEB4, 0x1EEBB, 1⟩, "\u0634 \u062a \u062b \u062e \u0630 \u0636 \u0638 \u063a"⟩,
  ⟨⟨0x1F101, 0x1F10A, 1⟩, "0, 1, 2, 3, 4, 5, 6, 7, 8, 9,"⟩,
  ⟨⟨0x1F110, 0x1F120, 1⟩, "(a) (b) (c) (d) (e) (f) (g) (h) (i) (j) (k) (l) (m) (n) (o) (p) (q)"⟩,
  ⟨⟨0x1F121, 0x1F12E, 1⟩, "(r) (s) (t) (u) (v) (w) (x) (y) (z) 〔s〕 c r cd wz"⟩,
  ⟨⟨0x1F130, 0x1F14E, 1⟩, "a b c d e f g h i j k l m n o p q r s t u v w x y z hv mv sd ss ppv"⟩,
  ⟨⟨0x1F14F, 0x1F14F, 1⟩, "wc"⟩, ⟨⟨0x1F16A, 0x1F16C, 1⟩, "mc md mr"⟩,
  ⟨⟨0x1F190, 0x1F190, 1⟩, "dj"⟩, ⟨⟨0x1F200, 0x1F202, 1⟩, "ほか ココ サ"⟩,
  ⟨⟨0x1F210, 0x1F231, 1⟩, "手 字 双 デ 二 多 解 天 交 映 無 料 前 後 再 新 初 終 生 販 声 吹 演 投 捕 一 三 遊 左 中 右 指 走 打"⟩,
  ⟨⟨0x1F232, 0x1F23B, 1⟩, "禁 空 合 満 有 月 申 割 営 配"⟩,
  ⟨⟨0x1F240, 0x1F248, 1⟩, "〔本〕 〔三〕 〔二〕 〔安〕 〔点〕 〔打〕 〔盗〕 〔勝〕 〔敗〕"⟩, ⟨⟨0x1F250, 0x1F251, 1⟩, "得 可"⟩,
  ⟨⟨0x1FBF0, 0x1FBF9, 1⟩, "0 1 2 3 4 5 6 7 8 9"⟩,
  ⟨⟨0x2F800, 0x2F821, 1⟩, "丽 丸 乁 𠄢 你 侮 侻 倂 偺 備 僧 像 㒞 𠘺 免 兔 兤 具 𠔜 㒹 內 再 𠕋 冗 冤 仌 冬 况 𩇟 凵 刃 㓟 刻 剆"⟩,
  ⟨⟨0x2F822, 0x2F843, 1⟩, "割 剷 㔕 勇 勉 勤 勺 包 匆 北 卉 卑 博 即 卽 卿 卿 卿 𠨬 灰 及 叟 𠭣 叫 叱 吆 咞 吸 呈 周 咢 哶 唐 啓"⟩,
  ⟨⟨0x2F844, 0x2F865, 1⟩, "啣 善 善 喙 喫 喳 嗂 圖 嘆 圗 噑 噴 切 壮 城 埴 堍 型 堲 報 墬 𡓤 売 壷 夆 多 夢 奢 𡚨 𡛪 姬 娛 娧 姘"⟩,
  ⟨⟨0x2F866, 0x2F887, 1⟩, "婦 㛮 㛼 嬈 嬾 嬾 𡧈 寃 寘 寧 寳 𡬘 寿 将 当 尢 㞁 屠 屮 峀 岍 𡷤 嵃 𡷦 嵮 嵫 嵼 巡 巢 㠯 巽 帨 帽 幩"⟩,
  ⟨⟨0x2F888, 0x2F8A9, 1⟩, "㡢 𢆃 㡼 庰 庳 庶 廊 𪎒 廾 𢌱 𢌱 舁 弢 弢 㣇 𣊸 𦇚 形 彫 㣣 徚 忍 志 忹 悁 㤺 㤜 悔 𢛔 惇 慈 慌 慎 慌"⟩,
  ⟨⟨0x2F8AA, 0x2F8CB, 1⟩, "慺 憎 憲 憤 憯 懞 懲 懶 成 戛 扝 抱 拔 捐 𢬌 挽 拼 捨 掃 揤 𢯱 搢 揅 掩 㨮 摩 摾 撝 摷 㩬 敏 敬 𣀊 旣"⟩,
  ⟨⟨0x2F8CC, 0x2F8ED, 1⟩, "書 晉 㬙 暑 㬈 㫤 冒 冕 最 暜 肭 䏙 朗 望 朡 杞 杓 𣏃 㭉 柺 枅 桒 梅 𣑭 梎 栟 椔 㮝 楂 榣 槪 檨 𣚣 櫛"⟩,
  ⟨⟨0x2F8EE, 0x2F90F, 1⟩, "㰘 次 𣢧 歔 㱎 歲 殟 殺 殻 𣪍 𡴋 𣫺 汎 𣲼 沿 泍 汧 洖 派 海 流 浩 浸 涅 𣴞 洴 港 湮 㴳 滋 滇 𣻑 淹 潮"⟩,
  ⟨⟨0x2F910, 0x2F931, 1⟩, "𣽞 𣾎 濆 瀹 瀞 瀛 㶖 灊 災 灷 炭 𠔥 煅 𤉣 熜 𤎫 爨 爵 牐 𤘈 犀 犕 𤜵 𤠔 獺 王 㺬 玥 㺸 㺸 瑇 瑜 瑱 璅"⟩,
  ⟨⟨0x2F932, 0x2F953, 1⟩, "瓊 㼛 甤 𤰶 甾 𤲒 異 𢆟 瘐 𤾡 𤾸 𥁄 㿼 䀈 直 𥃳 𥃲 𥄙 𥄳 眞 真 真 睊 䀹 瞋 䁆 䂖 𥐝 硎 碌 磌 䃣 𥘦 祖"⟩,
  ⟨⟨0x2F954, 0x2F975, 1⟩, "𥚚 𥛅 福 秫 䄯 穀 穊 穏 𥥼 𥪧 𥪧 竮 䈂 𥮫 篆 築 䈧 𥲀 糒 䊠 糨 糣 紀 𥾆 絣 䌁 緇 縂 繅 䌴 𦈨 𦉇 䍙 𦋙"⟩,
  ⟨⟨0x2F976, 0x2F997, 1⟩, "罺 𦌾 羕 翺 者 𦓚 𦔣 聠 𦖨 聰 𣍟 䏕 育 脃 䐋 脾 媵 𦞧 𦞵 𣎓 𣎜 舁 舄 辞 䑫 芑 芋 芝 劳 花 芳 芽 苦 𦬼"⟩,
  ⟨⟨0x2F998, 0x2F9B9, 1⟩, "若 茝 荣 莭 茣 莽 菧 著 荓 菊 菌 菜 𦰶 𦵫 𦳕 䔫 蓱 蓳 蔖 𧏊 蕤 𦼬 䕝 䕡 𦾱 𧃒 䕫 虐 虜 虧 虩 蚩 蚈 蜎"⟩,
  ⟨⟨0x2F9BA, 0x2F9DB, 1⟩, "蛢 蝹 蜨 蝫 螆 䗗 蟡 蠁 䗹 衠 衣 𧙧 裗 裞 䘵 裺 㒻 𧢮 𧥦 䚾 䛇 誠 諭 變 豕 𧲨 貫 賁 贛 起 𧼯 𠠄 跋 趼"⟩,
  ⟨⟨0x2F9DC, 0x2F9FD, 1⟩, "跰 𠣞 軔 輸 𨗒 𨗭 邔 郱 鄑 𨜮 鄛 鈸 鋗 鋘 鉼 鏹 鐕 𨯺 開 䦕 閷 𨵷 䧦 雃 嶲 霣 𩅅 𩈚 䩮 䩶 韠 𩐊 䪲 𩒖"⟩,
  ⟨⟨0x2F9FE, 0x2FA1D, 1⟩, "頋 頋 頩 𩖶 飢 䬳 餩 馧 駂 駾 䯎 𩬰 鬒 鱀 鳽 䳎 䳭 鵧 𪃎 䳸 𪄅 𪈎 𪊑 麻 䵖 黹 黾 鼅 鼏 鼖 鼻 𪘀"⟩]

def ignoredRanges : CodeRanges where
  ranges := [
    (0xAD, 0xAD), (0x34F, 0x34F), (0x180B, 0x180D), (0x180F, 0x180F), (0x200B, 0x200B),
    (0x2060, 0x2060), (0x2064, 0x2064), (0xFE00, 0xFE0F), (0xFEFF, 0xFEFF), (0x1BCA0, 0x1BCA3),
    (0xE0100, 0xE01EF)]

def symbolRanges : CodeRanges where
  ranges := [
    (0xA1, 0xA7), (0xA9, 0xA9), (0xAB, 0xAC), (0xAE, 0xAE), (0xB0, 0xB1), (0xB6, 0xB7),
    (0xBB, 0xBB), (0xBF, 0xBF), (0xD7, 0xD7), (0xF7, 0xF7), (0x2C2, 0x2C5), (0x2D2, 0x2D7),
    (0x2DE, 0x2DF), (0x2E5, 0x2EB), (0x2ED, 0x2ED), (0x2EF, 0x2FF), (0x375, 0x375),
    (0x3F6, 0x3F6), (0x482, 0x482), (0x488, 0x489), (0x55A, 0x55F), (0x589, 0x58A),
    (0x58D, 0x58F), (0x5BE, 0x5BE), (0x5C0, 0x5C0), (0x5C3, 0x5C3), (0x5C6, 0x5C6),
    (0x5F3, 0x5F4), (0x606, 0x60F), (0x61B, 0x61B), (0x61D, 0x61F), (0x640, 0x640),
    (0x660, 0x66D), (0x6D4, 0x6D4), (0x6DE, 0x6DE), (0x6E9, 0x6E9), (0x6F0, 0x6F9),
    (0x700, 0x70D), (0x7F6, 0x7FA), (0x7FE, 0x7FF), (0x830, 0x83E), (0x85E, 0x85E),
    (0x888, 0x888), (0x964, 0x965), (0x970, 0x970), (0x9F2, 0x9FB), (0x9FD, 0x9FD),
    (0xA76, 0xA76), (0xAF0, 0xAF1), (0xB70, 0xB70), (0xB72, 0xB77), (0xBF0, 0xBFA),
    (0xC77, 0xC7F), (0xC84, 0xC84), (0xD4F, 0xD4F), (0xD58, 0xD5E), (0xD70, 0xD79),
    (0xDF4, 0xDF4), (0xE3F, 0xE3F), (0xE4F, 0xE4F), (0xE5A, 0xE5B), (0xF01, 0xF0A),
    (0xF0D, 0xF17), (0xF1A, 0xF1F), (0xF2A, 0xF34), (0xF36, 0xF36), (0xF38, 0xF38),
    (0xF3A, 0xF3D), (0xF85, 0xF85), (0xFBE, 0xFC5), (0xFC7, 0xFCC), (0xFCE, 0xFDA),
    (0x104A, 0x104F), (0x109E, 0x109F), (0x10FB, 0x10FB), (0x1100, 0x115E), (0x1161, 0x11FF),
    (0x1360, 0x137C), (0x1390, 0x1399), (0x1400, 0x1400), (0x166D, 0x166E), (0x169B, 0x169C),
    (0x16EB, 0x16F0), (0x1735, 0x1736), (0x17D4, 0x17D6), (0x17D8, 0x17DB), (0x17F0, 0x17F9),
    (0x1800, 0x1805), (0x1807, 0x180A), (0x1940, 0x1940), (0x1944, 0x1945), (0x19DA, 0x19DA),
    (0x19DE, 0x19FF), (0x1A1E, 0x1A1F), (0x1AA0, 0x1AA6), (0x1AA8, 0x1AAD), (0x1ABE, 0x1ABE),
    (0x1B5A, 0x1B6A), (0x1B74, 0x1B7E), (0x1BFC, 0x1BFF), (0x1C3B, 0x1C3F), (0x1C7E, 0x1C7F),
    (0x1CC0, 0x1CC7), (0x1CD3, 0x1CD3), (0x200C, 0x200D), (0x2010, 0x2010), (0x2012, 0x2016),
    (0x2018, 0x2023), (0x2027, 0x2027), (0x2030, 0x2032), (0x2035, 0x2035), (0x2038, 0x203B),
    (0x203D, 0x203D), (0x203F, 0x2046), (0x204A, 0x2056), (0x2058, 0x205E), (0x20A0, 0x20A7),
    (0x20A9, 0x20C0), (0x20D0, 0x20F0), (0x2104, 0x2104), (0x2108, 0x2108), (0x2114, 0x2114),
    (0x2117, 0x2118), (0x211E, 0x211F), (0x2123, 0x2123), (0x2125, 0x2125), (0x2127, 0x2127),
    (0x2129, 0x2129), (0x212E, 0x212E), (0x213A, 0x213A), (0x2141, 0x2144), (0x214A, 0x214D),
    (0x214F, 0x214F), (0x2180, 0x2182), (0x2185, 0x2188), (0x218A, 0x218B), (0x2190, 0x222B),
    (0x222E, 0x222E), (0x2231, 0x2328), (0x232B, 0x2426), (0x2440, 0x244A), (0x24EB, 0x2A0B),
    (0x2A0D, 0x2A73), (0x2A77, 0x2ADB), (0x2ADD, 0x2B73), (0x2B76, 0x2B95), (0x2B97, 0x2BFF),
    (0x2CE5, 0x2CEA), (0x2CF9, 0x2CFF), (0x2D70, 0x2D70), (0x2E00, 0x2E2E), (0x2E30, 0x2E5D),
    (0x2E80, 0x2E99), (0x2E9B, 0x2E9E), (0x2EA0, 0x2EF2), (0x3001, 0x3001), (0x3003, 0x3004),
    (0x3008, 0x3029), (0x302E, 0x3035), (0x3037, 0x3037), (0x303B, 0x303B), (0x303D, 0x303F),
    (0x30A0, 0x30A0), (0x30FB, 0x30FB), (0x3190, 0x3191), (0x31C0, 0x31E3), (0x3248, 0x324F),
    (0x327F, 0x327F), (0x4DC0, 0x4DFF), (0xA490, 0xA4C6), (0xA4FE, 0xA4FF), (0xA60D, 0xA60F),
    (0xA670, 0xA673), (0xA67E, 0xA67E), (0xA6E6, 0xA6EF), (0xA6F2, 0xA6F7), (0xA700, 0xA716),
    (0xA720, 0xA721), (0xA789, 0xA78A), (0xA828, 0xA82B), (0xA830, 0xA839), (0xA874, 0xA877),
    (0xA8CE, 0xA8CF), (0xA8F8, 0xA8FA), (0xA8FC, 0xA8FC), (0xA92E, 0xA92F), (0xA95F, 0xA97C),
    (0xA9C1, 0xA9CD), (0xA9DE, 0xA9DF), (0xAA5C, 0xAA5F), (0xAA77, 0xAA79), (0xAADE, 0xAADF),
    (0xAAF0, 0xAAF1), (0xAB5B, 0xAB5B), (0xAB6A, 0xAB6B), (0xABEB, 0xABEB), (0xD7B0, 0xD7C6),
    (0xD7CB, 0xD7FB), (0xFBB2, 0xFBC2), (0xFD3E, 0xFD4F), (0xFDCF, 0xFDCF), (0xFDFD, 0xFDFF),
    (0xFE45, 0xFE46), (0x10100, 0x10102), (0x10107, 0x10133), (0x10137, 0x1018E),
    (0x10190, 0x1019C), (0x101A0, 0x101A0), (0x101D0, 0x101FC), (0x102E1, 0x102FB),
    (0x10320, 0x10323), (0x10341, 0x10341), (0x1034A, 0x1034A), (0x1039F, 0x1039F),
    (0x103D0, 0x103D5), (0x1056F, 0x1056F), (0x10857, 0x1085F), (0x10877, 0x1087F),
    (0x108A7, 0x108AF), (0x108FB, 0x108FF), (0x10916, 0x1091B), (0x1091F, 0x1091F),
    (0x1093F, 0x1093F), (0x109BC, 0x109BD), (0x109C0, 0x109CF), (0x109D2, 0x109FF),
    (0x10A40, 0x10A48), (0x10A50, 0x10A58), (0x10A7D, 0x10A7F), (0x10A9D, 0x10A9F),
    (0x10AC8, 0x10AC8), (0x10AEB, 0x10AF6), (0x10B39, 0x10B3F), (0x10B58, 0x10B5F),
    (0x10B78, 0x10B7F), (0x10B99, 0x10B9C), (0x10BA9, 0x10BAF), (0x10CFA, 0x10CFF),
    (0x10E60, 0x10E7E), (0x10EAD, 0x10EAD), (0x10F1D, 0x10F26), (0x10F51, 0x10F59),
    (0x10F86, 0x10F89), (0x10FC5, 0x10FCB), (0x11047, 0x1104D), (0x11052, 0x11065),
    (0x110BB, 0x110BC), (0x110BE, 0x110C1), (0x11140, 0x11143), (0x11174, 0x11175),
    (0x111C5, 0x111C8), (0x111CD, 0x111CD), (0x111DB, 0x111DB), (0x111DD, 0x111DF),
    (0x111E1, 0x111F4), (0x11238, 0x1123D), (0x112A9, 0x112A9), (0x1144B, 0x1144F),
    (0x1145A, 0x1145B), (0x1145D, 0x1145D), (0x114C6, 0x114C6), (0x115C1, 0x115D7),
    (0x11641, 0x11643), (0x11660, 0x1166C), (0x116B9, 0x116B9), (0x1173A, 0x1173F),
    (0x1183B, 0x1183B), (0x118EA, 0x118F2), (0x11944, 0x11946), (0x119E2, 0x119E2),
    (0x11A3F, 0x11A46), (0x11A9A, 0x11A9C), (0x11A9E, 0x11AA2), (0x11B00, 0x11B09),
    (0x11C41, 0x11C45), (0x11C5A, 0x11C6C), (0x11C70, 0x11C71), (0x11EF7, 0x11EF8),
    (0x11F43, 0x11F4F), (0x11FC0, 0x11FF1), (0x11FFF, 0x11FFF), (0x12400, 0x1246E),
    (0x12470, 0x12474), (0x12FF1, 0x12FF2), (0x16A6E, 0x16A6F), (0x16AF5, 0x16AF5),
    (0x16B37, 0x16B3F), (0x16B44, 0x16B45), (0x16B5B, 0x16B61), (0x16E80, 0x16E9A),
    (0x16FE2, 0x16FE2), (0x1BC9C, 0x1BC9C), (0x1BC9F, 0x1BC9F), (0x1CF50, 0x1CFC3),
    (0x1D000, 0x1D0F5), (0x1D100, 0x1D126), (0x1D129, 0x1D15D), (0x1D165, 0x1D172),
    (0x1D17B, 0x1D1BA), (0x1D1C1, 0x1D1EA), (0x1D200, 0x1D245), (0x1D2C0, 0x1D2D3),
    (0x1D2E0, 0x1D2F3), (0x1D300, 0x1D356), (0x1D360, 0x1D378), (0x1D800, 0x1D9FF),
    (0x1DA37, 0x1DA3A), (0x1DA6D, 0x1DA74), (0x1DA76, 0x1DA83), (0x1DA85, 0x1DA8B),
    (0x1E14F, 0x1E14F), (0x1E2FF, 0x1E2FF), (0x1E8C7, 0x1E8CF), (0x1E95E, 0x1E95F),
    (0x1EC71, 0x1ECB4), (0x1ED01, 0x1ED3D), (0x1EEF0, 0x1EEF1), (0x1F000, 0x1F02B),
    (0x1F030, 0x1F093), (0x1F0A0, 0x1F0AE), (0x1F0B1, 0x1F0BF), (0x1F0C1, 0x1F0CF),
    (0x1F0D1, 0x1F0F5), (0x1F10B, 0x1F10F), (0x1F12F, 0x1F12F), (0x1F150, 0x1F169),
    (0x1F16D, 0x1F18F), (0x1F191, 0x1F1AD), (0x1F1E6, 0x1F1FF), (0x1F260, 0x1F265),
    (0x1F300, 0x1F6D7), (0x1F6DC, 0x1F6EC), (0x1F6F0, 0x1F6FC), (0x1F700, 0x1F776),
    (0x1F77B, 0x1F7D9), (0x1F7E0, 0x1F7EB), (0x1F7F0, 0x1F7F0), (0x1F800, 0x1F80B),
    (0x1F810, 0x1F847), (0x1F850, 0x1F859), (0x1F860, 0x1F887), (0x1F890, 0x1F8AD),
    (0x1F8B0, 0x1F8B1), (0x1F900, 0x1FA53), (0x1FA60, 0x1FA6D), (0x1FA70, 0x1FA7C),
    (0x1FA80, 0x1FA88), (0x1FA90, 0x1FABD), (0x1FABF, 0x1FAC5), (0x1FACE, 0x1FADB),
    (0x1FAE0, 0x1FAE8), (0x1FAF0, 0x1FAF8), (0x1FB00, 0x1FB92), (0x1FB94, 0x1FBCA)]

/-- Letters that may not stand in a host name that is typed: they came last. -/
def latestRanges : CodeRanges where
  ranges := [
    (0x88F, 0x88F), (0x897, 0x897), (0xC5C, 0xC5C), (0xCDC, 0xCDC), (0x1ACF, 0x1ADD),
    (0x1AE0, 0x1AEB), (0x1C8A, 0x1C8A), (0xA7CD, 0xA7CD), (0xA7CF, 0xA7CF), (0xA7DB, 0xA7DB),
    (0x105C0, 0x105F3), (0x10940, 0x10959), (0x10D40, 0x10D4F), (0x10D69, 0x10D6D),
    (0x10D6F, 0x10D85), (0x10EC2, 0x10EC7), (0x10EFA, 0x10EFC), (0x11380, 0x11389),
    (0x1138B, 0x1138B), (0x1138E, 0x1138E), (0x11390, 0x113B5), (0x113B7, 0x113C0),
    (0x113C2, 0x113C2), (0x113C5, 0x113C5), (0x113C7, 0x113CA), (0x113CC, 0x113D3),
    (0x113E1, 0x113E2), (0x116D0, 0x116E3), (0x11B60, 0x11B67), (0x11BC0, 0x11BE0),
    (0x11BF0, 0x11BF9), (0x11DB0, 0x11DDB), (0x11DE0, 0x11DE9), (0x11F5A, 0x11F5A),
    (0x13460, 0x143FA), (0x16100, 0x16139), (0x16D40, 0x16D6C), (0x16D70, 0x16D79),
    (0x16EBB, 0x16ED3), (0x16FF2, 0x16FF3), (0x187F8, 0x187FF), (0x18CFF, 0x18CFF),
    (0x18D09, 0x18D1E), (0x18D80, 0x18DF2), (0x1E5D0, 0x1E5FA), (0x1E6C0, 0x1E6DE),
    (0x1E6E0, 0x1E6F5), (0x1E6FE, 0x1E6FF), (0x2B73A, 0x2B73F), (0x2CEA2, 0x2CEAD),
    (0x323B0, 0x33479)]

def standsForItself (n : Nat) : Bool :=
  symbolRanges.covers n || (isLetter n && !latestRanges.covers n)

/-- What a folding has for one of its characters. -/
def Folding.word (f : Folding) (n : Nat) : CodePoints :=
  let words := f.words.toList.splitOn ' '
  CodePoints.ofChars (words.getD ((n - f.span.first) / f.span.step) [])

/-- What a character stands for; a character that may not stand in a host name has no meaning.
Capital letters of ASCII stand for small ones. -/
def meaning? (n : Nat) : Option CodePoints :=
  if n < 0x80 then some [(Char.ofNat n).toLower.toNat]
  else if standsForItself n then some [n]
  else if ignoredRanges.covers n then some []
  else (foldings.find? (·.span.covers n)).map (·.word n)

end TypeGraph.Host
