import TypeGraph.Charset.Chinese.HongKong
import TypeGraph.Charset.Chinese.Simplified
import TypeGraph.Charset.Chinese.Traditional
import TypeGraph.Charset.Stream

/-!
# Chinese character sets

Simplified characters have cells of their own; an extension adds all other Chinese characters in the
order of their codes in what those leave free, and four bytes reach all characters.  Traditional
characters stand in rows of 157 cells.
-/

namespace TypeGraph.Charset

/-! ## Simplified Chinese -/

def simplifiedPair? (a b : UInt8) : Option (List Char) :=
  ((highCell? a b).bind simplified.get?).map ([·])

def simplifiedStep : List UInt8 → Step Unit := pairStep simplifiedPair?

/-- The number of a pair in rows of 190. -/
def widePlace? (a b : UInt8) : Option Nat :=
  if 0x81 ≤ a ∧ a ≤ 0xFE ∧ 0x40 ≤ b ∧ b ≤ 0xFE ∧ b ≠ 0x7F then
    some ((a.toNat - 0x81) * 190 + if b < 0x7F then b.toNat - 0x40 else b.toNat - 0x41)
  else none

def wideSymbols : Grid where
  runs := [
  (6366, "ⅰⅱⅲⅳⅴⅵⅶⅷⅸⅹ"), (7189, "︵︶︹︺︿﹀︽︾﹁﹂﹃﹄��︻︼︷︸︱�︳︴"),
  (7410, "ˊˋ˙–―‥‵℅℉↖↗↘↙∕∟∣≒≦≧⊿═║╒╓╔╕╖╗╘╙╚╛╜╝╞╟╠╡╢╣╤╥╦╧╨╩╪╫╬╭╮╯╰╱╲╳▁▂▃▄▅▆▇█▉▊▋▌▍▎▏▓▔▕▼▽◢◣◤◥☉⊕〒〝〞"),
  (7532, "ɑ�ńň�ɡ"),
  (7600, "〡〢〣〤〥〦〧〨〩㊣㎎㎏㎜㎝㎞㎡㏄㏎㏑㏒㏕︰￢￤�℡㈱�‐���ー゛゜ヽヾ〆ゝゞ﹉﹊﹋﹌﹍﹎﹏﹐﹑﹒﹔﹕﹖﹗﹙﹚﹛﹜﹝﹞﹟﹠﹡﹢﹣﹤﹥﹦﹨﹩﹪﹫"), (7685, "〇")]

def wideLast : String := "郎凉秊裏隣兀嗀﨎﨏﨑﨓﨔礼﨟蘒﨡﨣﨤﨧﨨﨩"

def rareHanzi : Array Nat :=
  missingFrom simplified 0x4E00 20902 ++ (wideLast.toList.map Char.toNat).toArray

/-- The place of a pair among those that the common characters leave free: 32 rows of 190, then rows
of 96. -/
def hanziPlace? (a b : UInt8) : Option Nat :=
  if 0x81 ≤ a ∧ a ≤ 0xA0 then widePlace? a b
  else if 0xAA ≤ a ∧ a ≤ 0xFE ∧ 0x40 ≤ b ∧ b ≤ 0xA0 ∧ b ≠ 0x7F then
    some (32 * 190 + (a.toNat - 0xAA) * 96 + if b < 0x7F then b.toNat - 0x40 else b.toNat - 0x41)
  else none

/-- The character of two bytes of the extension, which reads two of the common symbols in another
way. -/
def widePair? (a b : UInt8) : Option (List Char) :=
  if a = 0xA1 ∧ b = 0xA4 then some ['·']
  else if a = 0xA1 ∧ b = 0xAA then some ['—']
  else
    (simplifiedPair? a b).or
      ((((widePlace? a b).bind wideSymbols.get?).map ([·])).or
        (((hanziPlace? a b).bind (rareHanzi[·]?)).map fun n => [Char.ofNat n]))

def wideStep : List UInt8 → Step Unit := pairStep widePair?

/-! ## All characters -/

/-- Rows of pairs that are left to users: first and last row, first and last column, the length of a
row, and the first code. -/
def privateBlocks : List (UInt8 × UInt8 × UInt8 × UInt8 × Nat × Nat) :=
  [(0xAA, 0xAF, 0xA1, 0xFE, 94, 0xE000), (0xF8, 0xFE, 0xA1, 0xFE, 94, 0xE234),
    (0xA1, 0xA7, 0x40, 0xA0, 96, 0xE4C6)]

def privateCode? (a b : UInt8) : Option Nat := do
  let (first, _, left, _, size, code) ← privateBlocks.find? fun (first, last, left, right, _, _) =>
    first ≤ a && a ≤ last && left ≤ b && b ≤ right && b != 0x7F
  let column := b.toNat - left.toNat - if left < 0x7F ∧ 0x7F < b then 1 else 0
  return code + (a.toNat - first.toNat) * size + column

/-- The pairs that the extension leaves free, row by row: the row, its first and its last column. -/
def freePairs : List (UInt8 × UInt8 × UInt8) :=
  [(0xA2, 0xAB, 0xB0), (0xA2, 0xE3, 0xE4), (0xA2, 0xEF, 0xF0), (0xA2, 0xFD, 0xFE),
    (0xA4, 0xF4, 0xFE), (0xA5, 0xF7, 0xFE), (0xA6, 0xB9, 0xC0), (0xA6, 0xD9, 0xDF),
    (0xA6, 0xEC, 0xED), (0xA6, 0xF3, 0xF3), (0xA6, 0xF6, 0xFE), (0xA7, 0xC2, 0xD0),
    (0xA7, 0xF2, 0xFE), (0xA8, 0x96, 0xA0), (0xA8, 0xBC, 0xBC), (0xA8, 0xBF, 0xBF),
    (0xA8, 0xC1, 0xC4), (0xA8, 0xEA, 0xFE), (0xA9, 0x58, 0x58), (0xA9, 0x5B, 0x5B),
    (0xA9, 0x5D, 0x5F), (0xA9, 0x89, 0x95), (0xA9, 0x97, 0xA3), (0xA9, 0xF0, 0xFE),
    (0xD7, 0xFA, 0xFE), (0xFE, 0x50, 0x7E), (0xFE, 0x80, 0xA0)]

/-- The place of a pair among the free ones, where `passed` were passed. -/
def freePairPlace? (a b : UInt8) : (passed : Nat) → List (UInt8 × UInt8 × UInt8) → Option Nat
  | _, [] => none
  | passed, (row, left, right) :: rest =>
    if a = row ∧ left ≤ b ∧ b ≤ right then some (passed + (b.toNat - left.toNat))
    else freePairPlace? a b (passed + (right.toNat + 1 - left.toNat)) rest

/-- The free pairs that were given a character later, by their places. -/
def laterHanzi : Grid where
  runs := [
  (6, "€"), (98, "ǹ"), (129, "〾⿰⿱⿲⿳⿴⿵⿶⿷⿸⿹⿺⿻"),
  (175, "⺁���⺄㑳㑇⺈⺋�㖞㘚㘎⺌⺗㥮㤘�㧏㧟㩳㧐��㭎㱮㳠⺧��⺪䁖䅟⺮䌷⺳⺶⺷�䎱䎬⺻䏝䓖䙡䙌�䜣䜩䝼䞍⻊䥇䥺䥽䦂䦃䦅䦆䦟䦛䦷䦶��䲣䲟䲠䲡䱷䲢䴓䴔䴕䴖䴗䴘䴙䶮")]

def fullPair? (a b : UInt8) : Option (List Char) :=
  (widePair? a b).or
    (((privateCode? a b).or ((freePairPlace? a b 0 freePairs).map fun place =>
      match laterHanzi.get? place with
      | some c => c.toNat
      | none => 0xE766 + place)).map fun n => [Char.ofNat n])

/-- The characters of four bytes below U+10000: the numbers where a run of codes starts. -/
def fourByteRuns : List (Nat × Nat) := [
  (0, 0x80), (36, 0xA5), (38, 0xA9), (45, 0xB2), (50, 0xB8), (81, 0xD8), (89, 0xE2), (95, 0xEB),
  (96, 0xEE), (100, 0xF4), (103, 0xF8), (104, 0xFB), (105, 0xFD), (109, 0x102), (126, 0x114),
  (133, 0x11C), (148, 0x12C), (172, 0x145), (175, 0x149), (179, 0x14E), (208, 0x16C), (306, 0x1CF),
  (307, 0x1D1), (308, 0x1D3), (309, 0x1D5), (310, 0x1D7), (311, 0x1D9), (312, 0x1DB), (313, 0x1DD),
  (341, 0x1FA), (428, 0x252), (443, 0x262), (544, 0x2C8), (545, 0x2CC), (558, 0x2DA), (741, 0x3A2),
  (742, 0x3AA), (749, 0x3C2), (750, 0x3CA), (805, 0x402), (819, 0x450), (820, 0x452),
  (7922, 0x2011), (7924, 0x2017), (7925, 0x201A), (7927, 0x201E), (7934, 0x2027), (7943, 0x2031),
  (7944, 0x2034), (7945, 0x2036), (7950, 0x203C), (8062, 0x20AD), (8148, 0x2104), (8149, 0x2106),
  (8152, 0x210A), (8164, 0x2117), (8174, 0x2122), (8236, 0x216C), (8240, 0x217A), (8262, 0x2194),
  (8264, 0x219A), (8374, 0x2209), (8380, 0x2210), (8381, 0x2212), (8384, 0x2216), (8388, 0x221B),
  (8390, 0x2221), (8392, 0x2224), (8393, 0x2226), (8394, 0x222C), (8396, 0x222F), (8401, 0x2238),
  (8406, 0x223E), (8416, 0x2249), (8419, 0x224D), (8424, 0x2253), (8437, 0x2262), (8439, 0x2268),
  (8445, 0x2270), (8482, 0x2296), (8485, 0x229A), (8496, 0x22A6), (8521, 0x22C0), (8603, 0x2313),
  (8936, 0x246A), (8946, 0x249C), (9046, 0x254C), (9050, 0x2574), (9063, 0x2590), (9066, 0x2596),
  (9076, 0x25A2), (9092, 0x25B4), (9100, 0x25BE), (9108, 0x25C8), (9111, 0x25CC), (9113, 0x25D0),
  (9131, 0x25E6), (9162, 0x2607), (9164, 0x260A), (9218, 0x2641), (9219, 0x2643), (11329, 0x2E82),
  (11331, 0x2E85), (11334, 0x2E89), (11336, 0x2E8D), (11346, 0x2E98), (11361, 0x2EA8),
  (11363, 0x2EAB), (11366, 0x2EAF), (11370, 0x2EB4), (11372, 0x2EB8), (11375, 0x2EBC),
  (11389, 0x2ECB), (11682, 0x2FFC), (11686, 0x3004), (11687, 0x3018), (11692, 0x301F),
  (11694, 0x302A), (11714, 0x303F), (11716, 0x3094), (11723, 0x309F), (11725, 0x30F7),
  (11730, 0x30FF), (11736, 0x312A), (11982, 0x322A), (11989, 0x3232), (12102, 0x32A4),
  (12336, 0x3390), (12348, 0x339F), (12350, 0x33A2), (12384, 0x33C5), (12393, 0x33CF),
  (12395, 0x33D3), (12397, 0x33D6), (12510, 0x3448), (12553, 0x3474), (12851, 0x359F),
  (12962, 0x360F), (12973, 0x361B), (13738, 0x3919), (13823, 0x396F), (13919, 0x39D1),
  (13933, 0x39E0), (14080, 0x3A74), (14298, 0x3B4F), (14585, 0x3C6F), (14698, 0x3CE1),
  (15583, 0x4057), (15847, 0x4160), (16318, 0x4338), (16434, 0x43AD), (16438, 0x43B2),
  (16481, 0x43DE), (16729, 0x44D7), (17102, 0x464D), (17122, 0x4662), (17315, 0x4724),
  (17320, 0x472A), (17402, 0x477D), (17418, 0x478E), (17859, 0x4948), (17909, 0x497B),
  (17911, 0x497E), (17915, 0x4984), (17916, 0x4987), (17936, 0x499C), (17939, 0x49A0),
  (17961, 0x49B8), (18664, 0x4C78), (18703, 0x4CA4), (18814, 0x4D1A), (18962, 0x4DAF),
  (19043, 0x9FA6), (33469, 0xE76C), (33470, 0xE7C8), (33471, 0xE7E7), (33484, 0xE815),
  (33485, 0xE819), (33490, 0xE81F), (33497, 0xE827), (33501, 0xE82D), (33505, 0xE833),
  (33513, 0xE83C), (33520, 0xE844), (33536, 0xE856), (33550, 0xE865), (37845, 0xF92D),
  (37921, 0xF97A), (37948, 0xF996), (38029, 0xF9E8), (38038, 0xF9F2), (38064, 0xFA10),
  (38065, 0xFA12), (38066, 0xFA15), (38069, 0xFA19), (38075, 0xFA22), (38076, 0xFA25),
  (38078, 0xFA2A), (39108, 0xFE32), (39109, 0xFE45), (39113, 0xFE53), (39114, 0xFE58),
  (39115, 0xFE67), (39116, 0xFE6C), (39265, 0xFF5F), (39394, 0xFFE6)]

def fourByteCode? (n : Nat) : Option Nat :=
  if n < 39420 then
    ((fourByteRuns.takeWhile fun run => run.1 ≤ n).getLast?).map fun (start, code) =>
      code + (n - start)
  else if 189000 ≤ n ∧ n - 189000 ≤ 0xFFFFF then some (0x10000 + (n - 189000))
  else none

def fourByteChar? (a b c d : UInt8) : Option (List Char) :=
  if 0x81 ≤ a ∧ a ≤ 0xFE ∧ 0x81 ≤ c ∧ c ≤ 0xFE ∧ 0x30 ≤ d ∧ d ≤ 0x39 then
    let high := (a.toNat - 0x81) * 10 + (b.toNat - 0x30)
    let low := (c.toNat - 0x81) * 10 + (d.toNat - 0x30)
    (fourByteCode? (high * 1260 + low)).map fun n => [Char.ofNat n]
  else none

def fullStep (bytes : List UInt8) : Step Unit :=
  match bytes with
  | [] => .unfinished
  | [a] => if a < 0x80 then single (asciiChar a) else .unfinished
  | a :: b :: rest =>
    if a < 0x80 then single (asciiChar a)
    else if 0x30 ≤ b ∧ b ≤ 0x39 then
      match rest with
      | c :: d :: _ => found 4 (fourByteChar? a b c d)
      | _ => .unfinished
    else found 2 (fullPair? a b)

/-! ## Simplified Chinese in seven bits -/

/-- Reads text in which a tilde and a brace open and close a run of simplified characters; the state
says whether one is open. -/
def tildeStep (isOpen : Bool) (bytes : List UInt8) : Step Bool :=
  match bytes with
  | [] => .unfinished
  | a :: rest =>
    if a = 0x7E then
      match rest with
      | [] => .unfinished
      | b :: _ =>
        if b = 0x7E ∧ !isOpen then .chars ['~'] 2 isOpen
        else if b = 0x7B ∧ !isOpen then .chars [] 2 true
        else if b = 0x0A ∧ !isOpen then .chars [] 2 isOpen
        else if b = 0x7D ∧ isOpen then .chars [] 2 false
        else .wrong 1
    else if 0x80 ≤ a then .wrong 1
    else if !isOpen then .chars [asciiChar a] 1 isOpen
    else
      match rest with
      | [] => .unfinished
      | b :: _ =>
        match (cell? a.toNat b.toNat).bind simplified.get? with
        | some c => .chars [c] 2 isOpen
        | none => .wrong 1

/-! ## Traditional Chinese -/

/-- The cell of two bytes in rows of 157. -/
def traditionalCell? (a b : UInt8) : Option Nat :=
  if 0x81 ≤ a ∧ a ≤ 0xFE then
    let row := (a.toNat - 0x81) * 157
    if 0x40 ≤ b ∧ b ≤ 0x7E then some (row + (b.toNat - 0x40))
    else if 0xA1 ≤ b ∧ b ≤ 0xFE then some (row + (b.toNat - 0xA1) + 63)
    else none
  else none

def traditionalStep : List UInt8 → Step Unit :=
  pairStep fun a b => ((traditionalCell? a b).bind traditional.get?).map ([·])

def traditionalVendorStep : List UInt8 → Step Unit :=
  pairStep fun a b =>
    (traditionalCell? a b).bind fun cell =>
      ((traditionalVendor.get? cell).or (traditional.get? cell)).map ([·])

/-- The cells of Hong Kong that hold a letter with a mark. -/
def hongKongPairs : List (Nat × String) :=
  [(1133, "Ê\u0304"), (1135, "Ê\u030c"), (1164, "ê\u0304"), (1166, "ê\u030c")]

/-- The cells that Hong Kong reads in its own way: the first, and the first behind them. -/
def hongKongCells : Nat × Nat := (10896, 11304)

def hongKongStep : List UInt8 → Step Unit :=
  pairStep fun a b =>
    (traditionalCell? a b).bind fun cell =>
      let isOwn := hongKongCells.1 ≤ cell && cell < hongKongCells.2
      let common := if isOwn then none else traditional.get? cell
      match common.or (hongKong.get? cell) with
      | some c => some [c]
      | none => (hongKongPairs.lookup cell).map String.toList

end TypeGraph.Charset
