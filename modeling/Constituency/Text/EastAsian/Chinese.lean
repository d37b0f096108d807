import Constituency.Text.Excerpt
import Constituency.Text.Grid.Gb2312

/-!
# Encodings of simplified Chinese

GB 2312 is written in pairs of high bytes. GBK has more pairs: they give the other ideographs of
Unicode in their order, and further signs. In GB 18030 every pair has a character, which is a private
one if need be, and four bytes give all characters that are left.
-/
namespace Constituency.Text.Chinese

def nextOf2312 (a : Nat) (bytes : List Nat) : Step :=
  if a < 0x80 then .found [Char.ofNat a] 0
  else
    match bytes with
    | [] => .begun none
    | b :: _ => .ofOption (Grid.gb2312.highChar? a b) 1

def bytes2312? (c : Char) : Option (List Nat) :=
  if c.toNat < 0x80 then some [c.toNat] else Grid.gb2312.highBytes? c

/-! ## GBK -/

/-- The number of second bytes. -/
def width : Nat := 190

/-- The number of second bytes that are less than those of GB 2312. -/
def lowWidth : Nat := 96

/-- The number of first bytes that are less than those of GB 2312. -/
def lowRows : Nat := 0x20

/-- The first row of GBK that has nothing but ideographs in the low cells. -/
def ideographRow : Nat := 0x29

/-- The number of a second byte. -/
def cell? (b : Nat) : Option Nat :=
  if 0x40 ≤ b && b ≤ 0x7E then some (b - 0x40)
  else if 0x80 ≤ b && b ≤ 0xFE then some (b - 0x41)
  else none

/-- The character of two bytes in a grid for all pairs. -/
def pairChar? (g : Grid) (a b : Nat) : Option Char :=
  if 0x81 ≤ a then (cell? b).bind fun k => g.char? (a - 0x81) k else none

/-- The two bytes of a character in a grid for all pairs. -/
def pairBytes? (g : Grid) (c : Char) : Option (List Nat) :=
  (g.place? c).map fun (row, k) => [0x81 + row, k + (if k < 0x3F then 0x40 else 0x41)]

/-- GB 2312 as a part of GBK, with some other and some more signs. -/
def extended : Grid :=
  let g := ((Grid.gb2312.set 0 3 "·").set 0 9 "—").set 1 0 "ⅰⅱⅲⅳⅴⅵⅶⅷⅸⅹ"
  (g.set 5 63 "︵︶︹︺︿﹀︽︾﹁﹂﹃﹄��︻︼︷︸︱�︳︴").set 7 26 "ɑ�ńň�ɡ"

/-- The signs that GBK has in the low cells of two rows. -/
def lowSigns : Grid := .ofRows lowWidth [
  "ˊˋ˙–―‥‵℅℉↖↗↘↙∕∟∣≒≦≧⊿═║╒╓╔╕╖╗╘╙╚╛╜╝╞╟╠╡╢╣╤╥╦╧╨" ++
    "╩╪╫╬╭╮╯╰╱╲╳▁▂▃▄▅▆▇█▉▊▋▌▍▎▏▓▔▕▼▽◢◣◤◥☉⊕〒〝〞",
  "〡〢〣〤〥〦〧〨〩㊣㎎㎏㎜㎝㎞㎡㏄㏎㏑㏒㏕︰￢￤�℡㈱�‐���ー゛゜ヽヾ〆ゝゞ﹉﹊﹋﹌﹍" ++
    "﹎﹏﹐﹑﹒﹔﹕﹖﹗﹙﹚﹛﹜﹝﹞﹟﹠﹡﹢﹣﹤﹥﹦﹨﹩﹪﹫�������������〇"]

/-- The first number of an ideograph, and how many there are. -/
def ideographs : Nat × Nat := (0x4E00, 20902)

/-- The ideographs that are not in GB 2312, in their order, and some variants. -/
def addedIdeographs : Array Char :=
  Grid.gb2312.missing ideographs.1 ideographs.2 ++ "郎凉秊裏隣兀嗀﨎﨏﨑﨓﨔礼﨟蘒﨡﨣﨤﨧﨨﨩".toList.toArray

/-- The grid of GBK. -/
def gbk : Grid :=
  let added := addedIdeographs
  .tabulate 126 width fun row k =>
    if row < lowRows then added[row * width + k]?
    else if lowWidth ≤ k then extended.char? (row - lowRows) (k - lowWidth)
    else if ideographRow ≤ row then added[lowRows * width + (row - ideographRow) * lowWidth + k]?
    else if ideographRow ≤ row + 2 then lowSigns.char? (row + 2 - ideographRow) k
    else none

def nextOfGbk (a : Nat) (bytes : List Nat) : Step :=
  if a < 0x80 then .found [Char.ofNat a] 0
  else
    match bytes with
    | [] => .begun none
    | b :: _ => .ofOption (pairChar? gbk a b) 1

def gbk? (c : Char) : Option (List Nat) :=
  if c.toNat < 0x80 then some [c.toNat] else pairBytes? gbk c

/-! ## GB 18030 -/

/-- The number of the private character in a place that is set aside for one. -/
def reserved? (row k : Nat) : Option Nat :=
  if lowWidth ≤ k then
    if 0x29 ≤ row && row ≤ 0x2E then some (0xE000 + (row - 0x29) * 94 + (k - lowWidth))
    else if 0x77 ≤ row then some (0xE234 + (row - 0x77) * 94 + (k - lowWidth))
    else none
  else if 0x20 ≤ row && row ≤ 0x26 then some (0xE4C6 + (row - 0x20) * lowWidth + k)
  else none

/-- The first private character for the other places that GBK leaves open. -/
def firstFill : Nat := 0xE766

/-- The characters of pairs: those of GBK, private ones in the places that it leaves open, and further
characters instead of some of the private ones. -/
def pairs : Grid :=
  let step (state : Array Char × Nat) (n : Nat) : Array Char × Nat :=
    let (row, k) := (n / width, n % width)
    match gbk.char? row k, reserved? row k with
    | some c, _ => (state.1.push c, state.2)
    | none, some reserved => (state.1.push (Char.ofNat reserved), state.2)
    | none, none => (state.1.push (Char.ofNat state.2), state.2 + 1)
  let filled : Grid := ⟨width, ((List.range gbk.chars.size).foldl step (#[], firstFill)).1⟩
  let g := (filled.set 0x21 162 "€").set 0x27 126 "ǹ"
  (g.set 0x28 72 "〾⿰⿱⿲⿳⿴⿵⿶⿷⿸⿹⿺⿻").set 0x7D 16 ("⺁���⺄㑳㑇⺈⺋�㖞㘚㘎⺌⺗㥮㤘�㧏㧟㩳㧐��㭎㱮㳠⺧��" ++
    "⺪䁖䅟⺮䌷⺳⺶⺷�䎱䎬⺻䏝䓖䙡䙌�䜣䜩䝼䞍⻊䥇䥺䥽䦂䦃䦅䦆䦟䦛䦷䦶��䲣䲟䲠䲡䱷䲢䴓䴔䴕䴖䴗䴘䴙䶮")

/-- The characters of the lower planes that no pair has, in their order. -/
def unpaired : Array Char := pairs.missing 0x80 (0x10000 - 0x80)

/-- The number of four bytes, of which the second and the fourth one are decimal digits. -/
def quad? (a b c d : Nat) : Option Nat :=
  if 0x81 ≤ a && a ≤ 0xFE && 0x30 ≤ b && b ≤ 0x39 && 0x81 ≤ c && c ≤ 0xFE && 0x30 ≤ d && d ≤ 0x39 then
    some ((((a - 0x81) * 10 + (b - 0x30)) * 126 + (c - 0x81)) * 10 + (d - 0x30))
  else none

/-- The four bytes of a number. -/
def quad (n : Nat) : List Nat :=
  [0x81 + n / 12600, 0x30 + n / 1260 % 10, 0x81 + n / 10 % 126, 0x30 + n % 10]

/-- The number of the first character behind the lower planes. -/
def firstUpper : Nat := 189000

/-- The character of a number. -/
def quadChar? (n : Nat) : Option Char :=
  if n < firstUpper then unpaired[n]?
  else
    let k := 0x10000 + (n - firstUpper)
    if k < 0x110000 then some (Char.ofNat k) else none

/-- The number of a character that no pair has. -/
def quadNumber? (c : Char) : Option Nat :=
  if 0x10000 ≤ c.toNat then some (firstUpper + (c.toNat - 0x10000))
  else unpaired.findIdx? (· == c)

def nextOf18030 (a : Nat) (bytes : List Nat) : Step :=
  if a < 0x80 then .found [Char.ofNat a] 0
  else
    match bytes with
    | [] => .begun none
    | b :: bytes =>
        if 0x30 ≤ b && b ≤ 0x39 then
          match bytes with
          | c :: d :: _ => .ofOption ((quad? a b c d).bind quadChar?) 3
          | _ => .begun none
        else .ofOption (pairChar? pairs a b) 1

def bytes18030? (c : Char) : Option (List Nat) :=
  if c.toNat < 0x80 then some [c.toNat]
  else pairBytes? pairs c <|> (quadNumber? c).map quad

end Constituency.Text.Chinese
