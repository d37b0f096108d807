import Constituency.Text.Excerpt
import Constituency.Text.Grid.Jisx0208
import Constituency.Text.Grid.Jisx0212

/-!
# Japanese encodings

EUC and Shift JIS write the same grid of characters in different bytes, and katakana of half width in
one byte of their own.
-/
namespace Constituency.Text.Japanese

/-- The katakana of half width for a byte. -/
def kana? (a : Nat) : Option Char :=
  if 0xA1 ≤ a && a ≤ 0xDF then some (Char.ofNat (0xFF61 + (a - 0xA1))) else none

/-- The byte of a katakana of half width. -/
def kanaByte? (c : Char) : Option Nat :=
  if 0xFF61 ≤ c.toNat && c.toNat ≤ 0xFF9F then some (0xA1 + (c.toNat - 0xFF61)) else none

/-- The byte of a character of ASCII, or of one that takes the place of such a character in Japan. -/
def asciiByte? (c : Char) : Option Nat :=
  if c.toNat < 0x80 then some c.toNat
  else if c = '¥' then some 0x5C
  else if c = '‾' then some 0x7E
  else none

/-! ## EUC -/

def nextOfEuc (a : Nat) (bytes : List Nat) : Step :=
  if a < 0x80 then .found [Char.ofNat a] 0
  else
    match bytes with
    | [] => .begun none
    | b :: bytes =>
        if a = 0x8E then .ofOption (kana? b) 1
        else if a = 0x8F then
          match bytes with
          | [] => .begun none
          | c :: _ => .ofOption (Grid.jisx0212.highChar? b c) 2
        else .ofOption (Grid.jisx0208.highChar? a b) 1

def euc? (c : Char) : Option (List Nat) :=
  (asciiByte? c).map ([·]) <|> (kanaByte? c).map ([0x8E, ·]) <|>
    Grid.jisx0208.highBytes? c <|> (Grid.jisx0212.highBytes? c).map (0x8F :: ·)

/-! ## Shift JIS -/

/-- The number of a pair of rows for the first byte. -/
def rowPair? (a : Nat) : Option Nat :=
  if 0x81 ≤ a && a ≤ 0x9F then some (a - 0x81)
  else if 0xE0 ≤ a && a ≤ 0xFC then some (a - 0xC1)
  else none

/-- The cell in a pair of rows for the second byte. -/
def cell? (b : Nat) : Option Nat :=
  if 0x40 ≤ b && b ≤ 0x7E then some (b - 0x40)
  else if 0x80 ≤ b && b ≤ 0xFC then some (b - 0x41)
  else none

/-- Read a character of a grid in two bytes, of which the first one is for the pair of rows `pair`. -/
def nextOfPair (g : Grid) (pair : Nat) (bytes : List Nat) : Step :=
  let row := 2 * pair
  if g.chars.size ≤ row * 94 then .wrong
  else
    match bytes with
    | [] => .begun none
    | b :: _ => .ofOption ((cell? b).bind fun k => g.char? (row + k / 94) (k % 94)) 1

/-- The two bytes of a character of a grid. -/
def pairBytes? (g : Grid) (c : Char) : Option (List Nat) :=
  (g.place? c).map fun (row, cell) =>
    let pair := row / 2
    let k := row % 2 * 94 + cell
    [pair + (if pair < 0x1F then 0x81 else 0xC1), k + (if k < 0x3F then 0x40 else 0x41)]

def nextOfShiftJis (a : Nat) (bytes : List Nat) : Step :=
  if a < 0x80 then .found [Char.ofNat a] 0
  else
    match kana? a, rowPair? a with
    | some c, _ => .found [c] 0
    | none, some pair => nextOfPair Grid.jisx0208 pair bytes
    | none, none => .wrong

def shiftJis? (c : Char) : Option (List Nat) :=
  ((asciiByte? c <|> kanaByte? c).map ([·])) <|> pairBytes? Grid.jisx0208 c

/-! ## Code page 932 -/

/-- Ideographs that code page 932 adds. -/
def addedIdeographs : String := String.join [
  "纊褜鍈銈蓜俉炻昱棈鋹曻彅丨仡仼伀伃伹佖侒侊侚侔俍偀倢俿倞偆偰偂傔僴僘兊兤冝冾凬刕劜劦勀勛匀匇匤卲厓厲叝﨎咜咊咩哿喆坙坥垬埈埇﨏塚增墲夋奓奛奝奣妤妺孖寀甯寘寬尞岦岺峵崧嵓﨑嵂嵭嶸嶹巐",
  "弡弴彧德忞恝悅悊惞惕愠惲愑愷愰憘戓抦揵摠撝擎敎昀昕昻昉昮昞昤晥晗晙晴晳暙暠暲暿曺朎朗杦枻桒柀栁桄棏﨓楨﨔榘槢樰橫橆橳橾櫢櫤毖氿汜沆汯泚洄涇浯涖涬淏淸淲淼渹湜渧渼溿澈澵濵瀅瀇瀨炅炫焏",
  "焄煜煆煇凞燁燾犱犾猤猪獷玽珉珖珣珒琇珵琦琪琩琮瑢璉璟甁畯皂皜皞皛皦益睆劯砡硎硤硺礰礼神祥禔福禛竑竧靖竫箞精絈絜綷綠緖繒罇羡羽茁荢荿菇菶葈蒴蕓蕙蕫﨟薰蘒﨡蠇裵訒訷詹誧誾諟諸諶譓譿賰賴",
  "贒赶﨣軏﨤逸遧郞都鄕鄧釚釗釞釭釮釤釥鈆鈐鈊鈺鉀鈼鉎鉙鉑鈹鉧銧鉷鉸鋧鋗鋙鋐﨧鋕鋠鋓錥錡鋻﨨錞鋿錝錂鍰鍗鎤鏆鏞鏸鐱鑅鑈閒隆﨩隝隯霳霻靃靍靏靑靕顗顥飯飼餧館馞驎髙髜魵魲鮏鮱鮻鰀鵰鵫鶴鸙黑"]

/-- Signs that code page 932 adds. -/
def addedSigns : String := "ⅰⅱⅲⅳⅴⅵⅶⅷⅸⅹ"

/-- Signs in the thirteenth row of code page 932. -/
def row13 : String := String.join [
  "①②③④⑤⑥⑦⑧⑨⑩⑪⑫⑬⑭⑮⑯⑰⑱⑲⑳ⅠⅡⅢⅣⅤⅥⅦⅧⅨⅩ�㍉㌔㌢㍍㌘㌧㌃㌶㍑㍗㌍㌦㌣㌫㍊㌻㎜㎝㎞",
  "㎎㎏㏄㎡��������㍻〝〟№㏍℡㊤㊥㊦㊧㊨㈱㈲㈹㍾㍽㍼≒≡∫∮∑√⊥∠∟⊿∵∩∪"]

/-- The grid of code page 932. Some signs have other characters, characters are added, some of them in
two places, and 20 rows are for private characters. -/
def codePage932 : Grid :=
  let g := Grid.jisx0208.set 0 32 "～∥"
  let g := (g.set 0 60 "－").set 0 80 "￠￡"
  let g := (g.set 1 43 "￢").set 12 0 row13
  let g := g.set 88 0 (addedIdeographs ++ "��" ++ addedSigns ++ "￢￤＇＂")
  let g := g.set 94 0 (String.ofList ((List.range 1880).map fun k => Char.ofNat (0xE000 + k)))
  g.set 114 0 (addedSigns ++ "ⅠⅡⅢⅣⅤⅥⅦⅧⅨⅩ￢￤＇＂㈱№℡∵" ++ addedIdeographs)

/-- The character of a single byte behind ASCII in code page 932. -/
def single932? (a : Nat) : Option Char :=
  if a = 0x80 then some '\u0080'
  else if a = 0xA0 then some '\uf8f0'
  else if 0xFD ≤ a then some (Char.ofNat (0xF8F1 + (a - 0xFD)))
  else kana? a

/-- The single byte of a character behind ASCII in code page 932. -/
def singleByte932? (c : Char) : Option Nat :=
  if c = '\u0080' then some 0x80
  else if c = '\uf8f0' then some 0xA0
  else if 0xF8F1 ≤ c.toNat && c.toNat ≤ 0xF8F3 then some (0xFD + (c.toNat - 0xF8F1))
  else kanaByte? c

def nextOf932 (a : Nat) (bytes : List Nat) : Step :=
  if a < 0x80 then .found [Char.ofNat a] 0
  else
    match single932? a, rowPair? a with
    | some c, _ => .found [c] 0
    | none, some pair => nextOfPair codePage932 pair bytes
    | none, none => .wrong

/-- The bytes of a character in code page 932; those whose places have other characters are written
nevertheless. -/
def bytes932? (c : Char) : Option (List Nat) :=
  if c.toNat < 0x80 then some [c.toNat]
  else (singleByte932? c).map ([·]) <|> pairBytes? codePage932 c <|> pairBytes? Grid.jisx0208 c

end Constituency.Text.Japanese
