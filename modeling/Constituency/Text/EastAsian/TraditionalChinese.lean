import Constituency.Text.Excerpt
import Constituency.Text.Grid.Big5

/-!
# Encodings of traditional Chinese

Big5 is a grid in pairs of bytes; a few pairs repeat characters and are only read. Code page 950 has
some other signs and one more row.
-/
namespace Constituency.Text.TraditionalChinese

/-- The number of a second byte. -/
def cell? (b : Nat) : Option Nat :=
  if 0x40 ≤ b && b ≤ 0x7E then some (b - 0x40)
  else if 0xA1 ≤ b && b ≤ 0xFE then some (b - 0x62)
  else none

/-- Read a character of a grid with some repeated characters. -/
def nextOf (g repeated : Grid) (a : Nat) (bytes : List Nat) : Step :=
  if a < 0x80 then .found [Char.ofNat a] 0
  else
    match bytes with
    | [] => .begun none
    | b :: _ =>
        let char? (g : Grid) := if 0xA1 ≤ a then (cell? b).bind (g.char? (a - 0xA1)) else none
        .ofOption (char? g <|> char? repeated) 1

/-- The bytes of a character of a grid. -/
def bytes? (g : Grid) (c : Char) : Option (List Nat) :=
  if c.toNat < 0x80 then some [c.toNat]
  else (g.place? c).map fun (row, k) => [0xA1 + row, k + (if k < 0x3F then 0x40 else 0x62)]

/-- The repeated numbers ten and thirty. -/
def repeatedNumbers : Grid := (⟨157, #[]⟩ : Grid).set 1 106 "十�卅"

/-- The repeated characters of Big5. -/
def repeated : Grid := (repeatedNumbers.set 0 156 "／").set 1 0 "＼"

/-- Signs and ideographs that code page 950 adds. -/
def added : String := "碁銹裏墻恒粧嫺╔╦╗╠╬╣╚╩╝╒╤╕╞╪╡╘╧╛╓╥╖╟╫╢╙╨╜║═╭╮╰╯▓"

def codePage950 : Grid :=
  let g := (((Grid.big5.set 0 5 "‧").set 0 14 "﹑").set 0 96 "¯").set 0 129 "～"
  let g := (g.set 0 144 "⊕⊙").set 0 156 "／＼∕﹨"
  ((((g.set 1 4 "￥").set 1 6 "￠￡").set 2 127 "€").set 88 116 added)

/-- The bytes of a character in code page 950. Some signs are written as those that have taken their
place. -/
def bytes950? (c : Char) : Option (List Nat) :=
  bytes? codePage950 c <|>
    if "¢£¥•‾∼☉♁､".toList.contains c then bytes? Grid.big5 c else none

end Constituency.Text.TraditionalChinese
