import Constituency.Text.EastAsian.Chinese
import Constituency.Text.EastAsian.Japanese
import Constituency.Text.EastAsian.Korean
import Constituency.Text.EastAsian.TraditionalChinese

/-!
# Encodings of East Asia

Characters of ASCII are single bytes; most other ones have two, the first of which is none of ASCII.
-/
namespace Constituency.Text

inductive EastAsian where
  | gb2312
  | gbk
  | gb18030
  | big5
  | codePage950
  | japaneseEuc
  | shiftJis
  | codePage932
  | koreanEuc
  | unifiedHangul
  deriving Repr, DecidableEq

namespace EastAsian

/-- The number of bytes behind the first one that a character has at most. -/
def maxFurther : Nat := 7

def next (e : EastAsian) (b : UInt8) (bytes : List UInt8) : Step :=
  let a := b.toNat
  let more := (bytes.take maxFurther).map UInt8.toNat
  match e with
  | gb2312 => Chinese.nextOf2312 a more
  | gbk => Chinese.nextOfGbk a more
  | gb18030 => Chinese.nextOf18030 a more
  | big5 => TraditionalChinese.nextOf Grid.big5 TraditionalChinese.repeated a more
  | codePage950 =>
      TraditionalChinese.nextOf TraditionalChinese.codePage950 TraditionalChinese.repeatedNumbers a more
  | japaneseEuc => Japanese.nextOfEuc a more
  | shiftJis => Japanese.nextOfShiftJis a more
  | codePage932 => Japanese.nextOf932 a more
  | koreanEuc => Korean.nextOfEuc a more
  | unifiedHangul => Korean.nextOfUnified a more

def bytes? (e : EastAsian) (c : Char) : Option (List UInt8) :=
  let bytes : Option (List Nat) := match e with
    | gb2312 => Chinese.bytes2312? c
    | gbk => Chinese.gbk? c
    | gb18030 => Chinese.bytes18030? c
    | big5 => TraditionalChinese.bytes? Grid.big5 c
    | codePage950 => TraditionalChinese.bytes950? c
    | japaneseEuc => Japanese.euc? c
    | shiftJis => Japanese.shiftJis? c
    | codePage932 => Japanese.bytes932? c
    | koreanEuc => Korean.euc? c
    | unifiedHangul => Korean.unified? c
  bytes.map (·.map Nat.toUInt8)

def write? (e : EastAsian) (cs : List Char) : Option (List UInt8) := (cs.mapM e.bytes?).map List.flatten

end EastAsian

end Constituency.Text
