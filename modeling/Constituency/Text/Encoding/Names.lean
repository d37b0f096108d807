import Constituency.Text.ByteTable.Ebcdic
import Constituency.Text.ByteTable.Iso8859
import Constituency.Text.ByteTable.Macintosh
import Constituency.Text.ByteTable.Regional
import Constituency.Text.ByteTable.Terminal
import Constituency.Text.ByteTable.Windows
import Constituency.Text.Encoding

/-!
# Names of encodings

An encoding is found by any of its names, in letters of any case and with any characters between the
letters and digits of it.
-/
namespace Constituency.Text

/-- The names of an encoding in their plain form. -/
structure EncodingName where
  /-- The proper name, in which a point is kept. -/
  proper : String
  /-- Further names; a point in a name is as good as an underscore. -/
  aliases : List String
  encoding : Encoding

namespace EncodingName

/-- The names of the encodings of all of Unicode, and of none. -/
def unicodeNames : List EncodingName := [
  ⟨"utf_8", ["cp65001", "u8", "utf", "utf8", "utf8_ucs2", "utf8_ucs4"], .utf8⟩,
  ⟨"utf_8_sig", [], .markedUtf8⟩,
  ⟨"utf_16", ["u16", "utf16"], .utf16 none⟩,
  ⟨"utf_16_le", ["unicodelittleunmarked", "utf_16le"], .utf16 (some .little)⟩,
  ⟨"utf_16_be", ["unicodebigunmarked", "utf_16be"], .utf16 (some .big)⟩,
  ⟨"utf_32", ["u32", "utf32"], .utf32 none⟩,
  ⟨"utf_32_le", ["utf_32le"], .utf32 (some .little)⟩,
  ⟨"utf_32_be", ["utf_32be"], .utf32 (some .big)⟩,
  ⟨"utf_7", ["u7", "unicode_1_1_utf_7", "utf7"], .utf7⟩,
  ⟨"unicode_escape", [], .escaped true⟩,
  ⟨"raw_unicode_escape", [], .escaped false⟩,
  ⟨"undefined", [], .undefined⟩]

/-- The names of the tables of ASCII and ISO 8859. -/
def standardNames : List EncodingName := [
  ⟨"ascii", ["646", "ansi_x3.4_1968", "ansi_x3.4_1986", "ansi_x3_4_1968", "cp367", "csascii",
    "ibm367", "iso646_us", "iso_646.irv_1991", "iso_ir_6", "us", "us_ascii"], .table .ascii⟩,
  ⟨"latin_1", ["8859", "cp819", "csisolatin1", "ibm819", "iso8859", "iso8859_1", "iso_8859_1",
    "iso_8859_1_1987", "iso_ir_100", "l1", "latin", "latin1"], .table .latin1⟩,
  ⟨"iso8859_1", [], .table .latin1⟩,
  ⟨"charmap", [], .table .latin1⟩,
  ⟨"iso8859_2", ["csisolatin2", "iso_8859_2", "iso_8859_2_1987", "iso_ir_101", "l2", "latin2"],
    .table .isoPart2⟩,
  ⟨"iso8859_3", ["csisolatin3", "iso_8859_3", "iso_8859_3_1988", "iso_ir_109", "l3", "latin3"],
    .table .isoPart3⟩,
  ⟨"iso8859_4", ["csisolatin4", "iso_8859_4", "iso_8859_4_1988", "iso_ir_110", "l4", "latin4"],
    .table .isoPart4⟩,
  ⟨"iso8859_5", ["csisolatincyrillic", "cyrillic", "iso_8859_5", "iso_8859_5_1988", "iso_ir_144"],
    .table .isoPart5⟩,
  ⟨"iso8859_6", ["arabic", "asmo_708", "csisolatinarabic", "ecma_114", "iso_8859_6",
    "iso_8859_6_1987", "iso_ir_127"], .table .isoPart6⟩,
  ⟨"iso8859_7", ["csisolatingreek", "ecma_118", "elot_928", "greek", "greek8", "iso_8859_7",
    "iso_8859_7_1987", "iso_ir_126"], .table .isoPart7⟩,
  ⟨"iso8859_8", ["csisolatinhebrew", "hebrew", "iso_8859_8", "iso_8859_8_1988", "iso_ir_138"],
    .table .isoPart8⟩,
  ⟨"iso8859_9", ["csisolatin5", "iso_8859_9", "iso_8859_9_1989", "iso_ir_148", "l5", "latin5"],
    .table .isoPart9⟩,
  ⟨"iso8859_10", ["csisolatin6", "iso_8859_10", "iso_8859_10_1992", "iso_ir_157", "l6", "latin6"],
    .table .isoPart10⟩,
  ⟨"iso8859_11", ["iso_8859_11", "iso_8859_11_2001", "thai"], .table .isoPart11⟩,
  ⟨"iso8859_13", ["iso_8859_13", "l7", "latin7"], .table .isoPart13⟩,
  ⟨"iso8859_14", ["iso_8859_14", "iso_8859_14_1998", "iso_celtic", "iso_ir_199", "l8", "latin8"],
    .table .isoPart14⟩,
  ⟨"iso8859_15", ["iso_8859_15", "l9", "latin9"], .table .isoPart15⟩,
  ⟨"iso8859_16", ["iso_8859_16", "iso_8859_16_2001", "iso_ir_226", "l10", "latin10"], .table
    .isoPart16⟩]

/-- The names of the tables of graphical systems. -/
def graphicalNames : List EncodingName := [
  ⟨"cp1250", ["1250", "windows_1250"], .table .codePage1250⟩,
  ⟨"cp1251", ["1251", "windows_1251"], .table .codePage1251⟩,
  ⟨"cp1252", ["1252", "windows_1252"], .table .codePage1252⟩,
  ⟨"cp1253", ["1253", "windows_1253"], .table .codePage1253⟩,
  ⟨"cp1254", ["1254", "windows_1254"], .table .codePage1254⟩,
  ⟨"cp1255", ["1255", "windows_1255"], .table .codePage1255⟩,
  ⟨"cp1256", ["1256", "windows_1256"], .table .codePage1256⟩,
  ⟨"cp1257", ["1257", "windows_1257"], .table .codePage1257⟩,
  ⟨"cp1258", ["1258", "windows_1258"], .table .codePage1258⟩,
  ⟨"mac_arabic", [], .table .macArabic⟩,
  ⟨"mac_croatian", [], .table .macCroatian⟩,
  ⟨"mac_cyrillic", ["maccyrillic"], .table .macCyrillic⟩,
  ⟨"mac_farsi", [], .table .macFarsi⟩,
  ⟨"mac_greek", ["macgreek"], .table .macGreek⟩,
  ⟨"mac_iceland", ["maciceland"], .table .macIceland⟩,
  ⟨"mac_latin2", ["mac_centeuro", "maccentraleurope", "maclatin2"], .table .macLatin2⟩,
  ⟨"mac_roman", ["macintosh", "macroman"], .table .macRoman⟩,
  ⟨"mac_romanian", [], .table .macRomanian⟩,
  ⟨"mac_turkish", ["macturkish"], .table .macTurkish⟩]

/-- The names of the tables of terminals and punched cards. -/
def terminalNames : List EncodingName := [
  ⟨"cp437", ["437", "cspc8codepage437", "ibm437"], .table .codePage437⟩,
  ⟨"cp720", [], .table .codePage720⟩,
  ⟨"cp737", [], .table .codePage737⟩,
  ⟨"cp775", ["775", "cspc775baltic", "ibm775"], .table .codePage775⟩,
  ⟨"cp850", ["850", "cspc850multilingual", "ibm850"], .table .codePage850⟩,
  ⟨"cp852", ["852", "cspcp852", "ibm852"], .table .codePage852⟩,
  ⟨"cp855", ["855", "csibm855", "ibm855"], .table .codePage855⟩,
  ⟨"cp856", [], .table .codePage856⟩,
  ⟨"cp857", ["857", "csibm857", "ibm857"], .table .codePage857⟩,
  ⟨"cp858", ["858", "csibm858", "ibm858"], .table .codePage858⟩,
  ⟨"cp860", ["860", "csibm860", "ibm860"], .table .codePage860⟩,
  ⟨"cp861", ["861", "cp_is", "csibm861", "ibm861"], .table .codePage861⟩,
  ⟨"cp862", ["862", "cspc862latinhebrew", "ibm862"], .table .codePage862⟩,
  ⟨"cp863", ["863", "csibm863", "ibm863"], .table .codePage863⟩,
  ⟨"cp864", ["864", "csibm864", "ibm864"], .table .codePage864⟩,
  ⟨"cp865", ["865", "csibm865", "ibm865"], .table .codePage865⟩,
  ⟨"cp866", ["866", "csibm866", "ibm866"], .table .codePage866⟩,
  ⟨"cp869", ["869", "cp_gr", "csibm869", "ibm869"], .table .codePage869⟩,
  ⟨"cp1125", ["1125", "cp866u", "ibm1125", "ruscii"], .table .codePage1125⟩,
  ⟨"cp037", ["037", "csibm037", "ebcdic_cp_ca", "ebcdic_cp_nl", "ebcdic_cp_us", "ebcdic_cp_wt",
    "ibm037", "ibm039"], .table .codePage37⟩,
  ⟨"cp273", ["273", "csibm273", "ibm273"], .table .codePage273⟩,
  ⟨"cp424", ["424", "csibm424", "ebcdic_cp_he", "ibm424"], .table .codePage424⟩,
  ⟨"cp500", ["500", "csibm500", "ebcdic_cp_be", "ebcdic_cp_ch", "ibm500"], .table .codePage500⟩,
  ⟨"cp875", [], .table .codePage875⟩,
  ⟨"cp1026", ["1026", "csibm1026", "ibm1026"], .table .codePage1026⟩,
  ⟨"cp1140", ["1140", "ibm1140"], .table .codePage1140⟩]

/-- The names of the tables of regions. -/
def regionalNames : List EncodingName := [
  ⟨"koi8_r", ["cskoi8r"], .table .koi8R⟩,
  ⟨"koi8_t", [], .table .koi8T⟩,
  ⟨"koi8_u", [], .table .koi8U⟩,
  ⟨"kz1048", ["kz_1048", "rk1048", "strk1048_2002"], .table .kz1048⟩,
  ⟨"ptcp154", ["cp154", "csptcp154", "cyrillic_asian", "pt154"], .table .asianCyrillic⟩,
  ⟨"cp874", [], .table .codePage874⟩,
  ⟨"tis_620", ["iso_ir_166", "tis620", "tis_620_0", "tis_620_2529_0", "tis_620_2529_1"], .table
    .thai⟩,
  ⟨"cp1006", [], .table .codePage1006⟩,
  ⟨"hp_roman8", ["cp1051", "ibm1051", "r8", "roman8"], .table .roman8⟩,
  ⟨"palmos", [], .table .handheld⟩]

/-- The names of the encodings of East Asia. -/
def eastAsianNames : List EncodingName := [
  ⟨"gb2312", ["chinese", "csiso58gb231280", "euc_cn", "euccn", "eucgb2312_cn", "gb2312_1980",
    "gb2312_80", "iso_ir_58", "x_mac_simp_chinese"], .eastAsian .gb2312⟩,
  ⟨"gbk", ["936", "cp936", "ms936"], .eastAsian .gbk⟩,
  ⟨"gb18030", ["gb18030_2000"], .eastAsian .gb18030⟩,
  ⟨"big5", ["big5_tw", "csbig5", "x_mac_trad_chinese"], .eastAsian .big5⟩,
  ⟨"cp950", ["950", "ms950"], .eastAsian .codePage950⟩,
  ⟨"euc_jp", ["eucjp", "u_jis", "ujis"], .eastAsian .japaneseEuc⟩,
  ⟨"shift_jis", ["csshiftjis", "s_jis", "shiftjis", "sjis", "x_mac_japanese"], .eastAsian
    .shiftJis⟩,
  ⟨"cp932", ["932", "ms932", "ms_kanji", "mskanji"], .eastAsian .codePage932⟩,
  ⟨"euc_kr", ["euckr", "korean", "ks_c_5601", "ks_c_5601_1987", "ks_x_1001", "ksc5601", "ksx1001",
    "x_mac_korean"], .eastAsian .koreanEuc⟩,
  ⟨"cp949", ["949", "ms949", "uhc"], .eastAsian .unifiedHangul⟩]


def all : List EncodingName :=
  unicodeNames ++ standardNames ++ graphicalNames ++ terminalNames ++ regionalNames ++
    eastAsianNames

/-- Whether a plain name is one of the names. -/
def includes (x : EncodingName) (name : String) : Bool :=
  x.proper == name || x.aliases.contains name ||
    x.aliases.contains (String.ofList (name.toList.map fun c => if c = '.' then '_' else c))

end EncodingName

namespace Encoding

/-- A name of an encoding in small letters, in which every run of characters between letters, digits and
points is an underscore; `gap` tells that such a run is open, and `isFirst` that nothing stands in
front of it. -/
def plainName (gap isFirst : Bool) : List Char → List Char
  | [] => []
  | c :: cs =>
      if c.isAlphanum || c == '.' then
        if gap && !isFirst then '_' :: c.toLower :: plainName false false cs
        else c.toLower :: plainName false false cs
      else plainName true isFirst cs

/-- Nothing, if a name has no null character in it. -/
def checkName (name : String) : Except CodecError Unit :=
  if name.toList.contains '\x00' then .error .nullCharacter else .ok ()

def named (name : String) : Except CodecError Encoding := do
  checkName name
  let plain := String.ofList (plainName false true name.toList)
  match EncodingName.all.find? (·.includes plain) with
  | some x => pure x.encoding
  | none => throw .unknownEncoding

/-- The name of the encoding of files that is used where none is given. -/
def localName : String := "locale"

/-- The encoding of a name for a file. -/
def forFile (name : String) : Except CodecError Encoding :=
  if name = localName then .ok .utf8 else named name

end Encoding

end Constituency.Text
