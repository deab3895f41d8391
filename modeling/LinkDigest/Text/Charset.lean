import LinkDigest.Text.Blank
import LinkDigest.Text.SingleByte

/-!
# Character sets

The character sets a page may declare, their standard names, and the labels
that stand for them.
-/

namespace LinkDigest.Text

/-- The character sets of the web. -/
inductive Charset where
  | utf8
  /-- Two bytes a unit, the high one last. -/
  | utf16le
  /-- Two bytes a unit, the high one first. -/
  | utf16be
  | singleByte (set : SingleByte)
  | gbk
  | gb18030
  | big5
  | eucJp
  | iso2022Jp
  | shiftJis
  | eucKr
  /-- Bytes beyond ASCII are private characters. -/
  | userDefined
  /-- Sets too dangerous to read: every text is one replacement character. -/
  | replacement
deriving DecidableEq, Repr

namespace Charset

/-- The standard name. -/
def name : Charset → String
  | .singleByte .ibm866 => "IBM866"
  | .singleByte .latin2 => "ISO-8859-2"
  | .singleByte .latin3 => "ISO-8859-3"
  | .singleByte .latin4 => "ISO-8859-4"
  | .singleByte .latinCyrillic => "ISO-8859-5"
  | .singleByte .latinArabic => "ISO-8859-6"
  | .singleByte .latinGreek => "ISO-8859-7"
  | .singleByte .latinHebrew => "ISO-8859-8"
  | .singleByte .logicalHebrew => "ISO-8859-8-I"
  | .singleByte .latin6 => "ISO-8859-10"
  | .singleByte .latin7 => "ISO-8859-13"
  | .singleByte .latin8 => "ISO-8859-14"
  | .singleByte .latin9 => "ISO-8859-15"
  | .singleByte .latin10 => "ISO-8859-16"
  | .singleByte .koi8r => "KOI8-R"
  | .singleByte .koi8u => "KOI8-U"
  | .singleByte .macRoman => "macintosh"
  | .singleByte .windows874 => "windows-874"
  | .singleByte .windows1250 => "windows-1250"
  | .singleByte .windows1251 => "windows-1251"
  | .singleByte .windows1252 => "windows-1252"
  | .singleByte .windows1253 => "windows-1253"
  | .singleByte .windows1254 => "windows-1254"
  | .singleByte .windows1255 => "windows-1255"
  | .singleByte .windows1256 => "windows-1256"
  | .singleByte .windows1257 => "windows-1257"
  | .singleByte .windows1258 => "windows-1258"
  | .singleByte .macCyrillic => "x-mac-cyrillic"
  | .gbk => "GBK"
  | .gb18030 => "gb18030"
  | .big5 => "Big5"
  | .eucJp => "EUC-JP"
  | .iso2022Jp => "ISO-2022-JP"
  | .shiftJis => "Shift_JIS"
  | .eucKr => "EUC-KR"
  | .utf16be => "UTF-16BE"
  | .utf16le => "UTF-16LE"
  | .userDefined => "x-user-defined"
  | .replacement => "replacement"
  | .utf8 => "UTF-8"

/-- The labels of each set. -/
def labelTable : List (Charset × List String) :=
  [(.singleByte .ibm866,
    ["866", "cp866", "csibm866", "ibm866"]),
   (.singleByte .latin2,
    ["csisolatin2", "iso-8859-2", "iso-ir-101", "iso8859-2", "iso88592", "iso_8859-2",
     "iso_8859-2:1987", "l2", "latin2"]),
   (.singleByte .latin3,
    ["csisolatin3", "iso-8859-3", "iso-ir-109", "iso8859-3", "iso88593", "iso_8859-3",
     "iso_8859-3:1988", "l3", "latin3"]),
   (.singleByte .latin4,
    ["csisolatin4", "iso-8859-4", "iso-ir-110", "iso8859-4", "iso88594", "iso_8859-4",
     "iso_8859-4:1988", "l4", "latin4"]),
   (.singleByte .latinCyrillic,
    ["csisolatincyrillic", "cyrillic", "iso-8859-5", "iso-ir-144", "iso8859-5",
     "iso88595", "iso_8859-5", "iso_8859-5:1988"]),
   (.singleByte .latinArabic,
    ["arabic", "asmo-708", "csiso88596e", "csiso88596i", "csisolatinarabic", "ecma-114",
     "iso-8859-6", "iso-8859-6-e", "iso-8859-6-i", "iso-ir-127", "iso8859-6",
     "iso88596", "iso_8859-6", "iso_8859-6:1987"]),
   (.singleByte .latinGreek,
    ["csisolatingreek", "ecma-118", "elot_928", "greek", "greek8", "iso-8859-7",
     "iso-ir-126", "iso8859-7", "iso88597", "iso_8859-7", "iso_8859-7:1987",
     "sun_eu_greek"]),
   (.singleByte .latinHebrew,
    ["csiso88598e", "csisolatinhebrew", "hebrew", "iso-8859-8", "iso-8859-8-e",
     "iso-ir-138", "iso8859-8", "iso88598", "iso_8859-8", "iso_8859-8:1988", "visual"]),
   (.singleByte .logicalHebrew,
    ["csiso88598i", "iso-8859-8-i", "logical"]),
   (.singleByte .latin6,
    ["csisolatin6", "iso-8859-10", "iso-ir-157", "iso8859-10", "iso885910", "l6",
     "latin6"]),
   (.singleByte .latin7,
    ["iso-8859-13", "iso8859-13", "iso885913"]),
   (.singleByte .latin8,
    ["iso-8859-14", "iso8859-14", "iso885914"]),
   (.singleByte .latin9,
    ["csisolatin9", "iso-8859-15", "iso8859-15", "iso885915", "iso_8859-15", "l9"]),
   (.singleByte .latin10,
    ["iso-8859-16"]),
   (.singleByte .koi8r,
    ["cskoi8r", "koi", "koi8", "koi8-r", "koi8_r"]),
   (.singleByte .koi8u,
    ["koi8-ru", "koi8-u"]),
   (.singleByte .macRoman,
    ["csmacintosh", "mac", "macintosh", "x-mac-roman"]),
   (.singleByte .windows874,
    ["dos-874", "iso-8859-11", "iso8859-11", "iso885911", "tis-620", "windows-874"]),
   (.singleByte .windows1250,
    ["cp1250", "windows-1250", "x-cp1250"]),
   (.singleByte .windows1251,
    ["cp1251", "windows-1251", "x-cp1251"]),
   (.singleByte .windows1252,
    ["ansi_x3.4-1968", "ascii", "cp1252", "cp819", "csisolatin1", "ibm819",
     "iso-8859-1", "iso-ir-100", "iso8859-1", "iso88591", "iso_8859-1",
     "iso_8859-1:1987", "l1", "latin1", "us-ascii", "windows-1252", "x-cp1252"]),
   (.singleByte .windows1253,
    ["cp1253", "windows-1253", "x-cp1253"]),
   (.singleByte .windows1254,
    ["cp1254", "csisolatin5", "iso-8859-9", "iso-ir-148", "iso8859-9", "iso88599",
     "iso_8859-9", "iso_8859-9:1989", "l5", "latin5", "windows-1254", "x-cp1254"]),
   (.singleByte .windows1255,
    ["cp1255", "windows-1255", "x-cp1255"]),
   (.singleByte .windows1256,
    ["cp1256", "windows-1256", "x-cp1256"]),
   (.singleByte .windows1257,
    ["cp1257", "windows-1257", "x-cp1257"]),
   (.singleByte .windows1258,
    ["cp1258", "windows-1258", "x-cp1258"]),
   (.singleByte .macCyrillic,
    ["x-mac-cyrillic", "x-mac-ukrainian"]),
   (.gbk,
    ["chinese", "csgb2312", "csiso58gb231280", "gb2312", "gb_2312", "gb_2312-80", "gbk",
     "iso-ir-58", "x-gbk"]),
   (.gb18030,
    ["gb18030"]),
   (.big5,
    ["big5", "big5-hkscs", "cn-big5", "csbig5", "x-x-big5"]),
   (.eucJp,
    ["cseucpkdfmtjapanese", "euc-jp", "x-euc-jp"]),
   (.iso2022Jp,
    ["csiso2022jp", "iso-2022-jp"]),
   (.shiftJis,
    ["csshiftjis", "ms932", "ms_kanji", "shift-jis", "shift_jis", "sjis", "windows-31j",
     "x-sjis"]),
   (.eucKr,
    ["cseuckr", "csksc56011987", "euc-kr", "iso-ir-149", "korean", "ks_c_5601-1987",
     "ks_c_5601-1989", "ksc5601", "ksc_5601", "windows-949"]),
   (.utf16be,
    ["unicodefffe", "utf-16be"]),
   (.utf16le,
    ["csunicode", "iso-10646-ucs-2", "ucs-2", "unicode", "unicodefeff", "utf-16",
     "utf-16le"]),
   (.userDefined,
    ["x-user-defined"]),
   (.replacement,
    ["csiso2022kr", "hz-gb-2312", "iso-2022-cn", "iso-2022-cn-ext", "iso-2022-kr",
     "replacement"]),
   (.utf8,
    ["unicode-1-1-utf-8", "unicode11utf8", "unicode20utf8", "utf-8", "utf8",
     "x-unicode20utf8"])]

/-- A label in the form of the table: without blanks around it, in lower case. -/
def canonicalLabel (label : List Char) : List Char :=
  (strip isAsciiBlank label).map Char.toLower

/-- The set a label stands for. -/
def ofLabel? (label : String) : Option Charset :=
  let wanted := String.ofList (canonicalLabel label.toList)
  (labelTable.find? fun row => row.2.contains wanted).map (·.1)

end Charset

end LinkDigest.Text
