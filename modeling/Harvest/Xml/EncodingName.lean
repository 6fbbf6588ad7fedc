/-
Names of encodings other than the forms of Unicode that a document shows by its first bytes. In a name, letters count in
either case, and every run of marks between letters and digits counts as one `_`; a dot is a mark only in further names.
-/
import Harvest.Xml.Codepage
import Harvest.Xml.Error

namespace Harvest.Xml

open Harvest.Text

/-- what the name of an encoding stands for -/
inductive NamedEncoding where
  | page (p : Codepage)
  /-- one byte a character, but the lower half is not ASCII -/
  | foreign
  | faulty (fault : EncodingFault)

/-- encodings whose lower half is not ASCII, with their further names -/
def foreignNames : String :=
  "cp037 cp1026 cp1140 cp273 cp424 cp500 cp864 cp875 mac_arabic mac_farsi"

def foreignAliases : String := "
  037 csibm037 ebcdic_cp_ca ebcdic_cp_nl ebcdic_cp_us ebcdic_cp_wt ibm037 ibm039 1026 csibm1026 ibm1026 1140 ibm1140 273
  csibm273 ibm273 424 csibm424 ebcdic_cp_he ibm424 500 csibm500 ebcdic_cp_be ebcdic_cp_ch ibm500 864 csibm864 ibm864"

/-- encodings in which a character can take several bytes, with their further names -/
def severalBytesNames : String := "
  big5 big5hkscs cp932 cp949 cp950 euc_jis_2004 euc_jisx0213 euc_jp euc_kr gb18030 gb2312 gbk iso2022_kr johab shift_jis
  shift_jis_2004 shift_jisx0213 utf_16 utf_16_be utf_16_le utf_32 utf_32_be utf_32_le utf_7"

def severalBytesAliases : String := "
  932 936 949 950 big5_hkscs big5_tw chinese cp1361 cp936 csbig5 csiso2022kr csiso58gb231280 csshiftjis euc_cn euc_jis2004
  euccn eucgb2312_cn eucjis2004 eucjisx0213 eucjp euckr gb18030_2000 gb2312_1980 gb2312_80 hkscs iso2022kr iso_2022_kr
  iso_ir_58 jisx0213 korean ks_c_5601 ks_c_5601_1987 ks_x_1001 ksc5601 ksx1001 ms1361 ms932 ms936 ms949 ms950 ms_kanji
  mskanji s_jis s_jis_2004 s_jisx0213 shiftjis shiftjis2004 shiftjisx0213 sjis sjis_2004 sjisx0213 u16 u32 u7 u_jis uhc
  ujis unicode_1_1_utf_7 unicodebigunmarked unicodelittleunmarked utf16 utf32 utf7 utf_16be utf_16le utf_32be utf_32le
  x_mac_japanese x_mac_korean x_mac_simp_chinese x_mac_trad_chinese"

/-- ways to recode bytes, with their further names -/
def noTextNames : String :=
  "base64_codec bz2_codec hex_codec quopri_codec rot_13 uu_codec zlib_codec"

def noTextAliases : String :=
  "base64 base_64 bz2 hex quopri quoted_printable quotedprintable rot13 uu zip zlib"

/-- the names of all encodings, the further names, and what they stand for -/
def namedEncodings : List (String × String × NamedEncoding) :=
  Codepage.all.map (fun p => (p.names, p.aliases, .page p)) ++ [
    (foreignNames, foreignAliases, .foreign),
    (severalBytesNames, severalBytesAliases, .faulty .severalBytes),
    (noTextNames, noTextAliases, .faulty .noText),
    ("idna", "", .faulty .strict),
    ("undefined", "", .faulty .undefined),
    ("punycode", "", .faulty .asciiOnly)]

namespace NamedEncoding

/-- the name is one of the words of a text -/
def isAmong (given : String) (name : List Char) : Bool :=
  (words given.toList).contains name

/-- the parts of a name without its marks, joined by single `_` -/
def plainName (name : List Char) : List Char :=
  let lower := name.map fun c => if c.isAlphanum || c == '.' then c.toLower else '_'
  ['_'].intercalate ((pieces '_' lower).filter (!·.isEmpty))

/-- what a further name stands for -/
def ofAlias? (name : List Char) : Option NamedEncoding :=
  (namedEncodings.find? fun e => isAmong e.2.1 name).map (·.2.2)

/-- what a name stands for, if it is known -/
def ofName? (name : List Char) : Option NamedEncoding :=
  let plain := plainName name
  match ofAlias? plain with
  | some e => some e
  | none =>
    if plain.contains '.' then ofAlias? (plain.map fun c => if c == '.' then '_' else c)
    else (namedEncodings.find? fun e => isAmong e.1 plain).map (·.2.2)

end NamedEncoding

end Harvest.Xml
