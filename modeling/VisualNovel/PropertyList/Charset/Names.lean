/-!
# Names of other character sets

Character sets that are known by name and that no markup can be read in, because they write a
character by several bytes, or because their bytes below 128 are not ASCII.
-/

namespace VisualNovel.PropertyList.Charset

/-- The names of sets that write some characters by several bytes. -/
def severalNames : List String :=
  ["big5", "big5hkscs", "cp932", "cp949", "cp950", "euc_jis_2004", "euc_jisx0213",
   "euc_jp", "euc_kr", "gb18030", "gb2312", "gbk", "idna", "iso2022_kr", "johab",
   "punycode", "shift_jis", "shift_jis_2004", "shift_jisx0213", "undefined", "utf_16",
   "utf_16_be", "utf_16_le", "utf_32", "utf_32_be", "utf_32_le", "utf_7"]

/-- Further names of them, in which a point may stand for a dash. -/
def severalAliases : List String :=
  ["932", "936", "949", "950", "big5_hkscs", "big5_tw", "chinese", "cp1361", "cp936",
   "csbig5", "csiso2022kr", "csiso58gb231280", "csshiftjis", "euc_cn", "euc_jis2004",
   "euccn", "eucgb2312_cn", "eucjis2004", "eucjisx0213", "eucjp", "euckr",
   "gb18030_2000", "gb2312_1980", "gb2312_80", "hkscs", "iso2022kr", "iso_2022_kr",
   "iso_ir_58", "jisx0213", "korean", "ks_c_5601", "ks_c_5601_1987", "ks_x_1001",
   "ksc5601", "ksx1001", "ms1361", "ms932", "ms936", "ms949", "ms950", "ms_kanji",
   "mskanji", "s_jis", "s_jis_2004", "s_jisx0213", "shiftjis", "shiftjis2004",
   "shiftjisx0213", "sjis", "sjis_2004", "sjisx0213", "u16", "u32", "u7", "u_jis",
   "uhc", "ujis", "unicode_1_1_utf_7", "unicodebigunmarked", "unicodelittleunmarked",
   "utf16", "utf32", "utf7", "utf_16be", "utf_16le", "utf_32be", "utf_32le",
   "x_mac_japanese", "x_mac_korean", "x_mac_simp_chinese", "x_mac_trad_chinese"]

/-- The names of sets whose lower half is not ASCII. -/
def foreignNames : List String :=
  ["cp037", "cp1026", "cp1140", "cp273", "cp424", "cp500", "cp864", "cp875",
   "mac_arabic", "mac_farsi"]

/-- Further names of them, in which a point may stand for a dash. -/
def foreignAliases : List String :=
  ["037", "1026", "1140", "273", "424", "500", "864", "csibm037", "csibm1026",
   "csibm273", "csibm424", "csibm500", "csibm864", "ebcdic_cp_be", "ebcdic_cp_ca",
   "ebcdic_cp_ch", "ebcdic_cp_he", "ebcdic_cp_nl", "ebcdic_cp_us", "ebcdic_cp_wt",
   "ibm037", "ibm039", "ibm1026", "ibm1140", "ibm273", "ibm424", "ibm500", "ibm864"]

end VisualNovel.PropertyList.Charset
