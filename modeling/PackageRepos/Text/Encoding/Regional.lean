/-!
# Regional encodings

The plain names of encodings that take several bytes for most characters of their script, and write
the common ASCII characters as ASCII does.
-/

namespace PackageRepos
namespace Encoding

/-- The names of regional encodings, in ascending order. -/
def regionalNames : List String :=
  ["932", "936", "949", "950", "big5", "big5_hkscs", "big5_tw", "big5hkscs", "chinese", "cp1361",
    "cp932", "cp936", "cp949", "cp950", "csbig5", "csiso2022jp", "csiso2022kr", "csiso58gb231280",
    "csshiftjis", "euc_cn", "euc_jis2004", "euc_jis_2004", "euc_jisx0213", "euc_jp", "euc_kr",
    "euccn", "eucgb2312_cn", "eucjis2004", "eucjisx0213", "eucjp", "euckr", "gb18030",
    "gb18030_2000", "gb2312", "gb2312_1980", "gb2312_80", "gbk", "hkscs", "hz", "hz_gb",
    "hz_gb_2312", "hzgb", "idna", "iso2022_jp", "iso2022_jp_1", "iso2022_jp_2", "iso2022_jp_2004",
    "iso2022_jp_3", "iso2022_jp_ext", "iso2022_kr", "iso2022jp", "iso2022jp_1", "iso2022jp_2",
    "iso2022jp_2004", "iso2022jp_3", "iso2022jp_ext", "iso2022kr", "iso_2022_jp", "iso_2022_jp_1",
    "iso_2022_jp_2", "iso_2022_jp_2004", "iso_2022_jp_3", "iso_2022_jp_ext", "iso_2022_kr",
    "iso_ir_58", "jisx0213", "johab", "korean", "ks_c_5601", "ks_c_5601_1987", "ks_x_1001",
    "ksc5601", "ksx1001", "ms1361", "ms932", "ms936", "ms949", "ms950", "ms_kanji", "mskanji",
    "s_jis", "s_jis_2004", "s_jisx0213", "shift_jis", "shift_jis_2004", "shift_jisx0213",
    "shiftjis", "shiftjis2004", "shiftjisx0213", "sjis", "sjis_2004", "sjisx0213", "u7", "u_jis",
    "uhc", "ujis", "unicode_1_1_utf_7", "utf7", "utf_7", "x_mac_japanese", "x_mac_korean",
    "x_mac_simp_chinese", "x_mac_trad_chinese"]

end Encoding
end PackageRepos
