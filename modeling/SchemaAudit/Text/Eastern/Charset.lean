import SchemaAudit.Text.Eastern.Designated

/-!
The encodings of Eastern Asia, with their names and other names.
-/

namespace SchemaAudit.Text.Eastern

/-- The encodings of Eastern Asia. -/
inductive Charset where
  | gb2312
  | gbk
  | gb18030
  | hz
  | bigFive
  | codePage950
  | hongKong
  | eucKr
  | codePage949
  | johab
  | eucJp
  | eucJisX0213 (edition : Edition)
  | shiftJis
  | shiftJisX0213 (edition : Edition)
  | codePage932
  | designated (d : Designations)
  deriving DecidableEq, Repr

/-- The designations of an encoding for Japanese. -/
def japanese (sets : List Repertoire) : Charset := .designated ⟨sets, false, false, true⟩

/-- The text of some bytes, U+FFFD standing for what is not in the encoding. -/
def Charset.decode (bytes : List UInt8) : Charset → Except DecodeFault (List Char)
  | gb2312 => lossyPlain (readPairs fun n => .ofChar? 2 (gb2312? n)) bytes
  | gbk => lossyPlain (readPairs fun n => .ofChar? 2 (gbk? n)) bytes
  | gb18030 => lossyPlain readGb18030 bytes
  | hz => lossy readHz false bytes
  | bigFive => lossyPlain (readPairs fun n => .ofChar? 2 (bigFive? n)) bytes
  | codePage950 => lossyPlain (readPairs fun n => .ofChar? 2 (codePage950? n)) bytes
  | hongKong => lossyPlain (readPairs fun n => .ofChars? 2 (hongKong? n)) bytes
  | eucKr => lossyPlain readEucKr bytes
  | codePage949 => lossyPlain (readPairs fun n => .ofChar? 2 (codePage949? n)) bytes
  | johab => lossyPlain (readPairs fun n => .ofChar? 2 (johab? n)) bytes
  | eucJp =>
    lossyPlain (readEucJp (fun n => .ofChar? 2 (cell? jisCells n)) (cell? jisSupplementCells)) bytes
  | eucJisX0213 edition =>
    let second? (n : Nat) : Option Char := secondPlane? edition n <|> cell? jisSupplementCells n
    lossyPlain (readEucJp (readFirstPlane edition) second?) bytes
  | shiftJis => lossyPlain readShiftJis bytes
  | shiftJisX0213 edition => lossyPlain (readShiftJisX0213 edition) bytes
  | codePage932 => lossyPlain readCodePage932 bytes
  | designated d => lossy (readDesignated d) .start bytes

/-- The encodings with their names and other names. -/
def charsets : List (Charset × String × List String) := [
  (.gb2312, "gb2312", ["chinese", "csiso58gb231280", "euc_cn", "euccn", "eucgb2312_cn", "gb2312_1980",
    "gb2312_80", "iso_ir_58", "x_mac_simp_chinese"]),
  (.gbk, "gbk", ["936", "cp936", "ms936"]),
  (.gb18030, "gb18030", ["gb18030_2000"]),
  (.hz, "hz", ["hzgb", "hz_gb", "hz_gb_2312"]),
  (.bigFive, "big5", ["big5_tw", "csbig5", "x_mac_trad_chinese"]),
  (.codePage950, "cp950", ["950", "ms950"]),
  (.hongKong, "big5hkscs", ["big5_hkscs", "hkscs"]),
  (.eucKr, "euc_kr", ["euckr", "korean", "ksc5601", "ks_c_5601", "ks_c_5601_1987", "ksx1001", "ks_x_1001",
    "x_mac_korean"]),
  (.codePage949, "cp949", ["949", "ms949", "uhc"]),
  (.johab, "johab", ["cp1361", "ms1361"]),
  (.eucJp, "euc_jp", ["eucjp", "ujis", "u_jis"]),
  (.eucJisX0213 .of2004, "euc_jis_2004", ["jisx0213", "eucjis2004", "euc_jis2004"]),
  (.eucJisX0213 .of2000, "euc_jisx0213", ["eucjisx0213"]),
  (.shiftJis, "shift_jis", ["csshiftjis", "shiftjis", "sjis", "s_jis", "x_mac_japanese"]),
  (.shiftJisX0213 .of2004, "shift_jis_2004", ["shiftjis2004", "sjis_2004", "s_jis_2004"]),
  (.shiftJisX0213 .of2000, "shift_jisx0213", ["shiftjisx0213", "sjisx0213", "s_jisx0213"]),
  (.codePage932, "cp932", ["932", "ms932", "mskanji", "ms_kanji"]),
  (japanese [.jis, .jisLetters, .oldJis], "iso2022_jp", ["csiso2022jp", "iso2022jp", "iso_2022_jp"]),
  (japanese [.jis, .jisSupplement, .jisLetters, .oldJis], "iso2022_jp_1",
    ["iso2022jp_1", "iso_2022_jp_1"]),
  (.designated ⟨[.jis, .jisSupplement, .ks, .gb, .jisLetters, .oldJis, .latin, .greek], false, true, true⟩,
    "iso2022_jp_2", ["iso2022jp_2", "iso_2022_jp_2"]),
  (japanese [.jis, .firstPlane .of2004, .secondPlane .of2004], "iso2022_jp_2004",
    ["iso_2022_jp_2004", "iso2022jp_2004"]),
  (japanese [.jis, .firstPlane .of2000, .secondPlane .of2004], "iso2022_jp_3",
    ["iso2022jp_3", "iso_2022_jp_3"]),
  (japanese [.jis, .jisSupplement, .jisLetters, .narrowKatakana, .oldJis], "iso2022_jp_ext",
    ["iso2022jp_ext", "iso_2022_jp_ext"]),
  (.designated ⟨[.ks], true, false, false⟩, "iso2022_kr", ["csiso2022kr", "iso2022kr", "iso_2022_kr"])]

end SchemaAudit.Text.Eastern
