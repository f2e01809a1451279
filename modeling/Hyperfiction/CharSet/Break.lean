import Hyperfiction.CharSet.Property

/-!
# Where texts break

The classes that Unicode 16 gives characters to tell where a character that one sees ends, and where words
and sentences end.
-/

namespace Hyperfiction.CharSet

/-! ### Characters that one sees -/

/-- The syllables of Korean that end with their vowel. -/
def openSyllables : CharSet := ofCodes ((List.range 399).map fun n => 0xAC00 + 28 * n)

/-- The other syllables of Korean. -/
def closedSyllables : CharSet := (ofTable "AC00..D7A3").diff openSyllables

/-- Characters that go with what is behind them. -/
def graphemePrepended : CharSet := ofTable "
  600..605 6DD 70F 890..891 8E2 D4E 110BD 110CD 111C2..111C3 113D1 1193F 11941 11A3A 11A84..11A89
  11D46 11F02"

/-- Marks that take room and stay apart from what is before them. -/
def spacingMarksApart : CharSet := ofTable "
  102B..102C 1038 1062..1064 1067..106D 1083 1087..108C 108F 109A..109C 1A61 1A63..1A64 AA7B AA7D
  11720..11721"

/-- The classes for characters that one sees, by their names in lower case. -/
def graphemeBreaks : List (List String × CharSet) := [
  (["cr"], ofTable "D"), (["lf"], ofTable "A"), (["zwj"], ofTable "200D"),
  (["control", "cn"],
    (unions [controls, formats, lineSeparators, paragraphSeparators,
      unassigned.inter defaultIgnorable]).diff
      (unions [ofTable "A D 200C..200D", prependedMarks, graphemeExtend])),
  (["extend", "ex"], graphemeExtend.union emojiModifiers),
  (["l"], ofTable "1100..115F A960..A97C"), (["lv"], openSyllables), (["lvt"], closedSyllables),
  (["t"], ofTable "11A8..11FF D7CB..D7FB"),
  (["v"], ofTable "1160..11A7 D7B0..D7C6 16D63 16D67..16D6A"),
  (["prepend", "pp"], graphemePrepended), (["regionalindicator", "ri"], regionalIndicators),
  (["spacingmark", "sm"],
    (spacingMarks.diff (graphemeExtend.union spacingMarksApart)).union (ofTable "E33 EB3"))]

/-! ### Words -/

/-- Letters of words. -/
def wordLetters : CharSet := ofTable "
  41..5A 61..7A AA B5 BA C0..D6 D8..F6 F8..2D7 2DE..2FF 370..374 376..377 37A..37D 37F 386 388..38A
  38C 38E..3A1 3A3..3F5 3F7..481 48A..52F 531..556 559..55C 55E 560..588 58A 5F3 620..64A 66E..66F
  671..6D3 6D5 6E5..6E6 6EE..6EF 6FA..6FC 6FF 70F..710 712..72F 74D..7A5 7B1 7CA..7EA 7F4..7F5 7FA
  800..815 81A 824 828 840..858 860..86A 870..887 889..88E 8A0..8C9 904..939 93D 950 958..961
  971..980 985..98C 98F..990 993..9A8 9AA..9B0 9B2 9B6..9B9 9BD 9CE 9DC..9DD 9DF..9E1 9F0..9F1 9FC
  A05..A0A A0F..A10 A13..A28 A2A..A30 A32..A33 A35..A36 A38..A39 A59..A5C A5E A72..A74 A85..A8D
  A8F..A91 A93..AA8 AAA..AB0 AB2..AB3 AB5..AB9 ABD AD0 AE0..AE1 AF9 B05..B0C B0F..B10 B13..B28
  B2A..B30 B32..B33 B35..B39 B3D B5C..B5D B5F..B61 B71 B83 B85..B8A B8E..B90 B92..B95 B99..B9A B9C
  B9E..B9F BA3..BA4 BA8..BAA BAE..BB9 BD0 C05..C0C C0E..C10 C12..C28 C2A..C39 C3D C58..C5A C5D
  C60..C61 C80 C85..C8C C8E..C90 C92..CA8 CAA..CB3 CB5..CB9 CBD CDD..CDE CE0..CE1 CF1..CF2 D04..D0C
  D0E..D10 D12..D3A D3D D4E D54..D56 D5F..D61 D7A..D7F D85..D96 D9A..DB1 DB3..DBB DBD DC0..DC6 F00
  F40..F47 F49..F6C F88..F8C 10A0..10C5 10C7 10CD 10D0..10FA 10FC..1248 124A..124D 1250..1256 1258
  125A..125D 1260..1288 128A..128D 1290..12B0 12B2..12B5 12B8..12BE 12C0 12C2..12C5 12C8..12D6
  12D8..1310 1312..1315 1318..135A 1380..138F 13A0..13F5 13F8..13FD 1401..166C 166F..167F
  1681..169A 16A0..16EA 16EE..16F8 1700..1711 171F..1731 1740..1751 1760..176C 176E..1770
  1820..1878 1880..1884 1887..18A8 18AA 18B0..18F5 1900..191E 1A00..1A16 1B05..1B33 1B45..1B4C
  1B83..1BA0 1BAE..1BAF 1BBA..1BE5 1C00..1C23 1C4D..1C4F 1C5A..1C7D 1C80..1C8A 1C90..1CBA
  1CBD..1CBF 1CE9..1CEC 1CEE..1CF3 1CF5..1CF6 1CFA 1D00..1DBF 1E00..1F15 1F18..1F1D 1F20..1F45
  1F48..1F4D 1F50..1F57 1F59 1F5B 1F5D 1F5F..1F7D 1F80..1FB4 1FB6..1FBC 1FBE 1FC2..1FC4 1FC6..1FCC
  1FD0..1FD3 1FD6..1FDB 1FE0..1FEC 1FF2..1FF4 1FF6..1FFC 2071 207F 2090..209C 2102 2107 210A..2113
  2115 2119..211D 2124 2126 2128 212A..212D 212F..2139 213C..213F 2145..2149 214E 2160..2188
  24B6..24E9 2C00..2CE4 2CEB..2CEE 2CF2..2CF3 2D00..2D25 2D27 2D2D 2D30..2D67 2D6F 2D80..2D96
  2DA0..2DA6 2DA8..2DAE 2DB0..2DB6 2DB8..2DBE 2DC0..2DC6 2DC8..2DCE 2DD0..2DD6 2DD8..2DDE 2E2F 3005
  303B..303C 3105..312F 3131..318E 31A0..31BF A000..A48C A4D0..A4FD A500..A60C A610..A61F
  A62A..A62B A640..A66E A67F..A69D A6A0..A6EF A708..A7CD A7D0..A7D1 A7D3 A7D5..A7DC A7F2..A801
  A803..A805 A807..A80A A80C..A822 A840..A873 A882..A8B3 A8F2..A8F7 A8FB A8FD..A8FE A90A..A925
  A930..A946 A960..A97C A984..A9B2 A9CF AA00..AA28 AA40..AA42 AA44..AA4B AAE0..AAEA AAF2..AAF4
  AB01..AB06 AB09..AB0E AB11..AB16 AB20..AB26 AB28..AB2E AB30..AB69 AB70..ABE2 AC00..D7A3
  D7B0..D7C6 D7CB..D7FB FB00..FB06 FB13..FB17 FB50..FBB1 FBD3..FD3D FD50..FD8F FD92..FDC7
  FDF0..FDFB FE70..FE74 FE76..FEFC FF21..FF3A FF41..FF5A FFA0..FFBE FFC2..FFC7 FFCA..FFCF
  FFD2..FFD7 FFDA..FFDC 10000..1000B 1000D..10026 10028..1003A 1003C..1003D 1003F..1004D
  10050..1005D 10080..100FA 10140..10174 10280..1029C 102A0..102D0 10300..1031F 1032D..1034A
  10350..10375 10380..1039D 103A0..103C3 103C8..103CF 103D1..103D5 10400..1049D 104B0..104D3
  104D8..104FB 10500..10527 10530..10563 10570..1057A 1057C..1058A 1058C..10592 10594..10595
  10597..105A1 105A3..105B1 105B3..105B9 105BB..105BC 105C0..105F3 10600..10736 10740..10755
  10760..10767 10780..10785 10787..107B0 107B2..107BA 10800..10805 10808 1080A..10835 10837..10838
  1083C 1083F..10855 10860..10876 10880..1089E 108E0..108F2 108F4..108F5 10900..10915 10920..10939
  10980..109B7 109BE..109BF 10A00 10A10..10A13 10A15..10A17 10A19..10A35 10A60..10A7C 10A80..10A9C
  10AC0..10AC7 10AC9..10AE4 10B00..10B35 10B40..10B55 10B60..10B72 10B80..10B91 10C00..10C48
  10C80..10CB2 10CC0..10CF2 10D00..10D23 10D4A..10D65 10D6F..10D85 10E80..10EA9 10EB0..10EB1
  10EC2..10EC4 10F00..10F1C 10F27 10F30..10F45 10F70..10F81 10FB0..10FC4 10FE0..10FF6 11003..11037
  11071..11072 11075 11083..110AF 110D0..110E8 11103..11126 11144 11147 11150..11172 11176
  11183..111B2 111C1..111C4 111DA 111DC 11200..11211 11213..1122B 1123F..11240 11280..11286 11288
  1128A..1128D 1128F..1129D 1129F..112A8 112B0..112DE 11305..1130C 1130F..11310 11313..11328
  1132A..11330 11332..11333 11335..11339 1133D 11350 1135D..11361 11380..11389 1138B 1138E
  11390..113B5 113B7 113D1 113D3 11400..11434 11447..1144A 1145F..11461 11480..114AF 114C4..114C5
  114C7 11580..115AE 115D8..115DB 11600..1162F 11644 11680..116AA 116B8 11800..1182B 118A0..118DF
  118FF..11906 11909 1190C..11913 11915..11916 11918..1192F 1193F 11941 119A0..119A7 119AA..119D0
  119E1 119E3 11A00 11A0B..11A32 11A3A 11A50 11A5C..11A89 11A9D 11AB0..11AF8 11BC0..11BE0
  11C00..11C08 11C0A..11C2E 11C40 11C72..11C8F 11D00..11D06 11D08..11D09 11D0B..11D30 11D46
  11D60..11D65 11D67..11D68 11D6A..11D89 11D98 11EE0..11EF2 11F02 11F04..11F10 11F12..11F33 11FB0
  12000..12399 12400..1246E 12480..12543 12F90..12FF0 13000..1342F 13441..13446 13460..143FA
  14400..14646 16100..1611D 16800..16A38 16A40..16A5E 16A70..16ABE 16AD0..16AED 16B00..16B2F
  16B40..16B43 16B63..16B77 16B7D..16B8F 16D40..16D6C 16E40..16E7F 16F00..16F4A 16F50 16F93..16F9F
  16FE0..16FE1 16FE3 1BC00..1BC6A 1BC70..1BC7C 1BC80..1BC88 1BC90..1BC99 1D400..1D454 1D456..1D49C
  1D49E..1D49F 1D4A2 1D4A5..1D4A6 1D4A9..1D4AC 1D4AE..1D4B9 1D4BB 1D4BD..1D4C3 1D4C5..1D505
  1D507..1D50A 1D50D..1D514 1D516..1D51C 1D51E..1D539 1D53B..1D53E 1D540..1D544 1D546 1D54A..1D550
  1D552..1D6A5 1D6A8..1D6C0 1D6C2..1D6DA 1D6DC..1D6FA 1D6FC..1D714 1D716..1D734 1D736..1D74E
  1D750..1D76E 1D770..1D788 1D78A..1D7A8 1D7AA..1D7C2 1D7C4..1D7CB 1DF00..1DF1E 1DF25..1DF2A
  1E030..1E06D 1E100..1E12C 1E137..1E13D 1E14E 1E290..1E2AD 1E2C0..1E2EB 1E4D0..1E4EB 1E5D0..1E5ED
  1E5F0 1E7E0..1E7E6 1E7E8..1E7EB 1E7ED..1E7EE 1E7F0..1E7FE 1E800..1E8C4 1E900..1E943 1E94B
  1EE00..1EE03 1EE05..1EE1F 1EE21..1EE22 1EE24 1EE27 1EE29..1EE32 1EE34..1EE37 1EE39 1EE3B 1EE42
  1EE47 1EE49 1EE4B 1EE4D..1EE4F 1EE51..1EE52 1EE54 1EE57 1EE59 1EE5B 1EE5D 1EE5F 1EE61..1EE62
  1EE64 1EE67..1EE6A 1EE6C..1EE72 1EE74..1EE77 1EE79..1EE7C 1EE7E 1EE80..1EE89 1EE8B..1EE9B
  1EEA1..1EEA3 1EEA5..1EEA9 1EEAB..1EEBB 1F130..1F149 1F150..1F169 1F170..1F189"

/-- Letters of Hebrew. -/
def hebrewLetters : CharSet := ofTable
  "5D0..5EA 5EF..5F2 FB1D FB1F..FB28 FB2A..FB36 FB38..FB3C FB3E FB40..FB41 FB43..FB44 FB46..FB4F"

/-- Letters of Katakana and what goes with them. -/
def katakana : CharSet := ofTable "
  3031..3035 309B..309C 30A0..30FA 30FC..30FF 31F0..31FF 32D0..32FE 3300..3357 FF66..FF9D
  1AFF0..1AFF3 1AFF5..1AFFB 1AFFD..1AFFE 1B000 1B120..1B122 1B155 1B164..1B167"

/-- Digits and what stands in numbers. -/
def wordNumeric : CharSet := ofTable "
  30..39 600..605 660..669 66B 6DD 6F0..6F9 7C0..7C9 890..891 8E2 966..96F 9E6..9EF A66..A6F
  AE6..AEF B66..B6F BE6..BEF C66..C6F CE6..CEF D66..D6F DE6..DEF E50..E59 ED0..ED9 F20..F29
  1040..1049 1090..1099 17E0..17E9 1810..1819 1946..194F 19D0..19D9 1A80..1A89 1A90..1A99
  1B50..1B59 1BB0..1BB9 1C40..1C49 1C50..1C59 A620..A629 A8D0..A8D9 A900..A909 A9D0..A9D9
  A9F0..A9F9 AA50..AA59 ABF0..ABF9 FF10..FF19 104A0..104A9 10D30..10D39 10D40..10D49 11066..1106F
  110BD 110CD 110F0..110F9 11136..1113F 111D0..111D9 112F0..112F9 11450..11459 114D0..114D9
  11650..11659 116C0..116C9 116D0..116E3 11730..11739 118E0..118E9 11950..11959 11BF0..11BF9
  11C50..11C59 11D50..11D59 11DA0..11DA9 11F50..11F59 16130..16139 16A60..16A69 16AC0..16AC9
  16B50..16B59 16D70..16D79 1CCF0..1CCF9 1D7CE..1D7FF 1E140..1E149 1E2F0..1E2F9 1E4F0..1E4F9
  1E5F1..1E5FA 1E950..1E959 1FBF0..1FBF9"

/-- Characters that words pass over. -/
def wordFormats : CharSet := ofTable "
  AD 61C 180E 200E..200F 202A..202E 2060..2064 2066..206F FEFF FFF9..FFFB 13430..1343F 1BCA0..1BCA3
  1D173..1D17A E0001"

/-- The classes for words, by their names in lower case. -/
def wordBreaks : List (List String × CharSet) := [
  (["aletter", "le"], wordLetters), (["cr"], ofTable "D"), (["doublequote", "dq"], ofTable "22"),
  (["extend"], (unions [graphemeExtend, spacingMarks, emojiModifiers]).diff (ofTable "200D")),
  (["extendnumlet", "ex"], ofTable "5F 202F 203F..2040 2054 FE33..FE34 FE4D..FE4F FF3F"),
  (["format", "fo"], wordFormats), (["hebrewletter", "hl"], hebrewLetters),
  (["katakana", "ka"], katakana), (["lf"], ofTable "A"),
  (["midletter", "ml"], ofTable "3A B7 387 55F 5F4 2027 FE13 FE55 FF1A"),
  (["midnum", "mn"], ofTable "2C 3B 37E 589 60C..60D 66C 7F8 2044 FE10 FE14 FE50 FE54 FF0C FF1B"),
  (["midnumlet", "mb"], ofTable "2E 2018..2019 2024 FE52 FF07 FF0E"),
  (["newline", "nl"], ofTable "B..C 85 2028..2029"), (["numeric", "nu"], wordNumeric),
  (["regionalindicator", "ri"], regionalIndicators), (["singlequote", "sq"], ofTable "27"),
  (["wsegspace"], ofTable "20 1680 2000..2006 2008..200A 205F 3000"), (["zwj"], ofTable "200D")]

/-! ### Sentences -/

/-- Small letters of sentences. -/
def sentenceLower : CharSet :=
  lowercase.diff (graphemeExtend.union (ofTable "10D0..10FA 10FD..10FF"))

/-- Capital letters of sentences. -/
def sentenceUpper : CharSet :=
  (uppercase.union titleLetters).diff (ofTable "1C90..1CBA 1CBD..1CBF")

/-- What goes with the character before it in a sentence. -/
def sentenceExtend : CharSet := unions [graphemeExtend, spacingMarks, ofTable "200D"]

/-- Brackets and quotes. -/
def sentenceClose : CharSet := ofTable "
  22 27..29 5B 5D 7B 7D AB BB F3A..F3D 169B..169C 2018..201F 2039..203A 2045..2046 207D..207E
  208D..208E 2308..230B 2329..232A 275B..2760 2768..2775 27C5..27C6 27E6..27EF 2983..2998
  29D8..29DB 29FC..29FD 2E00..2E0D 2E1C..2E1D 2E20..2E29 2E42 2E55..2E5C 3008..3011 3014..301B
  301D..301F FD3E..FD3F FE17..FE18 FE35..FE44 FE47..FE48 FE59..FE5E FF08..FF09 FF3B FF3D FF5B FF5D
  FF5F..FF60 FF62..FF63 1F676..1F678"

/-- The classes for sentences, by their names in lower case. -/
def sentenceBreaks : List (List String × CharSet) := [
  (["aterm", "at"], ofTable "2E 2024 FE52 FF0E"), (["cr"], ofTable "D"),
  (["close", "cl"], sentenceClose), (["extend", "ex"], sentenceExtend),
  (["format", "fo"], wordFormats.union (ofTable "200B")), (["lf"], ofTable "A"),
  (["lower", "lo"], sentenceLower), (["numeric", "nu"], wordNumeric.union (ofTable "66C")),
  (["oletter", "le"],
    (alphabetic.union (ofTable "5F3 70F")).diff
      (unions [sentenceLower, sentenceUpper, sentenceExtend])),
  (["scontinue", "sc"], ofTable "
    2C..2D 3A..3B 37E 55D 60C..60D 7F8 1802 1808 2013..2014 3001 FE10..FE11 FE13..FE14 FE31..FE32
    FE50..FE51 FE54..FE55 FE58 FE63 FF0C..FF0D FF1A..FF1B FF64"),
  (["sep", "se"], ofTable "85 2028..2029"),
  (["sp"], blank.diff (ofTable "A D 85 2028..2029")),
  (["sterm", "st"], sentenceTerminals.diff (ofTable "2E 2024 FE52 FF0E")),
  (["upper", "up"], sentenceUpper)]

end Hyperfiction.CharSet
