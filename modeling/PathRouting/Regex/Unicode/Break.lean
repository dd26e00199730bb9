import PathRouting.Regex.Unicode.Property
import PathRouting.Regex.Unicode.Script

/-! # Boundaries in text

What each character is to the boundaries between user-perceived characters, words and sentences.
-/

namespace PathRouting

namespace Regex

namespace Unicode

/-- Korean syllables without a final consonant. -/
def openSyllables : CharSet :=
  ⟨(List.range 399).map fun i => (0xac00 + 28 * i, 0xac00 + 28 * i)⟩

def joined : CharSet := graphemeExtend.union (category ["Mc"])

def graphemeBreak? (kind : Text) : Option CharSet :=
  match String.ofList kind with
  | "cn" | "control" =>
    let ignored := (category ["Cn"]).inter defaultIgnorable
    some ((((category ["Zl", "Zp", "Cc", "Cf"]).union ignored).diff
      (listed ("a d 200c-200d" :: prependedMark))).diff graphemeExtend)
  | "cr" => some (.one '\r')
  | "ex" | "extend" => some (graphemeExtend.union (listed emojiModifier))
  | "l" => some (listed ["1100-115f a960-a97c"])
  | "lf" => some (.one '\n')
  | "lv" => some openSyllables
  | "lvt" => some (CharSet.diff ⟨[(0xac00, 0xd7a3)]⟩ openSyllables)
  | "pp" | "prepend" =>
    some (listed ("d4e 111c2-111c3 113d1 1193f 11941 11a3a 11a84-11a89 11d46 11f02" ::
      prependedMark))
  | "ri" | "regionalindicator" => some (listed regionalIndicator)
  | "sm" | "spacingmark" =>
    some ((((category ["Mc"]).diff graphemeExtend).diff (listed
      ["102b-102c 1038 1062-1064 1067-106d 1083 1087-108c 108f 109a-109c 1a61 1a63-1a64 aa7b aa7d",
       "11720-11721"])).union (listed ["e33 eb3"]))
  | "t" => some (listed ["11a8-11ff d7cb-d7fb"])
  | "v" => some (listed ["1160-11a7 d7b0-d7c6 16d63 16d67-16d6a"])
  | "zwj" => some (listed ["200d"])
  | _ => none

def sentenceExtend : CharSet := joined.union (listed ["200d"])

def sentenceLower : CharSet :=
  (lowercase.diff graphemeExtend).diff (listed ["10d0-10fa 10fd-10ff"])

def sentenceUpper : CharSet :=
  (uppercase.diff (listed ["1c90-1cba 1cbd-1cbf"])).union (category ["Lt"])

def sentenceBreak? (kind : Text) : Option CharSet :=
  let stop := ["2e 2024 fe52 ff0e"]
  match String.ofList kind with
  | "at" | "aterm" => some (listed stop)
  | "cl" | "close" =>
    some (either ["Ps", "Pe", "Pi", "Pf"] ["22 27 275b-2760 2e00-2e01 2e06-2e08 2e0b 1f676-1f678"])
  | "cr" => some (.one '\r')
  | "ex" | "extend" => some sentenceExtend
  | "fo" | "format" => some (((category ["Cf"]).diff graphemeExtend).diff (listed ["200d"]))
  | "le" | "oletter" =>
    some ((((alphabetic.union (listed ["5f3"])).diff sentenceLower).diff sentenceUpper).diff
      sentenceExtend)
  | "lf" => some (.one '\n')
  | "lo" | "lower" => some sentenceLower
  | "nu" | "numeric" => some (either ["Nd"] ["66b-66c"])
  | "sc" | "scontinue" =>
    some (listed
      ["2c-2d 3a-3b 37e 55d 60c-60d 7f8 1802 1808 2013-2014 3001 fe10-fe11 fe13-fe14 fe31-fe32",
       "fe50-fe51 fe54-fe55 fe58 fe63 ff0c-ff0d ff1a-ff1b ff64"])
  | "se" | "sep" => some (listed ["85 2028-2029"])
  | "sp" => some ((listed whiteSpace).diff (listed ["a d 85 2028-2029"]))
  | "st" | "sterm" => some ((listed sentenceTerminal).diff (listed stop))
  | "up" | "upper" => some sentenceUpper
  | _ => none

/-- Letters of scripts that are written without spaces, so that letters next to each other need not
be of one word. -/
def spaceless : List String :=
  ["e01-e30 e32-e33 e40-e46 e81-e82 e84 e86-e8a e8c-ea3 ea5 ea7-eb0 eb2-eb3 ebd ec0-ec4 ec6",
   "edc-edf 1000-102a 103f 1050-1055 105a-105d 1061 1065-1066 106e-1070 1075-1081 108e 1780-17b3",
   "17d7 17dc 1950-196d 1970-1974 1980-19ab 19b0-19c9 1a20-1a54 1aa7 a9e0-a9e4 a9e6-a9ef",
   "a9fa-a9fe aa60-aa76 aa7a aa7e-aaaf aab1 aab5-aab6 aab9-aabd aac0 aac2 aadb-aadd 11700-1171a",
   "11740-11746"]

def wordExtend : CharSet := joined.union (listed emojiModifier)

def wordKatakana : CharSet :=
  (having scriptTable ["Kana".toList]).union (listed ["3031-3035 309b-309c 30a0 30fc ff70"])

def hebrewLetter : CharSet := (having scriptTable ["Hebr".toList]).inter (category ["Lo"])

def wordBreak? (kind : Text) : Option CharSet :=
  match String.ofList kind with
  | "cr" => some (.one '\r')
  | "dq" | "doublequote" => some (listed ["22"])
  | "ex" | "extendnumlet" => some (listed ["5f 202f 203f-2040 2054 fe33-fe34 fe4d-fe4f ff3f"])
  | "extend" => some wordExtend
  | "fo" | "format" => some (((category ["Cf"]).diff graphemeExtend).diff (listed ["200b-200d"]))
  | "hl" | "hebrewletter" => some hebrewLetter
  | "ka" | "katakana" => some wordKatakana
  | "le" | "aletter" =>
    let letters := alphabetic.union (listed
      ["2c2-2c5 2d2-2d7 2de-2df 2e5-2eb 2ed 2ef-2ff 55a-55c 55e 58a 5f3 a708-a716 a720-a721",
       "a789-a78a ab5b"])
    let others := (wordKatakana.union (having scriptTable ["Hira".toList])).union hebrewLetter
    some (((letters.diff (listed (ideographic ++ spaceless))).diff others).diff wordExtend)
  | "lf" => some (.one '\n')
  | "mb" | "midnumlet" => some (listed ["2e 2018-2019 2024 fe52 ff07 ff0e"])
  | "ml" | "midletter" => some (listed ["3a b7 387 55f 5f4 2027 fe13 fe55 ff1a"])
  | "mn" | "midnum" =>
    some (listed ["2c 3b 37e 589 60c-60d 66c 7f8 2044 fe10 fe14 fe50 fe54 ff0c ff1b"])
  | "nl" | "newline" => some (listed ["b-c 85 2028-2029"])
  | "nu" | "numeric" => some (either ["Nd"] ["66b"])
  | "ri" | "regionalindicator" => some (listed regionalIndicator)
  | "sq" | "singlequote" => some (listed ["27"])
  | "wsegspace" => some ((category ["Zs"]).diff (listed ["a0 2007 202f"]))
  | "zwj" => some (listed ["200d"])
  | _ => none

end Unicode

end Regex

end PathRouting
