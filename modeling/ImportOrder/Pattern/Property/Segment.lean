import ImportOrder.Pattern.Property.Binary
import ImportOrder.Pattern.Property.Script

/-!
# ImportOrder.Pattern.Property.Segment

The properties that tell where a text may be cut into clusters, words and sentences. Each gives a
character one value; a pattern may ask for the characters of a value.
-/

namespace ImportOrder
namespace Pattern
namespace Segment

open Binary

def joiner : CharSet := .ofTable ["200D"]

def carriageReturn : CharSet := .ofTable ["D"]

def lineFeed : CharSet := .ofTable ["A"]

/-! ### Clusters -/

/-- What extends a cluster: extenders and tones of skin. -/
def clusterExtend : CharSet :=
  graphemeExtend.union emojiModifier

def clusterControl : CharSet :=
  let ignorable := Category.unassigned.inter defaultIgnorable
  let all := CharSet.unions [Category.union [.zl, .zp, .cc, .cf], ignorable]
  all.diff (.unions [carriageReturn, lineFeed, joiner, graphemeExtend, prependedMark])

/-- Marks with width that belong to the cluster before them. -/
def spacingMark : CharSet :=
  let wide := Category.mc.set.union (.ofTable ["E33 EB3"])
  (wide.diff clusterExtend).diff (.ofTable
    ["102B-102C 1038 1062-1064 1067-106D 1083 1087-108C 108F 109A-109C 1A61 1A63-1A64 AA7B AA7D",
     "11720-11721"])

/-- Hangul syllables without a final consonant. -/
def openSyllable : CharSet := .ofTable ["AC00-D788/1C"]

/-- The characters whose value of Grapheme_Cluster_Break has the given name. -/
def cluster? (name : String) : Option CharSet :=
  match name with
  | "cr" => some carriageReturn
  | "lf" => some lineFeed
  | "control" | "cn" => some clusterControl
  | "extend" | "ex" => some clusterExtend
  | "zwj" => some joiner
  | "regionalindicator" | "ri" => some regionalIndicator
  | "prepend" | "pp" => some (.ofTable
    ["600-605 6DD 70F 890-891 8E2 D4E 110BD 110CD 111C2-111C3 113D1 1193F 11941 11A3A",
     "11A84-11A89 11D46 11F02"])
  | "spacingmark" | "sm" => some spacingMark
  | "l" => some (.ofTable ["1100-115F A960-A97C"])
  | "v" => some (.ofTable ["1160-11A7 D7B0-D7C6 16D63 16D67-16D6A"])
  | "t" => some (.ofTable ["11A8-11FF D7CB-D7FB"])
  | "lv" => some openSyllable
  | "lvt" => some ((CharSet.ofTable ["AC00-D7A3"]).diff openSyllable)
  | _ => none

/-! ### Numbers -/

/-- Signs that stand before a number; the one of Syriac stands before letters. -/
def numberSign : CharSet :=
  prependedMark.diff (.ofTable ["70F"])

/-- Digits, a further digit of New Tai Lue, and signs before numbers. -/
def numeric : CharSet :=
  .unions [Category.nd.set, numberSign, .ofTable ["19DA"]]

/-! ### Words -/

/-- What extends a word: extenders, marks with width and tones of skin. -/
def wordExtend : CharSet :=
  (CharSet.unions [graphemeExtend, Category.mc.set, emojiModifier]).diff joiner

def hebrewLetter : CharSet :=
  let hebrew := CharSet.ofTable ((Script.find? "hebr").elim [] (·.table))
  hebrew.inter Category.lo.set

def katakana : CharSet := .ofTable
  ["3031-3035 309B-309C 30A0-30FA 30FC-30FF 31F0-31FF 32D0-32FE 3300-3357 FF66-FF9D 1AFF0-1AFF3",
   "1AFF5-1AFFB 1AFFD-1AFFE 1B000 1B120-1B122 1B155 1B164-1B167"]

/-- Scripts in which words stand together without a sign between them. -/
def unspaced : CharSet := .ofTable
  ["E01-E3A E40-E4E E81-E82 E84 E86-E8A E8C-EA3 EA5 EA7-EBD EC0-EC4 EC6 EC8-ECE EDC-EDF",
   "1000-103F 1050-108F 109A-109F 1780-17D3 17D7 17DC-17DD 1950-196D 1970-1974 1980-19AB",
   "19B0-19C9 19DA 19DE-19DF 1A20-1A5E 1A60-1A7C 1AA0-1AAD A9E0-A9EF A9FA-A9FE AA60-AAC2",
   "AADB-AADF 11700-1171A 1171D-1172B 1173A-1173B 1173F-11746"]

/-- Letters, except where each may be a word of its own. -/
def wordLetter : CharSet :=
  let hiragana := CharSet.ofTable ((Script.find? "hira").elim [] (·.table))
  let apart := CharSet.unions [ideographic, hiragana, katakana, unspaced, wordExtend, hebrewLetter]
  (alphabetic.diff apart).union (.ofTable
    ["2C2-2C5 2D2-2D7 2DE-2DF 2E5-2EB 2ED 2EF-2FF 55A-55C 55E 58A 5F3 70F A708-A716 A720-A721",
     "A789-A78A AB5B"])

/-- The characters whose value of Word_Break has the given name. -/
def word? (name : String) : Option CharSet :=
  match name with
  | "cr" => some carriageReturn
  | "lf" => some lineFeed
  | "newline" | "nl" => some (.ofTable ["B-C 85 2028-2029"])
  | "doublequote" | "dq" => some (.ofTable ["22"])
  | "singlequote" | "sq" => some (.ofTable ["27"])
  | "aletter" | "le" => some wordLetter
  | "hebrewletter" | "hl" => some hebrewLetter
  | "katakana" | "ka" => some katakana
  | "extend" => some wordExtend
  | "extendnumlet" | "ex" => some (.ofTable ["5F 202F 203F-2040 2054 FE33-FE34 FE4D-FE4F FF3F"])
  | "format" | "fo" =>
    some (Category.cf.set.diff (.unions [wordExtend, joiner, prependedMark, .ofTable ["200B"]]))
  | "midletter" | "ml" => some (.ofTable ["3A B7 387 55F 5F4 2027 FE13 FE55 FF1A"])
  | "midnum" | "mn" => some (.ofTable
    ["2C 3B 37E 589 60C-60D 66C 7F8 2044 FE50 FE54 FF0C FF1B"])
  | "midnumlet" | "mb" => some (.ofTable ["2E 2018-2019 2024 FE52 FF07 FF0E"])
  | "numeric" | "nu" => some (numeric.union (.ofTable ["66B"]))
  | "regionalindicator" | "ri" => some regionalIndicator
  | "wsegspace" => some (.ofTable ["20 1680 2000-2006 2008-200A 205F 3000"])
  | "zwj" => some joiner
  | _ => none

/-! ### Sentences -/

/-- What extends a letter within a sentence. -/
def sentenceExtend : CharSet :=
  .unions [graphemeExtend, Category.mc.set, joiner]

/-- Small letters; those of Georgian, which has no case in running text, do not count. -/
def sentenceLower : CharSet :=
  (lowercase.diff graphemeExtend).diff (.ofTable ["10D0-10FA 10FD-10FF"])

def sentenceUpper : CharSet :=
  (uppercase.union Category.lt.set).diff (.ofTable ["1C90-1CBF"])

/-- Full stops, which may also end an abbreviation. -/
def fullStop : CharSet := .ofTable ["2E 2024 FE52 FF0E"]

/-- The characters whose value of Sentence_Break has the given name. -/
def sentence? (name : String) : Option CharSet :=
  match name with
  | "cr" => some carriageReturn
  | "lf" => some lineFeed
  | "sep" | "se" => some (.ofTable ["85 2028-2029"])
  | "sp" => some (.ofTable ["9 B-C 20 A0 1680 2000-200A 202F 205F 3000"])
  | "aterm" | "at" => some fullStop
  | "sterm" | "st" => some (sentenceTerminal.diff fullStop)
  | "close" | "cl" => some ((Category.union [.ps, .pe, .pi, .pf]).union (.ofTable
    ["22 27 275B-2760 2E00-2E01 2E06-2E08 2E0B 1F676-1F678"]))
  | "scontinue" | "sc" => some (.ofTable
    ["2C-2D 3A-3B 37E 55D 60C-60D 7F8 1802 1808 2013-2014 3001 FE10-FE11 FE13-FE14 FE31-FE32",
     "FE50-FE51 FE54-FE55 FE58 FE63 FF0C-FF0D FF1A-FF1B FF64"])
  | "extend" | "ex" => some sentenceExtend
  | "format" | "fo" =>
    some (Category.cf.set.diff (.unions [graphemeExtend, joiner, numberSign]))
  | "lower" | "lo" => some sentenceLower
  | "upper" | "up" => some sentenceUpper
  | "oletter" | "le" =>
    some ((alphabetic.union (.ofTable ["5F3"])).diff
      (.unions [sentenceLower, sentenceUpper, sentenceExtend]))
  | "numeric" | "nu" => some (numeric.union (.ofTable ["66B-66C"]))
  | _ => none

end Segment

end Pattern
end ImportOrder
