import XslLowering.Pattern.Property
import XslLowering.Pattern.Script

/-!
# Segments of a text

A text is divided into characters as readers see them, into words and into sentences by what every
character does to a segment around it. Here are the sets of characters of each kind; characters that
are of no kind have no name.
-/

namespace XslLowering.Pattern

open Text

/-- Named sets of characters: the names are in lower case without separators. -/
abbrev NamedSets := List (List String × CharSet)

/-! ## Characters as readers see them -/

def hangulSyllables : CharSet := .ofText "ac00-d7a3"

/-- Syllables without a final consonant. -/
def openSyllables : CharSet := .ofText "ac00-d788/1c"

/-- Marks that are not joined to the character before them, although they follow it. -/
def separateMarks : CharSet := .ofText "
    102b-102c 1038 1062-1064 1067-106d 1083 1087-108c 108f 109a-109c 1a61 1a63-1a64 aa7b aa7d
    11720-11721"

/-- Characters that are joined to the one after them. -/
def prependedChars : CharSet := .ofText "
    600-605 6dd 70f 890-891 8e2 d4e 110bd 110cd 111c2-111c3 113d1 1193f 11941 11a3a 11a84-11a89
    11d46 11f02"

def clusterControls : CharSet :=
  CharSet.difference
    ((ofCategories ["Zl", "Zp", "Cc", "Cf"]).union (defaultIgnorable.intersection (ofCategories ["Cn"])))
    (.unions [.ofText "a d 200d", graphemeExtenders, prependedMarks])

def clusterKinds : NamedSets :=
  [(["control", "cn"], clusterControls), (["cr"], .ofText "d"), (["lf"], .ofText "a"),
    (["extend", "ex"], graphemeExtenders.union emojiModifiers), (["l"], .ofText "1100-115f a960-a97c"),
    (["lv"], openSyllables), (["lvt"], hangulSyllables.difference openSyllables),
    (["prepend", "pp"], prependedChars), (["regionalindicator", "ri"], regionalIndicators),
    (["spacingmark", "sm"],
      ((ofCategories ["Mc"]).union (.ofText "e33 eb3")).difference
        (graphemeExtenders.union separateMarks)),
    (["t"], .ofText "11a8-11ff d7cb-d7fb"), (["v"], .ofText "1160-11a7 d7b0-d7c6 16d63 16d67-16d6a"),
    (["zwj"], .ofText "200d")]

/-! ## Words -/

/-- Marks and joiners that belong to the character before them. -/
def wordExtenders : CharSet := .unions [graphemeExtenders, ofCategories ["Mc"], emojiModifiers]

def katakana : CharSet := (scriptChars "Kana").union (.ofText "3031-3035 309b-309c 30a0 30fc ff70")

def hebrewLetters : CharSet := (scriptChars "Hebr").intersection (ofCategories ["Lo"])

/-- Letters of scripts that need a dictionary to find words. -/
def dictionaryLetters : CharSet := .ofText "
    e01-e30 e32-e33 e40-e46 e81-e82 e84 e86-e8a e8c-ea3 ea5 ea7-eb0 eb2-eb3 ebd ec0-ec4 ec6
    edc-edf 1000-102a 103f 1050-1055 105a-105d 1061 1065-1066 106e-1070 1075-1081 108e 1780-17b3
    17d7 17dc 1950-196d 1970-1974 1980-19ab 19b0-19c9 1a20-1a54 1aa7 a9e0-a9e4 a9e6-a9ef a9fa-a9fe
    aa60-aa76 aa7a aa7e-aaaf aab1 aab5-aab6 aab9-aabd aac0 aac2 aadb-aadd 11700-1171a 11740-11746"

/-- Signs that are not alphabetic but stand in words like letters. -/
def letterSigns : CharSet := .ofText "
    2c2-2c5 2d2-2d7 2de-2df 2e5-2eb 2ed 2ef-2ff 55a-55c 55e 58a 5f3 70f a708-a716 a720-a721
    a789-a78a ab5b"

def wordLetters : CharSet :=
  CharSet.difference (alphabetic.union letterSigns)
    (.unions [ideographs, katakana, scriptChars "Hira", dictionaryLetters, wordExtenders,
      hebrewLetters])

/-- Digits, and signs that go with them. -/
def numberChars : CharSet := decimalDigits.union (.ofText "600-605 66b 6dd 890-891 8e2 19da 110bd 110cd")

def wordKinds : NamedSets :=
  [(["aletter", "le"], wordLetters), (["cr"], .ofText "d"), (["doublequote", "dq"], .ofText "22"),
    (["extend"], wordExtenders),
    (["extendnumlet", "ex"], (ofCategories ["Pc"]).union (.ofText "202f")),
    (["format", "fo"],
      (ofCategories ["Cf"]).difference
        (.unions [.ofText "200b 200d", graphemeExtenders, prependedChars])),
    (["hebrewletter", "hl"], hebrewLetters), (["katakana", "ka"], katakana), (["lf"], .ofText "a"),
    (["midletter", "ml"], .ofText "3a b7 387 55f 5f4 2027 fe13 fe55 ff1a"),
    (["midnum", "mn"], .ofText "
      2c 3b 37e 589 60c-60d 66c 7f8 2044 fe10 fe14 fe50 fe54 ff0c ff1b"),
    (["midnumlet", "mb"], .ofText "2e 2018-2019 2024 fe52 ff07 ff0e"),
    (["newline", "nl"], .ofText "b-c 85 2028-2029"), (["numeric", "nu"], numberChars),
    (["regionalindicator", "ri"], regionalIndicators), (["singlequote", "sq"], .ofText "27"),
    (["wsegspace"], (ofCategories ["Zs"]).difference (.ofText "a0 2007 202f")),
    (["zwj"], .ofText "200d")]

/-! ## Sentences -/

/-- Full stops that may stand in an abbreviation too. -/
def ambiguousStops : CharSet := .ofText "2e 2024 fe52 ff0e"

def sentenceSeparators : CharSet := .ofText "85 2028-2029"

def sentenceExtenders : CharSet :=
  .unions [graphemeExtenders, ofCategories ["Mc"], .ofText "200d"]

/-- Small letters; Georgian has no case in running text. -/
def sentenceSmall : CharSet :=
  lowercase.difference (graphemeExtenders.union (.ofText "10d0-10fa 10fd-10ff"))

/-- Capital letters; Georgian has no case in running text. -/
def sentenceCapital : CharSet :=
  (uppercase.union (ofCategories ["Lt"])).difference (.ofText "1c90-1cba 1cbd-1cbf")

def sentenceKinds : NamedSets :=
  [(["aterm", "at"], ambiguousStops),
    (["close", "cl"],
      CharSet.difference
        (.unions [ofCategories ["Ps", "Pe", "Pi", "Pf"], quotationMarks, .ofText "
          275b-2760 2e00-2e01 2e06-2e08 2e0b 1f676-1f678"])
        (.unions [.ofText "ff02 ff07", ambiguousStops, sentenceTerminals])),
    (["cr"], .ofText "d"), (["extend", "ex"], sentenceExtenders),
    (["format", "fo"],
      (ofCategories ["Cf"]).difference
        (.unions [.ofText "200d", graphemeExtenders, numberChars])),
    (["lf"], .ofText "a"), (["lower", "lo"], sentenceSmall),
    (["numeric", "nu"], numberChars.union (.ofText "66c")),
    (["oletter", "le"],
      (alphabetic.union (.ofText "5f3")).difference
        (.unions [sentenceSmall, sentenceCapital, sentenceExtenders])),
    (["scontinue", "sc"], .ofText "
      2c-2d 3a-3b 37e 55d 60c-60d 7f8 1802 1808 2013-2014 3001 fe10-fe11 fe13-fe14 fe31-fe32
      fe50-fe51 fe54-fe55 fe58 fe63 ff0c-ff0d ff1a-ff1b ff64"),
    (["sep", "se"], sentenceSeparators),
    (["sp"], whiteSpace.difference (sentenceSeparators.union (.ofText "a d"))),
    (["sterm", "st"], sentenceTerminals.difference ambiguousStops), (["upper", "up"], sentenceCapital)]

end XslLowering.Pattern
