import PolicyEngine.Pattern.CharSet
import PolicyEngine.Text.Property
import PolicyEngine.Text.Age
import PolicyEngine.Text.Script

/-! The names that patterns have for sets of characters: general categories, scripts, properties, ages, and the
classes by which texts are divided into graphemes, words and sentences. -/
namespace PolicyEngine.CharSet

open Text.Property
open Text.Category (lowercaseLetter uppercaseLetter titlecaseLetter modifierLetter letterNumber decimalNumber
  spacingMark nonspacingMark enclosingMark connectorPunctuation modifierSymbol mathSymbol spaceSeparator)

/-- Names are compared in lower case, without blanks, hyphens and underscores, and without an `is` in front. The name
`isc` is one of its own. -/
def looseName (cs : List Char) : String :=
  let hasPrefix := (cs.take 2).map Char.toLower = ['i', 's']
  let own := if hasPrefix then cs.drop 2 else cs
  let kept := (own.filter fun c => !(c = ' ' || c = '_' || c = '-') && c.toNat < 0x80).map Char.toLower
  if hasPrefix && kept = ['c'] then "isc" else String.ofList kept

/-- The set with a name, among those of a list. -/
def lookUp? (sets : List (List String × CharSet)) (name : String) : Option CharSet :=
  (sets.find? fun s => name ∈ s.1).map (·.2)

def tableNamed? (tables : List (List String × Text.Ranges)) (name : String) : Option CharSet :=
  (tables.find? fun t => name ∈ t.1).map fun t => ranges t.2

def unionTables (tables : List Text.Ranges) : CharSet := unionAll (tables.map ranges)

/-! General categories -/

def assigned : CharSet := unionTables (Text.Category.named.map (·.2))

/-- A general category, or a group of them. -/
def category? (name : String) : Option CharSet :=
  match tableNamed? Text.Category.named name with
  | some s => some s
  | none =>
    match Text.Category.groups.find? fun g => name ∈ g.1 with
    | some g => some (unionAll (g.2.filterMap (tableNamed? Text.Category.named)))
    | none =>
      if name = "any" then some everything
      else if name = "ascii" then some (ranges [(0x0, 0x7f)])
      else if name = "assigned" then some assigned
      else if name ∈ ["cn", "unassigned"] then some (compl assigned)
      else if name ∈ ["c", "other"] then
        some (union (compl assigned) (unionTables
          [Text.Category.control, Text.Category.format, Text.Category.privateUse]))
      else none

def letters : CharSet :=
  unionTables [uppercaseLetter, lowercaseLetter, titlecaseLetter, modifierLetter, Text.Category.otherLetter]

/-! Scripts -/

def script? (name : String) : Option CharSet := tableNamed? Text.Script.named name

/-- The characters that a script uses, shared ones among them. -/
def scriptExtension? (name : String) : Option CharSet := do
  let (names, own) ← Text.Script.named.find? fun t => name ∈ t.1
  let used := Text.Script.shared.filter fun t => names.any (· ∈ t.1)
  some (union (diff (ranges own) (unionTables (Text.Script.shared.map (·.2)))) (unionTables (used.map (·.2))))

/-! Case -/

def lowercase : CharSet := unionTables [lowercaseLetter, Text.Category.otherLowercase]

def uppercase : CharSet := unionTables [uppercaseLetter, Text.Category.otherUppercase]

def cased : CharSet := unionAll [lowercase, uppercase, ranges titlecaseLetter]

def changesWhenLowercased : CharSet := diff (union uppercase (ranges titlecaseLetter)) (ranges lowerless)

def changesWhenUppercased : CharSet := diff (union lowercase (ranges titlecaseLetter)) (ranges upperless)

def changesWhenTitlecased : CharSet := union (diff changesWhenUppercased (ranges titleless)) (ranges titleOnly)

def changesWhenCasefolded : CharSet := union (diff changesWhenLowercased (ranges foldless)) (ranges foldOnly)

/-! Graphemes -/

def graphemeExtend : CharSet := unionTables [nonspacingMark, enclosingMark, otherExtend]

def defaultIgnorable : CharSet :=
  diff (unionTables [Text.Category.format, variationSelector, otherIgnorable])
    (unionTables [Text.blankRanges, prependedConcatenation, visibleFormat])

def zeroWidthJoiner : CharSet := ranges [(0x200d, 0x200d)]

/-- What does not stand for itself, or does not stand in a text at all. -/
def controls : CharSet :=
  unionTables [Text.Category.control, Text.Category.lineSeparator, Text.Category.paragraphSeparator]

def graphemeBase : CharSet :=
  diff assigned (unionAll [controls, unionTables [Text.Category.format, Text.Category.privateUse], graphemeExtend])

/-- The Hangul syllables that end in a vowel: one for each of the leading ones and vowels. -/
def openSyllables : CharSet := ranges ((List.range 399).map fun i => (0xac00 + 28 * i, 0xac00 + 28 * i))

def graphemeBreakExtend : CharSet := union graphemeExtend (ranges emojiModifier)

/-- The classes of characters within graphemes. -/
def graphemeBreaks : List (List String × CharSet) :=
  [(["cr"], single '\r'),
    (["lf"], single '\n'),
    (["cn", "control"], diff (unionAll [controls, ranges Text.Category.format, inter (compl assigned) defaultIgnorable])
      (unionAll [ranges [(0xa, 0xa), (0xd, 0xd)], ranges joinControl, ranges prependedConcatenation,
        graphemeBreakExtend])),
    (["ex", "extend"], graphemeBreakExtend),
    (["zwj"], zeroWidthJoiner),
    (["ri", "regionalindicator"], ranges regionalIndicator),
    (["pp", "prepend"], unionTables [prependedConcatenation, otherPrepend]),
    (["sm", "spacingmark"], union (diff (ranges spacingMark) (union graphemeBreakExtend (ranges unattached)))
      (ranges [(0xe33, 0xe33), (0xeb3, 0xeb3)])),
    (["l"], ranges leadingJamo),
    (["v"], ranges vowelJamo),
    (["t"], ranges trailingJamo),
    (["lv"], openSyllables),
    (["lvt"], diff (ranges [(0xac00, 0xd7a3)]) openSyllables)]

/-! Words -/

def wordExtend : CharSet := union graphemeBreakExtend (ranges spacingMark)

def katakanaWord : CharSet := unionTables [Text.Script.katakana, otherKatakana]

def hebrewLetter : CharSet := inter (ranges Text.Script.hebrew) (ranges Text.Category.otherLetter)

/-- Scripts that are written without blanks between words, which it takes a dictionary to find. -/
def unspacedScripts : CharSet :=
  unionTables [Text.Script.thai, Text.Script.lao, Text.Script.myanmar, Text.Script.khmer, Text.Script.taiLe,
    Text.Script.newTaiLue, Text.Script.taiTham, Text.Script.taiViet, Text.Script.ahom]

def wordLetter : CharSet :=
  diff (unionTables [Text.letterRanges, otherWordLetter])
    (unionAll [ranges ideographic, ranges Text.Script.hiragana, katakanaWord, hebrewLetter, unspacedScripts,
      wordExtend])

def wordNumeric : CharSet := unionTables [decimalNumber, [(0x66b, 0x66b)]]

/-- The classes of characters within words. -/
def wordBreaks : List (List String × CharSet) :=
  [(["cr"], single '\r'),
    (["lf"], single '\n'),
    (["nl", "newline"], ranges [(0xb, 0xc), (0x85, 0x85), (0x2028, 0x2029)]),
    (["extend"], wordExtend),
    (["zwj"], zeroWidthJoiner),
    (["ri", "regionalindicator"], ranges regionalIndicator),
    (["fo", "format"], diff (ranges Text.Category.format) (union (ranges [(0x200b, 0x200d)]) wordExtend)),
    (["ka", "katakana"], katakanaWord),
    (["hl", "hebrewletter"], hebrewLetter),
    (["le", "aletter"], wordLetter),
    (["sq", "singlequote"], single '\''),
    (["dq", "doublequote"], single '"'),
    (["mb", "midnumlet"], ranges midBoth),
    (["ml", "midletter"], ranges midLetter),
    (["mn", "midnum"], ranges midNumber),
    (["nu", "numeric"], wordNumeric),
    (["ex", "extendnumlet"], unionTables [connectorPunctuation, [(0x202f, 0x202f)]]),
    (["wsegspace"], diff (ranges spaceSeparator) (ranges [(0xa0, 0xa0), (0x2007, 0x2007), (0x202f, 0x202f)]))]

/-! Sentences -/

def sentenceExtend : CharSet := unionAll [graphemeExtend, ranges spacingMark, zeroWidthJoiner]

def sentenceLower : CharSet :=
  diff lowercase (union graphemeExtend (ranges [(0x10d0, 0x10fa), (0x10fd, 0x10ff)]))

def sentenceUpper : CharSet :=
  diff (union uppercase (ranges titlecaseLetter)) (ranges [(0x1c90, 0x1cba), (0x1cbd, 0x1cbf)])

def pointLike : CharSet := ranges [(0x2e, 0x2e), (0x2024, 0x2024), (0xfe52, 0xfe52), (0xff0e, 0xff0e)]

/-- The classes of characters within sentences. -/
def sentenceBreaks : List (List String × CharSet) :=
  [(["cr"], single '\r'),
    (["lf"], single '\n'),
    (["ex", "extend"], sentenceExtend),
    (["se", "sep"], ranges [(0x85, 0x85), (0x2028, 0x2029)]),
    (["fo", "format"], diff (ranges Text.Category.format) (union (ranges joinControl) sentenceExtend)),
    (["sp"], diff (blanks true) (ranges [(0xa, 0xa), (0xd, 0xd), (0x85, 0x85), (0x2028, 0x2029)])),
    (["lo", "lower"], sentenceLower),
    (["up", "upper"], sentenceUpper),
    (["le", "oletter"], diff (unionTables [Text.letterRanges, [(0x5f3, 0x5f3)]])
      (unionAll [sentenceLower, sentenceUpper, sentenceExtend])),
    (["nu", "numeric"], union wordNumeric (ranges [(0x66c, 0x66c)])),
    (["at", "aterm"], pointLike),
    (["sc", "scontinue"], ranges sentenceContinue),
    (["st", "sterm"], diff (ranges sentenceTerminal) pointLike),
    (["cl", "close"], unionTables [Text.Category.openPunctuation, Text.Category.closePunctuation,
      Text.Category.initialPunctuation, Text.Category.finalPunctuation, quoteLike])]

/-! Properties -/

def idStart : CharSet :=
  diff (unionAll [letters, ranges letterNumber, ranges otherStart]) (unionTables [patternSyntax, patternBlank])

def idContinue : CharSet :=
  diff (union idStart
      (unionTables [nonspacingMark, spacingMark, decimalNumber, connectorPunctuation, otherContinue]))
    (unionTables [patternSyntax, patternBlank])

/-- The properties that a character has or has not, with their names, short and long. -/
def properties : List (List String × CharSet) :=
  [(["ahex", "asciihexdigit"], ranges [(0x30, 0x39), (0x41, 0x46), (0x61, 0x66)]),
    (["alpha", "alphabetic"], ranges Text.letterRanges),
    (["bidic", "bidicontrol"], ranges bidiControl),
    (["bidim", "bidimirrored"], ranges bidiMirrored),
    (["cased"], cased),
    (["ci", "caseignorable"], unionAll [unionTables [nonspacingMark, enclosingMark, Text.Category.format,
      modifierLetter, modifierSymbol, midLetter, midBoth], single '\'']),
    (["cwcf", "changeswhencasefolded"], changesWhenCasefolded),
    (["cwcm", "changeswhencasemapped"],
      unionAll [changesWhenLowercased, changesWhenUppercased, changesWhenTitlecased]),
    (["cwl", "changeswhenlowercased"], changesWhenLowercased),
    (["cwt", "changeswhentitlecased"], changesWhenTitlecased),
    (["cwu", "changeswhenuppercased"], changesWhenUppercased),
    (["dash"], ranges dash),
    (["dep", "deprecated"], ranges deprecated),
    (["di", "defaultignorablecodepoint"], defaultIgnorable),
    (["dia", "diacritic"], ranges diacritic),
    (["ebase", "emojimodifierbase"], ranges emojiModifierBase),
    (["ecomp", "emojicomponent"], ranges emojiComponent),
    (["emod", "emojimodifier"], ranges emojiModifier),
    (["emoji"], ranges emoji),
    (["epres", "emojipresentation"], ranges emojiPresentation),
    (["ext", "extender"], ranges extender),
    (["extpict", "extendedpictographic"], ranges extendedPictographic),
    (["grbase", "graphemebase"], graphemeBase),
    (["grext", "graphemeextend"], graphemeExtend),
    (["grlink", "graphemelink"], ranges graphemeLink),
    (["hex", "hexdigit"], ranges hexDigit),
    (["hyphen"], ranges hyphen),
    (["idc", "idcontinue"], idContinue),
    (["ideo", "ideographic"], ranges ideographic),
    (["ids", "idstart"], idStart),
    (["idsb", "idsbinaryoperator"], ranges binaryDescription),
    (["idst", "idstrinaryoperator"], ranges trinaryDescription),
    (["joinc", "joincontrol"], ranges joinControl),
    (["loe", "logicalorderexception"], ranges logicalOrderException),
    (["lower", "lowercase"], lowercase),
    (["math"], unionTables [mathSymbol, otherMath]),
    (["nchar", "noncharactercodepoint"], ranges noncharacter),
    (["oalpha", "otheralphabetic"], ranges otherAlphabetic),
    (["odi", "otherdefaultignorablecodepoint"], ranges otherIgnorable),
    (["ogrext", "othergraphemeextend"], ranges otherExtend),
    (["oidc", "otheridcontinue"], ranges otherContinue),
    (["oids", "otheridstart"], ranges otherStart),
    (["olower", "otherlowercase"], ranges Text.Category.otherLowercase),
    (["omath", "othermath"], ranges otherMath),
    (["oupper", "otheruppercase"], ranges Text.Category.otherUppercase),
    (["patsyn", "patternsyntax"], ranges patternSyntax),
    (["patws", "patternwhitespace"], ranges patternBlank),
    (["pcm", "prependedconcatenationmark"], ranges prependedConcatenation),
    (["qmark", "quotationmark"], ranges quotationMark),
    (["radical"], ranges radical),
    (["ri", "regionalindicator"], ranges regionalIndicator),
    (["sd", "softdotted"], ranges softDotted),
    (["sterm", "sentenceterminal"], ranges sentenceTerminal),
    (["term", "terminalpunctuation"], ranges terminalPunctuation),
    (["uideo", "unifiedideograph"], ranges unifiedIdeograph),
    (["upper", "uppercase"], uppercase),
    (["vs", "variationselector"], ranges variationSelector),
    (["wspace", "whitespace", "space"], blanks true),
    (["xidc", "xidcontinue"], diff idContinue (ranges unstableContinue)),
    (["xids", "xidstart"], diff idStart (ranges unstableStart))]

/-! What a name stands for -/

/-- The characters that had come by a version. -/
def age? (name : String) : Option CharSet := do
  let earlier := Text.Age.versions.takeWhile fun v => name ∉ v.1
  let (_, own) ← (Text.Age.versions.drop earlier.length).head?
  some (unionTables (earlier.map (·.2) ++ [own]))

/-- The set that a bare name stands for: a property, a category, or a script. -/
def named? (name : String) : Option CharSet :=
  (lookUp? properties name).or ((category? name).or (script? name))

/-- The set of a name with a value. -/
def valued? (name value : String) : Option CharSet :=
  if name ∈ ["gc", "generalcategory"] then category? value
  else if name ∈ ["sc", "script"] then script? value
  else if name ∈ ["scx", "scriptextensions"] then scriptExtension? value
  else if name = "age" then age? value
  else if name ∈ ["gcb", "graphemeclusterbreak"] then lookUp? graphemeBreaks value
  else if name ∈ ["wb", "wordbreak"] then lookUp? wordBreaks value
  else if name ∈ ["sb", "sentencebreak"] then lookUp? sentenceBreaks value
  else none

end PolicyEngine.CharSet
