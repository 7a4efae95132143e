/-!
# Names of characters

The standard names of the characters that texts mostly consist of: control
characters, Latin, Greek and Cyrillic letters, digits, punctuation, currency
signs, arrows, signs of mathematics and common symbols; and of all unified
ideographs, which are named by their codes.  Letter case does not matter.
-/

namespace DocStore

/-- Pairs of a capital and a small letter at equal steps, each named for its script,
its case and the ending that the pair shares. -/
structure LetterNames where
  script : String
  capital : Nat
  small : Nat
  step : Nat
  endings : List String

def letterNames : List LetterNames := [
  ⟨"LATIN", 0x41, 0x61, 1, [
    "A", "B", "C", "D", "E", "F", "G", "H", "I", "J", "K", "L", "M", "N", "O", "P", "Q", "R", "S",
    "T", "U", "V", "W", "X", "Y", "Z"]⟩,
  ⟨"LATIN", 0xc0, 0xe0, 1, [
    "A WITH GRAVE", "A WITH ACUTE", "A WITH CIRCUMFLEX", "A WITH TILDE", "A WITH DIAERESIS",
    "A WITH RING ABOVE", "AE", "C WITH CEDILLA", "E WITH GRAVE", "E WITH ACUTE",
    "E WITH CIRCUMFLEX", "E WITH DIAERESIS", "I WITH GRAVE", "I WITH ACUTE", "I WITH CIRCUMFLEX",
    "I WITH DIAERESIS", "ETH", "N WITH TILDE", "O WITH GRAVE", "O WITH ACUTE", "O WITH CIRCUMFLEX",
    "O WITH TILDE", "O WITH DIAERESIS"]⟩,
  ⟨"LATIN", 0xd8, 0xf8, 1, [
    "O WITH STROKE", "U WITH GRAVE", "U WITH ACUTE", "U WITH CIRCUMFLEX", "U WITH DIAERESIS",
    "Y WITH ACUTE", "THORN"]⟩,
  ⟨"LATIN", 0x100, 0x101, 2, [
    "A WITH MACRON", "A WITH BREVE", "A WITH OGONEK", "C WITH ACUTE", "C WITH CIRCUMFLEX",
    "C WITH DOT ABOVE", "C WITH CARON", "D WITH CARON", "D WITH STROKE", "E WITH MACRON",
    "E WITH BREVE", "E WITH DOT ABOVE", "E WITH OGONEK", "E WITH CARON", "G WITH CIRCUMFLEX",
    "G WITH BREVE", "G WITH DOT ABOVE", "G WITH CEDILLA", "H WITH CIRCUMFLEX", "H WITH STROKE",
    "I WITH TILDE", "I WITH MACRON", "I WITH BREVE", "I WITH OGONEK"]⟩,
  ⟨"LATIN", 0x134, 0x135, 2, ["J WITH CIRCUMFLEX", "K WITH CEDILLA"]⟩,
  ⟨"LATIN", 0x139, 0x13a, 2, [
    "L WITH ACUTE", "L WITH CEDILLA", "L WITH CARON", "L WITH MIDDLE DOT", "L WITH STROKE",
    "N WITH ACUTE", "N WITH CEDILLA", "N WITH CARON"]⟩,
  ⟨"LATIN", 0x14a, 0x14b, 2, ["ENG", "O WITH MACRON", "O WITH BREVE", "O WITH DOUBLE ACUTE"]⟩,
  ⟨"LATIN", 0x154, 0x155, 2, [
    "R WITH ACUTE", "R WITH CEDILLA", "R WITH CARON", "S WITH ACUTE", "S WITH CIRCUMFLEX",
    "S WITH CEDILLA", "S WITH CARON", "T WITH CEDILLA", "T WITH CARON", "T WITH STROKE",
    "U WITH TILDE", "U WITH MACRON", "U WITH BREVE", "U WITH RING ABOVE", "U WITH DOUBLE ACUTE",
    "U WITH OGONEK", "W WITH CIRCUMFLEX", "Y WITH CIRCUMFLEX"]⟩,
  ⟨"LATIN", 0x178, 0xff, 1, ["Y WITH DIAERESIS"]⟩,
  ⟨"LATIN", 0x179, 0x17a, 2, ["Z WITH ACUTE", "Z WITH DOT ABOVE", "Z WITH CARON"]⟩,
  ⟨"GREEK", 0x386, 0x3ac, 1, ["ALPHA WITH TONOS"]⟩,
  ⟨"GREEK", 0x388, 0x3ad, 1, ["EPSILON WITH TONOS", "ETA WITH TONOS", "IOTA WITH TONOS"]⟩,
  ⟨"GREEK", 0x38c, 0x3cc, 1, ["OMICRON WITH TONOS"]⟩,
  ⟨"GREEK", 0x38e, 0x3cd, 1, ["UPSILON WITH TONOS", "OMEGA WITH TONOS"]⟩,
  ⟨"GREEK", 0x391, 0x3b1, 1, [
    "ALPHA", "BETA", "GAMMA", "DELTA", "EPSILON", "ZETA", "ETA", "THETA", "IOTA", "KAPPA", "LAMDA",
    "MU", "NU", "XI", "OMICRON", "PI", "RHO"]⟩,
  ⟨"GREEK", 0x3a3, 0x3c3, 1, [
    "SIGMA", "TAU", "UPSILON", "PHI", "CHI", "PSI", "OMEGA", "IOTA WITH DIALYTIKA",
    "UPSILON WITH DIALYTIKA"]⟩,
  ⟨"CYRILLIC", 0x400, 0x450, 1, [
    "IE WITH GRAVE", "IO", "DJE", "GJE", "UKRAINIAN IE", "DZE", "BYELORUSSIAN-UKRAINIAN I", "YI",
    "JE", "LJE", "NJE", "TSHE", "KJE", "I WITH GRAVE", "SHORT U", "DZHE"]⟩,
  ⟨"CYRILLIC", 0x410, 0x430, 1, [
    "A", "BE", "VE", "GHE", "DE", "IE", "ZHE", "ZE", "I", "SHORT I", "KA", "EL", "EM", "EN", "O",
    "PE", "ER", "ES", "TE", "U", "EF", "HA", "TSE", "CHE", "SHA", "SHCHA", "HARD SIGN", "YERU",
    "SOFT SIGN", "E", "YU", "YA"]⟩]

/-- Characters in a row, by the code of the first one. -/
def nameRows : List (Nat × List String) := [
  (0x0, [
    "NULL", "START OF HEADING", "START OF TEXT", "END OF TEXT", "END OF TRANSMISSION", "ENQUIRY",
    "ACKNOWLEDGE", "ALERT", "BACKSPACE", "CHARACTER TABULATION", "LINE FEED", "LINE TABULATION",
    "FORM FEED", "CARRIAGE RETURN", "SHIFT OUT", "SHIFT IN", "DATA LINK ESCAPE",
    "DEVICE CONTROL ONE", "DEVICE CONTROL TWO", "DEVICE CONTROL THREE", "DEVICE CONTROL FOUR",
    "NEGATIVE ACKNOWLEDGE", "SYNCHRONOUS IDLE", "END OF TRANSMISSION BLOCK", "CANCEL",
    "END OF MEDIUM", "SUBSTITUTE", "ESCAPE", "INFORMATION SEPARATOR FOUR",
    "INFORMATION SEPARATOR THREE", "INFORMATION SEPARATOR TWO", "INFORMATION SEPARATOR ONE"]),
  (0x20, [
    "SPACE", "EXCLAMATION MARK", "QUOTATION MARK", "NUMBER SIGN", "DOLLAR SIGN", "PERCENT SIGN",
    "AMPERSAND", "APOSTROPHE", "LEFT PARENTHESIS", "RIGHT PARENTHESIS", "ASTERISK", "PLUS SIGN",
    "COMMA", "HYPHEN-MINUS", "FULL STOP", "SOLIDUS", "DIGIT ZERO", "DIGIT ONE", "DIGIT TWO",
    "DIGIT THREE", "DIGIT FOUR", "DIGIT FIVE", "DIGIT SIX", "DIGIT SEVEN", "DIGIT EIGHT",
    "DIGIT NINE", "COLON", "SEMICOLON", "LESS-THAN SIGN", "EQUALS SIGN", "GREATER-THAN SIGN",
    "QUESTION MARK", "COMMERCIAL AT"]),
  (0x5b, [
    "LEFT SQUARE BRACKET", "REVERSE SOLIDUS", "RIGHT SQUARE BRACKET", "CIRCUMFLEX ACCENT",
    "LOW LINE", "GRAVE ACCENT"]),
  (0x7b, ["LEFT CURLY BRACKET", "VERTICAL LINE", "RIGHT CURLY BRACKET", "TILDE"]),
  (0xa0, [
    "NO-BREAK SPACE", "INVERTED EXCLAMATION MARK", "CENT SIGN", "POUND SIGN", "CURRENCY SIGN",
    "YEN SIGN", "BROKEN BAR", "SECTION SIGN", "DIAERESIS", "COPYRIGHT SIGN",
    "FEMININE ORDINAL INDICATOR", "LEFT-POINTING DOUBLE ANGLE QUOTATION MARK", "NOT SIGN",
    "SOFT HYPHEN", "REGISTERED SIGN", "MACRON", "DEGREE SIGN", "PLUS-MINUS SIGN", "SUPERSCRIPT TWO",
    "SUPERSCRIPT THREE", "ACUTE ACCENT", "MICRO SIGN", "PILCROW SIGN", "MIDDLE DOT", "CEDILLA",
    "SUPERSCRIPT ONE", "MASCULINE ORDINAL INDICATOR", "RIGHT-POINTING DOUBLE ANGLE QUOTATION MARK",
    "VULGAR FRACTION ONE QUARTER", "VULGAR FRACTION ONE HALF", "VULGAR FRACTION THREE QUARTERS",
    "INVERTED QUESTION MARK"]),
  (0xd7, ["MULTIPLICATION SIGN"]),
  (0xdf, ["LATIN SMALL LETTER SHARP S"]),
  (0xf7, ["DIVISION SIGN"]),
  (0x130, [
    "LATIN CAPITAL LETTER I WITH DOT ABOVE", "LATIN SMALL LETTER DOTLESS I",
    "LATIN CAPITAL LIGATURE IJ", "LATIN SMALL LIGATURE IJ"]),
  (0x138, ["LATIN SMALL LETTER KRA"]),
  (0x149, ["LATIN SMALL LETTER N PRECEDED BY APOSTROPHE"]),
  (0x152, ["LATIN CAPITAL LIGATURE OE", "LATIN SMALL LIGATURE OE"]),
  (0x17f, ["LATIN SMALL LETTER LONG S"]),
  (0x387, ["GREEK ANO TELEIA"]),
  (0x390, ["GREEK SMALL LETTER IOTA WITH DIALYTIKA AND TONOS"]),
  (0x3b0, ["GREEK SMALL LETTER UPSILON WITH DIALYTIKA AND TONOS"]),
  (0x3c2, ["GREEK SMALL LETTER FINAL SIGMA"]),
  (0x660, [
    "ARABIC-INDIC DIGIT ZERO", "ARABIC-INDIC DIGIT ONE", "ARABIC-INDIC DIGIT TWO",
    "ARABIC-INDIC DIGIT THREE", "ARABIC-INDIC DIGIT FOUR", "ARABIC-INDIC DIGIT FIVE",
    "ARABIC-INDIC DIGIT SIX", "ARABIC-INDIC DIGIT SEVEN", "ARABIC-INDIC DIGIT EIGHT",
    "ARABIC-INDIC DIGIT NINE"]),
  (0x966, [
    "DEVANAGARI DIGIT ZERO", "DEVANAGARI DIGIT ONE", "DEVANAGARI DIGIT TWO",
    "DEVANAGARI DIGIT THREE", "DEVANAGARI DIGIT FOUR", "DEVANAGARI DIGIT FIVE",
    "DEVANAGARI DIGIT SIX", "DEVANAGARI DIGIT SEVEN", "DEVANAGARI DIGIT EIGHT",
    "DEVANAGARI DIGIT NINE"]),
  (0x2000, [
    "EN QUAD", "EM QUAD", "EN SPACE", "EM SPACE", "THREE-PER-EM SPACE", "FOUR-PER-EM SPACE",
    "SIX-PER-EM SPACE", "FIGURE SPACE", "PUNCTUATION SPACE", "THIN SPACE", "HAIR SPACE",
    "ZERO WIDTH SPACE", "ZERO WIDTH NON-JOINER", "ZERO WIDTH JOINER", "LEFT-TO-RIGHT MARK",
    "RIGHT-TO-LEFT MARK", "HYPHEN", "NON-BREAKING HYPHEN", "FIGURE DASH", "EN DASH", "EM DASH",
    "HORIZONTAL BAR", "DOUBLE VERTICAL LINE", "DOUBLE LOW LINE", "LEFT SINGLE QUOTATION MARK",
    "RIGHT SINGLE QUOTATION MARK", "SINGLE LOW-9 QUOTATION MARK",
    "SINGLE HIGH-REVERSED-9 QUOTATION MARK", "LEFT DOUBLE QUOTATION MARK",
    "RIGHT DOUBLE QUOTATION MARK", "DOUBLE LOW-9 QUOTATION MARK",
    "DOUBLE HIGH-REVERSED-9 QUOTATION MARK", "DAGGER", "DOUBLE DAGGER", "BULLET",
    "TRIANGULAR BULLET", "ONE DOT LEADER", "TWO DOT LEADER", "HORIZONTAL ELLIPSIS",
    "HYPHENATION POINT", "LINE SEPARATOR", "PARAGRAPH SEPARATOR", "LEFT-TO-RIGHT EMBEDDING",
    "RIGHT-TO-LEFT EMBEDDING", "POP DIRECTIONAL FORMATTING", "LEFT-TO-RIGHT OVERRIDE",
    "RIGHT-TO-LEFT OVERRIDE", "NARROW NO-BREAK SPACE", "PER MILLE SIGN", "PER TEN THOUSAND SIGN",
    "PRIME", "DOUBLE PRIME", "TRIPLE PRIME", "REVERSED PRIME", "REVERSED DOUBLE PRIME",
    "REVERSED TRIPLE PRIME", "CARET", "SINGLE LEFT-POINTING ANGLE QUOTATION MARK",
    "SINGLE RIGHT-POINTING ANGLE QUOTATION MARK", "REFERENCE MARK", "DOUBLE EXCLAMATION MARK",
    "INTERROBANG", "OVERLINE", "UNDERTIE", "CHARACTER TIE", "CARET INSERTION POINT", "ASTERISM",
    "HYPHEN BULLET", "FRACTION SLASH", "LEFT SQUARE BRACKET WITH QUILL",
    "RIGHT SQUARE BRACKET WITH QUILL", "DOUBLE QUESTION MARK", "QUESTION EXCLAMATION MARK",
    "EXCLAMATION QUESTION MARK", "TIRONIAN SIGN ET", "REVERSED PILCROW SIGN",
    "BLACK LEFTWARDS BULLET", "BLACK RIGHTWARDS BULLET", "LOW ASTERISK", "REVERSED SEMICOLON",
    "CLOSE UP", "TWO ASTERISKS ALIGNED VERTICALLY", "COMMERCIAL MINUS SIGN", "SWUNG DASH",
    "INVERTED UNDERTIE", "FLOWER PUNCTUATION MARK", "THREE DOT PUNCTUATION", "QUADRUPLE PRIME",
    "FOUR DOT PUNCTUATION", "FIVE DOT PUNCTUATION", "TWO DOT PUNCTUATION", "FOUR DOT MARK",
    "DOTTED CROSS", "TRICOLON", "VERTICAL FOUR DOTS", "MEDIUM MATHEMATICAL SPACE", "WORD JOINER",
    "FUNCTION APPLICATION", "INVISIBLE TIMES", "INVISIBLE SEPARATOR", "INVISIBLE PLUS"]),
  (0x20a0, [
    "EURO-CURRENCY SIGN", "COLON SIGN", "CRUZEIRO SIGN", "FRENCH FRANC SIGN", "LIRA SIGN",
    "MILL SIGN", "NAIRA SIGN", "PESETA SIGN", "RUPEE SIGN", "WON SIGN", "NEW SHEQEL SIGN",
    "DONG SIGN", "EURO SIGN", "KIP SIGN", "TUGRIK SIGN", "DRACHMA SIGN", "GERMAN PENNY SIGN",
    "PESO SIGN", "GUARANI SIGN", "AUSTRAL SIGN", "HRYVNIA SIGN", "CEDI SIGN", "LIVRE TOURNOIS SIGN",
    "SPESMILO SIGN", "TENGE SIGN", "INDIAN RUPEE SIGN", "TURKISH LIRA SIGN", "NORDIC MARK SIGN",
    "MANAT SIGN", "RUBLE SIGN", "LARI SIGN", "BITCOIN SIGN", "SOM SIGN"]),
  (0x2190, [
    "LEFTWARDS ARROW", "UPWARDS ARROW", "RIGHTWARDS ARROW", "DOWNWARDS ARROW", "LEFT RIGHT ARROW",
    "UP DOWN ARROW", "NORTH WEST ARROW", "NORTH EAST ARROW", "SOUTH EAST ARROW", "SOUTH WEST ARROW"]),
  (0x2200, [
    "FOR ALL", "COMPLEMENT", "PARTIAL DIFFERENTIAL", "THERE EXISTS", "THERE DOES NOT EXIST",
    "EMPTY SET", "INCREMENT", "NABLA", "ELEMENT OF", "NOT AN ELEMENT OF", "SMALL ELEMENT OF",
    "CONTAINS AS MEMBER", "DOES NOT CONTAIN AS MEMBER", "SMALL CONTAINS AS MEMBER", "END OF PROOF",
    "N-ARY PRODUCT", "N-ARY COPRODUCT", "N-ARY SUMMATION", "MINUS SIGN", "MINUS-OR-PLUS SIGN",
    "DOT PLUS", "DIVISION SLASH", "SET MINUS", "ASTERISK OPERATOR", "RING OPERATOR",
    "BULLET OPERATOR", "SQUARE ROOT", "CUBE ROOT", "FOURTH ROOT", "PROPORTIONAL TO", "INFINITY",
    "RIGHT ANGLE", "ANGLE", "MEASURED ANGLE", "SPHERICAL ANGLE", "DIVIDES", "DOES NOT DIVIDE",
    "PARALLEL TO", "NOT PARALLEL TO", "LOGICAL AND", "LOGICAL OR", "INTERSECTION", "UNION",
    "INTEGRAL"]),
  (0x2600, [
    "BLACK SUN WITH RAYS", "CLOUD", "UMBRELLA", "SNOWMAN", "COMET", "BLACK STAR", "WHITE STAR",
    "LIGHTNING", "THUNDERSTORM", "SUN", "ASCENDING NODE", "DESCENDING NODE", "CONJUNCTION",
    "OPPOSITION", "BLACK TELEPHONE", "WHITE TELEPHONE", "BALLOT BOX", "BALLOT BOX WITH CHECK",
    "BALLOT BOX WITH X", "SALTIRE", "UMBRELLA WITH RAIN DROPS", "HOT BEVERAGE", "WHITE SHOGI PIECE",
    "BLACK SHOGI PIECE", "SHAMROCK", "REVERSED ROTATED FLORAL HEART BULLET",
    "BLACK LEFT POINTING INDEX", "BLACK RIGHT POINTING INDEX", "WHITE LEFT POINTING INDEX",
    "WHITE UP POINTING INDEX", "WHITE RIGHT POINTING INDEX", "WHITE DOWN POINTING INDEX",
    "SKULL AND CROSSBONES", "CAUTION SIGN", "RADIOACTIVE SIGN", "BIOHAZARD SIGN", "CADUCEUS",
    "ANKH", "ORTHODOX CROSS", "CHI RHO", "CROSS OF LORRAINE", "CROSS OF JERUSALEM",
    "STAR AND CRESCENT", "FARSI SYMBOL", "ADI SHAKTI", "HAMMER AND SICKLE", "PEACE SYMBOL",
    "YIN YANG", "TRIGRAM FOR HEAVEN", "TRIGRAM FOR LAKE", "TRIGRAM FOR FIRE", "TRIGRAM FOR THUNDER",
    "TRIGRAM FOR WIND", "TRIGRAM FOR WATER", "TRIGRAM FOR MOUNTAIN", "TRIGRAM FOR EARTH",
    "WHEEL OF DHARMA", "WHITE FROWNING FACE", "WHITE SMILING FACE", "BLACK SMILING FACE",
    "WHITE SUN WITH RAYS", "FIRST QUARTER MOON", "LAST QUARTER MOON", "MERCURY", "FEMALE SIGN",
    "EARTH", "MALE SIGN", "JUPITER", "SATURN", "URANUS", "NEPTUNE", "PLUTO", "ARIES", "TAURUS",
    "GEMINI", "CANCER", "LEO", "VIRGO", "LIBRA", "SCORPIUS", "SAGITTARIUS", "CAPRICORN", "AQUARIUS",
    "PISCES", "WHITE CHESS KING", "WHITE CHESS QUEEN", "WHITE CHESS ROOK", "WHITE CHESS BISHOP",
    "WHITE CHESS KNIGHT", "WHITE CHESS PAWN", "BLACK CHESS KING", "BLACK CHESS QUEEN",
    "BLACK CHESS ROOK", "BLACK CHESS BISHOP", "BLACK CHESS KNIGHT", "BLACK CHESS PAWN",
    "BLACK SPADE SUIT", "WHITE HEART SUIT", "WHITE DIAMOND SUIT", "BLACK CLUB SUIT",
    "WHITE SPADE SUIT", "BLACK HEART SUIT", "BLACK DIAMOND SUIT", "WHITE CLUB SUIT", "HOT SPRINGS",
    "QUARTER NOTE", "EIGHTH NOTE", "BEAMED EIGHTH NOTES", "BEAMED SIXTEENTH NOTES",
    "MUSIC FLAT SIGN", "MUSIC NATURAL SIGN", "MUSIC SHARP SIGN"]),
  (0x3000, ["IDEOGRAPHIC SPACE", "IDEOGRAPHIC COMMA", "IDEOGRAPHIC FULL STOP"]),
  (0xff10, [
    "FULLWIDTH DIGIT ZERO", "FULLWIDTH DIGIT ONE", "FULLWIDTH DIGIT TWO", "FULLWIDTH DIGIT THREE",
    "FULLWIDTH DIGIT FOUR", "FULLWIDTH DIGIT FIVE", "FULLWIDTH DIGIT SIX", "FULLWIDTH DIGIT SEVEN",
    "FULLWIDTH DIGIT EIGHT", "FULLWIDTH DIGIT NINE"]),
  (0x1f600, [
    "GRINNING FACE", "GRINNING FACE WITH SMILING EYES", "FACE WITH TEARS OF JOY",
    "SMILING FACE WITH OPEN MOUTH", "SMILING FACE WITH OPEN MOUTH AND SMILING EYES",
    "SMILING FACE WITH OPEN MOUTH AND COLD SWEAT",
    "SMILING FACE WITH OPEN MOUTH AND TIGHTLY-CLOSED EYES", "SMILING FACE WITH HALO",
    "SMILING FACE WITH HORNS", "WINKING FACE", "SMILING FACE WITH SMILING EYES",
    "FACE SAVOURING DELICIOUS FOOD", "RELIEVED FACE", "SMILING FACE WITH HEART-SHAPED EYES",
    "SMILING FACE WITH SUNGLASSES", "SMIRKING FACE", "NEUTRAL FACE", "EXPRESSIONLESS FACE",
    "UNAMUSED FACE", "FACE WITH COLD SWEAT", "PENSIVE FACE", "CONFUSED FACE", "CONFOUNDED FACE",
    "KISSING FACE", "FACE THROWING A KISS", "KISSING FACE WITH SMILING EYES",
    "KISSING FACE WITH CLOSED EYES", "FACE WITH STUCK-OUT TONGUE",
    "FACE WITH STUCK-OUT TONGUE AND WINKING EYE",
    "FACE WITH STUCK-OUT TONGUE AND TIGHTLY-CLOSED EYES", "DISAPPOINTED FACE", "WORRIED FACE",
    "ANGRY FACE", "POUTING FACE", "CRYING FACE", "PERSEVERING FACE", "FACE WITH LOOK OF TRIUMPH",
    "DISAPPOINTED BUT RELIEVED FACE", "FROWNING FACE WITH OPEN MOUTH", "ANGUISHED FACE",
    "FEARFUL FACE", "WEARY FACE", "SLEEPY FACE", "TIRED FACE", "GRIMACING FACE",
    "LOUDLY CRYING FACE", "FACE WITH OPEN MOUTH", "HUSHED FACE",
    "FACE WITH OPEN MOUTH AND COLD SWEAT", "FACE SCREAMING IN FEAR", "ASTONISHED FACE",
    "FLUSHED FACE", "SLEEPING FACE", "DIZZY FACE", "FACE WITHOUT MOUTH", "FACE WITH MEDICAL MASK",
    "GRINNING CAT FACE WITH SMILING EYES", "CAT FACE WITH TEARS OF JOY",
    "SMILING CAT FACE WITH OPEN MOUTH", "SMILING CAT FACE WITH HEART-SHAPED EYES",
    "CAT FACE WITH WRY SMILE", "KISSING CAT FACE WITH CLOSED EYES", "POUTING CAT FACE",
    "CRYING CAT FACE", "WEARY CAT FACE", "SLIGHTLY FROWNING FACE", "SLIGHTLY SMILING FACE",
    "UPSIDE-DOWN FACE", "FACE WITH ROLLING EYES"])]

def nameAliases : List (String × Nat) := [
    ("DELETE", 0x7f), ("NEXT LINE", 0x85), ("TAB", 0x9), ("NEW LINE", 0xa), ("END OF LINE", 0xa),
    ("NUL", 0x0), ("HORIZONTAL TABULATION", 0x9), ("VERTICAL TABULATION", 0xb), ("NBSP", 0xa0),
    ("BYTE ORDER MARK", 0xfeff), ("ZERO WIDTH NO-BREAK SPACE", 0xfeff),
    ("REPLACEMENT CHARACTER", 0xfffd), ("LF", 0xa), ("CR", 0xd), ("ESC", 0x1b), ("DEL", 0x7f),
    ("BEL", 0x7), ("FF", 0xc), ("VT", 0xb), ("HT", 0x9), ("BS", 0x8), ("SP", 0x20),
    ("ZWSP", 0x200b), ("ZWJ", 0x200d), ("ZWNJ", 0x200c), ("NEL", 0x85), ("SHY", 0xad)]

def LetterNames.code? (letters : LetterNames) (name : String) : Option Nat :=
  letters.endings.zipIdx.findSome? fun (ending, place) =>
    if name == letters.script ++ " CAPITAL LETTER " ++ ending then
      some (letters.capital + place * letters.step)
    else if name == letters.script ++ " SMALL LETTER " ++ ending then
      some (letters.small + place * letters.step)
    else none

def ideographBlocks : List (Nat × Nat) := [
    (0x3400, 0x4dbf), (0x4e00, 0x9fff), (0x20000, 0x2a6df), (0x2a700, 0x2b738),
    (0x2b740, 0x2b81d), (0x2b820, 0x2cea1), (0x2ceb0, 0x2ebe0), (0x30000, 0x3134a)]

/-- The value of a digit or a capital letter as a digit of base sixteen. -/
def capitalHexValue? (character : Char) : Option Nat :=
  if '0' ≤ character ∧ character ≤ '9' then some (character.toNat - '0'.toNat)
  else if 'A' ≤ character ∧ character ≤ 'F' then some (character.toNat - 'A'.toNat + 10)
  else none

/-- The ideograph that is named by four or five digits. -/
def ideograph? (digits : List Char) : Option Nat := do
  let values ← digits.mapM capitalHexValue?
  let code := values.foldl (fun total value => total * 16 + value) 0
  if (digits.length = 4 ∨ digits.length = 5)
      ∧ ideographBlocks.any (fun block => block.1 ≤ code && code ≤ block.2) then
    some code
  else none

/-- The words before the code in the name of an ideograph. -/
def ideographWords : String := "CJK UNIFIED IDEOGRAPH-"

def codeNamed? (name : String) : Option Nat :=
  if name.startsWith ideographWords then
    ideograph? (name.toList.drop ideographWords.length)
  else
    let name := String.ofList (name.toList.map Char.toUpper)
    (letterNames.findSome? (·.code? name)).orElse fun _ =>
      (nameRows.findSome? fun row => (row.2.findIdx? (· == name)).map (row.1 + ·)).orElse fun _ =>
        (nameAliases.find? fun entry => entry.1 == name).map Prod.snd

end DocStore
