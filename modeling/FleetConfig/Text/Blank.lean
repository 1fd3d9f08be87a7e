/-!
# Blank characters

Blanks are the characters that separate words: the ASCII blanks, the four
information separators, the next-line and no-break characters, and the blanks
of the space, line and paragraph separator categories.
-/

namespace FleetConfig.Text

/-- The code points of the blank characters, ascending. -/
def blankCodes : List Nat :=
  [0x9, 0xA, 0xB, 0xC, 0xD, 0x1C, 0x1D, 0x1E, 0x1F, 0x20, 0x85, 0xA0, 0x1680, 0x2000, 0x2001,
   0x2002, 0x2003, 0x2004, 0x2005, 0x2006, 0x2007, 0x2008, 0x2009, 0x200A, 0x2028, 0x2029,
   0x202F, 0x205F, 0x3000]

/-- Whether a character is blank. -/
def isBlank (character : Char) : Bool :=
  blankCodes.contains character.toNat

/-- Drop the characters of a kind at both ends of a list of characters. -/
def stripWhile
    (drops : Char → Bool)
    (characters : List Char) :
    List Char :=
  ((characters.dropWhile drops).reverse.dropWhile drops).reverse

/-- Drop the blanks at both ends of a list of characters. -/
def stripBlanks (characters : List Char) : List Char :=
  stripWhile isBlank characters

/-- Drop the blanks at both ends of a text. -/
def strip (text : String) : String :=
  String.ofList (stripBlanks text.toList)

/-- Whether a character is blank beside a number; the information separators are not. -/
def isBlankByNumber (character : Char) : Bool :=
  isBlank character && !(0x1C ≤ character.toNat && character.toNat ≤ 0x1F)

/-- Whether a text holds nothing but blanks. -/
def isAllBlank (text : String) : Bool :=
  text.toList.all isBlank

end FleetConfig.Text
