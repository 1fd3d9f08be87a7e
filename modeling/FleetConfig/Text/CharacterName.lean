import FleetConfig.Text.Hex
import FleetConfig.Text.Ranges
import FleetConfig.Text.Name.Alias
import FleetConfig.Text.Name.Ancient
import FleetConfig.Text.Name.Asian
import FleetConfig.Text.Name.Cuneiform
import FleetConfig.Text.Name.European
import FleetConfig.Text.Name.Kana
import FleetConfig.Text.Name.Notation
import FleetConfig.Text.Name.Pictograph
import FleetConfig.Text.Name.Presentation
import FleetConfig.Text.Name.Symbol

/-!
# Names of characters

A character has at most one name, and some have aliases.  The names of Hangul
syllables are put together from those of their letters, the names of ideographs
end in their code point, and all other names are listed.

A list of names is a list of lines, and a line is a row of items between
semicolons.  An item is the name of the character after the one of the item
before it, unless it starts with `@` and a code point of its own.  The words that
a name shares with the name before it are left out, and their number stands in
their place.
-/

namespace FleetConfig.Text

/-- The lists of names. -/
def nameLists : List (List String) :=
  [europeanNames, asianNames, symbolNames, kanaNames, presentationNames, ancientNames,
   cuneiformNames, notationNames, pictographNames, aliases]

/-- A character of a list and the words of its name. -/
structure NamedCharacter where
  code : Nat
  words : List String

namespace NamedCharacter

/-- The words of a name as a list writes it after this character. -/
def spellOut
    (before : NamedCharacter) :
    List Char → List String
  | [] =>
      []
  | first :: rest =>
      if first.isDigit then
        before.words.take (first.toNat - 48) ++ (String.ofList rest).splitOn " "
      else
        (String.ofList (first :: rest)).splitOn " "

/-- The character that an item of a list adds to it after this one. -/
def following
    (before : NamedCharacter)
    (item : String) :
    NamedCharacter :=
  match item.toList with
  | '@' :: rest =>
      let (digits, name) := rest.span (· ≠ ' ')
      ⟨(numberOfHex? digits).getD 0, before.spellOut (name.drop 1)⟩
  | name =>
      ⟨before.code + 1, before.spellOut name⟩

end NamedCharacter

/-- The code point of the first character with a name among those that items list after another one. -/
def codeAmong?
    (words : List String) :
    (before : NamedCharacter) → (items : List String) → Option Nat
  | _, [] =>
      none
  | before, item :: rest =>
      let character := before.following item
      if character.words = words then
        some character.code
      else
        codeAmong? words character rest

/-- The code point of a listed character. -/
def listedCode? (name : String) : Option Nat :=
  nameLists.findSome? fun lines =>
    codeAmong? (name.splitOn " ") ⟨0, []⟩ (lines.flatMap (·.splitOn ";"))

/-- The code point in one of some ranges that four or five hexadecimal digits denote. -/
def codeInRanges?
    (ranges : List (Nat × Nat))
    (digits : List Char) :
    Option Nat :=
  if digits.length = 4 || digits.length = 5 then
    (numberOfHex? digits).filter (inRanges ranges)
  else
    none

/-- The ideographs that are not there for compatibility. -/
def unifiedRanges : List (Nat × Nat) :=
  [(0x3400, 0x4DBF), (0x4E00, 0x9FFF), (0x20000, 0x2A6DF), (0x2A700, 0x2B738),
   (0x2B740, 0x2B81D), (0x2B820, 0x2CEA1), (0x2CEB0, 0x2EBE0), (0x30000, 0x3134A)]

/-- What precedes the code point in the names of other characters, with their ranges. -/
def numberedNames : List (String × List (Nat × Nat)) :=
  [("CJK COMPATIBILITY IDEOGRAPH-", [(0xF900, 0xFA6D), (0xFA70, 0xFAD9), (0x2F800, 0x2FA1D)]),
   ("KHITAN SMALL SCRIPT CHARACTER-", [(0x18B00, 0x18CD5)]),
   ("NUSHU CHARACTER-", [(0x1B170, 0x1B2FB)])]

/-- The rest of a text after the characters that it starts with. -/
def after? (start text : String) : Option (List Char) :=
  start.toList.isPrefixOf? text.toList

/-- The code point of a character whose name ends in it; no such code point has a leading zero. -/
def numberedCode? (name : String) : Option Nat :=
  numberedNames.findSome? fun (start, ranges) =>
    match after? start name with
    | some ('0' :: _) | none =>
        none
    | some digits =>
        codeInRanges? ranges digits

/-- The names of the letters that start a Hangul syllable. -/
def leadingLetters : List String :=
  ["G", "GG", "N", "D", "DD", "R", "M", "B", "BB", "S", "SS", "", "J", "JJ", "C", "K", "T", "P",
   "H"]

/-- The names of the vowels of a Hangul syllable. -/
def vowelLetters : List String :=
  ["A", "AE", "YA", "YAE", "EO", "E", "YEO", "YE", "O", "WA", "WAE", "OE", "YO", "U", "WEO", "WE",
   "WI", "YU", "EU", "YI", "I"]

/-- The names of the letters that end a Hangul syllable. -/
def trailingLetters : List String :=
  ["", "G", "GG", "GS", "N", "NJ", "NH", "D", "L", "LG", "LM", "LB", "LS", "LT", "LP", "LH", "M",
   "B", "BS", "S", "SS", "NG", "J", "C", "K", "T", "P", "H"]

/-- The place of the longest of some letters that characters start with, and the characters after it. -/
def longestLetter?
    (letters : List String)
    (characters : List Char) :
    Option (Nat × List Char) :=
  letters.zipIdx.foldl
    (fun longest? (letter, place) =>
      match letter.toList.isPrefixOf? characters, longest? with
      | some rest, some (_, shortest) =>
          if rest.length < shortest.length then
            some (place, rest)
          else
            longest?
      | some rest, none =>
          some (place, rest)
      | none, _ =>
          longest?)
    none

/-- The code point of the Hangul syllable whose letters have names. -/
def syllableCode? (characters : List Char) : Option Nat := do
  let (leading, characters) ← longestLetter? leadingLetters characters
  let (vowel, characters) ← longestLetter? vowelLetters characters
  let (trailing, characters) ← longestLetter? trailingLetters characters
  if characters.isEmpty then
    some (0xAC00 + (21 * leading + vowel) * 28 + trailing)
  else
    none

/--
The code point of the character with a name or an alias.  The letter case of a
name does not count, except in the names of syllables and of unified ideographs.
-/
def codeNamed? (name : String) : Option Nat :=
  match after? "HANGUL SYLLABLE " name, after? "CJK UNIFIED IDEOGRAPH-" name with
  | some letters, _ =>
      syllableCode? letters
  | none, some digits =>
      if digits.any Char.isLower then
        none
      else
        codeInRanges? unifiedRanges digits
  | none, none =>
      let name := name.toUpper
      (numberedCode? name).or (listedCode? name)

end FleetConfig.Text
