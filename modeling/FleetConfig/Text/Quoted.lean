import FleetConfig.Text.Hex
import FleetConfig.Text.Printable

/-!
# Quoted text

Text as it is quoted in messages: between apostrophes, or between quotation
marks when it holds an apostrophe and no quotation mark.  The backslash, the
quote in use, line breaks and tabs are escaped by name; other characters that
do not print are escaped by number.
-/

namespace FleetConfig.Text

/-- The quote that surrounds a text. -/
def quoteFor (characters : List Char) : Char :=
  if characters.contains '\'' && !characters.contains '"' then '"' else '\''

/-- One character of a quoted text. -/
def quotedCharacter (quote character : Char) : List Char :=
  if character == quote || character == '\\' then
    ['\\', character]
  else if character == '\n' then
    ['\\', 'n']
  else if character == '\r' then
    ['\\', 'r']
  else if character == '\t' then
    ['\\', 't']
  else if isPrintable character then
    [character]
  else if character.toNat < 0x100 then
    '\\' :: 'x' :: hexDigits 2 character.toNat
  else if character.toNat < 0x10000 then
    '\\' :: 'u' :: hexDigits 4 character.toNat
  else
    '\\' :: 'U' :: hexDigits 8 character.toNat

/-- A text between quotes, with escapes. -/
def quoted (text : String) : String :=
  let characters := text.toList
  let quote := quoteFor characters
  String.ofList (quote :: characters.flatMap (quotedCharacter quote) ++ [quote])

end FleetConfig.Text
