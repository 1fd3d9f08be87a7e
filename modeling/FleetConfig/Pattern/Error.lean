import FleetConfig.Pattern.Syntax

/-!
# Errors in patterns

A pattern that does not follow the notation is invalid, for a reason and mostly
at a position.  A few patterns are worse than invalid: a number in them is out
of all bounds or they ask for two character sets at once.  These are fatal and
stop the evaluation that needed the pattern.
-/

namespace FleetConfig.Pattern

/-- Why a pattern is invalid. -/
inductive Reason where
  | escapeAtEnd
  | badEscape (escape : String)
  | incompleteEscape (escape : String)
  | octalOutOfRange (escape : String)
  | missing (what : String)
  | unterminatedName (terminator : Char)
  | unknownCharacterName (name : String)
  | badGroupName (name : String)
  | unknownGroupName (name : String)
  | redefinedGroup (name : String) (group earlier : Nat)
  | badGroupNumber
  | unknownGroup (group : Int)
  | openGroup
  | groupInSameLookBehind
  | unterminatedSet
  | badRange (first last : String)
  | nothingToRepeat
  | multipleRepeat
  | leastAboveMost
  | unexpectedEnd
  | unknownExtension (extension : String)
  | unterminatedComment
  | unterminatedGroup
  | unbalancedParenthesis
  | tooManyBranches
  | localeOption
  | incompatibleOptions
  | characterSetTurnedOff
  | globalOptionTurnedOn
  | globalOptionTurnedOff
  | optionTurnedOnAndOff
  | unknownOption
  | optionsNotAtStart
  | lookBehindTooLong
  | variableLookBehind
  | repeatForbidden (greed : Greed)
  deriving Repr, DecidableEq

/-- The name of a kind of repetition where repetitions are forbidden. -/
def Greed.operator : Greed → String
  | .greedy =>
      "MAX_REPEAT"
  | .lazy =>
      "MIN_REPEAT"
  | .possessive =>
      "POSSESSIVE_REPEAT"

/-- The message for a reason, without the position. -/
def Reason.message : Reason → String
  | .escapeAtEnd =>
      "bad escape (end of pattern)"
  | .badEscape escape =>
      "bad escape " ++ escape
  | .incompleteEscape escape =>
      "incomplete escape " ++ escape
  | .octalOutOfRange escape =>
      s!"octal escape value {escape} outside of range 0-0o377"
  | .missing what =>
      "missing " ++ what
  | .unterminatedName terminator =>
      s!"missing {terminator}, unterminated name"
  | .unknownCharacterName name =>
      "undefined character name " ++ Text.quoted name
  | .badGroupName name =>
      "bad character in group name " ++ Text.quoted name
  | .unknownGroupName name =>
      "unknown group name " ++ Text.quoted name
  | .redefinedGroup name group earlier =>
      "redefinition of group name " ++ Text.quoted name ++
        s!" as group {group}; was group {earlier}"
  | .badGroupNumber =>
      "bad group number"
  | .unknownGroup group =>
      s!"invalid group reference {group}"
  | .openGroup =>
      "cannot refer to an open group"
  | .groupInSameLookBehind =>
      "cannot refer to group defined in the same lookbehind subpattern"
  | .unterminatedSet =>
      "unterminated character set"
  | .badRange first last =>
      s!"bad character range {first}-{last}"
  | .nothingToRepeat =>
      "nothing to repeat"
  | .multipleRepeat =>
      "multiple repeat"
  | .leastAboveMost =>
      "min repeat greater than max repeat"
  | .unexpectedEnd =>
      "unexpected end of pattern"
  | .unknownExtension extension =>
      "unknown extension " ++ extension
  | .unterminatedComment =>
      "missing ), unterminated comment"
  | .unterminatedGroup =>
      "missing ), unterminated subpattern"
  | .unbalancedParenthesis =>
      "unbalanced parenthesis"
  | .tooManyBranches =>
      "conditional backref with more than two branches"
  | .localeOption =>
      "bad inline flags: cannot use 'L' flag with a str pattern"
  | .incompatibleOptions =>
      "bad inline flags: flags 'a', 'u' and 'L' are incompatible"
  | .characterSetTurnedOff =>
      "bad inline flags: cannot turn off flags 'a', 'u' and 'L'"
  | .globalOptionTurnedOn =>
      "bad inline flags: cannot turn on global flag"
  | .globalOptionTurnedOff =>
      "bad inline flags: cannot turn off global flag"
  | .optionTurnedOnAndOff =>
      "bad inline flags: flag turned on and off"
  | .unknownOption =>
      "unknown flag"
  | .optionsNotAtStart =>
      "global flags not at the start of the expression"
  | .lookBehindTooLong =>
      "looks too much behind"
  | .variableLookBehind =>
      "look-behind requires fixed-width pattern"
  | .repeatForbidden greed =>
      "internal: unsupported template operator " ++ greed.operator

/-- A reason with the position it was found at, if it has one. -/
structure Invalid where
  reason : Reason
  position? : Option Nat
  deriving Repr, DecidableEq

/-- Why a pattern stops the evaluation that needed it. -/
inductive Fatal where
  | repetitionTooLarge
  | codePointTooLarge
  | incompatibleCharacterSets
  | unreadableRepetition (reason : IntegerTextError)
  deriving Repr, DecidableEq

/-- What can be wrong with a pattern. -/
inductive Fault where
  | invalid (invalid : Invalid)
  | fatal (fatal : Fatal)
  deriving Repr, DecidableEq

/-- The message for an invalid pattern; in a pattern of several lines it names line and column. -/
def Invalid.message
    (invalid : Invalid)
    (pattern : String) :
    String :=
  match invalid.position? with
  | none =>
      invalid.reason.message
  | some position =>
      let before := pattern.toList.take position
      let line := before.count '\n' + 1
      let column := (before.reverse.takeWhile (· != '\n')).length + 1
      let located := s!"{invalid.reason.message} at position {position}"
      if pattern.toList.contains '\n' then
        s!"{located} (line {line}, column {column})"
      else
        located

end FleetConfig.Pattern
