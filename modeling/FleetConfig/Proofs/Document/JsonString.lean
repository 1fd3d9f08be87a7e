import FleetConfig.Document.Json
import FleetConfig.Value.Json

/-!
# JSON strings read back

A text that is written as a JSON string is read back character by character.
Escapes are the point: a character beyond the first sixteen bits is written as a
pair of halves, and only there do halves occur.
-/

namespace FleetConfig

namespace Text

theorem hexValue?_hexDigit
    {number : Nat}
    (small : number < 16) :
    hexValue? (hexDigit number) = some number := by
  have all : ∀ digit : Fin 16, hexValue? (hexDigit digit) = some digit.val := by
    decide
  exact all ⟨number, small⟩

/-- Hexadecimal digits denote the part of a number that they have room for. -/
theorem numberOfHex?_hexDigits
    (width number : Nat) :
    numberOfHex? (hexDigits width number) =
      some (number % Nat.pow 16 width) := by
  induction width generalizing number with
  | zero =>
      simp [hexDigits, numberOfHex?, Nat.mod_one]
  | succ width inductionHypothesis =>
      have digit := hexValue?_hexDigit (Nat.mod_lt number (by decide : 16 > 0))
      have earlier := inductionHypothesis (number / 16)
      have power : Nat.pow 16 (width + 1) = 16 * Nat.pow 16 width :=
        Nat.pow_succ'
      unfold numberOfHex? at earlier ⊢
      rw [hexDigits, List.foldlM_append, earlier, power, Nat.mod_mul]
      simp [digit, Nat.add_comm]

end Text

namespace Json

/-- Four hexadecimal digits are read back as the unit that they denote. -/
theorem readUnit?_hexDigits
    {unit : Nat}
    (small : unit < 0x10000)
    (rest : List Char) :
    readUnit? (Text.hexDigits 4 unit ++ rest) = some (unit, rest) := by
  have digits :
      Text.numberOfHex? (Text.hexDigits 4 unit) = some unit := by
    rw [Text.numberOfHex?_hexDigits]
    exact congrArg some (Nat.mod_eq_of_lt small)
  change (Text.numberOfHex? (Text.hexDigits 4 unit)).map (·, rest) = _
  rw [digits]
  rfl

theorem isHighHalf_iff
    {unit : Nat} :
    isHighHalf unit = true ↔ 0xD800 ≤ unit ∧ unit ≤ 0xDBFF := by
  simp [isHighHalf]

theorem isLowHalf_iff
    {unit : Nat} :
    isLowHalf unit = true ↔ 0xDC00 ≤ unit ∧ unit ≤ 0xDFFF := by
  simp [isLowHalf]

/-- A character of sixteen bits is no half of a pair, so its escape stands for it alone. -/
theorem readNumberedEscape?_unit
    {character : Char}
    (small : character.toNat < 0x10000)
    (rest : List Char) :
    readNumberedEscape? (Text.hexDigits 4 character.toNat ++ rest) =
      some (character, rest) := by
  have valid : character.toNat.isValidChar := character.valid
  have notHigh : isHighHalf character.toNat = false := by
    rw [Bool.eq_false_iff, ne_eq, isHighHalf_iff]
    omega
  have notLow : isLowHalf character.toNat = false := by
    rw [Bool.eq_false_iff, ne_eq, isLowHalf_iff]
    omega
  have same : characterOfUnit character.toNat = character := by
    unfold characterOfUnit
    rw [notHigh, notLow]
    exact Char.ofNat_toNat character
  unfold readNumberedEscape?
  rw [readUnit?_hexDigits small]
  simp only [notHigh, same]

/-- Two halves are joined to one character. -/
theorem readNumberedEscape?_halves
    {high low : Nat}
    (isHigh : isHighHalf high = true)
    (isLow : isLowHalf low = true)
    (rest : List Char) :
    readNumberedEscape?
        (Text.hexDigits 4 high ++ (Text.jsonUnit low ++ rest)) =
      some
        (Char.ofNat
          (0x10000 + (high - 0xD800) * 0x400 + (low - 0xDC00)), rest) := by
  have highSmall : high < 0x10000 := by
    have := isHighHalf_iff.mp isHigh
    omega
  have lowSmall : low < 0x10000 := by
    have := isLowHalf_iff.mp isLow
    omega
  unfold readNumberedEscape?
  rw [readUnit?_hexDigits highSmall]
  simp only [Text.jsonUnit, List.cons_append, isHigh,
    readUnit?_hexDigits lowSmall, isLow, ↓reduceIte]

/-- A character beyond sixteen bits is split into two halves that are joined to it. -/
theorem halves_eq
    {code : Nat}
    (large : 0x10000 ≤ code)
    (valid : code.isValidChar) :
    isHighHalf (0xD800 + (code - 0x10000) / 0x400) = true ∧
      isLowHalf (0xDC00 + (code - 0x10000) % 0x400) = true ∧
      0x10000 +
          (0xD800 + (code - 0x10000) / 0x400 - 0xD800) * 0x400 +
          (0xDC00 + (code - 0x10000) % 0x400 - 0xDC00) =
        code := by
  rw [isHighHalf_iff, isLowHalf_iff]
  omega

theorem readString_end
    (budget : Nat)
    (read rest : List Char) :
    readString (budget + 1) read ('"' :: rest) =
      .ok (String.ofList read.reverse, rest) :=
  rfl

theorem readString_plain
    {character : Char}
    (notQuote : character ≠ '"')
    (notBackslash : character ≠ '\\')
    (notControl : 32 ≤ character.toNat)
    (budget : Nat)
    (read rest : List Char) :
    readString (budget + 1) read (character :: rest) =
      readString budget (character :: read) rest := by
  rw [readString.eq_def]
  dsimp only
  rw [if_neg notQuote, if_neg notBackslash,
    if_neg (Nat.not_lt.mpr notControl)]

theorem readString_letter
    {letter escaped : Char}
    (stands : escaped? letter = some escaped)
    (budget : Nat)
    (read rest : List Char) :
    readString (budget + 1) read ('\\' :: letter :: rest) =
      readString budget (escaped :: read) rest := by
  rw [readString.eq_def]
  dsimp only
  rw [if_neg (by decide), if_pos rfl]
  split
  case h_1 numbered =>
    cases numbered
    contradiction
  case h_2 single =>
    cases single
    simp only [stands]
  case h_3 =>
    contradiction

theorem readString_numbered
    {escaped : Char}
    {digits rest : List Char}
    (stands : readNumberedEscape? digits = some (escaped, rest))
    (budget : Nat)
    (read : List Char) :
    readString (budget + 1) read ('\\' :: 'u' :: digits) =
      readString budget (escaped :: read) rest := by
  rw [readString, if_neg (by decide), if_pos rfl]
  simp only [stands]

/-- A written character is read back in one step. -/
theorem readString_jsonCharacter
    (budget : Nat)
    (read : List Char)
    (character : Char)
    (rest : List Char) :
    readString (budget + 1) read (Text.jsonCharacter character ++ rest) =
      readString budget (character :: read) rest := by
  unfold Text.jsonCharacter
  dsimp only
  split
  case isTrue quoted =>
    rw [Bool.or_eq_true, beq_iff_eq, beq_iff_eq] at quoted
    rcases quoted with rfl | rfl
    · exact readString_letter rfl budget read rest
    · exact readString_letter rfl budget read rest
  case isFalse notQuoted =>
  rw [Bool.or_eq_true, beq_iff_eq, beq_iff_eq, not_or] at notQuoted
  split
  case isTrue printable =>
    rw [Bool.and_eq_true, decide_eq_true_iff, decide_eq_true_iff] at printable
    have notControl : 32 ≤ character.toNat := printable.1
    exact readString_plain notQuoted.1 notQuoted.2 notControl budget read rest
  case isFalse =>
  split
  case isTrue newline =>
    rw [eq_of_beq newline]
    exact readString_letter rfl budget read rest
  case isFalse =>
  split
  case isTrue carriageReturn =>
    rw [eq_of_beq carriageReturn]
    exact readString_letter rfl budget read rest
  case isFalse =>
  split
  case isTrue tab =>
    rw [eq_of_beq tab]
    exact readString_letter rfl budget read rest
  case isFalse =>
  split
  case isTrue backspace =>
    rw [← Char.ofNat_toNat character, backspace]
    exact readString_letter rfl budget read rest
  case isFalse =>
  split
  case isTrue formFeed =>
    rw [← Char.ofNat_toNat character, formFeed]
    exact readString_letter rfl budget read rest
  case isFalse =>
  split
  case isTrue small =>
    exact readString_numbered (readNumberedEscape?_unit small rest) budget read
  case isFalse large =>
    obtain ⟨isHigh, isLow, together⟩ :=
      halves_eq (Nat.not_lt.mp large) character.valid
    have escape := readNumberedEscape?_halves isHigh isLow rest
    rw [together, Char.ofNat_toNat] at escape
    rw [List.append_assoc]
    exact readString_numbered escape budget read

/-- A written text is read back up to its closing quotation mark. -/
theorem readString_flatMap
    {budget : Nat}
    {characters : List Char}
    (enough : characters.length < budget)
    (read rest : List Char) :
    readString budget read
        (characters.flatMap Text.jsonCharacter ++ '"' :: rest) =
      .ok (String.ofList (read.reverse ++ characters), rest) := by
  induction characters generalizing budget read with
  | nil =>
      obtain ⟨budget, rfl⟩ :=
        Nat.exists_eq_succ_of_ne_zero (Nat.ne_zero_of_lt enough)
      rw [List.append_nil]
      exact readString_end budget read rest
  | cons character characters inductionHypothesis =>
      obtain ⟨budget, rfl⟩ :=
        Nat.exists_eq_succ_of_ne_zero (Nat.ne_zero_of_lt enough)
      rw [List.flatMap_cons, List.append_assoc, readString_jsonCharacter,
        inductionHypothesis (Nat.lt_of_succ_lt_succ enough),
        List.reverse_cons, List.append_assoc]
      rfl

end Json

/-- What a JSON string begins with tells which text it holds and where it ends. -/
theorem Text.jsonString_append_inj
    {left right : String}
    {leftRest rightRest : List Char}
    (same :
      jsonString left ++ leftRest = jsonString right ++ rightRest) :
    left = right ∧ leftRest = rightRest := by
  let budget := left.toList.length + right.toList.length + 1
  have enoughLeft : left.toList.length < budget := by
    omega
  have enoughRight : right.toList.length < budget := by
    omega
  have readLeft := Json.readString_flatMap enoughLeft [] leftRest
  have readRight := Json.readString_flatMap enoughRight [] rightRest
  simp only [jsonString, List.cons_append, List.append_assoc,
    List.nil_append, List.cons.injEq, true_and] at same
  rw [same, readRight] at readLeft
  simp only [List.reverse_nil, List.nil_append, String.ofList_toList,
    Except.ok.injEq, Prod.mk.injEq] at readLeft
  exact ⟨readLeft.1.symm, readLeft.2.symm⟩

end FleetConfig
