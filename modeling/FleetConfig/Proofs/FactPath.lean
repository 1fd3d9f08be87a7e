import FleetConfig.FactPath
import FleetConfig.Proofs.Number.IntegerText

/-!
# The grammar of fact paths

A fact path starts with a key or an index.  Each segment after the first is a period
and a key, or an index.  The reader accepts exactly the paths of this grammar that are
not blank, and returns the segments that the grammar assigns to them.  In particular
it reads back the segments of a written path.
-/

namespace FleetConfig

namespace Segment

/-- Whether a key may hold a character. -/
def isKeyCharacter (character : Char) : Bool :=
  character != '.' && character != '[' && character != ']'

/-- What stands between a key and the segment before it. -/
def separator : (isFirst : Bool) → List Char
  | true =>
      []
  | false =>
      ['.']

/-- The texts between the brackets of an index, each with the number that it denotes. -/
inductive Denotes : List Char → Int → Prop where
  | digits
      {before row after : List Char}
      (blankBefore : Text.AreBlank before)
      (notEmpty : row ≠ [])
      (areDigits : ∀ character ∈ row, Text.isDigit character = true)
      (short : row.length ≤ integerDigitLimit)
      (blankAfter : Text.AreBlank after) :
      Denotes (before ++ row ++ after) (Text.numberOfDigits row)

/--
The paths, each with its segments, and the rests of paths after a segment.  A path
has a first segment, while a rest may be empty.
-/
inductive IsPath : (isFirst : Bool) → List Segment → List Char → Prop where
  | done :
      IsPath false [] []
  | key
      {isFirst : Bool}
      {name rest : List Char}
      {later : List Segment}
      (notEmpty : name ≠ [])
      (plain : ∀ character ∈ name, isKeyCharacter character = true)
      (path : IsPath false later rest) :
      IsPath isFirst (.key (String.ofList name) :: later)
        (separator isFirst ++ (name ++ rest))
  | index
      {isFirst : Bool}
      {inside rest : List Char}
      {number : Int}
      {later : List Segment}
      (denotes : Denotes inside number)
      (path : IsPath false later rest) :
      IsPath isFirst (.index number :: later) ('[' :: (inside ++ ']' :: rest))

/-! ## The text of an index -/

section Index

variable {path : String} {inside : List Char} {segment : Segment}

theorem Denotes.not_mem_bracket
    {number : Int}
    (denotes : Denotes inside number) :
    ']' ∉ inside := by
  cases denotes with
  | digits blankBefore _ areDigits _ blankAfter =>
      intro member
      rcases List.mem_append.mp member with early | late
      · rcases List.mem_append.mp early with inBefore | inRow
        · exact absurd (blankBefore ']' inBefore) (by decide)
        · exact absurd (areDigits ']' inRow) (by decide)
      · exact absurd (blankAfter ']' late) (by decide)

/-- The text between brackets is read as the number that it denotes. -/
theorem readIndex_eq_ok_iff :
    readIndex path inside = .ok segment ↔
      ∃ number, segment = .index number ∧ Denotes inside number := by
  constructor
  · intro isRead
    unfold readIndex at isRead
    dsimp only at isRead
    split at isRead
    case isTrue =>
      cases isRead
    case isFalse areFigures =>
      replace areFigures :
          ∀ character ∈ Text.stripBlanks inside, Text.isFigure character = true := by
        simp_all
      split at isRead
      case h_2 =>
        cases isRead
      case h_1 number readNumber =>
        obtain ⟨before, after, parts, blankBefore, blankAfter⟩ :=
          Text.exists_eq_append_stripBlanks inside
        obtain ⟨notEmpty, areDigits, short, isNumber⟩ :=
          (readInteger_eq_ok_iff areFigures).mp readNumber
        have denotes :=
          Denotes.digits blankBefore notEmpty areDigits short blankAfter
        rw [← parts, ← isNumber] at denotes
        exact ⟨number, (Except.ok.inj isRead).symm, denotes⟩
  · rintro ⟨_, rfl, ⟨blankBefore, notEmpty, areDigits, short, blankAfter⟩⟩
    rename_i before row after
    have areFigures : ∀ character ∈ row, Text.isFigure character = true :=
      fun character member => Text.isFigure_of_isDigit (areDigits character member)
    have stripped : Text.stripBlanks (before ++ row ++ after) = row :=
      Text.stripBlanks_append blankBefore
        (fun character member =>
          Text.isBlank_of_isFigure (areFigures character member))
        notEmpty blankAfter
    have readNumber :
        readInteger (String.ofList row) = .ok (Text.numberOfDigits row) :=
      (readInteger_eq_ok_iff areFigures).mpr ⟨notEmpty, areDigits, short, rfl⟩
    unfold readIndex
    rw [stripped]
    dsimp only
    rw [if_neg (by simpa [notEmpty] using areFigures), readNumber]

end Index

/-! ## How paths begin -/

/-- What passes a test up to where it first fails is determined by the whole. -/
theorem eq_of_append_eq
    {holds : Char → Bool}
    {first first' rest rest' : List Char}
    (pass : ∀ character ∈ first, holds character = true)
    (pass' : ∀ character ∈ first', holds character = true)
    (ends : ∀ character ∈ rest.head?, holds character = false)
    (ends' : ∀ character ∈ rest'.head?, holds character = false)
    (same : first ++ rest = first' ++ rest') :
    first = first' ∧ rest = rest' := by
  have takesFirst :
      ∀ {start rest : List Char},
        (∀ character ∈ start, holds character = true) →
        (∀ character ∈ rest.head?, holds character = false) →
        (start ++ rest).takeWhile holds = start := by
    intro start rest pass ends
    rw [List.takeWhile_append_of_pos pass]
    cases rest with
    | nil =>
        rw [List.takeWhile_nil, List.append_nil]
    | cons next others =>
        rw [List.takeWhile_cons_of_neg
          (Bool.eq_false_iff.mp (ends next rfl)), List.append_nil]
  have sameFirst : first = first' := by
    rw [← takesFirst pass ends, same, takesFirst pass' ends']
  subst sameFirst
  exact ⟨rfl, List.append_cancel_left same⟩

namespace IsPath

variable {isFirst : Bool}
  {more : List Segment}
  {characters name inside rest : List Char}

theorem nil_iff :
    IsPath false more [] ↔ more = [] := by
  constructor
  · intro path
    generalize same : [] = characters at path
    cases path with
    | done =>
        rfl
    | key =>
        contradiction
    | index =>
        contradiction
  · rintro rfl
    exact .done

/-- A rest starts with a period or an opening bracket. -/
theorem head_rest
    (path : IsPath false more rest) :
    ∀ character ∈ rest.head?, character = '.' ∨ character = '[' := by
  cases path with
  | done =>
      simp
  | key =>
      simp [separator]
  | index =>
      simp

theorem not_isKeyCharacter_head
    (path : IsPath false more rest) :
    ∀ character ∈ rest.head?, isKeyCharacter character = false := by
  intro character member
  rcases path.head_rest character member with rfl | rfl <;> rfl

/-- Where a key may stand, and no index stands first, a key does stand. -/
theorem exists_key
    (path : IsPath isFirst more (separator isFirst ++ characters))
    (noIndex : isFirst = true → characters.head? ≠ some '[') :
    ∃ name rest later,
      name ≠ [] ∧
        (∀ character ∈ name, isKeyCharacter character = true) ∧
        characters = name ++ rest ∧
        more = .key (String.ofList name) :: later ∧
        IsPath false later rest := by
  generalize same : separator isFirst ++ characters = whole at path
  cases path with
  | done =>
      contradiction
  | key notEmpty plain path =>
      exact ⟨_, _, _, notEmpty, plain, List.append_cancel_left same, rfl, path⟩
  | index =>
      cases isFirst with
      | true =>
          exact absurd (congrArg List.head? same) (noIndex rfl)
      | false =>
          exact absurd (List.cons.inj same).1 (by decide)

/-- After an opening bracket the text of an index goes on to a closing one. -/
theorem exists_index
    (path : IsPath isFirst more ('[' :: characters)) :
    ∃ inside rest number later,
      Denotes inside number ∧
        characters = inside ++ ']' :: rest ∧
        more = .index number :: later ∧
        IsPath false later rest := by
  generalize same : '[' :: characters = whole at path
  cases path with
  | done =>
      contradiction
  | key notEmpty plain =>
      rename_i name rest later path
      obtain ⟨first, others, rfl⟩ := List.exists_cons_of_ne_nil notEmpty
      have notBracket : '[' ≠ first := by
        rintro rfl
        exact absurd (plain '[' List.mem_cons_self) (by decide)
      cases isFirst with
      | true =>
          exact absurd (List.cons.inj same).1 notBracket
      | false =>
          exact absurd (List.cons.inj same).1 (by decide)
  | index denotes path =>
      exact ⟨_, _, _, _, denotes, (List.cons.inj same).2, rfl, path⟩

/-- A key reaches up to the first character that it cannot hold. -/
theorem key_iff
    (notEmpty : name ≠ [])
    (plain : ∀ character ∈ name, isKeyCharacter character = true)
    (ends : ∀ character ∈ rest.head?, isKeyCharacter character = false) :
    IsPath isFirst more (separator isFirst ++ (name ++ rest)) ↔
      ∃ later,
        more = .key (String.ofList name) :: later ∧ IsPath false later rest := by
  constructor
  · intro path
    have noIndex : (name ++ rest).head? ≠ some '[' := by
      obtain ⟨first, others, rfl⟩ := List.exists_cons_of_ne_nil notEmpty
      intro isBracket
      cases isBracket
      exact absurd (plain '[' List.mem_cons_self) (by decide)
    obtain ⟨name', rest', later, -, plain', same, rfl, onward⟩ :=
      path.exists_key fun _ => noIndex
    obtain ⟨rfl, rfl⟩ :=
      eq_of_append_eq plain plain' ends onward.not_isKeyCharacter_head same
    exact ⟨later, rfl, onward⟩
  · rintro ⟨later, rfl, path⟩
    exact .key notEmpty plain path

/-- Where a key may stand, neither the end nor a character outside keys may stand. -/
theorem not_separator
    (ends : ∀ character ∈ characters.head?, isKeyCharacter character = false)
    (noIndex : isFirst = true → characters.head? ≠ some '[') :
    ¬ IsPath isFirst more (separator isFirst ++ characters) := by
  intro path
  obtain ⟨name, rest, later, notEmpty, plain, rfl, -, -⟩ :=
    path.exists_key noIndex
  obtain ⟨first, others, rfl⟩ := List.exists_cons_of_ne_nil notEmpty
  have fails := ends first rfl
  rw [plain first List.mem_cons_self] at fails
  contradiction

/-- An index reaches up to the first closing bracket. -/
theorem index_iff
    (noBracket : ']' ∉ inside) :
    IsPath isFirst more ('[' :: (inside ++ ']' :: rest)) ↔
      ∃ number later,
        Denotes inside number ∧
          more = .index number :: later ∧
          IsPath false later rest := by
  have passes :
      ∀ {row : List Char},
        ']' ∉ row → ∀ character ∈ row, (character != ']') = true := by
    intro row absent character member
    rw [bne_iff_ne]
    rintro rfl
    exact absent member
  constructor
  · intro path
    obtain ⟨inside', rest', number, later, denotes, same, rfl, onward⟩ :=
      path.exists_index
    obtain ⟨rfl, sameRest⟩ :=
      eq_of_append_eq (passes noBracket) (passes denotes.not_mem_bracket)
        (by simp) (by simp) same
    obtain ⟨-, rfl⟩ := List.cons.inj sameRest
    exact ⟨number, later, denotes, rfl, onward⟩
  · rintro ⟨number, later, denotes, rfl, path⟩
    exact .index denotes path

end IsPath

/-! ## Reading along the grammar -/

namespace Reading

/-- The characters that a reader has read of the segment that it is in the middle of. -/
def pending (isFirst : Bool) : Reading → List Char
  | .keyExpected =>
      separator isFirst
  | .inKey read =>
      separator isFirst ++ read.reverse
  | .inIndex read =>
      '[' :: read.reverse
  | .indexDone =>
      []

/-- What holds of the characters that a reader has read of a segment. -/
def WellFormed (isFirst : Bool) : Reading → Prop
  | .keyExpected =>
      True
  | .inKey read =>
      read ≠ [] ∧ ∀ character ∈ read, isKeyCharacter character = true
  | .inIndex read =>
      ']' ∉ read
  | .indexDone =>
      isFirst = false

end Reading

/--
What a reader returns when it adds the segments that the grammar assigns to what is
pending and what remains.
-/
def Reading.Assigns
    (reading : Reading)
    (segments result : List Segment)
    (characters : List Char) :
    Prop :=
  ∃ more,
    result = segments.reverse ++ more ∧
      IsPath segments.isEmpty more (reading.pending segments.isEmpty ++ characters)

section Step

variable {path : String}
  {position : Nat}
  {reading : Reading}
  {segments result : List Segment}
  {character : Char}
  {read rest characters : List Char}

theorem error_eq_ok_iff
    {reason : FactPathError}
    (noPath :
      ∀ more,
        ¬ IsPath segments.isEmpty more
          (reading.pending segments.isEmpty ++ characters)) :
    .error reason = (.ok result : Except FactPathError (List Segment)) ↔
      reading.Assigns segments result characters :=
  ⟨nofun, fun ⟨more, _, isPath⟩ => absurd isPath (noPath more)⟩

/-- Between two segments nothing but a period or an opening bracket may stand. -/
theorem error_eq_ok_iff_done
    {reason : FactPathError}
    (notEmpty : segments.isEmpty = false)
    (noPeriod : character ≠ '.')
    (noOpening : character ≠ '[') :
    .error reason = (.ok result : Except FactPathError (List Segment)) ↔
      Reading.indexDone.Assigns segments result (character :: rest) := by
  apply error_eq_ok_iff
  intro more isPath
  rw [notEmpty] at isPath
  rcases isPath.head_rest character rfl with isPeriod | isOpening
  · exact noPeriod isPeriod
  · exact noOpening isOpening

/-- A key that is complete is the next segment. -/
theorem assigns_inKey_iff
    (wellFormed : (Reading.inKey read).WellFormed segments.isEmpty)
    (ends : ∀ character ∈ rest.head?, isKeyCharacter character = false) :
    (Reading.inKey read).Assigns segments result rest ↔
      Reading.indexDone.Assigns (.key (String.ofList read.reverse) :: segments)
        result rest := by
  obtain ⟨notEmpty, plain⟩ := wellFormed
  have next :
      ∀ more,
        IsPath segments.isEmpty more
            (separator segments.isEmpty ++ (read.reverse ++ rest)) ↔
          ∃ later,
            more = .key (String.ofList read.reverse) :: later ∧
              IsPath false later rest :=
    fun more =>
      IsPath.key_iff (List.reverse_ne_nil_iff.mpr notEmpty)
        (fun character member => plain character (List.mem_reverse.mp member)) ends
  unfold Reading.Assigns
  simp only [Reading.pending, List.append_assoc, next]
  constructor
  · rintro ⟨_, rfl, later, rfl, onward⟩
    exact ⟨later, by simp, onward⟩
  · rintro ⟨later, rfl, onward⟩
    exact ⟨.key (String.ofList read.reverse) :: later, by simp, later, rfl, onward⟩

/-- An index that is complete is the next segment. -/
theorem assigns_inIndex_iff
    (path : String)
    (wellFormed : (Reading.inIndex read).WellFormed segments.isEmpty) :
    (Reading.inIndex read).Assigns segments result (']' :: rest) ↔
      ∃ segment,
        readIndex path read.reverse = .ok segment ∧
          Reading.indexDone.Assigns (segment :: segments) result rest := by
  have noBracket : ']' ∉ read.reverse := fun member =>
    wellFormed (List.mem_reverse.mp member)
  have next :
      ∀ more,
        IsPath segments.isEmpty more ('[' :: (read.reverse ++ ']' :: rest)) ↔
          ∃ number later,
            Denotes read.reverse number ∧
              more = .index number :: later ∧ IsPath false later rest :=
    fun more => IsPath.index_iff noBracket
  unfold Reading.Assigns
  simp only [Reading.pending, List.cons_append, next, readIndex_eq_ok_iff]
  constructor
  · rintro ⟨_, rfl, number, later, denotes, rfl, onward⟩
    exact ⟨.index number, ⟨number, rfl, denotes⟩, later, by simp, onward⟩
  · rintro ⟨_, ⟨number, rfl, denotes⟩, later, rfl, onward⟩
    exact ⟨.index number :: later, by simp, number, later, denotes, rfl, onward⟩

/-- At the end of a path a reader returns what the grammar assigns to what is pending. -/
theorem readFrom_nil_iff
    (wellFormed : reading.WellFormed segments.isEmpty) :
    readFrom path position reading segments [] = .ok result ↔
      reading.Assigns segments result [] := by
  have returned :
      ∀ {segments : List Segment},
        segments.isEmpty = false →
          (.ok segments.reverse = (.ok result : Except FactPathError (List Segment)) ↔
            Reading.indexDone.Assigns segments result []) := by
    intro segments notEmpty
    simp [Reading.Assigns, Reading.pending, notEmpty, IsPath.nil_iff, eq_comm]
  cases reading with
  | keyExpected =>
      exact error_eq_ok_iff fun more => IsPath.not_separator (by simp) (by simp)
  | inKey read =>
      rw [assigns_inKey_iff wellFormed (by simp)]
      exact returned rfl
  | inIndex read =>
      refine error_eq_ok_iff fun more isPath => ?_
      obtain ⟨inside, rest, _, _, -, same, -⟩ := isPath.exists_index
      have closes : ']' ∈ read.reverse ++ [] := by
        rw [show read.reverse ++ [] = _ from same]
        simp
      exact wellFormed (by simpa using closes)
  | indexDone =>
      exact returned wellFormed

/-- From wherever it is a reader returns on some characters what the grammar assigns. -/
def FollowsGrammar
    (path : String)
    (result : List Segment)
    (characters : List Char) :
    Prop :=
  ∀ position reading segments,
    reading.WellFormed segments.isEmpty →
      (readFrom path position reading segments characters = .ok result ↔
        reading.Assigns segments result characters)

/-- A period after a segment announces a key. -/
theorem readFrom_period_iff
    (onward : FollowsGrammar path result rest)
    (notEmpty : segments.isEmpty = false) :
    readFrom path position .keyExpected segments rest = .ok result ↔
      Reading.indexDone.Assigns segments result ('.' :: rest) := by
  rw [onward _ .keyExpected _ trivial, Reading.Assigns, Reading.Assigns, notEmpty]
  rfl

/-- An opening bracket announces the text of an index. -/
theorem readFrom_opening_iff
    (onward : FollowsGrammar path result rest) :
    readFrom path position (.inIndex []) segments rest = .ok result ↔
      Reading.indexDone.Assigns segments result ('[' :: rest) := by
  rw [onward _ (.inIndex []) _ List.not_mem_nil]
  rfl

/-- A character that a key may hold goes on with a key, or starts one. -/
theorem readFrom_keyCharacter_iff
    (onward : FollowsGrammar path result rest)
    (plainRead : ∀ character ∈ read, isKeyCharacter character = true)
    (plain : isKeyCharacter character = true) :
    readFrom path position (.inKey (character :: read)) segments rest =
        .ok result ↔
      (Reading.inKey read).Assigns segments result (character :: rest) := by
  have plainAll :
      ∀ taken ∈ character :: read, isKeyCharacter taken = true :=
    List.forall_mem_cons.mpr ⟨plain, plainRead⟩
  rw [onward _ (.inKey _) _ ⟨List.cons_ne_nil character read, plainAll⟩]
  simp [Reading.Assigns, Reading.pending]

/-- Before a key a reader takes a character of the key, or an index if it comes first. -/
theorem readFrom_keyExpected_iff
    (onward : FollowsGrammar path result rest) :
    readFrom path position .keyExpected segments (character :: rest) = .ok result ↔
      Reading.keyExpected.Assigns segments result (character :: rest) := by
  by_cases plain : isKeyCharacter character = true
  · obtain ⟨⟨noPeriod, noOpening⟩, noClosing⟩ :
        (character ≠ '.' ∧ character ≠ '[') ∧ character ≠ ']' := by
      simpa [isKeyCharacter] using plain
    rw [readFrom, if_neg noPeriod, if_neg noOpening, if_neg noClosing,
      readFrom_keyCharacter_iff onward (by simp) plain]
    simp [Reading.Assigns, Reading.pending]
  · have ends :
        ∀ next ∈ (character :: rest).head?, isKeyCharacter next = false := by
      simpa using plain
    rw [readFrom]
    split
    case isTrue isPeriod =>
      exact error_eq_ok_iff fun more =>
        IsPath.not_separator ends (by simp [isPeriod])
    case isFalse noPeriod =>
      split
      case isTrue isOpening =>
        split
        case isTrue isFirst =>
          rw [isOpening, readFrom_opening_iff onward, Reading.Assigns,
            Reading.Assigns, isFirst]
          rfl
        case isFalse notFirst =>
          exact error_eq_ok_iff fun more =>
            IsPath.not_separator ends fun isFirst => absurd isFirst notFirst
      case isFalse noOpening =>
        have isClosing : character = ']' := by
          simpa [isKeyCharacter, noPeriod, noOpening] using plain
        rw [if_pos isClosing]
        exact error_eq_ok_iff fun more =>
          IsPath.not_separator ends (by simp [noOpening])

/-- In a key a reader goes on with the key, or to the next segment. -/
theorem readFrom_inKey_iff
    (onward : FollowsGrammar path result rest)
    (wellFormed : (Reading.inKey read).WellFormed segments.isEmpty) :
    readFrom path position (.inKey read) segments (character :: rest) = .ok result ↔
      (Reading.inKey read).Assigns segments result (character :: rest) := by
  by_cases plain : isKeyCharacter character = true
  · obtain ⟨⟨noPeriod, noOpening⟩, noClosing⟩ :
        (character ≠ '.' ∧ character ≠ '[') ∧ character ≠ ']' := by
      simpa [isKeyCharacter] using plain
    rw [readFrom, if_neg noPeriod, if_neg noOpening, if_neg noClosing]
    exact readFrom_keyCharacter_iff onward wellFormed.2 plain
  · rw [assigns_inKey_iff wellFormed (by simpa using plain), readFrom]
    split
    case isTrue isPeriod =>
      rw [isPeriod]
      exact readFrom_period_iff onward rfl
    case isFalse noPeriod =>
      split
      case isTrue isOpening =>
        rw [isOpening]
        exact readFrom_opening_iff onward
      case isFalse noOpening =>
        have isClosing : character = ']' := by
          simpa [isKeyCharacter, noPeriod, noOpening] using plain
        rw [if_pos isClosing]
        exact error_eq_ok_iff_done rfl noPeriod noOpening

/-- In an index a reader goes on with its text up to the closing bracket. -/
theorem readFrom_inIndex_iff
    (onward : FollowsGrammar path result rest)
    (wellFormed : (Reading.inIndex read).WellFormed segments.isEmpty) :
    readFrom path position (.inIndex read) segments (character :: rest) = .ok result ↔
      (Reading.inIndex read).Assigns segments result (character :: rest) := by
  rw [readFrom]
  split
  case isTrue isClosing =>
    rw [isClosing, assigns_inIndex_iff path wellFormed]
    split
    case h_1 segment isRead =>
      simp [isRead, onward _ .indexDone (segment :: segments) rfl]
    case h_2 reason isRead =>
      simp [isRead]
  case isFalse noClosing =>
    replace wellFormed : ']' ∉ read := wellFormed
    have noBracket : ']' ∉ character :: read := by
      simpa [eq_comm, noClosing] using wellFormed
    rw [onward _ (.inIndex _) _ noBracket]
    simp [Reading.Assigns, Reading.pending]

/-- After an index a reader goes on to the next segment. -/
theorem readFrom_indexDone_iff
    (onward : FollowsGrammar path result rest)
    (notEmpty : segments.isEmpty = false) :
    readFrom path position .indexDone segments (character :: rest) = .ok result ↔
      Reading.indexDone.Assigns segments result (character :: rest) := by
  rw [readFrom]
  split
  case isTrue isPeriod =>
    rw [isPeriod]
    exact readFrom_period_iff onward notEmpty
  case isFalse noPeriod =>
    split
    case isTrue isOpening =>
      rw [isOpening]
      exact readFrom_opening_iff onward
    case isFalse noOpening =>
      exact error_eq_ok_iff_done notEmpty noPeriod noOpening

end Step

/-- A reader follows the grammar to the end of a path. -/
theorem followsGrammar
    (path : String)
    (result : List Segment)
    (characters : List Char) :
    FollowsGrammar path result characters := by
  -- What is pending and what remains together stay as they are while a segment is read.
  induction characters with
  | nil =>
      intro position reading segments wellFormed
      exact readFrom_nil_iff wellFormed
  | cons character rest onward =>
      intro position reading segments wellFormed
      cases reading with
      | keyExpected =>
          exact readFrom_keyExpected_iff onward
      | inKey read =>
          exact readFrom_inKey_iff onward wellFormed
      | inIndex read =>
          exact readFrom_inIndex_iff onward wellFormed
      | indexDone =>
          exact readFrom_indexDone_iff onward wellFormed

/-! ## Written paths -/

/-- A segment that a path can spell. -/
def IsWritable : Segment → Prop
  | .key name =>
      name ≠ "" ∧ ∀ character ∈ name.toList, isKeyCharacter character = true
  | .index number =>
      0 ≤ number ∧ (toString number).length ≤ integerDigitLimit

/-- The decimal digits of a number denote it. -/
theorem denotes_toString
    {number : Int}
    (writable : (Segment.index number).IsWritable) :
    Denotes (toString number).toList number := by
  obtain ⟨notNegative, short⟩ := writable
  obtain ⟨number, rfl⟩ := Int.eq_ofNat_of_zero_le notNegative
  have isRow : (toString (number : Int)).toList = Nat.toDigits 10 number := by
    rw [Int.toString_eq_repr, Int.repr_eq_if, if_pos notNegative]
    exact Nat.toList_repr
  have areDigits :
      ∀ character ∈ Nat.toDigits 10 number, character.isDigit = true :=
    Binary64.isDigit_of_mem_toDigits
  have isNumber : Text.numberOfDigits (Nat.toDigits 10 number) = number := by
    rw [Text.numberOfDigits_eq areDigits, Nat.ofDigitChars_ten_toDigits]
  rw [← String.length_toList, isRow] at short
  have denotes :
      Denotes ([] ++ Nat.toDigits 10 number ++ [])
        (Text.numberOfDigits (Nat.toDigits 10 number)) :=
    Denotes.digits nofun Nat.toDigits_ne_nil
      (fun character member =>
        Text.isDigit_of_isDigit (areDigits character member))
      short nofun
  rw [isNumber, List.append_nil, List.nil_append] at denotes
  rw [isRow]
  exact denotes

/-- A written path follows the grammar. -/
theorem isPath_render
    {isFirst : Bool}
    {segments : List Segment}
    (notEmpty : isFirst = true → segments ≠ [])
    (writable : ∀ segment ∈ segments, segment.IsWritable) :
    IsPath isFirst segments (render isFirst segments) := by
  induction segments generalizing isFirst with
  | nil =>
      cases isFirst with
      | true =>
          exact absurd rfl (notEmpty rfl)
      | false =>
          exact .done
  | cons segment later inductionHypothesis =>
      have onward : IsPath false later (render false later) :=
        inductionHypothesis nofun fun next member =>
          writable next (List.mem_cons_of_mem segment member)
      have writableHere := writable segment List.mem_cons_self
      cases segment with
      | key name =>
          obtain ⟨hasName, plain⟩ := writableHere
          have nameNotEmpty : name.toList ≠ [] :=
            fun empty => hasName (String.toList_eq_nil_iff.mp empty)
          have path :
              IsPath isFirst (.key (String.ofList name.toList) :: later)
                (separator isFirst ++ (name.toList ++ render false later)) :=
            .key nameNotEmpty plain onward
          rw [String.ofList_toList] at path
          cases isFirst <;> simpa [render, separator] using path
      | index number =>
          exact .index (denotes_toString writableHere) onward

/-- A written path is blank only if it is a single blank key. -/
theorem isAllBlank_render
    {segments : List Segment}
    (notEmpty : segments ≠ [])
    (notBlankKey :
      ∀ name, segments = [.key name] → Text.isAllBlank name = false) :
    Text.isAllBlank (String.ofList (render true segments)) = false := by
  rw [Text.isAllBlank, String.toList_ofList, List.all_eq_false]
  match segments with
  | .index number :: later =>
      exact ⟨'[', by simp [render], by decide⟩
  | [.key name] =>
      obtain ⟨character, member, notBlank⟩ :=
        List.all_eq_false.mp (notBlankKey name rfl)
      exact ⟨character, by simpa [render] using member, notBlank⟩
  | .key name :: .key next :: later =>
      exact ⟨'.', by simp [render], by decide⟩
  | .key name :: .index number :: later =>
      exact ⟨'[', by simp [render], by decide⟩

/-- Segments are read exactly from the paths that spell them and are not blank. -/
theorem parse_eq_ok_iff
    {path : String}
    {segments : List Segment} :
    parse path = .ok segments ↔
      Text.isAllBlank path = false ∧ IsPath true segments path.toList := by
  have readsAll :=
    followsGrammar path segments path.toList 0 .keyExpected [] trivial
  unfold parse
  split
  case isTrue blank =>
    simp [blank]
  case isFalse notBlank =>
    rw [readsAll]
    simp [notBlank, Reading.Assigns, Reading.pending, separator]

/--
Reading a path returns segments exactly if it is not blank and spells them, and fails
on every other text.  It returns the segments of each path that they are written as:
their keys may be any texts without periods and brackets, their indexes any numbers
that are not negative or too long, unless there is nothing but a blank key.
-/
theorem parse_follows_grammar
    (path : String) :
    (∀ segments,
        parse path = .ok segments ↔
          Text.isAllBlank path = false ∧ IsPath true segments path.toList) ∧
      ((Text.isAllBlank path = true ∨
          ∀ segments, ¬ IsPath true segments path.toList) →
        ∃ reason, parse path = .error reason) ∧
      ∀ segments,
        segments ≠ [] →
        (∀ segment ∈ segments, segment.IsWritable) →
        (∀ name, segments = [.key name] → Text.isAllBlank name = false) →
        path = String.ofList (render true segments) →
          parse path = .ok segments := by
  refine ⟨fun segments => parse_eq_ok_iff, fun outside => ?_, ?_⟩
  · cases isRead : parse path with
    | error reason =>
        exact ⟨reason, rfl⟩
    | ok segments =>
        obtain ⟨notBlank, isPath⟩ := parse_eq_ok_iff.mp isRead
        rcases outside with blank | noPath
        · simp [notBlank] at blank
        · exact absurd isPath (noPath segments)
  · rintro segments notEmpty writable notBlankKey rfl
    rw [parse_eq_ok_iff, String.toList_ofList]
    exact ⟨isAllBlank_render notEmpty notBlankKey,
      isPath_render (fun _ => notEmpty) writable⟩

/-- An index between blanks, a path that starts with an index, and an empty key. -/
theorem parse_follows_grammar_sample :
    IsPath true [.key "disks", .index 1, .key "size"] "disks[ 1 ].size".toList ∧
      parse "[0][12].a b" = .ok [.index 0, .index 12, .key "a b"] ∧
      ∃ reason, parse "a..b" = .error reason := by
  have isRead :
      parse "disks[ 1 ].size" = .ok [.key "disks", .index 1, .key "size"] := by
    decide +kernel
  have emptyKey : ∀ segments, ¬ IsPath true segments "a..b".toList := by
    intro segments isPath
    have characters : "a..b".toList = [] ++ (['a'] ++ ['.', '.', 'b']) := rfl
    rw [characters] at isPath
    obtain ⟨later, -, onward⟩ :=
      (IsPath.key_iff (by simp) (by simp [isKeyCharacter])
        (by simp [isKeyCharacter])).mp isPath
    have noKey : ¬ IsPath false later (separator false ++ ['.', 'b']) :=
      IsPath.not_separator (by simp [isKeyCharacter]) nofun
    exact noKey onward
  have writable :
      ∀ segment ∈ [Segment.index 0, .index 12, .key "a b"], segment.IsWritable := by
    simp only [List.forall_mem_cons]
    exact ⟨⟨by decide, by decide⟩, ⟨by decide, by decide⟩,
      ⟨by decide, by simp [isKeyCharacter]⟩, nofun⟩
  exact ⟨((parse_follows_grammar _).1 _).mp isRead |>.2,
    (parse_follows_grammar _).2.2 _ (by simp) writable nofun rfl,
    (parse_follows_grammar _).2.1 (.inr emptyKey)⟩

end Segment

end FleetConfig
