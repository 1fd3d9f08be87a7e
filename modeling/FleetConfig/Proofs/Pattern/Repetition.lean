import FleetConfig.Pattern.Basic
import FleetConfig.Proofs.Number.IntegerText

/-!
# Bounds of repetitions

A bound of a repetition is read as the number that its digits denote.  Repeating a
character that often breaks down if the number reaches the limit of repetitions or
has more digits than an integer may have, and it compiles otherwise.
-/

namespace FleetConfig

/-- Digits without a sign are read as the number that they denote, if there are not too many. -/
theorem readInteger_ofList
    {digits : List Char}
    (areDigits : ∀ character ∈ digits, character.isDigit = true)
    (notEmpty : digits ≠ []) :
    readInteger (String.ofList digits) =
      if integerDigitLimit < digits.length then
        .error (.tooManyDigits digits.length)
      else
        .ok (Nat.ofDigitChars 10 digits 0) := by
  have inAnyScript : ∀ character ∈ digits, Text.isDigit character = true :=
    fun character member => Text.isDigit_of_isDigit (areDigits character member)
  rw [readInteger_of_digits inAnyScript notEmpty, Text.numberOfDigits_eq areDigits]

namespace Pattern

/-- The progress when some characters have been read and a rest is left. -/
def Progress.movedTo
    (progress : Progress)
    (rest : List Char)
    (count : Nat) :
    Progress :=
  { progress with
    rest := rest
    position := progress.position + count }

theorem Progress.movedTo_movedTo
    (progress : Progress)
    (between rest : List Char)
    (count more : Nat) :
    (progress.movedTo between count).movedTo rest more =
      progress.movedTo rest (count + more) := by
  simp [movedTo, Nat.add_assoc]

namespace Reader

variable {α β : Type}
  {before after progress : Progress}
  {character : Char}
  {rest : List Char}

/-- After a step that succeeds the reader goes on from where the step left it. -/
theorem run_bind_of_ok
    {reader : Reader α}
    {value : α}
    (ran : reader.run before = .ok (value, after))
    (next : α → Reader β) :
    (reader >>= next).run before = (next value).run after := by
  rw [StateT.run_bind, ran]
  rfl

theorem run_peek
    (isNext : progress.rest = character :: rest)
    (noEscape : character ≠ '\\') :
    peek.run progress = .ok (some (.plain character), progress) := by
  unfold peek
  rw [run_bind_of_ok rfl, isNext]
  split
  case h_1 empty =>
    contradiction
  case h_2 same =>
    exact absurd (List.cons.inj same).1 noEscape
  case h_3 same =>
    exact absurd (List.cons.inj same).1 noEscape
  case h_4 same =>
    rw [(List.cons.inj same).1]
    rfl

theorem run_peek_nil
    (atEnd : progress.rest = []) :
    peek.run progress = .ok (none, progress) := by
  unfold peek
  rw [run_bind_of_ok rfl, atEnd]
  rfl

theorem run_take
    (isNext : progress.rest = character :: rest)
    (noEscape : character ≠ '\\')
    (notLone : rest ≠ ['\\']) :
    take.run progress = .ok (some (.plain character), progress.movedTo rest 1) := by
  unfold take refuseLoneBackslash
  rw [run_bind_of_ok (run_peek isNext noEscape)]
  simp [isNext, Token.length, Token.characters, notLone]
  rfl

/-- A character is accepted if it is the one asked for. -/
theorem run_accept
    (isNext : progress.rest = character :: rest)
    (noEscape : character ≠ '\\')
    (notLone : rest ≠ ['\\']) :
    (accept character).run progress = .ok (true, progress.movedTo rest 1) := by
  unfold accept
  rw [run_bind_of_ok (run_peek isNext noEscape), if_pos rfl,
    run_bind_of_ok (run_take isNext noEscape notLone)]
  rfl

theorem run_accept_other
    (isNext : progress.rest = character :: rest)
    (noEscape : character ≠ '\\')
    {asked : Char}
    (other : character ≠ asked) :
    (accept asked).run progress = .ok (false, progress) := by
  have differs : some (Token.plain character) ≠ some (.plain asked) := by
    simpa using other
  unfold accept
  rw [run_bind_of_ok (run_peek isNext noEscape), if_neg differs]
  rfl

theorem run_accept_nil
    (atEnd : progress.rest = [])
    (asked : Char) :
    (accept asked).run progress = .ok (false, progress) := by
  unfold accept
  rw [run_bind_of_ok (run_peek_nil atEnd)]
  rfl

/-- Characters that pass a test are taken up to the first that does not. -/
theorem run_takeUpTo
    {holds : Char → Bool}
    {taken : List Char}
    (pass : ∀ taking ∈ taken, holds taking = true ∧ taking ≠ '\\')
    (ends : holds character = false)
    (noEscape : character ≠ '\\')
    {count : Nat}
    (enough : taken.length < count)
    (isNext : progress.rest = taken ++ character :: rest) :
    (takeUpTo holds count).run progress =
      .ok (taken, progress.movedTo (character :: rest) taken.length) := by
  -- The count exceeds what is taken, so that the last character is what ends the reading.
  induction taken generalizing count progress with
  | nil =>
      cases count with
      | zero =>
          contradiction
      | succ count =>
          rw [List.nil_append] at isNext
          unfold takeUpTo
          rw [run_bind_of_ok (run_peek isNext noEscape), Progress.movedTo,
            ← isNext]
          simp only [ends, Bool.false_eq_true, ↓reduceIte]
          rfl
  | cons first others inductionHypothesis =>
      cases count with
      | zero =>
          contradiction
      | succ count =>
          obtain ⟨holdsFirst, firstNoEscape⟩ := pass first List.mem_cons_self
          have notLone : others ++ character :: rest ≠ ['\\'] := by
            cases others <;> simp [noEscape]
          have othersTaken :
              (takeUpTo holds count).run
                  (progress.movedTo (others ++ character :: rest) 1) =
                .ok (others, _) :=
            inductionHypothesis
              (fun taking member => pass taking (List.mem_cons_of_mem first member))
              (Nat.lt_of_succ_lt_succ enough) rfl
          unfold takeUpTo
          rw [run_bind_of_ok (run_peek isNext firstNoEscape)]
          simp only [holdsFirst, ↓reduceIte]
          rw [run_bind_of_ok (run_take isNext firstNoEscape notLone),
            List.append_eq, run_bind_of_ok othersTaken,
            Progress.movedTo_movedTo, Nat.add_comm]
          rfl

/-- Characters that pass a test are taken as long as another one ends them. -/
theorem run_takeWhile
    {holds : Char → Bool}
    {taken : List Char}
    (pass : ∀ taking ∈ taken, holds taking = true ∧ taking ≠ '\\')
    (ends : holds character = false)
    (noEscape : character ≠ '\\')
    (isNext : progress.rest = taken ++ character :: rest) :
    (takeWhile holds).run progress =
      .ok (taken, progress.movedTo (character :: rest) taken.length) := by
  have enough : taken.length < progress.rest.length := by
    rw [isNext, List.length_append, List.length_cons]
    omega
  unfold takeWhile
  rw [run_bind_of_ok rfl]
  exact run_takeUpTo pass ends noEscape enough isNext

end Reader

open Reader

/--
What is wrong with a number as a bound of a repetition: it is too long to read, or
it reaches the limit.
-/
def boundFault? (number : Nat) : Option Fatal :=
  let length := (Nat.toDigits 10 number).length
  if integerDigitLimit < length then
    some (.unreadableRepetition (.tooManyDigits length))
  else if repetitionLimit ≤ number then
    some .repetitionTooLarge
  else
    none

theorem repetitionCount_toDigits
    (number : Nat) :
    repetitionCount (Nat.toDigits 10 number) =
      match boundFault? number with
      | some fatal =>
          stop fatal
      | none =>
          pure number := by
  unfold repetitionCount boundFault?
  rw [readInteger_ofList Binary64.isDigit_of_mem_toDigits Nat.toDigits_ne_nil,
    Nat.ofDigitChars_ten_toDigits]
  by_cases long : integerDigitLimit < (Nat.toDigits 10 number).length
  · simp only [long, ↓reduceIte]
  · by_cases large : repetitionLimit ≤ number <;>
      simp only [long, large, ↓reduceIte, Int.toNat_natCast]

/-- Digits before a closing brace are both bounds of a repetition. -/
theorem run_readBounds?
    {number : Nat}
    {rest : List Char}
    (notLone : rest ≠ ['\\'])
    {progress : Progress}
    (isNext : progress.rest = Nat.toDigits 10 number ++ '\x7d' :: rest) :
    readBounds?.run progress =
      match boundFault? number with
      | some fatal =>
          .error (.fatal fatal)
      | none =>
          .ok (some (number, some number),
            progress.movedTo rest ((Nat.toDigits 10 number).length + 1)) := by
  have count := repetitionCount_toDigits number
  have areDigits :
      ∀ character ∈ Nat.toDigits 10 number, character.isDigit = true :=
    Binary64.isDigit_of_mem_toDigits
  have notEmpty : Nat.toDigits 10 number ≠ [] := Nat.toDigits_ne_nil
  generalize Nat.toDigits 10 number = digits at *
  have pass :
      ∀ character ∈ digits, character.isDigit = true ∧ character ≠ '\\' := by
    intro character member
    refine ⟨areDigits character member, ?_⟩
    rintro rfl
    exact absurd (areDigits _ member) (by decide)
  let atBrace := progress.movedTo ('\x7d' :: rest) digits.length
  have noComma : (accept ',').run atBrace = .ok (false, atBrace) :=
    run_accept_other rfl (by decide) (by decide)
  have closed :
      (accept '\x7d').run atBrace = .ok (true, atBrace.movedTo rest 1) :=
    run_accept rfl (by decide) notLone
  obtain ⟨first, others, rfl⟩ := List.exists_cons_of_ne_nil notEmpty
  obtain ⟨isDigit, firstNoEscape⟩ := pass first List.mem_cons_self
  have notBrace : some (Token.plain first) ≠ some (.plain '\x7d') := by
    rintro ⟨⟩
    contradiction
  unfold readBounds?
  rw [run_bind_of_ok rfl, run_bind_of_ok (run_peek isNext firstNoEscape),
    if_neg notBrace,
    run_bind_of_ok (run_takeWhile pass (by decide) (by decide) isNext),
    run_bind_of_ok noComma]
  simp only [Bool.false_eq_true, ↓reduceIte]
  -- Without a comma the digits are both bounds, and their number is read twice.
  rw [pure_bind, run_bind_of_ok closed]
  simp only [↓reduceIte, List.isEmpty_cons, Bool.false_eq_true, count]
  cases boundFault? number with
  | some fatal =>
      rfl
  | none =>
      simp only [pure_bind, Nat.lt_irrefl, ↓reduceIte]
      rfl

/-- The pattern that asks for a character a number of times. -/
def repeating (number : Nat) : String :=
  "x\x7b" ++ toString number ++ "\x7d"

theorem toList_repeating
    (number : Nat) :
    (repeating number).toList =
      'x' :: '\x7b' :: (Nat.toDigits 10 number ++ ['\x7d']) := by
  simp [repeating]

section Sequence

variable {progress : Progress} {rest : List Char}

theorem run_readSequence_nil
    (atEnd : progress.rest = [])
    (budget : Nat)
    (verbose isFirst : Bool)
    (items : List Node) :
    (readSequence (budget + 1) verbose isFirst items).run progress =
      .ok (items.reverse, progress) := by
  rw [readSequence, run_bind_of_ok (run_peek_nil atEnd)]
  rfl

/-- At the end of a pattern a repetition is greedy. -/
theorem run_readGreed_nil
    (atEnd : progress.rest = []) :
    readGreed.run progress = .ok (.greedy, progress) := by
  unfold readGreed
  rw [run_bind_of_ok (run_accept_nil atEnd '?'), if_neg (by decide),
    run_bind_of_ok (run_accept_nil atEnd '+'), if_neg (by decide)]
  rfl

theorem run_repeatLast_nil
    (atEnd : progress.rest = [])
    (start least : Nat)
    (most? : Option Nat)
    (code : Nat)
    (items : List Node) :
    (repeatLast start least most? (.character code :: items)).run progress =
      .ok (.repeated least most? .greedy [.character code] :: items, progress) := by
  unfold repeatLast
  rw [run_bind_of_ok rfl]
  dsimp only [List.head?_cons, checkRepeatable]
  rw [pure_bind, run_bind_of_ok (run_readGreed_nil atEnd)]
  rfl

/-- A letter stands for itself. -/
theorem run_readSequence_letter
    (isNext : progress.rest = 'x' :: rest)
    (notLone : rest ≠ ['\\'])
    (budget : Nat)
    (isFirst : Bool)
    (items : List Node) :
    (readSequence (budget + 1) false isFirst items).run progress =
      (readSequence budget false isFirst (.character 120 :: items)).run
        (progress.movedTo rest 1) := by
  rw [readSequence, run_bind_of_ok (run_peek isNext (by decide))]
  dsimp only
  rw [if_neg (by decide), run_bind_of_ok rfl,
    run_bind_of_ok (run_take isNext (by decide) notLone)]
  rfl

/-- A number in braces repeats what stands before it. -/
theorem run_readSequence_bounds
    {number : Nat}
    (isNext : progress.rest = '\x7b' :: (Nat.toDigits 10 number ++ ['\x7d']))
    (budget : Nat)
    (isFirst : Bool)
    (code : Nat)
    (items : List Node) :
    (readSequence (budget + 2) false isFirst (.character code :: items)).run
        progress =
      match boundFault? number with
      | some fatal =>
          .error (.fatal fatal)
      | none =>
          .ok ((.repeated number (some number) .greedy [.character code] ::
              items).reverse,
            progress.movedTo [] ((Nat.toDigits 10 number).length + 2)) := by
  have notLone : Nat.toDigits 10 number ++ ['\x7d'] ≠ ['\\'] := by
    intro same
    have last := congrArg List.getLast? same
    simp at last
  rw [readSequence, run_bind_of_ok (run_peek isNext (by decide))]
  dsimp only
  rw [if_neg (by decide), run_bind_of_ok rfl,
    run_bind_of_ok (run_take isNext (by decide) notLone)]
  simp only [Bool.false_and, Bool.false_eq_true, ↓reduceIte]
  have bounds :
      readBounds?.run
          (progress.movedTo (Nat.toDigits 10 number ++ ['\x7d']) 1) =
        _ :=
    run_readBounds? (by decide) rfl
  cases wrong : boundFault? number with
  | some fatal =>
      rw [wrong] at bounds
      rw [StateT.run_bind, bounds]
      rfl
  | none =>
      rw [wrong] at bounds
      rw [run_bind_of_ok bounds]
      dsimp only
      rw [run_bind_of_ok (run_repeatLast_nil rfl _ _ _ _ _),
        run_readSequence_nil rfl, Progress.movedTo_movedTo, Nat.add_comm 1]

/-- A letter and a number in braces are the only alternative. -/
theorem run_readAlternatives_repeating
    {number : Nat}
    (isNext :
      progress.rest =
        'x' :: '\x7b' :: (Nat.toDigits 10 number ++ ['\x7d']))
    (budget : Nat) :
    (readAlternatives (budget + 4) false true).run progress =
      match boundFault? number with
      | some fatal =>
          .error (.fatal fatal)
      | none =>
          .ok ([.repeated number (some number) .greedy [.character 120]],
            progress.movedTo [] ((Nat.toDigits 10 number).length + 3)) := by
  have notLone :
      '\x7b' :: (Nat.toDigits 10 number ++ ['\x7d']) ≠ ['\\'] := by
    rintro ⟨⟩
  have first :
      (readSequence (budget + 3) false true []).run progress = _ :=
    (run_readSequence_letter isNext notLone (budget + 2) true []).trans
      (run_readSequence_bounds rfl budget true 120 [])
  rw [readAlternatives]
  cases wrong : boundFault? number with
  | some fatal =>
      rw [wrong] at first
      rw [StateT.run_bind, first]
      rfl
  | none =>
      rw [wrong] at first
      have noBranch :
          ∀ {after : Progress},
            after.rest = [] →
            (readBranches (budget + 3) false true).run after = .ok ([], after) := by
        intro after atEnd
        rw [readBranches, run_bind_of_ok (run_accept_nil atEnd '|')]
        rfl
      rw [run_bind_of_ok first, run_bind_of_ok (noBranch rfl),
        Progress.movedTo_movedTo, Nat.add_comm 1]
      rfl

end Sequence

/-- The pattern is read to its end, unless something is wrong with the number. -/
theorem run_readPattern_repeating
    (number : Nat) :
    readPattern.run (.start (repeating number)) =
      match boundFault? number with
      | some fatal =>
          .error (.fatal fatal)
      | none =>
          .ok ([.repeated number (some number) .greedy [.character 120]],
            (Progress.start (repeating number)).movedTo []
              ((Nat.toDigits 10 number).length + 3)) := by
  let progress := Progress.start (repeating number)
  have isNext :
      progress.rest =
        'x' :: '\x7b' :: (Nat.toDigits 10 number ++ ['\x7d']) :=
    toList_repeating number
  have notLone : progress.rest ≠ ['\\'] := by
    rw [isNext]
    exact nofun
  have starts : refuseLoneBackslash.run progress = .ok ((), progress) := by
    unfold refuseLoneBackslash
    rw [run_bind_of_ok rfl, if_neg notLone]
    rfl
  have alternatives :
      (readAlternatives (4 * (progress.rest.length + 1)) false true).run
          progress =
        _ :=
    run_readAlternatives_repeating isNext (4 * progress.rest.length)
  unfold readPattern
  rw [run_bind_of_ok starts, run_bind_of_ok rfl]
  cases wrong : boundFault? number with
  | some fatal =>
      rw [wrong] at alternatives
      rw [StateT.run_bind, alternatives]
      rfl
  | none =>
      rw [wrong] at alternatives
      rw [run_bind_of_ok alternatives, run_bind_of_ok rfl]
      dsimp only
      rw [if_neg (by exact Bool.false_ne_true), run_bind_of_ok (run_peek_nil rfl)]
      rfl

/--
Repeating a character breaks down if something is wrong with the number, and
compiles otherwise.
-/
theorem compile_repeating
    (number : Nat) :
    compile (repeating number) =
      match boundFault? number with
      | some fatal =>
          .error fatal
      | none =>
          .ok (.ok
            ⟨[.repeated number (some number) .greedy [.character 120]], {}⟩) := by
  unfold compile read
  rw [run_readPattern_repeating]
  cases boundFault? number with
  | some fatal =>
      rfl
  | none =>
      rfl

end Pattern
end FleetConfig
