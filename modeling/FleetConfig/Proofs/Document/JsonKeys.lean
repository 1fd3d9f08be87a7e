import FleetConfig.Document.Json
import FleetConfig.Proofs.Value.TextKeys

/-!
# The keys of JSON documents

JSON knows no other keys than texts, so that the maps of a document in JSON have
texts for keys at every level.
-/

namespace FleetConfig

namespace Value

theorem entriesHaveTextKeys_iff_forall
    {entries : Entries} :
    entriesHaveTextKeys entries = true ↔
      ∀ entry ∈ entries, entry.1.isText = true ∧ entry.2.hasTextKeys = true := by
  induction entries with
  | nil =>
      simp [entriesHaveTextKeys]
  | cons entry rest inductionHypothesis =>
      rw [entriesHaveTextKeys, Bool.and_eq_true, Bool.and_eq_true,
        inductionHypothesis, List.forall_mem_cons]

end Value

namespace Entries

variable {entries : Entries}

theorem entriesHaveTextKeys_put
    (textKeys : Value.entriesHaveTextKeys entries = true)
    {key : Scalar}
    {value : Value}
    (keyIsText : key.isText = true)
    (valueTextKeys : value.hasTextKeys = true) :
    Value.entriesHaveTextKeys (entries.put key value) = true := by
  induction entries with
  | nil =>
      simp [put, Value.entriesHaveTextKeys, keyIsText, valueTextKeys]
  | cons first rest inductionHypothesis =>
      obtain ⟨firstKey, firstValue⟩ := first
      simp only [Value.entriesHaveTextKeys, Bool.and_eq_true] at textKeys
      unfold put
      split
      · simp [Value.entriesHaveTextKeys, textKeys, valueTextKeys]
      · simp [Value.entriesHaveTextKeys, textKeys.1, inductionHypothesis textKeys.2]

/-- Entries that are written one over the other keep text keys. -/
theorem entriesHaveTextKeys_ofList
    {written : Entries}
    (textKeys : Value.entriesHaveTextKeys written = true) :
    Value.entriesHaveTextKeys (ofList written) = true := by
  have onto :
      ∀ base : Entries,
        Value.entriesHaveTextKeys base = true →
        Value.entriesHaveTextKeys
            (written.foldl (fun entries entry => put entries entry.1 entry.2) base) =
          true := by
    induction written with
    | nil =>
        exact fun base baseTextKeys => baseTextKeys
    | cons entry rest inductionHypothesis =>
        intro base baseTextKeys
        simp only [Value.entriesHaveTextKeys, Bool.and_eq_true] at textKeys
        exact inductionHypothesis textKeys.2 _
          (entriesHaveTextKeys_put baseTextKeys textKeys.1.1 textKeys.1.2)
  exact onto [] rfl

end Entries

namespace Json

/-- Whatever a reader returns has a property. -/
def Gives
    {α : Type}
    (step : Step α)
    (holds : α → Prop) :
    Prop :=
  ∀ found after, step = .ok (found, after) → holds found

namespace Gives

variable {α β : Type} {holds : α → Prop} {holdsNext : β → Prop}

theorem error
    (reason : DocumentError) :
    Gives (.error reason) holds := by
  rintro found after ⟨⟩

theorem ok
    {found : α}
    (isSo : holds found)
    (after : List Char) :
    Gives (.ok (found, after)) holds := by
  rintro _ _ ⟨⟩
  exact isSo

theorem map
    {step : Step α}
    (gives : Gives step holds)
    (next : α → β)
    (onward : ∀ found, holds found → holdsNext (next found)) :
    Gives (step.map fun (found, after) => (next found, after)) holdsNext := by
  cases step with
  | error reason =>
      exact .error reason
  | ok result =>
      obtain ⟨found, after⟩ := result
      exact .ok (onward found (gives found after rfl)) after

end Gives

theorem gives_readNumber
    (characters : List Char) :
    Gives (readNumber characters) fun value => value.hasTextKeys = true := by
  intro value after given
  unfold readNumber at given
  dsimp only at given
  -- Whatever its sign, a number is refused, or it is an integer or a double.
  repeat' split at given
  all_goals cases given
  all_goals rfl

theorem hasTextKeys_of_readWord?
    {characters : List Char}
    {found : Value × List Char}
    (isWord : readWord? characters = some found) :
    found.1.hasTextKeys = true := by
  obtain ⟨⟨word, value⟩, member, given⟩ := List.exists_of_findSome?_eq_some isWord
  have wordValues : ∀ entry ∈ words, entry.2.hasTextKeys = true := by
    decide
  dsimp only at given
  split at given
  · cases given
    exact wordValues _ member
  · contradiction

/-- Readers of values, items and entries call each other with a smaller budget. -/
theorem gives_of_budget
    (budget : Nat) :
    (∀ characters,
        Gives (readValue budget characters) fun value => value.hasTextKeys = true) ∧
      (∀ characters,
        Gives (readItems budget characters) fun items =>
          Value.haveTextKeys items = true) ∧
      ∀ characters,
        Gives (readEntries budget characters) fun entries =>
          Value.entriesHaveTextKeys entries = true := by
  induction budget with
  | zero =>
      exact ⟨fun _ => .error .malformed, fun _ => .error .malformed,
        fun _ => .error .malformed⟩
  | succ budget inductionHypothesis =>
      obtain ⟨values, items, entries⟩ := inductionHypothesis
      refine ⟨fun characters => ?value, fun characters => ?items,
        fun characters => ?entries⟩
      case value =>
        unfold readValue
        split
        case h_1 rest =>
          have anything : Gives (readString budget [] rest) fun _ => True :=
            fun _ _ _ => trivial
          exact anything.map Value.text fun _ _ => rfl
        case h_2 =>
          split
          · refine .ok ?_ _
            rfl
          · exact (items _).map Value.list fun _ textKeys => textKeys
        case h_3 =>
          split
          · refine .ok ?_ _
            rfl
          · exact (entries _).map (fun found => Value.map (Entries.ofList found))
              fun _ => Entries.entriesHaveTextKeys_ofList
        case h_4 =>
          split
          case h_1 found isWord =>
            rintro _ _ ⟨⟩
            exact hasTextKeys_of_readWord? isWord
          case h_2 =>
            exact gives_readNumber _
      case items =>
        unfold readItems
        split
        case h_1 =>
          exact .error _
        case h_2 item after given =>
          have itemTextKeys := values _ item after given
          split
          · exact .ok (by simp [Value.haveTextKeys, itemTextKeys]) _
          · exact (items _).map (item :: ·) fun _ textKeys => by
              simp [Value.haveTextKeys, itemTextKeys, textKeys]
          · exact .error _
      case entries =>
        unfold readEntries
        split
        case h_2 =>
          exact .error _
        case h_1 =>
          split
          case h_1 =>
            exact .error _
          case h_2 =>
            split
            case h_2 =>
              exact .error _
            case h_1 =>
              split
              case h_1 =>
                exact .error _
              case h_2 value after given =>
                have valueTextKeys := values _ value after given
                split
                · exact .ok (by
                    simp [Value.entriesHaveTextKeys, Scalar.isText, valueTextKeys]) _
                · exact (entries _).map ((Scalar.text _, value) :: ·) fun _ textKeys => by
                    simp [Value.entriesHaveTextKeys, Scalar.isText, valueTextKeys,
                      textKeys]
                · exact .error _

/-- The maps of a document in JSON have texts for keys. -/
theorem hasTextKeys_of_read
    {text : String}
    {value : Value}
    (isRead : read text = .ok value) :
    value.hasTextKeys = true := by
  unfold read at isRead
  dsimp only at isRead
  split at isRead
  case h_1 =>
    contradiction
  case h_2 found after given =>
    split at isRead
    · cases isRead
      exact (gives_of_budget _).1 _ value after given
    · contradiction

end Json

end FleetConfig
