import FleetConfig.Inventory

/-!
# How loading ends

Whatever a file holds, loading it gives what the file is meant to hold or fails, and
a failure is either a report that carries the path or one of the errors that escape:
a path that no file has, bytes that are not a text, an integer with too many digits,
or a breakdown of the reader.  Nothing is assumed of the readers.
-/

namespace FleetConfig

/-- A report of a failure to load the file at a path. -/
structure ErrorReport.Carries
    (report : ErrorReport)
    (path : String) :
    Prop where
  kind : ∃ cause?, report.kind = .load path cause?
  name : report.name = "GroupSetLoadError"
  code : report.code = "NC_GROUP_SET_LOAD_ERROR"
  context :
    path.isEmpty = false →
    Fields.find? report.context "path" = some (.text path)

/-- A report of a failure to load carries the path. -/
theorem ErrorReport.Carries.of
    (path : String)
    (cause? : Option (String × String))
    (message : String) :
    (ErrorReport.of (.load path cause?) message []).Carries path where
  kind := ⟨cause?, rfl⟩
  name := rfl
  code := by
    have words :
        Text.upper (String.ofList (nameWords "GroupSetLoadError".toList)) =
          "GROUP_SET_LOAD_ERROR" := by
      decide +kernel
    exact congrArg ("NC" ++ "_" ++ ·) words
  context := by
    intro someText
    cases cause? with
    | none =>
        simp [ErrorReport.of, ErrorReport.named, ErrorKind.details, someText,
          Fields.overlay, Fields.put, Fields.find?]
    | some cause =>
        simp [ErrorReport.of, ErrorReport.named, ErrorKind.details, someText,
          Fields.overlay, Fields.put, Fields.find?]

/-- The errors that escape whoever loads a file, each with its arguments. -/
inductive File.Escapes
    (readers : Readers)
    (path : String) :
    Content → String → List Value → Prop where
  | nullInPath
      {content : Content}
      (null : Char.ofNat 0 ∈ path.toList) :
      Escapes readers path content "ValueError" [.text "embedded null byte"]
  | notText
      {bytes : ByteArray}
      (noNull : Char.ofNat 0 ∉ path.toList)
      (given : readers.forPath (File.tidy path) bytes = .error .notText) :
      Escapes readers path (.ok bytes) "UnicodeDecodeError" []
  | unreadableInteger
      {bytes : ByteArray}
      {reason : IntegerTextError}
      (noNull : Char.ofNat 0 ∉ path.toList)
      (given :
        readers.forPath (File.tidy path) bytes = .error (.unreadableInteger reason)) :
      Escapes readers path (.ok bytes) "ValueError" [.text reason.message]
  | breakdown
      {bytes : ByteArray}
      {name : String}
      (noNull : Char.ofNat 0 ∉ path.toList)
      (given : readers.forPath (File.tidy path) bytes = .error (.breakdown name)) :
      Escapes readers path (.ok bytes) name []

namespace File

section Reading

variable {readers : Readers} {path : String} {content : Content}

theorem read_of_null
    (null : Char.ofNat 0 ∈ path.toList) :
    read readers path content = .error .nullInPath := by
  unfold read
  rw [if_pos (List.contains_iff_mem.mpr null)]

theorem read_of_no_null
    (noNull : Char.ofNat 0 ∉ path.toList) :
    read readers path content =
      match content with
      | .error reason =>
          .error (.inaccessible reason)
      | .ok bytes =>
          (readers.forPath (tidy path) bytes).mapError .unreadable := by
  refine (if_neg (mt List.contains_iff_mem.mp noNull)).trans ?_
  cases content <;> rfl

/-- A document comes of the bytes of a file. -/
theorem exists_bytes_of_read
    {value : Value}
    (given : read readers path content = .ok value) :
    ∃ bytes,
      content = .ok bytes ∧ readers.forPath (tidy path) bytes = .ok value := by
  by_cases null : Char.ofNat 0 ∈ path.toList
  · rw [read_of_null null] at given
    cases given
  · rw [read_of_no_null null] at given
    cases content with
    | error reason =>
        cases given
    | ok bytes =>
        refine ⟨bytes, rfl, ?_⟩
        dsimp only at given
        cases isRead : readers.forPath (tidy path) bytes with
        | error reason =>
            rw [isRead] at given
            cases given
        | ok found =>
            rw [isRead] at given
            cases given
            rfl

/-- Bytes that are not in UTF-8 are no text. -/
theorem textOf?_eq_none_iff
    {bytes : ByteArray} :
    textOf? bytes = none ↔ ¬ bytes.IsValidUTF8 := by
  simp [textOf?, String.fromUTF8?]

/-- In either notation bytes that are not in UTF-8 let an error escape. -/
theorem escapes_of_not_isValidUTF8
    {bytes : ByteArray}
    (noNull : Char.ofNat 0 ∉ path.toList)
    (notText : ¬ bytes.IsValidUTF8) :
    Escapes .standard path (.ok bytes) "UnicodeDecodeError" [] := by
  have undecoded :
      ∀ read : String → Except DocumentError Value,
        decoded read bytes = .error .notText := by
    intro read
    unfold decoded
    rw [textOf?_eq_none_iff.mpr notText]
  refine .notText noNull ?_
  unfold Readers.forPath
  split
  · exact undecoded Json.read
  · exact undecoded Yaml.read

/-- Only one error escapes. -/
theorem Escapes.unique
    {name otherName : String}
    {arguments otherArguments : List Value}
    (escapes : Escapes readers path content name arguments)
    (other : Escapes readers path content otherName otherArguments) :
    name = otherName ∧ arguments = otherArguments := by
  cases escapes <;> cases other <;> simp_all

end Reading

end File

namespace Inventory

/-- The error that comes of loading, if it fails. -/
def raised? {α : Type} : Except LoadError α → Option AnyError
  | .ok _ =>
      none
  | .error error =>
      some error.anyError

/--
Loading gives something, or fails with a report that carries the path, as it was given
or tidied, or fails with what escapes.
-/
structure Settled
    {α : Type}
    (readers : Readers)
    (path : String)
    (content : Content)
    (outcome : Except LoadError α) :
    Prop where
  reports :
    ∀ report,
      raised? outcome = some (.reported report) →
      report.Carries path ∨ report.Carries (File.tidy path)
  escapes :
    ∀ name arguments,
      raised? outcome = some (.plain name arguments) ↔
        File.Escapes readers path content name arguments

section Loaders

variable {α : Type}
  {readers : Readers}
  {holding : Holding}
  {path : String}
  {content : Content}
  {outcome : Except LoadError α}

theorem settled_of_escapes
    {name : String}
    {arguments : List Value}
    (raised : raised? outcome = some (.plain name arguments))
    (escapes : File.Escapes readers path content name arguments) :
    Settled readers path content outcome where
  reports := by
    intro report reported
    rw [raised] at reported
    cases reported
  escapes := by
    intro otherName otherArguments
    rw [raised]
    constructor
    · rintro ⟨⟩
      exact escapes
    · intro other
      obtain ⟨rfl, rfl⟩ := escapes.unique other
      rfl

/-- Loading that fails is reported with the path. -/
def Reports
    (path : String)
    (outcome : Except LoadError α) :
    Prop :=
  ∀ error,
    raised? outcome = some error →
    ∃ report,
      error = .reported report ∧
        (report.Carries path ∨ report.Carries (File.tidy path))

theorem settled_of_reports
    (reports : Reports path outcome)
    (noneEscapes :
      ∀ name arguments, ¬ File.Escapes readers path content name arguments) :
    Settled readers path content outcome where
  reports := by
    intro report raised
    obtain ⟨_, ⟨⟩, carries⟩ := reports _ raised
    exact carries
  escapes := by
    intro name arguments
    refine iff_of_false (fun raised => ?_) (noneEscapes name arguments)
    obtain ⟨_, ⟨⟩, _⟩ := reports _ raised

/-- Where a document that was read leads to a report at worst, loading is settled. -/
theorem settled_bind
    {next : Value → Except LoadError α}
    (reports : ∀ document, Reports path (next document)) :
    Settled readers path content (document readers holding path content >>= next) := by
  unfold document
  by_cases null : Char.ofNat 0 ∈ path.toList
  · rw [File.read_of_null null]
    exact settled_of_escapes rfl (.nullInPath null)
  · rw [File.read_of_no_null null]
    cases content with
    | error reason =>
        refine settled_of_reports ?_ (by rintro _ _ ⟨⟩; contradiction)
        rintro _ ⟨⟩
        exact ⟨_, rfl, .inr (.of ..)⟩
    | ok bytes =>
        dsimp only
        cases given : readers.forPath (File.tidy path) bytes with
        | ok found =>
            exact settled_of_reports (reports found)
              (by rintro _ _ ⟨⟩ <;> simp_all)
        | error reason =>
            cases reason with
            | notText =>
                exact settled_of_escapes rfl (.notText null given)
            | malformed =>
                refine settled_of_reports ?_ (by rintro _ _ ⟨⟩ <;> simp_all)
                rintro _ ⟨⟩
                exact ⟨_, rfl, .inr (.of ..)⟩
            | unreadableInteger reason =>
                exact settled_of_escapes rfl (.unreadableInteger null given)
            | breakdown name =>
                exact settled_of_escapes rfl (.breakdown null given)

theorem reports_wrongLayout :
    Reports path (.error ⟨path, holding, .wrongLayout⟩ : Except LoadError α) := by
  rintro _ ⟨⟩
  exact ⟨_, rfl, .inl (.of ..)⟩

theorem reports_settle
    (checked : Checked α) :
    Reports path (settle holding path checked) := by
  cases checked with
  | valid value =>
      exact nofun
  | invalid complaints =>
      rintro _ ⟨⟩
      exact ⟨_, rfl, .inl (.of ..)⟩

theorem settled_groupSet
    (supply : IdSupply) :
    Settled readers path content (groupSet readers supply path content) := by
  refine settled_bind fun document => ?_
  split
  · exact reports_settle _
  · exact reports_wrongLayout

theorem settled_facts :
    Settled readers path content (facts readers path content) := by
  refine settled_bind fun document => ?_
  split
  · exact nofun
  · exact nofun
  · exact reports_wrongLayout

theorem settled_nodes :
    Settled readers path content (nodes readers path content) := by
  refine settled_bind fun document => ?_
  split
  · exact reports_settle _
  · exact reports_wrongLayout

end Loaders

/--
Whatever stands at a path, and however its bytes are read, each loader gives what the
file is meant to hold, or fails with a report that carries the path, or lets an error
escape: where no file has the path, and where the reader of its notation complains of
something else than the notation.
-/
theorem loaders_settled
    (readers : Readers)
    (supply : IdSupply)
    (path : String)
    (content : Content) :
    Settled readers path content (groupSet readers supply path content) ∧
      Settled readers path content (facts readers path content) ∧
      Settled readers path content (nodes readers path content) :=
  ⟨settled_groupSet supply, settled_facts, settled_nodes⟩

/-- A byte that no text has is no syntax error, so that a list of groups with it is not reported. -/
theorem groupSet_notText :
    raised?
        (groupSet .standard (.numbered 1) "g.yaml"
          (.ok ⟨#[0x2d, 0x20, 0x69, 0x64, 0x3a, 0x20, 0xff, 0x0a]⟩)) =
      some (.plain "UnicodeDecodeError" []) := by
  have notText :
      ¬ (ByteArray.mk
          #[0x2d, 0x20, 0x69, 0x64, 0x3a, 0x20, 0xff, 0x0a]).IsValidUTF8 := by
    decide
  exact ((settled_groupSet (.numbered 1)).escapes _ _).mpr
    (File.escapes_of_not_isValidUTF8 (by decide) notText)

end Inventory

end FleetConfig
