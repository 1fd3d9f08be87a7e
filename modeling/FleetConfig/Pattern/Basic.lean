import FleetConfig.Pattern.Matching
import FleetConfig.Pattern.Reading

/-!
# Compiled patterns

A pattern is compiled once, which reads it and checks it, and then searched for
in any number of texts.
-/

namespace FleetConfig

/-- A pattern that has been read and checked. -/
structure Pattern where
  nodes : List Pattern.Node
  options : Pattern.Options
  deriving Repr

namespace Pattern

/-- Read and check a pattern. -/
def read (source : String) : Except Fault Pattern :=
  match readPattern.run (.start source) with
  | .error fault =>
      .error fault
  | .ok (nodes, progress) =>
      let options := progress.options.toOptions
      match sequenceProblem? options nodes with
      | some reason =>
          .error (.invalid ⟨reason, none⟩)
      | none =>
          .ok ⟨nodes, options⟩

/-- Compile a pattern; that it is invalid is a result like another, only fatal faults are not. -/
def compile (source : String) : Except Fatal (Except Invalid Pattern) :=
  match read source with
  | .ok pattern =>
      .ok (.ok pattern)
  | .error (.invalid invalid) =>
      .ok (.error invalid)
  | .error (.fatal fatal) =>
      .error fatal

/-- Whether the pattern matches at a position. -/
def matchesAt
    (pattern : Pattern)
    (text : Array Char)
    (position : Nat) :
    Bool :=
  (runSequence text pattern.options pattern.nodes ⟨position, []⟩ some).isSome

/-- Whether the pattern matches anywhere in a text. -/
def search
    (pattern : Pattern)
    (text : String) :
    Bool :=
  let characters := text.toList.toArray
  (List.range (characters.size + 1)).any (pattern.matchesAt characters)

end Pattern

end FleetConfig
