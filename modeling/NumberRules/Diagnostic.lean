import NumberRules.Error
import NumberRules.FileError
import NumberRules.Text.Blank
import NumberRules.Text.Bytes

/-! # Diagnostics

A diagnostic points at the place in a source text that an error is about.  Its label is a stretch of
bytes; it is cut down to the text, so it never ends outside.
-/

namespace NumberRules
set_option autoImplicit false

/-! ## Errors of rules files -/

inductive LoadError where
  | unreadable (path : String) (error : FileError)
  /-- Its content is no rules file; line and column count from one. -/
  | invalid (path : String) (line column : Nat) (reason content : String)
  deriving DecidableEq

def LoadError.message : LoadError → String
  | unreadable path error => s!"failed to read '{path}': {error.message}"
  | invalid path line column reason _ =>
    path ++ ":" ++ natText line ++ ":" ++ natText column ++ ": " ++ reason

/-! ## Diagnostics -/

structure Diagnostic where
  message : String
  help : Option String
  offset : Nat
  length : Nat
  origin : String
  text : String
  deriving DecidableEq

namespace Diagnostic

def code : String := "cldr_rules::syntax"

structure Span where
  text : String
  offset : Nat
  length : Nat
  deriving DecidableEq

/-- The part of a span that lies in its text. -/
def Span.clamp (s : Span) : Span :=
  let offset := min s.offset s.text.utf8ByteSize
  ⟨s.text, offset, min s.length (s.text.utf8ByteSize - offset)⟩

/-- The length in bytes of the first word of a text; one if it has none. -/
def firstWordLength (text : String) : Nat :=
  match Text.words text.toList with
  | [] => 1
  | word :: _ => Text.utf8Length word

/-- The place an error is about, as far as it names one.  A condition is labelled from the column
on, a body at the first occurrence of the offending text, a key as a whole. -/
def spanOf : CompileError → Span
  | .conditionSyntax e => ⟨e.rule, e.column - 1, firstWordLength e.offending⟩
  | .bodySyntax e =>
    let offending := e.fault.offending
    ⟨e.body, (Text.utf8Find? offending.toList e.body.toList).getD 0,
      max offending.utf8ByteSize 1⟩
  | .invalidBaseValue key | .invalidRadix key _ | .duplicateRule _ key =>
    ⟨key, 0, key.utf8ByteSize⟩
  | .inPluralRule _ _ | .inSpellingRule _ _ _ => ⟨"", 0, 0⟩

def helpFor : CompileError → Option String
  | .conditionSyntax _ =>
    some "operands are n, i, v, w, f, t, e and c; relations use =, !=, is, in or within"
  | .invalidBaseValue _ => some "keys are numbers or one of -x, x.x, 0.x, x.0, Inf, NaN"
  | _ => none

/-- The diagnostic of an error in a rule that comes from `origin`. -/
def ofCompileError (origin : String) (e : CompileError) : Diagnostic :=
  let span := (spanOf e.root).clamp
  ⟨e.message, helpFor e.root, span.offset, span.length, origin, span.text⟩

/-- The byte position of a line and column: every line before counts its bytes and one for its
end. -/
def offsetOf (content : String) (line column : Nat) : Nat :=
  ((Text.lines content.toList).take (line - 1)).foldl (fun n l => n + Text.utf8Length l + 1)
    (column - 1)

/-- The diagnostic of a rules file that cannot be read, if it has content to point at. -/
def ofLoadError? : LoadError → Option Diagnostic
  | .unreadable _ _ => none
  | .invalid path line column reason content =>
    some ⟨reason, none, min (offsetOf content line column) content.utf8ByteSize, 1, path, content⟩

/-- The diagnostic in a few lines of text. -/
def render (d : Diagnostic) : String :=
  "error: " ++ d.message ++ "\n  at byte " ++ natText d.offset ++ " of " ++ d.origin ++ "\n" ++
    (match d.help with
      | some help => "  help: " ++ help ++ "\n"
      | none => "")

end Diagnostic

end NumberRules
