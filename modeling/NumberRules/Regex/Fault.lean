import NumberRules.Text.Bytes
import NumberRules.Text.Digits

/-! # Faults of regular expressions

Why a text is no regular expression, and how that is reported: with the text itself, line by line,
where a place in it is to blame.
-/

namespace NumberRules.Regex
set_option autoImplicit false

inductive Fault where
  | openGroup
  | strayParenthesis
  | nothingToRepeat
  | openCounts
  | badCount
  | reversedCounts
  | cutEscape
  | unknownEscape
  | backReference
  | badCodePoint
  /-- The edge of a word is of an unknown kind. -/
  | unknownEdge
  | lookAround
  | badName
  | repeatedName
  | unknownMode
  /-- A mode or the minus sign before modes is given twice. -/
  | repeatedMode
  | danglingMinus
  | openClass
  | reversedRange
  /-- A range of characters ends at something else than a character. -/
  | badRange
  | anchorInClass
  /-- Groups, classes and repetitions are nested too deeply. -/
  | tooDeep
  /-- A class that is known for ASCII only is wanted for all characters. -/
  | unknownClass
  | unknownProperty
  /-- Letters of either case are known for ASCII only but wanted for all characters. -/
  | unknownCase
  /-- A character beyond ASCII stands in a class for ASCII. -/
  | beyondAscii
  | noText
  /-- The edges of words are known for ASCII only but wanted for all characters. -/
  | unknownWords
  | tooBig
  deriving DecidableEq

/-- The greatest depth of groups, classes and repetitions. -/
def depthLimit : Nat := 250

def roomLimit : Nat := 10 * 1024 * 1024

namespace Fault

def text : Fault → String
  | openGroup => "unclosed group"
  | strayParenthesis => "unopened group"
  | nothingToRepeat => "repetition operator missing expression"
  | openCounts => "unclosed counted repetition"
  | badCount => "repetition quantifier expects a valid decimal"
  | reversedCounts => "invalid repetition count range, the start must be <= the end"
  | cutEscape => "incomplete escape sequence, reached end of pattern prematurely"
  | unknownEscape => "unrecognized escape sequence"
  | backReference => "backreferences are not supported"
  | badCodePoint => "hexadecimal literal is not a Unicode scalar value"
  | unknownEdge =>
    "unrecognized special word boundary assertion, valid choices are: start, end, start-half " ++
      "or end-half"
  | lookAround => "look-around, including look-ahead and look-behind, is not supported"
  | badName => "invalid capture group name"
  | repeatedName => "duplicate capture group name"
  | unknownMode => "unrecognized flag"
  | repeatedMode => "duplicate flag"
  | danglingMinus => "dangling flag negation operator"
  | openClass => "unclosed character class"
  | reversedRange => "invalid character class range, the start must be <= the end"
  | badRange => "invalid range boundary, must be a literal"
  | anchorInClass => "invalid escape sequence found in character class"
  | tooDeep =>
    "exceed the maximum number of nested parentheses/brackets (" ++ natText depthLimit ++ ")"
  | unknownClass => "Unicode-aware character class not found"
  | unknownProperty => "Unicode property not found"
  | unknownCase => "Unicode-aware case insensitivity matching is not available"
  | beyondAscii => "Unicode not allowed here"
  | noText => "pattern can match invalid UTF-8"
  | unknownWords => "error building NFA"
  | tooBig => "Compiled regex exceeds size limit of " ++ natText roomLimit ++ " bytes."

/-- The lines of a text as they are shown: numbered if there are several. -/
def shownLines (pattern : List Char) : String :=
  if pattern.contains '\n' then
    let rows := Text.lines pattern
    let count := rows.length + if pattern.getLast? = some '\n' then 1 else 0
    let rule := String.ofList (List.replicate 79 '~') ++ "\n"
    let numbered := rows.zipIdx.map fun row =>
      let number := (natText (row.2 + 1)).toList
      String.ofList (List.replicate ((natText count).length - number.length) ' ' ++ number ++
        ':' :: ' ' :: row.1) ++ "\n"
    rule ++ String.join numbered ++ rule
  else "    " ++ String.ofList pattern ++ "\n"

def message (pattern : List Char) (fault : Fault) : String :=
  if fault = unknownWords || fault = tooBig then fault.text
  else "regex parse error:\n" ++ shownLines pattern ++ "error: " ++ fault.text

end Fault

end NumberRules.Regex
