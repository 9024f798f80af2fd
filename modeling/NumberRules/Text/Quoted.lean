import NumberRules.Text.Hidden

/-! # Quoted text

A quoted text stands between quotation marks.  Quotation marks and backslashes inside it follow a
backslash, as do the letters that stand for the commonest controls; other hidden characters are
written by their code points.
-/

namespace NumberRules.Text
set_option autoImplicit false

def escape (c : Char) : List Char :=
  if c = '"' || c = '\\' then ['\\', c]
  else if c = '\n' then ['\\', 'n']
  else if c = '\r' then ['\\', 'r']
  else if c = '\t' then ['\\', 't']
  else if c = '\x00' then ['\\', '0']
  else if isHidden c then ['\\', 'u', '{'] ++ Nat.toDigits 16 c.toNat ++ ['}']
  else [c]

def quoted (text : String) : String :=
  String.ofList ('"' :: (text.toList.flatMap escape ++ ['"']))

end NumberRules.Text
