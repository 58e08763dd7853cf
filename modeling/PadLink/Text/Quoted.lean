import PadLink.Text.Hidden

set_option autoImplicit false

/-! # Quoted text

Text in messages stands in double quotes, and every character in it can be told: quotes, backslashes
and the usual control characters by a letter behind a backslash, other hidden characters by their
number in braces, everything else as itself. -/

namespace PadLink.Quoted

/-- A character as it stands between the quotes. -/
def escape (c : Char) : List Char :=
  match c with
  | '"' => ['\\', '"']
  | '\\' => ['\\', '\\']
  | '\n' => ['\\', 'n']
  | '\r' => ['\\', 'r']
  | '\t' => ['\\', 't']
  | '\x00' => ['\\', '0']
  | c => if isHidden c then ['\\', 'u', '\x7b'] ++ Nat.toDigits 16 c.toNat ++ ['\x7d'] else [c]

/-- The text in its quotes. -/
def quote (text : String) : String :=
  String.ofList ('"' :: text.toList.flatMap escape ++ ['"'])

end PadLink.Quoted
