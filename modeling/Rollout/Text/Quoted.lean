import Rollout.Text.Quoted.Table

/-!
# Quoted text for messages

A text between double quotes, in which every character can be seen.

* `hex`: a code point in lower-case hexadecimal digits.
* `quoted`: the quoted form of a text.
-/

namespace Rollout.Text

/-- A character that shows nothing of its own. -/
def isHidden (c : Char) : Bool := hiddenRanges.has c

/-- Hexadecimal digits in lower case, without leading zeros. -/
def hex (n : Nat) : List Char := Nat.toDigits 16 n

/-- One character inside quotes. -/
def quotedChar (c : Char) : List Char :=
  match c with
  | '\x00' => ['\\', '0']
  | '\t' => ['\\', 't']
  | '\r' => ['\\', 'r']
  | '\n' => ['\\', 'n']
  | '\\' => ['\\', '\\']
  | '"' => ['\\', '"']
  | c => if isHidden c then "\\u\x7b".toList ++ hex c.toNat ++ ['\x7d'] else [c]

/-- The text between quotes, hidden characters by their code points. -/
def quoted (s : String) : String :=
  String.ofList ('"' :: s.toList.flatMap quotedChar ++ ['"'])

end Rollout.Text
