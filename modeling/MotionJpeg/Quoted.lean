import MotionJpeg.Unicode.Extending
import MotionJpeg.Unicode.Unseen

/-!
# Quoted texts

A text between double quotes, in which every character can be told from every other: what would
end the quotes, show nothing or run into its neighbour is written with a backslash.
-/

namespace MotionJpeg.Quoted

/-- The character after the backslash, for a character that has a short form. -/
def letter? : Char → Option Char
  | '"' => some '"'
  | '\\' => some '\\'
  | '\n' => some 'n'
  | '\r' => some 'r'
  | '\t' => some 't'
  | '\x00' => some '0'
  | _ => none

/-- The character cannot be seen for what it is. A space can, between quotes. -/
def isHidden (c : Char) : Bool := c != ' ' && (Unicode.isUnseen c || Unicode.isExtending c)

/-- The code point of a character in lower-case hexadecimal, in braces after `\u`. -/
def codePoint (c : Char) : List Char :=
  ['\\', 'u', '\x7b'] ++ Nat.toDigits 16 c.toNat ++ ['\x7d']

/-- A character as it is written between quotes. -/
def encodeChar (c : Char) : List Char :=
  match letter? c with
  | some letter => ['\\', letter]
  | none => if isHidden c then codePoint c else [c]

/-- A text between quotes. -/
def encode (text : String) : String :=
  String.ofList ('"' :: text.toList.flatMap encodeChar ++ ['"'])

end MotionJpeg.Quoted
