import Underwriting.Text.Digits
import Underwriting.Text.Printable

/-!
Texts inside messages. A quoted text stands between quotation marks; a quotation mark, a backslash
and the common controls are written with a backslash, and a character that cannot be shown as it is
by its position in hexadecimal.
-/

namespace Underwriting.Text

def hexDigits (number : Nat) : List Char := Nat.toDigits 16 number

def escapedChar (char : Char) : List Char :=
  match char with
  | '\x00' => ['\\', '0']
  | '\t' => ['\\', 't']
  | '\r' => ['\\', 'r']
  | '\n' => ['\\', 'n']
  | '"' => ['\\', '"']
  | '\\' => ['\\', '\\']
  | other =>
      if extendsGlyph other || !isPrintable other then
        ['\\', 'u', '\x7b'] ++ hexDigits other.toNat ++ ['\x7d']
      else [other]

def quoted (text : List Char) : List Char := '"' :: text.flatMap escapedChar ++ ['"']

def quotedText (text : String) : String := String.ofList (quoted text.toList)

end Underwriting.Text
