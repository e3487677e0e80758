import MediaNaming.Text.Basic
import MediaNaming.Text.Classes
import MediaNaming.Text.Property.Extending
import MediaNaming.Text.Property.Printable

/-
Text quoted in a message. A quote and a backslash get a backslash, four controls have short
escapes, and a character that does not show by itself is named by its code point.
-/
namespace MediaNaming

def isPrintable (c : Char) : Bool := inRanges Property.printable c.toNat

def isExtending (c : Char) : Bool := inRanges Property.extending c.toNat

def escaped (c : Char) : Text :=
  match c with
  | '\x00' => ['\\', '0']
  | '\t' => ['\\', 't']
  | '\r' => ['\\', 'r']
  | '\n' => ['\\', 'n']
  | '"' => ['\\', '"']
  | '\\' => ['\\', '\\']
  | c =>
    if isPrintable c && !isExtending c then [c]
    else ['\\', 'u', '\x7b'] ++ Nat.toDigits 16 c.toNat ++ ['\x7d']

def Text.quoted (t : Text) : Text := '"' :: t.flatMap escaped ++ ['"']

end MediaNaming
