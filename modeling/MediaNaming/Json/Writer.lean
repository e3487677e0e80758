import MediaNaming.Json.Value

/-
Writing a JSON document without blanks. A string that is no text is written as the replacement
character.
-/
namespace MediaNaming
namespace Json

def hexDigits4 (n : Nat) : Text :=
  [n / 0x1000 % 16, n / 0x100 % 16, n / 0x10 % 16, n % 16].map Nat.digitChar

def escapedUnit (c : Char) : Text :=
  if c = '"' then ['\\', '"']
  else if c = '\\' then ['\\', '\\']
  else if c.toNat < 0x20 then ['\\', 'u'] ++ hexDigits4 c.toNat
  else [c]

def writeString (t : Option Text) : Text :=
  '"' :: (t.getD ['\ufffd']).flatMap escapedUnit ++ ['"']

def writeInteger : Int → Text
  | .ofNat n => Text.ofNumber n
  | .negSucc n => '-' :: Text.ofNumber (n + 1)

mutual

def write : Json → Text
  | null => "null".toList
  | bool true => "true".toList
  | bool false => "false".toList
  | integer n => writeInteger n
  | real written => written
  | string t => writeString t
  | array items => '[' :: writeItems items
  | object members => '\x7b' :: writeMembers members

def writeItems : List Json → Text
  | [] => [']']
  | [item] => write item ++ [']']
  | item :: more => write item ++ ',' :: writeItems more

def writeMembers : List (Option Text × Json) → Text
  | [] => ['\x7d']
  | [(name, value)] => writeString name ++ ':' :: write value ++ ['\x7d']
  | (name, value) :: more => writeString name ++ ':' :: write value ++ ',' :: writeMembers more

end

end Json
end MediaNaming
