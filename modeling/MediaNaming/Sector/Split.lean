import MediaNaming.Error

/-
A raw name is a location, a name and an extension; the name is a run of sectors between
delimiters. Splitting keeps every character, so the parts rebuild the name.
-/
namespace MediaNaming

structure SplitName where
  location : Text
  name : Text
  extension : Text
deriving DecidableEq, Repr

def pathSeparator : Char := '/'

/-- The location ends at the last separator and the extension begins after the last dot that
    follows it. -/
def SplitName.ofPath? (input : Text) : Except NamingError SplitName :=
  let (location, file) := (input.splitLast? pathSeparator).getD ([], input)
  match file.splitLast? '.' with
  | some (name, extension) => .ok ⟨location, name, extension⟩
  | none => .error (.noExtension input)

def isDelimiter (c : Char) : Bool := c == ',' || c == '.' || c == '_' || c == ' '

def sectorsOf (name : Text) : List Text := name.pieces isDelimiter

end MediaNaming
