import MediaNaming.Text.Numeral
import MediaNaming.Text.Quoted

/- What can go wrong with a name, a naming template or a configuration, and how it is told. -/
namespace MediaNaming

inductive NamingError where
  /-- No dot follows the last path separator. -/
  | noExtension (input : Text)
  | conflictingSeasons (first second : Nat) (input : Text)
  /-- One sector carries more than one season or cross mark. -/
  | ambiguousSector (sector : Text)
  | unterminatedGroup (template : Text) (index : Nat)
  | invalidConfig
  /-- A cut at these bytes would fall inside a character or run backwards. -/
  | brokenCut (text : Text) (start stop : Nat)
deriving DecidableEq, Repr

namespace NamingError

/-- The error rejects one file and lets a batch go on. -/
def rejectsFile : NamingError → Bool
  | noExtension _ | conflictingSeasons _ _ _ | ambiguousSector _ => true
  | _ => false

def message : NamingError → Text
  | noExtension input => "file name has no extension: ".toList ++ input.quoted
  | conflictingSeasons first second input =>
    "conflicting seasons ".toList ++ Text.ofNumber first ++ " and ".toList ++ Text.ofNumber second
      ++ " in ".toList ++ input.quoted
  | ambiguousSector sector =>
    "sector ".toList ++ sector.quoted ++ " carries more than one season/episode marker".toList
  | unterminatedGroup template index =>
    "unterminated group at index ".toList ++ Text.ofNumber index ++ " in template ".toList
      ++ template.quoted
  | invalidConfig => "invalid configuration".toList
  | brokenCut text start stop =>
    "no text between bytes ".toList ++ Text.ofNumber start ++ " and ".toList ++ Text.ofNumber stop
      ++ " of ".toList ++ text.quoted

end NamingError
end MediaNaming
