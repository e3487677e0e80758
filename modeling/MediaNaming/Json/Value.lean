import MediaNaming.Text.Numeral

/-
Values of a JSON document. Names and strings are read even where an escape leaves half of a
surrogate pair: then there is no text, which is a fault only where the text is wanted.
-/
namespace MediaNaming

inductive Json where
  | null
  | bool (value : Bool)
  | integer (value : Int)
  /-- A number with a fraction or an exponent, or minus zero, as it is written. -/
  | real (written : Text)
  | string (text : Option Text)
  | array (items : List Json)
  | object (members : List (Option Text × Json))

namespace Json

variable {α : Type}

def ofText (t : Text) : Json := string (some t)

def ofNat (n : Nat) : Json := integer n

def ofMembers (members : List (String × Json)) : Json :=
  object (members.map fun (name, value) => (some name.toList, value))

def ofOption (write : α → Json) : Option α → Json
  | some a => write a
  | none => null

def ofList (write : α → Json) (items : List α) : Json := array (items.map write)

def bool? : Json → Option Bool
  | bool b => some b
  | _ => none

def text? : Json → Option Text
  | string t => t
  | _ => none

def natUpTo? (limit : Nat) : Json → Option Nat
  | integer (.ofNat n) => if n ≤ limit then some n else none
  | _ => none

def signedWord? : Json → Option Int
  | integer n => if -0x80000000 ≤ n ∧ n < 0x80000000 then some n else none
  | _ => none

def list? (read : Json → Option α) : Json → Option (List α)
  | array items => items.mapM read
  | _ => none

def orNull? (read : Json → Option α) : Json → Option (Option α)
  | null => some none
  | value => (read value).map some

end Json
end MediaNaming
