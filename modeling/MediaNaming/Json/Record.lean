import MediaNaming.Json.Value

/-
Records in a JSON document. A record is an object with its known fields, each at most once,
among others that are passed over; or an array of the values of all fields in order. Every name
in the object must be a text.
-/
namespace MediaNaming
namespace Json

variable {α : Type}

def knownFields? (names : List Text) (members : List (Option Text × Json)) :
    Option (List (Text × Json)) := do
  let members ← members.mapM fun (name, value) => name.map fun name => (name, value)
  let known := members.filter fun (name, _) => names.contains name
  if (known.map Prod.fst).Nodup then some known else none

def record? (names : List Text) : Json → Option (List (Text × Json))
  | object members => knownFields? names members
  | array items => if items.length = names.length then some (names.zip items) else none
  | _ => none

/-- A record whose array form may leave out the last fields. -/
def shortRecord? (names : List Text) : Json → Option (List (Text × Json))
  | object members => knownFields? names members
  | array items => if items.length ≤ names.length then some (names.zip items) else none
  | _ => none

def field? (fields : List (Text × Json)) (name : Text) (read : Json → Option α) : Option α :=
  (fields.lookup name).bind read

/-- A field that may be missing and may be null. -/
def optionalField? (fields : List (Text × Json)) (name : Text) (read : Json → Option α) :
    Option (Option α) :=
  match fields.lookup name with
  | none => some none
  | some value => orNull? read value

def fieldOr? (fields : List (Text × Json)) (name : Text) (default : α) (read : Json → Option α) :
    Option α :=
  match fields.lookup name with
  | none => some default
  | some value => read value

end Json
end MediaNaming
