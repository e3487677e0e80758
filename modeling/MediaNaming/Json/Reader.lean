import MediaNaming.Json.Token

/-
Reading a JSON document. The reader keeps the arrays and objects that are open, innermost
first, so a document may nest to any depth.
-/
namespace MediaNaming
namespace Json

/-- An array or object with what it holds so far, last first. -/
inductive Frame where
  | items (before : List Json)
  | members (before : List (Option Text × Json)) (name : Option Text)

inductive Reader where
  | value (frames : List Frame)
  | itemOrEnd (frames : List Frame)
  | name (before : List (Option Text × Json)) (frames : List Frame)
  | colon (before : List (Option Text × Json)) (name : Option Text) (frames : List Frame)
  | after (value : Json) (frames : List Frame)

namespace Reader

def begin (frames : List Frame) : JsonToken → Option Reader
  | .scalar v => some (.after v frames)
  | .string t => some (.after (.string t) frames)
  | .openArray => some (.itemOrEnd frames)
  | .openObject => some (.name [] frames)
  | _ => none

def step? : Reader → JsonToken → Option Reader
  | value frames, token => begin frames token
  | itemOrEnd frames, .closeArray => some (after (.array []) frames)
  | itemOrEnd frames, token => begin (.items [] :: frames) token
  | name before frames, .string t => some (colon before t frames)
  | name [] frames, .closeObject => some (after (.object []) frames)
  | name _ _, _ => none
  | colon before key frames, .colon => some (value (.members before key :: frames))
  | colon _ _ _, _ => none
  | after v (.items before :: frames), .comma => some (value (.items (v :: before) :: frames))
  | after v (.items before :: frames), .closeArray =>
    some (after (.array (v :: before).reverse) frames)
  | after v (.members before key :: frames), .comma => some (name ((key, v) :: before) frames)
  | after v (.members before key :: frames), .closeObject =>
    some (after (.object ((key, v) :: before).reverse) frames)
  | after _ _, _ => none

def result? : Reader → Option Json
  | after v [] => some v
  | _ => none

end Reader

def read? (t : Text) : Option Json :=
  ((tokens? t).bind fun tokens => tokens.foldlM Reader.step? (.value [])).bind Reader.result?

end Json
end MediaNaming
