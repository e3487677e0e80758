import MediaNaming.Text.Classes

/-
Shapes that a canonical name has. A movie has a year after its name; an episode has a season
and its episodes after the name, and a title and a year may follow.
-/
namespace MediaNaming

def lineBreak : Char := '\n'

def beforeYear? (t : Text) : Option Text :=
  match t.drop (t.length - 7) with
  | [' ', '(', a, b, c, d, ')'] =>
    if [a, b, c, d].all isDecimal then some (t.take (t.length - 7)) else none
  | _ => none

def hasMovieShape (t : Text) : Bool :=
  match beforeYear? t with
  | some (c :: name) => !isBlank c && !name.contains lineBreak
  | _ => false

def afterTwoDigits? : Text → Option Text
  | a :: b :: rest => if isDecimal a && isDecimal b then some rest else none
  | _ => none

def isTitleOrYear (t : Text) : Bool :=
  match Text.afterLead? " - ".toList t with
  | some title => !title.isEmpty && !title.contains lineBreak
  | none => t.isEmpty || beforeYear? t == some []

/-- Further episodes, each after a hyphen, and then a title or a year. -/
def isEpisodeRest (t : Text) : Bool :=
  match t with
  | '-' :: a :: b :: rest => isDecimal a && isDecimal b && isEpisodeRest rest
  | t => isTitleOrYear t

def isNumbering (t : Text) : Bool :=
  match afterTwoDigits? t with
  | some ('x' :: rest) => (afterTwoDigits? rest).any isEpisodeRest
  | _ => false

def hasEpisodeShape : Text → Bool
  | [] => false
  | c :: rest =>
    c != lineBreak
      && ((Text.afterLead? " - ".toList rest).any isNumbering || hasEpisodeShape rest)

end MediaNaming
