import MediaNaming.Text.Classes

/-
Directives of a naming template and what they show. A conditional shows its inner text unless
that text is blank, equals the raw text of the conditional or is shorter than it.
-/
namespace MediaNaming

inductive Directive where
  /-- A backslash or a question mark with nothing after it. -/
  | blank
  | literal (c : Char)
  /-- A field, or the character itself where no field has this letter. -/
  | letter (c : Char)
  | group (content : Text) (body : List Directive)
  /-- A conditional on one directive, with the raw text of that directive. -/
  | optional (raw : Text) (inner : Directive)

abbrev Fields := Char → Option Text

inductive Rendered where
  | text (t : Text)
  | suppressed
deriving DecidableEq, Repr

namespace Rendered

def shown : Rendered → Text
  | text t => t
  | suppressed => []

def gate (raw t : Text) : Rendered :=
  if t.trim = [] ∨ t = raw ∨ t.length < raw.length then suppressed else text t

end Rendered

namespace Directive

mutual

def render (fields : Fields) : Directive → Rendered
  | blank => .text []
  | literal c => .text [c]
  | letter c => .text ((fields c).getD [c])
  | group content body => .gate content (showAll fields body)
  | optional raw inner => .gate raw (inner.render fields).shown

def showAll (fields : Fields) : List Directive → Text
  | [] => []
  | d :: more => (d.render fields).shown ++ showAll fields more

end

theorem showAll_append (fields : Fields) (ds es : List Directive) :
    showAll fields (ds ++ es) = showAll fields ds ++ showAll fields es := by
  induction ds with
  | nil => simp [showAll]
  | cons d ds ih => simp [showAll, ih]

end Directive
end MediaNaming
