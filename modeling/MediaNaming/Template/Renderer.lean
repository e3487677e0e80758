import MediaNaming.Template.Reader

/- Rendering a template: its directives are read through the cache and then shown. -/
namespace MediaNaming

def renderTemplate (template : Text) (fields : Fields) : TemplateReader Text := do
  return Directive.showAll fields (← Directive.readFrom template 0)

/-- What the directive at `index` shows, and where the next one begins. Past the end, or inside
    a character, there is nothing to show. -/
def renderAt (template : Text) (index : Nat) (fields : Fields) :
    TemplateReader (Rendered × Nat) := do
  let found ← Directive.readAt template index
  return (found.directive.render fields, found.next)

def renderOnce (template : Text) (fields : Fields) : Except NamingError Text :=
  (renderTemplate template fields {}).1

end MediaNaming
