import MediaNaming.Media.MediaFile
import MediaNaming.Template.Renderer
import MediaNaming.Template.Shape

/- A movie is named by its sectors and valid when its name and year make the canonical shape. -/
namespace MediaNaming

structure Movie where
  media : MediaFile
deriving DecidableEq, Repr

namespace Movie

def title (m : Movie) : Text := m.media.cleanName

def fields (m : Movie) : Fields := m.media.fields

def isValid (m : Movie) : Bool :=
  match renderOnce "C (Y)".toList m.fields with
  | .ok name => hasMovieShape name
  | .error _ => false

end Movie
end MediaNaming
