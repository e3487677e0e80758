import MediaNaming.Sector.Split

/- Paths are extended part by part and never normalised. -/
namespace MediaNaming

/-- The path of `part` under `path`. A part that begins at the root takes the place of the path. -/
def pushPath (path part : Text) : Text :=
  if part.head? = some pathSeparator then part
  else if path = [] ∨ path.getLast? = some pathSeparator then path ++ part
  else path ++ pathSeparator :: part

def targetPath (location folder name extension : Text) : Text :=
  pushPath (pushPath location folder) (name ++ '.' :: extension)

end MediaNaming
