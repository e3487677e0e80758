import MediaNaming.Text.Numeral

/- Addresses of requests to the metadata service: a base, a path and an encoded query. -/
namespace MediaNaming

def hexByte (b : UInt8) : Text :=
  (Nat.digitChar (b.toNat / 16)).toUpper :: [(Nat.digitChar (b.toNat % 16)).toUpper]

def encodedQueryChar (c : Char) : Text :=
  if c.isAlphanum ∨ c = '*' ∨ c = '-' ∨ c = '.' ∨ c = '_' then [c]
  else if c = ' ' then ['+']
  else (String.utf8EncodeChar c).flatMap fun b => '%' :: hexByte b

def queryItem (name value : Text) : Text := name ++ '=' :: value.flatMap encodedQueryChar

def trimmedBase (base : Text) : Text := (base.reverse.dropWhile (· == '/')).reverse

def searchAddress (base series : Text) : Text :=
  base ++ "/search/shows?".toList ++ queryItem ['q'] series

def episodeAddress (base : Text) (id season number : Nat) : Text :=
  base ++ "/shows/".toList ++ Text.ofNumber id ++ "/episodebynumber?".toList
    ++ queryItem "season".toList (Text.ofNumber season) ++ '&'
    :: queryItem "number".toList (Text.ofNumber number)

end MediaNaming
