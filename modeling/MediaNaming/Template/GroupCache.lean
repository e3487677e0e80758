import MediaNaming.Template.Group

/-
Groups that are scanned once. An entry carries the scan that it stands for, so what the cache
answers is what a scan would answer; a scan that fails leaves no entry.
-/
namespace MediaNaming

structure CachedGroup where
  template : Text
  start : Nat
  found : ScannedGroup template start

structure GroupCache where
  entries : List CachedGroup := []

namespace GroupCache

def size (cache : GroupCache) : Nat := cache.entries.length

def lookup (template : Text) (start : Nat) :
    List CachedGroup → Option (ScannedGroup template start)
  | [] => none
  | e :: more =>
    if same : e.template = template ∧ e.start = start then
      some ⟨e.found.toGroup, by rw [← same.1, ← same.2]; exact e.found.scanned⟩
    else lookup template start more

def extract (cache : GroupCache) (template : Text) (start : Nat) :
    Except NamingError (ScannedGroup template start) × GroupCache :=
  match lookup template start cache.entries with
  | some found => (.ok found, cache)
  | none =>
    match scanned : scanGroup template start with
    | .ok g => (.ok ⟨g, scanned⟩, ⟨⟨template, start, g, scanned⟩ :: cache.entries⟩)
    | .error e => (.error e, cache)

end GroupCache
end MediaNaming
