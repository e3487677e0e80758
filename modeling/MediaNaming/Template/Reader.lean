import MediaNaming.Template.Directive
import MediaNaming.Template.GroupCache

/-
Reading the directives of a template. A group is read as a template of its own, which is
shorter; every other directive ends after it begins. So reading ends, and only a group that is
never closed makes it fail. The groups scanned before a failure stay in the cache.
-/
namespace MediaNaming

abbrev TemplateReader := ExceptT NamingError (StateM GroupCache)

namespace TemplateReader

def extract (template : Text) (start : Nat) :
    TemplateReader (ScannedGroup template start) :=
  fun cache => cache.extract template start

end TemplateReader

structure DirectiveAt (template : Text) (index : Nat) where
  directive : Directive
  next : Nat
  advances : index < template.byteSize → index < next

theorem Text.dropBytes?_cons_lt {t rest : Text} {c : Char} {n : Nat}
    (found : t.dropBytes? n = some (c :: rest)) : n < t.byteSize := by
  obtain ⟨lead, rfl, size⟩ := Text.dropBytes?_some found
  have := c.utf8Size_pos
  simp
  omega

namespace Directive

mutual

def readAt (template : Text) (index : Nat) : TemplateReader (DirectiveAt template index) := do
  match _at : template.dropBytes? index with
  | none | some [] => return ⟨blank, template.byteSize, id⟩
  | some ['\\'] | some ['?'] => return ⟨blank, index + 1, fun _ => Nat.lt_succ_self index⟩
  | some ('\\' :: c :: _) => return ⟨literal c, index + 1 + c.utf8Size, fun _ => by omega⟩
  | some ('?' :: '(' :: _) =>
    let g ← TemplateReader.extract template (index + 1)
    have _smaller := g.sizes.2
    let body ← readFrom g.content 0
    return ⟨group g.content body, g.stop, fun _ => by have := g.sizes; omega⟩
  | some ('?' :: _ :: _) =>
    have _inside := Text.dropBytes?_cons_lt _at
    let inner ← readAt template (index + 1)
    match _cut : template.slice? (index + 1) inner.next with
    | some raw =>
      return ⟨optional raw inner.directive, inner.next,
        fun _ => by have := (Text.byteSize_slice? _cut).1; omega⟩
    | none => throw (.brokenCut template (index + 1) inner.next)
  | some (c :: _) =>
    return ⟨letter c, index + c.utf8Size, fun _ => by have := c.utf8Size_pos; omega⟩
termination_by (template.byteSize, template.byteSize - index, 0)

def readFrom (template : Text) (index : Nat) : TemplateReader (List Directive) := do
  if inside : index < template.byteSize then
    let first ← readAt template index
    have _later := first.advances inside
    let rest ← readFrom template first.next
    return first.directive :: rest
  else return []
termination_by (template.byteSize, template.byteSize - index, 1)

end

end Directive
end MediaNaming
