import MediaNaming.Error

/-
Groups of a naming template. A group opens with a bracket and ends at the bracket that closes
it; a backslash takes the character after it out of the count. Positions count bytes.
-/
namespace MediaNaming

structure Group where
  content : Text
  /-- Where the template goes on after the group. -/
  stop : Nat
deriving DecidableEq, Repr

/-- Bytes before the bracket that closes the last of `depth` open groups. A bracket that closes
    nothing counts too. -/
def closing? (depth : Nat) : Text → Option Nat
  | [] => none
  | ['\\'] => none
  | '\\' :: c :: rest => (closing? depth rest).map (1 + c.utf8Size + ·)
  | '(' :: rest => (closing? (depth + 1) rest).map (1 + ·)
  | ')' :: rest => if depth ≤ 1 then some 0 else (closing? (depth - 1) rest).map (1 + ·)
  | c :: rest => (closing? depth rest).map (c.utf8Size + ·)

def scanGroup (template : Text) (start : Nat) : Except NamingError Group :=
  match (template.dropBytes? start).bind (closing? 0) with
  | none => .error (.unterminatedGroup template start)
  | some offset =>
    match template.slice? (start + 1) (start + offset) with
    | some content => .ok ⟨content, start + offset + 1⟩
    | none => .error (.brokenCut template (start + 1) (start + offset))

structure ScannedGroup (template : Text) (start : Nat) extends Group where
  scanned : scanGroup template start = .ok toGroup

theorem Text.byteSize_slice? {t part : Text} {start stop : Nat}
    (found : t.slice? start stop = some part) :
    start + part.byteSize = stop ∧ stop ≤ t.byteSize := by
  simp only [Text.slice?] at found
  split at found
  · obtain ⟨rest, dropped, taken⟩ := Option.bind_eq_some_iff.1 found
    obtain ⟨lead, rfl, size⟩ := Text.dropBytes?_some dropped
    obtain ⟨⟨tail, rfl⟩, length⟩ := Text.takeBytes?_some taken
    simp only [Text.byteSize_append]
    omega
  · simp at found

theorem ScannedGroup.sizes {template : Text} {start : Nat} (g : ScannedGroup template start) :
    start + 1 + g.content.byteSize + 1 = g.stop ∧ g.content.byteSize < template.byteSize := by
  obtain ⟨⟨content, stop⟩, found⟩ := g
  simp only [scanGroup] at found
  split at found
  · simp at found
  · split at found
    · rename_i cut
      have := Text.byteSize_slice? cut
      cases found
      simp only
      omega
    · simp at found

end MediaNaming
