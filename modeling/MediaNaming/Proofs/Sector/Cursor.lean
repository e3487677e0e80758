import MediaNaming.Proofs.Sector.Steps

/-
Refinement in one list. A cursor runs over the sectors of a name, and each pass edits the list around
it; an index out of range breaks the pass. The sectors before the cursor are the settled ones, those
from it on are still to be read. So a pass is a step of refinement: none breaks, and there are no
more of them than sectors and hyphens together.
-/
namespace MediaNaming

/-- What is made of a list by index. The error is the index that is out of range. -/
abbrev Indexed (α : Type) := Except Nat α

namespace Indexed

variable {α : Type}

def read (l : List α) (i : Nat) : Indexed α :=
  match l[i]? with
  | some a => .ok a
  | none => .error i

def replace (l : List α) (i : Nat) (a : α) : Indexed (List α) :=
  if i < l.length then .ok (l.set i a) else .error i

def insert (l : List α) (i : Nat) (a : α) : Indexed (List α) :=
  if i ≤ l.length then .ok (l.insertIdx i a) else .error i

def remove (l : List α) (i : Nat) : Indexed (List α) :=
  if i < l.length then .ok (l.eraseIdx i) else .error i

def drain (l : List α) (first last : Nat) : Indexed (List α) :=
  if first ≤ last ∧ last < l.length then .ok (l.take first ++ l.drop (last + 1)) else .error last

theorem ok_bind {β : Type} (a : α) (f : α → Indexed β) : (Except.ok a >>= f) = f a := rfl

theorem pure_eq (a : α) : (pure a : Indexed α) = .ok a := rfl

variable (front back : List α) (a : α)

theorem read_append : read (front ++ a :: back) front.length = .ok a := by
  simp [read]

theorem replace_append (b : α) :
    replace (front ++ a :: back) front.length b = .ok (front ++ b :: back) := by
  simp [replace]

theorem insert_append : insert (front ++ back) front.length a = .ok (front ++ a :: back) := by
  have placed : (front ++ back).insertIdx front.length a = front ++ a :: back := by
    induction front with
    | nil => rfl
    | cons b front ih => simp [ih]
  simp [insert, placed]

theorem remove_append : remove (front ++ a :: back) front.length = .ok (front ++ back) := by
  simp [remove, List.eraseIdx_append]

theorem drain_append (between : List α) :
    drain (front ++ (between ++ a :: back)) front.length (front.length + between.length) =
      .ok (front ++ back) := by
  simp [drain, Nat.add_assoc, List.drop_length_add_append]

end Indexed

open Indexed

def openAt (sectors : List Text) (i : Nat) : Indexed (List Text) := do
  let sector ← read sectors i
  match splitNumbered? sector with
  | some (digits, word) => insert (← replace sectors i digits.capitalize) (i + 1) word
  | none => replace sectors i sector.capitalize

def filledFrom? (sectors : List Text) (i : Nat) : Option Nat :=
  ((sectors.drop i).findIdx? (· != [])).map (i + ·)

def consumeAt (part : Nat) (sectors : List Text) (i : Nat) : Indexed (Option (Nat × List Text)) := do
  match PartMarker.ofSector? (← read sectors i) with
  | none => return none
  | some (.numbered digits) =>
    return some ((digits.readNumber? wordLimit).getD part, ← remove sectors i)
  | some .bare =>
    match filledFrom? sectors (i + 1) with
    | none => return none
    | some next =>
      match NumberWord.ofSector? (← read sectors next) with
      | none => return none
      | some number => return some (number.value?.getD part, ← drain sectors i next)

def joinAt (afterCapital : Bool) (sectors : List Text) (i : Nat) :
    Indexed (Option (List Text)) := do
  let sector ← read sectors i
  if isLoneCapital sector ∧ afterCapital ∧ 0 < i then
    let sectors ← remove sectors i
    return some (← replace sectors (i - 1) ((← read sectors (i - 1)) ++ sector))
  else return none

structure Cursor where
  sectors : List Text
  index : Nat := 0
  afterCapital : Bool := false
  part : Nat := 0
  findings : Findings := {}

namespace Cursor

def settle (classifier : Classifier) (c : Cursor) : Indexed Cursor := do
  let sector ← read c.sectors c.index
  return { c with
    index := c.index + 1
    afterCapital := isLoneCapital sector
    findings := classifier c.sectors c.index c.findings }

def pass (classifier : Classifier) (c : Cursor) : Indexed Cursor := do
  if (← read c.sectors c.index) = [] then
    return { c with sectors := ← remove c.sectors c.index }
  else
    let sectors ← openAt c.sectors c.index
    match ← consumeAt c.part sectors c.index with
    | some (part, sectors) => return { c with part := part, sectors := sectors }
    | none =>
      match ← joinAt c.afterCapital sectors c.index with
      | some sectors => return { c with sectors := sectors }
      | none => settle classifier { c with sectors := sectors }

/-- The passes that a cursor makes while it stands at a sector, how many, and what comes of them. -/
inductive Passes (classifier : Classifier) : Cursor → Nat → Indexed Cursor → Prop
  | ended {c : Cursor} (outside : c.sectors.length ≤ c.index) : Passes classifier c 0 (.ok c)
  | broken {c : Cursor} {i : Nat} (inside : c.index < c.sectors.length)
      (breaks : c.pass classifier = .error i) : Passes classifier c 1 (.error i)
  | next {c after : Cursor} {passes : Nat} {result : Indexed Cursor}
      (inside : c.index < c.sectors.length) (passed : c.pass classifier = .ok after)
      (later : Passes classifier after passes result) : Passes classifier c (passes + 1) result

def refined (c : Cursor) : Refined :=
  Refinement.result ⟨c.sectors, [], c.afterCapital, c.part, c.findings⟩

end Cursor

section
variable (done : List Text) (sector : Text) (rest : List Text)

theorem openAt_append :
    openAt (done ++ sector :: rest) done.length =
      .ok (done ++ (Refinement.opened sector rest).1 :: (Refinement.opened sector rest).2) := by
  simp only [openAt, read_append, ok_bind, Refinement.opened]
  cases splitNumbered? sector with
  | none => exact replace_append ..
  | some cut =>
    simp only [replace_append, ok_bind]
    simpa using insert_append (done ++ [cut.1.capitalize]) rest cut.2

theorem filledFrom?_append :
    filledFrom? (done ++ sector :: rest) (done.length + 1) =
      (rest.findIdx? (· != [])).map (done.length + 1 + ·) := by
  have behind : (done ++ sector :: rest).drop (done.length + 1) = rest := by
    simp [List.drop_length_add_append]
  rw [filledFrom?, behind]

theorem empty_or_filled (sectors : List Text) : (∀ s ∈ sectors, s = []) ∨
    ∃ empties next later, sectors = empties ++ next :: later ∧ (∀ s ∈ empties, s = []) ∧
      next ≠ [] := by
  induction sectors with
  | nil => simp
  | cons s sectors ih =>
    by_cases filled : s = []
    · rcases ih with empty | ⟨empties, next, later, rfl, empty, first⟩
      · exact Or.inl (by simpa [filled] using empty)
      · exact Or.inr ⟨s :: empties, next, later, rfl, by simpa [filled] using empty, first⟩
    · exact Or.inr ⟨[], s, sectors, rfl, by simp, filled⟩

theorem consumeAt_append (part : Nat) :
    consumeAt part (done ++ sector :: rest) done.length =
      .ok ((PartMarker.consume? part sector rest).map fun (n, later) => (n, done ++ later)) := by
  simp only [consumeAt, read_append, ok_bind, PartMarker.consume?]
  cases PartMarker.ofSector? sector with
  | none => rfl
  | some marker =>
    cases marker with
    | numbered digits =>
      simp only [remove_append, ok_bind]
      rfl
    | bare =>
      rw [filledFrom?_append]
      -- the index steps over the empty sectors that are dropped before the number
      rcases empty_or_filled rest with empty | ⟨empties, next, later, rfl, empty, first⟩
      · have nowhere : rest.findIdx? (· != []) = none := by
          simpa [List.findIdx?_eq_none_iff] using empty
        have nothing : rest.dropWhile (· == []) = [] := by simpa using empty
        simp only [nowhere, nothing]
        rfl
      · have found : (empties ++ next :: later).findIdx? (· != []) = some empties.length := by
          have passed : empties.findIdx? (· != []) = none := by
            simpa [List.findIdx?_eq_none_iff] using empty
          simp [List.findIdx?_append, List.findIdx?_cons, passed, first]
        have filled : (empties ++ next :: later).dropWhile (· == []) = next :: later := by
          rw [List.dropWhile_append_of_pos (by simpa using empty)]
          simp [first]
        have here : done.length + 1 + empties.length = done.length + (empties.length + 1) := by
          omega
        have reads : read (done ++ sector :: (empties ++ next :: later))
            (done.length + (empties.length + 1)) = .ok next := by
          simpa using read_append (done ++ sector :: empties) later next
        have drains : drain (done ++ sector :: (empties ++ next :: later)) done.length
            (done.length + (empties.length + 1)) = .ok (done ++ later) :=
          drain_append done later next (sector :: empties)
        simp only [found, filled, Option.map_some, here, reads, drains, ok_bind]
        cases NumberWord.ofSector? next with
        | none => rfl
        | some number => rfl

end

namespace Refinement

def cursor (r : Refinement) : Cursor where
  sectors := r.done ++ r.rest
  index := r.done.length
  afterCapital := r.afterCapital
  part := r.part
  findings := r.findings

section
variable (classifier : Classifier) (r : Refinement) (sector : Text) (rest : List Text)

theorem joinAt_cursor :
    joinAt r.afterCapital (r.done ++ sector :: rest) r.done.length =
      .ok ((r.joinCapital? sector rest).map fun joined => joined.cursor.sectors) := by
  simp only [joinAt, read_append, ok_bind]
  cases joins : r.joinCapital? sector rest with
  | none =>
    have apart : ¬ (isLoneCapital sector ∧ r.afterCapital ∧ 0 < r.done.length) := by
      rintro ⟨lone, follows, filled⟩
      rw [joinCapital?_eq_none joins lone follows] at filled
      contradiction
    rw [if_neg apart]
    rfl
  | some joined =>
    obtain ⟨lone, follows, front, last, done, rfl⟩ := joinCapital?_eq_some joins
    have before : r.done.length - 1 = front.length := by simp [done]
    have removes : remove (r.done ++ sector :: rest) r.done.length =
        .ok (front ++ last :: rest) := by
      rw [remove_append, done]
      simp
    rw [if_pos ⟨lone, follows, by simp [done]⟩, removes]
    simp only [ok_bind, before, read_append, replace_append, pure_eq]
    simp [cursor]

theorem settle_cursor :
    ({ r.cursor with sectors := r.done ++ sector :: rest } : Cursor).settle classifier =
      .ok (r.settle classifier sector rest).cursor := by
  simp only [Cursor.settle, cursor, read_append, ok_bind, pure_eq, settle]
  simp

end

theorem pass_cursor (classifier : Classifier) {r : Refinement} (more : r.rest ≠ []) :
    r.cursor.pass classifier = .ok (r.step classifier).cursor := by
  obtain ⟨s, rest, head⟩ := List.exists_cons_of_ne_nil more
  have reads : read r.cursor.sectors r.cursor.index = .ok s := by
    simp only [cursor, head, read_append]
  simp only [Cursor.pass, reads, ok_bind]
  cases s with
  | nil =>
    simp only [step, head, cursor, remove_append]
    rfl
  | cons c tail =>
    rcases opens : opened (c :: tail) rest with ⟨sector, after⟩
    have opened : openAt r.cursor.sectors r.cursor.index = .ok (r.done ++ sector :: after) := by
      simp only [cursor, head, openAt_append, opens]
    have consumed : consumeAt r.cursor.part (r.done ++ sector :: after) r.cursor.index = _ :=
      consumeAt_append r.done sector after r.part
    have joined : joinAt r.cursor.afterCapital (r.done ++ sector :: after) r.cursor.index = _ :=
      joinAt_cursor r sector after
    rw [if_neg (List.cons_ne_nil c tail), opened, ok_bind, consumed, ok_bind]
    simp only [step, head, opens]
    cases PartMarker.consume? r.part sector after with
    | some found => rfl
    | none =>
      simp only [Option.map_none, joined, ok_bind]
      cases joins : r.joinCapital? sector after with
      | none => exact settle_cursor classifier r sector after
      | some joined =>
        obtain ⟨-, -, front, last, done, rfl⟩ := joinCapital?_eq_some joins
        simp [cursor, done, pure_eq]

theorem weight_eq (sectors : List Text) :
    weight sectors = sectors.length + sectors.flatten.count '-' := by
  induction sectors with
  | nil => rfl
  | cons sector sectors ih =>
    rw [weight_cons, ih, List.flatten_cons, List.count_append, List.length_cons]
    omega

theorem cursor_inside (r : Refinement) :
    r.cursor.index < r.cursor.sectors.length ↔ r.rest ≠ [] := by
  simp [cursor, List.length_pos_iff]

end Refinement

namespace Cursor

variable {classifier : Classifier}

theorem passes_run (classifier : Classifier) (r : Refinement) :
    ∃ passes, Passes classifier r.cursor passes (.ok (r.run classifier).cursor) := by
  fun_induction Refinement.run classifier r with
  | case1 r ended =>
    have outside : ¬ r.cursor.index < r.cursor.sectors.length := by
      rw [r.cursor_inside]
      exact fun more => more ended
    exact ⟨0, .ended (Nat.le_of_not_lt outside)⟩
  | case2 r more ih =>
    obtain ⟨passes, later⟩ := ih
    exact ⟨passes + 1, .next (r.cursor_inside.2 more) (r.pass_cursor classifier more) later⟩

theorem Passes.run_eq {c : Cursor} {passes : Nat} {result : Indexed Cursor}
    (made : Passes classifier c passes result) {r : Refinement} (here : c = r.cursor) :
    passes ≤ Refinement.weight r.rest ∧ result = .ok (r.run classifier).cursor := by
  -- each cursor on the way is that of a refinement, whose step is the pass
  induction made generalizing r with
  | ended outside =>
    subst here
    have ended : r.rest = [] := by
      by_contra more
      exact absurd (r.cursor_inside.2 more) (Nat.not_lt.2 outside)
    rw [Refinement.run_done ended]
    exact ⟨Nat.zero_le _, rfl⟩
  | broken inside breaks =>
    subst here
    rw [r.pass_cursor classifier (r.cursor_inside.1 inside)] at breaks
    contradiction
  | next inside passed later ih =>
    subst here
    have more : r.rest ≠ [] := r.cursor_inside.1 inside
    rw [r.pass_cursor classifier more, Except.ok.injEq] at passed
    obtain ⟨fewer, reached⟩ := ih passed.symm
    have lighter := r.step_weight_lt classifier more
    rw [Refinement.run_step more]
    exact ⟨by omega, reached⟩

theorem refined_cursor {r : Refinement} (ended : r.rest = []) : r.cursor.refined = r.result := by
  simp only [refined, Refinement.cursor, ended, List.append_nil, Refinement.result]

theorem refinement_ends (classifier : Classifier) (sectors : List Text) :
    (∃ passes result, Passes classifier { sectors := sectors } passes result) ∧
      ∀ passes result, Passes classifier { sectors := sectors } passes result →
        passes ≤ sectors.length + sectors.flatten.count '-' ∧
          ∃ last, result = .ok last ∧ last.refined = refine classifier sectors := by
  let start : Refinement := ⟨[], sectors, false, 0, {}⟩
  constructor
  · obtain ⟨passes, made⟩ := passes_run classifier start
    exact ⟨passes, _, made⟩
  · intro passes result made
    obtain ⟨bounded, reached⟩ := made.run_eq (r := start) rfl
    rw [Refinement.weight_eq] at bounded
    exact ⟨bounded, _, reached, refined_cursor (start.run_rest classifier)⟩

end Cursor
end MediaNaming
