import MediaNaming.Sector.Split
import Mathlib.Data.List.Basic
import Mathlib.Data.List.TakeWhile

/-
Laws of cutting a text apart: at a byte, at its last separator, at every delimiter, and at its
ends; and of a path, at its separators.
-/
namespace MediaNaming.Text

theorem byteSize_reverse (t : Text) : byteSize t.reverse = byteSize t := by
  induction t with
  | nil => rfl
  | cons c t ih => simp [ih, Nat.add_comm]

theorem dropBytes?_byteSize (t : Text) : t.dropBytes? t.byteSize = some [] := by
  simpa using dropBytes?_append t []

theorem dropBytes?_position {t rest : Text} {n : Nat} (here : t.dropBytes? n = some rest) :
    n + rest.byteSize = t.byteSize := by
  obtain ⟨lead, rfl, rfl⟩ := dropBytes?_some here
  simp

theorem dropBytes?_later (lead : Text) {t rest : Text} {n : Nat}
    (here : t.dropBytes? n = some (lead ++ rest)) :
    t.dropBytes? (n + lead.byteSize) = some rest := by
  obtain ⟨before, rfl, rfl⟩ := dropBytes?_some here
  rw [← List.append_assoc, ← byteSize_append]
  exact dropBytes?_append _ _

theorem slice?_of_dropBytes? {t lead rest : Text} {n : Nat}
    (here : t.dropBytes? n = some (lead ++ rest)) :
    t.slice? n (n + lead.byteSize) = some lead := by
  simp only [slice?, Nat.le_add_right, if_true, here, Option.bind_some, Nat.add_sub_cancel_left,
    takeBytes?_append]

theorem slice?_between {t lead rest : Text} {n m : Nat} (here : t.dropBytes? n = some (lead ++ rest))
    (later : t.dropBytes? m = some rest) : t.slice? n m = some lead := by
  have start := dropBytes?_position here
  have stop := dropBytes?_position later
  rw [byteSize_append] at start
  obtain rfl : m = n + lead.byteSize := by omega
  exact slice?_of_dropBytes? here

theorem dropBytes?_inside {t rest : Text} {n : Nat} (here : t.dropBytes? n = some rest) :
    rest ≠ [] ↔ n < t.byteSize := by
  have position := dropBytes?_position here
  cases rest with
  | nil =>
    simp at position ⊢
    omega
  | cons c rest =>
    have size := c.utf8Size_pos
    simp at position ⊢
    omega

theorem splitLast?_eq_none {c : Char} {t : Text} : t.splitLast? c = none ↔ c ∉ t := by
  induction t with
  | nil => simp [splitLast?]
  | cons x t ih =>
    simp only [splitLast?, List.mem_cons, not_or]
    cases found : splitLast? c t with
    | some p =>
      have inside : c ∈ t := by
        by_contra absent
        rw [ih.2 absent] at found
        simp at found
      simp [inside]
    | none => simp [ih.1 found, eq_comm]

theorem splitLast?_some {c : Char} {t before after : Text}
    (found : t.splitLast? c = some (before, after)) : t = before ++ c :: after ∧ c ∉ after := by
  induction t generalizing before with
  | nil => simp [splitLast?] at found
  | cons x t ih =>
    simp only [splitLast?] at found
    split at found
    · rename_i front back eq
      cases found
      obtain ⟨rfl, absent⟩ := ih eq
      exact ⟨rfl, absent⟩
    · rename_i eq
      split at found
      · rename_i same
        cases found
        exact ⟨by rw [same]; rfl, splitLast?_eq_none.1 eq⟩
      · simp at found

theorem splitLast?_append {c : Char} {after : Text} (before : Text) (absent : c ∉ after) :
    (before ++ c :: after).splitLast? c = some (before, after) := by
  induction before with
  | nil => simp [splitLast?, splitLast?_eq_none.2 absent]
  | cons x before ih => simp [splitLast?, ih]

theorem splitFirst?_some {c : Char} {t before after : Text}
    (found : t.splitFirst? c = some (before, after)) : t = before ++ c :: after ∧ c ∉ before := by
  induction t generalizing before with
  | nil => simp [splitFirst?] at found
  | cons x t ih =>
    simp only [splitFirst?] at found
    split at found
    · rename_i same
      cases found
      exact ⟨by rw [same, List.nil_append], List.not_mem_nil⟩
    · rename_i other
      obtain ⟨⟨lead, rest⟩, cut, same⟩ := Option.map_eq_some_iff.1 found
      cases same
      obtain ⟨rfl, absent⟩ := ih cut
      exact ⟨rfl, by simp [absent, Ne.symm other]⟩

theorem splitFirst?_append {c : Char} {lead : Text} (rest : Text) (absent : c ∉ lead) :
    (lead ++ rest).splitFirst? c = (rest.splitFirst? c).map fun p => (lead ++ p.1, p.2) := by
  induction lead with
  | nil => simp
  | cons d lead ih =>
    simp only [List.mem_cons, not_or] at absent
    simp only [List.cons_append, splitFirst?, Ne.symm absent.1, if_false, ih absent.2]
    cases rest.splitFirst? c <;> rfl

theorem splitFirst?_eq_none {c : Char} {t : Text} (absent : c ∉ t) : t.splitFirst? c = none := by
  simpa [splitFirst?] using splitFirst?_append [] absent

theorem afterLead?_eq_some {lead t rest : Text} :
    afterLead? lead t = some rest ↔ t = lead ++ rest := by
  induction lead generalizing t with
  | nil => simp [afterLead?]
  | cons c lead ih =>
    cases t with
    | nil => simp [afterLead?]
    | cons d t =>
      simp only [afterLead?, Option.ite_none_right_eq_some, ih, List.cons_append,
        List.cons.injEq]

variable {stops drops : Char → Bool}

theorem pieces_ne_nil (stops : Char → Bool) (t : Text) : t.pieces stops ≠ [] := by
  induction t with
  | nil => simp [pieces]
  | cons c t ih =>
    simp only [pieces]
    split
    · simp
    · split <;> simp

theorem pieces_stop {c : Char} (stop : stops c = true) (t : Text) :
    pieces stops (c :: t) = [] :: pieces stops t := by
  obtain ⟨piece, more, eq⟩ := List.exists_cons_of_ne_nil (pieces_ne_nil stops t)
  simp [pieces, eq, stop]

theorem pieces_of_stops {t : Text} (all : ∀ c ∈ t, stops c = true) :
    ∀ piece ∈ t.pieces stops, piece = [] := by
  induction t with
  | nil => simp [pieces]
  | cons c t ih =>
    rw [pieces_stop (all c (by simp))]
    intro piece member
    rcases List.mem_cons.1 member with rfl | member
    · rfl
    · exact ih (fun d inside => all d (by simp [inside])) piece member

theorem pieces_of_clean {t : Text} (clean : ∀ c ∈ t, stops c = false) : t.pieces stops = [t] := by
  induction t with
  | nil => rfl
  | cons c t ih => simp [pieces, ih fun d member => clean d (by simp [member]), clean c (by simp)]

theorem pieces_append (stops : Char → Bool) (s t : Text) : ∃ front last first back,
    pieces stops s = front ++ [last] ∧ pieces stops t = first :: back ∧
      pieces stops (s ++ t) = front ++ (last ++ first) :: back := by
  obtain ⟨first, back, later⟩ := List.exists_cons_of_ne_nil (pieces_ne_nil stops t)
  induction s with
  | nil => exact ⟨[], [], first, back, rfl, later, later⟩
  | cons c s ih =>
    obtain ⟨front, last, _, _, before, same, whole⟩ := ih
    cases later.symm.trans same
    by_cases stop : stops c = true
    · refine ⟨[] :: front, last, first, back, ?_, later, ?_⟩
      · rw [pieces_stop stop, before, List.cons_append]
      · rw [List.cons_append, pieces_stop stop, whole, List.cons_append]
    · cases front with
      | nil =>
        refine ⟨[], c :: last, first, back, ?_, later, ?_⟩
        · simp [pieces, before, stop]
        · simp [pieces, whole, stop]
      | cons piece front =>
        refine ⟨(c :: piece) :: front, last, first, back, ?_, later, ?_⟩
        · simp [pieces, before, stop]
        · simp [pieces, whole, stop]

theorem pieces_append_stop {c : Char} (stop : stops c = true) (s t : Text) :
    pieces stops (s ++ c :: t) = pieces stops s ++ pieces stops t := by
  obtain ⟨front, last, first, back, before, later, whole⟩ := pieces_append stops s (c :: t)
  rw [pieces_stop stop] at later
  cases later
  simp [whole, before]

theorem mem_pieces {t piece : Text} (member : piece ∈ t.pieces stops) :
    ∀ c ∈ piece, stops c = false := by
  induction t generalizing piece with
  | nil => simp_all [pieces]
  | cons d t ih =>
    obtain ⟨first, more, eq⟩ := List.exists_cons_of_ne_nil (pieces_ne_nil stops t)
    rw [eq] at ih
    simp only [pieces, eq] at member
    by_cases stop : stops d = true
    · simp only [stop, if_true, List.mem_cons] at member
      rcases member with rfl | member
      · simp
      · exact ih (by simpa using member)
    · simp only [stop, Bool.false_eq_true, if_false, List.mem_cons] at member
      rcases member with rfl | member
      · intro c inside
        rcases List.mem_cons.1 inside with rfl | inside
        · simpa using stop
        · exact ih (by simp) c inside
      · exact ih (by simp [member])

theorem mem_of_mem_pieces {t piece : Text} (member : piece ∈ t.pieces stops) {c : Char}
    (inside : c ∈ piece) : c ∈ t := by
  induction t generalizing piece with
  | nil => simp_all [pieces]
  | cons d t ih =>
    obtain ⟨first, more, eq⟩ := List.exists_cons_of_ne_nil (pieces_ne_nil stops t)
    rw [eq] at ih
    simp only [pieces, eq] at member
    by_cases stop : stops d = true
    · simp only [stop, if_true, List.mem_cons] at member
      rcases member with rfl | member
      · simp at inside
      · exact List.mem_cons_of_mem d (ih (by simpa using member) inside)
    · simp only [stop, Bool.false_eq_true, if_false, List.mem_cons] at member
      rcases member with rfl | member
      · rcases List.mem_cons.1 inside with rfl | inside
        · simp
        · exact List.mem_cons_of_mem d (ih (by simp) inside)
      · exact List.mem_cons_of_mem d (ih (by simp [member]) inside)

/-- A piece of a part of a text is a piece of the whole text, but for characters on the two sides
    of the part. -/
theorem mem_pieces_within {s piece : Text} (lead tail : Text) (member : piece ∈ s.pieces stops) :
    ∃ x y, x ++ piece ++ y ∈ (lead ++ s ++ tail).pieces stops ∧ (∀ c ∈ x, c ∈ lead) ∧
      ∀ c ∈ y, c ∈ tail := by
  obtain ⟨y, behind, fromTail⟩ :
      ∃ y, piece ++ y ∈ (s ++ tail).pieces stops ∧ ∀ c ∈ y, c ∈ tail := by
    obtain ⟨front, last, first, back, before, later, whole⟩ := pieces_append stops s tail
    rw [before, List.mem_append, List.mem_singleton] at member
    rcases member with inner | rfl
    · exact ⟨[], by simp [whole, inner], by simp⟩
    · have opening : first ∈ tail.pieces stops := by simp [later]
      exact ⟨first, by simp [whole], fun c => mem_of_mem_pieces opening⟩
  obtain ⟨front, last, first, back, before, later, whole⟩ := pieces_append stops lead (s ++ tail)
  rw [later, List.mem_cons] at behind
  rw [List.append_assoc lead]
  rcases behind with opening | inner
  · have closing : last ∈ lead.pieces stops := by simp [before]
    refine ⟨last, y, ?_, fun c => mem_of_mem_pieces closing, fromTail⟩
    rw [List.append_assoc, opening, whole]
    simp
  · exact ⟨[], y, by simp [whole, inner], by simp, fromTail⟩

theorem join_cons (between word : Text) {words : List Text} (more : words ≠ []) :
    join between (word :: words) = word ++ between ++ join between words := by
  obtain ⟨next, words, rfl⟩ := List.exists_cons_of_ne_nil more
  simp [join, List.intercalate]

theorem join_append (between word : Text) {words : List Text} (some_word : words ≠ []) :
    join between (words ++ [word]) = join between words ++ between ++ word := by
  induction words with
  | nil => contradiction
  | cons first words ih =>
    by_cases last : words = []
    · simp [last, join, List.intercalate]
    · rw [List.cons_append, join_cons _ _ (by simp), ih last, join_cons _ _ last]
      simp

theorem mem_join {between : Text} {words : List Text} {c : Char}
    (member : c ∈ join between words) : c ∈ between ∨ ∃ word ∈ words, c ∈ word := by
  induction words with
  | nil => simp [join, List.intercalate] at member
  | cons word words ih =>
    by_cases last : words = []
    · exact Or.inr ⟨word, by simp, by simpa [last, join, List.intercalate] using member⟩
    · rw [join_cons _ _ last, List.append_assoc, List.mem_append, List.mem_append] at member
      rcases member with here | gap | later
      · exact Or.inr ⟨word, by simp, here⟩
      · exact Or.inl gap
      · exact (ih later).imp_right fun ⟨other, among, inside⟩ => ⟨other, by simp [among], inside⟩

theorem join_ne_nil (between : Text) {words : List Text} (some_word : words ≠ [])
    (full : ∀ word ∈ words, word ≠ []) : join between words ≠ [] := by
  obtain ⟨word, more, rfl⟩ := List.exists_cons_of_ne_nil some_word
  have first := full word (by simp)
  by_cases last : more = []
  · simpa [last, join, List.intercalate] using first
  · rw [join_cons _ _ last]
    simp [first]

theorem join_ends (between : Text) {words : List Text} {p : Char → Prop}
    (full : ∀ word ∈ words, word ≠ [] ∧ ∀ c ∈ word, p c) :
    (∀ c ∈ (join between words).head?, p c) ∧ ∀ c ∈ (join between words).getLast?, p c := by
  induction words with
  | nil => simp [join, List.intercalate]
  | cons word words ih =>
    obtain ⟨nonempty, good⟩ := full word (by simp)
    by_cases last : words = []
    · simp only [last, join, List.intercalate, List.intersperse_singleton, List.flatten_singleton]
      exact ⟨fun c head => good c (List.mem_of_mem_head? head),
        fun c ends => good c (List.mem_of_mem_getLast? ends)⟩
    · have more := ih fun w member => full w (by simp [member])
      have filled := join_ne_nil between last fun w member => (full w (by simp [member])).1
      rw [join_cons _ _ last]
      constructor
      · intro c head
        rw [List.append_assoc, List.head?_append_of_ne_nil _ nonempty] at head
        exact good c (List.mem_of_mem_head? head)
      · intro c ends
        rw [List.getLast?_append_of_ne_nil _ filled] at ends
        exact more.2 c ends

theorem trimEnds_append_right {s : Text} (t : Text) (dropped : ∀ c ∈ s, drops c = true) :
    trimEnds drops (t ++ s) = trimEnds drops t := by
  simp only [trimEnds, List.dropWhile_append]
  split
  · rename_i none
    rw [List.isEmpty_iff.1 none, List.dropWhile_eq_nil_iff.2 dropped]
  · rw [List.reverse_append, List.dropWhile_append,
      List.dropWhile_eq_nil_iff.2 fun c member => dropped c (List.mem_reverse.1 member)]
    simp

theorem trimEnds_append_left {s : Text} (t : Text) (dropped : ∀ c ∈ s, drops c = true) :
    trimEnds drops (s ++ t) = trimEnds drops t := by
  simp [trimEnds, List.dropWhile_append, List.dropWhile_eq_nil_iff.2 dropped]

theorem trimEnds_eq_self {t : Text} (first : ∀ c ∈ t.head?, drops c = false)
    (last : ∀ c ∈ t.getLast?, drops c = false) : trimEnds drops t = t := by
  have keeps {s : Text} (head : ∀ c ∈ s.head?, drops c = false) : s.dropWhile drops = s := by
    cases s with
    | nil => rfl
    | cons c s => simp [head c rfl]
  rw [trimEnds, keeps first, keeps (by simpa using last), List.reverse_reverse]

theorem head_dropWhile (drops : Char → Bool) (t : Text) :
    ∀ c ∈ (t.dropWhile drops).head?, drops c = false := by
  intro c head
  have kept := List.head?_dropWhile_not drops t
  rw [Option.mem_def.1 head] at kept
  simpa using kept

theorem trimEnds_ends (drops : Char → Bool) (t : Text) :
    (∀ c ∈ (trimEnds drops t).head?, drops c = false) ∧
      ∀ c ∈ (trimEnds drops t).getLast?, drops c = false := by
  constructor
  · intro c first
    simp only [trimEnds, List.head?_reverse] at first
    have suffix := List.dropWhile_suffix (p := drops) (l := (t.dropWhile drops).reverse)
    apply head_dropWhile drops t c
    rw [← List.getLast?_reverse]
    obtain ⟨lead, whole⟩ := suffix
    rw [← whole, List.getLast?_append, Option.mem_def.1 first]
    rfl
  · intro c last
    simp only [trimEnds, List.getLast?_reverse] at last
    exact head_dropWhile drops _ c last

theorem trimEnds_ne_nil {t : Text} {c : Char} (member : c ∈ t) (kept : drops c = false) :
    trimEnds drops t ≠ [] := by
  intro empty
  have back : (t.dropWhile drops).reverse.dropWhile drops = [] := by simpa [trimEnds] using empty
  rw [List.dropWhile_eq_nil_iff] at back
  have front : t.dropWhile drops = [] := by
    by_contra more
    obtain ⟨d, rest, text⟩ := List.exists_cons_of_ne_nil more
    have first := head_dropWhile drops t d (by simp [text])
    rw [back d (by simp [text])] at first
    contradiction
  rw [List.dropWhile_eq_nil_iff.1 front c member] at kept
  contradiction

theorem trimEnds_within (drops : Char → Bool) (t : Text) : ∃ lead tail,
    t = lead ++ trimEnds drops t ++ tail ∧ (∀ c ∈ lead, drops c = true) ∧
      ∀ c ∈ tail, drops c = true := by
  refine ⟨t.takeWhile drops, ((t.dropWhile drops).reverse.takeWhile drops).reverse, ?_,
    fun c member => List.mem_takeWhile_imp member,
    fun c member => List.mem_takeWhile_imp (List.mem_reverse.1 member)⟩
  rw [trimEnds, List.append_assoc, ← List.reverse_append, List.takeWhile_append_dropWhile,
    List.reverse_reverse, List.takeWhile_append_dropWhile]

theorem mem_trimEnds {t : Text} {c : Char} (member : c ∈ trimEnds drops t) : c ∈ t := by
  obtain ⟨lead, tail, whole, -⟩ := trimEnds_within drops t
  rw [whole]
  simp [member]

end MediaNaming.Text

namespace MediaNaming

def partsOf (path : Text) : List Text := (path.pieces (· == pathSeparator)).filter (· != [])

theorem partsOf_append (front back : Text) :
    partsOf (front ++ pathSeparator :: back) = partsOf front ++ partsOf back := by
  rw [partsOf, Text.pieces_append_stop (by decide), List.filter_append]
  rfl

theorem partsOf_eq_singleton {t : Text} (some_text : t ≠ []) :
    partsOf t = [t] ↔ pathSeparator ∉ t := by
  constructor
  · intro single inside
    have member : t ∈ partsOf t := by simp [single]
    have clean := Text.mem_pieces (List.mem_filter.1 member).1 pathSeparator inside
    revert clean
    decide
  · intro flat
    have clean : ∀ c ∈ t, (c == pathSeparator) = false := by
      intro c member
      have other : c ≠ pathSeparator := fun same => flat (same ▸ member)
      simpa using other
    rw [partsOf, Text.pieces_of_clean clean]
    simp [some_text]

end MediaNaming
