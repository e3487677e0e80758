import MediaNaming.Proofs.Naming.Canonical

/-
The shape of an episode's name: something on one line, a spaced hyphen, season and episodes in two
digits each, and then nothing, a title or a year. What follows the numbers begins with a space, so
the numbers are a word of the name.
-/
namespace MediaNaming

structure TwoDigits (t : Text) : Prop where
  two : t.length = 2
  digits : ∀ c ∈ t, isDecimal c = true

def hyphened (numbers : List Text) : Text := numbers.flatMap ('-' :: ·)

/-- A season and its episodes in two digits each. -/
def Numbering (t : Text) : Prop :=
  ∃ season first others, t = season ++ 'x' :: (first ++ hyphened others) ∧
    ∀ number ∈ season :: first :: others, TwoDigits number

theorem mem_hyphened {others : List Text} {c : Char} (member : c ∈ hyphened others) :
    c = '-' ∨ ∃ number ∈ others, c ∈ number := by
  obtain ⟨number, among, inside⟩ := List.mem_flatMap.1 member
  exact (List.mem_cons.1 inside).imp_right fun here => ⟨number, among, here⟩

theorem join_hyphened (first : Text) (others : List Text) :
    Text.join ['-'] (first :: others) = first ++ hyphened others := by
  induction others generalizing first with
  | nil => simp [Text.join, List.intercalate, hyphened]
  | cons number others ih =>
    rw [Text.join_cons _ _ (by simp), ih, hyphened, hyphened, List.flatMap_cons]
    simp

theorem head_hyphened {others : List Text} {y : Text} (after : ∀ c ∈ y, c.isDigit = false) :
    ∀ c ∈ (hyphened others ++ y).head?, c.isDigit = false := by
  cases others with
  | nil => exact fun c head => after c (List.mem_of_mem_head? head)
  | cons number others => simp [hyphened]

theorem short_range {others : List Text} {y digits more : Text}
    (numbers : ∀ number ∈ others, TwoDigits number) (after : ∀ c ∈ y, c.isDigit = false)
    (text : hyphened others ++ y = '-' :: (digits ++ more))
    (all : ∀ c ∈ digits, c.isDigit = true) : digits.length ≤ 2 := by
  match digits, others with
  | [], _ | [_], _ | [_, _], _ => simp
  | d :: _ :: _ :: _, [] =>
    have member : d ∈ y := by
      have behind : y = _ := text
      simp [behind]
    have digit := all d (by simp)
    rw [after d member] at digit
    contradiction
  | _ :: _ :: d :: digits, number :: others =>
    obtain ⟨a, b, rfl⟩ := List.length_eq_two.1 (numbers number (by simp)).two
    simp only [hyphened, List.flatMap_cons, List.cons_append, List.nil_append, List.cons.injEq,
      true_and] at text
    have head : d ∈ (hyphened others ++ y).head? := by simp [hyphened, text.2.2]
    have digit := all d (by simp)
    rw [head_hyphened after d head] at digit
    contradiction

theorem Numbering.characters {w : Text} (numbering : Numbering w) :
    ∀ c ∈ w, isDecimal c = true ∨ c = '-' ∨ c = 'x' := by
  obtain ⟨season, first, others, rfl, numbers⟩ := numbering
  have digit {number : Text} (among : number ∈ season :: first :: others) {c : Char}
      (inside : c ∈ number) : isDecimal c = true := (numbers number among).digits c inside
  intro c member
  simp only [List.mem_append, List.mem_cons] at member
  rcases member with here | rfl | here | more
  · exact Or.inl (digit (by simp) here)
  · exact Or.inr (Or.inr rfl)
  · exact Or.inl (digit (by simp) here)
  · rcases mem_hyphened more with rfl | ⟨number, among, inside⟩
    · exact Or.inr (Or.inl rfl)
    · exact Or.inl (digit (by simp [among]) inside)

theorem Numbering.crossed {w : Text} (numbering : Numbering w) : 'x' ∈ w := by
  obtain ⟨season, first, others, rfl, -⟩ := numbering
  simp

theorem afterTwoDigits?_eq_some {t rest : Text} :
    afterTwoDigits? t = some rest ↔ ∃ number, TwoDigits number ∧ t = number ++ rest := by
  constructor
  · intro found
    unfold afterTwoDigits? at found
    split at found
    · rename_i a b more
      simp only [Option.ite_none_right_eq_some, Bool.and_eq_true, Option.some.injEq] at found
      obtain ⟨digits, rfl⟩ := found
      exact ⟨[a, b], ⟨rfl, by simpa using digits⟩, rfl⟩
    · simp at found
  · rintro ⟨number, ⟨two, digits⟩, rfl⟩
    obtain ⟨a, b, rfl⟩ := List.length_eq_two.1 two
    simp [afterTwoDigits?, digits a, digits b]

theorem beforeYear?_eq_some {t lead : Text} :
    beforeYear? t = some lead ↔ ∃ year, year.length = 4 ∧ (∀ c ∈ year, isDecimal c = true) ∧
      t = lead ++ ([' ', '('] ++ year ++ [')']) := by
  constructor
  · intro found
    unfold beforeYear? at found
    split at found
    · rename_i a b c d ends
      simp only [Option.ite_none_right_eq_some, Option.some.injEq, List.all_eq_true] at found
      obtain ⟨digits, rfl⟩ := found
      refine ⟨[a, b, c, d], rfl, digits, ?_⟩
      have whole := List.take_append_drop (t.length - 7) t
      rw [ends] at whole
      exact whole.symm
    · simp at found
  · rintro ⟨year, four, digits, rfl⟩
    obtain ⟨a, b, c, d, rfl⟩ := List.length_eq_four.1 four
    have all : [a, b, c, d].all isDecimal = true := List.all_eq_true.2 digits
    simp [beforeYear?, all]

theorem isTitleOrYear_iff {t : Text} : isTitleOrYear t = true ↔
    t = [] ∨ beforeYear? t = some [] ∨
      ∃ title, t = spacedHyphen ++ title ∧ title ≠ [] ∧ lineBreak ∉ title := by
  have letters : " - ".toList = spacedHyphen := rfl
  unfold isTitleOrYear
  split
  · rename_i title found
    rw [letters, Text.afterLead?_eq_some] at found
    subst found
    have undated : beforeYear? (spacedHyphen ++ title) ≠ some [] := by
      rw [ne_eq, beforeYear?_eq_some]
      rintro ⟨year, -, -, same⟩
      simp [spacedHyphen] at same
    have full : spacedHyphen ≠ [] := List.cons_ne_nil _ _
    simp [undated, full]
  · rename_i untitled
    have other : ∀ title, t ≠ spacedHyphen ++ title := by
      intro title same
      rw [letters, Text.afterLead?_eq_some.2 same] at untitled
      simp at untitled
    simp [other, List.isEmpty_iff]

theorem head_of_isTitleOrYear {t : Text} (follows : isTitleOrYear t = true) :
    ∀ c ∈ t.head?, c = ' ' := by
  rcases isTitleOrYear_iff.1 follows with rfl | dated | ⟨title, rfl, -⟩
  · simp
  · obtain ⟨year, -, -, rfl⟩ := beforeYear?_eq_some.1 dated
    simp
  · simp [spacedHyphen]

theorem isEpisodeRest_iff {t : Text} : isEpisodeRest t = true ↔
    ∃ others rest, t = hyphened others ++ rest ∧ (∀ number ∈ others, TwoDigits number) ∧
      isTitleOrYear rest = true := by
  constructor
  · intro follows
    fun_induction isEpisodeRest t with
    | case1 a b rest ih =>
      simp only [Bool.and_eq_true] at follows
      obtain ⟨digits, more⟩ := follows
      obtain ⟨others, rest, rfl, numbers, ends⟩ := ih more
      refine ⟨[a, b] :: others, rest, rfl, ?_, ends⟩
      have number : TwoDigits [a, b] := ⟨rfl, by simpa using digits⟩
      simpa using ⟨number, numbers⟩
    | case2 t _ => exact ⟨[], t, rfl, by simp, follows⟩
  · rintro ⟨others, rest, rfl, numbers, ends⟩
    induction others with
    | nil =>
      -- a title or a year begins with a space, so it is not read as one number more
      unfold isEpisodeRest
      split
      · rename_i a b more same
        obtain rfl : rest = '-' :: a :: b :: more := same
        have space := head_of_isTitleOrYear ends '-' rfl
        contradiction
      · exact ends
    | cons number others ih =>
      obtain ⟨two, digits⟩ := numbers number (by simp)
      obtain ⟨a, b, rfl⟩ := List.length_eq_two.1 two
      have more := ih fun other member => numbers other (by simp [member])
      simp only [hyphened, List.flatMap_cons, List.cons_append, List.nil_append] at more ⊢
      simp [isEpisodeRest, digits a, digits b, more]

theorem isNumbering_iff {t : Text} : isNumbering t = true ↔
    ∃ numbering rest, t = numbering ++ rest ∧ Numbering numbering ∧ isTitleOrYear rest = true := by
  constructor
  · intro numbered
    unfold isNumbering at numbered
    split at numbered
    · rename_i behind found
      obtain ⟨season, digits, rfl⟩ := afterTwoDigits?_eq_some.1 found
      obtain ⟨more, here, follows⟩ := (Option.any_eq_true _ _).1 numbered
      obtain ⟨first, digitsFirst, rfl⟩ := afterTwoDigits?_eq_some.1 here
      obtain ⟨others, rest, rfl, numbers, ends⟩ := isEpisodeRest_iff.1 follows
      refine ⟨season ++ 'x' :: (first ++ hyphened others), rest, by simp,
        ⟨season, first, others, rfl, ?_⟩, ends⟩
      simpa using ⟨digits, digitsFirst, numbers⟩
    · simp at numbered
  · rintro ⟨_, rest, rfl, ⟨season, first, others, rfl, numbers⟩, ends⟩
    have digits := numbers season (by simp)
    have digitsFirst := numbers first (by simp)
    have behind : afterTwoDigits? (first ++ (hyphened others ++ rest)) =
        some (hyphened others ++ rest) := afterTwoDigits?_eq_some.2 ⟨first, digitsFirst, rfl⟩
    have front : afterTwoDigits? (season ++ 'x' :: (first ++ hyphened others) ++ rest) =
        some ('x' :: (first ++ (hyphened others ++ rest))) :=
      afterTwoDigits?_eq_some.2 ⟨season, digits, by simp⟩
    have follows : isEpisodeRest (hyphened others ++ rest) = true :=
      isEpisodeRest_iff.2 ⟨others, rest, rfl, fun n member => numbers n (by simp [member]), ends⟩
    simp only [isNumbering, front, behind, Option.any_some, follows]

theorem hasEpisodeShape_iff {t : Text} : hasEpisodeShape t = true ↔
    ∃ name numbering rest, t = name ++ spacedHyphen ++ numbering ++ rest ∧ name ≠ [] ∧
      lineBreak ∉ name ∧ Numbering numbering ∧ isTitleOrYear rest = true := by
  have letters : " - ".toList = spacedHyphen := rfl
  induction t with
  | nil => simp [hasEpisodeShape, spacedHyphen]
  | cons c t ih =>
    simp only [hasEpisodeShape, Bool.and_eq_true, bne_iff_ne, Bool.or_eq_true, Option.any_eq_true,
      letters, Text.afterLead?_eq_some, isNumbering_iff, ih]
    constructor
    · rintro ⟨broken, ⟨_, rfl, numbering, rest, rfl, numbered, ends⟩ |
        ⟨name, numbering, rest, rfl, named, line, numbered, ends⟩⟩
      · exact ⟨[c], numbering, rest, by simp, by simp,
          by simpa using Ne.symm broken, numbered, ends⟩
      · exact ⟨c :: name, numbering, rest, by simp, by simp,
          by simp [Ne.symm broken, line], numbered, ends⟩
    · rintro ⟨name, numbering, rest, text, named, line, numbered, ends⟩
      obtain ⟨d, more, rfl⟩ := List.exists_cons_of_ne_nil named
      simp only [List.cons_append, List.cons.injEq] at text
      simp only [List.mem_cons, not_or] at line
      obtain ⟨rfl, rfl⟩ := text
      refine ⟨Ne.symm line.1, ?_⟩
      by_cases last : more = []
      · exact Or.inl ⟨_, by simp [last], numbering, rest, rfl, numbered, ends⟩
      · exact Or.inr ⟨more, numbering, rest, rfl, last, line.2, numbered, ends⟩

end MediaNaming
