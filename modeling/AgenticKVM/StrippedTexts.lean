import AgenticKVM.SecretSites

/-! # What is left of a captured text

`_strip_secret_text` substitutes four patterns one after the other. Here each substitution is read
as a rewriting of the text. What the first leaves has no secret assignment but those of the mark
(`settled_withoutAssignments`), what the second leaves has no one-time code
(`uncoded_withoutCodes`), and the later substitutions put in marks only, which bring neither back.
So a stripped text can change once more only by tokens of high entropy
(`stripSecretText_eq_self_iff`). -/

namespace AgenticKVM

open Lib Lib.Regex
open SecretPattern (among)

/-- The characters of the mark. -/
def mark : List Char := redactedMark.toList

/-! ## The four substitutions -/

section Substitutions

variable (lib : AuditLibrary) (text : List Char)

/-- The first substitution: secret assignments. -/
def withoutAssignments : List Char :=
  substitute lib SecretPattern.secretAssignment (fun _ captured => captured ++ '=' :: mark) text

/-- The second substitution: one-time codes. -/
def withoutCodes : List Char :=
  substitute lib (SecretPattern.mfaCode lib.isdecimal)
    (fun matched captured => replaceAll captured mark matched.length matched) text

/-- The third substitution: tokens of high entropy. -/
def withoutTokens : List Char := substitute lib SecretPattern.highEntropy (fun _ _ => mark) text

/-- The fourth substitution: hexadecimal secrets. -/
def withoutHex : List Char := substitute lib SecretPattern.hexSecret (fun _ _ => mark) text

theorem stripSecretText_eq (value : String) : stripSecretText lib value = String.ofList
    (withoutHex lib (withoutTokens lib (withoutCodes lib (withoutAssignments lib value.toList)))) :=
  rfl

end Substitutions

section Rewritings

variable {lib : AuditLibrary}

/-- A secret assignment becomes its name and the mark. -/
def AssignmentSwap (lib : AuditLibrary) (before taken rest new : List Char) : Prop :=
  ∃ name gap separator gap' value, taken = name ++ (gap ++ separator :: (gap' ++ value))
    ∧ IsAssignment lib before name gap separator gap' value
    ∧ (∀ c ∈ rest.head?, isSpace c = true) ∧ new = name ++ '=' :: mark

/-- A one-time code becomes what stands before it and the mark. -/
def CodeSwap (lib : AuditLibrary) (before taken rest new : List Char) : Prop :=
  ∃ front digits, taken = front ++ digits ∧ IsCode lib before front digits rest
    ∧ new = front ++ mark

/-- A token of high entropy becomes the mark. -/
def TokenSwap (lib : AuditLibrary) (before taken rest new : List Char) : Prop :=
  IsToken lib before taken rest ∧ (OnLine Char.isUpper (taken ++ rest)
    ∧ OnLine Char.isLower (taken ++ rest) ∧ OnLine Char.isDigit (taken ++ rest)) ∧ new = mark

/-- A hexadecimal secret becomes the mark. -/
def HexSwap (lib : AuditLibrary) (before taken rest new : List Char) : Prop :=
  IsHex lib before taken rest ∧ new = mark

/-- Where an expression matches and what is left is known, so are the characters that are replaced.
-/
theorem rewritten_substitute {r : Regex} {replace : List Char → List Char → List Char}
    {Keep : List Char → List Char → Prop}
    {Swap : List Char → List Char → List Char → List Char → Prop}
    (consumes : Consumes lib.isWord r)
    (keep : ∀ before text, Unmatched lib.isWord r before text → Keep before text)
    (swap : ∀ before taken rest captured, matchAt lib.isWord r before (taken ++ rest)
      = some ⟨taken.reverse ++ before, rest, captured⟩ →
      Swap before taken rest (replace taken captured)) (text : List Char) :
    Rewritten Keep Swap [] [] text (substitute lib r replace text) := by
  refine (rewritten_sub consumes replace (Nat.le_refl _) []).mono keep ?_
  rintro before taken rest new ⟨captured, found, rfl⟩
  exact swap before taken rest captured found

/-- **The first substitution** rewrites secret assignments. -/
theorem rewritten_withoutAssignments (laws : CharLaws lib) (text : List Char) :
    Rewritten (fun before text => ¬ AssignmentAt lib before text) (AssignmentSwap lib) [] [] text
      (withoutAssignments lib text) := by
  refine rewritten_substitute ?_ ?_ ?_ text
  · rintro ⟨before, text, captured⟩ last matched
    obtain ⟨name, gap, separator, gap', value, rest, rfl, -, rfl⟩ :=
      (matches_secretAssignment laws).mp matched
    simp only [List.length_append, List.length_cons]
    omega
  · rintro before text unmatched ⟨name, gap, separator, gap', value, rest, split, assignment⟩
    exact unmatched_iff.mp unmatched ⟨_, (matches_secretAssignment laws).mpr
      ⟨name, gap, separator, gap', value, rest, split, assignment, rfl⟩⟩
  · intro before taken rest captured found
    obtain ⟨name, gap, separator, gap', value, rest', split, assignment, same⟩ :=
      (matches_secretAssignment laws).mp (matches_of_matchAt found)
    obtain ⟨-, rfl, rfl⟩ := Cursor.mk.inj same
    refine ⟨captured, gap, separator, gap', value, ?_, assignment, blank_of_assignment found, rfl⟩
    refine List.append_cancel_right (split.trans ?_)
    simp only [List.append_assoc, List.cons_append]

/-- The digits of a code are replaced where they stand. -/
theorem replaceAll_append {front digits new : List Char} {fuel : Nat}
    (enough : (front ++ digits).length ≤ fuel) (some : digits ≠ [])
    (other : ∀ c ∈ front, ∀ d ∈ digits.head?, c ≠ d) :
    replaceAll digits new fuel (front ++ digits) = front ++ new := by
  obtain ⟨d, digits, rfl⟩ := List.exists_cons_of_ne_nil some
  induction front generalizing fuel with
  | nil =>
      obtain _ | fuel := fuel
      · cases enough
      have whole : (d :: digits).isPrefixOf (d :: digits) = true :=
        List.isPrefixOf_iff_prefix.mpr (List.prefix_refl _)
      have length : max 1 (d :: digits).length = (d :: digits).length :=
        Nat.max_eq_right (Nat.succ_le_succ (Nat.zero_le _))
      rw [List.nil_append, replaceAll, if_pos whole, length, List.drop_length, List.nil_append]
      cases fuel <;> rw [replaceAll, List.append_nil]
  | cons c front ih =>
      obtain _ | fuel := fuel
      · cases enough
      have differ : ¬ (d :: digits).isPrefixOf (c :: (front ++ d :: digits)) = true := by
        rw [List.isPrefixOf, Bool.and_eq_true, beq_iff_eq]
        rintro ⟨same, -⟩
        exact other c List.mem_cons_self d rfl same.symm
      rw [List.cons_append, replaceAll, if_neg differ, ih (Nat.le_of_succ_le_succ enough)
        fun c' member => other c' (List.mem_cons_of_mem c member)]
      rfl

/-- Something stands before a code. -/
theorem CodeFront.nonempty {front : List Char} (isFront : CodeFront front) : front ≠ [] := by
  cases isFront with
  | mk named spells =>
      obtain ⟨c, more, rfl, -⟩ := spells.head (mem_nameWords_of_code named)
      exact List.cons_ne_nil _ _

/-- What stands before a code holds no digit. -/
theorem CodeFront.chars (laws : CharLaws lib) {front : List Char} (isFront : CodeFront front) :
    ∀ c ∈ front, lib.isdecimal c = false ∧ c ≠ '[' := by
  have notBracket {c : Char} (alnum : lib.isalnum c = true) : c ≠ '[' := by
    rintro rfl
    rw [laws.ascii _ (by decide)] at alnum
    revert alnum
    decide
  have space {c : Char} (space : isSpace c = true) : lib.isdecimal c = false ∧ c ≠ '[' := by
    constructor
    · by_contra decimal
      rw [Bool.not_eq_false] at decimal
      rw [laws.notSpace (laws.decimal c decimal)] at space
      cases space
    · rintro rfl
      revert space
      decide
  cases isFront with
  | mk named spells blank one among blank' =>
      intro c member
      simp only [List.mem_append] at member
      rcases member with isName | isGap | isSeparator | isGap
      · obtain ⟨alnum, decimal⟩ := spells.alnum laws (mem_nameWords_of_code named) c isName
        exact ⟨decimal, notBracket alnum⟩
      · exact space (blank c isGap)
      · have plain : ∀ c ∈ ":=".toList, c.toNat < 128 ∧ c.isDigit = false ∧ c ≠ '[' :=
          forall_mem_of_all (by decide)
        obtain ⟨ascii, digit, other⟩ := plain c (List.contains_iff_mem.mp (among c isSeparator))
        rw [laws.digits c ascii]
        exact ⟨digit, other⟩
      · exact space (blank' c isGap)

/-- **The second substitution** rewrites one-time codes. -/
theorem rewritten_withoutCodes (laws : CharLaws lib) (text : List Char) :
    Rewritten (fun before text => ¬ CodeAt lib before text) (CodeSwap lib) [] [] text
      (withoutCodes lib text) := by
  refine rewritten_substitute ?_ ?_ ?_ text
  · rintro ⟨before, text, captured⟩ last matched
    obtain ⟨front, digits, rest, rfl, code, rfl⟩ := (matches_mfaCode laws).mp matched
    have least := code.least
    simp only [List.length_append]
    omega
  · rintro before text unmatched ⟨front, digits, rest, split, code⟩
    exact unmatched_iff.mp unmatched
      ⟨_, (matches_mfaCode laws).mpr ⟨front, digits, rest, split, code, rfl⟩⟩
  · intro before taken rest captured found
    obtain ⟨front, digits, rest', split, code, same⟩ :=
      (matches_mfaCode laws).mp (matches_of_matchAt found)
    obtain ⟨-, rfl, rfl⟩ := Cursor.mk.inj same
    rw [← List.append_assoc] at split
    obtain rfl := List.append_cancel_right split
    refine ⟨front, captured, rfl, code, ?_⟩
    refine replaceAll_append (Nat.le_refl _) ?_ ?_
    · rintro rfl
      cases code.least
    · rintro c member d first rfl
      have decimal := code.decimal c (List.mem_of_mem_head? first)
      rw [(code.front.chars laws c member).1] at decimal
      cases decimal

/-- **The third substitution** rewrites tokens of high entropy. -/
theorem rewritten_withoutTokens (lib : AuditLibrary) (text : List Char) :
    Rewritten (fun before text => ¬ EntropyAt lib before text) (TokenSwap lib) [] [] text
      (withoutTokens lib text) := by
  refine rewritten_substitute ?_ ?_ ?_ text
  · rintro ⟨before, text, captured⟩ last matched
    obtain ⟨token, rest, rfl, isToken, -, rfl⟩ := matches_highEntropy.mp matched
    have least := isToken.least
    simp only [List.length_append]
    omega
  · rintro before text unmatched ⟨token, rest, split, isToken, classes⟩
    exact unmatched_iff.mp unmatched
      ⟨_, matches_highEntropy.mpr ⟨token, rest, split, isToken, classes, rfl⟩⟩
  · intro before taken rest captured found
    obtain ⟨token, rest', split, isToken, classes, same⟩ :=
      matches_highEntropy.mp (matches_of_matchAt found)
    obtain ⟨-, rfl, -⟩ := Cursor.mk.inj same
    obtain rfl := List.append_cancel_right split
    exact ⟨isToken, classes, rfl⟩

/-- **The fourth substitution** rewrites hexadecimal secrets. -/
theorem rewritten_withoutHex (laws : CharLaws lib) (text : List Char) :
    Rewritten (fun before text => ¬ HexAt lib before text) (HexSwap lib) [] [] text
      (withoutHex lib text) := by
  refine rewritten_substitute ?_ ?_ ?_ text
  · rintro ⟨before, text, captured⟩ last matched
    obtain ⟨digits, rest, rfl, hex, rfl⟩ := (matches_hexSecret laws).mp matched
    have least := hex.least
    simp only [List.length_append]
    omega
  · rintro before text unmatched ⟨digits, rest, split, hex⟩
    exact unmatched_iff.mp unmatched
      ⟨_, (matches_hexSecret laws).mpr ⟨digits, rest, split, hex, rfl⟩⟩
  · intro before taken rest captured found
    obtain ⟨digits, rest', split, hex, same⟩ :=
      (matches_hexSecret laws).mp (matches_of_matchAt found)
    obtain ⟨-, rfl, -⟩ := Cursor.mk.inj same
    obtain rfl := List.append_cancel_right split
    exact ⟨hex, rfl⟩

end Rewritings

/-! ## Positions in what is left -/

section Positions

variable {lib : AuditLibrary} {before done text out : List Char}

/-- What lies before a position in a text and what lies before it in what is left of the text: where
a word goes on, the one ends with a part of a word if the other does. -/
structure Aligned (lib : AuditLibrary) (before done text : List Char) : Prop where
  edge : ¬ Edge lib text → Edge lib done → Edge lib before
  word : Edge lib before → Edge lib done

theorem Aligned.start : Aligned lib [] [] text := ⟨fun _ edge => edge, fun edge => edge⟩

/-- A character that is kept lies before both positions. -/
theorem Aligned.cons (c : Char) : Aligned lib (c :: before) (c :: done) text :=
  ⟨fun _ edge => edge, fun edge => edge⟩

theorem not_edge_cons {c : Char} (alnum : lib.isalnum c = true) :
    ¬ Edge lib (c :: text) := by
  rw [edge_cons, isWord_of_isalnum alnum]
  exact Bool.noConfusion

/-- The mark is split as its characters are. -/
theorem mark_split {front back : List Char} (split : mark = front ++ back) :
    front.length ≤ 10 ∧ front = mark.take front.length ∧ back = mark.drop front.length := by
  refine ⟨?_, ?_, ?_⟩
  · have length := congrArg List.length split
    rw [List.length_append, show mark.length = 10 from rfl] at length
    omega
  · rw [split, List.take_left]
  · rw [split, List.drop_left]

/-- **Within the mark a word begins only behind its bracket.** -/
theorem within_mark (laws : CharLaws lib) {front back : List Char} {c : Char}
    (split : mark = front ++ back) (more : back ≠ []) (edge : Edge lib (front.reverse ++ done))
    (first : (back ++ out).head? = some c) (alnum : lib.isalnum c = true) :
    back = "REDACTED]".toList := by
  obtain ⟨inside, isFront, isBack⟩ := mark_split split
  have ascii : ∀ c ∈ mark, c.toNat < 128 :=
    forall_mem_of_all (by decide)
  have words : ∀ k, k ≤ 10 → mark.drop k = "REDACTED]".toList
      ∨ (mark.take k).getLast?.any (fun c => c.isAlphanum || c == '_') = true
      ∨ (mark.drop k).head?.any Char.isAlphanum = false := by
    decide
  rcases words front.length inside with here | last | head
  · rw [isBack, here]
  · -- the character before is a letter of the mark
    rw [← isFront] at last
    cases isLast : front.getLast? with
    | none =>
        rw [isLast] at last
        cases last
    | some d =>
        rw [isLast] at last
        have member : d ∈ mark := by
          rw [split]
          exact List.mem_append_left _ (List.mem_of_getLast? isLast)
        have word : lib.isWord d = true := by
          rw [laws.isWord_ascii (ascii d member)]
          exact last
        rw [Edge, List.head?_append, List.head?_reverse, isLast] at edge
        rw [show (some d).or done.head? = some d from rfl, Option.any_some, word] at edge
        cases edge
  · obtain ⟨d, rest, rfl⟩ := List.exists_cons_of_ne_nil more
    cases first
    rw [← isBack] at head
    have member : c ∈ mark := by
      rw [split]
      exact List.mem_append_right _ List.mem_cons_self
    rw [laws.ascii c (ascii c member)] at alnum
    rw [List.head?_cons, Option.any_some, alnum] at head
    cases head

/-- Where nothing is swapped within a word, a word that has ended in what is left had ended before.
-/
theorem edge_of_rewritten {Keep : List Char → List Char → Prop}
    {Swap : List Char → List Char → List Char → List Char → Prop}
    (starts : ∀ taken rest new, Swap before taken rest new → Edge lib before)
    (word : ¬ Edge lib before) (rewritten : Rewritten Keep Swap before done text out)
    (edge : Edge lib out) : Edge lib text := by
  cases rewritten with
  | nil => exact edge
  | keep kept later => exact edge
  | swap swapped later => exact absurd (starts _ _ _ swapped) word

/-- No word goes on behind the mark. -/
theorem edge_behind_mark (laws : CharLaws lib) (front : List Char) {new : List Char}
    (ends : new = front ++ mark) : Edge lib (new.reverse ++ done) := by
  have bracket : lib.isWord ']' = false := by
    rw [laws.isWord_ascii (by decide)]
    decide
  rw [ends, List.reverse_append, List.append_assoc]
  exact bracket

end Positions

/-! ## Secret assignments -/

section Assignments

variable {lib : AuditLibrary} {before done text out : List Char}

/-- **A settled assignment** here, if there is one: its name, the mark, and then white space. -/
def SettledAssignment (lib : AuditLibrary) (before text : List Char) : Prop :=
  ∀ name gap separator gap' value rest,
    text = name ++ (gap ++ separator :: (gap' ++ (value ++ rest))) →
    IsAssignment lib before name gap separator gap' value →
    gap = [] ∧ separator = '=' ∧ gap' = []
      ∧ ∃ rest', value ++ rest = mark ++ rest' ∧ ∀ c ∈ rest'.head?, isSpace c = true

/-- White space and a separator hold no letter. -/
theorem gaps_notAlnum (laws : CharLaws lib) {gap gap' : List Char} {separator : Char}
    (blank : Blank gap) (isSeparator : among ":=" separator = true) (blank' : Blank gap') :
    ∀ c ∈ gap ++ separator :: gap', lib.isalnum c = false ∧ c ≠ '[' := by
  have space {c : Char} (space : isSpace c = true) : lib.isalnum c = false ∧ c ≠ '[' := by
    refine ⟨laws.space c space, ?_⟩
    rintro rfl
    revert space
    decide
  intro c member
  rcases List.mem_append.mp member with inGap | member
  · exact space (blank c inGap)
  · rcases List.mem_cons.mp member with rfl | inGap
    · have plain : ∀ c ∈ ":=".toList, c.toNat < 128 ∧ c.isAlphanum = false ∧ c ≠ '[' :=
        forall_mem_of_all (by decide)
      obtain ⟨ascii, other, bracket⟩ := plain c (List.contains_iff_mem.mp isSeparator)
      rw [laws.ascii c ascii]
      exact ⟨other, bracket⟩
    · exact space (blank' c inGap)

/-- **An assignment in what is left was one in the text**, where its name and its separator are
copied. -/
theorem assignment_of_copied {Keep : List Char → List Char → Prop}
    {Swap : List Char → List Char → List Char → List Char → Prop}
    (visible : ∀ before taken rest new, Swap before taken rest new →
      ∃ v more, taken = v :: more ∧ isSpace v = false)
    {name gap gap' value rest : List Char} {separator : Char}
    (assignment : IsAssignment lib done name gap separator gap' value) (edge : Edge lib before)
    {front done' t : List Char} (copied : text = name ++ (gap ++ separator :: gap') ++ t)
    (rewritten : Rewritten Keep Swap front done' t (value ++ rest)) :
    ∃ v more, t = v :: more ∧ text = name ++ (gap ++ separator :: (gap' ++ ([v] ++ more)))
      ∧ IsAssignment lib before name gap separator gap' [v] := by
  obtain ⟨v, value, rfl⟩ := List.exists_cons_of_ne_nil assignment.some
  have first : ∃ v more, t = v :: more ∧ isSpace v = false := by
    generalize whole : v :: value ++ rest = all at rewritten
    cases rewritten with
    | nil => cases whole
    | keep kept later =>
        rw [List.cons_append, List.cons.injEq] at whole
        obtain ⟨rfl, -⟩ := whole
        exact ⟨_, _, rfl, assignment.value _ List.mem_cons_self⟩
    | swap swapped later =>
        obtain ⟨v, more, rfl, space⟩ := visible _ _ _ _ swapped
        exact ⟨v, _, rfl, space⟩
  obtain ⟨v, more, rfl, space⟩ := first
  refine ⟨v, more, rfl, ?_, edge, assignment.named, assignment.gap, assignment.separator,
    assignment.gap', List.cons_ne_nil _ _, fun c member => ?_⟩
  · rw [copied]
    simp only [List.append_assoc, List.cons_append, List.nil_append]
  · rw [List.mem_singleton.mp member]
    exact space

theorem assignmentSwap_visible (laws : CharLaws lib) (before taken rest new : List Char)
    (swap : AssignmentSwap lib before taken rest new) :
    ∃ v more, taken = v :: more ∧ isSpace v = false := by
  obtain ⟨name, gap, separator, gap', value, rfl, assignment, -, -⟩ := swap
  obtain ⟨v, more, rfl, -, alnum⟩ := assignment.named.head laws
  exact ⟨v, _, rfl, laws.notSpace alnum⟩

/-- **Where nothing is assigned, nothing is afterwards**: an assignment in what the first
substitution leaves, at a character that was kept, was there before. -/
theorem assignmentAt_of_kept (laws : CharLaws lib) {Keep : List Char → List Char → Prop} {c : Char}
    {rest : List Char} (aligned : Aligned lib before done (c :: rest))
    (rewritten : Rewritten Keep (AssignmentSwap lib) (c :: before) (c :: done) rest out)
    (assigned : AssignmentAt lib done (c :: out)) : AssignmentAt lib before (c :: rest) := by
  obtain ⟨name, gap, separator, gap', value, rest', split, assignment⟩ := assigned
  obtain ⟨c', name', rfl, initial, alnum⟩ := assignment.named.head laws
  rw [List.cons_append, List.cons.injEq] at split
  obtain ⟨rfl, rfl⟩ := split
  have edge := aligned.edge (not_edge_cons alnum) assignment.edge
  have gaps := gaps_notAlnum laws assignment.gap assignment.separator assignment.gap'
  have regroup : name' ++ (gap ++ separator :: (gap' ++ (value ++ rest')))
      = (name' ++ (gap ++ separator :: gap')) ++ (value ++ rest') := by
    simp only [List.append_assoc, List.cons_append]
  rw [regroup] at rewritten
  obtain ⟨t, rfl, further⟩ := rewritten.copied fun front back split more taken rest new
      out' swap => by
    -- a swap puts in a name, and no other name begins within the name or in the gaps
    obtain ⟨name₂, _, _, _, _, -, assignment₂, -, rfl⟩ := swap
    obtain ⟨e, name₃, rfl, initial₂, alnum₂⟩ := assignment₂.named.head laws
    obtain ⟨b, back, rfl⟩ := List.exists_cons_of_ne_nil more
    intro same
    obtain rfl : e = b := (List.cons.inj same).1
    rcases List.append_eq_append_iff.mp split with ⟨more, -, inGaps⟩ | ⟨more, isName, isBack⟩
    · have member : e ∈ gap ++ separator :: gap' := by
        rw [inGaps]
        exact List.mem_append_right _ List.mem_cons_self
      rw [(gaps e member).1] at alnum₂
      cases alnum₂
    · cases more with
      | nil =>
          have member : e ∈ gap ++ separator :: gap' := by
            rw [List.nil_append] at isBack
            rw [← isBack]
            exact List.mem_cons_self
          rw [(gaps e member).1] at alnum₂
          cases alnum₂
      | cons e' more =>
          obtain rfl : e = e' := (List.cons.inj isBack).1
          obtain ⟨front', d, isFront⟩ := exists_last (List.cons_ne_nil c front)
          have split : c :: name' = front' ++ d :: e :: more := by
            rw [isName, ← List.cons_append, isFront, List.append_assoc]
            rfl
          have inner := assignment.named.inner laws split
          have edge₂ := assignment₂.edge
          rw [show front.reverse ++ c :: before = (c :: front).reverse ++ before by simp, isFront,
            List.reverse_append, List.append_assoc] at edge₂
          exact inner edge₂ initial₂
  have copied : c :: (name' ++ (gap ++ separator :: gap') ++ t)
      = c :: name' ++ (gap ++ separator :: gap') ++ t := rfl
  obtain ⟨v, more, rfl, split, assignment'⟩ := assignment_of_copied
    (assignmentSwap_visible laws) assignment edge copied further
  exact ⟨_, _, _, _, _, more, split, assignment'⟩

/-- What follows on what is replaced begins with white space, if with anything. -/
theorem blank_of_rewritten {Keep : List Char → List Char → Prop}
    {Swap : List Char → List Char → List Char → List Char → Prop}
    (visible : ∀ before taken rest new, Swap before taken rest new →
      ∃ v more, taken = v :: more ∧ isSpace v = false)
    (rewritten : Rewritten Keep Swap before done text out)
    (blank : ∀ c ∈ text.head?, isSpace c = true) : ∀ c ∈ out.head?, isSpace c = true := by
  cases rewritten with
  | nil => exact blank
  | keep kept later => exact blank
  | swap swapped later =>
      obtain ⟨v, more, rfl, space⟩ := visible _ _ _ _ swapped
      rw [blank v rfl] at space
      cases space

theorem mark_eq : mark = '[' :: "REDACTED]".toList := rfl

/-- A name holds no separator. -/
theorem SecretName.notSeparator (laws : CharLaws lib) {name : List Char} (named : SecretName name)
    {c : Char} (separator : among ":=" c = true) : c ∉ name := by
  have plain : ∀ c ∈ ":=".toList, c.toNat < 128 ∧ c.isAlphanum = false ∧ c ∉ "_- ".toList :=
    forall_mem_of_all (by decide)
  obtain ⟨ascii, other, notIn⟩ := plain c (List.contains_iff_mem.mp separator)
  intro member
  rcases named.chars laws c member with alnum | between
  · rw [laws.ascii c ascii, other] at alnum
    cases alnum
  · exact notIn between

theorem Blank.notMem {gap : List Char} (blank : Blank gap) {c : Char}
    (visible : isSpace c = false) :
    c ∉ gap := fun member => by
  rw [blank c member] at visible
  cases visible

/-- Where the mark follows on a name, it is the value that is assigned to it. -/
theorem gaps_of_mark {gap gap' value rest : List Char} {separator : Char} (blank : Blank gap)
    (blank' : Blank gap')
    (split : '=' :: (mark ++ out) = gap ++ separator :: (gap' ++ (value ++ rest))) :
    gap = [] ∧ separator = '=' ∧ gap' = [] ∧ value ++ rest = mark ++ out := by
  cases gap with
  | cons c gap =>
      obtain rfl : '=' = c := (List.cons.inj split).1
      exact absurd List.mem_cons_self (blank.notMem (by decide))
  | nil =>
      obtain ⟨same, values⟩ := List.cons.inj split
      cases gap' with
      | nil => exact ⟨rfl, same.symm, rfl, values.symm⟩
      | cons c gap' =>
          obtain rfl : '[' = c := (List.cons.inj values).1
          exact absurd List.mem_cons_self (blank'.notMem (by decide))

/-- Where a name is followed by the mark, an assignment that begins with it is settled. -/
theorem settled_at_name (laws : CharLaws lib) {name name' : List Char} (named : SecretName name)
    {gap gap' value rest : List Char} {separator : Char}
    (assignment : IsAssignment lib done name' gap separator gap' value)
    (split : name ++ '=' :: (mark ++ out)
      = name' ++ (gap ++ separator :: (gap' ++ (value ++ rest)))) :
    gap = [] ∧ separator = '=' ∧ gap' = [] ∧ value ++ rest = mark ++ out := by
  rcases List.append_eq_append_iff.mp split with ⟨more, isName, after⟩ | ⟨more, isName, after⟩
  · cases more with
    | nil => exact gaps_of_mark assignment.gap assignment.gap' after
    | cons c more =>
        obtain rfl : '=' = c := (List.cons.inj after).1
        have member : '=' ∈ name' := by
          rw [isName]
          exact List.mem_append_right _ List.mem_cons_self
        exact absurd member (assignment.named.notSeparator laws (by decide))
  · by_cases none : more = []
    · subst none
      exact gaps_of_mark assignment.gap assignment.gap' after.symm
    · -- the name would go on with white space and a separator
      obtain ⟨more', d, rfl⟩ := exists_last none
      obtain ⟨front, c, last, alnum⟩ := named.last laws
      have same : d = c := by
        rw [isName, ← List.append_assoc] at last
        exact (List.cons.inj (List.append_inj' last rfl).2).1
      have notGap : d ∉ gap := assignment.gap.notMem (by rw [same]; exact laws.notSpace alnum)
      rcases List.append_eq_append_iff.mp after with ⟨most, isMore, isRest⟩ | ⟨most, isGap, -⟩
      · cases most with
        | nil =>
            rw [List.append_nil] at isMore
            rw [← isMore] at notGap
            exact absurd (List.mem_append_right _ List.mem_cons_self) notGap
        | cons e most =>
            obtain rfl : separator = e := (List.cons.inj isRest).1
            have member : separator ∈ name := by
              rw [isName, isMore]
              exact List.mem_append_right _ (List.mem_append_right _ List.mem_cons_self)
            exact absurd member (named.notSeparator laws assignment.separator)
      · rw [isGap] at notGap
        exact absurd (List.mem_append_left _ (List.mem_append_right _ List.mem_cons_self)) notGap

/-- **What the first substitution puts in holds settled assignments only.** -/
theorem settled_of_swapped (laws : CharLaws lib) {name front back : List Char}
    (named : SecretName name) (blank : ∀ c ∈ out.head?, isSpace c = true)
    (split : name ++ '=' :: mark = front ++ back) (more : back ≠ []) :
    SettledAssignment lib (front.reverse ++ done) (back ++ out) := by
  intro name' gap separator gap' value rest isText assignment
  obtain ⟨c, name₁, isName, initial, alnum⟩ := assignment.named.head laws
  have head : (back ++ out).head? = some c := by
    rw [isText, isName]
    rfl
  have head' : back.head? = some c := by
    obtain ⟨b, back, rfl⟩ := List.exists_cons_of_ne_nil more
    exact head
  have notEquals : c ≠ '=' := by
    rintro rfl
    rw [laws.ascii _ (by decide)] at alnum
    exact Bool.noConfusion ((show Char.isAlphanum '=' = false by decide).symm.trans alnum)
  rcases List.append_eq_append_iff.mp split with ⟨past, isFront, isMark⟩ | ⟨past, isName', isBack⟩
  · -- the assignment would begin in the mark
    cases past with
    | nil =>
        rw [List.nil_append] at isMark
        rw [← isMark] at head'
        exact absurd (Option.some.inj head').symm notEquals
    | cons d past =>
        obtain ⟨rfl, inMark⟩ := List.cons.inj isMark
        have edge := assignment.edge
        rw [isFront, List.reverse_append, List.reverse_cons, List.append_assoc, List.append_assoc]
          at edge
        have isBack := within_mark laws inMark more edge head alnum
        rw [isBack] at isText
        exact absurd isText.symm (assignment.named.not_mark _ _)
  · cases front with
    | nil =>
        rw [List.nil_append] at isName'
        rw [isBack, ← isName', List.append_assoc, List.cons_append] at isText
        obtain ⟨noGap, same, noGap', values⟩ := settled_at_name laws named assignment isText
        exact ⟨noGap, same, noGap', out, values, blank⟩
    | cons d front =>
        cases past with
        | nil =>
            rw [isBack] at head'
            exact absurd (Option.some.inj head').symm notEquals
        | cons e past =>
            rw [isBack] at head'
            obtain rfl : e = c := Option.some.inj head'
            obtain ⟨front', d', isFront⟩ := exists_last (List.cons_ne_nil d front)
            have edge := assignment.edge
            rw [isFront, List.reverse_append, List.append_assoc] at edge
            rw [isFront, List.append_assoc] at isName'
            exact absurd initial (named.inner laws isName' edge)

/-- **The first substitution leaves settled assignments only.** -/
theorem settled_withoutAssignments (laws : CharLaws lib) (text : List Char) :
    Everywhere (SettledAssignment lib) [] (withoutAssignments lib text) := by
  refine (rewritten_withoutAssignments laws text).everywhere (Aligned lib) Aligned.start
    ?_ ?_ ?_
  · intro done name gap separator gap' value rest split assignment
    obtain ⟨c, more, rfl, -⟩ := assignment.named.head laws
    cases split
  · intro before done rest out c aligned kept later
    refine ⟨fun name gap separator gap' value rest split assignment => ?_, Aligned.cons c⟩
    have assigned := assignmentAt_of_kept laws aligned later ⟨_, _, _, _, _, _, split, assignment⟩
    exact absurd assigned kept
  · rintro before done taken rest new out aligned ⟨name, gap, separator, gap', value, rfl,
      assignment, blank, rfl⟩ later
    constructor
    · intro front back split more
      exact settled_of_swapped laws assignment.named
        (blank_of_rewritten (assignmentSwap_visible laws) later blank) split more
    · have edge : Edge lib ((name ++ '=' :: mark).reverse ++ done) :=
        edge_behind_mark laws (name ++ ['=']) (by simp)
      refine ⟨fun word => ?_, fun _ => edge⟩
      cases rest with
      | nil => exact absurd edge_nil word
      | cons c rest => exact absurd (laws.space_word (blank c rfl)) word

end Assignments

/-! ## Marks -/

section Marks

variable {lib : AuditLibrary} {before done text out : List Char}

/-- **What a mark is put in for**: characters that are no white space, up to a boundary, which are
no part of the mark itself. -/
structure IsSegment (lib : AuditLibrary) (before segment rest : List Char) : Prop where
  more : segment ≠ []
  chars : ∀ c ∈ segment, c ≠ '[' ∧ c ≠ ']' ∧ isSpace c = false
  starts : AtBoundary lib.isWord before (segment ++ rest)
    ∨ before.head?.any lib.isdecimal = false
  ends : AtBoundary lib.isWord (segment.reverse ++ before) rest
  other : ¬ segment <:+: "REDACTED".toList

/-- A segment becomes the mark. -/
def MarkSwap (lib : AuditLibrary) (before taken rest new : List Char) : Prop :=
  IsSegment lib before taken rest ∧ new = mark

/-- **Marks are put in**, and the rest is as it was. -/
abbrev Marked (lib : AuditLibrary) : List Char → List Char → List Char → List Char → Prop :=
  Rewritten (fun _ _ => True) (MarkSwap lib)

/-- Alphanumeric characters are no brackets and no white space. -/
theorem CharLaws.visible (laws : CharLaws lib) {c : Char} (alnum : lib.isalnum c = true) :
    c ≠ '[' ∧ c ≠ ']' ∧ isSpace c = false := by
  have plain : ∀ c ∈ "[]".toList, c.toNat < 128 ∧ c.isAlphanum = false :=
    forall_mem_of_all (by decide)
  have other {d : Char} (member : d ∈ "[]".toList) : c ≠ d := by
    rintro rfl
    rw [laws.ascii c (plain c member).1, (plain c member).2] at alnum
    cases alnum
  exact ⟨other (by decide), other (by decide), laws.notSpace alnum⟩

/-- So are the other token characters. -/
theorem CharLaws.tokenChar (laws : CharLaws lib) {c : Char}
    (char : SecretPattern.isTokenChar c = true) : c ≠ '[' ∧ c ≠ ']' ∧ isSpace c = false := by
  rw [SecretPattern.isTokenChar, Bool.or_eq_true] at char
  rcases char with alnum | between
  · exact laws.visible (laws.isalnum alnum)
  · have plain : ∀ c ∈ "+/=_-".toList, c ≠ '[' ∧ c ≠ ']' ∧ isSpace c = false :=
      forall_mem_of_all (by decide)
    exact plain c (List.contains_iff_mem.mp between)

/-- The mark is shorter than what is replaced. -/
theorem not_infix_of_length {segment : List Char} (long : 8 < segment.length) :
    ¬ segment <:+: "REDACTED".toList := fun inside => by
  have short : segment.length ≤ 8 := inside.length_le
  omega

/-- The third substitution puts in marks. -/
theorem markSwap_of_tokenSwap (laws : CharLaws lib) (before taken rest new : List Char)
    (swap : TokenSwap lib before taken rest new) : MarkSwap lib before taken rest new := by
  obtain ⟨isToken, -, rfl⟩ := swap
  have least := isToken.least
  refine ⟨⟨?_, fun c member => ?_, .inl isToken.starts, isToken.ends,
    not_infix_of_length (by omega)⟩, rfl⟩
  · rintro rfl
    cases least
  · exact laws.tokenChar (isToken.chars c member)

/-- The fourth substitution puts in marks. -/
theorem markSwap_of_hexSwap (laws : CharLaws lib) (before taken rest new : List Char)
    (swap : HexSwap lib before taken rest new) : MarkSwap lib before taken rest new := by
  obtain ⟨hex, rfl⟩ := swap
  have least := hex.least
  have more : taken ≠ [] := by
    rintro rfl
    cases least
  have around := @boundaries_of_word lib before rest taken more fun c member =>
    isWord_of_isalnum (laws.hexDigit (hex.all c member))
  exact ⟨⟨more, fun c member => laws.visible (laws.hexDigit (hex.all c member)),
    .inl (around.1.mpr hex.edge), around.2.mpr hex.edge', not_infix_of_length (by omega)⟩, rfl⟩

/-- The second substitution puts in marks. -/
theorem marked_of_codes (laws : CharLaws lib) {Keep : List Char → List Char → Prop}
    (rewritten : Rewritten Keep (CodeSwap lib) before done text out) :
    Marked lib before done text out := by
  induction rewritten with
  | nil => exact .nil _ _
  | keep kept later ih => exact .keep trivial ih
  | @swap before done taken rest new out swapped later ih =>
      obtain ⟨front, digits, rfl, code, rfl⟩ := swapped
      have more : digits ≠ [] := by
        rintro rfl
        cases code.least
      rw [List.append_assoc, List.append_assoc]
      refine Rewritten.keeps (fun _ _ => trivial) (.swap ⟨⟨more, ?_, ?_,
        ?_, ?_⟩, rfl⟩ ?_)
      · exact fun c member => laws.visible (laws.decimal c (code.decimal c member))
      · obtain ⟨front', e, rfl⟩ := exists_last code.front.nonempty
        have decimal := (code.front.chars laws e (by simp)).1
        rw [List.reverse_append, List.append_assoc]
        exact .inr decimal
      · exact (edge_of_decimals laws more code.decimal).mpr code.edge'
      · intro inside
        obtain ⟨d, digits, rfl⟩ := List.exists_cons_of_ne_nil more
        have letters : ∀ c ∈ "REDACTED".toList, c.toNat < 128 ∧ c.isDigit = false :=
          forall_mem_of_all (by decide)
        obtain ⟨ascii, digit⟩ := letters d (inside.subset List.mem_cons_self)
        have decimal := code.decimal d List.mem_cons_self
        rw [laws.digits d ascii, digit] at decimal
        cases decimal
      · rw [List.reverse_append, List.reverse_append, List.append_assoc, List.append_assoc] at ih
        exact ih

/-- What is put in is no white space and begins with a bracket. -/
theorem markSwap_visible (before taken rest new : List Char)
    (swap : MarkSwap lib before taken rest new) :
    ∃ v more, taken = v :: more ∧ isSpace v = false := by
  obtain ⟨v, more, rfl⟩ := List.exists_cons_of_ne_nil swap.1.more
  exact ⟨v, more, rfl, (swap.1.chars v List.mem_cons_self).2.2⟩

/-- **What holds no bracket is copied.** -/
theorem Marked.copied {copy : List Char} (marked : Marked lib before done text (copy ++ out))
    (plain : '[' ∉ copy) : ∃ rest, text = copy ++ rest
      ∧ Marked lib (copy.reverse ++ before) (copy.reverse ++ done) rest out := by
  refine Rewritten.copied marked fun front back split more taken rest new out' swap same => ?_
  obtain ⟨b, back, rfl⟩ := List.exists_cons_of_ne_nil more
  rw [swap.2, mark_eq] at same
  rw [split, ← (List.cons.inj same).1] at plain
  exact plain (List.mem_append_right _ List.mem_cons_self)

/-- The mark stays. -/
theorem Marked.mark_stays (marked : Marked lib before done (mark ++ text) out) :
    ∃ out', out = mark ++ out' ∧ ∃ before done, Marked lib before done text out' := by
  -- a segment that begins in the mark would be a part of its word
  have letters (word : List Char) (inside : word <:+ "REDACTED".toList) :
      ∀ {before done out : List Char}, Marked lib before done (word ++ ']' :: text) out →
      ∃ out', out = word ++ ']' :: out' ∧ ∃ before done, Marked lib before done text out' := by
    induction word with
    | nil =>
        intro before done out marked
        generalize whole : [] ++ ']' :: text = all at marked
        cases marked with
        | nil => cases whole
        | keep kept later =>
            obtain ⟨rfl, rfl⟩ := List.cons.inj whole
            exact ⟨_, rfl, _, _, later⟩
        | @swap before done taken rest new out swapped later =>
            obtain ⟨v, more, rfl⟩ := List.exists_cons_of_ne_nil swapped.1.more
            obtain ⟨rfl, -⟩ := List.cons.inj whole
            exact absurd rfl (swapped.1.chars _ List.mem_cons_self).2.1
    | cons c word ih =>
        intro before done out marked
        generalize whole : c :: word ++ ']' :: text = all at marked
        cases marked with
        | nil => cases whole
        | keep kept later =>
            obtain ⟨rfl, rfl⟩ := List.cons.inj whole
            obtain ⟨out', rfl, further⟩ := ih ((List.suffix_cons c word).trans inside) later
            exact ⟨out', rfl, further⟩
        | @swap before done taken rest new out swapped later =>
            rcases List.append_eq_append_iff.mp whole with
            ⟨more, isTaken, after⟩ | ⟨more, isWord, -⟩
            · cases more with
              | nil =>
                  rw [List.append_nil] at isTaken
                  rw [isTaken] at swapped
                  exact absurd inside.isInfix swapped.1.other
              | cons d more =>
                  obtain ⟨rfl, -⟩ := List.cons.inj after
                  have member : ']' ∈ taken := by
                    rw [isTaken]
                    exact List.mem_append_right _ List.mem_cons_self
                  exact absurd rfl (swapped.1.chars _ member).2.1
            · have part : taken <:+: "REDACTED".toList :=
                (List.IsPrefix.isInfix ⟨more, isWord.symm⟩).trans inside.isInfix
              exact absurd part swapped.1.other
  generalize whole : mark ++ text = all at marked
  cases marked with
  | nil => cases whole
  | keep kept later =>
      obtain ⟨rfl, rfl⟩ := List.cons.inj whole
      obtain ⟨out', rfl, further⟩ := letters "REDACTED".toList (List.suffix_refl _) later
      exact ⟨out', rfl, further⟩
  | @swap before done taken rest new out swapped later =>
      obtain ⟨v, more, rfl⟩ := List.exists_cons_of_ne_nil swapped.1.more
      obtain ⟨rfl, -⟩ := List.cons.inj whole
      exact absurd rfl (swapped.1.chars _ List.mem_cons_self).1

/-- Behind a mark the positions are aligned again. -/
theorem IsSegment.aligned (laws : CharLaws lib) {segment rest : List Char}
    (isSegment : IsSegment lib before segment rest) :
    Aligned lib (segment.reverse ++ before) (mark.reverse ++ done) rest := by
  refine ⟨fun word _ => ?_, fun _ => edge_behind_mark laws [] rfl⟩
  cases rest with
  | nil => exact absurd edge_nil word
  | cons c rest =>
      rw [edge_cons, Bool.not_eq_false] at word
      exact (atBoundary_word word).mp isSegment.ends

/-- **What holds everywhere is preserved by marks** where it can be checked at characters that are
kept and does not fail within the mark. -/
theorem Marked.everywhere (laws : CharLaws lib) {P Q : List Char → List Char → Prop}
    (marked : Marked lib before done text out) (aligned : Aligned lib before done text)
    (holds : Everywhere P before text) (nil : ∀ done, Q done [])
    (keep : ∀ before done rest out c, Aligned lib before done (c :: rest) → P before (c :: rest) →
      Marked lib (c :: before) (c :: done) rest out → Q done (c :: out))
    (within : ∀ front back done out, mark = front ++ back → back ≠ [] →
      Q (front.reverse ++ done) (back ++ out)) : Everywhere Q done out := by
  refine Rewritten.everywhere (fun before done text =>
    Aligned lib before done text ∧ Everywhere P before text) marked ⟨aligned, holds⟩ nil ?_ ?_
  · rintro before done rest out c ⟨aligned, holds⟩ - later
    exact ⟨keep _ _ _ _ _ aligned holds.here later, .cons c,
      holds.tail⟩
  · rintro before done taken rest new out ⟨aligned, holds⟩ ⟨isSegment, rfl⟩ later
    exact ⟨fun front back split more => within front back _ _ split more,
      isSegment.aligned laws, holds.rest⟩

/-- **Marks leave settled assignments settled.** -/
theorem Marked.settled (laws : CharLaws lib) (marked : Marked lib before done text out)
    (aligned : Aligned lib before done text)
    (settled : Everywhere (SettledAssignment lib) before text) :
    Everywhere (SettledAssignment lib) done out := by
  refine marked.everywhere laws aligned settled ?_ ?_ ?_
  · intro done name gap separator gap' value rest split assignment
    obtain ⟨c, more, rfl, -⟩ := assignment.named.head laws
    cases split
  · intro before done rest out c aligned settled later name gap separator gap' value rest' split
      assignment
    obtain ⟨c', name', rfl, -, alnum⟩ := assignment.named.head laws
    rw [List.cons_append, List.cons.injEq] at split
    obtain ⟨rfl, rfl⟩ := split
    have regroup : name' ++ (gap ++ separator :: (gap' ++ (value ++ rest')))
        = (name' ++ (gap ++ separator :: gap')) ++ (value ++ rest') := by
      simp only [List.append_assoc, List.cons_append]
    rw [regroup] at later
    obtain ⟨t, rfl, further⟩ := later.copied fun member => by
      rcases List.mem_append.mp member with inName | inGaps
      · rcases assignment.named.chars laws '[' (List.mem_cons_of_mem c inName) with alnum | between
        · exact (laws.visible alnum).1 rfl
        · revert between
          decide
      · have gaps := gaps_notAlnum laws assignment.gap assignment.separator assignment.gap'
        exact (gaps '[' inGaps).2 rfl
    have copied : c :: (name' ++ (gap ++ separator :: gap') ++ t)
        = c :: name' ++ (gap ++ separator :: gap') ++ t := rfl
    obtain ⟨v, more, rfl, split, assignment'⟩ := assignment_of_copied markSwap_visible assignment
      (aligned.edge (not_edge_cons alnum) assignment.edge) copied further
    obtain ⟨noGap, same, noGap', rest₂, values, blank⟩ := settled _ _ _ _ _ _ split assignment'
    rw [List.singleton_append] at values
    rw [values] at further
    obtain ⟨out', values', _, _, last⟩ := further.mark_stays
    exact ⟨noGap, same, noGap', out', values', blank_of_rewritten markSwap_visible last blank⟩
  · intro front back done out split more name gap separator gap' value rest isText assignment
    obtain ⟨c, name', isName, -, alnum⟩ := assignment.named.head laws
    have head : (back ++ out).head? = some c := by
      rw [isText, isName]
      rfl
    rw [within_mark laws split more assignment.edge head alnum] at isText
    exact absurd isText.symm (assignment.named.not_mark _ _)

/-- What lies ahead of a copied part of a word ends no word if nothing does in what is left. -/
theorem Marked.edge (marked : Marked lib before done text out)
    (decimal : before.head?.any lib.isdecimal = true) (word : ¬ Edge lib before)
    (edge : Edge lib out) : Edge lib text := by
  cases marked with
  | nil => exact edge
  | keep kept later => exact edge
  | @swap before done taken rest new out swapped later =>
      obtain ⟨d, more, rfl⟩ := List.exists_cons_of_ne_nil swapped.1.more
      rcases swapped.1.starts with boundary | other
      · cases before with
        | nil => cases decimal
        | cons b before =>
            rw [edge_cons, Bool.not_eq_false] at word
            exact (word_atBoundary word).mp boundary
      · rw [other] at decimal
        cases decimal

end Marks

/-! ## One-time codes -/

section Codes

variable {lib : AuditLibrary} {before done text out : List Char}

/-- What stands before a code begins with a letter. -/
theorem CodeFront.head (laws : CharLaws lib) {front : List Char} (isFront : CodeFront front) :
    ∃ c rest, front = c :: rest ∧ lib.isalnum c = true := by
  cases isFront with
  | mk named spells =>
      obtain ⟨c, more, rfl, -⟩ := spells.head (mem_nameWords_of_code named)
      exact ⟨c, _, rfl, (spells.alnum laws (mem_nameWords_of_code named) c List.mem_cons_self).1⟩

/-- The mark holds no code. -/
theorem CodeFront.not_mark {front : List Char} (isFront : CodeFront front) (rest out : List Char) :
    front ++ rest ≠ "REDACTED]".toList ++ out := by
  cases isFront with
  | mk named spells =>
      rw [List.append_assoc]
      exact spells.not_mark (mem_nameWords_of_code named) _ out

/-- The last digit of a code. -/
theorem IsCode.last {front digits rest : List Char} (code : IsCode lib before front digits rest) :
    ∃ digits' d, digits = digits' ++ [d] ∧ lib.isdecimal d = true := by
  have some : digits ≠ [] := by
    rintro rfl
    cases code.least
  obtain ⟨digits', d, rfl⟩ := exists_last some
  exact ⟨digits', d, rfl, code.decimal d (by simp)⟩

/-- A code holds no bracket. -/
theorem IsCode.notBracket (laws : CharLaws lib) {front digits rest : List Char}
    (code : IsCode lib before front digits rest) : '[' ∉ front ++ digits := by
  intro member
  rcases List.mem_append.mp member with inFront | inDigits
  · exact (code.front.chars laws '[' inFront).2 rfl
  · exact (laws.visible (laws.decimal _ (code.decimal _ inDigits))).1 rfl

/-- **A code in what is left was one in the text**, where it is copied. -/
theorem codeAt_of_copied {front digits rest t : List Char}
    (code : IsCode lib done front digits rest) (edge : Edge lib before)
    (edge' : Edge lib t) (copied : text = front ++ digits ++ t) : CodeAt lib before text :=
  ⟨front, digits, t, by rw [copied, List.append_assoc], edge, code.front, code.decimal, code.least,
    code.most, edge'⟩

/-- **Marks bring no code about.** -/
theorem Marked.uncoded (laws : CharLaws lib) (marked : Marked lib before done text out)
    (aligned : Aligned lib before done text)
    (uncoded : Everywhere (fun before text => ¬ CodeAt lib before text) before text) :
    Everywhere (fun before text => ¬ CodeAt lib before text) done out := by
  refine marked.everywhere laws aligned uncoded ?_ ?_ ?_
  · rintro done ⟨front, digits, rest, split, code⟩
    obtain ⟨c, more, rfl, -⟩ := code.front.head laws
    cases split
  · rintro before done rest out c aligned uncoded later ⟨front, digits, rest', split, code⟩
    have plain := code.notBracket laws
    obtain ⟨digits', d, isDigits, decimal⟩ := code.last
    obtain ⟨c', front', rfl, alnum⟩ := code.front.head laws
    rw [List.cons_append, List.cons.injEq] at split
    obtain ⟨rfl, rfl⟩ := split
    rw [← List.append_assoc] at later
    obtain ⟨t, rfl, further⟩ := later.copied fun member => plain (List.mem_cons_of_mem c member)
    refine uncoded (codeAt_of_copied (t := t) code
      (aligned.edge (not_edge_cons alnum) code.edge) ?_ rfl)
    rw [isDigits, ← List.append_assoc, List.reverse_append, List.append_assoc] at further
    refine further.edge decimal ?_ code.edge'
    exact not_edge_cons (laws.decimal d decimal)
  · rintro front back done out split more ⟨front', digits, rest, isText, code⟩
    obtain ⟨c, more', isFront, alnum⟩ := code.front.head laws
    have head : (back ++ out).head? = some c := by
      rw [isText, isFront]
      rfl
    rw [within_mark laws split more code.edge head alnum] at isText
    exact code.front.not_mark _ _ isText.symm

/-- A code is no part of what stands before another. -/
theorem code_not_in_front {copy front rest out : List Char} {d : Char}
    (plain : '[' ∉ copy ++ [d]) (decimal : lib.isdecimal d = true)
    (isFront : ∀ c ∈ front, lib.isdecimal c = false) :
    front ++ mark ++ out ≠ copy ++ [d] ++ rest := by
  intro same
  have notIn : d ∉ front := fun member => by
    rw [isFront d member] at decimal
    cases decimal
  rw [List.append_assoc] at same
  rcases List.append_eq_append_iff.mp same with ⟨more, isCopy, after⟩ | ⟨more, isFront', -⟩
  · cases more with
    | nil =>
        rw [List.append_nil] at isCopy
        rw [← isCopy] at notIn
        exact notIn (by simp)
    | cons b more =>
        rw [mark_eq, List.cons_append] at after
        rw [isCopy, ← (List.cons.inj after).1] at plain
        exact plain (List.mem_append_right _ List.mem_cons_self)
  · rw [isFront'] at notIn
    exact notIn (by simp)

/-- **The second substitution leaves no code.** -/
theorem uncoded_withoutCodes (laws : CharLaws lib) (text : List Char) :
    Everywhere (fun before text => ¬ CodeAt lib before text) [] (withoutCodes lib text) := by
  refine (rewritten_withoutCodes laws text).everywhere (Aligned lib) Aligned.start ?_ ?_ ?_
  · rintro done ⟨front, digits, rest, split, code⟩
    obtain ⟨c, more, rfl, -⟩ := code.front.head laws
    cases split
  · intro before done rest out c aligned kept later
    refine ⟨?_, Aligned.cons c⟩
    rintro ⟨front, digits, rest', split, code⟩
    have plain := code.notBracket laws
    obtain ⟨digits', d, isDigits, decimal⟩ := code.last
    obtain ⟨c', front', rfl, alnum⟩ := code.front.head laws
    rw [List.cons_append, List.cons.injEq] at split
    obtain ⟨rfl, rfl⟩ := split
    have copy : front' ++ digits = (front' ++ digits') ++ [d] := by
      rw [isDigits, List.append_assoc]
    rw [← List.append_assoc, copy] at later
    obtain ⟨t, rfl, further⟩ := later.copied fun front₁ back split more taken rest new
        out' swap => by
      obtain ⟨front₂, digits₂, rfl, code₂, rfl⟩ := swap
      obtain ⟨back', e, rfl⟩ := exists_last more
      have same : front' ++ digits' = front₁ ++ back' ∧ [d] = [e] := by
        rw [← List.append_assoc] at split
        exact List.append_inj' split rfl
      obtain rfl : d = e := (List.cons.inj same.2).1
      refine code_not_in_front (fun member => plain ?_) decimal
        fun c member => (code₂.front.chars laws c member).1
      rw [List.cons_append, copy, split]
      exact List.mem_cons_of_mem c (List.mem_append_right _ member)
    refine kept (codeAt_of_copied (t := t) code (aligned.edge (not_edge_cons alnum) code.edge) ?_
      (by rw [List.cons_append, copy]; rfl))
    -- the digits of the code end where they did before
    refine edge_of_rewritten ?_ ?_ further code.edge'
    · rintro taken rest new ⟨front₂, digits₂, -, code₂, -⟩
      exact code₂.edge
    · rw [List.reverse_append, List.append_assoc]
      exact not_edge_cons (laws.decimal d decimal)
  · rintro before done taken rest new out aligned ⟨front₂, digits₂, rfl, code₂, rfl⟩ later
    constructor
    · rintro front₁ back split more ⟨front, digits, rest', isText, code⟩
      obtain ⟨c, front', isFront, alnum⟩ := code.front.head laws
      have plain := code.notBracket laws
      obtain ⟨digits', d, isDigits, decimal⟩ := code.last
      rcases List.append_eq_append_iff.mp split with
        ⟨past, isFront₁, isMark⟩ | ⟨past, isPast, isBack⟩
      · have head : (back ++ out).head? = some c := by
          rw [isText, isFront]
          rfl
        have edge := code.edge
        rw [isFront₁, List.reverse_append, List.append_assoc] at edge
        rw [within_mark laws isMark more edge head alnum] at isText
        exact code.front.not_mark _ _ isText.symm
      · rw [isDigits, ← List.append_assoc] at plain
        rw [isBack, isDigits, ← List.append_assoc, ← List.append_assoc] at isText
        refine code_not_in_front plain decimal (fun c member => ?_) isText
        refine (code₂.front.chars laws c ?_).1
        rw [isPast]
        exact List.mem_append_right _ member
    · exact ⟨fun word => absurd code₂.edge' word, fun _ => edge_behind_mark laws _ rfl⟩

end Codes

/-! ## Stripped texts -/

section Stripped

variable {lib : AuditLibrary} {before done text out : List Char}

/-- A hexadecimal secret holds no bracket. -/
theorem IsHex.notBracket (laws : CharLaws lib) {digits rest : List Char}
    (hex : IsHex lib before digits rest) : '[' ∉ digits := fun member =>
  (laws.visible (laws.hexDigit (hex.all _ member))).1 rfl

/-- **The fourth substitution leaves no hexadecimal secret.** -/
theorem unhexed_withoutHex (laws : CharLaws lib) (text : List Char) :
    Everywhere (fun before text => ¬ HexAt lib before text) [] (withoutHex lib text) := by
  refine (rewritten_withoutHex laws text).everywhere (Aligned lib) Aligned.start ?_ ?_ ?_
  · rintro done ⟨digits, rest, split, hex⟩
    obtain ⟨rfl, -⟩ := List.append_eq_nil_iff.mp split.symm
    cases hex.least
  · intro before done rest out c aligned kept later
    refine ⟨?_, Aligned.cons c⟩
    rintro ⟨digits, rest', split, hex⟩
    have plain := hex.notBracket laws
    have some : digits ≠ [] := by
      rintro rfl
      cases hex.least
    obtain ⟨digits', d, isDigits⟩ := exists_last some
    have alnum : ∀ c ∈ digits, lib.isalnum c = true := fun c member =>
      laws.hexDigit (hex.all c member)
    cases digits with
    | nil => cases hex.least
    | cons c' digits =>
        rw [List.cons_append, List.cons.injEq] at split
        obtain ⟨rfl, rfl⟩ := split
        obtain ⟨t, rfl, further⟩ := later.copied fun front back split more taken rest new
            out' swap => by
          obtain ⟨b, back, rfl⟩ := List.exists_cons_of_ne_nil more
          intro same
          rw [swap.2, mark_eq] at same
          rw [split, ← (List.cons.inj same).1] at plain
          exact plain (List.mem_cons_of_mem c (List.mem_append_right _ List.mem_cons_self))
        refine kept ⟨c :: digits, t, rfl, aligned.edge (not_edge_cons (alnum c List.mem_cons_self))
          hex.edge, hex.all, hex.least, edge_of_rewritten (fun _ _ _ swap => swap.1.edge) ?_ further
            hex.edge'⟩
        have last : digits.reverse ++ c :: before = d :: (digits'.reverse ++ before) := by
          have reversed := congrArg List.reverse isDigits
          rw [List.reverse_cons, List.reverse_append] at reversed
          rw [← List.singleton_append, ← List.append_assoc, reversed]
          rfl
        rw [last]
        exact not_edge_cons (alnum d (by rw [isDigits]; simp))
  · rintro before done taken rest new out aligned ⟨hex₂, rfl⟩ later
    refine ⟨?_, fun word => absurd hex₂.edge' word, fun _ => edge_behind_mark laws [] rfl⟩
    rintro front back split more ⟨digits, rest', isText, hex⟩
    cases digits with
    | nil => cases hex.least
    | cons c digits =>
        have digit := hex.all c List.mem_cons_self
        have head : (back ++ out).head? = some c := by
          rw [isText]
          rfl
        rw [within_mark laws split more hex.edge head (laws.hexDigit digit)] at isText
        rw [← (List.cons.inj isText).1] at digit
        revert digit
        decide

/-- **A text that is stripped has no assignments but settled ones, no codes and no hexadecimal
secrets.** -/
structure StrippedText (lib : AuditLibrary) (text : List Char) : Prop where
  settled : Everywhere (SettledAssignment lib) [] text
  uncoded : Everywhere (fun before text => ¬ CodeAt lib before text) [] text
  unhexed : Everywhere (fun before text => ¬ HexAt lib before text) [] text

/-- The text that the four substitutions leave. -/
def strippedText (lib : AuditLibrary) (text : List Char) : List Char :=
  withoutHex lib (withoutTokens lib (withoutCodes lib (withoutAssignments lib text)))

/-- **What the four substitutions leave is stripped.** -/
theorem strippedText_stripped (laws : CharLaws lib) (text : List Char) :
    StrippedText lib (strippedText lib text) := by
  have codes := marked_of_codes laws (rewritten_withoutCodes laws (withoutAssignments lib text))
  have tokens : Marked lib [] [] _ _ := (rewritten_withoutTokens lib
    (withoutCodes lib (withoutAssignments lib text))).mono (fun _ _ _ => trivial)
      (markSwap_of_tokenSwap laws)
  have hex : Marked lib [] [] _ _ := (rewritten_withoutHex laws (withoutTokens lib
    (withoutCodes lib (withoutAssignments lib text)))).mono (fun _ _ _ => trivial)
      (markSwap_of_hexSwap laws)
  refine ⟨?_, ?_, unhexed_withoutHex laws _⟩
  · exact hex.settled laws .start (tokens.settled laws .start (codes.settled laws .start
      (settled_withoutAssignments laws text)))
  · exact hex.uncoded laws .start (tokens.uncoded laws .start (uncoded_withoutCodes laws _))

/-- Two ways to split a text where white space begins are the same. -/
theorem visible_part_unique {first second rest rest' : List Char}
    (same : first ++ rest = second ++ rest')
    (visible : ∀ c ∈ first, isSpace c = false) (visible' : ∀ c ∈ second, isSpace c = false)
    (blank : ∀ c ∈ rest.head?, isSpace c = true) (blank' : ∀ c ∈ rest'.head?, isSpace c = true) :
    first = second := by
  rcases List.append_eq_append_iff.mp same with ⟨more, rfl, after⟩ | ⟨more, rfl, after⟩
  · cases more with
    | nil => rw [List.append_nil]
    | cons c more =>
        have space := blank c (by rw [after]; rfl)
        rw [visible' c (by simp)] at space
        cases space
  · cases more with
    | nil => rw [List.append_nil]
    | cons c more =>
        have space := blank' c (by rw [after]; rfl)
        rw [visible c (by simp)] at space
        cases space

/-- Settled assignments stay. -/
theorem withoutAssignments_of_settled (laws : CharLaws lib)
    (settled : Everywhere (SettledAssignment lib) [] text) :
    withoutAssignments lib text = text := by
  refine (rewritten_withoutAssignments laws text).eq_self settled ?_
  rintro before taken rest new settled ⟨name, gap, separator, gap', value, rfl, assignment,
    blank, rfl⟩
  obtain ⟨rfl, rfl, rfl, rest', values, blank'⟩ := settled name gap separator gap' value rest
    (by simp only [List.append_assoc, List.cons_append]) assignment
  have visible : ∀ c ∈ mark, isSpace c = false :=
    forall_mem_of_all (by decide)
  rw [visible_part_unique values assignment.value visible blank blank']
  rfl

/-- Texts without codes stay. -/
theorem withoutCodes_of_uncoded (laws : CharLaws lib)
    (uncoded : Everywhere (fun before text => ¬ CodeAt lib before text) [] text) :
    withoutCodes lib text = text := by
  refine (rewritten_withoutCodes laws text).eq_self uncoded ?_
  rintro before taken rest new uncoded ⟨front, digits, rfl, code, rfl⟩
  exact absurd ⟨front, digits, rest, List.append_assoc _ _ _, code⟩ uncoded

/-- The fourth substitution shortens what it changes. -/
theorem withoutHex_length (laws : CharLaws lib) (text : List Char) :
    (withoutHex lib text).length ≤ text.length
      ∧ ((withoutHex lib text).length = text.length → withoutHex lib text = text) := by
  have shorter := (rewritten_withoutHex laws text).length_le ?_ ?_
  · exact ⟨shorter.1, fun equal => (shorter.2 equal).1⟩
  · rintro before taken rest new ⟨isHex, rfl⟩
    have least := isHex.least
    rw [show mark.length = 10 from rfl]
    omega
  · rintro before ⟨digits, rest, split, hex⟩
    obtain ⟨rfl, -⟩ := List.append_eq_nil_iff.mp split.symm
    cases hex.least

/-- The third substitution shortens what it changes, and it changes what has a token of high
entropy. -/
theorem withoutTokens_length (lib : AuditLibrary) (text : List Char) :
    (withoutTokens lib text).length ≤ text.length
      ∧ ((withoutTokens lib text).length = text.length → withoutTokens lib text = text
        ∧ Everywhere (fun before text => ¬ EntropyAt lib before text) [] text) := by
  refine (rewritten_withoutTokens lib text).length_le ?_ ?_
  · rintro before taken rest new ⟨isToken, -, rfl⟩
    have least := isToken.least
    rw [show mark.length = 10 from rfl]
    omega
  · rintro before ⟨token, rest, split, isToken, -⟩
    obtain ⟨rfl, -⟩ := List.append_eq_nil_iff.mp split.symm
    cases isToken.least

/-- Texts without tokens of high entropy stay. -/
theorem withoutTokens_of_none
    (none : Everywhere (fun before text => ¬ EntropyAt lib before text) [] text) :
    withoutTokens lib text = text := by
  refine (rewritten_withoutTokens lib text).eq_self none ?_
  rintro before taken rest new none ⟨isToken, classes, rfl⟩
  exact absurd ⟨taken, rest, rfl, isToken, classes⟩ none

/-- Texts without hexadecimal secrets stay. -/
theorem withoutHex_of_unhexed (laws : CharLaws lib)
    (unhexed : Everywhere (fun before text => ¬ HexAt lib before text) [] text) :
    withoutHex lib text = text := by
  refine (rewritten_withoutHex laws text).eq_self unhexed ?_
  rintro before taken rest new unhexed ⟨hex, rfl⟩
  exact absurd ⟨taken, rest, rfl, hex⟩ unhexed

/-- **A stripped text loses tokens and hexadecimal secrets only.** -/
theorem StrippedText.again (laws : CharLaws lib) (stripped : StrippedText lib text) :
    strippedText lib text = withoutHex lib (withoutTokens lib text) := by
  rw [strippedText, withoutAssignments_of_settled laws stripped.settled,
    withoutCodes_of_uncoded laws stripped.uncoded]

/-- Stripping once more shortens what it changes. -/
theorem StrippedText.length (laws : CharLaws lib) (stripped : StrippedText lib text) :
    (strippedText lib text).length ≤ text.length
      ∧ ((strippedText lib text).length = text.length → strippedText lib text = text) := by
  obtain ⟨tokens, sameTokens⟩ := withoutTokens_length lib text
  obtain ⟨hex, sameHex⟩ := withoutHex_length laws (withoutTokens lib text)
  rw [stripped.again laws]
  refine ⟨Nat.le_trans hex tokens, fun equal => ?_⟩
  have equalHex : (withoutHex lib (withoutTokens lib text)).length
      = (withoutTokens lib text).length := by omega
  rw [sameHex equalHex]
  exact (sameTokens (by omega)).1

/-- **A stripped text stays exactly where it has no token of high entropy.** -/
theorem StrippedText.again_eq_self_iff (laws : CharLaws lib) (stripped : StrippedText lib text) :
    strippedText lib text = text
      ↔ Everywhere (fun before text => ¬ EntropyAt lib before text) [] text := by
  rw [stripped.again laws]
  constructor
  · intro same
    obtain ⟨tokens, sameTokens⟩ := withoutTokens_length lib text
    obtain ⟨hex, -⟩ := withoutHex_length laws (withoutTokens lib text)
    rw [same] at hex
    exact (sameTokens (Nat.le_antisymm tokens hex)).2
  · intro none
    rw [withoutTokens_of_none none, withoutHex_of_unhexed laws stripped.unhexed]

end Stripped

end AgenticKVM
