import AgenticKVM.StrippedTexts

/-! # Texts that are stripped twice

The mark has capitals. Put in for a hexadecimal secret, it can bring about a token of high entropy
where there was none for want of a capital: `HIGH_ENTROPY_RE` has been substituted by then, and
finds the token when the text is stripped once more. Those texts are described here as they are
before hexadecimal secrets are replaced (`Exposed`), and stripping a text twice is stripping it once
exactly where it is not exposed (`strippedText_twice_iff`). -/

namespace AgenticKVM

open Lib Lib.Regex

section Tokens

variable {lib : AuditLibrary} {before done text out : List Char}

/-- The swaps that put the mark in from a boundary on. -/
def MarksFromBoundary (lib : AuditLibrary)
    (Swap : List Char → List Char → List Char → List Char → Prop) : Prop :=
  ∀ before taken rest new, Swap before taken rest new →
    AtBoundary lib.isWord before (taken ++ rest) ∧ new = mark

theorem tokenSwap_fromBoundary : MarksFromBoundary lib (TokenSwap lib) := by
  rintro before taken rest new ⟨isToken, -, rfl⟩
  exact ⟨isToken.starts, rfl⟩

theorem hexSwap_fromBoundary (laws : CharLaws lib) : MarksFromBoundary lib (HexSwap lib) := by
  intro before taken rest new swap
  obtain ⟨isSegment, rfl⟩ := markSwap_of_hexSwap laws _ _ _ _ swap
  have around := @boundaries_of_word lib before rest taken isSegment.more fun c member =>
    isWord_of_isalnum (laws.hexDigit (swap.1.all c member))
  exact ⟨around.1.mpr swap.1.edge, rfl⟩

/-- Before a character that is no part of a word there is a boundary where a word ends. -/
theorem atBoundary_notWord {c : Char} (word : lib.isWord c = false) :
    AtBoundary lib.isWord before (c :: text) ↔ ¬ Edge lib before := by
  rw [AtBoundary, Edge, List.head?_cons, Option.any_some, word]
  cases before.head?.any lib.isWord <;> decide

/-- Brackets are no token characters. -/
theorem IsToken.notBracket {token rest : List Char} (isToken : IsToken lib before token rest) :
    '[' ∉ token ∧ ']' ∉ token := by
  refine ⟨fun member => ?_, fun member => ?_⟩
  · exact absurd (isToken.chars _ member) (by decide)
  · exact absurd (isToken.chars _ member) (by decide)

/-- Within the mark no token begins. -/
theorem IsToken.not_within {front back token rest : List Char} (split : mark = front ++ back)
    (more : back ≠ []) (isToken : IsToken lib before token rest) : back ++ out ≠ token ++ rest := by
  intro same
  obtain ⟨inside, -, isBack⟩ := mark_split split
  have short : back.length ≤ token.length := by
    have length := congrArg List.length split
    rw [List.length_append, show mark.length = 10 from rfl] at length
    have least := isToken.least
    omega
  have begins : back <+: token :=
    List.prefix_of_prefix_length_le ⟨out, same⟩ ⟨rest, rfl⟩ short
  have bracket : ']' ∈ back := by
    have last : mark.getLast? = back.getLast? := by
      rw [split, List.getLast?_append_of_ne_nil _ more]
    exact List.mem_of_getLast? (last.symm.trans (by decide))
  exact isToken.notBracket.2 (begins.mem bracket)

/-- **A token in what is left was one in the text**: it is copied, and no mark stands behind it. -/
theorem IsToken.copied {Keep : List Char → List Char → Prop}
    {Swap : List Char → List Char → List Char → List Char → Prop}
    (fromBoundary : MarksFromBoundary lib Swap) {c : Char} {rest token rest' : List Char}
    (aligned : Aligned lib before done (c :: rest))
    (later : Rewritten Keep Swap (c :: before) (c :: done) rest out)
    (split : c :: out = token ++ rest') (isToken : IsToken lib done token rest') :
    ∃ t, c :: rest = token ++ t ∧ IsToken lib before token t
      ∧ Rewritten Keep Swap (token.reverse ++ before) (token.reverse ++ done) t rest'
      ∧ ∀ front back, token = c :: front ++ back → back ≠ [] →
        Keep ((c :: front).reverse ++ before) (back ++ t) := by
  cases token with
  | nil => cases isToken.least
  | cons c' token =>
      rw [List.cons_append, List.cons.injEq] at split
      obtain ⟨rfl, rfl⟩ := split
      obtain ⟨t, rfl, further, kept⟩ :=
        later.copied_kept fun front back split more taken rest new out' swap same => by
          obtain ⟨b, back, rfl⟩ := List.exists_cons_of_ne_nil more
          rw [(fromBoundary _ _ _ _ swap).2, mark_eq] at same
          have plain := isToken.notBracket.1
          rw [split, ← (List.cons.inj same).1] at plain
          exact plain (List.mem_cons_of_mem c (List.mem_append_right _ List.mem_cons_self))
      have reversed (token before : List Char) :
          token.reverse ++ c :: before = (c :: token).reverse ++ before := by simp
      rw [reversed, reversed] at further
      refine ⟨t, rfl, ⟨?_, isToken.chars, isToken.least, ?_⟩, further, ?_⟩
      · by_cases word : lib.isWord c = true
        · refine (atBoundary_word word).mpr (aligned.edge ?_ ?_)
          swap
          · exact (atBoundary_word word).mp isToken.starts
          rw [edge_cons, word]
          exact Bool.noConfusion
        · rw [Bool.not_eq_true] at word
          refine (atBoundary_notWord word).mpr fun edge => ?_
          exact (atBoundary_notWord word).mp isToken.starts (aligned.word edge)
      · have last : ((c :: token).reverse ++ done).head?
            = ((c :: token).reverse ++ before).head? := by
          obtain ⟨front, d, isLast⟩ := exists_last (List.cons_ne_nil c token)
          rw [isLast, List.reverse_append]
          rfl
        have ends := isToken.ends
        generalize whole : rest' = all at further ends
        cases further with
        | nil => exact ends.congr last rfl
        | keep kept later => exact ends.congr last rfl
        | swap swapped later => exact (fromBoundary _ _ _ _ swapped).1
      · intro front back split more
        rw [← reversed]
        exact kept front back (List.cons.inj split).2 more

/-- What stands on the line ahead of a mark stands on the line of the text. -/
theorem onLine_of_rewritten {Keep : List Char → List Char → Prop}
    {Swap : List Char → List Char → List Char → List Char → Prop} {p : Char → Bool}
    (rewritten : Rewritten Keep Swap before done text out)
    (line : ∀ before taken rest new, Swap before taken rest new → '\n' ∉ taken ∧ new = mark
      ∧ (mark.any p = true → OnLine p (taken ++ rest)))
    (onLine : OnLine p out) : OnLine p text := by
  induction rewritten with
  | nil => exact onLine
  | @keep before done rest out c kept later ih =>
      obtain ⟨front, d, back, split, noNewline, inClass⟩ := onLine
      cases front with
      | nil =>
          obtain ⟨rfl, -⟩ := List.cons.inj split
          exact ⟨[], c, rest, rfl, List.not_mem_nil, inClass⟩
      | cons e front =>
          obtain ⟨rfl, rfl⟩ := List.cons.inj split
          rw [List.mem_cons, not_or] at noNewline
          obtain ⟨front', d', back', rfl, noNewline', inClass'⟩ :=
            ih ⟨front, d, back, rfl, noNewline.2, inClass⟩
          refine ⟨c :: front', d', back', rfl, ?_, inClass'⟩
          rw [List.mem_cons, not_or]
          exact ⟨noNewline.1, noNewline'⟩
  | @swap before done taken rest new out swapped later ih =>
      obtain ⟨onSame, rfl, inMark⟩ := line _ _ _ _ swapped
      obtain ⟨front, d, back, split, noNewline, inClass⟩ := onLine
      rcases List.append_eq_append_iff.mp split with ⟨more, rfl, rfl⟩ | ⟨more, isMark, after⟩
      · rw [List.mem_append, not_or] at noNewline
        obtain ⟨front', d', back', rfl, noNewline', inClass'⟩ :=
          ih ⟨more, d, back, rfl, noNewline.2, inClass⟩
        refine ⟨taken ++ front', d', back', (List.append_assoc _ _ _).symm, ?_, inClass'⟩
        rw [List.mem_append, not_or]
        exact ⟨onSame, noNewline'⟩
      · cases more with
        | nil =>
            obtain ⟨front', d', back', rfl, noNewline', inClass'⟩ :=
              ih ⟨[], d, back, after.symm, List.not_mem_nil, inClass⟩
            refine ⟨taken ++ front', d', back', (List.append_assoc _ _ _).symm, ?_, inClass'⟩
            rw [List.mem_append, not_or]
            exact ⟨onSame, noNewline'⟩
        | cons e more =>
            obtain ⟨rfl, -⟩ := List.cons.inj after
            refine inMark (List.any_eq_true.mpr ⟨d, ?_, inClass⟩)
            rw [isMark]
            exact List.mem_append_right _ List.mem_cons_self

/-- **The third substitution leaves no token of high entropy.** -/
theorem noEntropy_withoutTokens (laws : CharLaws lib) (text : List Char) :
    Everywhere (fun before text => ¬ EntropyAt lib before text) [] (withoutTokens lib text) := by
  have line (before taken rest new : List Char) (swap : TokenSwap lib before taken rest new) :
      '\n' ∉ taken ∧ new = mark := by
    refine ⟨fun member => ?_, swap.2.2⟩
    exact absurd (swap.1.chars _ member) (by decide)
  refine (rewritten_withoutTokens lib text).everywhere (Aligned lib) Aligned.start ?_ ?_ ?_
  · rintro done ⟨token, rest, split, isToken, -⟩
    obtain ⟨rfl, -⟩ := List.append_eq_nil_iff.mp split.symm
    cases isToken.least
  · intro before done rest out c aligned kept later
    refine ⟨?_, Aligned.cons c⟩
    rintro ⟨token, rest', split, isToken, upper, lower, digit⟩
    obtain ⟨t, isText, isToken', -⟩ := isToken.copied tokenSwap_fromBoundary aligned later split
    have whole : Rewritten (fun before text => ¬ EntropyAt lib before text) (TokenSwap lib) before
        done (c :: rest) (c :: out) := .keep kept later
    refine kept ⟨token, t, isText, isToken', ?_, ?_, ?_⟩
    · exact onLine_of_rewritten whole (fun before taken rest new swap =>
        ⟨(line _ _ _ _ swap).1, swap.2.2, fun _ => swap.2.1.1⟩) upper
    · exact onLine_of_rewritten whole (fun before taken rest new swap =>
        ⟨(line _ _ _ _ swap).1, swap.2.2, fun _ => swap.2.1.2.1⟩) lower
    · exact onLine_of_rewritten whole (fun before taken rest new swap =>
        ⟨(line _ _ _ _ swap).1, swap.2.2, fun _ => swap.2.1.2.2⟩) digit
  · rintro before done taken rest new out aligned swapped later
    have isSegment := (markSwap_of_tokenSwap laws _ _ _ _ swapped).1
    obtain ⟨-, -, rfl⟩ := swapped
    refine ⟨?_, isSegment.aligned laws⟩
    rintro front back split more ⟨token, rest', isText, isToken, -⟩
    exact isToken.not_within split more isText

end Tokens

/-! ## Exposed tokens -/

section Exposed

variable {lib : AuditLibrary} {before done text out : List Char}

/-- The character ahead is part of a hexadecimal secret. -/
def InHex (lib : AuditLibrary) (before text : List Char) : Prop :=
  ∃ front digits digits' rest, before = digits.reverse ++ front ∧ text = digits' ++ rest
    ∧ digits' ≠ [] ∧ IsHex lib front (digits ++ digits') rest

/-- A hexadecimal secret begins further on the line. -/
def HexOnLine (lib : AuditLibrary) (before text : List Char) : Prop :=
  ∃ front rest, text = front ++ rest ∧ '\n' ∉ front ∧ HexAt lib (front.reverse ++ before) rest

/-- A character of a class occurs on the line outside hexadecimal secrets. -/
def LeftOnLine (lib : AuditLibrary) (p : Char → Bool) (before text : List Char) : Prop :=
  ∃ front c rest, text = front ++ c :: rest ∧ '\n' ∉ front ∧ p c = true
    ∧ ¬ InHex lib (front.reverse ++ before) (c :: rest)

/-- **An exposed token**: no hexadecimal secret touches it, but one stands on its line, and there
are a small letter and a digit outside of these secrets. -/
structure IsExposed (lib : AuditLibrary) (before token rest : List Char) : Prop where
  isToken : IsToken lib before token rest
  untouched : ∀ front back, token = front ++ back →
    ¬ InHex lib (front.reverse ++ before) (back ++ rest)
  untouched' : ∀ c front, before = c :: front → ¬ InHex lib front (c :: (token ++ rest))
  hex : HexOnLine lib before (token ++ rest)
  lower : LeftOnLine lib Char.isLower before (token ++ rest)
  digit : LeftOnLine lib Char.isDigit before (token ++ rest)

/-- A text with an exposed token. -/
def HasExposed (lib : AuditLibrary) (text : List Char) : Prop :=
  ∃ front token rest, text = front ++ (token ++ rest) ∧ IsExposed lib front.reverse token rest

/-- Where a hexadecimal secret is ahead, it begins here. -/
def HexStarts (lib : AuditLibrary) (before text : List Char) : Prop :=
  InHex lib before text → HexAt lib before text

theorem inHex_of_hexAt (hex : HexAt lib before text) : InHex lib before text := by
  obtain ⟨digits, rest, rfl, isHex⟩ := hex
  refine ⟨before, [], digits, rest, rfl, rfl, ?_, isHex⟩
  rintro rfl
  cases isHex.least

/-- A character that is kept is part of no hexadecimal secret. -/
theorem HexStarts.keep {c : Char} {rest : List Char} (starts : HexStarts lib before (c :: rest))
    (kept : ¬ HexAt lib before (c :: rest)) :
    ¬ InHex lib before (c :: rest) ∧ HexStarts lib (c :: before) rest := by
  have outside : ¬ InHex lib before (c :: rest) := fun inside => kept (starts inside)
  refine ⟨outside, ?_⟩
  rintro ⟨front, digits, digits', rest', isBefore, rfl, more, isHex⟩
  by_cases none : digits = []
  · subst none
    obtain rfl : c :: before = front := isBefore
    exact ⟨digits', rest', rfl, isHex⟩
  · obtain ⟨digits, d, rfl⟩ := exists_last none
    rw [List.reverse_append, List.append_assoc] at isBefore
    obtain ⟨rfl, rfl⟩ := List.cons.inj isBefore
    refine absurd ⟨front, digits, c :: digits', rest', rfl, rfl, List.cons_ne_nil _ _, ?_⟩ outside
    rwa [List.append_assoc] at isHex

/-- Behind a hexadecimal secret none goes on. -/
theorem IsHex.starts (laws : CharLaws lib) {digits rest : List Char}
    (hex : IsHex lib before digits rest) (front : List Char) : HexStarts lib front rest := by
  rintro ⟨front', digits₁, digits₂, rest', -, rfl, more, isHex⟩
  obtain ⟨d, digits₂, rfl⟩ := List.exists_cons_of_ne_nil more
  exact absurd hex.edge' (not_edge_cons (laws.hexDigit (isHex.all d (by simp))))

theorem hexStarts_nil (text : List Char) : HexStarts lib [] text := by
  rintro ⟨front, digits, digits', rest, isBefore, rfl, more, isHex⟩
  obtain ⟨none, rfl⟩ := List.append_eq_nil_iff.mp isBefore.symm
  rw [List.reverse_eq_nil_iff] at none
  rw [none] at isHex
  exact ⟨digits', rest, rfl, isHex⟩

/-- The line of a position is that of the next one, behind a character or a secret. -/
theorem HexOnLine.behind (taken : List Char) {rest : List Char} (noNewline : '\n' ∉ taken)
    (hex : HexOnLine lib (taken.reverse ++ before) rest) :
    HexOnLine lib before (taken ++ rest) := by
  obtain ⟨front, back, rfl, line, hexAt⟩ := hex
  refine ⟨taken ++ front, back, (List.append_assoc _ _ _).symm, ?_, ?_⟩
  · rw [List.mem_append, not_or]
    exact ⟨noNewline, line⟩
  · rwa [List.reverse_append, List.append_assoc]

theorem LeftOnLine.behind {p : Char → Bool} (taken : List Char) {rest : List Char}
    (noNewline : '\n' ∉ taken) (left : LeftOnLine lib p (taken.reverse ++ before) rest) :
    LeftOnLine lib p before (taken ++ rest) := by
  obtain ⟨front, c, back, rfl, line, inClass, outside⟩ := left
  refine ⟨taken ++ front, c, back, (List.append_assoc _ _ _).symm, ?_, inClass, ?_⟩
  · rw [List.mem_append, not_or]
    exact ⟨noNewline, line⟩
  · rwa [List.reverse_append, List.append_assoc]

/-- A hexadecimal secret has no newline. -/
theorem IsHex.noNewline {digits rest : List Char} (hex : IsHex lib before digits rest) :
    '\n' ∉ digits := fun member => absurd (hex.all _ member) (by decide)

/-- **What stands on the line of what is left** stood there outside of hexadecimal secrets, or is
part of the mark of one. -/
theorem left_of_onLine (laws : CharLaws lib) {p : Char → Bool}
    (rewritten : Rewritten (fun before text => ¬ HexAt lib before text) (HexSwap lib) before done
      text out)
    (starts : HexStarts lib before text) (onLine : OnLine p out) :
    LeftOnLine lib p before text ∨ mark.any p = true ∧ HexOnLine lib before text := by
  induction rewritten with
  | nil =>
      obtain ⟨front, d, back, split, -⟩ := onLine
      cases front <;> cases split
  | @keep before done rest out c kept later ih =>
      obtain ⟨outside, next⟩ := starts.keep kept
      obtain ⟨front, d, back, split, noNewline, inClass⟩ := onLine
      cases front with
      | nil =>
          obtain ⟨rfl, -⟩ := List.cons.inj split
          exact .inl ⟨[], c, rest, rfl, List.not_mem_nil, inClass, outside⟩
      | cons e front =>
          obtain ⟨rfl, rfl⟩ := List.cons.inj split
          rw [List.mem_cons, not_or] at noNewline
          have single : '\n' ∉ [c] := by
            rw [List.mem_singleton]
            exact noNewline.1
          rcases ih next ⟨front, d, back, rfl, noNewline.2, inClass⟩ with left | ⟨inMark, hex⟩
          · exact .inl (LeftOnLine.behind [c] single left)
          · exact .inr ⟨inMark, HexOnLine.behind [c] single hex⟩
  | @swap before done taken rest new out swapped later ih =>
      obtain ⟨isHex, rfl⟩ := swapped
      obtain ⟨front, d, back, split, noNewline, inClass⟩ := onLine
      have further (onLine : OnLine p out) : LeftOnLine lib p before (taken ++ rest)
          ∨ mark.any p = true ∧ HexOnLine lib before (taken ++ rest) := by
        rcases ih (isHex.starts laws _) onLine with left | ⟨inMark, hex⟩
        · exact .inl (left.behind _ isHex.noNewline)
        · exact .inr ⟨inMark, hex.behind _ isHex.noNewline⟩
      rcases List.append_eq_append_iff.mp split with ⟨more, rfl, rfl⟩ | ⟨more, isMark, after⟩
      · rw [List.mem_append, not_or] at noNewline
        exact further ⟨more, d, back, rfl, noNewline.2, inClass⟩
      · cases more with
        | nil => exact further ⟨[], d, back, after.symm, List.not_mem_nil, inClass⟩
        | cons e more =>
            obtain ⟨rfl, -⟩ := List.cons.inj after
            refine .inr ⟨List.any_eq_true.mpr ⟨d, ?_, inClass⟩,
              [], taken ++ rest, rfl, List.not_mem_nil, taken, rest, rfl, isHex⟩
            rw [isMark]
            exact List.mem_append_right _ List.mem_cons_self

/-- A character outside hexadecimal secrets is kept. -/
theorem kept_of_outside (front : List Char) {back : List Char} {c : Char}
    (rewritten : Rewritten (fun before text => ¬ HexAt lib before text) (HexSwap lib) before done
      (front ++ c :: back) out)
    (outside : ¬ InHex lib (front.reverse ++ before) (c :: back)) :
    ∃ out₁ out₂, out = out₁ ++ c :: out₂ ∧ ('\n' ∉ front → '\n' ∉ out₁)
      ∧ Rewritten (fun before text => ¬ HexAt lib before text) (HexSwap lib)
        (c :: (front.reverse ++ before)) (c :: (out₁.reverse ++ done)) back out₂ := by
  generalize whole : front ++ c :: back = all at rewritten
  induction rewritten generalizing front with
  | nil => cases front <;> cases whole
  | @keep before done rest out d kept later ih =>
      cases front with
      | nil =>
          obtain ⟨rfl, rfl⟩ := List.cons.inj whole
          exact ⟨[], out, rfl, id, later⟩
      | cons e front =>
          obtain ⟨rfl, rfl⟩ := List.cons.inj whole
          rw [List.reverse_cons, List.append_assoc] at outside ⊢
          obtain ⟨out₁, out₂, rfl, line, further⟩ := ih front outside rfl
          refine ⟨e :: out₁, out₂, rfl, fun noNewline => ?_, ?_⟩
          · rw [List.mem_cons, not_or] at noNewline ⊢
            exact ⟨noNewline.1, line noNewline.2⟩
          · rw [List.reverse_cons, List.append_assoc]
            exact further
  | @swap before done taken rest new out swapped later ih =>
      have further (more : List Char) (isFront : front = taken ++ more)
          (isRest : rest = more ++ c :: back) : ∃ out₁ out₂, new ++ out = out₁ ++ c :: out₂
            ∧ ('\n' ∉ front → '\n' ∉ out₁)
            ∧ Rewritten (fun before text => ¬ HexAt lib before text) (HexSwap lib)
              (c :: (front.reverse ++ before)) (c :: (out₁.reverse ++ done)) back out₂ := by
        rw [isFront, List.reverse_append, List.append_assoc] at outside ⊢
        obtain ⟨out₁, out₂, rfl, line, further⟩ := ih more outside isRest.symm
        refine ⟨new ++ out₁, out₂, (List.append_assoc _ _ _).symm, fun noNewline => ?_, ?_⟩
        · rw [List.mem_append, not_or] at noNewline ⊢
          rw [swapped.2]
          exact ⟨by decide, line noNewline.2⟩
        · rw [List.reverse_append, List.append_assoc]
          exact further
      rcases List.append_eq_append_iff.mp whole with
        ⟨more, isTaken, after⟩ | ⟨more, isFront, isRest⟩
      · cases more with
        | nil =>
            rw [List.append_nil] at isTaken
            exact further [] (by rw [isTaken, List.append_nil]) after.symm
        | cons e more =>
            obtain ⟨rfl, rfl⟩ := List.cons.inj after
            refine absurd ⟨before, front, c :: more, rest, rfl, rfl, List.cons_ne_nil _ _, ?_⟩
              outside
            rw [← isTaken]
            exact swapped.1
      · exact further more isFront isRest

/-- A text outside hexadecimal secrets is kept. -/
theorem copied_of_outside {copy rest : List Char}
    (rewritten : Rewritten (fun before text => ¬ HexAt lib before text) (HexSwap lib) before done
      (copy ++ rest) out)
    (outside : ∀ front back, copy = front ++ back →
      ¬ InHex lib (front.reverse ++ before) (back ++ rest)) :
    ∃ out', out = copy ++ out'
      ∧ Rewritten (fun before text => ¬ HexAt lib before text) (HexSwap lib)
        (copy.reverse ++ before) (copy.reverse ++ done) rest out' := by
  induction copy generalizing before done out with
  | nil => exact ⟨out, rfl, rewritten⟩
  | cons c copy ih =>
      generalize whole : c :: copy ++ rest = all at rewritten
      cases rewritten with
      | nil => cases whole
      | keep kept later =>
          obtain ⟨rfl, rfl⟩ := List.cons.inj whole
          obtain ⟨out', rfl, further⟩ := ih later fun front back split => by
            have here := outside (c :: front) back (by rw [split, List.cons_append])
            rwa [List.reverse_cons, List.append_assoc] at here
          refine ⟨out', rfl, ?_⟩
          rw [List.reverse_cons, List.append_assoc, List.append_assoc]
          exact further
      | swap swapped later =>
          have here := outside [] (c :: copy) rfl
          rw [whole] at here
          exact absurd (inHex_of_hexAt ⟨_, _, rfl, swapped.1⟩) here

/-- What is left on a line is on the line of what is left. -/
theorem onLine_of_left {p : Char → Bool}
    (rewritten : Rewritten (fun before text => ¬ HexAt lib before text) (HexSwap lib) before done
      text out)
    (left : LeftOnLine lib p before text) : OnLine p out := by
  obtain ⟨front, c, back, rfl, noNewline, inClass, outside⟩ := left
  obtain ⟨out₁, out₂, rfl, line, -⟩ := kept_of_outside front rewritten outside
  exact ⟨out₁, c, out₂, rfl, line noNewline, inClass⟩

/-- **The mark of a hexadecimal secret supplies a capital.** -/
theorem upper_of_hexOnLine
    (rewritten : Rewritten (fun before text => ¬ HexAt lib before text) (HexSwap lib) before done
      text out)
    (hex : HexOnLine lib before text) : OnLine Char.isUpper out := by
  induction rewritten with
  | nil =>
      obtain ⟨front, rest, split, -, digits, rest', rfl, isHex⟩ := hex
      obtain ⟨rfl, none⟩ := List.append_eq_nil_iff.mp split.symm
      obtain ⟨rfl, rfl⟩ := List.append_eq_nil_iff.mp none
      cases isHex.least
  | @keep before done rest out c kept later ih =>
      obtain ⟨front, back, split, noNewline, hexAt⟩ := hex
      cases front with
      | nil =>
          rw [List.nil_append] at split
          rw [← split] at hexAt
          exact absurd hexAt kept
      | cons d front =>
          obtain ⟨rfl, rfl⟩ := List.cons.inj split
          rw [List.mem_cons, not_or] at noNewline
          rw [List.reverse_cons, List.append_assoc] at hexAt
          obtain ⟨front', e, back', rfl, line, upper⟩ := ih ⟨front, back, rfl, noNewline.2, hexAt⟩
          refine ⟨c :: front', e, back', rfl, ?_, upper⟩
          rw [List.mem_cons, not_or]
          exact ⟨noNewline.1, line⟩
  | swap swapped later =>
      rw [swapped.2]
      exact ⟨['['], 'R', _, rfl, by decide, by decide⟩

/-- Characters that are kept are part of no hexadecimal secret. -/
theorem HexStarts.copied {copy rest : List Char} (starts : HexStarts lib before (copy ++ rest))
    (kept : ∀ front back, copy = front ++ back → back ≠ [] →
      ¬ HexAt lib (front.reverse ++ before) (back ++ rest)) :
    (∀ front back, copy = front ++ back → back ≠ [] →
        ¬ InHex lib (front.reverse ++ before) (back ++ rest))
      ∧ HexStarts lib (copy.reverse ++ before) rest := by
  induction copy generalizing before with
  | nil =>
      refine ⟨fun front back split more => ?_, starts⟩
      exact absurd (List.append_eq_nil_iff.mp split.symm).2 more
  | cons c copy ih =>
      obtain ⟨outside, next⟩ := starts.keep (kept [] (c :: copy) rfl (List.cons_ne_nil _ _))
      have further := ih next fun front back split more => by
        have here := kept (c :: front) back (by rw [split, List.cons_append]) more
        rwa [List.reverse_cons, List.append_assoc] at here
      rw [List.reverse_cons, List.append_assoc]
      refine ⟨fun front back split more => ?_, further.2⟩
      cases front with
      | nil =>
          rw [List.nil_append] at split
          rw [← split]
          exact outside
      | cons d front =>
          obtain ⟨rfl, isCopy⟩ := List.cons.inj split
          rw [List.reverse_cons, List.append_assoc]
          exact further.1 front back isCopy more

theorem LeftOnLine.onLine {p : Char → Bool} (left : LeftOnLine lib p before text) :
    OnLine p text := by
  obtain ⟨front, c, rest, split, line, inClass, -⟩ := left
  exact ⟨front, c, rest, split, line, inClass⟩

/-- No hexadecimal secret stands right behind a token that is left. -/
theorem IsToken.behind (laws : CharLaws lib) {token t rest : List Char}
    (isToken : IsToken lib done token rest)
    (starts : HexStarts lib (token.reverse ++ before) t)
    (further : Rewritten (fun before text => ¬ HexAt lib before text) (HexSwap lib)
      (token.reverse ++ before) (token.reverse ++ done) t rest) :
    ¬ InHex lib (token.reverse ++ before) t := by
  intro inside
  have hexAt := starts inside
  have ends := isToken.ends
  cases further with
  | nil =>
      obtain ⟨digits, rest', split, isHex⟩ := hexAt
      obtain ⟨rfl, -⟩ := List.append_eq_nil_iff.mp split.symm
      cases isHex.least
  | keep kept later => exact kept hexAt
  | swap swapped later =>
      -- before the mark the token ends with a part of a word, before the secret it does not
      have bracket : lib.isWord '[' = false := by
        rw [laws.isWord_ascii (by decide)]
        decide
      rw [swapped.2] at ends
      have word := (atBoundary_notWord bracket).mp ends
      have some : token ≠ [] := by
        rintro rfl
        cases isToken.least
      obtain ⟨front, d, isLast⟩ := exists_last some
      have edge := swapped.1.edge
      rw [isLast, List.reverse_append] at edge word
      exact word edge

/-- What holds wherever the substitution has got to, `before` read and `done` written: the two look
alike to the patterns, no secret is cut, and where a word ends in what is written no secret reaches
from the last character read into the rest. -/
structure Tracked (lib : AuditLibrary) (text before done rest : List Char) : Prop where
  aligned : Aligned lib before done rest
  starts : HexStarts lib before rest
  untouched : ∀ c front, before = c :: front → ¬ Edge lib done → ¬ InHex lib front (c :: rest)
  isText : text = before.reverse ++ rest

namespace Tracked

variable {rest : List Char} {c : Char}

/-- A character that is kept is read and written. -/
theorem keep (tracked : Tracked lib text before done (c :: rest))
    (kept : ¬ HexAt lib before (c :: rest)) : Tracked lib text (c :: before) (c :: done) rest := by
  obtain ⟨outside, next⟩ := tracked.starts.keep kept
  refine ⟨Aligned.cons c, next, fun d front same _ => ?_, ?_⟩
  · obtain ⟨rfl, rfl⟩ := List.cons.inj same
    exact outside
  · rw [List.reverse_cons, List.append_assoc]
    exact tracked.isText

/-- A secret is read and the mark written. -/
theorem swap (laws : CharLaws lib) {taken new : List Char}
    (tracked : Tracked lib text before done (taken ++ rest))
    (swapped : HexSwap lib before taken rest new) :
    Tracked lib text (taken.reverse ++ before) (new.reverse ++ done) rest := by
  have isSegment := (markSwap_of_hexSwap laws _ _ _ _ swapped).1
  obtain ⟨isHex, rfl⟩ := swapped
  refine ⟨isSegment.aligned laws, isHex.starts laws _, fun d front _ word => ?_, ?_⟩
  · exact absurd (edge_behind_mark laws [] rfl) word
  · rw [List.reverse_append, List.reverse_reverse, List.append_assoc]
    exact tracked.isText

/-- Before a token of what is written no secret reaches from the last character read into it. -/
theorem outside_before {token rest' : List Char}
    (tracked : Tracked lib text before done (c :: rest)) (kept : ¬ HexAt lib before (c :: rest))
    (split : c :: out = token ++ rest') (isToken : IsToken lib done token rest') {d : Char}
    {front : List Char} (same : before = d :: front) : ¬ InHex lib front (d :: c :: rest) := by
  by_cases edge : Edge lib done
  · have word : lib.isWord c = true := by
      by_contra notWord
      rw [Bool.not_eq_true] at notWord
      have starts := isToken.starts
      rw [← split] at starts
      exact (atBoundary_notWord notWord).mp starts edge
    -- a secret that holds the character before would end there or go on with the token
    rintro ⟨front', digits, digits', rest₂, isFront, isText', more, isHex⟩
    obtain ⟨e, digits', rfl⟩ := List.exists_cons_of_ne_nil more
    obtain ⟨rfl, isTail⟩ := List.cons.inj isText'
    cases digits' with
    | nil =>
        have edge' := isHex.edge'
        rw [← show c :: rest = rest₂ from isTail, edge_cons, word] at edge'
        cases edge'
    | cons e digits' =>
        refine (tracked.starts.keep kept).1 ⟨front', digits ++ [d], e :: digits', rest₂, ?_, isTail,
          List.cons_ne_nil _ _, ?_⟩
        · rw [same, isFront, List.reverse_append]
          rfl
        · rwa [List.append_assoc]
  · exact tracked.untouched d front same edge

/-- **A token of high entropy that begins with a kept character was exposed**, where the text had
none. -/
theorem exposed (laws : CharLaws lib)
    (none : Everywhere (fun before text => ¬ EntropyAt lib before text) [] text)
    (tracked : Tracked lib text before done (c :: rest)) (kept : ¬ HexAt lib before (c :: rest))
    (later : Rewritten (fun before text => ¬ HexAt lib before text) (HexSwap lib) (c :: before)
      (c :: done) rest out)
    (entropy : EntropyAt lib done (c :: out)) : HasExposed lib text := by
  obtain ⟨token, rest', split, isToken, upper, lower, digit⟩ := entropy
  have whole : Rewritten (fun before text => ¬ HexAt lib before text) (HexSwap lib) before done
    (c :: rest) (c :: out) := .keep kept later
  obtain ⟨t, isRest, isToken', further, keeps⟩ :=
    isToken.copied (hexSwap_fromBoundary laws) tracked.aligned later split
  -- a character class that the mark has no part in has its character in the text
  have left {p : Char → Bool} (unmarked : mark.any p = false) (onLine : OnLine p (c :: out)) :
      LeftOnLine lib p before (token ++ t) := by
    rw [← isRest]
    rcases left_of_onLine laws whole tracked.starts onLine with left | ⟨inMark, -⟩
    · exact left
    · rw [unmarked] at inMark
      cases inMark
  have isLower := left (by decide) lower
  have isDigit := left (by decide) digit
  have keptAll (front back : List Char) (split : token = front ++ back) (more : back ≠ []) :
      ¬ HexAt lib (front.reverse ++ before) (back ++ t) := by
    cases front with
    | nil =>
        rw [List.nil_append] at split
        rw [← split, List.reverse_nil, List.nil_append, ← isRest]
        exact kept
    | cons d front =>
        rw [split] at isRest
        obtain rfl : c = d := (List.cons.inj isRest).1
        exact keeps front back split more
  have starts := tracked.starts
  rw [isRest] at starts
  obtain ⟨untouched, starts'⟩ := starts.copied keptAll
  refine ⟨before.reverse, token, t, by rw [tracked.isText, isRest], ?_⟩
  rw [List.reverse_reverse]
  refine ⟨isToken', fun front back split => ?_, fun d front same => ?_, ?_, isLower, isDigit⟩
  · by_cases more : back = []
    · subst more
      rw [List.append_nil] at split
      rw [← split]
      exact isToken.behind laws starts' further
    · exact untouched front back split more
  · rw [← isRest]
    exact tracked.outside_before kept split isToken same
  · rcases left_of_onLine laws whole (by rw [isRest]; exact starts) upper
          with isUpper | ⟨-, hex⟩
    · -- all three characters are in the text, which has no token of high entropy
      have here := none before.reverse (c :: rest) tracked.isText
      rw [List.reverse_reverse, List.append_nil] at here
      rw [isRest] at here isUpper
      exact absurd ⟨token, t, rfl, isToken', isUpper.onLine, isLower.onLine,
            isDigit.onLine⟩ here
    · rwa [isRest] at hex

end Tracked

/-- **A token that the mark brings about was exposed.** -/
theorem hasExposed_of_entropy (laws : CharLaws lib)
    (none : Everywhere (fun before text => ¬ EntropyAt lib before text) [] text) :
    Everywhere (fun before out => EntropyAt lib before out → HasExposed lib text) []
      (withoutHex lib text) := by
  refine (rewritten_withoutHex laws text).everywhere (Tracked lib text) ⟨Aligned.start,
    hexStarts_nil text, fun c front absent => (List.cons_ne_nil _ _ absent.symm).elim, rfl⟩ ?_ ?_ ?_
  · rintro done ⟨token, rest, split, isToken, -⟩
    obtain ⟨rfl, -⟩ := List.append_eq_nil_iff.mp split.symm
    cases isToken.least
  · intro before done rest out c tracked kept later
    exact ⟨tracked.exposed laws none kept later, tracked.keep kept⟩
  · intro before done taken rest new out tracked swapped later
    refine ⟨?_, tracked.swap laws swapped⟩
    rintro front back split more ⟨token, rest', isText, isToken, -⟩
    rw [swapped.2] at split
    exact absurd isText (isToken.not_within split more)

/-- **An exposed token becomes one of high entropy**, where the same character stands before it. -/
theorem IsExposed.entropy {token rest : List Char} (exposed : IsExposed lib before token rest)
    (rewritten : Rewritten (fun before text => ¬ HexAt lib before text) (HexSwap lib) before done
      (token ++ rest) out) (same : before.head? = done.head?) : EntropyAt lib done out := by
  obtain ⟨out', rfl, further⟩ := copied_of_outside rewritten exposed.untouched
  have isToken := exposed.isToken
  refine ⟨token, out', rfl, ⟨?_, isToken.chars, isToken.least, ?_⟩,
    upper_of_hexOnLine rewritten exposed.hex, onLine_of_left rewritten exposed.lower,
    onLine_of_left rewritten exposed.digit⟩
  · cases token with
    | nil => cases isToken.least
    | cons c token => exact isToken.starts.congr same rfl
  · have last : (token.reverse ++ before).head? = (token.reverse ++ done).head? := by
      rw [List.head?_append, List.head?_append, same]
    have ends := isToken.ends
    have behind := exposed.untouched token [] (List.append_nil token).symm
    rw [List.nil_append] at behind
    cases further with
    | nil => exact ends.congr last rfl
    | keep kept later => exact ends.congr last rfl
    | swap swapped later => exact absurd (inHex_of_hexAt ⟨_, _, rfl, swapped.1⟩) behind

/-- **Where a token is exposed, the marks of the fourth substitution bring one of high entropy
about.** -/
theorem entropy_of_hasExposed (laws : CharLaws lib) (exposed : HasExposed lib text) :
    ¬ Everywhere (fun before text => ¬ EntropyAt lib before text) [] (withoutHex lib text) := by
  intro none
  obtain ⟨front, token, rest, rfl, exposed⟩ := exposed
  have rewritten := rewritten_withoutHex laws (front ++ (token ++ rest))
  by_cases first : front = []
  · subst first
    exact none.here (exposed.entropy rewritten rfl)
  · obtain ⟨front, e, rfl⟩ := exists_last first
    have untouched := exposed.untouched' e front.reverse (by rw [List.reverse_append]; rfl)
    rw [List.append_assoc] at rewritten none
    obtain ⟨out₁, out₂, isOut, -, further⟩ := kept_of_outside front (c := e) rewritten
      (by rwa [List.append_nil])
    refine none (out₁ ++ [e]) out₂ (by rw [List.append_assoc]; exact isOut) ?_
    rw [List.append_nil, List.append_nil] at further
    rw [List.reverse_append] at exposed
    rw [List.reverse_append, List.append_nil]
    exact exposed.entropy further rfl

end Exposed

/-! ## Stripping twice -/

section Twice

variable {lib : AuditLibrary}

/-- **An exposed text**: once assignments, codes and tokens are replaced, a token is exposed. -/
def Exposed (lib : AuditLibrary) (text : String) : Prop :=
  HasExposed lib (withoutTokens lib (withoutCodes lib (withoutAssignments lib text.toList)))

theorem toList_stripSecretText (text : String) :
    (stripSecretText lib text).toList = strippedText lib text.toList := by
  rw [stripSecretText_eq, String.toList_ofList, strippedText]

/-- **Stripping twice is stripping once exactly where the text is not exposed.** -/
theorem stripSecretText_twice_iff (laws : CharLaws lib) (text : String) :
    stripSecretText lib (stripSecretText lib text) = stripSecretText lib text
      ↔ ¬ Exposed lib text := by
  rw [← String.toList_inj, toList_stripSecretText, toList_stripSecretText,
    (strippedText_stripped laws text.toList).again_eq_self_iff laws]
  constructor
  · exact fun none exposed => entropy_of_hasExposed laws exposed none
  · intro unexposed front rest split entropy
    exact unexposed (hasExposed_of_entropy laws (noEntropy_withoutTokens laws _) front rest split
      entropy)

end Twice

end AgenticKVM
