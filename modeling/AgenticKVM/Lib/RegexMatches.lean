import AgenticKVM.Lib.Regex

/-! # Matches of regular expressions

What the matcher of `Lib.Regex` finds. `Matches` says declaratively from which position to which an
expression can go. The matcher finds an end exactly where there is one (`matchAt_isSome_iff`), and
what it finds is a match (`attempt_sound`). Substitution is described step by step (`Substituted`):
a character without a match is kept, and a match is replaced. -/

namespace AgenticKVM.Lib.Regex

variable {isWord : Char → Bool}

/-- **A match**: the expression can go from the first position to the last. -/
def Matches (isWord : Char → Bool) : Regex → Cursor → Cursor → Prop
  | empty, start, last => last = start
  | char p, start, last => start.after.head?.any p = true ∧ last = start.skip 1
  | many p least most, start, last =>
      ∃ n, least ≤ n ∧ n ≤ (start.after.takeWhile p).length ∧ (∀ bound ∈ most, n ≤ bound)
        ∧ last = start.skip n
  | boundary, start, last => start.atBoundary isWord = true ∧ last = start
  | seq first second, start, last =>
      ∃ mid, Matches isWord first start mid ∧ Matches isWord second mid last
  | alt first second, start, last =>
      Matches isWord first start last ∨ Matches isWord second start last
  | lookahead r, start, last => (∃ other, Matches isWord r start other) ∧ last = start
  | group r, start, last =>
      ∃ mid, Matches isWord r start mid ∧ last = { mid with
        captured := (mid.before.take (mid.before.length - start.before.length)).reverse }

/-! ## Soundness and completeness -/

/-- **What is found is a match**, after which the matcher went on. -/
theorem attempt_sound (r : Regex) {start last : Cursor} {next : Cursor → Option Cursor}
    (found : attempt isWord r start next = some last) :
    ∃ mid, Matches isWord r start mid ∧ next mid = some last := by
  induction r generalizing start last next with
  | empty => exact ⟨start, rfl, found⟩
  | char p =>
      rw [attempt] at found
      split_ifs at found with first
      exact ⟨start.skip 1, ⟨first, rfl⟩, found⟩
  | many p least most =>
      simp only [attempt] at found
      obtain ⟨n, enough, within, goesOn⟩ := backOff_eq_some found
      refine ⟨start.skip n, ⟨n, enough, ?_, ?_, rfl⟩, goesOn⟩
      · cases most with
        | none => exact within
        | some most => exact Nat.le_trans within (Nat.min_le_left _ _)
      · rintro bound bounded
        cases bounded
        exact Nat.le_trans within (Nat.min_le_right _ _)
  | boundary =>
      rw [attempt] at found
      split_ifs at found with here
      exact ⟨start, ⟨here, rfl⟩, found⟩
  | seq first second firstIh secondIh =>
      rw [attempt] at found
      obtain ⟨mid, matched, goesOn⟩ := firstIh found
      obtain ⟨end_, matched', goesOn'⟩ := secondIh goesOn
      exact ⟨end_, ⟨mid, matched, matched'⟩, goesOn'⟩
  | alt first second firstIh secondIh =>
      rw [attempt] at found
      cases here : attempt isWord first start next with
      | some other =>
          rw [here] at found
          cases found
          obtain ⟨mid, matched, goesOn⟩ := firstIh here
          exact ⟨mid, .inl matched, goesOn⟩
      | none =>
          rw [here] at found
          obtain ⟨mid, matched, goesOn⟩ := secondIh found
          exact ⟨mid, .inr matched, goesOn⟩
  | lookahead r ih =>
      rw [attempt] at found
      split_ifs at found with could
      obtain ⟨other, could⟩ := Option.isSome_iff_exists.mp could
      obtain ⟨mid, matched, -⟩ := ih could
      exact ⟨start, ⟨⟨mid, matched⟩, rfl⟩, found⟩
  | group r ih =>
      rw [attempt] at found
      obtain ⟨mid, matched, goesOn⟩ := ih found
      exact ⟨_, ⟨mid, matched, rfl⟩, goesOn⟩

/-- The first part of a sequence matches, and the matcher goes on with the second. -/
theorem attempt_seq {first second : Regex} {start last : Cursor} {next : Cursor → Option Cursor}
    (found : attempt isWord (seq first second) start next = some last) :
    ∃ mid, Matches isWord first start mid ∧ attempt isWord second mid next = some last := by
  rw [attempt] at found
  exact attempt_sound first found

/-- **Repetitions are greedy**: where nothing follows, all characters of the class are taken. -/
theorem attempt_many_greedy {p : Char → Bool} {least : Nat} {start last : Cursor}
    (found : attempt isWord (many p least none) start some = some last) :
    last.after.head?.any p = false := by
  simp only [attempt] at found
  have longest : last = start.skip (start.after.takeWhile p).length := by
    generalize (start.after.takeWhile p).length = n at found
    cases n with
    | zero =>
        rw [backOff] at found
        split_ifs at found
        cases found
        rfl
    | succ n =>
        rw [backOff] at found
        split_ifs at found
        cases found
        rfl
  have rest : last.after = start.after.dropWhile p := by
    have split := List.takeWhile_append_dropWhile (p := p) (l := start.after)
    calc last.after = start.after.drop (start.after.takeWhile p).length := by rw [longest]; rfl
      _ = (start.after.takeWhile p ++ start.after.dropWhile p).drop
          (start.after.takeWhile p).length := by rw [split]
      _ = start.after.dropWhile p := List.drop_left
  rw [rest]
  have other := List.head?_dropWhile_not p start.after
  cases first : (start.after.dropWhile p).head? with
  | none => rfl
  | some c =>
      rw [first] at other
      simpa using other

/-- A repetition finds an end where some number of characters within its bounds leads to one. -/
theorem backOff_isSome {cursor : Cursor} {least n most : Nat} {next : Cursor → Option Cursor}
    (enough : least ≤ n) (within : n ≤ most) (goesOn : (next (cursor.skip n)).isSome = true) :
    (backOff cursor least next most).isSome = true := by
  induction most with
  | zero =>
      obtain rfl : n = 0 := Nat.le_zero.mp within
      rw [backOff, if_pos (Nat.le_zero.mp enough)]
      exact goesOn
  | succ most ih =>
      rw [backOff, if_neg (by omega)]
      rcases Nat.lt_or_eq_of_le within with less | rfl
      · cases here : next (cursor.skip (most + 1)) with
        | some last => rfl
        | none => exact ih (Nat.le_of_lt_succ less)
      · obtain ⟨last, here⟩ := Option.isSome_iff_exists.mp goesOn
        rw [here]
        rfl

/-- **What matches is found**: where the expression can go to a position from which the matcher goes
on, there is an end, if perhaps another. -/
theorem attempt_isSome (r : Regex) {start mid : Cursor} {next : Cursor → Option Cursor}
    (matched : Matches isWord r start mid) (goesOn : (next mid).isSome = true) :
    (attempt isWord r start next).isSome = true := by
  induction r generalizing start mid next with
  | empty =>
      cases matched
      exact goesOn
  | char p =>
      obtain ⟨first, rfl⟩ := matched
      rw [attempt, if_pos first]
      exact goesOn
  | many p least most =>
      obtain ⟨n, enough, within, bounded, rfl⟩ := matched
      simp only [attempt]
      refine backOff_isSome enough ?_ goesOn
      cases most with
      | none => exact within
      | some most => exact Nat.le_min.mpr ⟨within, bounded most rfl⟩
  | boundary =>
      obtain ⟨here, rfl⟩ := matched
      rw [attempt, if_pos here]
      exact goesOn
  | seq first second firstIh secondIh =>
      obtain ⟨mid', matched, matched'⟩ := matched
      exact firstIh matched (secondIh matched' goesOn)
  | alt first second firstIh secondIh =>
      rw [attempt]
      rcases matched with matched | matched
      · obtain ⟨last, here⟩ := Option.isSome_iff_exists.mp (firstIh matched goesOn)
        rw [here]
        rfl
      · cases here : attempt isWord first start next with
        | some last => rfl
        | none => exact secondIh matched goesOn
  | lookahead r ih =>
      obtain ⟨⟨other, matched⟩, rfl⟩ := matched
      rw [attempt, if_pos (ih matched rfl)]
      exact goesOn
  | group r ih =>
      obtain ⟨mid', matched, rfl⟩ := matched
      rw [attempt]
      exact ih matched goesOn

/-- **An end is found exactly where there is a match.** -/
theorem matchAt_isSome_iff {r : Regex} {before text : List Char} :
    (matchAt isWord r before text).isSome = true
      ↔ ∃ last, Matches isWord r ⟨before, text, []⟩ last := by
  constructor
  · intro found
    obtain ⟨last, found⟩ := Option.isSome_iff_exists.mp found
    obtain ⟨mid, matched, -⟩ := attempt_sound r found
    exact ⟨mid, matched⟩
  · rintro ⟨last, matched⟩
    exact attempt_isSome r matched rfl

theorem matches_of_matchAt {r : Regex} {before text : List Char} {last : Cursor}
    (found : matchAt isWord r before text = some last) :
    Matches isWord r ⟨before, text, []⟩ last := by
  obtain ⟨mid, matched, same⟩ := attempt_sound r found
  cases same
  exact matched

/-! ## What a match takes -/

/-- The last position is the first after some characters. -/
def Cursor.Passes (start last : Cursor) (taken : List Char) : Prop :=
  start.after = taken ++ last.after ∧ last.before = taken.reverse ++ start.before

theorem Cursor.passes_skip (start : Cursor) (n : Nat) :
    start.Passes (start.skip n) (start.after.take n) :=
  ⟨(List.take_append_drop n _).symm, rfl⟩

theorem Cursor.Passes.trans {start mid last : Cursor} {taken more : List Char}
    (passes : start.Passes mid taken) (passes' : mid.Passes last more) :
    start.Passes last (taken ++ more) := by
  refine ⟨?_, ?_⟩
  · rw [passes.1, passes'.1, List.append_assoc]
  · rw [passes'.2, passes.2, List.reverse_append, List.append_assoc]

/-- A match passes characters. -/
theorem Matches.passes {r : Regex} {start last : Cursor} (matched : Matches isWord r start last) :
    ∃ taken, start.Passes last taken := by
  induction r generalizing start last with
  | empty =>
      cases matched
      exact ⟨[], rfl, rfl⟩
  | char p =>
      obtain ⟨-, rfl⟩ := matched
      exact ⟨_, start.passes_skip 1⟩
  | many p least most =>
      obtain ⟨n, -, -, -, rfl⟩ := matched
      exact ⟨_, start.passes_skip n⟩
  | boundary =>
      obtain ⟨-, rfl⟩ := matched
      exact ⟨[], rfl, rfl⟩
  | seq first second firstIh secondIh =>
      obtain ⟨mid, matched, matched'⟩ := matched
      obtain ⟨taken, passes⟩ := firstIh matched
      obtain ⟨more, passes'⟩ := secondIh matched'
      exact ⟨_, passes.trans passes'⟩
  | alt first second firstIh secondIh =>
      rcases matched with matched | matched
      exacts [firstIh matched, secondIh matched]
  | lookahead r ih =>
      obtain ⟨-, rfl⟩ := matched
      exact ⟨[], rfl, rfl⟩
  | group r ih =>
      obtain ⟨mid, matched, rfl⟩ := matched
      obtain ⟨taken, passes⟩ := ih matched
      exact ⟨taken, passes⟩

/-- What a list's members are checked for, each of them is. -/
theorem forall_mem_of_all {α : Type} {p : α → Prop} [DecidablePred p] {items : List α}
    (all : (items.all fun item => decide (p item)) = true) : ∀ item ∈ items, p item :=
  fun item member => of_decide_eq_true (List.all_eq_true.mp all item member)

/-! ## The parts of an expression -/

section Parts

variable {before text captured : List Char} {last : Cursor}

/-- A word begins or ends between the two texts, the first of which is read backwards. -/
def AtBoundary (isWord : Char → Bool) (before after : List Char) : Prop :=
  (before.head?.any isWord != after.head?.any isWord) = true

/-- Whether there is a boundary depends on the characters next to it. -/
theorem AtBoundary.congr {before before' after after' : List Char}
    (boundary : AtBoundary isWord before after) (front : before.head? = before'.head?)
    (back : after.head? = after'.head?) : AtBoundary isWord before' after' := by
  rw [AtBoundary, ← front, ← back]
  exact boundary

theorem matches_char {p : Char → Bool} :
    Matches isWord (char p) ⟨before, text, captured⟩ last
      ↔ ∃ c rest, text = c :: rest ∧ p c = true ∧ last = ⟨c :: before, rest, captured⟩ := by
  constructor
  · rintro ⟨first, rfl⟩
    cases text with
    | nil => cases first
    | cons c rest => exact ⟨c, rest, rfl, first, rfl⟩
  · rintro ⟨c, rest, rfl, first, rfl⟩
    exact ⟨first, rfl⟩

theorem matches_many {p : Char → Bool} {least : Nat} {most : Option Nat} :
    Matches isWord (many p least most) ⟨before, text, captured⟩ last
      ↔ ∃ taken rest, text = taken ++ rest ∧ (∀ c ∈ taken, p c = true) ∧ least ≤ taken.length
        ∧ (∀ bound ∈ most, taken.length ≤ bound)
        ∧ last = ⟨taken.reverse ++ before, rest, captured⟩ := by
  constructor
  · rintro ⟨n, enough, within, bounded, rfl⟩
    have front : text.takeWhile p <+: text := List.takeWhile_prefix p
    have inside : n ≤ text.length := Nat.le_trans within front.length_le
    have length : (text.take n).length = n := List.length_take_of_le inside
    refine ⟨text.take n, text.drop n, (List.take_append_drop n text).symm, ?_, ?_, ?_, rfl⟩
    · intro c member
      have front' : text.take n <+: text := List.take_prefix n text
      have taken : text.take n <+: text.takeWhile p :=
        List.prefix_of_prefix_length_le front' front
          (by rw [length]; exact within)
      exact List.all_eq_true.mp List.all_takeWhile c (taken.mem member)
    · rwa [length]
    · rwa [length]
  · rintro ⟨taken, rest, rfl, all, enough, bounded, rfl⟩
    refine ⟨taken.length, enough, ?_, bounded, ?_⟩
    · rw [List.takeWhile_append_of_pos all, List.length_append]
      exact Nat.le_add_right _ _
    · rw [Cursor.skip, List.take_left, List.drop_left]

/-- A repetition without an upper bound. -/
theorem matches_unbounded {p : Char → Bool} {least : Nat} :
    Matches isWord (many p least none) ⟨before, text, captured⟩ last
      ↔ ∃ taken rest, text = taken ++ rest ∧ (∀ c ∈ taken, p c = true) ∧ least ≤ taken.length
        ∧ last = ⟨taken.reverse ++ before, rest, captured⟩ := by
  have unbounded (n : Nat) : ∀ bound ∈ (none : Option Nat), n ≤ bound := fun _ absent => by
    cases absent
  rw [matches_many]
  constructor
  · rintro ⟨taken, rest, split, all, enough, -, same⟩
    exact ⟨taken, rest, split, all, enough, same⟩
  · rintro ⟨taken, rest, split, all, enough, same⟩
    exact ⟨taken, rest, split, all, enough, unbounded _, same⟩

theorem matches_seq {first second : Regex} {start : Cursor} :
    Matches isWord (seq first second) start last
      ↔ ∃ mid, Matches isWord first start mid ∧ Matches isWord second mid last := Iff.rfl

/-- What a group takes is captured. -/
theorem matches_group {r : Regex} :
    Matches isWord (group r) ⟨before, text, captured⟩ last
      ↔ ∃ taken rest other, text = taken ++ rest
        ∧ Matches isWord r ⟨before, text, captured⟩ ⟨taken.reverse ++ before, rest, other⟩
        ∧ last = ⟨taken.reverse ++ before, rest, taken⟩ := by
  have capture (taken : List Char) :
      ((taken.reverse ++ before).take ((taken.reverse ++ before).length - before.length)).reverse
        = taken := by
    rw [List.length_append, Nat.add_sub_cancel, List.take_left, List.reverse_reverse]
  constructor
  · rintro ⟨mid, matched, rfl⟩
    obtain ⟨taken, split, front⟩ := matched.passes
    obtain ⟨midBefore, rest, other⟩ := mid
    dsimp only at split front
    subst front
    refine ⟨taken, rest, other, split, matched, ?_⟩
    dsimp only
    rw [capture]
  · rintro ⟨taken, rest, other, split, matched, rfl⟩
    refine ⟨_, matched, ?_⟩
    dsimp only
    rw [capture]

theorem sequence_cons_cons (first second : Regex) (rest : List Regex) :
    sequence (first :: second :: rest) = seq first (sequence (second :: rest)) := rfl

/-- One of the alternatives matches. -/
theorem matches_oneOf {rs : List Regex} {start : Cursor} :
    Matches isWord (oneOf rs) start last ↔ ∃ r ∈ rs, Matches isWord r start last := by
  induction rs with
  | nil =>
      refine iff_of_false ?_ ?_
      swap
      · rintro ⟨r, absent, -⟩
        exact List.not_mem_nil absent
      rintro ⟨first, -⟩
      cases ahead : start.after with
      | nil =>
          rw [ahead] at first
          cases first
      | cons c rest =>
          rw [ahead] at first
          cases first
  | cons r rs ih =>
      cases rs with
      | nil =>
          rw [oneOf]
          simp only [List.mem_singleton, exists_eq_left]
      | cons other rs =>
          rw [List.exists_mem_cons_iff, ← ih]
          exact Iff.rfl

/-- A text of characters of given classes, one after the other. -/
theorem matches_chars {ps : List (Char → Bool)} (some : ps ≠ []) :
    Matches isWord (sequence (ps.map char)) ⟨before, text, captured⟩ last
      ↔ ∃ taken rest, text = taken ++ rest ∧ List.Forall₂ (fun p c => p c = true) ps taken
        ∧ last = ⟨taken.reverse ++ before, rest, captured⟩ := by
  induction ps generalizing before text with
  | nil => exact absurd rfl some
  | cons p rest ih =>
      cases rest with
      | nil =>
          rw [List.map_singleton, sequence, matches_char]
          constructor
          · rintro ⟨c, rest, rfl, first, rfl⟩
            exact ⟨[c], rest, rfl, .cons first .nil, rfl⟩
          · rintro ⟨taken, rest, rfl, all, rfl⟩
            cases all with
            | cons first none =>
                cases none
                exact ⟨_, rest, rfl, first, rfl⟩
      | cons q rest =>
          rw [List.map_cons, List.map_cons, sequence_cons_cons, ← List.map_cons, matches_seq]
          constructor
          · rintro ⟨mid, matched, matched'⟩
            obtain ⟨c, text', rfl, first, rfl⟩ := matches_char.mp matched
            obtain ⟨taken, rest', rfl, all, rfl⟩ := (ih (List.cons_ne_nil _ _)).mp matched'
            refine ⟨c :: taken, rest', rfl, .cons first all, ?_⟩
            rw [List.reverse_cons, List.append_assoc]
            rfl
          · rintro ⟨taken, rest', rfl, all, rfl⟩
            cases all with
            | cons first later =>
                refine ⟨_, matches_char.mpr ⟨_, _, rfl, first, rfl⟩,
                  (ih (List.cons_ne_nil _ _)).mpr ⟨_, rest', rfl, later, ?_⟩⟩
                rw [List.reverse_cons, List.append_assoc]
                rfl

end Parts

/-! ## Substitution -/

/-- The property holds at every position of the text, with what lies before it read backwards. -/
def Everywhere (P : List Char → List Char → Prop) (before text : List Char) : Prop :=
  ∀ front rest, text = front ++ rest → P (front.reverse ++ before) rest

/-- What holds everywhere holds everywhere further on. -/
theorem Everywhere.rest {P : List Char → List Char → Prop} {before taken rest : List Char}
    (everywhere : Everywhere P before (taken ++ rest)) :
    Everywhere P (taken.reverse ++ before) rest := by
  rintro front rest' rfl
  have here := everywhere (taken ++ front) rest' (List.append_assoc _ _ _).symm
  rwa [List.reverse_append, List.append_assoc] at here

/-- What holds everywhere holds everywhere from the next character on. -/
theorem Everywhere.tail {P : List Char → List Char → Prop} {before rest : List Char} {c : Char}
    (everywhere : Everywhere P before (c :: rest)) : Everywhere P (c :: before) rest := by
  rintro front rest' rfl
  have here := everywhere (c :: front) rest' rfl
  rwa [List.reverse_cons, List.append_assoc] at here

theorem Everywhere.here {P : List Char → List Char → Prop} {before text : List Char}
    (everywhere : Everywhere P before text) : P before text := everywhere [] text rfl

/-- **A rewriting** of a text from the left: a character is kept where `Keep` allows it, and some
characters become others where `Swap` does. The texts before the position are read backwards. -/
inductive Rewritten (Keep : List Char → List Char → Prop)
    (Swap : List Char → List Char → List Char → List Char → Prop) :
    List Char → List Char → List Char → List Char → Prop
  | nil (before done : List Char) : Rewritten Keep Swap before done [] []
  | keep {before done rest out : List Char} {c : Char} (kept : Keep before (c :: rest))
      (later : Rewritten Keep Swap (c :: before) (c :: done) rest out) :
      Rewritten Keep Swap before done (c :: rest) (c :: out)
  | swap {before done taken rest new out : List Char} (swapped : Swap before taken rest new)
      (later : Rewritten Keep Swap (taken.reverse ++ before) (new.reverse ++ done) rest out) :
      Rewritten Keep Swap before done (taken ++ rest) (new ++ out)

/-- Nothing matches at the position. -/
def Unmatched (isWord : Char → Bool) (r : Regex) (before text : List Char) : Prop :=
  matchAt isWord r before text = none

/-- What is found at the position is replaced. -/
def Replaced (isWord : Char → Bool) (r : Regex) (replace : List Char → List Char → List Char)
    (before taken rest new : List Char) : Prop :=
  ∃ captured, matchAt isWord r before (taken ++ rest)
    = some ⟨taken.reverse ++ before, rest, captured⟩ ∧ new = replace taken captured

/-- An expression whose matches are not empty. -/
def Consumes (isWord : Char → Bool) (r : Regex) : Prop :=
  ∀ start last, Matches isWord r start last → last.after.length < start.after.length

/-- **Substitution rewrites** what matches and keeps the rest. -/
theorem rewritten_sub {r : Regex} (consumes : Consumes isWord r)
    (replace : List Char → List Char → List Char) {fuel : Nat} {before text : List Char}
    (enough : text.length ≤ fuel) (done : List Char) :
    Rewritten (Unmatched isWord r) (Replaced isWord r replace) before done text
      (sub isWord r replace fuel before text) := by
  induction fuel generalizing before text done with
  | zero =>
      obtain rfl : text = [] := List.length_eq_zero_iff.mp (Nat.le_zero.mp enough)
      exact .nil before done
  | succ fuel ih =>
      cases text with
      | nil => exact .nil before done
      | cons c rest =>
          rw [sub]
          cases found : matchAt isWord r before (c :: rest) with
          | none => exact .keep found (ih (Nat.le_of_succ_le_succ enough) _)
          | some last =>
              have matched := matches_of_matchAt found
              have shorter := consumes _ _ matched
              obtain ⟨taken, split, front⟩ := matched.passes
              dsimp only at split front shorter ⊢
              rw [split] at found shorter enough ⊢
              have length : (taken ++ last.after).length - last.after.length = taken.length := by
                rw [List.length_append, Nat.add_sub_cancel]
              rw [length, List.take_left]
              refine .swap ⟨last.captured, ?_, rfl⟩ ?_
              · rw [found, ← front]
              · rw [← front]
                exact ih (Nat.le_of_lt_succ (Nat.lt_of_lt_of_le shorter enough)) _

section Rewritten

variable {Keep Keep' : List Char → List Char → Prop}
  {Swap Swap' : List Char → List Char → List Char → List Char → Prop}
  {before done text out : List Char}

/-- What is kept and swapped under stricter conditions is under weaker ones. -/
theorem Rewritten.mono (keep : ∀ before text, Keep before text → Keep' before text)
    (swap : ∀ before taken rest new, Swap before taken rest new → Swap' before taken rest new)
    (rewritten : Rewritten Keep Swap before done text out) :
    Rewritten Keep' Swap' before done text out := by
  induction rewritten with
  | nil => exact .nil _ _
  | keep kept later ih => exact .keep (keep _ _ kept) ih
  | swap swapped later ih => exact .swap (swap _ _ _ _ swapped) ih

/-- **What holds of what comes out** can be checked where a character is kept and within what is put
in, with an invariant of the positions that are passed. -/
theorem Rewritten.everywhere (Inv : List Char → List Char → List Char → Prop)
    {P : List Char → List Char → Prop} (rewritten : Rewritten Keep Swap before done text out)
    (start : Inv before done text) (nil : ∀ done, P done [])
    (keep : ∀ before done rest out c, Inv before done (c :: rest) → Keep before (c :: rest) →
      Rewritten Keep Swap (c :: before) (c :: done) rest out →
      P done (c :: out) ∧ Inv (c :: before) (c :: done) rest)
    (swap : ∀ before done taken rest new out, Inv before done (taken ++ rest) →
      Swap before taken rest new →
      Rewritten Keep Swap (taken.reverse ++ before) (new.reverse ++ done) rest out →
      (∀ front back, new = front ++ back → back ≠ [] → P (front.reverse ++ done) (back ++ out))
        ∧ Inv (taken.reverse ++ before) (new.reverse ++ done) rest) :
    Everywhere P done out := by
  induction rewritten with
  | nil before done =>
      intro front rest split
      obtain ⟨rfl, rfl⟩ := List.append_eq_nil_iff.mp split.symm
      exact nil _
  | @keep before done rest out c kept later ih =>
      obtain ⟨here, next⟩ := keep _ _ _ _ _ start kept later
      intro front rest' split
      cases front with
      | nil =>
          rw [List.nil_append] at split
          rw [← split]
          exact here
      | cons d front =>
          rw [List.cons_append, List.cons.injEq] at split
          obtain ⟨rfl, split⟩ := split
          have further := ih next front rest' split
          rwa [List.reverse_cons, List.append_assoc]
  | @swap before done taken rest new out swapped later ih =>
      obtain ⟨within, next⟩ := swap _ _ _ _ _ _ start swapped later
      intro front rest' split
      rcases List.append_eq_append_iff.mp split with ⟨more, rfl, rest⟩ | ⟨back, rfl, rfl⟩
      · have further := ih next more rest' rest
        rwa [List.reverse_append, List.append_assoc]
      · by_cases last : back = []
        · subst last
          have further := ih next [] out rfl
          rw [List.append_nil] at further
          exact further
        · exact within front back rfl last

/-- **What comes out by no swap was there before**: a part of what comes out that no swap can have
brought about is copied, and every character of it was kept. -/
theorem Rewritten.copied_kept {copy out : List Char}
    (rewritten : Rewritten Keep Swap before done text (copy ++ out))
    (unswapped : ∀ front back, copy = front ++ back → back ≠ [] → ∀ taken rest new out',
      Swap (front.reverse ++ before) taken rest new → new ++ out' ≠ back ++ out) :
    ∃ rest, text = copy ++ rest
      ∧ Rewritten Keep Swap (copy.reverse ++ before) (copy.reverse ++ done) rest out
      ∧ ∀ front back, copy = front ++ back → back ≠ [] →
        Keep (front.reverse ++ before) (back ++ rest) := by
  induction copy generalizing before done text with
  | nil =>
      refine ⟨text, rfl, rewritten, fun front back split more => ?_⟩
      exact absurd (List.append_eq_nil_iff.mp split.symm).2 more
  | cons c copy ih =>
      generalize whole : c :: copy ++ out = all at rewritten
      cases rewritten with
      | nil => cases whole
      | keep kept later =>
          rw [List.cons_append, List.cons.injEq] at whole
          obtain ⟨rfl, rfl⟩ := whole
          obtain ⟨rest, rfl, further, keeps⟩ :=
            ih later fun front back split some taken rest new out' swap =>
              unswapped (c :: front) back (by rw [split, List.cons_append]) some taken rest new out'
                (by rwa [List.reverse_cons, List.append_assoc])
          refine ⟨rest, rfl, ?_, fun front back split more => ?_⟩
          · rw [List.reverse_cons, List.append_assoc, List.append_assoc]
            exact further
          · cases front with
            | nil =>
                rw [List.nil_append] at split
                rw [← split]
                exact kept
            | cons d front =>
                rw [List.cons_append, List.cons.injEq] at split
                obtain ⟨rfl, split⟩ := split
                rw [List.reverse_cons, List.append_assoc]
                exact keeps front back split more
      | swap swapped later =>
          exact absurd whole.symm (unswapped [] _ rfl (List.cons_ne_nil _ _) _ _ _ _ swapped)

theorem Rewritten.copied {copy out : List Char}
    (rewritten : Rewritten Keep Swap before done text (copy ++ out))
    (unswapped : ∀ front back, copy = front ++ back → back ≠ [] → ∀ taken rest new out',
      Swap (front.reverse ++ before) taken rest new → new ++ out' ≠ back ++ out) :
    ∃ rest, text = copy ++ rest
      ∧ Rewritten Keep Swap (copy.reverse ++ before) (copy.reverse ++ done) rest out := by
  obtain ⟨rest, split, further, -⟩ := rewritten.copied_kept unswapped
  exact ⟨rest, split, further⟩

/-- What is kept can be put before what is rewritten. -/
theorem Rewritten.keeps (keep : ∀ before text, Keep before text) {front : List Char}
    (rewritten : Rewritten Keep Swap (front.reverse ++ before) (front.reverse ++ done) text out) :
    Rewritten Keep Swap before done (front ++ text) (front ++ out) := by
  induction front generalizing before done with
  | nil => exact rewritten
  | cons c front ih =>
      rw [List.reverse_cons, List.append_assoc, List.append_assoc] at rewritten
      exact .keep (keep _ _) (ih rewritten)

/-- Swaps that change nothing change nothing. -/
theorem Rewritten.eq_self {P : List Char → List Char → Prop} (everywhere : Everywhere P before text)
    (same : ∀ before taken rest new, P before (taken ++ rest) → Swap before taken rest new →
      new = taken) (rewritten : Rewritten Keep Swap before done text out) : out = text := by
  induction rewritten with
  | nil => rfl
  | @keep before done rest out c kept later ih =>
      rw [ih everywhere.tail]
  | swap swapped later ih =>
      rw [ih everywhere.rest, same _ _ _ _ everywhere.here swapped]

/-- **Swaps that shorten**: what is as long afterwards is the same, and every character was kept. -/
theorem Rewritten.length_le (shorter : ∀ before taken rest new, Swap before taken rest new →
      new.length < taken.length) (nil : ∀ before, Keep before [])
    (rewritten : Rewritten Keep Swap before done text out) :
    out.length ≤ text.length
      ∧ (out.length = text.length → out = text ∧ Everywhere Keep before text) := by
  induction rewritten with
  | nil before done =>
      refine ⟨Nat.le_refl _, fun _ => ⟨rfl, fun front rest split => ?_⟩⟩
      obtain ⟨rfl, rfl⟩ := List.append_eq_nil_iff.mp split.symm
      exact nil _
  | @keep before done rest out c kept later ih =>
      obtain ⟨le, same⟩ := ih
      refine ⟨Nat.succ_le_succ le, fun equal => ?_⟩
      obtain ⟨rfl, everywhere⟩ := same (Nat.succ.inj equal)
      refine ⟨rfl, fun front rest' split => ?_⟩
      cases front with
      | nil =>
          rw [List.nil_append] at split
          rw [← split]
          exact kept
      | cons d front =>
          rw [List.cons_append, List.cons.injEq] at split
          obtain ⟨rfl, split⟩ := split
          have further := everywhere front rest' split
          rwa [List.reverse_cons, List.append_assoc]
  | @swap before done taken rest new out swapped later ih =>
      have less := shorter _ _ _ _ swapped
      rw [List.length_append, List.length_append]
      exact ⟨by omega, fun equal => by omega⟩

/-- An expression matches nowhere where the matcher finds nothing. -/
theorem unmatched_iff {isWord : Char → Bool} {r : Regex} {before text : List Char} :
    Unmatched isWord r before text ↔ ¬ ∃ last, Matches isWord r ⟨before, text, []⟩ last := by
  rw [← matchAt_isSome_iff, Unmatched, Option.not_isSome_iff_eq_none]

end Rewritten

end AgenticKVM.Lib.Regex
