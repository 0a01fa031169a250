import Mathlib.Data.List.Basic

/-! # Regular expressions

A backtracking matcher for regular expressions in which single characters are repeated, word
boundaries and lookaheads occur and one group captures: alternatives are tried in order, repetitions
greedily, and the first position that matches wins. What a word character is, is a parameter. -/

namespace AgenticKVM.Lib

/-- A regular expression. -/
inductive Regex
  /-- The empty text. -/
  | empty
  /-- One character of a class. -/
  | char (p : Char → Bool)
  /-- Characters of a class, as many as possible within the bounds. -/
  | many (p : Char → Bool) (least : Nat) (most : Option Nat)
  /-- `\b`: a word begins or ends here. -/
  | boundary
  | seq (first second : Regex)
  | alt (first second : Regex)
  /-- `(?=...)`: something could match here. -/
  | lookahead (r : Regex)
  /-- `(...)`: what is matched is captured. -/
  | group (r : Regex)

namespace Regex

/-- A position in a text: what lies before it, last character first, what follows, and what has been
captured. -/
structure Cursor where
  before : List Char
  after : List Char
  captured : List Char

/-- The position `n` characters on. -/
def Cursor.skip (cursor : Cursor) (n : Nat) : Cursor :=
  { cursor with
    before := (cursor.after.take n).reverse ++ cursor.before
    after := cursor.after.drop n }

/-- A word begins or ends at the position. -/
def Cursor.atBoundary (isWord : Char → Bool) (cursor : Cursor) : Bool :=
  cursor.before.head?.any isWord != cursor.after.head?.any isWord

/-- Goes on after `n` characters, or fewer but no less than `least`, whichever succeeds first. -/
def backOff (cursor : Cursor) (least : Nat) (next : Cursor → Option Cursor) :
    Nat → Option Cursor
  | 0 => if least = 0 then next cursor else none
  | n + 1 =>
      if n + 1 < least then none
      else (next (cursor.skip (n + 1))).orElse fun _ => backOff cursor least next n

/-- Matches at a position and goes on with `next` where the match ends. -/
def attempt (isWord : Char → Bool) :
    Regex → Cursor → (Cursor → Option Cursor) → Option Cursor
  | empty, cursor, next => next cursor
  | char p, cursor, next => if cursor.after.head?.any p then next (cursor.skip 1) else none
  | many p least most, cursor, next =>
      let longest := (cursor.after.takeWhile p).length
      backOff cursor least next (match most with
        | some most => min longest most
        | none => longest)
  | boundary, cursor, next => if cursor.atBoundary isWord then next cursor else none
  | seq first second, cursor, next =>
      attempt isWord first cursor fun mid => attempt isWord second mid next
  | alt first second, cursor, next =>
      (attempt isWord first cursor next).orElse fun _ => attempt isWord second cursor next
  | lookahead r, cursor, next =>
      if (attempt isWord r cursor some).isSome then next cursor else none
  | group r, cursor, next =>
      attempt isWord r cursor fun last =>
        next { last with
          captured := (last.before.take (last.before.length - cursor.before.length)).reverse }

/-- Where the first match at a position ends. -/
def matchAt (isWord : Char → Bool) (r : Regex) (before text : List Char) : Option Cursor :=
  attempt isWord r ⟨before, text, []⟩ some

/-- The expression matches somewhere in the text after `before`. -/
def search (isWord : Char → Bool) (r : Regex) (before : List Char) : List Char → Bool
  | [] => (matchAt isWord r before []).isSome
  | c :: rest =>
      (matchAt isWord r before (c :: rest)).isSome || search isWord r (c :: before) rest

/-- Replaces the matches from the left, each by what `replace` makes of it and its capture. There are
at most `fuel` steps; expressions that match the empty text are not meant. -/
def sub (isWord : Char → Bool) (r : Regex) (replace : List Char → List Char → List Char) :
    Nat → List Char → List Char → List Char
  | 0, _, text => text
  | _ + 1, _, [] => []
  | fuel + 1, before, c :: rest =>
      match matchAt isWord r before (c :: rest) with
      | some last =>
          replace ((c :: rest).take ((c :: rest).length - last.after.length)) last.captured
            ++ sub isWord r replace fuel last.before last.after
      | none => c :: sub isWord r replace fuel (c :: before) rest

/-- The expressions one after the other. -/
def sequence : List Regex → Regex
  | [] => empty
  | [r] => r
  | r :: rest => seq r (sequence rest)

/-- One of the expressions, the first that matches. -/
def oneOf : List Regex → Regex
  | [] => char fun _ => false
  | [r] => r
  | r :: rest => alt r (oneOf rest)

/-! ## Texts without a match -/

/-- Every match of the expression has `n` characters of a class in the text that lies ahead. -/
def Needs (p : Char → Bool) (n : Nat) : Regex → Prop
  | empty | boundary => n = 0
  | char q => n ≤ 1 ∧ ∀ c, q c = true → p c = true
  | many q least _ => n ≤ least ∧ ∀ c, q c = true → p c = true
  | seq first second => Needs p n first ∨ Needs p n second
  | alt first second => Needs p n first ∧ Needs p n second
  | lookahead r | group r => Needs p n r

section Needs

variable {isWord : Char → Bool} {p : Char → Bool} {n : Nat}

/-- A repetition goes on after a number of characters within its bounds. -/
theorem backOff_eq_some {cursor last : Cursor} {least : Nat} {next : Cursor → Option Cursor}
    {most : Nat} (matched : backOff cursor least next most = some last) :
    ∃ j, least ≤ j ∧ j ≤ most ∧ next (cursor.skip j) = some last := by
  induction most with
  | zero =>
      rw [backOff] at matched
      split_ifs at matched with none
      refine ⟨0, by omega, Nat.le_refl 0, ?_⟩
      rw [← matched]
      rfl
  | succ most ih =>
      rw [backOff] at matched
      split_ifs at matched with few
      cases here : next (cursor.skip (most + 1)) with
      | some found =>
          rw [here] at matched
          cases matched
          exact ⟨most + 1, by omega, Nat.le_refl _, here⟩
      | none =>
          rw [here] at matched
          obtain ⟨j, least, bound, found⟩ := ih matched
          exact ⟨j, least, by omega, found⟩

/-- A text that begins with characters of a class has as many of them. -/
theorem le_countP_of_takeWhile {q : Char → Bool} (within : ∀ c, q c = true → p c = true)
    {text : List Char} (long : n ≤ (text.takeWhile q).length) : n ≤ text.countP p := by
  have all : (text.takeWhile q).countP p = (text.takeWhile q).length := by
    rw [List.countP_eq_length]
    exact fun c member =>
      within c (List.all_eq_true.mp List.all_takeWhile c member)
  have inside : (text.takeWhile q).countP p ≤ text.countP p :=
    (List.takeWhile_prefix q).sublist.countP_le
  omega

/-- **A match goes on in what lies ahead**, and what the expression needs is there. -/
theorem attempt_eq_some (r : Regex) {cursor last : Cursor} {next : Cursor → Option Cursor}
    (matched : attempt isWord r cursor next = some last) :
    ∃ mid, next mid = some last ∧ mid.after <:+ cursor.after
      ∧ (Needs p n r → n ≤ cursor.after.countP p) := by
  induction r generalizing cursor last next with
  | empty => exact ⟨cursor, matched, List.suffix_refl _, fun none => by rw [none]; exact Nat.zero_le _⟩
  | boundary =>
      rw [attempt] at matched
      split_ifs at matched
      exact ⟨cursor, matched, List.suffix_refl _, fun none => by rw [none]; exact Nat.zero_le _⟩
  | char q =>
      rw [attempt] at matched
      split_ifs at matched with first
      refine ⟨cursor.skip 1, matched, List.drop_suffix 1 _, fun ⟨one, within⟩ => ?_⟩
      cases ahead : cursor.after with
      | nil =>
          rw [ahead] at first
          cases first
      | cons c rest =>
          rw [ahead] at first
          have here : p c = true := within c first
          rw [List.countP_cons_of_pos here]
          omega
  | many q least most =>
      simp only [attempt] at matched
      obtain ⟨j, enough, bound, found⟩ := backOff_eq_some matched
      refine ⟨cursor.skip j, found, List.drop_suffix j _, fun ⟨few, within⟩ => ?_⟩
      refine le_countP_of_takeWhile within ?_
      have within : j ≤ (cursor.after.takeWhile q).length := by
        cases most with
        | none => exact bound
        | some most => exact Nat.le_trans bound (Nat.min_le_left _ _)
      omega
  | seq first second firstIh secondIh =>
      rw [attempt] at matched
      obtain ⟨mid, found, suffix, needs⟩ := firstIh matched
      obtain ⟨end_, found', suffix', needs'⟩ := secondIh found
      refine ⟨end_, found', suffix'.trans suffix, ?_⟩
      rintro (here | later)
      · exact needs here
      · exact Nat.le_trans (needs' later) suffix.sublist.countP_le
  | alt first second firstIh secondIh =>
      rw [attempt] at matched
      cases here : attempt isWord first cursor next with
      | some found =>
          rw [here] at matched
          cases matched
          obtain ⟨mid, found, suffix, needs⟩ := firstIh here
          exact ⟨mid, found, suffix, fun both => needs both.1⟩
      | none =>
          rw [here] at matched
          obtain ⟨mid, found, suffix, needs⟩ := secondIh matched
          exact ⟨mid, found, suffix, fun both => needs both.2⟩
  | lookahead r ih =>
      rw [attempt] at matched
      split_ifs at matched with could
      obtain ⟨found, could⟩ := Option.isSome_iff_exists.mp could
      obtain ⟨-, -, -, needs⟩ := ih could
      exact ⟨cursor, matched, List.suffix_refl _, needs⟩
  | group r ih =>
      rw [attempt] at matched
      obtain ⟨mid, found, suffix, needs⟩ := ih matched
      exact ⟨_, found, suffix, needs⟩

/-- **A text with too few of the characters an expression needs has no match.** -/
theorem search_eq_false {r : Regex} (needs : Needs p n r) {text : List Char}
    (few : text.countP p < n) (before : List Char) : search isWord r before text = false := by
  have unmatched (before text : List Char) (few : text.countP p < n) :
      (matchAt isWord r before text).isSome = false := by
    cases matched : matchAt isWord r before text with
    | none => rfl
    | some last =>
        obtain ⟨-, -, -, enough⟩ := attempt_eq_some r matched
        exact absurd (enough needs) (Nat.not_le.mpr few)
  induction text generalizing before with
  | nil => exact unmatched before [] few
  | cons c rest ih =>
      have fewer : rest.countP p < n :=
        Nat.lt_of_le_of_lt (List.sublist_cons_self c rest).countP_le few
      rw [search, unmatched before _ few, ih fewer, Bool.or_false]

/-- A sequence needs what one of its parts needs. -/
theorem Needs.sequence {r : Regex} {rs : List Regex} (member : r ∈ rs) (needs : Needs p n r) :
    Needs p n (Regex.sequence rs) := by
  induction rs with
  | nil => cases member
  | cons first rest ih =>
      cases rest with
      | nil =>
          rw [List.mem_singleton] at member
          rw [← member]
          exact needs
      | cons second rest =>
          rcases List.mem_cons.mp member with rfl | later
          exacts [.inl needs, .inr (ih later)]

/-- Alternatives need what all of them need. -/
theorem Needs.oneOf {rs : List Regex} (some : rs ≠ []) (needs : ∀ r ∈ rs, Needs p n r) :
    Needs p n (Regex.oneOf rs) := by
  induction rs with
  | nil => exact absurd rfl some
  | cons first rest ih =>
      rw [List.forall_mem_cons] at needs
      cases rest with
      | nil => exact needs.1
      | cons second rest => exact ⟨needs.1, ih (List.cons_ne_nil _ _) needs.2⟩

end Needs

end Regex

/-- `text.replace(old, new)`, for a text of at most `fuel` characters. -/
def replaceAll (old new : List Char) : Nat → List Char → List Char
  | 0, text => text
  | _ + 1, [] => []
  | fuel + 1, c :: rest =>
      if old.isPrefixOf (c :: rest) then
        new ++ replaceAll old new fuel ((c :: rest).drop (max 1 old.length))
      else c :: replaceAll old new fuel rest

end AgenticKVM.Lib
