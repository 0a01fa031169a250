import AgenticKVM.Lib.RegexMatches
import AgenticKVM.Redaction

/-! # Where the secret patterns match

The four secret patterns of redaction, read as statements about the text at a position: what a
secret assignment is (`AssignmentAt`), a one-time code (`CodeAt`), a token of high entropy
(`EntropyAt`) and a hexadecimal secret (`HexAt`). Each pattern matches exactly where there is one of
these (`assignmentAt_iff` and the like). -/

namespace AgenticKVM

open Lib Lib.Regex
open SecretPattern (isLetter among)

/-! ## Characters -/

/-- **What the patterns rely on** in the tables of characters: they agree with ASCII, decimal digits
are alphanumeric, white space is not, and the characters that match an ASCII letter where case is
ignored are letters. -/
structure CharLaws (lib : AuditLibrary) : Prop where
  ascii : ∀ c : Char, c.toNat < 128 → lib.isalnum c = c.isAlphanum
  digits : ∀ c : Char, c.toNat < 128 → lib.isdecimal c = c.isDigit
  decimal : ∀ c : Char, lib.isdecimal c = true → lib.isalnum c = true
  space : ∀ c : Char, isSpace c = true → lib.isalnum c = false
  folded : ∀ c ∈ ['\u212a', '\u017f', '\u0130', '\u0131'],
    lib.isalnum c = true ∧ lib.isdecimal c = false

theorem isLower_iff {c : Char} : c.isLower = true ↔ 97 ≤ c.toNat ∧ c.toNat ≤ 122 := by
  change (decide (97 ≤ c.toNat) && decide (c.toNat ≤ 122)) = true ↔ _
  rw [Bool.and_eq_true, decide_eq_true_eq, decide_eq_true_eq]

theorem isUpper_iff {c : Char} : c.isUpper = true ↔ 65 ≤ c.toNat ∧ c.toNat ≤ 90 := by
  change decide (65 ≤ c.toNat ∧ c.toNat ≤ 90) = true ↔ _
  exact decide_eq_true_iff

theorem isDigit_iff {c : Char} : c.isDigit = true ↔ 48 ≤ c.toNat ∧ c.toNat ≤ 57 := by
  change (decide (48 ≤ c.toNat) && decide (c.toNat ≤ 57)) = true ↔ _
  rw [Bool.and_eq_true, decide_eq_true_eq, decide_eq_true_eq]

theorem isAlphanum_iff {c : Char} : c.isAlphanum = true
    ↔ (65 ≤ c.toNat ∧ c.toNat ≤ 90 ∨ 97 ≤ c.toNat ∧ c.toNat ≤ 122)
      ∨ 48 ≤ c.toNat ∧ c.toNat ≤ 57 := by
  change (c.isUpper || c.isLower || c.isDigit) = true ↔ _
  rw [Bool.or_eq_true, Bool.or_eq_true, isUpper_iff, isLower_iff, isDigit_iff]

theorem isAlphanum_of_isDigit {c : Char} (digit : c.isDigit = true) : c.isAlphanum = true :=
  isAlphanum_iff.mpr (.inr (isDigit_iff.mp digit))

theorem toNat_of_isAlphanum {c : Char} (alnum : c.isAlphanum = true) : c.toNat < 128 := by
  rw [isAlphanum_iff] at alnum
  omega

/-- The small letters of ASCII. -/
def smallLetters : List Char := "abcdefghijklmnopqrstuvwxyz".toList

/-- The small letter that a character matches where case is ignored. -/
def smallLetter (c : Char) : Char :=
  if c = '\u212a' then 'k' else if c = '\u017f' then 's'
  else if c = '\u0130' ∨ c = '\u0131' then 'i' else c.toLower

/-- The ways to write a letter. -/
theorem isLetter_iff {letter c : Char} : isLetter letter c = true ↔
    c = letter ∨ c = letter.toUpper ∨ letter = 'k' ∧ c = '\u212a' ∨ letter = 's' ∧ c = '\u017f'
      ∨ letter = 'i' ∧ (c = '\u0130' ∨ c = '\u0131') := by
  simp only [isLetter, Bool.or_eq_true, Bool.and_eq_true, beq_iff_eq, or_assoc]

/-- A character matches one letter only. -/
theorem smallLetter_of_isLetter {letter c : Char} (small : letter ∈ smallLetters)
    (same : isLetter letter c = true) : smallLetter c = letter := by
  have plain : ∀ letter ∈ smallLetters,
      smallLetter letter = letter ∧ smallLetter letter.toUpper = letter :=
    forall_mem_of_all (by decide +kernel)
  rcases isLetter_iff.mp same with rfl | rfl | ⟨rfl, rfl⟩ | ⟨rfl, rfl⟩ | ⟨rfl, rfl | rfl⟩
  exacts [(plain c small).1, (plain letter small).2, by decide, by decide, by decide, by decide]

section Characters

variable {lib : AuditLibrary}

/-- Alphanumeric characters are characters of words. -/
theorem isWord_of_isalnum {c : Char} (alnum : lib.isalnum c = true) : lib.isWord c = true := by
  rw [AuditLibrary.isWord, alnum, Bool.true_or]

variable (laws : CharLaws lib)
include laws

theorem CharLaws.letter {letter c : Char} (small : letter ∈ smallLetters)
    (same : isLetter letter c = true) : lib.isalnum c = true ∧ lib.isdecimal c = false := by
  have plain : ∀ letter ∈ smallLetters, letter.toNat < 128 ∧ letter.toUpper.toNat < 128
      ∧ letter.isAlphanum = true ∧ letter.toUpper.isAlphanum = true
      ∧ letter.isDigit = false ∧ letter.toUpper.isDigit = false :=
    forall_mem_of_all (by decide +kernel)
  obtain ⟨ascii, ascii', alnum, alnum', digit, digit'⟩ := plain letter small
  rcases isLetter_iff.mp same with rfl | rfl | ⟨-, rfl⟩ | ⟨-, rfl⟩ | ⟨-, rfl | rfl⟩
  · rw [laws.ascii c ascii, laws.digits c ascii]
    exact ⟨alnum, digit⟩
  · rw [laws.ascii _ ascii', laws.digits _ ascii']
    exact ⟨alnum', digit'⟩
  all_goals exact laws.folded _ (by decide)

theorem CharLaws.notSpace {c : Char} (alnum : lib.isalnum c = true) : isSpace c = false := by
  by_contra space
  rw [Bool.not_eq_false] at space
  rw [laws.space c space] at alnum
  cases alnum

/-- White space is no part of a word. -/
theorem CharLaws.space_word {c : Char} (space : isSpace c = true) : lib.isWord c = false := by
  rw [AuditLibrary.isWord, laws.space c space, Bool.false_or, beq_eq_false_iff_ne]
  rintro rfl
  revert space
  decide

/-- An ASCII character is a character of words where it is a letter, a digit or the underscore. -/
theorem CharLaws.isWord_ascii {c : Char} (ascii : c.toNat < 128) :
    lib.isWord c = (c.isAlphanum || c == '_') := by
  rw [AuditLibrary.isWord, laws.ascii c ascii]

end Characters

/-! ## Names of secrets -/

/-- The characters spell a word, where case is ignored. -/
def Spells (word : String) (name : List Char) : Prop :=
  List.Forall₂ (fun letter c => isLetter letter c = true) word.toList name

/-- Words that name a secret. -/
def secretWords : List String :=
  ["password", "passphrase", "token", "secret", "bearer", "mfa", "otp", "totp"]

/-- Pairs of words that name a secret, with the separators that may stand between them. -/
def secretWordPairs : List (String × String × String) :=
  [("api", "_-", "key"), ("private", "_-", "key"), ("session", "_-", "cookie"),
    ("recovery", "_ -", "key")]

/-- **The name of a secret**, as it is written. -/
inductive SecretName : List Char → Prop
  | word {word : String} {name : List Char} (named : word ∈ secretWords)
      (spells : Spells word name) : SecretName name
  | pair {first separators second : String} {front between back : List Char}
      (named : (first, separators, second) ∈ secretWordPairs) (spells : Spells first front)
      (one : between.length ≤ 1) (among : ∀ c ∈ between, among separators c = true)
      (spells' : Spells second back) : SecretName (front ++ between ++ back)

/-- The words that may stand before a one-time code. -/
def codeWords : List String := ["mfa", "otp", "totp", "code"]

/-- All of these words, and the letters they begin with. -/
def nameWords : List String :=
  secretWords ++ secretWordPairs.map Prod.fst ++ secretWordPairs.map (fun pair => pair.2.2)
    ++ codeWords

/-- A character that can begin the name of a secret. -/
def Initial (c : Char) : Prop := smallLetter c ∈ "ptsabmor".toList

theorem nameWords_small {word : String} (named : word ∈ nameWords) :
    word ≠ "" ∧ ∀ letter ∈ word.toList, letter ∈ smallLetters := by
  have small : ∀ word ∈ nameWords, word ≠ ""
      ∧ (word.toList.all fun letter => smallLetters.contains letter) = true := by
    decide +kernel
  refine ⟨(small word named).1, fun letter member => ?_⟩
  exact List.contains_iff_mem.mp (List.all_eq_true.mp (small word named).2 letter member)

/-- The word that is spelled. -/
theorem Spells.map_smallLetter {word : String} {name : List Char} (named : word ∈ nameWords)
    (spells : Spells word name) : name.map smallLetter = word.toList := by
  have small := (nameWords_small named).2
  rw [Spells] at spells
  generalize word.toList = letters at spells small
  induction spells with
  | nil => rfl
  | cons same later ih =>
      rw [List.forall_mem_cons] at small
      rw [List.map_cons, smallLetter_of_isLetter small.1 same, ih small.2]

section Names

variable {lib : AuditLibrary} {name : List Char}

theorem Spells.alnum (laws : CharLaws lib) {word : String} (named : word ∈ nameWords)
    (spells : Spells word name) :
    ∀ c ∈ name, lib.isalnum c = true ∧ lib.isdecimal c = false := by
  have small := (nameWords_small named).2
  rw [Spells] at spells
  generalize word.toList = letters at spells small
  induction spells with
  | nil => exact fun c absent => (List.not_mem_nil absent).elim
  | cons same later ih =>
      rw [List.forall_mem_cons] at small ⊢
      exact ⟨laws.letter small.1 same, ih small.2⟩

/-- A word that is spelled has a first character, which spells its first letter. -/
theorem Spells.head {word : String} (named : word ∈ nameWords) (spells : Spells word name) :
    ∃ c rest, name = c :: rest ∧ word.toList.head? = some (smallLetter c) := by
  have letters := spells.map_smallLetter named
  cases name with
  | nil =>
      have empty : word = "" := String.toList_inj.mp letters.symm
      exact absurd empty (nameWords_small named).1
  | cons c rest => exact ⟨c, rest, rfl, by rw [← letters]; rfl⟩

theorem mem_nameWords_of_secret {word : String} (named : word ∈ secretWords) :
    word ∈ nameWords := by
  simp only [nameWords, List.mem_append]
  exact .inl (.inl (.inl named))

theorem mem_nameWords_of_pair {first separators second : String}
    (named : (first, separators, second) ∈ secretWordPairs) :
    first ∈ nameWords ∧ second ∈ nameWords := by
  simp only [nameWords, List.mem_append, List.mem_map]
  exact ⟨.inl (.inl (.inr ⟨_, named, rfl⟩)), .inl (.inr ⟨_, named, rfl⟩)⟩

theorem mem_nameWords_of_code {word : String} (named : word ∈ codeWords) : word ∈ nameWords := by
  simp only [nameWords, List.mem_append]
  exact .inr named

/-- The characters of a name. -/
theorem SecretName.chars (laws : CharLaws lib) (named : SecretName name) :
    ∀ c ∈ name, lib.isalnum c = true ∨ c ∈ "_- ".toList := by
  have separators : ∀ pair ∈ secretWordPairs,
      (pair.2.1.toList.all fun c => decide (c ∈ "_- ".toList)) = true := by
    decide
  cases named with
  | word named spells =>
      exact fun c member => .inl (spells.alnum laws (mem_nameWords_of_secret named) c member).1
  | pair named spells one among spells' =>
      obtain ⟨first, second⟩ := mem_nameWords_of_pair named
      intro c member
      rcases List.mem_append.mp member with front | back
      · rcases List.mem_append.mp front with front | between
        · exact .inl (spells.alnum laws first c front).1
        · exact .inr (forall_mem_of_all (separators _ named) c (List.contains_iff_mem.mp (among c between)))
      · exact .inl (spells'.alnum laws second c back).1

/-- A name begins with a letter that can begin one. -/
theorem SecretName.head (laws : CharLaws lib) (named : SecretName name) :
    ∃ c rest, name = c :: rest ∧ Initial c ∧ lib.isalnum c = true := by
  have initial : ∀ word ∈ secretWords ++ secretWordPairs.map Prod.fst,
      (word.toList.head?.toList.all fun letter => decide (letter ∈ "ptsabmor".toList)) = true := by
    decide
  have begins {word : String} {front : List Char}
      (member : word ∈ secretWords ++ secretWordPairs.map Prod.fst) (named : word ∈ nameWords)
      (spells : Spells word front) :
      ∃ c rest, front = c :: rest ∧ Initial c ∧ lib.isalnum c = true := by
    obtain ⟨c, rest, rfl, first⟩ := spells.head named
    exact ⟨c, rest, rfl, forall_mem_of_all (initial word member) _ (Option.mem_toList.mpr first),
      (spells.alnum laws named c List.mem_cons_self).1⟩
  cases named with
  | word named spells =>
      exact begins (List.mem_append.mpr (.inl named)) (mem_nameWords_of_secret named) spells
  | pair named spells one among spells' =>
      obtain ⟨c, rest, rfl, first⟩ := begins
        (List.mem_append.mpr (.inr (List.mem_map_of_mem named)))
        (mem_nameWords_of_pair named).1 spells
      exact ⟨c, _, rfl, first⟩

/-- A word that is spelled has a last character. -/
theorem Spells.last (laws : CharLaws lib) {word : String} (named : word ∈ nameWords)
    (spells : Spells word name) : ∃ front c, name = front ++ [c] ∧ lib.isalnum c = true := by
  obtain ⟨c, rest, rfl, -⟩ := spells.head named
  refine ⟨_, _, (List.dropLast_append_getLast (List.cons_ne_nil c rest)).symm, ?_⟩
  exact (spells.alnum laws named _ (List.getLast_mem _)).1

/-- A name ends with a letter. -/
theorem SecretName.last (laws : CharLaws lib) (named : SecretName name) :
    ∃ front c, name = front ++ [c] ∧ lib.isalnum c = true := by
  cases named with
  | word named spells => exact spells.last laws (mem_nameWords_of_secret named)
  | pair named spells one among spells' =>
      obtain ⟨front, c, rfl, alnum⟩ := spells'.last laws (mem_nameWords_of_pair named).2
      exact ⟨_, c, (List.append_assoc _ _ _).symm, alnum⟩

/-- **Within a name no other begins**: what follows on a character that is no part of a word is no
letter that a name can begin with. -/
theorem SecretName.inner (laws : CharLaws lib) (named : SecretName name) {front back : List Char}
    {d c : Char} (split : name = front ++ d :: c :: back) (edge : lib.isWord d = false) :
    ¬ Initial c := by
  have notAlnum : ¬ lib.isalnum d = true := fun alnum => by
    rw [isWord_of_isalnum alnum] at edge
    cases edge
  have inside : d ∈ name := by
    rw [split]
    exact List.mem_append_cons_self
  cases named with
  | word named spells =>
      exact absurd (spells.alnum laws (mem_nameWords_of_secret named) d inside).1 notAlnum
  | @pair first separators second front' between back' named spells one among spells' =>
      obtain ⟨isFirst, isSecond⟩ := mem_nameWords_of_pair named
      have notFront : d ∉ front' := fun member => notAlnum (spells.alnum laws isFirst d member).1
      have notBack : d ∉ back' := fun member => notAlnum (spells'.alnum laws isSecond d member).1
      -- the separator is what is no part of a word, and the second word follows on it
      have second_ : ∃ rest, back' = c :: rest := by
        cases between with
        | nil =>
            rw [List.append_nil] at inside
            exact absurd (List.mem_append.mp inside) (not_or.mpr ⟨notFront, notBack⟩)
        | cons e more =>
            obtain rfl : more = [] :=
              List.length_eq_zero_iff.mp (Nat.le_zero.mp (Nat.le_of_succ_le_succ one))
            rw [List.append_assoc] at split
            rcases List.append_eq_append_iff.mp split with ⟨more, -, same⟩ | ⟨more, rfl, same⟩
            · cases more with
              | nil => exact ⟨back, (List.cons.inj same).2⟩
              | cons f more =>
                  have inBack : back' = more ++ d :: c :: back := (List.cons.inj same).2
                  rw [inBack] at notBack
                  exact absurd List.mem_append_cons_self notBack
            · cases more with
              | nil => exact ⟨back, (List.cons.inj same).2.symm⟩
              | cons f more =>
                  rw [← (List.cons.inj same).1] at notFront
                  exact absurd List.mem_append_cons_self notFront
      obtain ⟨rest, rfl⟩ := second_
      obtain ⟨c', rest', same, first⟩ := spells'.head isSecond
      rw [← (List.cons.inj same).1] at first
      have other : ∀ pair ∈ secretWordPairs,
          (pair.2.2.toList.head?.toList.all fun letter =>
            decide (letter ∉ "ptsabmor".toList)) = true := by
        decide
      exact forall_mem_of_all (other _ named) _ (Option.mem_toList.mpr first)

/-- **The mark holds no name.** -/
theorem Spells.not_mark {word : String} (named : word ∈ nameWords) (spells : Spells word name)
    (rest out : List Char) : name ++ rest ≠ "REDACTED]".toList ++ out := by
  intro same
  have other : ∀ word ∈ nameWords, 3 ≤ word.toList.length
      ∧ word.toList.take 3 ≠ ("RED".toList).map smallLetter := by
    decide +kernel
  obtain ⟨long, other⟩ := other word named
  have letters := spells.map_smallLetter named
  have length : 3 ≤ name.length := by
    rw [← letters, List.length_map] at long
    exact long
  apply other
  have first : name.take 3 = "RED".toList := by
    have start := congrArg (List.take 3) same
    rwa [List.take_append_of_le_length length] at start
  rw [← letters, ← List.map_take, first]

theorem SecretName.not_mark (named : SecretName name) (rest out : List Char) :
    name ++ rest ≠ "REDACTED]".toList ++ out := by
  cases named with
  | word named spells => exact spells.not_mark (mem_nameWords_of_secret named) rest out
  | pair named spells one among spells' =>
      rw [List.append_assoc, List.append_assoc]
      exact spells.not_mark (mem_nameWords_of_pair named).1 _ out

end Names

/-! ## The patterns -/

/-- No character of a word comes next. -/
def Edge (lib : AuditLibrary) (text : List Char) : Prop := text.head?.any lib.isWord = false

/-- White space only. -/
def Blank (text : List Char) : Prop := ∀ c ∈ text, isSpace c = true

section Patterns

variable {lib : AuditLibrary} {before text captured : List Char} {last : Cursor}

theorem edge_cons {c : Char} {text : List Char} :
    Edge lib (c :: text) ↔ lib.isWord c = false := Iff.rfl

theorem edge_nil : Edge lib [] := rfl

/-- Before a character of a word there is a boundary where what lies before it ends no word. -/
theorem atBoundary_word {c : Char} {text : List Char} (word : lib.isWord c = true) :
    AtBoundary lib.isWord before (c :: text) ↔ Edge lib before := by
  rw [AtBoundary, Edge, List.head?_cons, Option.any_some, word]
  cases before.head?.any lib.isWord <;> decide

/-- Behind a character of a word there is a boundary where no other comes next. -/
theorem word_atBoundary {c : Char} {before : List Char} (word : lib.isWord c = true) :
    AtBoundary lib.isWord (c :: before) text ↔ Edge lib text := by
  rw [AtBoundary, Edge, List.head?_cons, Option.any_some, word]
  cases text.head?.any lib.isWord <;> decide

theorem matches_word {word : String} (some : word ≠ "") :
    Matches lib.isWord (SecretPattern.word word) ⟨before, text, captured⟩ last
      ↔ ∃ name rest, text = name ++ rest ∧ Spells word name
        ∧ last = ⟨name.reverse ++ before, rest, captured⟩ := by
  have letters : word.toList.map (fun letter => Regex.char (isLetter letter))
      = (word.toList.map isLetter).map Regex.char := by
    rw [List.map_map]
    rfl
  have some' : word.toList.map isLetter ≠ [] := by
    intro none
    exact some (String.toList_inj.mp (List.map_eq_nil_iff.mp none))
  rw [SecretPattern.word, letters, matches_chars some']
  simp only [List.forall₂_map_left_iff, Spells]

/-- Two words with at most one separator between them. -/
theorem matches_words {first separators second : String} (some : first ≠ "")
    (some' : second ≠ "") :
    Matches lib.isWord (SecretPattern.words first (.many (among separators) 0 (.some 1)) second)
        ⟨before, text, captured⟩ last
      ↔ ∃ front between back rest, text = front ++ between ++ back ++ rest
        ∧ Spells first front ∧ between.length ≤ 1 ∧ (∀ c ∈ between, among separators c = true)
        ∧ Spells second back
        ∧ last = ⟨(front ++ between ++ back).reverse ++ before, rest, captured⟩ := by
  rw [SecretPattern.words, sequence_cons_cons, sequence_cons_cons, Regex.sequence]
  constructor
  · rintro ⟨mid, isFront, mid', isBetween, isBack⟩
    obtain ⟨front, rest, rfl, spells, rfl⟩ := (matches_word some).mp isFront
    obtain ⟨between, rest, rfl, among, -, one, rfl⟩ := matches_many.mp isBetween
    obtain ⟨back, rest, rfl, spells', rfl⟩ := (matches_word some').mp isBack
    refine ⟨front, between, back, rest, ?_, spells, one 1 rfl, among, spells', ?_⟩
    · simp only [List.append_assoc]
    · simp only [List.reverse_append, List.append_assoc]
  · rintro ⟨front, between, back, rest, rfl, spells, one, among, spells', rfl⟩
    refine ⟨_, (matches_word some).mpr ⟨front, between ++ back ++ rest, ?_, spells, rfl⟩, _,
      matches_many.mpr ⟨between, back ++ rest, ?_, among, Nat.zero_le _, ?_, rfl⟩,
      (matches_word some').mpr ⟨back, rest, rfl, spells', ?_⟩⟩
    · simp only [List.append_assoc]
    · simp only [List.append_assoc]
    · rintro bound bounded
      cases bounded
      exact one
    · simp only [List.reverse_append, List.append_assoc]

/-- The names of secrets, as the pattern has them. -/
def secretNames : Regex :=
  .oneOf
    [SecretPattern.word "password", SecretPattern.word "passphrase", SecretPattern.word "token",
      SecretPattern.word "secret",
      SecretPattern.words "api" (.many (among "_-") 0 (some 1)) "key",
      SecretPattern.words "private" (.many (among "_-") 0 (some 1)) "key",
      SecretPattern.word "bearer",
      SecretPattern.words "session" (.many (among "_-") 0 (some 1)) "cookie",
      SecretPattern.word "mfa", SecretPattern.word "otp", SecretPattern.word "totp",
      SecretPattern.words "recovery" (.many (among "_ -") 0 (some 1)) "key"]

theorem matches_secretNames :
    Matches lib.isWord secretNames ⟨before, text, captured⟩ last
      ↔ ∃ name rest, text = name ++ rest ∧ SecretName name
        ∧ last = ⟨name.reverse ++ before, rest, captured⟩ := by
  have word {w : String} (named : w ∈ secretWords) := @matches_word lib before text captured last w
    (nameWords_small (mem_nameWords_of_secret named)).1
  have pair {f s : String} {separators : String} (named : (f, separators, s) ∈ secretWordPairs) :=
    @matches_words lib before text captured last f separators s
      (nameWords_small (mem_nameWords_of_pair named).1).1
      (nameWords_small (mem_nameWords_of_pair named).2).1
  have ofWord {w : String} (named : w ∈ secretWords)
      (matched : Matches lib.isWord (SecretPattern.word w) ⟨before, text, captured⟩ last) :
      ∃ name rest, text = name ++ rest ∧ SecretName name
        ∧ last = ⟨name.reverse ++ before, rest, captured⟩ := by
    obtain ⟨name, rest, split, spells, same⟩ := (word named).mp matched
    exact ⟨name, rest, split, .word named spells, same⟩
  have ofPair {f s : String} {separators : String}
      (named : (f, separators, s) ∈ secretWordPairs)
      (matched : Matches lib.isWord
        (SecretPattern.words f (.many (among separators) 0 (some 1)) s) ⟨before, text, captured⟩
        last) :
      ∃ name rest, text = name ++ rest ∧ SecretName name
        ∧ last = ⟨name.reverse ++ before, rest, captured⟩ := by
    obtain ⟨front, between, back, rest, split, spells, one, among, spells', same⟩ :=
      (pair named).mp matched
    exact ⟨_, rest, split, .pair named spells one among spells', same⟩
  rw [secretNames, matches_oneOf]
  constructor
  · rintro ⟨r, member, matched⟩
    simp only [List.mem_cons, List.not_mem_nil, or_false] at member
    rcases member with rfl | rfl | rfl | rfl | rfl | rfl | rfl | rfl | rfl | rfl | rfl | rfl
    · exact ofWord (by decide) matched
    · exact ofWord (by decide) matched
    · exact ofWord (by decide) matched
    · exact ofWord (by decide) matched
    · exact ofPair (by decide) matched
    · exact ofPair (by decide) matched
    · exact ofWord (by decide) matched
    · exact ofPair (by decide) matched
    · exact ofWord (by decide) matched
    · exact ofWord (by decide) matched
    · exact ofWord (by decide) matched
    · exact ofPair (by decide) matched
  · rintro ⟨name, rest, split, named, same⟩
    cases named with
    | word named spells =>
        refine ⟨_, ?_, (word named).mpr ⟨name, rest, split, spells, same⟩⟩
        simp only [secretWords, List.mem_cons, List.not_mem_nil, or_false] at named
        rcases named with rfl | rfl | rfl | rfl | rfl | rfl | rfl | rfl <;> simp
    | pair named spells one among spells' =>
        refine ⟨_, ?_, (pair named).mpr ⟨_, _, _, rest, split, spells, one, among, spells', same⟩⟩
        simp only [secretWordPairs, List.mem_cons, List.not_mem_nil, or_false,
          Prod.mk.injEq] at named
        rcases named with ⟨rfl, rfl, rfl⟩ | ⟨rfl, rfl, rfl⟩ | ⟨rfl, rfl, rfl⟩ | ⟨rfl, rfl, rfl⟩
          <;> simp

/-- **A secret assignment** at a position: a name, a separator, and a value. -/
structure IsAssignment (lib : AuditLibrary) (before name gap : List Char) (separator : Char)
    (gap' value : List Char) : Prop where
  edge : Edge lib before
  named : SecretName name
  gap : Blank gap
  separator : among ":=" separator = true
  gap' : Blank gap'
  some : value ≠ []
  value : ∀ c ∈ value, isSpace c = false

/-- There is a secret assignment here. -/
def AssignmentAt (lib : AuditLibrary) (before text : List Char) : Prop :=
  ∃ name gap separator gap' value rest,
    text = name ++ (gap ++ separator :: (gap' ++ (value ++ rest)))
      ∧ IsAssignment lib before name gap separator gap' value

/-- A separator is no part of a word. -/
theorem CharLaws.separator (laws : CharLaws lib) {c : Char} (separator : among ":=" c = true) :
    lib.isWord c = false := by
  have plain : ∀ c ∈ ":=".toList, c.toNat < 128 ∧ (c.isAlphanum || c == '_') = false :=
    forall_mem_of_all (by decide)
  obtain ⟨ascii, other⟩ := plain c (List.contains_iff_mem.mp separator)
  rw [laws.isWord_ascii ascii, other]

/-- No character of a word follows on a name where white space and a separator do. -/
theorem edge_of_separator (laws : CharLaws lib) {gap : List Char} (blank : Blank gap)
    {separator : Char} (isSeparator : among ":=" separator = true) (rest : List Char) :
    Edge lib (gap ++ separator :: rest) := by
  cases gap with
  | nil => exact laws.separator isSeparator
  | cons c gap => exact laws.space_word (blank c List.mem_cons_self)

/-- Where a name begins and where it ends. -/
theorem SecretName.boundaries (laws : CharLaws lib) {name : List Char} (named : SecretName name) :
    (AtBoundary lib.isWord before (name ++ text) ↔ Edge lib before)
      ∧ (AtBoundary lib.isWord (name.reverse ++ before) text ↔ Edge lib text) := by
  constructor
  · obtain ⟨c, rest, rfl, -, alnum⟩ := named.head laws
    exact atBoundary_word (isWord_of_isalnum alnum)
  · obtain ⟨front, c, rfl, alnum⟩ := named.last laws
    rw [List.reverse_append, List.append_assoc]
    exact word_atBoundary (isWord_of_isalnum alnum)

theorem secretAssignment_eq : SecretPattern.secretAssignment =
    .seq .boundary (.seq (.group secretNames) (.seq .boundary (.seq SecretPattern.spaces
      (.seq (.char (among ":=")) (.seq SecretPattern.spaces
        (.many (fun c => !isSpace c) 1 none)))))) := rfl

theorem reverse_assignment (name gap gap' value before : List Char) (separator : Char) :
    (name ++ (gap ++ separator :: (gap' ++ value))).reverse ++ before
      = value.reverse ++ (gap'.reverse ++ separator
          :: (gap.reverse ++ (name.reverse ++ before))) := by
  simp

/-- **The pattern of secret assignments matches where there is one.** -/
theorem matches_secretAssignment (laws : CharLaws lib) :
    Matches lib.isWord SecretPattern.secretAssignment ⟨before, text, captured⟩ last
      ↔ ∃ name gap separator gap' value rest,
        text = name ++ (gap ++ separator :: (gap' ++ (value ++ rest)))
        ∧ IsAssignment lib before name gap separator gap' value
        ∧ last
          = ⟨(name ++ (gap ++ separator :: (gap' ++ value))).reverse ++ before, rest, name⟩ := by
  rw [secretAssignment_eq]
  constructor
  · rintro ⟨mid, ⟨starts, rfl⟩, mid, isName, mid', ⟨ends, rfl⟩, mid, isGap, mid, isChar, mid,
      isGap', isValue⟩
    obtain ⟨taken, rest, other, rfl, isTaken, rfl⟩ := matches_group.mp isName
    obtain ⟨name, rest', split, named, same⟩ := matches_secretNames.mp isTaken
    obtain ⟨front, rfl, -⟩ := Cursor.mk.inj same
    obtain rfl : taken = name := List.append_cancel_right split
    obtain ⟨gap, rest, rfl, blank, -, rfl⟩ := matches_unbounded.mp isGap
    obtain ⟨separator, rest, rfl, isSeparator, rfl⟩ := matches_char.mp isChar
    obtain ⟨gap', rest, rfl, blank', -, rfl⟩ := matches_unbounded.mp isGap'
    obtain ⟨value, rest, rfl, visible, some, rfl⟩ := matches_unbounded.mp isValue
    refine ⟨taken, gap, separator, gap', value, rest, rfl,
      ⟨(named.boundaries laws).1.mp starts, named, blank, isSeparator, blank', ?_, ?_⟩, ?_⟩
    · rintro rfl
      cases some
    · exact fun c member => by simpa using visible c member
    · rw [reverse_assignment]
  · rintro ⟨name, gap, separator, gap', value, rest, rfl, assignment, rfl⟩
    obtain ⟨edge, named, blank, isSeparator, blank', some, visible⟩ := assignment
    refine ⟨_, ⟨(named.boundaries laws).1.mpr edge, rfl⟩, _, matches_group.mpr ⟨name, _, captured,
      rfl, matches_secretNames.mpr ⟨name, _, rfl, named, rfl⟩, rfl⟩, _,
      ⟨(named.boundaries laws).2.mpr (edge_of_separator laws blank isSeparator _), rfl⟩, _,
      matches_unbounded.mpr ⟨gap, _, rfl, blank, Nat.zero_le _, rfl⟩, _,
      matches_char.mpr ⟨separator, _, rfl, isSeparator, rfl⟩, _,
      matches_unbounded.mpr ⟨gap', _, rfl, blank', Nat.zero_le _, rfl⟩,
      matches_unbounded.mpr ⟨value, rest, rfl, ?_, List.length_pos_iff.mpr some, ?_⟩⟩
    · exact fun c member => by simpa using visible c member
    · rw [reverse_assignment]

/-- **The value of an assignment goes on to white space.** -/
theorem blank_of_assignment
    (found : matchAt lib.isWord SecretPattern.secretAssignment before text = some last) :
    ∀ c ∈ last.after.head?, isSpace c = true := by
  rw [matchAt, secretAssignment_eq] at found
  obtain ⟨_, -, found⟩ := attempt_seq found
  obtain ⟨_, -, found⟩ := attempt_seq found
  obtain ⟨_, -, found⟩ := attempt_seq found
  obtain ⟨_, -, found⟩ := attempt_seq found
  obtain ⟨_, -, found⟩ := attempt_seq found
  obtain ⟨_, -, found⟩ := attempt_seq found
  have greedy := attempt_many_greedy found
  intro c first
  rw [Option.mem_def] at first
  rw [first] at greedy
  simpa using greedy

/-! ### One-time codes -/

/-- What stands before the digits of a one-time code. -/
inductive CodeFront : List Char → Prop
  | mk {word : String} {name gap separator gap' : List Char} (named : word ∈ codeWords)
      (spells : Spells word name) (blank : Blank gap) (one : separator.length ≤ 1)
      (among : ∀ c ∈ separator, among ":=" c = true) (blank' : Blank gap') :
      CodeFront (name ++ (gap ++ (separator ++ gap')))

/-- **A one-time code** at a position. -/
structure IsCode (lib : AuditLibrary) (before front digits rest : List Char) : Prop where
  edge : Edge lib before
  front : CodeFront front
  decimal : ∀ c ∈ digits, lib.isdecimal c = true
  least : 6 ≤ digits.length
  most : digits.length ≤ 8
  edge' : Edge lib rest

/-- There is a one-time code here. -/
def CodeAt (lib : AuditLibrary) (before text : List Char) : Prop :=
  ∃ front digits rest, text = front ++ (digits ++ rest) ∧ IsCode lib before front digits rest

/-- A text that is not empty ends with a character. -/
theorem exists_last {digits : List Char} (some : digits ≠ []) :
    ∃ front c, digits = front ++ [c] :=
  ⟨_, _, (List.dropLast_append_getLast some).symm⟩

/-- Digits that end at a boundary. -/
theorem edge_of_decimals (laws : CharLaws lib) {digits : List Char} (some : digits ≠ [])
    (decimal : ∀ c ∈ digits, lib.isdecimal c = true) :
    AtBoundary lib.isWord (digits.reverse ++ before) text ↔ Edge lib text := by
  obtain ⟨front, c, rfl⟩ := exists_last some
  rw [List.reverse_append, List.append_assoc]
  exact word_atBoundary (isWord_of_isalnum (laws.decimal c (decimal c (by simp))))

/-- **The pattern of one-time codes matches where there is one.** -/
theorem matches_mfaCode (laws : CharLaws lib) :
    Matches lib.isWord (SecretPattern.mfaCode lib.isdecimal) ⟨before, text, captured⟩ last
      ↔ ∃ front digits rest, text = front ++ (digits ++ rest)
        ∧ IsCode lib before front digits rest
        ∧ last = ⟨(front ++ digits).reverse ++ before, rest, digits⟩ := by
  have regex : SecretPattern.mfaCode lib.isdecimal = .seq .boundary (.seq (.oneOf
      [SecretPattern.word "mfa", SecretPattern.word "otp", SecretPattern.word "totp",
        SecretPattern.word "code"]) (.seq SecretPattern.spaces (.seq (.many (among ":=") 0 (some 1))
      (.seq SecretPattern.spaces (.seq (.group (.many lib.isdecimal 6 (some 8))) .boundary))))) :=
    rfl
  have word {w : String} (named : w ∈ codeWords) {text : List Char} {mid : Cursor} :=
    @matches_word lib before text captured mid w (nameWords_small (mem_nameWords_of_code named)).1
  have front (name gap separator gap' front : List Char) :
      (name ++ (gap ++ (separator ++ gap'))).reverse ++ front
        = gap'.reverse ++ (separator.reverse ++ (gap.reverse ++ (name.reverse ++ front))) := by
    simp
  rw [regex]
  constructor
  · rintro ⟨mid, ⟨starts, rfl⟩, mid, isWord, mid, isGap, mid, isChar, mid, isGap', mid, isDigits,
      ends, rfl⟩
    obtain ⟨r, member, isWord⟩ := matches_oneOf.mp isWord
    have named : ∃ w ∈ codeWords, r = SecretPattern.word w := by
      simp only [List.mem_cons, List.not_mem_nil, or_false] at member
      rcases member with rfl | rfl | rfl | rfl
      exacts [⟨_, by decide, rfl⟩, ⟨_, by decide, rfl⟩, ⟨_, by decide, rfl⟩, ⟨_, by decide, rfl⟩]
    obtain ⟨w, named, rfl⟩ := named
    obtain ⟨name, rest, rfl, spells, rfl⟩ := (word named).mp isWord
    obtain ⟨gap, rest, rfl, blank, -, rfl⟩ := matches_unbounded.mp isGap
    obtain ⟨separator, rest, rfl, among, -, one, rfl⟩ := matches_many.mp isChar
    obtain ⟨gap', rest, rfl, blank', -, rfl⟩ := matches_unbounded.mp isGap'
    obtain ⟨taken, rest, other, rfl, isTaken, rfl⟩ := matches_group.mp isDigits
    obtain ⟨digits, rest', split, decimal, least, most, same⟩ := matches_many.mp isTaken
    obtain ⟨-, rfl, -⟩ := Cursor.mk.inj same
    obtain rfl : taken = digits := List.append_cancel_right split
    have some : taken ≠ [] := by
      rintro rfl
      cases least
    refine ⟨name ++ (gap ++ (separator ++ gap')), taken, rest, ?_,
      ⟨?_, .mk named spells blank (one 1 rfl) among blank', decimal, least, most 8 rfl, ?_⟩, ?_⟩
    · simp only [List.append_assoc]
    · obtain ⟨c, more, rfl, -⟩ := spells.head (mem_nameWords_of_code named)
      exact (atBoundary_word (isWord_of_isalnum
        (spells.alnum laws (mem_nameWords_of_code named) c List.mem_cons_self).1)).mp starts
    · exact (edge_of_decimals laws some decimal).mp ends
    · rw [List.reverse_append, List.append_assoc, front]
  · rintro ⟨front', digits, rest, rfl, ⟨edge, isFront, decimal, least, most, edge'⟩, rfl⟩
    cases isFront with
    | @mk w name gap separator gap' named spells blank one among blank' =>
        have some : digits ≠ [] := by
          rintro rfl
          cases least
        have isWord : ∃ r ∈ [SecretPattern.word "mfa", SecretPattern.word "otp",
            SecretPattern.word "totp", SecretPattern.word "code"], r = SecretPattern.word w := by
          simp only [codeWords, List.mem_cons, List.not_mem_nil, or_false] at named
          rcases named with rfl | rfl | rfl | rfl <;> simp
        obtain ⟨r, member, isWord⟩ := isWord
        obtain ⟨c, more, rfl, -⟩ := spells.head (mem_nameWords_of_code named)
        have starts : AtBoundary lib.isWord before
            (c :: (more ++ (gap ++ (separator ++ (gap' ++ (digits ++ rest)))))) :=
          (atBoundary_word (isWord_of_isalnum (spells.alnum laws (mem_nameWords_of_code named) c
            List.mem_cons_self).1)).mpr edge
        simp only [List.append_assoc, List.cons_append] at starts ⊢
        refine ⟨_, ⟨starts, rfl⟩, ⟨(c :: more).reverse ++ before, _, captured⟩,
          matches_oneOf.mpr ⟨r, member, ?_⟩, _,
          matches_unbounded.mpr ⟨gap, _, rfl, blank, Nat.zero_le _, rfl⟩, _,
          matches_many.mpr ⟨separator, _, rfl, among, Nat.zero_le _, ?_, rfl⟩, _,
          matches_unbounded.mpr ⟨gap', _, rfl, blank', Nat.zero_le _, rfl⟩, _,
          matches_group.mpr ⟨digits, rest, captured, rfl,
            matches_many.mpr ⟨digits, rest, rfl, decimal, least, ?_, rfl⟩, rfl⟩, ?_, ?_⟩
        · rw [isWord]
          exact (word named).mpr ⟨c :: more, _, rfl, spells, rfl⟩
        · rintro bound bounded
          cases bounded
          exact one
        · rintro bound bounded
          cases bounded
          exact most
        · exact (edge_of_decimals laws some decimal).mpr edge'
        · simp only [List.reverse_append, List.reverse_cons, List.append_assoc, List.cons_append,
            List.nil_append]

/-! ### Hexadecimal secrets -/

/-- A hexadecimal digit. -/
def isHexSecretDigit (c : Char) : Bool := c.isDigit || among "abcdefABCDEF" c

/-- **A hexadecimal secret** at a position. -/
structure IsHex (lib : AuditLibrary) (before digits rest : List Char) : Prop where
  edge : Edge lib before
  all : ∀ c ∈ digits, isHexSecretDigit c = true
  least : 32 ≤ digits.length
  edge' : Edge lib rest

/-- There is a hexadecimal secret here. -/
def HexAt (lib : AuditLibrary) (before text : List Char) : Prop :=
  ∃ digits rest, text = digits ++ rest ∧ IsHex lib before digits rest

theorem CharLaws.isalnum (laws : CharLaws lib) {c : Char} (alnum : c.isAlphanum = true) :
    lib.isalnum c = true := by
  rw [laws.ascii c (toNat_of_isAlphanum alnum), alnum]

theorem CharLaws.hexDigit (laws : CharLaws lib) {c : Char} (digit : isHexSecretDigit c = true) :
    lib.isalnum c = true := by
  have letters : ∀ c ∈ "abcdefABCDEF".toList, c.isAlphanum = true :=
    forall_mem_of_all (by decide)
  rw [isHexSecretDigit, Bool.or_eq_true] at digit
  refine laws.isalnum ?_
  rcases digit with digit | letter
  · exact isAlphanum_of_isDigit digit
  · exact letters c (List.contains_iff_mem.mp letter)

/-- Characters of words, and what lies around them. -/
theorem boundaries_of_word {word : List Char} (some : word ≠ [])
    (all : ∀ c ∈ word, lib.isWord c = true) :
    (AtBoundary lib.isWord before (word ++ text) ↔ Edge lib before)
      ∧ (AtBoundary lib.isWord (word.reverse ++ before) text ↔ Edge lib text) := by
  constructor
  · obtain ⟨c, more, rfl⟩ := List.exists_cons_of_ne_nil some
    exact atBoundary_word (all c List.mem_cons_self)
  · obtain ⟨front, c, rfl⟩ := exists_last some
    rw [List.reverse_append, List.append_assoc]
    exact word_atBoundary (all c (by simp))

/-- **The pattern of hexadecimal secrets matches where there is one.** -/
theorem matches_hexSecret (laws : CharLaws lib) :
    Matches lib.isWord SecretPattern.hexSecret ⟨before, text, captured⟩ last
      ↔ ∃ digits rest, text = digits ++ rest ∧ IsHex lib before digits rest
        ∧ last = ⟨digits.reverse ++ before, rest, captured⟩ := by
  have around {digits : List Char} (least : 32 ≤ digits.length)
      (all : ∀ c ∈ digits, isHexSecretDigit c = true) {text : List Char} :=
    @boundaries_of_word lib before text digits (by rintro rfl; cases least)
      fun c member => isWord_of_isalnum (laws.hexDigit (all c member))
  constructor
  · rintro ⟨mid, ⟨starts, rfl⟩, mid, isDigits, ends, rfl⟩
    obtain ⟨digits, rest, rfl, all, least, rfl⟩ := matches_unbounded.mp isDigits
    exact ⟨digits, rest, rfl,
      ⟨(around least all).1.mp starts, all, least, (around least all).2.mp ends⟩, rfl⟩
  · rintro ⟨digits, rest, rfl, ⟨edge, all, least, edge'⟩, rfl⟩
    exact ⟨_, ⟨(around least all).1.mpr edge, rfl⟩, _,
      matches_unbounded.mpr ⟨digits, rest, rfl, all, least, rfl⟩,
      (around least all).2.mpr edge', rfl⟩

/-! ### Tokens of high entropy -/

/-- A character of a class occurs on the line. -/
def OnLine (p : Char → Bool) (text : List Char) : Prop :=
  ∃ front c rest, text = front ++ c :: rest ∧ '\n' ∉ front ∧ p c = true

theorem matches_ahead {p : Char → Bool} :
    Matches lib.isWord (SecretPattern.ahead p) ⟨before, text, captured⟩ last
      ↔ OnLine p text ∧ last = ⟨before, text, captured⟩ := by
  have newline {front : List Char} :
      (∀ c ∈ front, (c != '\n') = true) ↔ '\n' ∉ front := by
    constructor
    · intro other member
      exact absurd (other _ member) (by decide)
    · intro absent c member
      rw [bne_iff_ne]
      rintro rfl
      exact absent member
  refine and_congr_left fun same => ?_
  constructor
  · rintro ⟨last, mid, isFront, isChar⟩
    obtain ⟨front, rest, rfl, line, -, rfl⟩ := matches_unbounded.mp isFront
    obtain ⟨c, rest, rfl, isIn, rfl⟩ := matches_char.mp isChar
    exact ⟨front, c, rest, rfl, newline.mp line, isIn⟩
  · rintro ⟨front, c, rest, rfl, line, isIn⟩
    exact ⟨_, _, matches_unbounded.mpr ⟨front, _, rfl, newline.mpr line, Nat.zero_le _, rfl⟩,
      matches_char.mpr ⟨c, rest, rfl, isIn, rfl⟩⟩

/-- **A token** at a position: at least twenty token characters between two boundaries. -/
structure IsToken (lib : AuditLibrary) (before token rest : List Char) : Prop where
  starts : AtBoundary lib.isWord before (token ++ rest)
  chars : ∀ c ∈ token, SecretPattern.isTokenChar c = true
  least : 20 ≤ token.length
  ends : AtBoundary lib.isWord (token.reverse ++ before) rest

/-- There is a token of high entropy here: capitals, small letters and digits occur on the line. -/
def EntropyAt (lib : AuditLibrary) (before text : List Char) : Prop :=
  ∃ token rest, text = token ++ rest ∧ IsToken lib before token rest
    ∧ OnLine Char.isUpper text ∧ OnLine Char.isLower text ∧ OnLine Char.isDigit text

/-- **The pattern of high entropy matches where there is such a token.** -/
theorem matches_highEntropy :
    Matches lib.isWord SecretPattern.highEntropy ⟨before, text, captured⟩ last
      ↔ ∃ token rest, text = token ++ rest ∧ IsToken lib before token rest
        ∧ (OnLine Char.isUpper text ∧ OnLine Char.isLower text ∧ OnLine Char.isDigit text)
        ∧ last = ⟨token.reverse ++ before, rest, captured⟩ := by
  constructor
  · rintro ⟨_, ⟨starts, rfl⟩, _, ⟨-, rfl⟩, _, isUpper, _, isLower, _, isDigit, _, isToken,
      ends, rfl⟩
    obtain ⟨upper, rfl⟩ := matches_ahead.mp isUpper
    obtain ⟨lower, rfl⟩ := matches_ahead.mp isLower
    obtain ⟨digit, rfl⟩ := matches_ahead.mp isDigit
    obtain ⟨token, rest, rfl, chars, least, rfl⟩ := matches_unbounded.mp isToken
    exact ⟨token, rest, rfl, ⟨starts, chars, least, ends⟩, ⟨upper, lower, digit⟩, rfl⟩
  · rintro ⟨token, rest, rfl, ⟨starts, chars, least, ends⟩, ⟨upper, lower, digit⟩, rfl⟩
    have isToken : Matches lib.isWord (.many SecretPattern.isTokenChar 20 none)
        ⟨before, token ++ rest, captured⟩ ⟨token.reverse ++ before, rest, captured⟩ :=
      matches_unbounded.mpr ⟨token, rest, rfl, chars, least, rfl⟩
    exact ⟨_, ⟨starts, rfl⟩, _, ⟨⟨_, _, isToken, ends, rfl⟩, rfl⟩, _,
      matches_ahead.mpr ⟨upper, rfl⟩, _, matches_ahead.mpr ⟨lower, rfl⟩, _,
      matches_ahead.mpr ⟨digit, rfl⟩, _, isToken, ends, rfl⟩

end Patterns

end AgenticKVM
