import AgenticKVM.Lib.JsonReader

/-! # Longer texts

What `json.loads` reads at the beginning of a text does not change when the text is continued, once
the value does not end with the text or is an object, whose end its bracket tells (`Json.stable`). So
a text of an object is not read once anything but blanks is appended (`Json.loads_append_eq_none`). -/

namespace AgenticKVM.Lib.Json

section Prefix

variable {readFloat : FloatToken → FloatToken} {text rest : List Char}

/-- Four hexadecimal digits are read alike before whatever follows. -/
theorem scanHex4_append {n : Nat} (read : scanHex4 text = some (n, rest)) (more : List Char) :
    scanHex4 (text ++ more) = some (n, rest ++ more) := by
  match text, read with
  | a :: b :: c :: d :: tail, read =>
      simp only [scanHex4, List.cons_append, Option.bind_eq_bind, Option.bind_eq_some_iff,
        Option.pure_def, Option.some.injEq, Prod.mk.injEq] at read ⊢
      obtain ⟨x, hx, y, hy, z, hz, w, hw, value, rfl⟩ := read
      exact ⟨x, hx, y, hy, z, hz, w, hw, value, rfl⟩

/-- The units of an escape are read alike before whatever follows. -/
theorem scanUnits_append {c : Char} (read : scanUnits text = some (c, rest)) (more : List Char) :
    scanUnits (text ++ more) = some (c, rest ++ more) := by
  simp only [scanUnits, Option.bind_eq_bind, Option.bind_eq_some_iff] at read ⊢
  obtain ⟨⟨high, tail⟩, first, read⟩ := read
  refine ⟨(high, tail ++ more), scanHex4_append first more, ?_⟩
  dsimp only at read ⊢
  split_ifs at read ⊢
  · split at read
    · next tail =>
      rw [Option.bind_eq_some_iff] at read
      obtain ⟨⟨low, tail'⟩, second, read⟩ := read
      simp only [List.cons_append, Option.bind_eq_some_iff]
      refine ⟨(low, tail' ++ more), scanHex4_append second more, ?_⟩
      dsimp only at read ⊢
      split_ifs at read ⊢
      rw [Option.some.injEq, Prod.mk.injEq] at read ⊢
      exact ⟨read.1, by rw [read.2]⟩
    · cases read
  · rw [Option.some.injEq, Prod.mk.injEq] at read ⊢
    exact ⟨read.1, by rw [read.2]⟩

/-- A character of a text is read alike before whatever follows. -/
theorem scanChar_append {c : Char} (read : scanChar text = some (c, rest)) (more : List Char) :
    scanChar (text ++ more) = some (c, rest ++ more) := by
  match text, read with
  | d :: tail, read =>
      by_cases escape : d = '\\'
      · subst escape
        match tail, read with
        | e :: tail, read =>
            rw [scanChar.eq_def] at read
            split at read
            · next same =>
              cases same
              split at read
              all_goals rename_i same
              all_goals first
                | (cases same; cases read; rfl)
                | (cases same; exact scanUnits_append read more)
                | cases read
            · next other same =>
              cases same
              exact (other rfl).elim
            · next same => cases same
      · have plain (tail : List Char) :
            scanChar (d :: tail) = if d.toNat < 0x20 then none else some (d, tail) := by
          rw [scanChar]
          exact escape
        rw [List.cons_append]
        rw [plain] at read ⊢
        split_ifs at read ⊢
        cases read
        rfl

/-- A string that is scanned ends with its closing quote, whatever follows it. -/
theorem scanString_append {chars : List Char} {fuel : Nat}
    (read : scanString fuel text = some (chars, rest)) (extra : Nat) (more : List Char) :
    scanString (fuel + extra) (text ++ more) = some (chars, rest ++ more) := by
  induction fuel generalizing text chars with
  | zero => cases read
  | succ fuel ih =>
      rw [Nat.add_right_comm]
      cases text with
      | nil => cases read
      | cons c tail =>
          rw [scanString, List.cons_append, List.head?_cons, List.tail_cons] at *
          by_cases closed : c = '"'
          · rw [closed, if_pos rfl] at read ⊢
            cases read
            rfl
          · have other : ¬ some c = some '"' := fun same => closed (Option.some.inj same)
            rw [if_neg other] at read ⊢
            simp only [Option.bind_eq_bind, Option.bind_eq_some_iff] at read ⊢
            obtain ⟨⟨d, tail'⟩, first, ⟨chars', rest'⟩, later, same⟩ := read
            cases same
            exact ⟨(d, tail' ++ more), scanChar_append first more, (chars', rest' ++ more),
              ih later, rfl⟩

/-- A text ends at its own quote, whatever follows it. -/
theorem readString_append {s : String} (read : readString text = some (s, rest))
    (more : List Char) : readString (text ++ more) = some (s, rest ++ more) := by
  rw [readString, Option.map_eq_some_iff] at read ⊢
  obtain ⟨⟨chars, tail⟩, scanned, same⟩ := read
  cases same
  refine ⟨(chars, rest ++ more), ?_, rfl⟩
  rw [List.length_append, Nat.add_right_comm]
  exact scanString_append scanned more.length more

/-- Blanks are skipped up to where the text goes on. -/
theorem skipBlanks_append (more : List Char) (visible : skipBlanks text ≠ []) :
    skipBlanks (text ++ more) = skipBlanks text ++ more := by
  rw [skipBlanks, skipBlanks, List.dropWhile_append, if_neg]
  rw [List.isEmpty_iff]
  exact visible

/-- A number that something delimits is read alike before whatever follows that. -/
theorem readNumber_append_of_rest {v : Json} (read : readNumber readFloat text = some (v, rest))
    (delimited : rest ≠ []) (more : List Char) :
    readNumber readFloat (text ++ more) = some (v, rest ++ more) := by
  rw [readNumber, Option.map_eq_some_iff] at read
  obtain ⟨number, isNumber, same⟩ := read
  cases same
  have taken : (text ++ more).takeWhile isNumeral = text.takeWhile isNumeral := by
    rw [List.takeWhile_append, if_neg]
    intro whole
    have all := List.takeWhile_append_dropWhile (p := isNumeral) (l := text)
    have lengths := congrArg List.length all
    rw [List.length_append, whole] at lengths
    exact delimited (List.length_eq_zero_iff.mp (by omega))
  have dropped : (text ++ more).dropWhile isNumeral = text.dropWhile isNumeral ++ more := by
    rw [List.dropWhile_append, if_neg]
    rw [List.isEmpty_iff]
    exact delimited
  rw [readNumber, taken, dropped, isNumber]
  rfl

/-- What a number is read as is no object. -/
theorem readNumber_ne_obj {entries : List (String × Json)} :
    readNumber readFloat text ≠ some (.obj entries, rest) := by
  intro read
  rw [readNumber, Option.map_eq_some_iff] at read
  obtain ⟨number, isNumber, same⟩ := read
  cases same
  rw [numberOf] at isNumber
  split_ifs at isNumber
  all_goals cases isNumber

/-- No list ends where the text does. -/
theorem readItems_nil (fuel : Nat) : readItems readFloat fuel [] = none := by
  cases fuel with
  | zero => rfl
  | succ fuel =>
      rw [readItems]
      cases fuel <;> rfl

/-- No object ends where the text does. -/
theorem readEntries_nil (fuel : Nat) : readEntries readFloat fuel [] = none := by
  cases fuel <;> rfl

/-- **Reading is stable** with this fuel: what is read stays the same in a longer text, once the text
goes on after a value or the value is an object, whose end does not depend on what follows. -/
structure Stable (readFloat : FloatToken → FloatToken) (fuel : Nat) : Prop where
  value : ∀ text v rest, readValue readFloat fuel text = some (v, rest) →
    (rest ≠ [] ∨ ∃ entries, v = .obj entries) → ∀ extra more,
    readValue readFloat (fuel + extra) (text ++ more) = some (v, rest ++ more)
  items : ∀ text items rest, readItems readFloat fuel text = some (items, rest) → ∀ extra more,
    readItems readFloat (fuel + extra) (text ++ more) = some (items, rest ++ more)
  entries : ∀ text entries rest, readEntries readFloat fuel text = some (entries, rest) →
    ∀ extra more,
    readEntries readFloat (fuel + extra) (text ++ more) = some (entries, rest ++ more)

/-- A container whose closing bracket does not follow at once is read by its items in a longer text
as well. -/
theorem head_ne_append {closing : Char} (visible : skipBlanks text ≠ [])
    (other : ∀ tail, skipBlanks text = closing :: tail → False) (more tail : List Char) :
    skipBlanks text ++ more ≠ closing :: tail := by
  cases head : skipBlanks text with
  | nil => exact absurd head visible
  | cons d tail' =>
      rw [List.cons_append]
      intro same
      cases same
      exact other _ head

/-- The step of the induction for values: one that was delimited, or is an object, is read alike
with more fuel before a longer text. -/
theorem Stable.value_succ {fuel : Nat} (stable : Stable readFloat fuel) {v : Json}
    (read : readValue readFloat (fuel + 1) text = some (v, rest))
    (closed : rest ≠ [] ∨ ∃ entries, v = .obj entries) (extra : Nat) (more : List Char) :
    readValue readFloat (fuel + 1 + extra) (text ++ more) = some (v, rest ++ more) := by
  rw [Nat.add_right_comm]
  cases text with
  | nil => cases read
  | cons c tail =>
      rw [readValue.eq_def] at read
      rw [List.cons_append, readValue.eq_def]
      dsimp only at read ⊢
      by_cases number : startsNumber c = true
      · rw [if_pos number] at read ⊢
        refine readNumber_append_of_rest read ?_ more
        rcases closed with delimited | ⟨entries, rfl⟩
        · exact delimited
        · exact absurd read readNumber_ne_obj
      · rw [if_neg number] at read ⊢
        split at read
        · -- a string
          rw [Option.map_eq_some_iff] at read
          obtain ⟨⟨s, tail'⟩, string, same⟩ := read
          cases same
          rw [readString_append string]
          rfl
        · -- a list
          have visible : skipBlanks tail ≠ [] := by
            intro empty
            rw [empty] at read
            simp only [readItems_nil] at read
            cases read
          rw [skipBlanks_append more visible]
          split at read
          · next same =>
            rw [same]
            cases read
            rfl
          · next other =>
            rw [Option.map_eq_some_iff] at read
            obtain ⟨⟨vs, tail'⟩, list, same⟩ := read
            cases same
            split
            · next same => exact absurd same (head_ne_append visible other more _)
            · rw [stable.items _ _ _ list extra more]
              rfl
        · -- an object
          have visible : skipBlanks tail ≠ [] := by
            intro empty
            rw [empty] at read
            simp only [readEntries_nil] at read
            cases read
          rw [skipBlanks_append more visible]
          split at read
          · next same =>
            rw [same]
            cases read
            rfl
          · next other =>
            rw [Option.map_eq_some_iff] at read
            obtain ⟨⟨entries, tail'⟩, object, same⟩ := read
            cases same
            split
            · next same => exact absurd same (head_ne_append visible other more _)
            · rw [stable.entries _ _ _ object extra more]
              rfl
        · cases read
          rfl
        · cases read
          rfl
        · cases read
          rfl
        · cases read

/-- What follows a value inside a container is not empty. -/
theorem delimited_of_visible (visible : skipBlanks rest ≠ []) : rest ≠ [] := by
  rintro rfl
  exact visible rfl

/-- The step of the induction for items: their bracket ends them, whatever follows it. -/
theorem Stable.items_succ {fuel : Nat} (stable : Stable readFloat fuel) {vs : List Json}
    (read : readItems readFloat (fuel + 1) text = some (vs, rest)) (extra : Nat)
    (more : List Char) :
    readItems readFloat (fuel + 1 + extra) (text ++ more) = some (vs, rest ++ more) := by
  rw [Nat.add_right_comm]
  simp only [readItems, Option.bind_eq_bind, Option.bind_eq_some_iff] at read ⊢
  obtain ⟨⟨v, tail⟩, first, read⟩ := read
  dsimp only at read
  have visible : skipBlanks tail ≠ [] := by
    intro empty
    rw [empty] at read
    cases read
  refine ⟨(v, tail ++ more),
    stable.value _ _ _ first (.inl (delimited_of_visible visible)) extra more, ?_⟩
  dsimp only
  rw [skipBlanks_append more visible]
  split at read
  · next same =>
    rw [same]
    cases read
    rfl
  · next tail' same =>
    rw [same]
    rw [Option.map_eq_some_iff] at read
    obtain ⟨⟨vs', rest'⟩, later, same⟩ := read
    cases same
    have visible' : skipBlanks tail' ≠ [] := by
      intro empty
      rw [empty, readItems_nil] at later
      cases later
    change Option.map _ (readItems readFloat (fuel + extra) (skipBlanks (tail' ++ more))) = _
    rw [skipBlanks_append more visible', stable.items _ _ _ later extra more]
    rfl
  · cases read

/-- The step of the induction for entries: their brace ends them, whatever follows it. -/
theorem Stable.entries_succ {fuel : Nat} (stable : Stable readFloat fuel)
    {es : List (String × Json)}
    (read : readEntries readFloat (fuel + 1) text = some (es, rest)) (extra : Nat)
    (more : List Char) :
    readEntries readFloat (fuel + 1 + extra) (text ++ more) = some (es, rest ++ more) := by
  rw [Nat.add_right_comm]
  obtain ⟨text, rfl⟩ : ∃ tail, text = '"' :: tail := by
    rw [readEntries.eq_def] at read
    split at read
    · exact ⟨_, rfl⟩
    · cases read
  simp only [readEntries, List.cons_append, Option.bind_eq_bind, Option.bind_eq_some_iff] at read ⊢
  obtain ⟨⟨key, tail⟩, string, read⟩ := read
  refine ⟨(key, tail ++ more), readString_append string more, ?_⟩
  dsimp only at read ⊢
  have visible : skipBlanks tail ≠ [] := by
    intro empty
    rw [empty] at read
    cases read
  rw [skipBlanks_append more visible]
  split at read
  · next tail same =>
    rw [same]
    simp only [List.cons_append, Option.bind_eq_some_iff] at read ⊢
    obtain ⟨⟨v, tail'⟩, first, read⟩ := read
    have after : skipBlanks tail' ≠ [] := by
      intro empty
      rw [empty] at read
      cases read
    have before : skipBlanks tail ≠ [] := by
      intro empty
      rw [empty] at first
      cases fuel <;> cases first
    refine ⟨(v, tail' ++ more), ?_, ?_⟩
    · rw [skipBlanks_append more before]
      exact stable.value _ _ _ first (.inl (delimited_of_visible after)) extra more
    · dsimp only at read ⊢
      rw [skipBlanks_append more after]
      split at read
      · next same =>
        rw [same]
        cases read
        rfl
      · next tail'' same =>
        rw [same]
        rw [Option.map_eq_some_iff] at read
        obtain ⟨⟨es', rest'⟩, later, same⟩ := read
        cases same
        have visible' : skipBlanks tail'' ≠ [] := by
          intro empty
          rw [empty, readEntries_nil] at later
          cases later
        change Option.map _ (readEntries readFloat (fuel + extra) (skipBlanks (tail'' ++ more))) = _
        rw [skipBlanks_append more visible', stable.entries _ _ _ later extra more]
        rfl
      · cases read
  · cases read

/-- Reading is stable with any fuel. -/
theorem stable (fuel : Nat) : Stable readFloat fuel := by
  induction fuel with
  | zero =>
      refine ⟨fun _ _ _ read => ?_, fun _ _ _ read => ?_, fun _ _ _ read => ?_⟩
      · cases read
      · cases read
      · rw [readEntries] at read
        · cases read
        · exact fun _ _ same => by cases same
  | succ fuel ih =>
      exact ⟨fun _ _ _ read closed => ih.value_succ read closed, fun _ _ _ read => ih.items_succ read,
        fun _ _ _ read => ih.entries_succ read⟩

/-- **Nothing but blanks may follow an object**: a text that is read as an object is not read once
something else is appended. -/
theorem loads_append_eq_none {text more : String} {entries : List (String × Json)}
    (read : loads readFloat text = some (.obj entries)) {c : Char} {tail : List Char}
    (follows : more.toList = c :: tail) (visible : isBlank c = false) :
    loads readFloat (text ++ more) = none := by
  rw [loads] at read
  split at read
  · next v rest object =>
    split_ifs at read with blank
    cases read
    have visible' : skipBlanks text.toList ≠ [] := by
      intro empty
      rw [empty] at object
      cases object
    have longer := (stable _).value _ _ _ object (.inr ⟨entries, rfl⟩) more.toList.length more.toList
    have more' : skipBlanks (rest ++ more.toList) = more.toList := by
      rw [skipBlanks] at blank
      rw [skipBlanks, List.dropWhile_append, if_pos (List.isEmpty_iff.mpr blank), follows]
      exact skipBlanks_cons visible tail
    rw [loads, String.toList_append, skipBlanks_append _ visible', List.length_append,
      Nat.add_right_comm, longer]
    dsimp only
    rw [if_neg]
    rw [more', follows]
    exact List.cons_ne_nil c tail
  · cases read

end Prefix
end AgenticKVM.Lib.Json
