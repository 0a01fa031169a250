import AgenticKVM.Lib.JsonReader

/-! # Texts with the writer's own separators

`json.dumps` without options: a blank after each comma and each colon, and the entries of an object
in the order they were inserted in. Such a text is read back as the very value it was written for
(`Json.loads_plainDumps`). -/

namespace AgenticKVM.Lib

namespace Json

mutual

/-- A value's text with a blank after each separator. -/
def plainRender : Json → List Char
  | list (v :: rest) => '[' :: (plainRender v ++ plainRenderItems rest)
  | obj ((key, v) :: rest) =>
      '\x7b' :: (renderString key ++ ':' :: ' ' :: (plainRender v ++ plainRenderEntries rest))
  | v => render v

/-- What follows the first item of a list. -/
def plainRenderItems : List Json → List Char
  | [] => [']']
  | v :: rest => ',' :: ' ' :: (plainRender v ++ plainRenderItems rest)

/-- What follows the first entry of an object. -/
def plainRenderEntries : List (String × Json) → List Char
  | [] => ['\x7d']
  | (key, v) :: rest =>
      ',' :: ' ' :: (renderString key ++ ':' :: ' ' :: (plainRender v ++ plainRenderEntries rest))

end

/-- `json.dumps` without options. -/
def plainDumps (v : Json) : String := String.ofList (plainRender v)

variable {readFloat : FloatToken → FloatToken}

/-- A value's text starts with no blank, and not like the end of a list. -/
theorem plainRender_head (v : Json) (rest : List Char) :
    ∃ c tail, plainRender v ++ rest = c :: tail ∧ isBlank c = false ∧ c ≠ ']' := by
  match v with
  | .null | .bool _ | .int _ | .float _ | .str _ | .list [] | .obj [] =>
      rw [plainRender]
      · exact render_head _ rest
      · exact fun _ _ same => by cases same
      · exact fun _ _ _ same => by cases same
  | .list (first :: items) =>
      rw [plainRender]
      exact ⟨'[', _, rfl, rfl, by decide⟩
  | .obj ((key, first) :: entries) =>
      rw [plainRender]
      exact ⟨'\x7b', _, rfl, rfl, by decide⟩

/-- No rendered value begins with a blank. -/
theorem skipBlanks_plainRender (v : Json) (rest : List Char) :
    skipBlanks (plainRender v ++ rest) = plainRender v ++ rest := by
  obtain ⟨c, tail, text, visible, -⟩ := plainRender_head v rest
  rw [text]
  exact skipBlanks_cons visible tail

/-- The blank after a separator is passed over. -/
theorem skipBlanks_space (text : List Char) : skipBlanks (' ' :: text) = skipBlanks text :=
  List.dropWhile_cons_of_pos rfl

/-- What follows an item of a list is no part of a number. -/
theorem plainRenderItems_delimited (items : List Json) (rest : List Char) :
    Delimited (plainRenderItems items ++ rest) := by
  cases items with
  | nil => exact Delimited.cons (by decide) _
  | cons v items => exact Delimited.cons (by decide) _

/-- What follows an entry of an object is no part of a number. -/
theorem plainRenderEntries_delimited (entries : List (String × Json)) (rest : List Char) :
    Delimited (plainRenderEntries entries ++ rest) := by
  cases entries with
  | nil => exact Delimited.cons (by decide) _
  | cons entry entries => exact Delimited.cons (by decide) _

/-- The first entry is read, and then the others or the end. -/
theorem readEntries_plainStep {key : String} {v : Json} {fuel : Nat} {rest : List Char}
    (value : readValue readFloat fuel (plainRender v ++ rest) = some (v, rest)) :
    readEntries readFloat (fuel + 1) (renderString key ++ ':' :: ' ' :: (plainRender v ++ rest))
      = match skipBlanks rest with
        | '\x7d' :: rest => some ([(key, v)], rest)
        | ',' :: rest => (readEntries readFloat fuel (skipBlanks rest)).map fun (entries, rest) =>
            ((key, v) :: entries, rest)
        | _ => none := by
  rw [renderString_append, readEntries, readString_escapes]
  simp only [Option.bind_eq_bind, Option.bind_some]
  rw [skipBlanks_cons (by decide)]
  simp only
  rw [skipBlanks_space, skipBlanks_plainRender, value]
  rfl

mutual

/-- **Reading inverts writing**, whatever follows the value. -/
theorem readValue_plainRender (v : Json) (readable : Readable readFloat v) {fuel : Nat}
    (enough : (plainRender v).length ≤ fuel) {rest : List Char} (delimited : Delimited rest) :
    readValue readFloat fuel (plainRender v ++ rest) = some (v, rest) := by
  match v, readable with
  | .null, readable | .bool _, readable | .int _, readable | .float _, readable
  | .str _, readable | .list [], readable | .obj [], readable =>
      -- what has no parts is written as in the canonical text
      rw [plainRender] at enough ⊢
      · exact readValue_render _ readable enough delimited
      all_goals
        intros
        rename_i same
        cases same
  | .list (first :: items), readable =>
      cases fuel with
      | zero =>
          rw [plainRender] at enough
          cases enough
      | succ fuel =>
          rw [plainRender, List.length_cons, List.length_append] at enough
          rw [plainRender, List.cons_append, List.append_assoc]
          obtain ⟨c, tail, text, visible, notClosed⟩ :=
            plainRender_head first (plainRenderItems items ++ rest)
          rw [readValue_list text visible notClosed,
            readItems_plainRender first items readable.1 readable.2 (by omega) rest]
          rfl
  | .obj ((key, first) :: entries), readable =>
      cases fuel with
      | zero =>
          rw [plainRender] at enough
          cases enough
      | succ fuel =>
          rw [plainRender, List.length_cons, List.length_append, List.length_cons,
            List.length_cons, List.length_append] at enough
          rw [plainRender, List.cons_append, List.append_assoc, List.cons_append,
            List.cons_append, List.append_assoc]
          have entriesText := readEntries_plainRender key first entries readable.2.1 readable.2.2
            (show _ ≤ fuel by omega) rest
          rw [renderString_append] at entriesText ⊢
          rw [readValue_obj, entriesText]
          dsimp only [Option.map_some]
          rw [storeAll_of_nodup readable.1]
termination_by sizeOf v

/-- Rendered items are read back, with fuel for each of their characters. -/
theorem readItems_plainRender (first : Json) (items : List Json)
    (readable : Readable readFloat first) (readableRest : readableItems readFloat items)
    {fuel : Nat} (enough : (plainRender first).length + (plainRenderItems items).length ≤ fuel)
    (rest : List Char) :
    readItems readFloat fuel (plainRender first ++ (plainRenderItems items ++ rest))
      = some (first :: items, rest) := by
  match items, readableRest with
  | [], _ =>
      rw [plainRenderItems, List.length_singleton] at enough
      cases fuel with
      | zero => omega
      | succ fuel =>
          rw [readItems, readValue_plainRender first readable (by omega)
            (plainRenderItems_delimited [] rest)]
          rfl
  | next :: items, readableRest =>
      rw [plainRenderItems, List.length_cons, List.length_cons, List.length_append] at enough
      cases fuel with
      | zero => omega
      | succ fuel =>
          rw [plainRenderItems, List.cons_append, List.cons_append, List.append_assoc, readItems,
            readValue_plainRender first readable (by omega) (Delimited.cons (by decide) _)]
          simp only [Option.bind_eq_bind, Option.bind_some]
          rw [skipBlanks_cons (by decide)]
          simp only
          rw [skipBlanks_space, skipBlanks_plainRender,
            readItems_plainRender next items readableRest.1 readableRest.2 (by omega) rest]
          rfl
termination_by 1 + sizeOf first + sizeOf items

/-- Rendered entries are read back, with fuel for each of their characters. -/
theorem readEntries_plainRender (key : String) (first : Json) (entries : List (String × Json))
    (readable : Readable readFloat first) (readableRest : readableEntries readFloat entries)
    {fuel : Nat}
    (enough : (renderString key).length + ((plainRender first).length
      + (plainRenderEntries entries).length) ≤ fuel) (rest : List Char) :
    readEntries readFloat fuel
        (renderString key ++ ':' :: ' ' ::
          (plainRender first ++ (plainRenderEntries entries ++ rest)))
      = some ((key, first) :: entries, rest) := by
  have quoted := renderString_length key
  match entries, readableRest with
  | [], _ =>
      cases fuel with
      | zero => omega
      | succ fuel =>
          rw [readEntries_plainStep (readValue_plainRender first readable (by omega)
            (plainRenderEntries_delimited [] rest))]
          rfl
  | (key', next) :: entries, readableRest =>
      rw [plainRenderEntries, List.length_cons, List.length_cons, List.length_append,
        List.length_cons, List.length_cons, List.length_append] at enough
      cases fuel with
      | zero => omega
      | succ fuel =>
          rw [readEntries_plainStep (readValue_plainRender first readable (by omega)
            (plainRenderEntries_delimited ((key', next) :: entries) rest))]
          rw [plainRenderEntries, List.cons_append, List.cons_append, List.append_assoc,
            List.cons_append, List.cons_append, List.append_assoc, skipBlanks_cons (by decide)]
          simp only
          rw [skipBlanks_space]
          have entriesText := readEntries_plainRender key' next entries readableRest.1
            readableRest.2 (show _ ≤ fuel by omega) rest
          rw [renderString_append] at entriesText ⊢
          rw [skipBlanks_cons (by decide), entriesText]
          rfl
termination_by 1 + sizeOf first + sizeOf entries

end

/-- **Reading a written text** gives the value itself. -/
theorem loads_plainDumps {v : Json} (readable : Readable readFloat v) :
    loads readFloat (plainDumps v) = some v := by
  have text : (plainDumps v).toList = plainRender v ++ [] := by
    rw [plainDumps, String.toList_ofList, List.append_nil]
  have read := readValue_plainRender v readable
    (show _ ≤ (plainRender v ++ []).length + 1 by rw [List.append_nil]; omega) Delimited.nil
  rw [loads, text, skipBlanks_plainRender, read]
  rfl

end Json

end AgenticKVM.Lib
