import Mathlib.Data.List.Sort
import Mathlib.Data.String.Basic

/-! # JSON values and their canonical text

The values of a JSON document, the text `json.dumps` writes for one with sorted keys, tight
separators and ASCII output (`Json.dumps`), and what that text determines: two values have the same
text exactly when they differ in the order of object entries only (`Json.dumps_eq_iff`).

The proof reads the text from the left. No text of a value is a proper prefix of another's, once
what follows a number is known not to continue it (`Json.Stops`), so equal texts split into equal
parts (`Json.render_append_inj`). Strings are handled by reading one escaped character back
(`Json.readChar`). -/

namespace AgenticKVM.Lib

/-- A character that a JSON number, `NaN` or `Infinity` can contain. -/
def isNumberChar (c : Char) : Bool := c.isDigit || "+-.eNaInfity".toList.contains c

/-- A character of an integer's text. -/
def isIntChar (c : Char) : Bool := c.isDigit || c == '-'

/-- A character a number's text can start with. -/
def startsNumber (c : Char) : Bool := isIntChar c || c == 'N' || c == 'I'

/-- The text of a float as `json` writes it: the shape of a number, but no integer's text. -/
def isFloatText (text : List Char) : Bool :=
  text.head?.any startsNumber && text.all isNumberChar && text.any (fun c => !isIntChar c)

/-- A float, given by the text `json` writes for it. -/
@[ext] structure FloatToken where
  text : String
  wellFormed : isFloatText text.toList = true
deriving DecidableEq

/-- A JSON value. An object is the list of its entries in insertion order. -/
inductive Json
  | null
  | bool (b : Bool)
  | int (i : Int)
  | float (x : FloatToken)
  | str (s : String)
  | list (items : List Json)
  | obj (entries : List (String × Json))

namespace Json

mutual

/-- The same value with the entries of every object sorted by key, as `sort_keys=True` writes
them. -/
def norm : Json → Json
  | null => null
  | bool b => bool b
  | int i => int i
  | float x => float x
  | str s => str s
  | list items => list (normItems items)
  | obj entries => obj ((normEntries entries).insertionSort fun e f => e.1 ≤ f.1)

/-- The normal forms of a list's items. -/
def normItems : List Json → List Json
  | [] => []
  | v :: rest => norm v :: normItems rest

/-- The entries of an object, each value in normal form. -/
def normEntries : List (String × Json) → List (String × Json)
  | [] => []
  | (key, v) :: rest => (key, norm v) :: normEntries rest

end

/-- An integer's text. -/
def intText (i : Int) : List Char := (toString i).toList

/-- A lower-case hexadecimal digit. -/
def hexDigit (n : Nat) : Char := "0123456789abcdef".toList.getD n '0'

/-- Four hexadecimal digits. -/
def hex4 (n : Nat) : List Char :=
  [hexDigit (n / 4096 % 16), hexDigit (n / 256 % 16), hexDigit (n / 16 % 16), hexDigit (n % 16)]

/-- The escape of one UTF-16 code unit. -/
def escapeUnit (n : Nat) : List Char := '\\' :: 'u' :: hex4 n

/-- A character as `ensure_ascii=True` writes it inside a string: printable ASCII as it is, a short
escape where there is one, and otherwise its UTF-16 code units. -/
def escapeChar (c : Char) : List Char :=
  if c = '"' then ['\\', '"']
  else if c = '\\' then ['\\', '\\']
  else if c = '\n' then ['\\', 'n']
  else if c = '\r' then ['\\', 'r']
  else if c = '\t' then ['\\', 't']
  else if c = '\x0c' then ['\\', 'f']
  else if c = '\x08' then ['\\', 'b']
  else if ' ' ≤ c ∧ c ≤ '~' then [c]
  else if c.toNat < 0x10000 then escapeUnit c.toNat
  else escapeUnit (0xd800 + (c.toNat - 0x10000) / 0x400) ++
    escapeUnit (0xdc00 + (c.toNat - 0x10000) % 0x400)

/-- A string's text. -/
def renderString (s : String) : List Char := '"' :: (s.toList.flatMap escapeChar ++ ['"'])

mutual

/-- A value's text with the tightest separators. -/
def render : Json → List Char
  | null => "null".toList
  | bool true => "true".toList
  | bool false => "false".toList
  | int i => intText i
  | float x => x.text.toList
  | str s => renderString s
  | list [] => ['[', ']']
  | list (v :: rest) => '[' :: (render v ++ renderItems rest)
  | obj [] => ['\x7b', '\x7d']
  | obj ((key, v) :: rest) =>
      '\x7b' :: (renderString key ++ ':' :: (render v ++ renderEntries rest))

/-- What follows the first item of a list. -/
def renderItems : List Json → List Char
  | [] => [']']
  | v :: rest => ',' :: (render v ++ renderItems rest)

/-- What follows the first entry of an object. -/
def renderEntries : List (String × Json) → List Char
  | [] => ['\x7d']
  | (key, v) :: rest => ',' :: (renderString key ++ ':' :: (render v ++ renderEntries rest))

end

/-- The text of a value, with the entries of every object in the order in which they stand. -/
def text (v : Json) : String := String.ofList (render v)

/-- The canonical text of a value: `json.dumps` with sorted keys, tight separators and ASCII
output. -/
def dumps (v : Json) : String := String.ofList (render (norm v))

/-- The canonical text is the text of the normal form. -/
theorem dumps_eq_text (v : Json) : dumps v = text (norm v) := rfl

/-! ## Reading one character back -/

/-- The value of a hexadecimal digit. -/
def hexValue (c : Char) : Nat := if c.isDigit then c.toNat - '0'.toNat else c.toNat - 'a'.toNat + 10

/-- Read four hexadecimal digits. -/
def readHex4 : List Char → Option (Nat × List Char)
  | a :: b :: c :: d :: rest =>
      some (((hexValue a * 16 + hexValue b) * 16 + hexValue c) * 16 + hexValue d, rest)
  | _ => none

theorem hexValue_hexDigit : ∀ n < 16, hexValue (hexDigit n) = n := by decide

/-- Reading four digits gives the number they were written for. -/
theorem readHex4_hex4 {n : Nat} (small : n < 0x10000) (rest : List Char) :
    readHex4 (hex4 n ++ rest) = some (n, rest) := by
  have digit (k : Nat) : hexValue (hexDigit (k % 16)) = k % 16 :=
    hexValue_hexDigit _ (Nat.mod_lt _ (by decide))
  simp only [hex4, List.cons_append, List.nil_append, readHex4, digit]
  congr 2
  omega

/-- Read the code units after `\u`: one, or a surrogate pair. -/
def readUnits (text : List Char) : Option (Char × List Char) :=
  match readHex4 text with
  | some (high, rest) =>
      if 0xd800 ≤ high ∧ high < 0xdc00 then
        match rest with
        | '\\' :: 'u' :: rest =>
            (readHex4 rest).map fun (low, rest) =>
              (Char.ofNat (0x10000 + (high - 0xd800) * 0x400 + (low - 0xdc00)), rest)
        | _ => none
      else some (Char.ofNat high, rest)
  | none => none

/-- Read one character of a string's text back. -/
def readChar : List Char → Option (Char × List Char)
  | '\\' :: '"' :: rest => some ('"', rest)
  | '\\' :: '\\' :: rest => some ('\\', rest)
  | '\\' :: 'n' :: rest => some ('\n', rest)
  | '\\' :: 'r' :: rest => some ('\r', rest)
  | '\\' :: 't' :: rest => some ('\t', rest)
  | '\\' :: 'f' :: rest => some ('\x0c', rest)
  | '\\' :: 'b' :: rest => some ('\x08', rest)
  | '\\' :: 'u' :: rest => readUnits rest
  | c :: rest => some (c, rest)
  | [] => none

theorem toNat_range (c : Char) : c.toNat < 0xd800 ∨ 0xdfff < c.toNat ∧ c.toNat < 0x110000 := by
  have valid : c.toNat.isValidChar := c.valid
  unfold Nat.isValidChar at valid
  omega

theorem readUnits_hex4 {c : Char} (small : c.toNat < 0x10000) (rest : List Char) :
    readUnits (hex4 c.toNat ++ rest) = some (c, rest) := by
  have notHigh : ¬ (0xd800 ≤ c.toNat ∧ c.toNat < 0xdc00) := by
    have := toNat_range c
    omega
  rw [readUnits, readHex4_hex4 small]
  simp only [if_neg notHigh, Char.ofNat_toNat]

theorem readUnits_pair {high low : Nat} (isHigh : 0xd800 ≤ high ∧ high < 0xdc00)
    (small : low < 0x10000) (rest : List Char) :
    readUnits (hex4 high ++ (escapeUnit low ++ rest)) =
      some (Char.ofNat (0x10000 + (high - 0xd800) * 0x400 + (low - 0xdc00)), rest) := by
  rw [readUnits, readHex4_hex4 (by omega)]
  simp only [if_pos isHigh, escapeUnit, List.cons_append]
  rw [readHex4_hex4 small]
  rfl

theorem surrogates_value {n : Nat} (astral : 0x10000 ≤ n) :
    0x10000 + (0xd800 + (n - 0x10000) / 0x400 - 0xd800) * 0x400
      + (0xdc00 + (n - 0x10000) % 0x400 - 0xdc00) = n := by omega

/-- Reading inverts escaping, whatever follows. -/
theorem readChar_escapeChar (c : Char) (rest : List Char) :
    readChar (escapeChar c ++ rest) = some (c, rest) := by
  unfold escapeChar
  split_ifs with h1 h2 h3 h4 h5 h6 h7 printable small
  all_goals try (subst_vars; rfl)
  · simp only [List.cons_append, List.nil_append]
    unfold readChar
    split
    all_goals simp_all
  · exact readUnits_hex4 small rest
  · have range := toNat_range c
    rw [List.append_assoc, escapeUnit, List.cons_append, List.cons_append, readChar,
      readUnits_pair (by omega) (by omega), surrogates_value (by omega), Char.ofNat_toNat]

/-- No character's escape starts with the closing quote. -/
theorem escapeChar_head (c : Char) (rest : List Char) :
    ∃ first tail, escapeChar c ++ rest = first :: tail ∧ first ≠ '"' := by
  unfold escapeChar
  split_ifs with h1 h2 h3 h4 h5 h6 h7 printable small
  all_goals try simp only [escapeUnit, List.cons_append, List.nil_append]
  all_goals first
    | exact ⟨c, rest, rfl, h1⟩
    | exact ⟨_, _, rfl, by decide⟩

/-- The closing quote ends a string's text unambiguously. -/
theorem escapes_append_inj (cs ds : List Char) (r r' : List Char)
    (same : cs.flatMap escapeChar ++ '"' :: r = ds.flatMap escapeChar ++ '"' :: r') :
    cs = ds ∧ r = r' := by
  induction cs generalizing ds with
  | nil =>
      cases ds with
      | nil => simpa using same
      | cons d ds =>
          rw [List.flatMap_cons, List.append_assoc] at same
          obtain ⟨first, tail, eq, ne⟩ := escapeChar_head d (ds.flatMap escapeChar ++ '"' :: r')
          rw [eq] at same
          simp only [List.flatMap_nil, List.nil_append, List.cons.injEq] at same
          exact absurd same.1.symm ne
  | cons c cs ih =>
      cases ds with
      | nil =>
          rw [List.flatMap_cons, List.append_assoc] at same
          obtain ⟨first, tail, eq, ne⟩ := escapeChar_head c (cs.flatMap escapeChar ++ '"' :: r)
          rw [eq] at same
          simp only [List.flatMap_nil, List.nil_append, List.cons.injEq] at same
          exact absurd same.1 ne
      | cons d ds =>
          simp only [List.flatMap_cons, List.append_assoc] at same
          have read := congrArg readChar same
          rw [readChar_escapeChar, readChar_escapeChar] at read
          simp only [Option.some.injEq, Prod.mk.injEq] at read
          obtain ⟨rfl, rest⟩ := read
          obtain ⟨chars, rest⟩ := ih ds rest
          exact ⟨by rw [chars], rest⟩

/-- A string's text is no proper prefix of another's. -/
theorem renderString_append_inj {s t : String} {r r' : List Char}
    (same : renderString s ++ r = renderString t ++ r') : s = t ∧ r = r' := by
  simp only [renderString, List.cons_append, List.append_assoc, List.nil_append, List.cons.injEq,
    true_and] at same
  obtain ⟨chars, rest⟩ := escapes_append_inj _ _ _ _ same
  exact ⟨String.toList_injective chars, rest⟩

/-! ## Numbers -/

/-- The text that follows a value: nothing, or a character that no number contains. -/
def Stops (rest : List Char) : Prop := ∀ c ∈ rest.head?, isNumberChar c = false

/-- Two numbers that start equal texts, each followed by something that ends it, are equal. -/
theorem tokens_append_inj {t t' r r' : List Char} (numeric : ∀ c ∈ t, isNumberChar c = true)
    (numeric' : ∀ c ∈ t', isNumberChar c = true) (stops : Stops r) (stops' : Stops r')
    (same : t ++ r = t' ++ r') : t = t' ∧ r = r' := by
  induction t generalizing t' with
  | nil =>
      cases t' with
      | nil => exact ⟨rfl, same⟩
      | cons c t' =>
          have : isNumberChar c = false := stops c (by simp_all)
          simp_all
  | cons c t ih =>
      cases t' with
      | nil =>
          have : isNumberChar c = false := stops' c (by
            rw [List.nil_append] at same
            simp [← same])
          simp_all
      | cons d t' =>
          simp only [List.cons_append, List.cons.injEq] at same
          obtain ⟨rfl, same⟩ := same
          obtain ⟨rfl, rest⟩ := ih (fun c mem => numeric c (List.mem_cons_of_mem _ mem))
            (fun c mem => numeric' c (List.mem_cons_of_mem _ mem)) same
          exact ⟨rfl, rest⟩

theorem isNumberChar_of_isIntChar {c : Char} (h : isIntChar c = true) : isNumberChar c = true := by
  simp only [isIntChar, Bool.or_eq_true, beq_iff_eq] at h
  rcases h with h | rfl
  · simp [isNumberChar, h]
  · decide

theorem intText_ofNat (n : Nat) : intText (Int.ofNat n) = Nat.toDigits 10 n := Nat.toList_repr

theorem intText_negSucc (n : Nat) :
    intText (Int.negSucc n) = '-' :: Nat.toDigits 10 (n + 1) := by
  have text : intText (Int.negSucc n) = ("-" ++ (n + 1).repr).toList := rfl
  rw [text, String.toList_append, Nat.toList_repr]
  rfl

/-- An integer's text has integer characters only. -/
theorem intText_chars (i : Int) : ∀ c ∈ intText i, isIntChar c = true := by
  have digits (n : Nat) : ∀ c ∈ Nat.toDigits 10 n, isIntChar c = true := fun c mem => by
    simp [isIntChar, Nat.isDigit_of_mem_toDigits (by decide) (by decide) mem]
  cases i with
  | ofNat n =>
      rw [intText_ofNat]
      exact digits n
  | negSucc n =>
      rw [intText_negSucc]
      intro c mem
      rcases List.mem_cons.mp mem with rfl | mem
      exacts [by decide, digits _ c mem]

theorem intText_ne_nil (i : Int) : intText i ≠ [] := by
  cases i with
  | ofNat n =>
      rw [intText_ofNat]
      exact Nat.toDigits_ne_nil
  | negSucc n =>
      rw [intText_negSucc]
      exact List.cons_ne_nil _ _

theorem intText_numeric (i : Int) : ∀ c ∈ intText i, isNumberChar c = true :=
  fun c mem => isNumberChar_of_isIntChar (intText_chars i c mem)

/-- Different numbers have different decimal digits. -/
theorem toDigits_inj {m n : Nat} (same : Nat.toDigits 10 m = Nat.toDigits 10 n) : m = n := by
  have value := congrArg (fun digits => Nat.ofDigitChars 10 digits 0) same
  simpa only [Nat.ofDigitChars_ten_toDigits] using value

/-- Different integers have different texts. -/
theorem intText_inj {i j : Int} (same : intText i = intText j) : i = j := by
  have dash (m n : Nat) : Nat.toDigits 10 m ≠ '-' :: Nat.toDigits 10 n := fun eq =>
    absurd (Nat.isDigit_of_mem_toDigits (by decide) (by decide)
      (eq ▸ List.mem_cons_self : '-' ∈ Nat.toDigits 10 m)) (by decide)
  cases i with
  | ofNat m =>
      cases j with
      | ofNat n =>
          rw [intText_ofNat, intText_ofNat] at same
          rw [toDigits_inj same]
      | negSucc n =>
          rw [intText_ofNat, intText_negSucc] at same
          exact absurd same (dash _ _)
  | negSucc m =>
      cases j with
      | ofNat n =>
          rw [intText_ofNat, intText_negSucc] at same
          exact absurd same.symm (dash _ _)
      | negSucc n =>
          rw [intText_negSucc, intText_negSucc, List.cons.injEq] at same
          rw [Nat.add_right_cancel (toDigits_inj same.2)]

/-! ## Values -/

theorem numeric_floatText (x : FloatToken) : ∀ c ∈ x.text.toList, isNumberChar c = true := by
  have wf := x.wellFormed
  simp only [isFloatText, Bool.and_eq_true, List.all_eq_true] at wf
  exact wf.1.2

/-- No float is written like an integer. -/
theorem floatText_ne_intText (x : FloatToken) (i : Int) : x.text.toList ≠ intText i := by
  have wf := x.wellFormed
  simp only [isFloatText, Bool.and_eq_true, List.any_eq_true, Bool.not_eq_true'] at wf
  obtain ⟨-, c, mem, other⟩ := wf
  intro same
  rw [same] at mem
  rw [intText_chars i c mem] at other
  exact Bool.noConfusion other

/-- The kind of a value as the first character of its text tells it: `'0'` for the numbers. -/
def lead : Json → Char
  | null => 'n'
  | bool true => 't'
  | bool false => 'f'
  | int _ | float _ => '0'
  | str _ => '"'
  | list _ => '['
  | obj _ => '\x7b'

/-- The kind of a value whose text starts with `c`. -/
def leadOf (c : Char) : Char := if startsNumber c then '0' else c

/-- A value's text starts with a character of its kind. -/
theorem render_lead (v : Json) (r : List Char) :
    (render v ++ r).head?.map leadOf = some (lead v) := by
  cases v with
  | null | str => rfl
  | bool b => cases b <;> rfl
  | list items => cases items <;> rfl
  | obj entries => cases entries <;> rfl
  | int i =>
      obtain ⟨c, tail, text⟩ := List.exists_cons_of_ne_nil (intText_ne_nil i)
      have digit := intText_chars i c (by simp [text])
      simp [render, text, lead, leadOf, startsNumber, digit]
  | float x =>
      have wf := x.wellFormed
      simp only [isFloatText, Bool.and_eq_true] at wf
      cases text : x.text.toList with
      | nil => simp [text] at wf
      | cons c tail =>
          simp only [text, List.head?_cons, Option.any_some] at wf
          simp [render, text, lead, leadOf, wf.1.1]

/-- Values whose texts start the same text are of one kind. -/
theorem lead_eq {v w : Json} {r r' : List Char} (same : render v ++ r = render w ++ r') :
    lead v = lead w := by
  have first := render_lead w r'
  rw [← same, render_lead v r] at first
  exact Option.some.inj first

theorem Stops.cons {c : Char} (h : isNumberChar c = false) (r : List Char) : Stops (c :: r) := by
  intro d mem
  simp only [List.head?_cons, Option.mem_def, Option.some.injEq] at mem
  rwa [← mem]

theorem renderItems_stops (items : List Json) (r : List Char) :
    Stops (renderItems items ++ r) := by
  cases items with
  | nil => exact Stops.cons (by decide) _
  | cons v rest => exact Stops.cons (by decide) _

theorem renderEntries_stops (entries : List (String × Json)) (r : List Char) :
    Stops (renderEntries entries ++ r) := by
  cases entries with
  | nil => exact Stops.cons (by decide) _
  | cons e rest => exact Stops.cons (by decide) _

theorem lead_ne_closing (v : Json) : lead v ≠ ']' := by
  rcases v with _ | (_ | _) | _ | _ | _ | _ | _ <;> simp [lead]

/-- An empty list's text is not the start of the text of one with items. -/
theorem empty_ne_items {v : Json} {vs : List Json} {r r' : List Char} :
    '[' :: ']' :: r ≠ render (list (v :: vs)) ++ r' := by
  intro same
  simp only [render, List.cons_append, List.append_assoc, List.cons.injEq, true_and] at same
  have first := render_lead v (renderItems vs ++ r')
  rw [← same] at first
  exact lead_ne_closing v (Option.some.inj first).symm

mutual

/-- **Prefix uniqueness**: values whose texts start the same text, each followed by something that
ends a number, are equal, and so is what follows them. -/
theorem render_append_inj (v w : Json) {r r' : List Char} (stops : Stops r) (stops' : Stops r')
    (same : render v ++ r = render w ++ r') : v = w ∧ r = r' := by
  have kind := lead_eq same
  match v, w, kind with
  | null, null, _ => exact ⟨rfl, List.append_cancel_left same⟩
  | bool true, bool true, _ => exact ⟨rfl, List.append_cancel_left same⟩
  | bool false, bool false, _ => exact ⟨rfl, List.append_cancel_left same⟩
  | int i, int j, _ =>
      obtain ⟨text, rest⟩ :=
        tokens_append_inj (intText_numeric i) (intText_numeric j) stops stops' same
      exact ⟨by rw [intText_inj text], rest⟩
  | int i, float x, _ =>
      obtain ⟨text, -⟩ :=
        tokens_append_inj (intText_numeric i) (numeric_floatText x) stops stops' same
      exact absurd text.symm (floatText_ne_intText x i)
  | float x, int i, _ =>
      obtain ⟨text, -⟩ :=
        tokens_append_inj (numeric_floatText x) (intText_numeric i) stops stops' same
      exact absurd text (floatText_ne_intText x i)
  | float x, float y, _ =>
      obtain ⟨text, rest⟩ :=
        tokens_append_inj (numeric_floatText x) (numeric_floatText y) stops stops' same
      exact ⟨by rw [FloatToken.ext (String.toList_injective text)], rest⟩
  | str s, str t, _ =>
      obtain ⟨text, rest⟩ := renderString_append_inj same
      exact ⟨by rw [text], rest⟩
  | list [], list [], _ => exact ⟨rfl, List.append_cancel_left same⟩
  | list [], list (w :: ws), _ => exact absurd same empty_ne_items
  | list (v :: vs), list [], _ => exact absurd same.symm empty_ne_items
  | list (v :: vs), list (w :: ws), _ =>
      simp only [render, List.cons_append, List.append_assoc, List.cons.injEq, true_and] at same
      obtain ⟨head, tail⟩ :=
        render_append_inj v w (renderItems_stops _ _) (renderItems_stops _ _) same
      obtain ⟨items, rest⟩ := renderItems_append_inj vs ws tail
      exact ⟨by rw [head, items], rest⟩
  | obj [], obj [], _ => exact ⟨rfl, List.append_cancel_left same⟩
  | obj [], obj (w :: ws), _ => exact absurd (List.cons.inj (List.cons.inj same).2).1 (by decide)
  | obj (v :: vs), obj [], _ => exact absurd (List.cons.inj (List.cons.inj same).2).1 (by decide)
  | obj ((k, v) :: vs), obj ((k', w) :: ws), _ =>
      simp only [render, List.cons_append, List.append_assoc, List.cons.injEq, true_and] at same
      obtain ⟨key, same⟩ := renderString_append_inj same
      rw [List.cons.injEq] at same
      obtain ⟨head, tail⟩ :=
        render_append_inj v w (renderEntries_stops _ _) (renderEntries_stops _ _) same.2
      obtain ⟨entries, rest⟩ := renderEntries_append_inj vs ws tail
      exact ⟨by rw [key, head, entries], rest⟩

theorem renderItems_append_inj (vs ws : List Json) {r r' : List Char}
    (same : renderItems vs ++ r = renderItems ws ++ r') : vs = ws ∧ r = r' := by
  match vs, ws with
  | [], [] => exact ⟨rfl, List.append_cancel_left same⟩
  | [], w :: ws => exact absurd (List.cons.inj same).1 (by decide)
  | v :: vs, [] => exact absurd (List.cons.inj same).1 (by decide)
  | v :: vs, w :: ws =>
      simp only [renderItems, List.cons_append, List.append_assoc, List.cons.injEq,
        true_and] at same
      obtain ⟨head, tail⟩ :=
        render_append_inj v w (renderItems_stops _ _) (renderItems_stops _ _) same
      obtain ⟨items, rest⟩ := renderItems_append_inj vs ws tail
      exact ⟨by rw [head, items], rest⟩

theorem renderEntries_append_inj (vs ws : List (String × Json)) {r r' : List Char}
    (same : renderEntries vs ++ r = renderEntries ws ++ r') : vs = ws ∧ r = r' := by
  match vs, ws with
  | [], [] => exact ⟨rfl, List.append_cancel_left same⟩
  | [], w :: ws => exact absurd (List.cons.inj same).1 (by decide)
  | v :: vs, [] => exact absurd (List.cons.inj same).1 (by decide)
  | (k, v) :: vs, (k', w) :: ws =>
      simp only [renderEntries, List.cons_append, List.append_assoc, List.cons.injEq,
        true_and] at same
      obtain ⟨key, same⟩ := renderString_append_inj same
      rw [List.cons.injEq] at same
      obtain ⟨head, tail⟩ :=
        render_append_inj v w (renderEntries_stops _ _) (renderEntries_stops _ _) same.2
      obtain ⟨entries, rest⟩ := renderEntries_append_inj vs ws tail
      exact ⟨by rw [key, head, entries], rest⟩

end

/-- **A text stands for one value**, the order of entries included. -/
theorem text_inj {v w : Json} : text v = text w ↔ v = w := by
  constructor
  · intro same
    have rendered := congrArg String.toList same
    simp only [text, String.toList_ofList] at rendered
    have none : Stops [] := fun c mem => by cases mem
    exact (render_append_inj _ _ none none (by rw [rendered])).1
  · intro same
    rw [same]

/-- **Injectivity**: two values have the same canonical text exactly when their normal forms are
equal. -/
theorem dumps_eq_iff (v w : Json) : dumps v = dumps w ↔ norm v = norm w := by
  rw [dumps_eq_text, dumps_eq_text, text_inj]

example : dumps (obj [("b", int (-12)), ("a", list [str "x\n", null, obj []])])
    = "\x7b\"a\":[\"x\\n\",null,\x7b\x7d],\"b\":-12\x7d" := by decide

end Json

end AgenticKVM.Lib
