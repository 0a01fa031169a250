import AgenticKVM.Lib.Json
import Mathlib.Data.List.TakeWhile

/-! # Reading JSON texts

`json.loads` over the values of `Json`: literals, numbers by their grammar, strict strings with
surrogate pairs, blanks between the parts, and of several entries with one key the last. A lone
surrogate, which no string holds here, is refused. What a value is written as is read back as its
normal form (`Json.loads_dumps`), once its keys are distinct and its floats are written as they are
read (`Json.Readable`). -/

namespace AgenticKVM.Lib

namespace Json

/-! ## Strings -/

/-- The blanks JSON allows between its parts. -/
def isBlank (c : Char) : Bool := c == ' ' || c == '\t' || c == '\n' || c == '\r'

/-- A text without its leading blanks. -/
def skipBlanks (text : List Char) : List Char := text.dropWhile isBlank

/-- The value of a hexadecimal digit of either case. -/
def hexDigitValue (c : Char) : Option Nat :=
  if '0' ≤ c ∧ c ≤ '9' then some (c.toNat - '0'.toNat)
  else if 'a' ≤ c ∧ c ≤ 'f' then some (c.toNat - 'a'.toNat + 10)
  else if 'A' ≤ c ∧ c ≤ 'F' then some (c.toNat - 'A'.toNat + 10)
  else none

/-- Scan four hexadecimal digits. -/
def scanHex4 : List Char → Option (Nat × List Char)
  | a :: b :: c :: d :: rest => do
      let a ← hexDigitValue a
      let b ← hexDigitValue b
      let c ← hexDigitValue c
      let d ← hexDigitValue d
      return (((a * 16 + b) * 16 + c) * 16 + d, rest)
  | _ => none

/-- Scan the code units after `\u`: one that is no surrogate, or a surrogate pair. -/
def scanUnits (text : List Char) : Option (Char × List Char) := do
  let (high, rest) ← scanHex4 text
  if 0xd800 ≤ high ∧ high < 0xdc00 then
    match rest with
    | '\\' :: 'u' :: rest => do
        let (low, rest) ← scanHex4 rest
        if 0xdc00 ≤ low ∧ low < 0xe000 then
          some (Char.ofNat (0x10000 + (high - 0xd800) * 0x400 + (low - 0xdc00)), rest)
        else none
    | _ => none
  else if 0xdc00 ≤ high ∧ high < 0xe000 then none
  else some (Char.ofNat high, rest)

/-- Scan one character of a string: an escape, or any character but a control character. -/
def scanChar : List Char → Option (Char × List Char)
  | '\\' :: rest =>
      match rest with
      | '"' :: rest => some ('"', rest)
      | '\\' :: rest => some ('\\', rest)
      | '/' :: rest => some ('/', rest)
      | 'b' :: rest => some ('\x08', rest)
      | 'f' :: rest => some ('\x0c', rest)
      | 'n' :: rest => some ('\n', rest)
      | 'r' :: rest => some ('\r', rest)
      | 't' :: rest => some ('\t', rest)
      | 'u' :: rest => scanUnits rest
      | _ => none
  | c :: rest => if c.toNat < 0x20 then none else some (c, rest)
  | [] => none

/-- Scan a string after its opening quote. -/
def scanString : Nat → List Char → Option (List Char × List Char)
  | 0, _ => none
  | fuel + 1, text =>
      if text.head? = some '"' then some ([], text.tail)
      else do
        let (c, rest) ← scanChar text
        let (chars, rest) ← scanString fuel rest
        return (c :: chars, rest)

/-- Each of the sixteen digits is read as its value. -/
theorem hexDigitValue_hexDigit : ∀ n < 16, hexDigitValue (hexDigit n) = some n := by decide

/-- Scanning four digits gives the number they were written for. -/
theorem scanHex4_hex4 {n : Nat} (small : n < 0x10000) (rest : List Char) :
    scanHex4 (hex4 n ++ rest) = some (n, rest) := by
  have digit (k : Nat) : hexDigitValue (hexDigit (k % 16)) = some (k % 16) :=
    hexDigitValue_hexDigit _ (Nat.mod_lt _ (by decide))
  simp only [hex4, List.cons_append, List.nil_append, scanHex4, digit, Option.bind_eq_bind,
    Option.bind_some, Option.pure_def, Option.some.injEq, Prod.mk.injEq, and_true]
  omega

/-- Four digits are read as the character they write, below the supplementary planes. -/
theorem scanUnits_hex4 {c : Char} (small : c.toNat < 0x10000) (rest : List Char) :
    scanUnits (hex4 c.toNat ++ rest) = some (c, rest) := by
  have range := toNat_range c
  rw [scanUnits, scanHex4_hex4 small]
  simp only [Option.bind_eq_bind, Option.bind_some]
  rw [if_neg (by omega), if_neg (by omega), Char.ofNat_toNat]

/-- A surrogate pair is read as the one character it stands for. -/
theorem scanUnits_pair {high low : Nat} (isHigh : 0xd800 ≤ high ∧ high < 0xdc00)
    (isLow : 0xdc00 ≤ low ∧ low < 0xe000) (rest : List Char) :
    scanUnits (hex4 high ++ (escapeUnit low ++ rest)) =
      some (Char.ofNat (0x10000 + (high - 0xd800) * 0x400 + (low - 0xdc00)), rest) := by
  rw [scanUnits, scanHex4_hex4 (by omega)]
  simp only [Option.bind_eq_bind, Option.bind_some, escapeUnit, List.cons_append, if_pos isHigh]
  rw [scanHex4_hex4 (by omega), Option.bind_some, if_pos isLow]

/-- Scanning inverts escaping, whatever follows. -/
theorem scanChar_escapeChar (c : Char) (rest : List Char) :
    scanChar (escapeChar c ++ rest) = some (c, rest) := by
  unfold escapeChar
  split_ifs with h1 h2 h3 h4 h5 h6 h7 printable small
  all_goals try (subst_vars; rfl)
  · -- a printable character stands for itself
    have visible : ¬ c.toNat < 0x20 := by
      have bound : ' '.toNat ≤ c.toNat := printable.1
      exact Nat.not_lt.mpr bound
    have plain : scanChar (c :: rest) = if c.toNat < 0x20 then none else some (c, rest) := by
      rw [scanChar]
      exact h2
    exact plain.trans (if_neg visible)
  · exact scanUnits_hex4 small rest
  · have range := toNat_range c
    rw [List.append_assoc, escapeUnit, List.cons_append, List.cons_append, scanChar,
      scanUnits_pair (by omega) (by omega), surrogates_value (by omega), Char.ofNat_toNat]

/-- Every character is written with at least one. -/
theorem escapeChar_length (c : Char) : 0 < (escapeChar c).length := by
  obtain ⟨first, tail, text, -⟩ := escapeChar_head c []
  rw [List.append_nil] at text
  rw [text]
  exact Nat.succ_pos _

/-- A string is read back from its text. -/
theorem scanString_escapes (chars : List Char) {fuel : Nat}
    (enough : (chars.flatMap escapeChar).length < fuel) (rest : List Char) :
    scanString fuel (chars.flatMap escapeChar ++ '"' :: rest) = some (chars, rest) := by
  induction chars generalizing fuel with
  | nil =>
      obtain ⟨fuel, rfl⟩ := Nat.exists_eq_add_of_lt enough
      rfl
  | cons c chars ih =>
      rw [List.flatMap_cons, List.length_append] at enough
      have positive := escapeChar_length c
      obtain ⟨fuel, rfl⟩ : ∃ smaller, fuel = smaller + 1 := ⟨fuel - 1, by omega⟩
      rw [List.flatMap_cons, List.append_assoc]
      obtain ⟨first, tail, text, other⟩ :=
        escapeChar_head c (chars.flatMap escapeChar ++ '"' :: rest)
      have notClosed : (escapeChar c ++ (chars.flatMap escapeChar ++ '"' :: rest)).head?
          ≠ some '"' := by
        rw [text]
        exact fun same => other (Option.some.inj same)
      rw [scanString, if_neg notClosed, scanChar_escapeChar]
      simp only [Option.bind_eq_bind, Option.bind_some]
      rw [ih (by omega)]
      rfl

/-! ## Numbers -/

/-- A character of a number's text, in either case of the exponent's mark. -/
def isNumeral (c : Char) : Bool := isNumberChar c || c == 'E'

/-- A whole number without sign and without leading zeros. -/
def isWhole : List Char → Bool
  | [] => false
  | ['0'] => true
  | c :: rest => c != '0' && c.isDigit && rest.all Char.isDigit

/-- An integer's text. -/
def isIntLiteral : List Char → Bool
  | '-' :: digits => isWhole digits
  | digits => isWhole digits

/-- The integer of a text. -/
def intValue : List Char → Int
  | '-' :: digits => -(Nat.ofDigitChars 10 digits 0 : Int)
  | digits => Nat.ofDigitChars 10 digits 0

/-- An exponent: its mark, a sign or none, and digits. -/
def isExponent : List Char → Bool
  | mark :: rest =>
      let digits := match rest with
        | '+' :: digits | '-' :: digits => digits
        | digits => digits
      (mark == 'e' || mark == 'E') && !digits.isEmpty && digits.all Char.isDigit
  | [] => false

/-- The text of a number with a fraction, an exponent or both, or of a constant. -/
def isFloatLiteral (token : List Char) : Bool :=
  token == "NaN".toList || token == "Infinity".toList || token == "-Infinity".toList ||
    let unsigned := match token with
      | '-' :: unsigned => unsigned
      | unsigned => unsigned
    isWhole (unsigned.takeWhile Char.isDigit) &&
      match unsigned.dropWhile Char.isDigit with
      | '.' :: rest =>
          let exponent := rest.dropWhile Char.isDigit
          !(rest.takeWhile Char.isDigit).isEmpty && (exponent.isEmpty || isExponent exponent)
      | exponent => isExponent exponent

/-- A number's text with the mark of its exponent in lower case. -/
def lowerExponent (token : List Char) : List Char := token.map fun c => if c == 'E' then 'e' else c

/-- The number of a text, a float as it is read from the text. -/
def numberOf (readFloat : FloatToken → FloatToken) (token : List Char) : Option Json :=
  if isFloat : isFloatLiteral token = true ∧ isFloatText (lowerExponent token) = true then
    some (.float (readFloat
      ⟨String.ofList (lowerExponent token), by rw [String.toList_ofList]; exact isFloat.2⟩))
  else if isIntLiteral token then some (.int (intValue token))
  else none

/-- Decimal digits have no leading zero. -/
theorem isWhole_toDigits (n : Nat) : isWhole (Nat.toDigits 10 n) = true := by
  have positive : ∀ n, 0 < n → ∃ c rest, Nat.toDigits 10 n = c :: rest ∧ c ≠ '0' := by
    intro n
    induction n using Nat.strongRecOn with
    | ind n ih =>
        intro positive
        by_cases small : n < 10
        · have digit : ∀ n < 10, 0 < n → n.digitChar ≠ '0' := by decide
          exact ⟨n.digitChar, [], Nat.toDigits_of_lt_base small, digit n small positive⟩
        · obtain ⟨c, rest, digits, other⟩ := ih (n / 10) (by omega) (by omega)
          refine ⟨c, rest ++ [(n % 10).digitChar], ?_, other⟩
          rw [Nat.toDigits_of_base_le (by decide) (by omega), digits, List.cons_append]
  by_cases zero : n = 0
  · subst zero
    rw [Nat.toDigits_zero]
    rfl
  · obtain ⟨c, rest, digits, other⟩ := positive n (Nat.pos_of_ne_zero zero)
    have isDigit : ∀ d ∈ c :: rest, d.isDigit = true := fun d member =>
      Nat.isDigit_of_mem_toDigits (by decide) (by decide) (digits ▸ member)
    rw [digits]
    have whole : isWhole (c :: rest) = (c != '0' && c.isDigit && rest.all Char.isDigit) := by
      rw [isWhole]
      rintro rfl
      exact fun _ => other rfl
    rw [whole]
    simp only [bne_iff_ne.mpr other, isDigit c List.mem_cons_self, Bool.and_self, Bool.true_and,
      List.all_eq_true]
    exact fun d member => isDigit d (List.mem_cons_of_mem c member)

/-- No character of a written number is an upper-case mark. -/
theorem lowerExponent_of_number {token : List Char}
    (numeric : ∀ c ∈ token, isNumberChar c = true) : lowerExponent token = token := by
  have lower : ∀ c, isNumberChar c = true → (if c == 'E' then 'e' else c) = c := by
    intro c number
    by_cases mark : c = 'E'
    · subst mark
      exact absurd number (by decide)
    · rw [if_neg (by simpa using mark)]
  rw [lowerExponent]
  exact (List.map_congr_left fun c member => lower c (numeric c member)).trans (List.map_id token)

/-- An integer is read back from its text. -/
theorem numberOf_intText (readFloat : FloatToken → FloatToken) (i : Int) :
    numberOf readFloat (intText i) = some (.int i) := by
  have noFloat : ¬ (isFloatLiteral (intText i) = true
      ∧ isFloatText (lowerExponent (intText i)) = true) := by
    rintro ⟨-, isFloat⟩
    rw [lowerExponent_of_number (intText_numeric i)] at isFloat
    simp only [isFloatText, Bool.and_eq_true, List.any_eq_true, Bool.not_eq_true'] at isFloat
    obtain ⟨-, c, member, other⟩ := isFloat
    rw [intText_chars i c member] at other
    cases other
  rw [numberOf, dif_neg noFloat]
  cases i with
  | ofNat n =>
      have start : ∀ digits, Nat.toDigits 10 n ≠ '-' :: digits := fun digits same =>
        absurd (Nat.isDigit_of_mem_toDigits (by decide) (by decide)
          (same ▸ List.mem_cons_self : '-' ∈ Nat.toDigits 10 n)) (by decide)
      rw [intText_ofNat]
      have isInt : isIntLiteral (Nat.toDigits 10 n) = true := by
        rw [isIntLiteral]
        · exact isWhole_toDigits n
        · exact start
      have value : intValue (Nat.toDigits 10 n) = n := by
        rw [intValue]
        · rw [Nat.ofDigitChars_ten_toDigits]
        · exact start
      rw [if_pos isInt, value]
      rfl
  | negSucc n =>
      rw [intText_negSucc, isIntLiteral, isWhole_toDigits, if_pos rfl, intValue,
        Nat.ofDigitChars_ten_toDigits]
      rfl

/-- A float is read back from its text where it is written as it is read. -/
theorem numberOf_float {readFloat : FloatToken → FloatToken} {x : FloatToken}
    (literal : isFloatLiteral x.text.toList = true) (canonical : readFloat x = x) :
    numberOf readFloat x.text.toList = some (.float x) := by
  have same := lowerExponent_of_number (numeric_floatText x)
  have isFloat : isFloatLiteral x.text.toList = true
      ∧ isFloatText (lowerExponent x.text.toList) = true := by
    rw [same]
    exact ⟨literal, x.wellFormed⟩
  have token : (⟨String.ofList (lowerExponent x.text.toList), by
      rw [String.toList_ofList]
      exact isFloat.2⟩ : FloatToken) = x := by
    ext1
    change String.ofList (lowerExponent x.text.toList) = x.text
    rw [same, String.ofList_toList]
  rw [numberOf, dif_pos isFloat, token, canonical]

/-! ## Values -/

/-- Store an entry: an existing key keeps its place. -/
def store (entries : List (String × Json)) (key : String) (v : Json) : List (String × Json) :=
  if entries.any (fun entry => entry.1 == key) then
    entries.map fun entry => if entry.1 == key then (key, v) else entry
  else entries ++ [(key, v)]

/-- The entries of an object as they are read: of several with one key the last. -/
def storeAll (entries : List (String × Json)) : List (String × Json) :=
  entries.foldl (fun done entry => store done entry.1 entry.2) []

section Reader

variable (readFloat : FloatToken → FloatToken)

/-- Read a number: the longest run of its characters. -/
def readNumber (text : List Char) : Option (Json × List Char) :=
  (numberOf readFloat (text.takeWhile isNumeral)).map fun v => (v, text.dropWhile isNumeral)

/-- Read a string after its opening quote. -/
def readString (text : List Char) : Option (String × List Char) :=
  (scanString (text.length + 1) text).map fun (chars, rest) => (String.ofList chars, rest)

mutual

/-- Read a value that a text starts with. -/
def readValue : Nat → List Char → Option (Json × List Char)
  | 0, _ => none
  | _ + 1, [] => none
  | fuel + 1, c :: rest =>
      if startsNumber c then readNumber readFloat (c :: rest)
      else match c, rest with
        | '"', rest => (readString rest).map fun (s, rest) => (.str s, rest)
        | '[', rest =>
            match skipBlanks rest with
            | ']' :: rest => some (.list [], rest)
            | rest => (readItems fuel rest).map fun (items, rest) => (.list items, rest)
        | '\x7b', rest =>
            match skipBlanks rest with
            | '\x7d' :: rest => some (.obj [], rest)
            | rest =>
                (readEntries fuel rest).map fun (entries, rest) => (.obj (storeAll entries), rest)
        | 'n', 'u' :: 'l' :: 'l' :: rest => some (.null, rest)
        | 't', 'r' :: 'u' :: 'e' :: rest => some (.bool true, rest)
        | 'f', 'a' :: 'l' :: 's' :: 'e' :: rest => some (.bool false, rest)
        | _, _ => none

/-- Read the items of a list from the first one on. -/
def readItems : Nat → List Char → Option (List Json × List Char)
  | 0, _ => none
  | fuel + 1, text => do
      let (v, rest) ← readValue fuel text
      match skipBlanks rest with
      | ']' :: rest => some ([v], rest)
      | ',' :: rest =>
          (readItems fuel (skipBlanks rest)).map fun (items, rest) => (v :: items, rest)
      | _ => none

/-- Read the entries of an object from the first one on. -/
def readEntries : Nat → List Char → Option (List (String × Json) × List Char)
  | fuel + 1, '"' :: text => do
      let (key, rest) ← readString text
      match skipBlanks rest with
      | ':' :: rest => do
          let (v, rest) ← readValue fuel (skipBlanks rest)
          match skipBlanks rest with
          | '\x7d' :: rest => some ([(key, v)], rest)
          | ',' :: rest =>
              (readEntries fuel (skipBlanks rest)).map fun (entries, rest) =>
                ((key, v) :: entries, rest)
          | _ => none
      | _ => none
  | _, _ => none

end

/-- `json.loads`: the value of a whole text. -/
def loads (text : String) : Option Json :=
  match readValue readFloat (text.toList.length + 1) (skipBlanks text.toList) with
  | some (v, rest) => if skipBlanks rest = [] then some v else none
  | none => none

end Reader

/-! ## Reading back what was written -/

section RoundTrip

variable {readFloat : FloatToken → FloatToken}

/-- What follows a value does not continue a number. -/
def Delimited (rest : List Char) : Prop := ∀ c ∈ rest.head?, isNumeral c = false

/-- A character that no number holds ends one. -/
theorem Delimited.cons {c : Char} (other : isNumeral c = false) (rest : List Char) :
    Delimited (c :: rest) := by
  intro d member
  cases member
  exact other

/-- The end of the text ends a number. -/
theorem Delimited.nil : Delimited [] := fun _ member => by cases member

/-- What follows an item of a list is no part of a number. -/
theorem renderItems_delimited (items : List Json) (rest : List Char) :
    Delimited (renderItems items ++ rest) := by
  cases items with
  | nil => exact Delimited.cons (by decide) _
  | cons v items => exact Delimited.cons (by decide) _

/-- What follows an entry of an object is no part of a number. -/
theorem renderEntries_delimited (entries : List (String × Json)) (rest : List Char) :
    Delimited (renderEntries entries ++ rest) := by
  cases entries with
  | nil => exact Delimited.cons (by decide) _
  | cons entry entries => exact Delimited.cons (by decide) _

/-- A number is read up to where it ends. -/
theorem readNumber_append {token rest : List Char} {v : Json}
    (numeric : ∀ c ∈ token, isNumberChar c = true) (delimited : Delimited rest)
    (value : numberOf readFloat token = some v) :
    readNumber readFloat (token ++ rest) = some (v, rest) := by
  have numeral : ∀ c ∈ token, isNumeral c = true := fun c member => by
    rw [isNumeral, numeric c member, Bool.true_or]
  have none : rest.takeWhile isNumeral = [] ∧ rest.dropWhile isNumeral = rest := by
    cases rest with
    | nil => exact ⟨rfl, rfl⟩
    | cons c rest =>
        have other : isNumeral c = false := delimited c rfl
        exact ⟨List.takeWhile_cons_of_neg (by simp [other]),
          List.dropWhile_cons_of_neg (by simp [other])⟩
  rw [readNumber, List.takeWhile_append_of_pos numeral, List.dropWhile_append_of_pos numeral,
    none.1, none.2, List.append_nil, value]
  rfl

/-- A numeric token before what ends it is read as its number. -/
theorem readValue_number {token rest : List Char} {v : Json} {fuel : Nat}
    (starts : token.head?.any startsNumber = true)
    (numeric : ∀ c ∈ token, isNumberChar c = true) (delimited : Delimited rest)
    (value : numberOf readFloat token = some v) (enough : token.length ≤ fuel) :
    readValue readFloat fuel (token ++ rest) = some (v, rest) := by
  cases token with
  | nil => cases starts
  | cons c token =>
      have first : startsNumber c = true := starts
      cases fuel with
      | zero => cases enough
      | succ fuel =>
          have number : readValue readFloat (fuel + 1) (c :: (token ++ rest))
              = readNumber readFloat (c :: (token ++ rest)) := by
            rw [readValue.eq_def]
            exact if_pos first
          exact number.trans (readNumber_append numeric delimited value)

/-- A string is read back from its text. -/
theorem readString_escapes (s : String) (rest : List Char) :
    readString (s.toList.flatMap escapeChar ++ '"' :: rest) = some (s, rest) := by
  have length : (s.toList.flatMap escapeChar ++ '"' :: rest).length
      = (s.toList.flatMap escapeChar).length + (rest.length + 1) := List.length_append
  rw [readString, scanString_escapes _ (by omega)]
  exact congrArg some (Prod.ext (String.ofList_toList) rfl)

/-- A rendered text is its escaped characters between two quotes. -/
theorem renderString_append (s : String) (rest : List Char) :
    renderString s ++ rest = '"' :: (s.toList.flatMap escapeChar ++ '"' :: rest) := by
  rw [renderString, List.cons_append, List.append_assoc]
  rfl

/-- A text that starts with no blank is left as it is. -/
theorem skipBlanks_cons {c : Char} (visible : isBlank c = false) (rest : List Char) :
    skipBlanks (c :: rest) = c :: rest :=
  List.dropWhile_cons_of_neg (by simp [visible])

/-- A value's text starts with no blank, and not like the end of a list. -/
theorem render_head (v : Json) (rest : List Char) :
    ∃ c tail, render v ++ rest = c :: tail ∧ isBlank c = false ∧ c ≠ ']' := by
  have first := render_lead v rest
  cases text : render v ++ rest with
  | nil =>
      rw [text] at first
      cases first
  | cons c tail =>
      rw [text] at first
      have kind : leadOf c = lead v := Option.some.inj first
      refine ⟨c, tail, rfl, ?_, ?_⟩
      · by_contra blank
        rw [Bool.not_eq_false] at blank
        simp only [isBlank, Bool.or_eq_true, beq_iff_eq] at blank
        have none : lead v ≠ ' ' ∧ lead v ≠ '\t' ∧ lead v ≠ '\n' ∧ lead v ≠ '\r' := by
          rcases v with _ | (_ | _) | _ | _ | _ | _ | _ <;> simp [lead]
        rw [← kind] at none
        rcases blank with ((rfl | rfl) | rfl) | rfl
        exacts [none.1 rfl, none.2.1 rfl, none.2.2.1 rfl, none.2.2.2 rfl]
      · rintro rfl
        exact lead_ne_closing v kind.symm

/-- No rendered value begins with a blank. -/
theorem skipBlanks_render (v : Json) (rest : List Char) :
    skipBlanks (render v ++ rest) = render v ++ rest := by
  obtain ⟨c, tail, text, visible, -⟩ := render_head v rest
  rw [text]
  exact skipBlanks_cons visible tail

/-- Storing entries with distinct keys keeps them as they are. -/
theorem storeAll_of_nodup {entries : List (String × Json)}
    (distinct : (entries.map Prod.fst).Nodup) : storeAll entries = entries := by
  have build : ∀ (rest done : List (String × Json)), ((done ++ rest).map Prod.fst).Nodup →
      rest.foldl (fun done entry => store done entry.1 entry.2) done = done ++ rest := by
    intro rest
    induction rest with
    | nil => exact fun done _ => (List.append_nil done).symm
    | cons entry rest ih =>
        intro done distinct
        have new : ¬ done.any (fun other => other.1 == entry.1) = true := by
          simp only [List.any_eq_true, beq_iff_eq, not_exists, not_and]
          intro other member same
          rw [List.map_append, List.nodup_append'] at distinct
          exact distinct.2.2 (List.mem_map.mpr ⟨other, member, same⟩)
            (List.mem_map_of_mem List.mem_cons_self)
        rw [List.foldl_cons, store, if_neg new,
          ih (done ++ [(entry.1, entry.2)]) (by rw [List.append_assoc]; exact distinct),
          List.append_assoc]
        rfl
  exact build entries [] distinct

mutual

/-- **A value that can be read back**: the keys of each object are distinct, and each float is
written as a number that is read as this float. -/
def Readable (readFloat : FloatToken → FloatToken) : Json → Prop
  | .float x => isFloatLiteral x.text.toList = true ∧ readFloat x = x
  | .list items => readableItems readFloat items
  | .obj entries => (entries.map Prod.fst).Nodup ∧ readableEntries readFloat entries
  | _ => True

/-- Items that can be read back. -/
def readableItems (readFloat : FloatToken → FloatToken) : List Json → Prop
  | [] => True
  | v :: rest => Readable readFloat v ∧ readableItems readFloat rest

/-- Entries whose values can be read back. -/
def readableEntries (readFloat : FloatToken → FloatToken) : List (String × Json) → Prop
  | [] => True
  | (_, v) :: rest => Readable readFloat v ∧ readableEntries readFloat rest

end

/-- A list that is not empty is read like its items. -/
theorem readValue_list {text : List Char} {fuel : Nat} {c : Char} {tail : List Char}
    (starts : text = c :: tail) (visible : isBlank c = false) (open' : c ≠ ']') :
    readValue readFloat (fuel + 1) ('[' :: text)
      = (readItems readFloat fuel text).map fun (items, rest) => (.list items, rest) := by
  subst starts
  have notNumber : startsNumber '[' = false := by decide
  rw [readValue, notNumber, if_neg Bool.false_ne_true]
  dsimp only
  rw [skipBlanks_cons visible]
  split
  · next same =>
      cases same
      exact absurd rfl open'
  · rfl

/-- An object that is not empty is read like its entries. -/
theorem readValue_obj {text : List Char} {fuel : Nat} :
    readValue readFloat (fuel + 1) ('\x7b' :: '"' :: text)
      = (readEntries readFloat fuel ('"' :: text)).map fun (entries, rest) =>
        (.obj (storeAll entries), rest) := by
  have notNumber : startsNumber '\x7b' = false := by decide
  rw [readValue, notNumber, if_neg Bool.false_ne_true]
  dsimp only
  rw [skipBlanks_cons (by decide)]
  rfl

/-- The first entry is read, and then the others or the end. -/
theorem readEntries_step {key : String} {v : Json} {fuel : Nat} {rest : List Char}
    (value : readValue readFloat fuel (render v ++ rest) = some (v, rest)) :
    readEntries readFloat (fuel + 1) (renderString key ++ ':' :: (render v ++ rest))
      = match skipBlanks rest with
        | '\x7d' :: rest => some ([(key, v)], rest)
        | ',' :: rest => (readEntries readFloat fuel (skipBlanks rest)).map fun (entries, rest) =>
            ((key, v) :: entries, rest)
        | _ => none := by
  rw [renderString_append, readEntries, readString_escapes]
  simp only [Option.bind_eq_bind, Option.bind_some]
  rw [skipBlanks_cons (by decide)]
  simp only
  rw [skipBlanks_render, value, Option.bind_some]

/-- A string's text has its two quotes. -/
theorem renderString_length (s : String) : 2 ≤ (renderString s).length := by
  rw [renderString, List.length_cons, List.length_append, List.length_singleton]
  omega

mutual

/-- **Reading inverts writing**, whatever follows the value. -/
theorem readValue_render (v : Json) (readable : Readable readFloat v) {fuel : Nat}
    (enough : (render v).length ≤ fuel) {rest : List Char} (delimited : Delimited rest) :
    readValue readFloat fuel (render v ++ rest) = some (v, rest) := by
  match v, readable with
  | .null, _ | .bool true, _ | .bool false, _ =>
      cases fuel with
      | zero => cases enough
      | succ fuel => rfl
  | .int i, _ =>
      refine readValue_number ?_ (intText_numeric i) delimited (numberOf_intText readFloat i) enough
      obtain ⟨c, tail, text⟩ := List.exists_cons_of_ne_nil (intText_ne_nil i)
      have digit := intText_chars i c (text ▸ List.mem_cons_self)
      rw [render, text, List.head?_cons, Option.any_some, startsNumber, digit, Bool.true_or,
        Bool.true_or]
  | .float x, readable =>
      refine readValue_number ?_ (numeric_floatText x) delimited
        (numberOf_float readable.1 readable.2) enough
      have wf := x.wellFormed
      simp only [isFloatText, Bool.and_eq_true] at wf
      exact wf.1.1
  | .str s, _ =>
      cases fuel with
      | zero => cases enough
      | succ fuel =>
          rw [render, renderString_append]
          have text := readString_escapes s rest
          have notNumber : startsNumber '"' = false := by decide
          rw [readValue, notNumber, if_neg Bool.false_ne_true]
          dsimp only
          rw [text]
          rfl
  | .list [], _ | .obj [], _ =>
      cases fuel with
      | zero => cases enough
      | succ fuel => rfl
  | .list (first :: items), readable =>
      cases fuel with
      | zero => cases enough
      | succ fuel =>
          rw [render, List.length_cons, List.length_append] at enough
          rw [render, List.cons_append, List.append_assoc]
          obtain ⟨c, tail, text, visible, notClosed⟩ :=
            render_head first (renderItems items ++ rest)
          rw [readValue_list text visible notClosed,
            readItems_render first items readable.1 readable.2 (by omega) rest]
          rfl
  | .obj ((key, first) :: entries), readable =>
      cases fuel with
      | zero => cases enough
      | succ fuel =>
          rw [render, List.length_cons, List.length_append, List.length_cons, List.length_append]
            at enough
          rw [render, List.cons_append, List.append_assoc, List.cons_append, List.append_assoc]
          have entriesText := readEntries_render key first entries readable.2.1 readable.2.2
            (show _ ≤ fuel by omega) rest
          rw [renderString_append] at entriesText ⊢
          rw [readValue_obj, entriesText]
          dsimp only [Option.map_some]
          rw [storeAll_of_nodup readable.1]
termination_by sizeOf v

/-- Rendered items are read back, with fuel for each of their characters. -/
theorem readItems_render (first : Json) (items : List Json) (readable : Readable readFloat first)
    (readableRest : readableItems readFloat items) {fuel : Nat}
    (enough : (render first).length + (renderItems items).length ≤ fuel) (rest : List Char) :
    readItems readFloat fuel (render first ++ (renderItems items ++ rest))
      = some (first :: items, rest) := by
  match items, readableRest with
  | [], _ =>
      rw [renderItems, List.length_singleton] at enough
      cases fuel with
      | zero => omega
      | succ fuel =>
          rw [readItems, readValue_render first readable (by omega) (renderItems_delimited [] rest)]
          rfl
  | next :: items, readableRest =>
      rw [renderItems, List.length_cons, List.length_append] at enough
      cases fuel with
      | zero => omega
      | succ fuel =>
          rw [renderItems, List.cons_append, List.append_assoc, readItems,
            readValue_render first readable (by omega) (Delimited.cons (by decide) _)]
          simp only [Option.bind_eq_bind, Option.bind_some]
          rw [skipBlanks_cons (by decide)]
          simp only
          rw [skipBlanks_render,
            readItems_render next items readableRest.1 readableRest.2 (by omega) rest]
          rfl
termination_by 1 + sizeOf first + sizeOf items

/-- Rendered entries are read back, with fuel for each of their characters. -/
theorem readEntries_render (key : String) (first : Json) (entries : List (String × Json))
    (readable : Readable readFloat first) (readableRest : readableEntries readFloat entries)
    {fuel : Nat}
    (enough : (renderString key).length + ((render first).length
      + (renderEntries entries).length) ≤ fuel) (rest : List Char) :
    readEntries readFloat fuel
        (renderString key ++ ':' :: (render first ++ (renderEntries entries ++ rest)))
      = some ((key, first) :: entries, rest) := by
  have quoted := renderString_length key
  match entries, readableRest with
  | [], _ =>
      cases fuel with
      | zero => omega
      | succ fuel =>
          rw [readEntries_step (readValue_render first readable (by omega)
            (renderEntries_delimited [] rest))]
          rfl
  | (key', next) :: entries, readableRest =>
      rw [renderEntries, List.length_cons, List.length_append, List.length_cons,
        List.length_append] at enough
      cases fuel with
      | zero => omega
      | succ fuel =>
          rw [readEntries_step (readValue_render first readable (by omega)
            (renderEntries_delimited ((key', next) :: entries) rest))]
          rw [renderEntries, List.cons_append, List.append_assoc, List.cons_append,
            List.append_assoc, skipBlanks_cons (by decide)]
          simp only
          have entriesText := readEntries_render key' next entries readableRest.1 readableRest.2
            (show _ ≤ fuel by omega) rest
          rw [renderString_append] at entriesText ⊢
          rw [skipBlanks_cons (by decide), entriesText]
          rfl
termination_by 1 + sizeOf first + sizeOf entries

end

end RoundTrip

/-! ## Normal forms -/

section Norm

variable {readFloat : FloatToken → FloatToken}

/-- Entries are normalised one by one, under the keys they have. -/
theorem normEntries_eq_map (entries : List (String × Json)) :
    normEntries entries = entries.map fun entry => (entry.1, norm entry.2) := by
  induction entries with
  | nil => rfl
  | cons entry rest ih => rw [normEntries, ih, List.map_cons]

/-- Entries in the order `sort_keys=True` writes them. -/
abbrev sortEntries (entries : List (String × Json)) : List (String × Json) :=
  entries.insertionSort fun e f => e.1 ≤ f.1

/-- The normal form of an object has normalised entries in the order of their keys. -/
theorem norm_obj (entries : List (String × Json)) :
    norm (.obj entries) = .obj (sortEntries (normEntries entries)) := rfl

/-- Sorted entries are sorted. -/
theorem sortEntries_sorted (entries : List (String × Json)) :
    (sortEntries entries).Pairwise fun e f => e.1 ≤ f.1 := by
  have total : Std.Total fun e f : String × Json => e.1 ≤ f.1 := ⟨fun e f => le_total e.1 f.1⟩
  have trans : IsTrans (String × Json) fun e f => e.1 ≤ f.1 := ⟨fun _ _ _ => le_trans⟩
  exact List.pairwise_insertionSort _ entries

mutual

/-- A normal form is its own normal form. -/
theorem norm_norm (v : Json) : norm (norm v) = norm v := by
  match v with
  | .null | .bool _ | .int _ | .float _ | .str _ => rfl
  | .list items =>
      rw [norm, norm, normItems_normItems items]
  | .obj entries =>
      have fixed : normEntries (sortEntries (normEntries entries))
          = sortEntries (normEntries entries) := by
        rw [normEntries_eq_map]
        refine (List.map_congr_left fun entry member => ?_).trans (List.map_id _)
        have inside : entry ∈ normEntries entries := (List.mem_insertionSort _).mp member
        exact norm_entry entries entry inside
      rw [norm_obj, norm_obj, fixed, sortEntries,
        List.Pairwise.insertionSort_eq (sortEntries_sorted _)]

/-- The normal form of items is normal. -/
theorem normItems_normItems (items : List Json) : normItems (normItems items) = normItems items := by
  match items with
  | [] => rfl
  | v :: rest => rw [normItems, normItems, norm_norm v, normItems_normItems rest]

/-- The entries of a normal form are normal. -/
theorem norm_entry (entries : List (String × Json)) (entry : String × Json)
    (member : entry ∈ normEntries entries) : (entry.1, norm entry.2) = entry := by
  match entries with
  | [] => cases member
  | (key, v) :: rest =>
      rcases List.mem_cons.mp member with rfl | member
      · rw [norm_norm v]
      · exact norm_entry rest entry member

end

/-- Entries with the same distinct keys in the same order are the same where they are once sorted. -/
theorem sortEntries_inj {entries others : List (String × Json)}
    (keys : entries.map Prod.fst = others.map Prod.fst) (distinct : (others.map Prod.fst).Nodup)
    (same : sortEntries entries = sortEntries others) : entries = others := by
  have left := List.perm_insertionSort (fun e f : String × Json => e.1 ≤ f.1) entries
  have right := List.perm_insertionSort (fun e f : String × Json => e.1 ≤ f.1) others
  have perm : entries.Perm others := by
    rw [sortEntries, sortEntries] at same
    rw [same] at left
    exact left.symm.trans right
  clear same left right
  induction entries generalizing others with
  | nil => exact (List.Perm.nil_eq perm)
  | cons entry rest ih =>
      cases others with
      | nil => exact absurd perm.length_eq (by simp)
      | cons other others =>
          rw [List.map_cons, List.map_cons, List.cons.injEq] at keys
          rw [List.map_cons, List.nodup_cons] at distinct
          have first : entry = other := by
            rcases List.mem_cons.mp (perm.subset List.mem_cons_self) with same | later
            · exact same
            · exact absurd (List.mem_map_of_mem later) (keys.1 ▸ distinct.1)
          subst first
          rw [ih keys.2 distinct.2 perm.cons_inv]

/-- Entries can be read back one by one. -/
theorem readableEntries_iff (entries : List (String × Json)) :
    readableEntries readFloat entries ↔ ∀ entry ∈ entries, Readable readFloat entry.2 := by
  induction entries with
  | nil => exact iff_of_true trivial fun _ member => by cases member
  | cons entry rest ih => rw [readableEntries, ih, List.forall_mem_cons]

/-- Items can be read back one by one. -/
theorem readableItems_iff (items : List Json) :
    readableItems readFloat items ↔ ∀ v ∈ items, Readable readFloat v := by
  induction items with
  | nil => exact iff_of_true trivial fun _ member => by cases member
  | cons v rest ih => rw [readableItems, ih, List.forall_mem_cons]

mutual

/-- A value is readable exactly where its normal form is. -/
theorem readable_norm (v : Json) : Readable readFloat (norm v) ↔ Readable readFloat v := by
  match v with
  | .null | .bool _ | .int _ | .float _ | .str _ => exact Iff.rfl
  | .list items =>
      rw [norm, Readable, Readable]
      exact readableItems_norm items
  | .obj entries =>
      have same := List.perm_insertionSort (fun e f : String × Json => e.1 ≤ f.1)
        (normEntries entries)
      have keys : (normEntries entries).map Prod.fst = entries.map Prod.fst := by
        rw [normEntries_eq_map, List.map_map]
        rfl
      rw [norm_obj, Readable, Readable, (same.map Prod.fst).nodup_iff, keys]
      refine and_congr_right fun _ => ?_
      rw [readableEntries_iff, ← readableEntries_norm entries, readableEntries_iff]
      exact forall_congr' fun entry => by rw [same.mem_iff]

/-- The normal form of items can be read back where they can. -/
theorem readableItems_norm (items : List Json) :
    readableItems readFloat (normItems items) ↔ readableItems readFloat items := by
  match items with
  | [] => exact Iff.rfl
  | v :: rest => exact and_congr (readable_norm v) (readableItems_norm rest)

/-- The normal form of entries can be read back where they can. -/
theorem readableEntries_norm (entries : List (String × Json)) :
    readableEntries readFloat (normEntries entries) ↔ readableEntries readFloat entries := by
  match entries with
  | [] => exact Iff.rfl
  | (_, v) :: rest => exact and_congr (readable_norm v) (readableEntries_norm rest)

end

/-- A text of blanks has nothing but blanks. -/
theorem skipBlanks_of_blank {text : List Char} (blank : text.all isBlank = true) :
    skipBlanks text = [] := by
  rw [skipBlanks, List.dropWhile_eq_nil_iff]
  exact List.all_eq_true.mp blank

/-- A text in which no value begins after its leading blanks is not read. -/
theorem loads_eq_none {text : String}
    (other : ∀ c ∈ (skipBlanks text.toList).head?, startsNumber c = false
      ∧ c ∉ ['"', '[', '\x7b', 'n', 't', 'f']) : loads readFloat text = none := by
  rw [loads]
  cases start : skipBlanks text.toList with
  | nil => rfl
  | cons c rest =>
      obtain ⟨notNumber, notOpen⟩ := other c (by rw [start]; exact rfl)
      simp only [List.mem_cons, List.not_mem_nil, or_false, not_or] at notOpen
      have unread : readValue readFloat (text.toList.length + 1) (c :: rest) = none := by
        rw [readValue, notNumber, if_neg Bool.false_ne_true]
        all_goals grind
      rw [unread]

/-- **Reading a canonical text**: a readable value is read back as its normal form, whatever blanks
follow its text. -/
theorem loads_dumps {v : Json} (readable : Readable readFloat v) {blanks : String}
    (blank : blanks.toList.all isBlank = true) :
    loads readFloat (dumps v ++ blanks) = some (norm v) := by
  have text : (dumps v ++ blanks).toList = render (norm v) ++ blanks.toList := by
    rw [String.toList_append, dumps, String.toList_ofList]
  have delimited : Delimited blanks.toList := by
    intro c member
    have blank := List.all_eq_true.mp blank c (List.mem_of_mem_head? member)
    simp only [isBlank, Bool.or_eq_true, beq_iff_eq] at blank
    rcases blank with ((rfl | rfl) | rfl) | rfl
    all_goals decide
  have read := readValue_render (norm v) ((readable_norm v).mpr readable)
    (show _ ≤ (render (norm v) ++ blanks.toList).length + 1 by rw [List.length_append]; omega)
    delimited
  rw [loads, text, skipBlanks_render, read]
  exact if_pos (skipBlanks_of_blank blank)

end Norm

/-! ## The characters of a text -/

/-- A character a canonical text can contain: printable ASCII. -/
def isPrintable (c : Char) : Bool := ' ' ≤ c ∧ c ≤ '~'

/-- The characters of numbers are printable. -/
theorem isPrintable_of_number {c : Char} (number : isNumberChar c = true) :
    isPrintable c = true := by
  simp only [isNumberChar, Bool.or_eq_true, List.contains_iff_mem] at number
  rw [isPrintable, decide_eq_true_eq]
  rcases number with digit | other
  · rw [Char.isDigit, Bool.and_eq_true, decide_eq_true_eq, decide_eq_true_eq] at digit
    have low : ' ' ≤ '0' := by decide
    have high : '9' ≤ '~' := by decide
    exact ⟨le_trans low digit.1, le_trans digit.2 high⟩
  · have marks : ∀ c ∈ "+-.eNaInfity".toList, decide (' ' ≤ c ∧ c ≤ '~') = true :=
      List.all_eq_true.mp (by decide)
    exact of_decide_eq_true (marks c other)

/-- Hexadecimal digits are printable. -/
theorem isPrintable_hexDigit (n : Nat) : isPrintable (hexDigit n) = true := by
  have digits : ∀ c ∈ "0123456789abcdef".toList, isPrintable c = true :=
    List.all_eq_true.mp (by decide)
  rw [hexDigit, List.getD_eq_getElem?_getD]
  cases found : "0123456789abcdef".toList[n]? with
  | none => rfl
  | some c => exact digits c (List.mem_of_getElem? found)

/-- An escaped unit is printable, whatever it stands for. -/
theorem isPrintable_escapeUnit (n : Nat) : ∀ c ∈ escapeUnit n, isPrintable c = true := by
  intro c member
  simp only [escapeUnit, hex4, List.mem_cons, List.not_mem_nil, or_false] at member
  rcases member with rfl | rfl | rfl | rfl | rfl | rfl
  exacts [by decide, by decide, isPrintable_hexDigit _, isPrintable_hexDigit _,
    isPrintable_hexDigit _, isPrintable_hexDigit _]

/-- A character is written with printable ASCII. -/
theorem isPrintable_escapeChar (c : Char) : ∀ d ∈ escapeChar c, isPrintable d = true := by
  unfold escapeChar
  split_ifs with h1 h2 h3 h4 h5 h6 h7 printable small
  all_goals try exact List.all_eq_true.mp (by decide)
  · intro d member
    rw [List.mem_singleton.mp member, isPrintable, decide_eq_true_eq]
    exact printable
  · exact isPrintable_escapeUnit _
  · intro d member
    rcases List.mem_append.mp member with member | member
    exacts [isPrintable_escapeUnit _ d member, isPrintable_escapeUnit _ d member]

/-- A rendered text is printable, whatever characters it holds. -/
theorem isPrintable_renderString (s : String) : ∀ c ∈ renderString s, isPrintable c = true := by
  intro c member
  simp only [renderString, List.mem_cons, List.mem_append, List.mem_flatMap, List.not_mem_nil,
    or_false] at member
  rcases member with rfl | ⟨d, -, member⟩ | rfl
  exacts [by decide, isPrintable_escapeChar d c member, by decide]

/-- Texts that consist of parts are printable where their parts are. -/
theorem isPrintable_append {first second : List Char}
    (here : ∀ c ∈ first, isPrintable c = true) (there : ∀ c ∈ second, isPrintable c = true) :
    ∀ c ∈ first ++ second, isPrintable c = true :=
  List.forall_mem_append.mpr ⟨here, there⟩

/-- Printable characters in a row. -/
theorem isPrintable_cons {c : Char} {rest : List Char} (here : isPrintable c = true)
    (there : ∀ d ∈ rest, isPrintable d = true) : ∀ d ∈ c :: rest, isPrintable d = true :=
  List.forall_mem_cons.mpr ⟨here, there⟩

mutual

/-- **A value's text is printable ASCII**: it has no line breaks. -/
theorem isPrintable_render (v : Json) : ∀ c ∈ render v, isPrintable c = true := by
  match v with
  | .null | .bool true | .bool false | .list [] | .obj [] => exact List.all_eq_true.mp (by decide)
  | .int i => exact fun c member => isPrintable_of_number (intText_numeric i c member)
  | .float x => exact fun c member => isPrintable_of_number (numeric_floatText x c member)
  | .str s => exact isPrintable_renderString s
  | .list (v :: rest) =>
      exact isPrintable_cons (by decide)
        (isPrintable_append (isPrintable_render v) (isPrintable_renderItems rest))
  | .obj ((key, v) :: rest) =>
      exact isPrintable_cons (by decide) (isPrintable_append (isPrintable_renderString key)
        (isPrintable_cons (by decide)
          (isPrintable_append (isPrintable_render v) (isPrintable_renderEntries rest))))

/-- Rendered items are printable. -/
theorem isPrintable_renderItems (items : List Json) :
    ∀ c ∈ renderItems items, isPrintable c = true := by
  match items with
  | [] => exact List.all_eq_true.mp (by decide)
  | v :: rest =>
      exact isPrintable_cons (by decide)
        (isPrintable_append (isPrintable_render v) (isPrintable_renderItems rest))

/-- Rendered entries are printable. -/
theorem isPrintable_renderEntries (entries : List (String × Json)) :
    ∀ c ∈ renderEntries entries, isPrintable c = true := by
  match entries with
  | [] => exact List.all_eq_true.mp (by decide)
  | (key, v) :: rest =>
      exact isPrintable_cons (by decide) (isPrintable_append (isPrintable_renderString key)
        (isPrintable_cons (by decide)
          (isPrintable_append (isPrintable_render v) (isPrintable_renderEntries rest))))

end

/-- **What is written is printable**: no line break, nor any other control character, is in it. -/
theorem isPrintable_dumps (v : Json) : ∀ c ∈ (dumps v).toList, isPrintable c = true := by
  rw [dumps, String.toList_ofList]
  exact isPrintable_render (norm v)

end Json

end AgenticKVM.Lib
