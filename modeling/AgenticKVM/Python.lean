import AgenticKVM.Lib.Json

/-! # The parts of Python the control plane rests on

Exceptions, `datetime` values, the dynamically typed values a request can carry, and, as one
structure of parameters (`Stdlib`), the functions whose own definition plays no part: hashing,
time-zone tables, Unicode case mapping, `repr`, date parsing, base64 and the vendored Ed25519
arithmetic. Everything that is proved holds for every such library. -/

namespace AgenticKVM

open Lib (Json FloatToken)

/-- The exceptions the control plane raises or meets, all of them subclasses of `Exception`.
Subclasses of `ValueError` and `RuntimeError` that the code declares are raised as those. -/
inductive PyExc
  | valueError (message : String)
  | typeError (message : String)
  | runtimeError (message : String)
  | keyError (message : String)
  | overflowError (message : String)
  | other (name message : String)
deriving DecidableEq

/-- `if condition: raise e`. -/
def raiseIf (condition : Prop) [Decidable condition] (e : PyExc) : Except PyExc Unit :=
  if condition then .error e else .ok ()

@[simp] theorem raiseIf_eq_ok {condition : Prop} [Decidable condition] {e : PyExc} {u : Unit} :
    raiseIf condition e = .ok u ↔ ¬ condition := by
  unfold raiseIf
  split <;> simp_all

/-- Where the condition fails nothing is raised. -/
theorem raiseIf_of_not {condition : Prop} [Decidable condition] {e : PyExc}
    (not : ¬ condition) : raiseIf condition e = .ok () :=
  if_neg not

/-! ## Time -/

/-- A `datetime`: the microseconds of its wall clock since 0001-01-01T00:00, and its UTC offset in
microseconds when it is timezone-aware. -/
structure Datetime where
  wall : Int
  utcoffset : Option Int
deriving DecidableEq

namespace Datetime

/-- The wall clock of `datetime.max`. -/
def maxWall : Int := 315537897599999999

/-- The `datetime` with this wall clock and offset, where the year stays within 1 and 9999. -/
def ofWall (wall : Int) (utcoffset : Option Int) : Except PyExc Datetime :=
  if 0 ≤ wall ∧ wall ≤ maxWall then .ok ⟨wall, utcoffset⟩
  else .error (.overflowError "date value out of range")

/-- Whether the value carries a time zone (`tzinfo is not None`). -/
def aware (t : Datetime) : Bool := t.utcoffset.isSome

/-- `t + timedelta(seconds=seconds)`. -/
def addSeconds (t : Datetime) (seconds : Int) : Except PyExc Datetime :=
  ofWall (t.wall + seconds * 1000000) t.utcoffset

/-- `t < u`: aware values are compared as instants, naive ones by their wall clocks, and a naive
value with an aware one raises. -/
def lt (t u : Datetime) : Except PyExc Bool :=
  match t.utcoffset, u.utcoffset with
  | some o, some p => .ok (t.wall - o < u.wall - p)
  | none, none => .ok (t.wall < u.wall)
  | _, _ => .error (.typeError "can't compare offset-naive and offset-aware datetimes")

/-- `t >= u`. -/
def ge (t u : Datetime) : Except PyExc Bool := (lt t u).map not

/-- `t <= u`. -/
def le (t u : Datetime) : Except PyExc Bool := (lt u t).map not

theorem lt_of_aware {t u : Datetime} {o p : Int} (ht : t.utcoffset = some o)
    (hu : u.utcoffset = some p) : lt t u = .ok (decide (t.wall - o < u.wall - p)) := by
  simp only [lt, ht, hu]

/-- `t >= u` fails exactly where `t < u` holds. -/
theorem ge_eq_false {t u : Datetime} : ge t u = .ok false ↔ lt t u = .ok true := by
  unfold ge
  cases lt t u with
  | error e => simp [Except.map]
  | ok before => cases before <;> simp [Except.map]

/-- `t >= u` holds exactly where `t < u` fails. -/
theorem ge_eq_true {t u : Datetime} : ge t u = .ok true ↔ lt t u = .ok false := by
  unfold ge
  cases lt t u with
  | error e => simp [Except.map]
  | ok before => cases before <;> simp [Except.map]

end Datetime

/-! ## Values -/

/-- A value of type `Any`. A set is listed in iteration order; an object is any other value, with
the name of its type and its `str`. -/
inductive PyValue
  | none
  | bool (b : Bool)
  | int (i : Int)
  | float (x : FloatToken)
  | str (s : String)
  | bytes (data : List UInt8)
  | list (items : List PyValue)
  | tuple (items : List PyValue)
  | set (items : List PyValue)
  | dict (entries : List (PyValue × PyValue))
  | object (typeName text : String)

/-- The entries of a `Mapping[str, Any]`. Nothing enforces the annotation on the keys. -/
abbrev Params := List (PyValue × PyValue)

/-- The entries of a mapping with strings as keys. -/
def strEntries (entries : List (String × PyValue)) : Params :=
  entries.map fun entry => (.str entry.1, entry.2)

/-- A key of a mapping by its text. -/
def paramGet (entries : Params) (key : String) : Option PyValue :=
  (entries.find? fun entry => match entry.1 with
    | .str s => s = key
    | _ => false).map Prod.snd

namespace PyValue

mutual

/-- A JSON value as `json.loads` returns it. -/
def ofJson : Json → PyValue
  | .null => none
  | .bool b => bool b
  | .int i => int i
  | .float x => float x
  | .str s => str s
  | .list items => list (ofItems items)
  | .obj entries => dict (ofEntries entries)

def ofItems : List Json → List PyValue
  | [] => []
  | v :: rest => ofJson v :: ofItems rest

/-- The entries of a JSON object as a mapping. -/
def ofEntries : List (String × Json) → List (PyValue × PyValue)
  | [] => []
  | (key, v) :: rest => (str key, ofJson v) :: ofEntries rest

end

/-- `type(value).__name__`. -/
def typeName : PyValue → String
  | none => "NoneType"
  | bool _ => "bool"
  | int _ => "int"
  | float _ => "float"
  | str _ => "str"
  | bytes _ => "bytes"
  | list _ => "list"
  | tuple _ => "tuple"
  | set _ => "set"
  | dict _ => "dict"
  | object typeName _ => typeName

end PyValue

/-- The library functions that are parameters of the model. -/
structure Stdlib where
  /-- `hashlib.sha256(text.encode("utf-8")).hexdigest()`. -/
  sha256 : String → String
  /-- `str(value)` of a value that is no string. -/
  str : PyValue → String
  /-- `repr` of a string. -/
  repr : String → String
  /-- `str.lower`. -/
  lower : String → String
  /-- `sorted`, which raises on values that do not compare. -/
  sorted : List PyValue → Except PyExc (List PyValue)
  /-- The UTC offset of the local time zone at a wall clock, for naive values. -/
  localOffset : Int → Except PyExc Int
  /-- `datetime.fromisoformat`, which raises `ValueError` where this is `none`. -/
  fromisoformat : String → Option Datetime
  /-- `base64.urlsafe_b64decode`, which raises `ValueError` where this is `none`. -/
  urlsafeB64decode : String → Option (List UInt8)
  /-- `ed25519_verify` of a public key, the UTF-8 bytes of a message and a signature. -/
  ed25519Verify : List UInt8 → String → List UInt8 → Bool

variable (std : Stdlib)

/-- `t.astimezone(UTC)`: a naive value is taken as local time. -/
def Datetime.astimezoneUtc (t : Datetime) : Except PyExc Datetime :=
  match t.utcoffset with
  | some offset => ofWall (t.wall - offset) (some 0)
  | none => do
      let offset ← std.localOffset t.wall
      ofWall (t.wall - offset) (some 0)

/-- `str(value)`. -/
def pyStr : PyValue → String
  | .str s => s
  | value => std.str value

/-- `str(value)` of a JSON value. -/
def jsonStr (value : Json) : String := pyStr std (PyValue.ofJson value)

@[simp] theorem jsonStr_str (s : String) : jsonStr std (.str s) = s := rfl

/-- The truth value of a JSON value: `None`, `False`, zeros and empty texts and containers are
false. -/
def truthy : Json → Bool
  | .null => false
  | .bool b => b
  | .int i => i ≠ 0
  | .float x => !(x.text.toList.all fun c => c ∈ ['0', '.', '-'])
  | .str s => s ≠ ""
  | .list items => !items.isEmpty
  | .obj entries => !entries.isEmpty

/-- `first or second`. -/
def pyOr (first second : Json) : Json := if truthy first then first else second

/-- The characters `str.strip` removes. -/
def isSpace (c : Char) : Bool :=
  let n := c.toNat
  (0x09 ≤ n && n ≤ 0x0d) || (0x1c ≤ n && n ≤ 0x20) || n == 0x85 || n == 0xa0 || n == 0x1680
    || (0x2000 ≤ n && n ≤ 0x200a) || n == 0x2028 || n == 0x2029 || n == 0x202f || n == 0x205f
    || n == 0x3000

/-- `str.strip()`. -/
def strip (s : String) : String :=
  String.ofList (((s.toList.dropWhile isSpace).reverse.dropWhile isSpace).reverse)

/-- `s.replace(old, new)` for single characters. -/
def replaceChar (old new : Char) (s : String) : String :=
  String.ofList (s.toList.map fun c => if c = old then new else c)

/-- Store a value in a `dict`: an existing key keeps its place. -/
def dictSet {β : Type} (entries : List (String × β)) (key : String) (value : β) :
    List (String × β) :=
  if entries.any (fun entry => entry.1 == key) then
    entries.map fun entry => if entry.1 == key then (key, value) else entry
  else entries ++ [(key, value)]

end AgenticKVM
