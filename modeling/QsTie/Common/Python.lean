import Mathlib.Algebra.Group.Int.Defs
import Mathlib.Algebra.Group.Nat.Defs
import Mathlib.Data.List.Infix
import Mathlib.Data.Rat.Defs

/-!
# The Python values and exceptions the gateways handle

Byte strings are lists of bytes.  `PyVal` is the plain data that `json.loads` and
`yaml.safe_load` build; a finite float is kept as its exact value.  An exception
is its class and its text: the handlers of both gateways look only at the class.
-/

namespace QsTie

abbrev Bytes := List UInt8

/-! ### Exceptions -/

inductive ExcClass where
  | oversizedFrameError
  | malformedFrameError
  | invalidMessageTypeError
  | envelopeError
  | structError
  | keyError
  | typeError
  | valueError
  | attributeError
  | overflowError
  | fileNotFoundError
  | timeoutError
  | connectionRefusedError
  | other (name : String)
deriving DecidableEq, Repr

structure PyExc where
  cls : ExcClass
  msg : String
deriving DecidableEq, Repr

/-- The classes of the frame-error handler of `GatewayProtocol.handle_connection`. -/
def PyExc.isFrameError (e : PyExc) : Bool :=
  e.cls == .oversizedFrameError || e.cls == .malformedFrameError ||
    e.cls == .invalidMessageTypeError

/-- `json.JSONDecodeError`, a class of its own below `ValueError`. -/
def PyExc.isJsonDecodeError (e : PyExc) : Bool := e.cls == .other "JSONDecodeError"

/-- A `do` block that ends has got through its first statement. -/
theorem except_bind_eq_ok {α β : Type} {x : Except PyExc α} {f : α → Except PyExc β} {b : β} :
    x >>= f = .ok b ↔ ∃ a, x = .ok a ∧ f a = .ok b := by
  cases x with
  | error e => simp [bind, Except.bind]
  | ok a => simp [bind, Except.bind]

/-! ### Plain data -/

inductive PyVal where
  | none
  | bool (b : Bool)
  | int (i : Int)
  | float (q : ℚ)
  | str (s : String)
  | list (items : List PyVal)
  | dict (items : List (PyVal × PyVal))

/-- The entries of a `dict`.  An assignment goes to the front, and a lookup takes the
    first entry of its key. -/
abbrev PyDict := List (PyVal × PyVal)

namespace PyVal

def isStr (v : PyVal) (s : String) : Bool :=
  match v with
  | .str s' => s' == s
  | _ => false

@[simp] theorem isStr_iff {v : PyVal} {s : String} : v.isStr s = true ↔ v = .str s := by
  cases v <;> simp [isStr]

/-- `bool(v)`. -/
def truthy : PyVal → Bool
  | .none => false
  | .bool b => b
  | .int i => i != 0
  | .float q => q != 0
  | .str s => s != ""
  | .list items => !items.isEmpty
  | .dict items => !items.isEmpty

/-- Lists and dicts cannot be members of a set or keys of a dict. -/
def hashable : PyVal → Bool
  | .list _ => false
  | .dict _ => false
  | _ => true

/-- The number a scalar compares as: `True == 1 == 1.0`. -/
def number? : PyVal → Option ℚ
  | .bool b => some (if b then 1 else 0)
  | .int i => some i
  | .float q => some q
  | _ => Option.none

/-- `v == w` on scalars. -/
def scalarEq : PyVal → PyVal → Bool
  | .str s, .str s' => s == s'
  | .none, .none => true
  | v, w =>
    match v.number?, w.number? with
    | some q, some q' => q == q'
    | _, _ => false

@[simp] theorem scalarEq_str {v : PyVal} {s : String} :
    scalarEq v (.str s) = true ↔ v = .str s := by
  cases v <;> simp [scalarEq, number?]

end PyVal

/-- `d.get(key)` for a string key. -/
def PyDict.get? (d : PyDict) (key : String) : Option PyVal :=
  (d.find? fun entry => entry.1.isStr key).map Prod.snd

/-- `key in d` for a string key. -/
def PyDict.contains (d : PyDict) (key : String) : Bool := (d.get? key).isSome

/-- `d[key]` for a string key. -/
def PyDict.getItem (d : PyDict) (key : String) : Except PyExc PyVal :=
  match d.get? key with
  | some v => .ok v
  | none => .error ⟨.keyError, key⟩

theorem PyDict.getItem_eq_ok {d : PyDict} {key : String} {v : PyVal} :
    d.getItem key = .ok v ↔ d.get? key = some v := by
  unfold PyDict.getItem
  cases d.get? key <;> simp

/-! ### Operations on values of unknown shape -/

namespace PyVal

/-- The values a `for` loop over `v` visits. -/
def iterate : PyVal → Except PyExc (List PyVal)
  | .list items => .ok items
  | .dict items => .ok (items.map Prod.fst)
  | .str s => .ok (s.toList.map fun c => .str (String.singleton c))
  | _ => .error ⟨.typeError, "object is not iterable"⟩

/-- `v[key]` for a string key. -/
def subscript (v : PyVal) (key : String) : Except PyExc PyVal :=
  match v with
  | .dict items => PyDict.getItem items key
  | .list _ => .error ⟨.typeError, "list indices must be integers or slices, not str"⟩
  | .str _ => .error ⟨.typeError, "string indices must be integers, not 'str'"⟩
  | _ => .error ⟨.typeError, "object is not subscriptable"⟩

/-- `key in v` for a string key. -/
def hasMember (v : PyVal) (key : String) : Except PyExc Bool :=
  match v with
  | .dict items => .ok (PyDict.contains items key)
  | .list items => .ok (items.any fun item => item.isStr key)
  | .str s => .ok (decide (key.toList <:+: s.toList))
  | _ => .error ⟨.typeError, "argument of this type is not iterable"⟩

end PyVal

end QsTie
