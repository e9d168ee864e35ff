import Mathlib.Data.List.Infix

/-! The Python values the session layer reads and builds, and the few operations of the
language that data_collector.py applies to them. A configuration is a tree of settings
namespaces; reading it can raise, and so can iterating, unpacking or indexing what it holds. -/
namespace DataCollector.Core

/-- The exceptions a call can raise. Attribute and key errors carry the name that was
missing; anything a collaborator raises is an other error of its own type. -/
inductive PyExc where
  | attributeError (name : String)
  | keyError (key : String)
  | typeError
  | valueError
  | other (type : String)
  deriving DecidableEq, Repr

/-- A Python value. Lists, tuples and sets are one sequence kind; dicts have string keys; a
settings namespace is read only through its attributes; a handle is any other object the
caller passes through, known by identity. -/
inductive PyObj where
  | none
  | bool (b : Bool)
  | int (i : Int)
  | str (s : String)
  | seq (items : List PyObj)
  | dict (entries : List (String × PyObj))
  | ns (attrs : List (String × PyObj))
  | handle (id : Nat)
  deriving Repr

/-- A statement that returns went through each step it binds. -/
theorem bind_eq_ok {ε α β : Type} {x : Except ε α} {f : α → Except ε β} {b : β}
    (h : x >>= f = .ok b) : ∃ a, x = .ok a ∧ f a = .ok b := by
  cases x with
  | error e => cases h
  | ok a => exact ⟨a, rfl, h⟩

namespace PyObj

/-- getattr(o, name): a settings namespace holds its attributes, no other value has any. -/
def getattr : PyObj → String → Except PyExc PyObj
  | ns attrs, name =>
    match attrs.lookup name with
    | some v => .ok v
    | .none => .error (.attributeError name)
  | _, name => .error (.attributeError name)

/-- A dotted read o.a.b.c, one getattr after another. -/
def attr (o : PyObj) : List String → Except PyExc PyObj
  | [] => .ok o
  | name :: rest => do (← o.getattr name).attr rest

/-- bool(o): empty containers, zero, False and None are false; every object is true. -/
def truthy : PyObj → Bool
  | none => false
  | bool b => b
  | int i => i != 0
  | str s => !s.isEmpty
  | seq items => !items.isEmpty
  | dict entries => !entries.isEmpty
  | ns _ => true
  | handle _ => true

/-- iter(o): a sequence gives its items, a dict its keys, a string its characters. -/
def iter : PyObj → Except PyExc (List PyObj)
  | seq items => .ok items
  | dict entries => .ok (entries.map fun e => str e.1)
  | str s => .ok (s.toList.map fun c => str (String.singleton c))
  | _ => .error .typeError

/-- a, b = o: iterate o and require exactly two items. -/
def unpack2 (o : PyObj) : Except PyExc (PyObj × PyObj) := do
  match ← o.iter with
  | [a, b] => pure (a, b)
  | _ => .error .valueError

/-- o[key] for a string key: a dict looks it up; no other value here takes a string index. -/
def getitem : PyObj → String → Except PyExc PyObj
  | dict entries, key =>
    match entries.lookup key with
    | some v => .ok v
    | .none => .error (.keyError key)
  | _, _ => .error .typeError

/-- o == str(x), for the builtin values: only a string with the same characters. -/
def isStr : PyObj → String → Bool
  | str s, x => s == x
  | _, _ => false

/-- x in o, for a string x: membership in a sequence, a key of a dict, a substring of a
string; any other container raises. -/
def contains : PyObj → String → Except PyExc Bool
  | seq items, x => .ok (items.any fun o => o.isStr x)
  | dict entries, x => .ok (entries.any fun e => e.1 == x)
  | str s, x => .ok (decide (x.toList <:+: s.toList))
  | _, _ => .error .typeError

/-- o.lower(), with str.lower given: only strings have the method. -/
def callLower (lower : String → String) : PyObj → Except PyExc String
  | str s => .ok (lower s)
  | _ => .error (.attributeError "lower")

/-- A read of a path that succeeds with a true value. -/
def attrTruthy (o : PyObj) (path : List String) : Bool :=
  match o.attr path with
  | .ok v => v.truthy
  | .error _ => false

theorem attrTruthy_of_ok {o v : PyObj} {path : List String} (h : o.attr path = .ok v) :
    o.attrTruthy path = v.truthy := by
  simp [attrTruthy, h]

theorem attrTruthy_eq_true {o : PyObj} {path : List String} :
    o.attrTruthy path = true ↔ ∃ v, o.attr path = .ok v ∧ v.truthy = true := by
  unfold attrTruthy
  split <;> simp_all

@[simp] theorem truthy_seq (items : List PyObj) : (seq items).truthy = !items.isEmpty := rfl

@[simp] theorem iter_seq (items : List PyObj) : (seq items).iter = .ok items := rfl

@[simp] theorem unpack2_pair (a b : PyObj) : (seq [a, b]).unpack2 = .ok (a, b) := rfl

@[simp] theorem callLower_str (lower : String → String) (s : String) :
    (str s).callLower lower = .ok (lower s) := rfl

theorem contains_seq (items : List PyObj) (x : String) :
    (seq items).contains x = .ok (items.any fun o => o.isStr x) := rfl

/-- Membership of a string in a list of strings is list membership. -/
theorem contains_strs (xs : List String) (x : String) :
    (seq (xs.map str)).contains x = .ok (decide (x ∈ xs)) := by
  rw [contains_seq]
  congr 1
  induction xs with
  | nil => rfl
  | cons y ys ih =>
    rw [List.map_cons, List.any_cons, ih]
    by_cases h : x = y <;> simp [isStr, h, Ne.symm]

end PyObj

/-- What data_collector.py calls but neither it nor this model defines: the formatting of
a value in an f-string (identity on strings), str.lower, and, from the agent's attribute
and OTLP modules, MAX_NUM_USER_ATTRIBUTES, process_user_attribute and the two encoders. -/
structure Runtime where
  format : PyObj → String
  format_str : ∀ s, format (.str s) = s
  lower : String → String
  maxNumUserAttributes : Nat
  processUserAttribute : PyObj → PyObj → Except PyExc (Option String × PyObj)
  encodeMlEventData : PyObj → String → Except PyExc PyObj
  encodeMetricData : PyObj → PyObj → PyObj → Except PyExc PyObj

attribute [simp] Runtime.format_str

/-- Python's str of the scalar values, for concrete runs; other values print as their
kind, which no concrete run here formats. -/
def PyObj.scalarFormat : PyObj → String
  | .none => "None"
  | .bool b => if b then "True" else "False"
  | .int i => toString i
  | .str s => s
  | .seq _ => "<sequence>"
  | .dict _ => "<dict>"
  | .ns _ => "<settings>"
  | .handle _ => "<object>"

/-- A runtime for concrete runs: ASCII str.lower, a limit of 128 user attributes, a
normaliser that keeps string names and rejects the rest, and encoders that pass the data. -/
def Runtime.basic : Runtime where
  format := PyObj.scalarFormat
  format_str _ := rfl
  lower s := ⟨s.data.map Char.toLower⟩
  maxNumUserAttributes := 128
  processUserAttribute name value :=
    match name with
    | .str s => .ok (some s, value)
    | _ => .ok (none, .none)
  encodeMlEventData data _ := .ok data
  encodeMetricData data _ _ := .ok data

end DataCollector.Core
