/-
# Faults

Why a value is not a record.  A fault has a cause and a path to the value it is about: the
keys and positions on the way from the whole.  `Checked` is the outcome of reading: a result,
or every fault there is.  Reading several parts keeps the faults of all of them, in order.
-/

namespace LogBalancer
namespace Record

/-- A step from a value to a part of it. -/
inductive PathStep
  | key (name : String)
  | index (i : Nat)
  deriving DecidableEq, Repr

/-- What is wrong with a value. -/
inductive Cause
  | missing
  | notRecord (name : String)
  | notText
  | notUnicode
  | notFlag
  | unreadableFlag
  | notInteger
  | unreadableInteger
  | oversizedInteger
  | refusedPort (shown : String)
  | notTuple
  | notList
  | frozen
  deriving DecidableEq, Repr

/-- The short name of a cause. -/
def Cause.kind : Cause → String
  | .missing => "missing"
  | .notRecord _ => "model_type"
  | .notText => "string_type"
  | .notUnicode => "string_unicode"
  | .notFlag => "bool_type"
  | .unreadableFlag => "bool_parsing"
  | .notInteger => "int_type"
  | .unreadableInteger => "int_parsing"
  | .oversizedInteger => "int_parsing_size"
  | .refusedPort _ => "value_error"
  | .notTuple => "tuple_type"
  | .notList => "list_type"
  | .frozen => "frozen_instance"

/-- A cause in words. -/
def Cause.message : Cause → String
  | .missing => "Field required"
  | .notRecord name => "Input should be a valid dictionary or instance of " ++ name
  | .notText => "Input should be a valid string"
  | .notUnicode => "Input should be a valid string, unable to parse raw data as a unicode string"
  | .notFlag => "Input should be a valid boolean"
  | .unreadableFlag => "Input should be a valid boolean, unable to interpret input"
  | .notInteger => "Input should be a valid integer"
  | .unreadableInteger => "Input should be a valid integer, unable to parse string as an integer"
  | .oversizedInteger => "Unable to parse input string as an integer, exceeded maximum size"
  | .refusedPort shown => "Value error, port must be an integer, got " ++ shown
  | .notTuple => "Input should be a valid tuple"
  | .notList => "Input should be a valid list"
  | .frozen => "Instance is frozen"

/-- A cause and where it is. -/
structure Fault where
  path : List PathStep
  cause : Cause
  deriving DecidableEq, Repr

/-- The same fault, seen from a whole of which the value is the part at `step`. -/
def Fault.under (step : PathStep) (f : Fault) : Fault := ⟨step :: f.path, f.cause⟩

/-- The outcome of reading a value. -/
inductive Checked (α : Type)
  | accepted (a : α)
  | refused (faults : List Fault)
  deriving Repr

namespace Checked

/-- One fault of the value itself. -/
def fault {α : Type} (cause : Cause) : Checked α := .refused [⟨[], cause⟩]

/-- The faults of an outcome; none if it was accepted. -/
def faults {α : Type} : Checked α → List Fault
  | .accepted _ => []
  | .refused fs => fs

def map {α β : Type} (f : α → β) : Checked α → Checked β
  | .accepted a => .accepted (f a)
  | .refused fs => .refused fs

/-- Both outcomes: refused if either is, with the faults of both. -/
def zip {α β : Type} : Checked α → Checked β → Checked (α × β)
  | .accepted a, .accepted b => .accepted (a, b)
  | x, y => .refused (x.faults ++ y.faults)

/-- The outcome as that of a part. -/
def under {α : Type} (step : PathStep) : Checked α → Checked α
  | .accepted a => .accepted a
  | .refused fs => .refused (fs.map (Fault.under step))

/-- Reads every item, from position `i` on. -/
def allFrom {α β : Type} (read : α → Checked β) (i : Nat) : List α → Checked (List β)
  | [] => .accepted []
  | a :: rest => (((read a).under (.index i)).zip (allFrom read (i + 1) rest)).map fun (b, bs) => b :: bs

/-- What was accepted has no faults. -/
@[simp] theorem faults_accepted {α : Type} (a : α) : (accepted a).faults = [] := rfl

/-- What was refused has the faults that it was refused for. -/
@[simp] theorem faults_refused {α : Type} (fs : List Fault) :
    (refused fs : Checked α).faults = fs := rfl

/-- What is made of a result changes no fault. -/
@[simp] theorem faults_map {α β : Type} (f : α → β) (x : Checked α) : (x.map f).faults = x.faults := by
  cases x <;> rfl

/-- Two outcomes together have the faults of the first and then those of the second. -/
@[simp] theorem faults_zip {α β : Type} (x : Checked α) (y : Checked β) :
    (x.zip y).faults = x.faults ++ y.faults := by
  cases x <;> cases y <;> simp [zip]

/-- The faults of a part are seen under the step to it. -/
@[simp] theorem faults_under {α : Type} (step : PathStep) (x : Checked α) :
    (x.under step).faults = x.faults.map (Fault.under step) := by
  cases x <;> rfl

end Checked
end Record
end LogBalancer
