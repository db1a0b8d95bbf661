/-
This file defines the types of the checked language. A type without parts is a
plain value. Objects and variants grow while a program is checked and every
alias sees the growth, so such a type is a handle and its parts are kept
elsewhere; two handles are the same value exactly if they share those parts. A
function type names the block it came from, and holds the arguments that earlier
calls have supplied.
-/

namespace CallTyping

/-- The identity of an object type. -/
structure ObjectId where
  index : Nat
  deriving DecidableEq, Inhabited

/-- The identity of a variant type. -/
structure VariantId where
  index : Nat
  deriving DecidableEq, Inhabited

/-- The identity of a block literal, given when the literal is typed. -/
structure ClosureId where
  index : Nat
  deriving DecidableEq, Inhabited

/-- The type of an expression. -/
inductive Ty where
  /-- The type of statements without a value. -/
  | unit
  | bool
  | integer
  | float
  | string
  /-- A record whose fields can be added to. -/
  | object (id : ObjectId)
  /-- A block that expects `arity` arguments and has been given those in `bound`. -/
  | function (closure : ClosureId) (arity : Nat) (bound : List Ty)
  /-- A tagged union whose tags can be added to. -/
  | variant (id : VariantId)
  deriving Inhabited

/-- What is left of a type without its parts; assertions speak about this much. -/
inductive Kind where
  | unit
  | bool
  | integer
  | float
  | string
  | object
  | function
  | variant
  deriving DecidableEq, Inhabited

def Kind.name : Kind → String
  | .unit => "Unit"
  | .bool => "Bool"
  | .integer => "Integer"
  | .float => "Float"
  | .string => "String"
  | .object => "Object"
  | .function => "Function"
  | .variant => "Variant"

def ClosureId.text (id : ClosureId) : String := "#" ++ toString id.index

namespace Ty

def kind : Ty → Kind
  | .unit => .unit
  | .bool => .bool
  | .integer => .integer
  | .float => .float
  | .string => .string
  | .object _ => .object
  | .function _ _ _ => .function
  | .variant _ => .variant

def isUnit (ty : Ty) : Bool := ty.kind = .unit

def isBool (ty : Ty) : Bool := ty.kind = .bool

theorem isUnit_iff (ty : Ty) : ty.isUnit = true ↔ ty = .unit := by
  cases ty <;> simp [isUnit, kind]

theorem isBool_iff (ty : Ty) : ty.isBool = true ↔ ty = .bool := by
  cases ty <;> simp [isBool, kind]

/-- The number of arguments a function still waits for. -/
def remaining (arity : Nat) (bound : List Ty) : Nat := arity - bound.length

/-- A function that has been given more arguments. -/
def supply (closure : ClosureId) (arity : Nat) (bound args : List Ty) : Ty :=
  .function closure arity (bound ++ args)

/-- The type of a body whose statements have these types: that of its last statement, or unit. -/
def ofBody (types : List Ty) : Ty := types.getLast?.getD .unit

end Ty

end CallTyping
