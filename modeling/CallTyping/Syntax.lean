/-
This file defines the syntax trees that are checked. Every node has a place in
the source and a slot for its type, which is filled at most once; a fresh copy of
a tree has all slots empty, so it can be checked on its own. The arms of a match
have a place but no type.
-/

import CallTyping.Ty

namespace CallTyping

/-- A range of byte offsets in a source text. -/
structure Span where
  start : Nat
  stop : Nat
  deriving DecidableEq, Inhabited

/-- The empty range at the beginning, for nodes without a place. -/
def Span.origin : Span := ⟨0, 0⟩

def Span.text (span : Span) : String := toString span.start ++ ".." ++ toString span.stop

inductive Literal where
  | integer (value : Int)
  | float (value : Float)
  | bool (value : Bool)
  | string (value : String)
  deriving Inhabited

def Literal.type : Literal → Ty
  | .integer _ => .integer
  | .float _ => .float
  | .bool _ => .bool
  | .string _ => .string

mutual

/-- An expression at its place in the source, with its type once it is known. -/
inductive Node where
  | mk (span : Span) (slot : Option Ty) (expr : Expr)

/-- The shapes of expressions. Statements are expressions as well. -/
inductive Expr where
  | ident (name : String)
  | literal (value : Literal)
  /-- The first child applied to the others; one child alone is only grouped. -/
  | call (children : List Node)
  /-- A function literal. -/
  | block (params : List String) (body : List Node)
  /-- A conditional without an alternative. -/
  | ifThen (condition : Node) (body : List Node)
  | ifThenElse (condition : Node) (body alternative : List Node)
  | whileLoop (condition : Node) (body : List Node)
  | caseOf (scrutinee : Node) (arms : List Arm)
  | dot (target : Node) (field : String)
  /-- Assigns to a variable or a field that may exist already. -/
  | update (target value : Node)
  /-- Asserts that a value has the type an annotation describes. -/
  | assertion (value annotation : Node)
  | object (fields : List Field)
  | variant (tag : String) (args : List Node)
  | define (name : String) (value : Node)
  /-- Brings in the definitions of another file. -/
  | require (name : String)
  /-- Asks for the type of a value to be reported. -/
  | inlay (inner : Node)

/-- One case of a match: a tag, the names for its arguments and the statements to run. -/
inductive Arm where
  | mk (span : Span) (tag : String) (args body : List Node)

/-- One field of an object literal. -/
inductive Field where
  | mk (name : String) (value : Node)

end

/-- The statements of a file. -/
abbrev Program := List Node

/-! ### Nodes -/

namespace Node

/-- A node that has not been typed yet. -/
def untyped (span : Span) (expr : Expr) : Node := .mk span none expr

def span : Node → Span
  | .mk span _ _ => span

def slot : Node → Option Ty
  | .mk _ slot _ => slot

def expr : Node → Expr
  | .mk _ _ expr => expr

def isTyped (node : Node) : Bool := node.slot.isSome

/-- Fills an empty slot; a node that has a type already hands the new type back. -/
def assign (node : Node) (ty : Ty) : Except Ty Node :=
  match node with
  | .mk span none expr => .ok (.mk span (some ty) expr)
  | .mk _ (some _) _ => .error ty

/-- Whether a node is a plain name. -/
def isIdent : Node → Bool
  | .mk _ _ (.ident _) => true
  | _ => false

end Node

/-- What an expression is called in messages. -/
def Expr.kindName : Expr → String
  | .ident _ => "identifier"
  | .literal _ => "literal"
  | .call _ => "call"
  | .block _ _ => "block"
  | .ifThen _ _ | .ifThenElse _ _ _ => "if"
  | .whileLoop _ _ => "while"
  | .caseOf _ _ => "match"
  | .dot _ _ => "dot access"
  | .update _ _ => "update"
  | .assertion _ _ => "type check"
  | .object _ => "object literal"
  | .variant _ _ => "variant"
  | .define _ _ => "define"
  | .require _ => "require"
  | .inlay _ => "inlay"

/-! ### Fresh copies -/

mutual

/-- The same node with all slots empty. -/
def Node.fresh : Node → Node
  | .mk span _ expr => .mk span none expr.fresh

def Expr.fresh : Expr → Expr
  | .ident name => .ident name
  | .literal value => .literal value
  | .call children => .call (freshNodes children)
  | .block params body => .block params (freshNodes body)
  | .ifThen condition body => .ifThen condition.fresh (freshNodes body)
  | .ifThenElse condition body alternative =>
    .ifThenElse condition.fresh (freshNodes body) (freshNodes alternative)
  | .whileLoop condition body => .whileLoop condition.fresh (freshNodes body)
  | .caseOf scrutinee arms => .caseOf scrutinee.fresh (freshArms arms)
  | .dot target field => .dot target.fresh field
  | .update target value => .update target.fresh value.fresh
  | .assertion value annotation => .assertion value.fresh annotation.fresh
  | .object fields => .object (freshFields fields)
  | .variant tag args => .variant tag (freshNodes args)
  | .define name value => .define name value.fresh
  | .require name => .require name
  | .inlay inner => .inlay inner.fresh

def Arm.fresh : Arm → Arm
  | .mk span tag args body => .mk span tag (freshNodes args) (freshNodes body)

def Field.fresh : Field → Field
  | .mk name value => .mk name value.fresh

def freshNodes : List Node → List Node
  | [] => []
  | node :: rest => node.fresh :: freshNodes rest

def freshArms : List Arm → List Arm
  | [] => []
  | arm :: rest => arm.fresh :: freshArms rest

def freshFields : List Field → List Field
  | [] => []
  | field :: rest => field.fresh :: freshFields rest

end

/-- A copy of a program in which no node has a type. -/
def Program.fresh (program : Program) : Program := freshNodes program

end CallTyping
