/-
This file defines the preorder of a tree: every node comes before its children,
and the children follow each other as they are written. A node can be addressed
by its position in this order.
-/

import CallTyping.Syntax

namespace CallTyping

/-! ### Listing -/

mutual

/-- A node and all nodes inside it. -/
def Node.preorder : Node → List Node
  | .mk span slot expr => .mk span slot expr :: expr.preorder

def Expr.preorder : Expr → List Node
  | .ident _ => []
  | .literal _ => []
  | .call children => preorderNodes children
  | .block _ body => preorderNodes body
  | .ifThen condition body => condition.preorder ++ preorderNodes body
  | .ifThenElse condition body alternative =>
    condition.preorder ++ preorderNodes body ++ preorderNodes alternative
  | .whileLoop condition body => condition.preorder ++ preorderNodes body
  | .caseOf scrutinee arms => scrutinee.preorder ++ preorderArms arms
  | .dot target _ => target.preorder
  | .update target value => target.preorder ++ value.preorder
  | .assertion value annotation => value.preorder ++ annotation.preorder
  | .object fields => preorderFields fields
  | .variant _ args => preorderNodes args
  | .define _ value => value.preorder
  | .require _ => []
  | .inlay inner => inner.preorder

def Arm.preorder : Arm → List Node
  | .mk _ _ args body => preorderNodes args ++ preorderNodes body

def Field.preorder : Field → List Node
  | .mk _ value => value.preorder

def preorderNodes : List Node → List Node
  | [] => []
  | node :: rest => node.preorder ++ preorderNodes rest

def preorderArms : List Arm → List Node
  | [] => []
  | arm :: rest => arm.preorder ++ preorderArms rest

def preorderFields : List Field → List Node
  | [] => []
  | field :: rest => field.preorder ++ preorderFields rest

end

/-- All nodes of a program. -/
def Program.preorder (program : Program) : List Node := preorderNodes program

/-! ### Places -/

def Arm.span : Arm → Span
  | .mk span _ _ _ => span

/-- The places of the arms of a match. -/
def Expr.armSpans : Expr → List Span
  | .caseOf _ arms => arms.map Arm.span
  | _ => []

/-- The place of a node, and those of its arms if it is a match. -/
def Node.places : Node → List Span
  | .mk span _ expr => span :: expr.armSpans

/-- The places of all nodes of a program and of all arms in it. -/
def Program.places (program : Program) : List Span := program.preorder.flatMap Node.places

/-! ### Changing slots by position -/

/-- Counts the nodes that were passed. -/
abbrev Numbering := StateM Nat

/-- The position of the node that is passed now. -/
def nextPosition : Numbering Nat := modifyGet fun position => (position, position + 1)

mutual

/-- Changes every slot depending on the position of its node. -/
def Node.relabel (change : Nat → Option Ty → Option Ty) : Node → Numbering Node
  | .mk span slot expr => do
    let position ← nextPosition
    return .mk span (change position slot) (← expr.relabel change)

def Expr.relabel (change : Nat → Option Ty → Option Ty) : Expr → Numbering Expr
  | .ident name => return .ident name
  | .literal value => return .literal value
  | .call children => return .call (← relabelNodes change children)
  | .block params body => return .block params (← relabelNodes change body)
  | .ifThen condition body =>
    return .ifThen (← condition.relabel change) (← relabelNodes change body)
  | .ifThenElse condition body alternative =>
    return .ifThenElse (← condition.relabel change) (← relabelNodes change body)
      (← relabelNodes change alternative)
  | .whileLoop condition body =>
    return .whileLoop (← condition.relabel change) (← relabelNodes change body)
  | .caseOf scrutinee arms =>
    return .caseOf (← scrutinee.relabel change) (← relabelArms change arms)
  | .dot target field => return .dot (← target.relabel change) field
  | .update target value => return .update (← target.relabel change) (← value.relabel change)
  | .assertion value annotation =>
    return .assertion (← value.relabel change) (← annotation.relabel change)
  | .object fields => return .object (← relabelFields change fields)
  | .variant tag args => return .variant tag (← relabelNodes change args)
  | .define name value => return .define name (← value.relabel change)
  | .require name => return .require name
  | .inlay inner => return .inlay (← inner.relabel change)

def Arm.relabel (change : Nat → Option Ty → Option Ty) : Arm → Numbering Arm
  | .mk span tag args body =>
    return .mk span tag (← relabelNodes change args) (← relabelNodes change body)

def Field.relabel (change : Nat → Option Ty → Option Ty) : Field → Numbering Field
  | .mk name value => return .mk name (← value.relabel change)

def relabelNodes (change : Nat → Option Ty → Option Ty) : List Node → Numbering (List Node)
  | [] => return []
  | node :: rest => return (← node.relabel change) :: (← relabelNodes change rest)

def relabelArms (change : Nat → Option Ty → Option Ty) : List Arm → Numbering (List Arm)
  | [] => return []
  | arm :: rest => return (← arm.relabel change) :: (← relabelArms change rest)

def relabelFields (change : Nat → Option Ty → Option Ty) : List Field → Numbering (List Field)
  | [] => return []
  | field :: rest => return (← field.relabel change) :: (← relabelFields change rest)

end

/-- The node at a position. -/
def Program.node? (program : Program) (position : Nat) : Option Node :=
  program.preorder[position]?

/-- Fills the slot at a position; a node that has a type already hands the new type back. -/
def Program.assign (program : Program) (position : Nat) (ty : Ty) : Except Ty Program :=
  match program.node? position with
  | some node =>
    (node.assign ty).map fun _ =>
      ((relabelNodes (fun other slot => if other = position then some ty else slot)
        program).run 0).1
  | none => .ok program

end CallTyping
