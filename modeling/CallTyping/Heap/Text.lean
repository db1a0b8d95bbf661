/-
This file defines how types are written. Fields of an object stand in braces,
tags of a variant are separated by bars, and a function shows the arguments it
has been given and a placeholder for each one it still waits for. A type may
contain itself, so parts nested more than eight levels deep are cut off.
-/

import CallTyping.Heap

namespace CallTyping

namespace Heap

/-- The deepest level that is still written out; the outermost type is at level zero. -/
def deepestLevel : Nat := 8

/-- Writes the parts in their order with a separator between them. -/
def separated (separator : String) (parts : List String) : String := separator.intercalate parts

/-- A tag with the texts of its arguments. -/
def tagText (tag : String) (arguments : List String) : String :=
  if arguments.isEmpty then tag else tag ++ "(" ++ separated ", " arguments ++ ")"

/-- The text of a type of which this many levels are written out. -/
def textWithin (heap : Heap) : Nat → Ty → String
  | 0, _ => ".."
  | levels + 1, ty =>
    match ty with
    | .object id =>
      "\x7b" ++ separated ", " ((heap.fields id).entries.map fun (name, field) =>
        name ++ ": " ++ heap.textWithin levels field) ++ "\x7d"
    | .function closure arity bound =>
      "fn" ++ closure.text ++ "(" ++
        separated ", " (bound.map (heap.textWithin levels) ++
          List.replicate (Ty.remaining arity bound) "_") ++ ")"
    | .variant id =>
      separated " | " ((heap.tags id).entries.map fun (tag, arguments) =>
        tagText tag (arguments.map (heap.textWithin levels)))
    | _ => ty.kind.name

/-- The text of a type. -/
def text (heap : Heap) (ty : Ty) : String := heap.textWithin (deepestLevel + 1) ty

/-! ### The detailed form -/

mutual

/-- A form that names the sort of each type and spells out functions, for tracing. -/
def detail (heap : Heap) : Ty → String
  | .object id => "Object(" ++ heap.text (.object id) ++ ")"
  | .variant id => "Variant(" ++ heap.text (.variant id) ++ ")"
  | .function closure arity bound =>
    "Function(FunctionType \x7b closure: ClosureId(" ++ toString closure.index ++ "), arity: " ++
      toString arity ++ ", bound: [" ++ separated ", " (heap.details bound) ++ "] \x7d)"
  | .unit => Kind.unit.name
  | .bool => Kind.bool.name
  | .integer => Kind.integer.name
  | .float => Kind.float.name
  | .string => Kind.string.name

def details (heap : Heap) : List Ty → List String
  | [] => []
  | ty :: rest => heap.detail ty :: heap.details rest

end

end Heap

end CallTyping
