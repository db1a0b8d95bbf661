/-
This file defines what a check can complain about and how each complaint is
worded. A complaint keeps the types it speaks of, so its text shows them with the
parts they have in the heap at the time of writing.
-/

import CallTyping.Heap.Text
import CallTyping.Syntax

namespace CallTyping

/-- The reasons for which a check fails. -/
inductive Fault where
  | unknownVariable (name : String)
  | unknownField (field : String) (found : Ty)
  | notAnObject (found : Ty)
  | notAFunction (found : Ty)
  | notAVariant (found : Ty)
  | conditionNotBool (found : Ty)
  /-- Two types that have to agree for this reason cannot be joined. -/
  | mismatchedTypes (expected found : Ty) (reason : String)
  | arityMismatch (expected found : Nat)
  | invalidAssignTarget
  /-- Only fields of variables can be assigned. -/
  | nestedFieldAssign (field : String)
  | annotationMismatch (expected : Kind) (found : Ty)
  | missingAnnotatedField (field : String) (found : Ty)
  | unknownKind (name : String)
  | malformedAssertion
  | patternNotIdent
  | tagArityMismatch (tag : String) (expected found : Nat)
  | unknownTag (tag : String) (found : Ty)
  | noMatchingArms (found : Ty)
  | noDefinitions (file : String)
  | circularRequire (file : String)
  | moduleLoad (file message : String)
  /-- A body calls itself with the argument types it is being typed for. -/
  | recursiveSpecialization (closure : ClosureId) (args : List Ty)
  | specializationTooDeep (limit : Nat)
  | alreadyTyped (ty : Ty)
  | untyped
  | unknownClosure (closure : ClosureId)
  deriving Inhabited

/-- A fault at its place. -/
structure TypeError where
  file : String
  span : Span
  fault : Fault
  deriving Inhabited

namespace Fault

/-- A text between single quotes. -/
def quoted (text : String) : String := "'" ++ text ++ "'"

/-- The headline of a report. -/
def title : Fault → String
  | .unknownVariable name => "Unknown variable " ++ quoted name
  | .unknownField field _ => "Unknown field " ++ quoted field
  | .notAnObject _ => "Not an object"
  | .notAFunction _ => "Not a function"
  | .notAVariant _ => "Not a variant"
  | .conditionNotBool _ => "Condition is not a boolean"
  | .mismatchedTypes _ _ reason => "Mismatched types, " ++ reason
  | .arityMismatch _ _ => "Wrong number of arguments"
  | .invalidAssignTarget => "Invalid assignment target"
  | .nestedFieldAssign _ => "Nested field assignment"
  | .annotationMismatch _ _ => "Type check failed"
  | .missingAnnotatedField field _ => "Missing field " ++ quoted field
  | .unknownKind name => "Unknown annotation " ++ quoted name
  | .malformedAssertion => "Malformed annotation"
  | .patternNotIdent => "Invalid pattern"
  | .tagArityMismatch tag _ _ => "Wrong number of arguments for " ++ quoted tag
  | .unknownTag tag _ => "Unknown tag " ++ quoted tag
  | .noMatchingArms _ => "No matching arms"
  | .noDefinitions file => "Nothing to require from " ++ quoted file
  | .circularRequire _ => "Circular require"
  | .moduleLoad file _ => "Could not load " ++ quoted file
  | .recursiveSpecialization _ _ => "Recursive call with identical argument types"
  | .specializationTooDeep _ => "Specialization too deep"
  | .alreadyTyped _ => "Node typed twice"
  | .untyped => "Untyped node"
  | .unknownClosure _ => "Unknown function"

/-- What a report says about the marked place. -/
def body (heap : Heap) : Fault → String
  | .unknownVariable _ => "This variable is not in scope"
  | .unknownField field found => quoted (heap.text found) ++ " has no field " ++ quoted field
  | .notAnObject found => "expression of type " ++ quoted (heap.text found) ++ " has no fields"
  | .notAFunction found => "expression of type " ++ quoted (heap.text found) ++ " is not callable"
  | .notAVariant found => "cannot match on a value of type " ++ quoted (heap.text found)
  | .conditionNotBool found =>
    "expected " ++ quoted Kind.bool.name ++ ", found " ++ quoted (heap.text found)
  | .mismatchedTypes expected found _ =>
    "expected " ++ quoted (heap.text expected) ++ ", found " ++ quoted (heap.text found)
  | .arityMismatch expected found =>
    "expected at most " ++ toString expected ++ " arguments, found " ++ toString found
  | .invalidAssignTarget => "only variables and fields can be updated"
  | .nestedFieldAssign field => quoted field ++ " can only be assigned on a variable"
  | .annotationMismatch expected found =>
    "expected " ++ quoted expected.name ++ ", found " ++ quoted (heap.text found)
  | .missingAnnotatedField field found =>
    quoted (heap.text found) ++ " has no field " ++ quoted field
  | .unknownKind _ => "this name does not describe a type"
  | .malformedAssertion => "annotations are type names or objects of annotations"
  | .patternNotIdent => "match arm arguments have to be identifiers"
  | .tagArityMismatch _ expected found =>
    "expected " ++ toString expected ++ ", found " ++ toString found
  | .unknownTag tag found => quoted (heap.text found) ++ " never carries " ++ quoted tag
  | .noMatchingArms found => "no arm handles a tag of " ++ quoted (heap.text found)
  | .noDefinitions _ => "the required file has no definitions"
  | .circularRequire file => quoted file ++ " is still being checked"
  | .moduleLoad _ message => message
  | .recursiveSpecialization closure args =>
    "function " ++ closure.text ++ " calls itself with (" ++
      Heap.separated ", " (args.map heap.text) ++ ")"
  | .specializationTooDeep limit => "more than " ++ toString limit ++ " nested function bodies"
  | .alreadyTyped ty => "this node already has type " ++ quoted (heap.text ty)
  | .untyped => "this node was never visited"
  | .unknownClosure closure => "no block literal registered as " ++ closure.text

end Fault

/-- The place and the wording of an error in one line. -/
def TypeError.message (heap : Heap) (error : TypeError) : String :=
  error.file ++ ":" ++ error.span.text ++ ": " ++ error.fault.title ++ ": " ++
    error.fault.body heap

end CallTyping
