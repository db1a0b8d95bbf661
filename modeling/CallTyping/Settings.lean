/-
This file defines what can be chosen about a check: the extension of required
files, what becomes of match arms that can never apply, how deep calls may nest,
and which names an assertion understands.
-/

import CallTyping.OrderedMap
import CallTyping.Ty

namespace CallTyping

/-- What to do with an arm for a tag that the matched value never carries. -/
inductive UnknownArms where
  /-- Leave the arm unchecked. -/
  | skip
  /-- Report the arm. -/
  | reject
  deriving DecidableEq, Inhabited

structure Settings where
  /-- The extension that is added to the names of required files. -/
  extension : String
  unknownArms : UnknownArms
  /-- How many function bodies may be typed inside each other. -/
  depthLimit : Nat
  deriving DecidableEq

/-- Files end in `brie`, unknown arms are skipped, and bodies nest up to 64 deep. -/
def Settings.standard : Settings := ⟨"brie", .skip, 64⟩

/-- The meaning of the names that stand in assertions. -/
abbrev Annotations := String → Option Kind

/-- The kinds under their own names; integers have a short name as well. -/
def Annotations.standard : Annotations
  | "Unit" => some .unit
  | "Bool" => some .bool
  | "Integer" => some .integer
  | "Int" => some .integer
  | "Float" => some .float
  | "String" => some .string
  | "Object" => some .object
  | "Function" => some .function
  | "Variant" => some .variant
  | _ => none

/-- The meaning that a list of names and kinds gives. -/
def Annotations.ofMap (names : OrderedMap String Kind) : Annotations := names.get?

end CallTyping
