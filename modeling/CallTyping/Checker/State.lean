/-
This file defines what a check knows, what it may change, and how it can stop. The
parts that stay fixed during a check are kept apart from the state. A step keeps
its changes to the state also when it stops with an error. A visit of a tree
answers with the tree as well, in which the nodes reached so far have their types.
-/

import CallTyping.Checker.Event
import CallTyping.Fault
import CallTyping.Loader
import CallTyping.Settings
import CallTyping.Specialization

namespace CallTyping

/-- What stays fixed during a check. -/
structure Setup where
  settings : Settings
  annotations : Annotations
  loader : Loader

/-- The standard settings and names, and no files to require. -/
def Setup.standard : Setup := ⟨.standard, .standard, .empty⟩

/-- A type that a program asked to have reported. -/
structure Inlay where
  file : String
  span : Span
  ty : Ty

/-- What a check knows and changes. -/
structure Checker where
  heap : Heap
  bindings : Bindings
  closures : Closures
  cache : Cache
  /-- The file whose names are resolved. -/
  file : String
  /-- The files whose statements are being checked. -/
  openFiles : List String
  /-- The number of function bodies that are being typed inside each other. -/
  callDepth : Nat
  /-- The typed programs of required files. -/
  modules : OrderedMap String Program
  inlays : Array Inlay
  /-- The paths that were asked of the loader, oldest first. -/
  loads : Array String
  log : Array Event

namespace Checker

/-- A checker that has not checked anything. -/
def initial : Checker :=
  { heap := .empty, bindings := .empty, closures := .empty, cache := .empty, file := "",
    openFiles := [], callDepth := 0, modules := .empty, inlays := #[], loads := #[], log := #[] }

def isOpen (checker : Checker) (file : String) : Bool := file ∈ checker.openFiles

/-- Marks a file as being checked. -/
def openFile (checker : Checker) (file : String) : Checker :=
  { checker with
    openFiles := if checker.isOpen file then checker.openFiles else file :: checker.openFiles }

/-- Takes the mark of a file away. -/
def closeFile (checker : Checker) (file : String) : Checker :=
  { checker with openFiles := checker.openFiles.filter (· ≠ file) }

/-- Opens a new innermost scope. -/
def enterScope (checker : Checker) : Checker :=
  { checker with bindings := checker.bindings.enter }

/-- Leaves the innermost scope. -/
def leaveScope (checker : Checker) : Checker :=
  { checker with bindings := checker.bindings.leave }

/-- The type that a name stands for in the current file. -/
def lookup (checker : Checker) (name : String) : Option Ty :=
  checker.bindings.lookup checker.file name

/-- The top-level names of a file in the order of their definition. -/
def definitions (checker : Checker) (file : String) : Frame := checker.bindings.definitions file

/-- The type of a top-level name of a file. -/
def definition? (checker : Checker) (file name : String) : Option Ty :=
  ((checker.definitions file).get? name).map Binding.ty

end Checker

/-! ### Steps -/

/-- Why a check does not come to its end. -/
inductive Stop where
  | fault (error : TypeError)
  /-- The bound on nested bodies and files was too small. -/
  | exhausted

/-- A step of a check, which answers or stops. -/
abbrev Check := ExceptT Stop (StateM Checker)

/-- Stops with a fault in the current file. -/
def fail {α : Type} (span : Span) (fault : Fault) : Check α := do
  throw (.fault ⟨(← get).file, span, fault⟩)

/-- Writes an event into the log. -/
def record (event : Event) : Check Unit :=
  modify fun checker => { checker with log := checker.log.push event }

/-- Changes the bindings. -/
def modifyBindings (change : Bindings → Bindings) : Check Unit :=
  modify fun checker => { checker with bindings := change checker.bindings }

/-! ### Visits -/

/-- A pass over a piece of a tree: the piece with its types, and the answer. -/
abbrev Visit (α β : Type) := Checker → (α × Except Stop β) × Checker

namespace Visit

variable {α β γ δ : Type}

/-- Runs a step that leaves the tree as it is. -/
def settle (tree : α) (step : Check β) : Visit α β := fun checker =>
  let (answer, after) := step.run.run checker
  ((tree, answer), after)

/-- Goes on after an answer; `around` puts the visited piece back when there is none. -/
def andThen (visit : Visit α β) (around : α → γ) (next : α → β → Visit γ δ) : Visit γ δ :=
  fun checker =>
    match visit checker with
    | ((piece, .ok found), after) => next piece found after
    | ((piece, .error stop), after) => ((around piece, .error stop), after)

/-- Puts the visited piece into its surroundings. -/
def within (visit : Visit α β) (around : α → γ) : Visit γ β := fun checker =>
  let ((piece, answer), after) := visit checker
  ((around piece, answer), after)

/-- Changes the state before a visit and, whatever its answer, after it. -/
def between (before after : Checker → Checker) (visit : Visit α β) : Visit α β := fun checker =>
  let (visited, changed) := visit (before checker)
  (visited, after changed)

/-- Makes a node of an expression, with the type that was found for it. -/
def asNode (span : Span) (visit : Visit Expr Ty) : Visit Node Ty := fun checker =>
  let ((expr, answer), after) := visit checker
  ((.mk span answer.toOption expr, answer), after)

/-- Stores the answer of a step in the slot of a node, which has to be empty. -/
def assign (node : Node) (step : Check Ty) : Visit Node Ty :=
  (settle node step).andThen id fun node ty =>
    match node.assign ty with
    | .ok typed => settle typed (pure ty)
    | .error refused => settle node (fail node.span (.alreadyTyped refused))

/-- A visit as a step that does not stop. -/
def asStep (visit : Visit α β) : Check (α × Except Stop β) := ExceptT.lift fun checker =>
  visit checker

end Visit

end CallTyping
