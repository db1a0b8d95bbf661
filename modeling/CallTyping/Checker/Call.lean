/-
This file defines calls of functions and requires of files. Both run statements
that stand elsewhere, in the file and the scopes of that place, and come back to
where they started also when a statement fails. How the statements are run is a
parameter here.
-/

import CallTyping.Checker.Rules
import CallTyping.Path

namespace CallTyping

/-- What statements are run for. -/
inductive Occasion where
  /-- They are the top level of a file. -/
  | file (path : String)
  /-- They are the body of a closure, called with these arguments. -/
  | body (closure : ClosureId) (args : List Ty)

/-- Whether definitions among the statements belong to the top level of the file. -/
def Occasion.isFile : Occasion → Bool
  | .file _ => true
  | .body _ _ => false

/-- Runs statements on an occasion and answers with their types. -/
abbrev Runner := Occasion → Program → Visit Program (List Ty)

/-! ### Calls -/

namespace Checker

/-- Moves into the body of a closure with its arguments bound. -/
def enterBody (checker : Checker) (closure : Closure) (args : List Ty) : Checker :=
  let bound := (closure.params.zip args).foldl
    (fun bindings (name, ty) => bindings.bind name ⟨ty, closure.span⟩)
    (checker.bindings.withScopes closure.scopes).enter
  { checker with bindings := bound, file := closure.file, callDepth := checker.callDepth + 1 }

/-- Comes back from a body to the file and the scopes of its caller. -/
def leaveBody (checker : Checker) (file : String) (scopes : Scopes) : Checker :=
  { checker with
    bindings := checker.bindings.withScopes scopes, file, callDepth := checker.callDepth - 1 }

/-- Takes the marker of a call away. -/
def abandonCall (checker : Checker) (closure : ClosureId) (args : List Ty) : Checker :=
  { checker with cache := checker.cache.abandon checker.heap closure args }

/-- Turns the marker of a call into its result. -/
def finishCall (checker : Checker) (closure : ClosureId) (args : List Ty) (result : Ty)
    (body : Program) : Checker :=
  { checker with cache := checker.cache.finish checker.heap closure args result body }

end Checker

/-- Types a fresh copy of a body for its arguments. -/
def runBody (run : Runner) (id : ClosureId) (closure : Closure) (args : List Ty) :
    Visit Program (List Ty) := fun caller =>
  Visit.between (·.enterBody closure args) (·.leaveBody caller.file caller.bindings.scopes)
    (run (.body id args) closure.body) caller

/-- Types a body whose call has been marked, and replaces the marker by the result. -/
def specialize (run : Runner) (id : ClosureId) (closure : Closure) (args : List Ty) :
    Check Ty := do
  record (.specializing id (args.map (← get).heap.text))
  match ← (runBody run id closure args).asStep with
  | (body, .ok types) =>
    modify (·.finishCall id args (Ty.ofBody types) body)
    return Ty.ofBody types
  | (_, .error stop) =>
    modify (·.abandonCall id args)
    throw stop

/-- Calls a closure with all its arguments; a body is typed once for all equal lists of them. -/
def runClosure (setup : Setup) (run : Runner) (span : Span) (id : ClosureId)
    (args : List Ty) : Check Ty := do
  let checker ← get
  let (answer, cache) := checker.cache.start checker.heap id args
  set { checker with cache }
  match answer with
  | .known result =>
    record (.callKnown id)
    return result
  | .running => fail span (.recursiveSpecialization id args)
  | .started =>
    if setup.settings.depthLimit ≤ checker.callDepth then
      modify (·.abandonCall id args)
      fail span (.specializationTooDeep setup.settings.depthLimit)
    else
      match checker.closures.get? id with
      | some closure => specialize run id closure args
      | none =>
        modify (·.abandonCall id args)
        fail span (.unknownClosure id)

/-- Whether the arguments of a call are a single unit, which runs a block without parameters. -/
def isUnitCall (args : List Ty) : Bool :=
  match args with
  | [ty] => ty.isUnit
  | _ => false

/-- Applies a function to arguments: too few are kept for later, and all of them run the body. -/
def applyFunction (setup : Setup) (run : Runner) (span calleeSpan : Span) (callee : Ty)
    (args : List Ty) : Check Ty :=
  match callee with
  | .function id arity bound =>
    let remaining := Ty.remaining arity bound
    if args.length < remaining then
      return Ty.supply id arity bound args
    else if args.length = remaining then
      runClosure setup run span id (bound ++ args)
    else if remaining = 0 ∧ isUnitCall args then
      runClosure setup run span id bound
    else
      fail calleeSpan (.arityMismatch remaining args.length)
  | _ => fail calleeSpan (.notAFunction callee)

/-- The type of a call whose children have these types; one child alone is only grouped. -/
def typeOfCall (setup : Setup) (run : Runner) (span calleeSpan : Span) :
    List Ty → Check Ty
  | [] => return .unit
  | [ty] => return ty
  | callee :: args => applyFunction setup run span calleeSpan callee args

/-! ### Requires -/

namespace Checker

/-- Moves to the top level of a file, out of all scopes. -/
def enterFile (checker : Checker) (file : String) : Checker :=
  { checker.openFile file with
    bindings := checker.bindings.withNewRoot, file
    log := checker.log.push (.checkingModule file) }

/-- Comes back from a file to the one that was current before, and its scopes. -/
def leaveFile (checker : Checker) (file previous : String) (scopes : Scopes) : Checker :=
  { checker.closeFile file with
    bindings := checker.bindings.withScopes scopes, file := previous }

end Checker

/-- Checks the statements of a file at its top level. -/
def runFile (run : Runner) (file : String) (program : Program) :
    Visit Program (List Ty) := fun previous =>
  Visit.between (·.enterFile file) (·.leaveFile file previous.file previous.bindings.scopes)
    (run (.file file) program) previous

/-- Loads a file, checks it and keeps its typed program. -/
def loadFile (setup : Setup) (run : Runner) (span : Span) (file : String) : Check Unit := do
  modify fun checker => { checker with loads := checker.loads.push file }
  match setup.loader.load file with
  | .error message => fail span (.moduleLoad file message)
  | .ok program =>
    match ← (runFile run file program).asStep with
    | (typed, .ok _) =>
      modify fun checker => { checker with modules := checker.modules.insert file typed }
    | (_, .error stop) => throw stop

/-- Makes an object of the definitions of a file, and names it at the top level. -/
def exposeFile (span : Span) (name file : String) : Check Ty := do
  let exports := (← get).definitions file
  if exports.isEmpty then
    fail span (.noDefinitions file)
  else
    let ty ← newObject (exports.entries.map fun (name, binding) => (name, binding.ty))
    let _ ← defineName true span name ty
    return ty

/-- Brings in the definitions of a file as an object. A file that has definitions already is not
loaded again. -/
def typeOfRequire (setup : Setup) (run : Runner) (span : Span) (name : String) :
    Check Ty := do
  let checker ← get
  let file := requiredFile checker.file name setup.settings.extension
  if checker.isOpen file then
    fail span (.circularRequire file)
  else if checker.bindings.hasDefinitions file then
    record (.moduleKnown file)
    exposeFile span name file
  else
    loadFile setup run span file
    exposeFile span name file

end CallTyping
