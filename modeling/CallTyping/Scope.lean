/-
This file defines what names stand for. Names that are local to a body live in
frames. Frames are shared: a block literal keeps the frames it was written in, and
later definitions and updates in them are seen through every stack that holds
them. Names defined at the top level of a file live in a table for that file and
are found after all frames.
-/

import CallTyping.Arena
import CallTyping.OrderedMap
import CallTyping.Syntax

namespace CallTyping

/-- What a name stands for, and where it was introduced. -/
structure Binding where
  ty : Ty
  span : Span
  deriving Inhabited

/-- The names of one scope, or of the top level of one file. -/
abbrev Frame := OrderedMap String Binding

/-- The identity of a shared frame. -/
structure FrameId where
  index : Nat
  deriving DecidableEq, Inhabited

/-! ### Stacks of frames -/

/-- A stack of frames, which always has an innermost one. -/
structure Scopes where
  innermost : FrameId
  outer : List FrameId
  deriving DecidableEq, Inhabited

namespace Scopes

/-- The frames from the innermost to the outermost. -/
def frames (scopes : Scopes) : List FrameId := scopes.innermost :: scopes.outer

def depth (scopes : Scopes) : Nat := scopes.frames.length

def push (scopes : Scopes) (frame : FrameId) : Scopes := ⟨frame, scopes.frames⟩

/-- Leaves the innermost frame; the outermost one is never left. -/
def pop (scopes : Scopes) : Scopes :=
  match scopes.outer with
  | [] => scopes
  | next :: rest => ⟨next, rest⟩

@[simp]
theorem pop_push (scopes : Scopes) (frame : FrameId) : (scopes.push frame).pop = scopes := rfl

end Scopes

/-! ### Bindings -/

/-- All frames, the stack that is active, and the top level of every file. -/
structure Bindings where
  frames : Arena Frame
  scopes : Scopes
  toplevel : OrderedMap String Frame

namespace Bindings

/-- One empty frame and no top-level names. -/
def empty : Bindings :=
  { frames := (Arena.empty.allocate .empty).2, scopes := ⟨⟨0⟩, []⟩, toplevel := .empty }

def frame (bindings : Bindings) (id : FrameId) : Frame :=
  (bindings.frames.get? id.index).getD .empty

/-- Opens a new innermost scope. -/
def enter (bindings : Bindings) : Bindings :=
  let (index, frames) := bindings.frames.allocate .empty
  { bindings with frames, scopes := bindings.scopes.push ⟨index⟩ }

/-- Leaves the innermost scope. -/
def leave (bindings : Bindings) : Bindings := { bindings with scopes := bindings.scopes.pop }

/-- Makes another stack of frames the active one. -/
def withScopes (bindings : Bindings) (scopes : Scopes) : Bindings := { bindings with scopes }

/-- Makes a new frame the only active one. -/
def withNewRoot (bindings : Bindings) : Bindings :=
  let (index, frames) := bindings.frames.allocate .empty
  { bindings with frames, scopes := ⟨⟨index⟩, []⟩ }

/-- Names a type in the innermost scope. -/
def bind (bindings : Bindings) (name : String) (binding : Binding) : Bindings :=
  let id := bindings.scopes.innermost
  { bindings with
    frames := bindings.frames.set id.index ((bindings.frame id).insert name binding) }

/-! ### Top level -/

/-- The top-level names of a file in the order of their definition. -/
def definitions (bindings : Bindings) (file : String) : Frame :=
  (bindings.toplevel.get? file).getD .empty

def hasDefinitions (bindings : Bindings) (file : String) : Bool :=
  !(bindings.definitions file).isEmpty

/-- Names a type at the top level of a file. -/
def define (bindings : Bindings) (file name : String) (binding : Binding) : Bindings :=
  { bindings with
    toplevel := bindings.toplevel.insert file ((bindings.definitions file).insert name binding) }

/-! ### Resolving names -/

/-- The innermost active frame that knows a name. -/
def holder? (bindings : Bindings) (name : String) : Option FrameId :=
  bindings.scopes.frames.find? fun id => (bindings.frame id).contains name

/-- What a name stands for: first in the frames, then at the top level of the file. -/
def lookup (bindings : Bindings) (file name : String) : Option Ty :=
  match bindings.holder? name with
  | some id => ((bindings.frame id).get? name).map Binding.ty
  | none => ((bindings.definitions file).get? name).map Binding.ty

/-- Changes the type of a known name and keeps its place; without a result if it is unknown. -/
def retype (bindings : Bindings) (file name : String) (ty : Ty) : Option Bindings :=
  match bindings.holder? name with
  | some id =>
    some { bindings with
      frames := bindings.frames.set id.index
        ((bindings.frame id).modify name fun binding => { binding with ty }) }
  | none =>
    if (bindings.definitions file).contains name then
      some { bindings with
        toplevel := bindings.toplevel.insert file
          ((bindings.definitions file).modify name fun binding => { binding with ty }) }
    else none

/-- A name that is given the type it stands for already stays as it is, and so does all else. -/
theorem retype_same (bindings : Bindings) (file name : String) (ty : Ty)
    (present : bindings.lookup file name = some ty) :
    bindings.retype file name ty = some bindings := by
  unfold lookup at present
  unfold retype
  split at present
  next id found =>
    obtain ⟨binding, held, same⟩ := Option.map_eq_some_iff.mp present
    subst same
    rw [OrderedMap.modify_same _ _ binding _ held rfl]
    unfold frame at held ⊢
    cases cell : bindings.frames.get? id.index with
    | none =>
      rw [cell] at held
      cases held
    | some names => rw [Option.getD_some, Arena.set_same _ _ _ cell]
  next absent =>
    obtain ⟨binding, held, same⟩ := Option.map_eq_some_iff.mp present
    subst same
    rw [if_pos (by rw [OrderedMap.contains, held]; rfl),
      OrderedMap.modify_same _ _ binding _ held rfl]
    unfold definitions at held ⊢
    cases names : bindings.toplevel.get? file with
    | none =>
      rw [names] at held
      cases held
    | some frame => rw [Option.getD_some, OrderedMap.insert_same _ _ _ names]

end Bindings

end CallTyping
