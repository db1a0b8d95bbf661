/-
This file defines blocks as functions and the record of their calls. A block
literal is remembered with its parameters, its untyped body and the scopes it was
written in. A body is typed once for every list of argument types; while that
happens a marker stands in the record, so that the same call is recognised further
down. Argument lists are compared by structure in the heap of the moment.
-/

import CallTyping.Heap.Equality
import CallTyping.Scope

namespace CallTyping

/-! ### Closures -/

/-- All that is needed to run the body of a block later on. -/
structure Closure where
  params : List String
  /-- The statements as written, without types. -/
  body : Program
  span : Span
  /-- The file whose top level the body sees. -/
  file : String
  /-- The scopes in which the block was written. -/
  scopes : Scopes

/-- The blocks met so far and the identity of the next one. -/
structure Closures where
  known : OrderedMap ClosureId Closure
  next : Nat

namespace Closures

def empty : Closures := ⟨.empty, 0⟩

/-- Hands out an identity that was not used before. -/
def reserve (closures : Closures) : ClosureId × Closures :=
  (⟨closures.next⟩, { closures with next := closures.next + 1 })

def register (closures : Closures) (id : ClosureId) (closure : Closure) : Closures :=
  { closures with known := closures.known.insert id closure }

def get? (closures : Closures) (id : ClosureId) : Option Closure := closures.known.get? id

def count (closures : Closures) : Nat := closures.known.size

end Closures

/-! ### Specializations -/

/-- How far a body has been typed for its arguments. -/
inductive Progress where
  | running
  | done (result : Ty) (body : Program)

/-- A body together with the argument types it is typed for. -/
structure Specialization where
  args : List Ty
  progress : Progress

namespace Specialization

def isRunning (entry : Specialization) : Bool :=
  match entry.progress with
  | .running => true
  | .done _ _ => false

def result? (entry : Specialization) : Option Ty :=
  match entry.progress with
  | .running => none
  | .done result _ => some result

/-- The typed copy of the body. -/
def body? (entry : Specialization) : Option Program :=
  match entry.progress with
  | .running => none
  | .done _ body => some body

end Specialization

/-- The specializations of every closure, oldest first. -/
structure Cache where
  entries : OrderedMap ClosureId (List Specialization)

/-- What is known about a call at the moment it is made. -/
inductive Recall where
  /-- The body has been typed for these arguments before. -/
  | known (result : Ty)
  /-- The body is being typed for these arguments now. -/
  | running
  /-- Nothing; a marker has been set and the body has to be typed. -/
  | started

namespace Cache

def empty : Cache := ⟨.empty⟩

/-- The specializations of one closure. -/
def of (cache : Cache) (closure : ClosureId) : List Specialization :=
  (cache.entries.get? closure).getD []

/-- The number of specializations of all closures. -/
def count (cache : Cache) : Nat :=
  cache.entries.entries.foldr (fun entry total => entry.2.length + total) 0

/-- Recalls a call, or sets a marker for it. -/
def start (cache : Cache) (heap : Heap) (closure : ClosureId) (args : List Ty) : Recall × Cache :=
  match (cache.of closure).find? fun entry => heap.sameArguments entry.args args with
  | some entry =>
    match entry.progress with
    | .done result _ => (.known result, cache)
    | .running => (.running, cache)
  | none => (.started, ⟨cache.entries.insert closure (cache.of closure ++ [⟨args, .running⟩])⟩)

/-- Whether an entry is the marker of a call with these arguments. -/
def isMarker (heap : Heap) (args : List Ty) (entry : Specialization) : Bool :=
  entry.isRunning && heap.sameArguments entry.args args

/-- Puts other entries in the place of the first one that is wanted. -/
def replaceFirst (wanted : Specialization → Bool)
    (change : Specialization → List Specialization) :
    List Specialization → List Specialization
  | [] => []
  | entry :: rest =>
    if wanted entry then change entry ++ rest else entry :: replaceFirst wanted change rest

/-- Turns the marker of a call into its result. -/
def finish (cache : Cache) (heap : Heap) (closure : ClosureId) (args : List Ty) (result : Ty)
    (body : Program) : Cache :=
  ⟨cache.entries.modify closure (replaceFirst (isMarker heap args)
    fun entry => [{ entry with progress := .done result body }])⟩

/-- Takes the marker of a call away. -/
def abandon (cache : Cache) (heap : Heap) (closure : ClosureId) (args : List Ty) : Cache :=
  ⟨cache.entries.modify closure (replaceFirst (isMarker heap args) fun _ => [])⟩

end Cache

end CallTyping
