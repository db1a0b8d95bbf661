/-
This file defines where the programs of required files come from. A loader serves
finitely many paths, which bounds how many files can be checked inside each other.
Loaders hand out copies without types, so a program can be checked again.
-/

import CallTyping.OrderedMap
import CallTyping.Syntax

namespace CallTyping

/-- A source of programs that fails with a message on all but finitely many paths. -/
structure Loader where
  load : String → Except String Program
  /-- All paths that can be loaded. -/
  paths : List String
  mem_paths : ∀ path program, load path = .ok program → path ∈ paths

/-- Programs kept by path. -/
abbrev Sources := OrderedMap String Program

namespace Sources

/-- A fresh copy of the program kept for a path. -/
def load (sources : Sources) (path : String) : Except String Program :=
  match sources.get? path with
  | some program => .ok program.fresh
  | none => .error ("no source registered for '" ++ path ++ "'")

/-- The loader that serves exactly these programs. -/
def loader (sources : Sources) : Loader where
  load := sources.load
  paths := sources.keys
  mem_paths path program loaded := by
    rw [← OrderedMap.contains_iff, OrderedMap.contains]
    unfold load at loaded
    split at loaded
    next equal => rw [equal]; rfl
    next => cases loaded

end Sources

namespace Loader

/-- The loader without any program. -/
def empty : Loader := Sources.loader OrderedMap.empty

/-- A loader that fails with a given message on some paths, and else serves as before. -/
def failingOn (loader : Loader) (failures : OrderedMap String String) : Loader where
  load path :=
    match failures.get? path with
    | some message => .error message
    | none => loader.load path
  paths := loader.paths
  mem_paths path program loaded := by
    split at loaded
    next => cases loaded
    next => exact loader.mem_paths path program loaded

end Loader

end CallTyping
