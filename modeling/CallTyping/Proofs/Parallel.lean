/-
This file relates two states that differ only in what is kept of open parts: the
bodies of remembered blocks, and typed programs. All that the rules read is the
same in both, and the record of calls knows the same calls.
-/

import CallTyping.Proofs.Excursion
import CallTyping.Proofs.Sketch
import Mathlib.Data.List.Forall2

namespace CallTyping

/-! ### Maps with related values -/

/-- Lists of related values have the same summaries. -/
theorem map_eq_of_forall₂ {α β γ : Type} {related : α → β → Prop} {summary : α → γ}
    {summary' : β → γ} (same : ∀ value value', related value value' →
      summary' value' = summary value) {values : List α} {values' : List β}
    (pairs : List.Forall₂ related values values') : values'.map summary' = values.map summary := by
  induction pairs with
  | nil => rfl
  | cons relates _ inductionHypothesis =>
    rw [List.map_cons, List.map_cons, inductionHypothesis, same _ _ relates]

namespace OrderedMap

variable {κ α β : Type} {related : α → β → Prop} {left : OrderedMap κ α} {right : OrderedMap κ β}

/-- Two maps have the same keys in the same order, with related values. -/
def Pairs (related : α → β → Prop) (left : OrderedMap κ α) (right : OrderedMap κ β) : Prop :=
  List.Forall₂ (fun entry entry' => entry'.1 = entry.1 ∧ related entry.2 entry'.2) left.entries
    right.entries

theorem Pairs.refl {related : α → α → Prop} (same : ∀ value, related value value)
    (map : OrderedMap κ α) : map.Pairs related map :=
  List.forall₂_same.mpr fun entry _ => ⟨rfl, same entry.2⟩

theorem Pairs.keys (pairs : left.Pairs related right) : right.keys = left.keys :=
  map_eq_of_forall₂ (fun _ _ same => same.1) pairs

variable [DecidableEq κ]

theorem Pairs.get? (pairs : left.Pairs related right) (key : κ) :
    Option.Rel related (left.get? key) (right.get? key) := by
  unfold Pairs at pairs
  unfold OrderedMap.get?
  generalize left.entries = entries, right.entries = entries' at pairs
  induction pairs with
  | nil => exact .none
  | @cons entry entry' _ _ same _ inductionHypothesis =>
    rw [find, find, same.1]
    split
    · exact .some same.2
    · exact inductionHypothesis

theorem Pairs.insert (pairs : left.Pairs related right) (key : κ) {value : α} {value' : β}
    (relates : related value value') :
    (left.insert key value).Pairs related (right.insert key value') := by
  unfold Pairs OrderedMap.insert at *
  dsimp only
  generalize left.entries = entries, right.entries = entries' at pairs
  induction pairs with
  | nil => exact .cons ⟨rfl, relates⟩ .nil
  | @cons entry entry' _ _ same rest inductionHypothesis =>
    rw [put, put, same.1]
    split
    · exact .cons ⟨rfl, relates⟩ rest
    · exact .cons ⟨rfl, same.2⟩ inductionHypothesis

theorem Pairs.modify (pairs : left.Pairs related right) (key : κ) {change : α → α}
    {change' : β → β} (keeps : ∀ value value', related value value' →
      related (change value) (change' value')) :
    (left.modify key change).Pairs related (right.modify key change') := by
  have values := pairs.get? key
  unfold OrderedMap.modify
  cases known : left.get? key with
  | none =>
    rw [known] at values
    generalize right.get? key = found at values
    cases values
    exact pairs
  | some value =>
    rw [known] at values
    generalize right.get? key = found at values
    cases values with
    | some relates => exact pairs.insert key (keeps _ _ relates)

end OrderedMap

/-! ### The record of calls -/

inductive CompletesProgress (place : Span) : Progress → Progress → Prop where
  | running : CompletesProgress place .running .running
  | done (result : Ty) {body body' : Program} : CompletesNodes place body body' →
    CompletesProgress place (.done result body) (.done result body')

/-- An entry for the same arguments, with the same result for a completed body. -/
structure CompletesEntry (place : Span) (entry entry' : Specialization) : Prop where
  args : entry'.args = entry.args
  progress : CompletesProgress place entry.progress entry'.progress

variable {place : Span}

theorem CompletesProgress.refl : (progress : Progress) → CompletesProgress place progress progress
  | .running => .running
  | .done result body => .done result (.refl place body)

theorem CompletesEntry.refl (entry : Specialization) : CompletesEntry place entry entry :=
  ⟨rfl, .refl entry.progress⟩

theorem CompletesEntry.isRunning {entry entry' : Specialization}
    (completes : CompletesEntry place entry entry') : entry'.isRunning = entry.isRunning := by
  obtain ⟨args, progress⟩ := entry
  obtain ⟨args', progress'⟩ := entry'
  cases completes.progress <;> rfl

theorem CompletesEntry.result? {entry entry' : Specialization}
    (completes : CompletesEntry place entry entry') : entry'.result? = entry.result? := by
  obtain ⟨args, progress⟩ := entry
  obtain ⟨args', progress'⟩ := entry'
  cases completes.progress <;> rfl

/-- The same calls are recorded, with the same results. -/
def CompletesCache (place : Span) (cache cache' : Cache) : Prop :=
  cache.entries.Pairs (List.Forall₂ (CompletesEntry place)) cache'.entries

namespace CompletesCache

variable {cache cache' : Cache}

theorem of (completes : CompletesCache place cache cache') (id : ClosureId) :
    List.Forall₂ (CompletesEntry place) (cache.of id) (cache'.of id) := by
  have entries := OrderedMap.Pairs.get? completes id
  unfold Cache.of
  generalize cache.entries.get? id = known, cache'.entries.get? id = known' at entries ⊢
  cases entries with
  | none => exact .nil
  | some same => exact same

/-- Calls are recalled by entries that complete each other. -/
theorem recalled? (completes : CompletesCache place cache cache') (heap : Heap) (id : ClosureId)
    (args : List Ty) :
    Option.Rel (CompletesEntry place) (cache.recalled? heap id args)
      (cache'.recalled? heap id args) := by
  unfold Cache.recalled?
  have entries := completes.of id
  generalize cache.of id = known, cache'.of id = known' at entries ⊢
  induction entries with
  | nil => exact .none
  | cons same _ inductionHypothesis =>
    rw [List.find?_cons, List.find?_cons, same.args]
    split
    · exact .some same
    · exact inductionHypothesis

theorem mark (completes : CompletesCache place cache cache') (id : ClosureId) (args : List Ty) :
    CompletesCache place (cache.mark id args) (cache'.mark id args) :=
  OrderedMap.Pairs.insert completes id
    (List.rel_append (completes.of id) (.cons ⟨rfl, .running⟩ .nil))

theorem replaceFirst {change change' : Specialization → List Specialization}
    (keeps : ∀ entry entry', CompletesEntry place entry entry' →
      List.Forall₂ (CompletesEntry place) (change entry) (change' entry'))
    (heap : Heap) (args : List Ty) {entries entries' : List Specialization}
    (completes : List.Forall₂ (CompletesEntry place) entries entries') :
    List.Forall₂ (CompletesEntry place)
      (Cache.replaceFirst (Cache.isMarker heap args) change entries)
      (Cache.replaceFirst (Cache.isMarker heap args) change' entries') := by
  induction completes with
  | nil => exact .nil
  | @cons entry entry' _ _ same rest inductionHypothesis =>
    -- A marker is told by its arguments and by not being finished.
    have marks : Cache.isMarker heap args entry' = Cache.isMarker heap args entry := by
      rw [Cache.isMarker, Cache.isMarker, same.isRunning, same.args]
    rw [Cache.replaceFirst, Cache.replaceFirst, marks]
    split
    · exact List.rel_append (keeps entry entry' same) rest
    · exact .cons same inductionHypothesis

theorem finish (completes : CompletesCache place cache cache') (heap : Heap) (id : ClosureId)
    (args : List Ty) (result : Ty) {body body' : Program}
    (bodies : CompletesNodes place body body') :
    CompletesCache place (cache.finish heap id args result body)
      (cache'.finish heap id args result body') :=
  OrderedMap.Pairs.modify completes id fun _ _ entries => by
    refine replaceFirst (fun entry entry' same => ?_) heap args entries
    exact .cons ⟨same.args, .done result bodies⟩ .nil

theorem abandon (completes : CompletesCache place cache cache') (heap : Heap) (id : ClosureId)
    (args : List Ty) :
    CompletesCache place (cache.abandon heap id args) (cache'.abandon heap id args) :=
  OrderedMap.Pairs.modify completes id fun _ _ => replaceFirst (fun _ _ _ => .nil) heap args

end CompletesCache

/-! ### States -/

/-- A block that was remembered at the same place, with a completed body. -/
structure CompletesClosure (place : Span) (closure closure' : Closure) : Prop where
  params : closure'.params = closure.params
  span : closure'.span = closure.span
  file : closure'.file = closure.file
  scopes : closure'.scopes = closure.scopes
  body : CompletesBody place closure.body closure'.body

/-- Two states that differ only in bodies and typed programs, which complete each other. -/
structure Parallel (place : Span) (first second : Checker) : Prop where
  heap : second.heap = first.heap
  bindings : second.bindings = first.bindings
  file : second.file = first.file
  openFiles : second.openFiles = first.openFiles
  callDepth : second.callDepth = first.callDepth
  inlays : second.inlays = first.inlays
  loads : second.loads = first.loads
  next : second.closures.next = first.closures.next
  known : first.closures.known.Pairs (CompletesClosure place) second.closures.known
  cache : CompletesCache place first.cache second.cache
  modules : first.modules.Pairs (CompletesNodes place) second.modules

namespace Parallel

variable {first second : Checker}

theorem refl (checker : Checker) : Parallel place checker checker where
  heap := rfl
  bindings := rfl
  file := rfl
  openFiles := rfl
  callDepth := rfl
  inlays := rfl
  loads := rfl
  next := rfl
  known := .refl (fun closure => ⟨rfl, rfl, rfl, rfl, .whole (.refl place closure.body)⟩) _
  cache := .refl (fun _ => List.forall₂_same.mpr fun entry _ => .refl entry) _
  modules := .refl (fun program => .refl place program) _

/-! #### What is read -/

theorem lookup (parallel : Parallel place first second) (name : String) :
    second.lookup name = first.lookup name := by
  rw [Checker.lookup, Checker.lookup, parallel.bindings, parallel.file]

theorem isOpen (parallel : Parallel place first second) (file : String) :
    second.isOpen file = first.isOpen file := by
  rw [Checker.isOpen, Checker.isOpen, parallel.openFiles]

theorem get? (parallel : Parallel place first second) (id : ClosureId) :
    Option.Rel (CompletesClosure place) (first.closures.get? id) (second.closures.get? id) :=
  OrderedMap.Pairs.get? parallel.known id

/-! #### What is changed -/

theorem withHeap (parallel : Parallel place first second) (heap : Heap) :
    Parallel place { first with heap } { second with heap } :=
  { parallel with heap := rfl }

theorem withBindings (parallel : Parallel place first second) (bindings : Bindings) :
    Parallel place { first with bindings } { second with bindings } :=
  { parallel with bindings := rfl }

/-- Events have no influence. -/
theorem withLogs (parallel : Parallel place first second) (log log' : Array Event) :
    Parallel place { first with log } { second with log := log' } :=
  { parallel with }

theorem withInlay (parallel : Parallel place first second) (span : Span) (ty : Ty) :
    Parallel place { first with inlays := first.inlays.push ⟨first.file, span, ty⟩ }
      { second with inlays := second.inlays.push ⟨second.file, span, ty⟩ } :=
  { parallel with
    inlays := by
      show second.inlays.push ⟨second.file, span, ty⟩ = first.inlays.push ⟨first.file, span, ty⟩
      rw [parallel.inlays, parallel.file] }

theorem withLoad (parallel : Parallel place first second) (file : String) :
    Parallel place { first with loads := first.loads.push file }
      { second with loads := second.loads.push file } :=
  { parallel with loads := congrArg (Array.push · file) parallel.loads }

theorem withCache (parallel : Parallel place first second) {cache cache' : Cache}
    (completes : CompletesCache place cache cache') :
    Parallel place { first with cache } { second with cache := cache' } :=
  { parallel with cache := completes }

theorem withModule (parallel : Parallel place first second) (file : String) {typed typed' : Program}
    (completes : CompletesNodes place typed typed') :
    Parallel place { first with modules := first.modules.insert file typed }
      { second with modules := second.modules.insert file typed' } :=
  { parallel with modules := parallel.modules.insert file completes }

theorem enterScope (parallel : Parallel place first second) :
    Parallel place first.enterScope second.enterScope := by
  unfold Checker.enterScope
  rw [parallel.bindings]
  exact parallel.withBindings _

theorem leaveScope (parallel : Parallel place first second) :
    Parallel place first.leaveScope second.leaveScope := by
  unfold Checker.leaveScope
  rw [parallel.bindings]
  exact parallel.withBindings _

/-- A block is remembered under the same identity. -/
theorem remember (parallel : Parallel place first second) {closure closure' : Closure}
    (completes : CompletesClosure place closure closure') :
    Parallel place
      { first with
        closures := first.closures.reserve.2.register first.closures.reserve.1 closure }
      { second with
        closures := second.closures.reserve.2.register second.closures.reserve.1 closure' } where
  heap := parallel.heap
  bindings := parallel.bindings
  file := parallel.file
  openFiles := parallel.openFiles
  callDepth := parallel.callDepth
  inlays := parallel.inlays
  loads := parallel.loads
  next := congrArg (· + 1) parallel.next
  known := by
    have same : second.closures.reserve.1 = first.closures.reserve.1 :=
      congrArg ClosureId.mk parallel.next
    rw [same]
    exact parallel.known.insert _ completes
  cache := parallel.cache
  modules := parallel.modules

/-! #### Calls and loads -/

theorem markCall (parallel : Parallel place first second) (id : ClosureId) (args : List Ty) :
    Parallel place (first.markCall id args) (second.markCall id args) :=
  parallel.withCache (parallel.cache.mark id args)

theorem abandonCall (parallel : Parallel place first second) (id : ClosureId) (args : List Ty) :
    Parallel place (first.abandonCall id args) (second.abandonCall id args) := by
  refine parallel.withCache ?_
  rw [parallel.heap]
  exact parallel.cache.abandon first.heap id args

theorem finishCall (parallel : Parallel place first second) (id : ClosureId) (args : List Ty)
    (result : Ty) {body body' : Program} (bodies : CompletesNodes place body body') :
    Parallel place (first.finishCall id args result body)
      (second.finishCall id args result body') := by
  refine parallel.withCache ?_
  rw [parallel.heap]
  exact parallel.cache.finish first.heap id args result bodies

theorem beginBody (parallel : Parallel place first second) (id : ClosureId)
    {closure closure' : Closure} (completes : CompletesClosure place closure closure')
    (args : List Ty) :
    Parallel place (first.beginBody id closure args) (second.beginBody id closure' args) := by
  unfold Checker.beginBody Checker.enterBody
  rw [completes.params, completes.span, completes.file, completes.scopes]
  have marked := parallel.markCall id args
  exact { marked with
    bindings := by rw [show (second.markCall id args).bindings = _ from marked.bindings]
    file := rfl
    callDepth := congrArg (· + 1) marked.callDepth }

/-- Both come back to their callers. -/
theorem leaveBody {caller caller' : Checker} (callers : Parallel place caller caller')
    (parallel : Parallel place first second) :
    Parallel place (first.leaveBody caller.file caller.bindings.scopes)
      (second.leaveBody caller'.file caller'.bindings.scopes) :=
  { parallel with
    bindings := by
      show second.bindings.withScopes caller'.bindings.scopes =
        first.bindings.withScopes caller.bindings.scopes
      rw [parallel.bindings, callers.bindings]
    file := callers.file
    callDepth := congrArg (· - 1) parallel.callDepth }

theorem enterFile (parallel : Parallel place first second) (file : String) :
    Parallel place (first.enterFile file) (second.enterFile file) :=
  { parallel with
    bindings := congrArg Bindings.withNewRoot parallel.bindings
    file := rfl
    openFiles := by
      show (second.openFile file).openFiles = (first.openFile file).openFiles
      rw [Checker.openFile, Checker.openFile, parallel.isOpen, parallel.openFiles] }

/-- Both come back to the file that was current before. -/
theorem leaveFile {previous previous' : Checker} (before : Parallel place previous previous')
    (parallel : Parallel place first second) (file : String) :
    Parallel place (first.leaveFile file previous.file previous.bindings.scopes)
      (second.leaveFile file previous'.file previous'.bindings.scopes) :=
  { parallel with
    bindings := by
      show second.bindings.withScopes previous'.bindings.scopes =
        first.bindings.withScopes previous.bindings.scopes
      rw [parallel.bindings, before.bindings]
    file := before.file
    openFiles := congrArg (List.filter (· ≠ file)) parallel.openFiles }

theorem beginFile (parallel : Parallel place first second) (file : String) :
    Parallel place (first.beginFile file) (second.beginFile file) :=
  (parallel.withLoad file).enterFile file

end Parallel

end CallTyping
