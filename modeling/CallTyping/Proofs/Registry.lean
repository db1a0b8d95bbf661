/-
This file defines when everything that a check has kept makes sense. The blocks that
are remembered have the identities below the next one; the types in the heap, of
names, inlays and recorded calls make sense; a recorded call has an argument for
every parameter; and the types in the trees that are kept are under their rules.
The conduct of a pass that keeps this true also says that a pass ends where it began,
and for which reasons it may stop. The single actions of a pass conduct themselves
so, and so do calls and loads if the runs of statements do.
-/

import CallTyping.Proofs.Consistency
import CallTyping.Proofs.Contents
import CallTyping.Proofs.Termination

namespace CallTyping

/-! ### The record of calls -/

/-- A recorded call is of a known block and has an argument for each of its parameters. Its result
makes sense, and so do the types in the typed copy of the body. -/
structure Stock.ExplainsCall (stock : Stock) (id : ClosureId) (entry : Specialization) : Prop where
  known : stock.Knows id entry.args.length
  args : ∀ ty ∈ entry.args, stock.Explains ty
  result : ∀ ty ∈ entry.result?, stock.Explains ty
  body : ∀ body ∈ entry.body?, Intact (fun _ => False) stock (preorderNodes body)

/-- All recorded calls are so. -/
def Stock.ExplainsCalls (stock : Stock) (cache : Cache) : Prop :=
  ∀ id, ∀ entry ∈ cache.of id, stock.ExplainsCall id entry

namespace Stock

variable {stock before after : Stock} {cache : Cache} {id : ClosureId} {args : List Ty}

theorem ExplainsCall.mono (grown : before.Grows after) {entry : Specialization}
    (explained : before.ExplainsCall id entry) : after.ExplainsCall id entry where
  known := explained.known.mono grown
  args ty member := (explained.args ty member).mono grown
  result ty member := (explained.result ty member).mono grown
  body body member := (explained.body body member).later grown

theorem ExplainsCalls.mark (explained : stock.ExplainsCalls cache)
    (known : stock.Knows id args.length) (arguments : ∀ ty ∈ args, stock.Explains ty) :
    stock.ExplainsCalls (cache.mark id args) := by
  intro other entry member
  rcases Cache.mem_mark member with old | ⟨rfl, rfl⟩
  · exact explained other entry old
  · exact ⟨known, arguments, nofun, nofun⟩

theorem ExplainsCalls.finish (explained : stock.ExplainsCalls cache) (heap : Heap)
    (id : ClosureId) (args : List Ty) {result : Ty} (fine : stock.Explains result)
    {body : Program} (intact : Intact (fun _ => False) stock (preorderNodes body)) :
    stock.ExplainsCalls (cache.finish heap id args result body) := by
  intro other entry member
  rcases Cache.mem_finish member with old | ⟨rfl, marker, inside, -, rfl⟩
  · exact explained other entry old
  · have marked := explained other marker inside
    refine ⟨marked.known, marked.args, ?_, ?_⟩
    · rintro _ ⟨⟩
      exact fine
    · rintro _ ⟨⟩
      exact intact

theorem ExplainsCalls.abandon (explained : stock.ExplainsCalls cache) (heap : Heap)
    (id : ClosureId) (args : List Ty) : stock.ExplainsCalls (cache.abandon heap id args) :=
  fun other entry member => explained other entry (Cache.mem_abandon member)

end Stock

/-! ### States -/

/-- Every type that a state holds makes sense. A tree of a required file was served for it, and may
have kept types with which it was served. -/
structure Stock.ExplainsState (stock : Stock) (served : String → Program → Prop)
    (checker : Checker) : Prop where
  heap : checker.heap.All stock.Explains
  bindings : checker.bindings.All stock.Explains
  inlays : ∀ inlay ∈ checker.inlays, stock.Explains inlay.ty
  calls : stock.ExplainsCalls checker.cache
  modules (path : String) (tree : Program) : checker.modules.get? path = some tree →
    ∃ source, served path source ∧
      Intact (Carries (preorderNodes source)) stock (preorderNodes tree)

theorem Stock.ExplainsState.mono {before after : Stock} (grown : before.Grows after)
    {served : String → Program → Prop} {checker : Checker}
    (explained : before.ExplainsState served checker) : after.ExplainsState served checker where
  heap := explained.heap.imp fun _ fine => fine.mono grown
  bindings := explained.bindings.imp fun _ fine => fine.mono grown
  inlays inlay member := (explained.inlays inlay member).mono grown
  calls id entry member := (explained.calls id entry member).mono grown
  modules path tree known := by
    obtain ⟨source, was, intact⟩ := explained.modules path tree known
    exact ⟨source, was, intact.later grown⟩

/-- A state in which exactly the identities that were handed out are known, bodies are kept without
types, and all types make sense. -/
structure Registered (served : String → Program → Prop) (checker : Checker) : Prop extends
    checker.stock.ExplainsState served checker where
  ids (id : ClosureId) :
    (∃ closure, checker.closures.get? id = some closure) ↔ id.index < checker.closures.next
  blank : checker.closures.Fresh

/-- The types for which a body runs make sense, and there is one for each of its parameters. -/
def Occasion.Fits (stock : Stock) : Occasion → Prop
  | .file _ => True
  | .body id args => stock.Knows id args.length ∧ ∀ ty ∈ args, stock.Explains ty

theorem Occasion.Fits.mono {before after : Stock} (grown : before.Grows after) :
    {occasion : Occasion} → occasion.Fits before → occasion.Fits after
  | .file _, _ => trivial
  | .body _ _, ⟨known, explained⟩ =>
    ⟨known.mono grown, fun ty member => (explained ty member).mono grown⟩

namespace Registered

variable {served : String → Program → Prop} {checker : Checker}

theorem initial (served : String → Program → Prop) : Registered served .initial where
  ids _ := ⟨nofun, nofun⟩
  blank _ _ known := nomatch known
  heap := .empty
  bindings := .empty
  inlays _ member := nomatch member
  calls _ _ member := nomatch member
  modules _ _ known := nomatch known

theorem imp {more : String → Program → Prop} (registered : Registered served checker)
    (implies : ∀ path source, served path source → more path source) :
    Registered more checker :=
  { registered with
    modules := fun path tree known => by
      obtain ⟨source, was, intact⟩ := registered.modules path tree known
      exact ⟨source, implies path source was, intact⟩ }

/-- Places play no part, nor do the depth of calls, the open files and the logs. -/
theorem moved {other : Checker} (registered : Registered served checker)
    (stock : other.stock = checker.stock) (bindings : other.bindings = checker.bindings)
    (cache : other.cache = checker.cache) (modules : other.modules = checker.modules)
    (inlays : other.inlays = checker.inlays) : Registered served other where
  ids := by rw [show other.closures = _ from congrArg Stock.closures stock]; exact registered.ids
  blank := by
    rw [show other.closures = _ from congrArg Stock.closures stock]
    exact registered.blank
  heap := by
    rw [stock, show other.heap = _ from congrArg Stock.heap stock]
    exact registered.heap
  bindings := by rw [stock, bindings]; exact registered.bindings
  inlays := by rw [stock, inlays]; exact registered.inlays
  calls := by rw [stock, cache]; exact registered.calls
  modules := by rw [stock, modules]; exact registered.modules

theorem withBindings (registered : Registered served checker) {bindings : Bindings}
    (all : bindings.All checker.stock.Explains) : Registered served { checker with bindings } :=
  { registered with bindings := all }

theorem withCache (registered : Registered served checker) {cache : Cache}
    (calls : checker.stock.ExplainsCalls cache) : Registered served { checker with cache } :=
  { registered with calls }

theorem withInlay (registered : Registered served checker) (file : String) (span : Span) {ty : Ty}
    (explained : checker.stock.Explains ty) :
    Registered served { checker with inlays := checker.inlays.push ⟨file, span, ty⟩ } :=
  { registered with
    inlays := fun inlay member => by
      rcases Array.mem_push.mp member with old | rfl
      · exact registered.inlays inlay old
      · exact explained }

theorem withModule (registered : Registered served checker) {file : String}
    {source tree : Program} (serves : served file source)
    (intact : Intact (Carries (preorderNodes source)) checker.stock (preorderNodes tree)) :
    Registered served { checker with modules := checker.modules.insert file tree } :=
  { registered with
    modules := fun path other known => by
      by_cases same : path = file
      · subst same
        rw [OrderedMap.get?_insert_self] at known
        cases known
        exact ⟨source, serves, intact⟩
      · rw [OrderedMap.get?_insert_other _ _ _ _ same] at known
        exact registered.modules path other known }

/-- The heap may grow by types that make sense. -/
theorem withHeap (registered : Registered served checker) {heap : Heap}
    (grown : checker.heap.Grows heap) (all : heap.All checker.stock.Explains) :
    Registered served { checker with heap } :=
  have later : checker.stock.Grows ⟨checker.closures, heap⟩ := ⟨.refl _, grown⟩
  { registered.toExplainsState.mono later with
    ids := registered.ids
    blank := registered.blank
    heap := all.imp fun _ fine => fine.mono later }

theorem bounded (registered : Registered served checker) : checker.closures.Bounded :=
  fun id closure known => (registered.ids id).mp ⟨closure, known⟩

theorem grows_remembered (registered : Registered served checker) (closure : Closure) :
    checker.stock.Grows (Conduct.remembered checker closure).stock :=
  ⟨Closures.within_remembered registered.bounded closure, .refl _⟩

theorem remembered (registered : Registered served checker) {closure : Closure}
    (blank : Blank (preorderNodes closure.body)) :
    Registered served (Conduct.remembered checker closure) :=
  { registered.toExplainsState.mono (registered.grows_remembered closure) with
    ids := fun id => by
      rw [Closures.get?_remembered]
      by_cases same : id = ⟨checker.closures.next⟩
      · rw [if_pos same, same]
        exact ⟨fun _ => Nat.lt_succ_self _, fun _ => ⟨closure, rfl⟩⟩
      · rw [if_neg same, registered.ids id]
        have different : id.index ≠ checker.closures.next := fun equal => same (by
          cases id
          exact congrArg ClosureId.mk equal)
        show id.index < checker.closures.next ↔ id.index < checker.closures.next + 1
        omega
    blank := Closures.fresh_remembered registered.blank blank }

theorem enterScope (registered : Registered served checker) :
    Registered served checker.enterScope :=
  registered.withBindings registered.bindings.enter

theorem leaveScope (registered : Registered served checker) :
    Registered served checker.leaveScope :=
  registered.withBindings registered.bindings.leave

theorem beginBody (registered : Registered served checker) {id : ClosureId} {args : List Ty}
    (closure : Closure) (fits : (Occasion.body id args).Fits checker.stock) :
    Registered served (checker.beginBody id closure args) := by
  have marked := registered.withCache (registered.calls.mark fits.1 fits.2)
  have entered := (registered.bindings.withScopes closure.scopes).enter
  have bound := entered.bindEach closure.span (closure.params.zip args) fun pair member =>
    fits.2 pair.2 (List.of_mem_zip member).2
  exact (marked.withBindings bound).moved rfl rfl rfl rfl rfl

theorem leaveBody (registered : Registered served checker) (file : String) (scopes : Scopes) :
    Registered served (checker.leaveBody file scopes) :=
  (registered.withBindings (registered.bindings.withScopes scopes)).moved rfl rfl rfl rfl rfl

theorem enterFile (registered : Registered served checker) (file : String) :
    Registered served (checker.enterFile file) :=
  (registered.withBindings registered.bindings.withNewRoot).moved rfl rfl rfl rfl rfl

theorem beginFile (registered : Registered served checker) (file : String) :
    Registered served (checker.beginFile file) :=
  (registered.withBindings registered.bindings.withNewRoot).moved rfl rfl rfl rfl rfl

theorem leaveFile (registered : Registered served checker) (file previous : String)
    (scopes : Scopes) : Registered served (checker.leaveFile file previous scopes) :=
  (registered.withBindings (registered.bindings.withScopes scopes)).moved rfl rfl rfl rfl rfl

end Registered

/-! ### Passes -/

/-- Whether a fault says that the checker itself went wrong. -/
def Fault.isInternal : Fault → Bool
  | .alreadyTyped _ | .untyped | .unknownClosure _ => true
  | _ => false

/-- Whether a check stops because the checker itself went wrong. -/
def Stop.isInternal : Stop → Bool
  | .fault error => error.fault.isInternal
  | .exhausted => false

theorem Fault.isInternal_of_isOfRule {fault : Fault} (rule : fault.isOfRule = true) :
    fault.isInternal = false := by
  cases fault <;> first | rfl | cases rule

/-- What is known about trees before they are visited: which ones may be served for a path, and
whether any of them has types. -/
structure Terms where
  setup : Setup
  served : String → Program → Prop
  typed : Prop
  serves : ∀ path source, setup.loader.load path = .ok source →
    served path source ∧ Was (fun _ => typed) (preorderNodes source)

namespace Terms

variable (terms : Terms) (levels : Nat)

/-- Types go on to make sense; a pass ends where it began, and in a fault of the checker itself only
if there are trees that have types already. -/
structure Registers (before : Checker) (stop : Option Stop) (after : Checker) : Prop where
  grows : before.stock.Grows after.stock
  registered : Registered terms.served after
  settled : Settled terms.setup levels before stop after
  proper : ∀ reason ∈ stop, reason.isInternal = true → terms.typed

/-- The conduct of a pass from states in which all types make sense. Only types that do are met. -/
def registering : Conduct where
  ready := Registered terms.served
  admits slot := ∀ ty, slot = some ty → terms.typed
  flow before stop after :=
    Registered terms.served before → terms.Registers levels before stop after
  fits checker ty := checker.stock.Explains ty

/-- What a visit gives back: it conducts itself so with a good answer, and in the slots of the piece
there are old types or such as are under the rules. -/
structure Fills {α β : Type} (old : Ty → Prop) (list : α → List Node) (visit : Visit α β)
    (checker : Checker) (good : α → β → Checker → Prop) : Prop where
  ends : (terms.registering levels).Ends checker (good (visit checker).1.1) (visit.outcome checker)
  intact : Registered terms.served checker →
    Intact old (visit checker).2.stock (list (visit checker).1.1)

/-- Runs of statements conduct themselves so, and answer with the types that they put into the
slots of the statements. -/
structure Runs (run : Runner) : Prop where
  restores (occasion : Occasion) (program : Program) (checker : Checker) :
    Restored checker (run occasion program checker).2
  fills (old : Ty → Prop) (excused : ∀ ty, old ty → terms.typed) (occasion : Occasion)
    (program : Program) (checker : Checker) (was : Was old (preorderNodes program))
    (fits : occasion.Fits checker.stock) :
    terms.Fills levels old preorderNodes (run occasion program) checker fun typed types after =>
      typed.map Node.slot = types.map some ∧ (terms.registering levels).FitAll after types

variable {terms levels} {before after checker : Checker}

namespace Registers

theorem trans {first second third : Checker} {stop : Option Stop}
    (left : terms.Registers levels first none second)
    (right : terms.Registers levels second stop third) :
    terms.Registers levels first stop third :=
  ⟨left.grows.trans right.grows, right.registered, left.settled.trans right.settled, right.proper⟩

/-- A single action. -/
theorem acted (registered : Registered terms.served after) (restored : Restored before after)
    (grows : before.stock.Grows after.stock) : terms.Registers levels before none after :=
  ⟨grows, registered, .answered restored, nofun⟩

/-- An action by which neither blocks nor the heap are touched. -/
theorem of_same (registered : Registered terms.served after) (restored : Restored before after)
    (same : after.stock = before.stock) : terms.Registers levels before none after :=
  .acted registered restored (same ▸ .refl _)

/-- A fault that is not one of the checker itself. -/
theorem faulted {error : TypeError} (registered : Registered terms.served after)
    (restored : Restored before after) (same : after.stock = before.stock)
    (proper : error.fault.isInternal = true → terms.typed := by exact nofun) :
    terms.Registers levels before (some (.fault error)) after :=
  ⟨same ▸ .refl _, registered, .faulted restored, by rintro _ ⟨⟩; exact proper⟩

/-- Without levels nothing is run. -/
theorem exhausted (registered : Registered terms.served checker) :
    terms.Registers 0 checker (some .exhausted) checker where
  grows := .refl _
  registered := registered
  settled := ⟨.refl _, fun impossible => absurd impossible (Nat.not_lt_zero _)⟩
  proper := by
    rintro _ ⟨⟩ own
    cases own

end Registers

/-! ### Calls and loads -/

variable {run : Runner} {span : Span}

theorem call_registers (runs : terms.Runs levels run) {id : ClosureId} {args : List Ty}
    {outcome : Except Stop Ty × Checker} (fits : (Occasion.body id args).Fits checker.stock)
    (restored : Restored checker outcome.2)
    (ends : CallEnds terms.setup run span id args checker outcome) :
    (terms.registering (levels + 1)).Ends checker
      (terms.registering (levels + 1)).Fitting outcome := by
  intro registered
  have cleared : Registered terms.served ((checker.markCall id args).abandonCall id args) :=
    registered.withCache ((registered.calls.mark fits.1 fits.2).abandon checker.heap id args)
  -- Bodies are kept without types, so their copies have none but those that the run fills in.
  have fills (closure : Closure) (present : checker.closures.get? id = some closure) :=
    runs.fills (fun _ => False) nofun (.body id args) closure.body
      (checker.beginBody id closure args) ((registered.blank id closure present).was _) fits
  cases ends with
  | known stored result body found =>
    have recorded := registered.calls id _ (List.mem_of_find?_eq_some found)
    exact ⟨fun _ => .of_same (registered.moved rfl rfl rfl rfl rfl) restored rfl,
      recorded.result result rfl⟩
  | running => exact fun _ => .faulted registered restored rfl
  | tooDeep => exact fun _ => .faulted cleared restored rfl
  | unknown _ missing =>
    obtain ⟨closure, present, -⟩ := fits.1
    rw [show checker.stock.closures = checker.closures from rfl, missing] at present
    cases present
  | typed closure body types after _ _ present ran =>
    have begun := registered.beginBody closure fits
    have ended := (fills closure present).ends begun
    have intact := (fills closure present).intact begun
    rw [Visit.outcome, ran] at ended
    rw [ran] at intact
    obtain ⟨flow, -, fit⟩ := ended
    have inner := flow begun
    have result := Stock.explains_ofBody fit
    have left := inner.registered.leaveBody checker.file checker.bindings.scopes
    have finished := left.withCache (left.calls.finish after.heap id args result intact)
    exact ⟨fun _ => .acted finished restored inner.grows, result⟩
  | failed closure body stop after _ shallow present ran =>
    have begun := registered.beginBody closure fits
    have inner := (fills closure present).ends.flow begun begun
    rw [Visit.outcome, ran] at inner
    have left := inner.registered.leaveBody checker.file checker.bindings.scopes
    have abandoned := left.withCache (left.calls.abandon after.heap id args)
    refine fun _ => ⟨inner.grows, abandoned, ⟨restored, fun enough _ => ?_⟩, inner.proper⟩
    have less := headroom_beginBody id closure args shallow
    exact inner.settled.ends (by omega) shallow

theorem load_registers (runs : terms.Runs levels run) {file : String}
    {outcome : Except Stop Unit × Checker} (closed : checker.isOpen file = false)
    (restored : Restored checker outcome.2)
    (ends : LoadEnds terms.setup run span file checker outcome) :
    (terms.registering (levels + 1)).Ends checker (fun _ _ => True) outcome := by
  intro registered
  have begun := registered.beginFile file
  have fills (source : Program) (loaded : terms.setup.loader.load file = .ok source) :
      terms.Fills levels (Carries (preorderNodes source)) preorderNodes (run (.file file) source)
        (checker.beginFile file) fun typed types after =>
          typed.map Node.slot = types.map some ∧ (terms.registering levels).FitAll after types := by
    refine runs.fills _ ?_ (.file file) source _ (was_carries _) trivial
    rintro ty ⟨node, member, typed⟩
    exact (terms.serves file source loaded).2 node member ty typed
  cases ends with
  | missing => exact fun _ => .faulted (registered.moved rfl rfl rfl rfl rfl) restored rfl
  | checked source typed types after loaded ran =>
    have inner := (fills source loaded).ends.flow begun begun
    have intact := (fills source loaded).intact begun
    rw [Visit.outcome, ran] at inner
    rw [ran] at intact
    have left := inner.registered.leaveFile file checker.file checker.bindings.scopes
    have kept := left.withModule (terms.serves file source loaded).1 intact
    exact ⟨fun _ => .acted kept restored inner.grows, trivial⟩
  | failed source typed stop after loaded ran =>
    have inner := (fills source loaded).ends.flow begun begun
    rw [Visit.outcome, ran] at inner
    have left := inner.registered.leaveFile file checker.file checker.bindings.scopes
    refine fun _ => ⟨inner.grows, left, ⟨restored, fun enough shallow => ?_⟩, inner.proper⟩
    have less : (checker.beginFile file).headroom terms.setup < checker.headroom terms.setup :=
      headroom_enterFile_lt loaded closed
    exact inner.settled.ends (by omega) shallow

theorem registering_sound (runs : terms.Runs levels run) :
    (terms.registering (levels + 1)).Sound terms.setup run :=
  have kept := restored_flow terms.setup runs.restores
  { still := fun checker registered => .of_same registered (kept.still checker) rfl
    trans := fun left right registered =>
      (left registered).trans (right (left registered).registered)
    stays := fun flow registered => (flow registered).registered
    fault := fun _ _ _ _ rule registered => .faulted registered (.refl _) rfl fun own => by
      rw [Fault.isInternal_of_isOfRule rule] at own
      cases own
    refilled := fun _ _ old _ _ typed registered =>
      .faulted registered (.refl _) rfl fun _ => typed old rfl
    record := fun checker event registered =>
      .of_same (registered.moved rfl rfl rfl rfl rfl) (kept.record checker event) rfl
    inlay := fun checker span ty fit registered =>
      .of_same (registered.withInlay checker.file span fit) (kept.inlay checker span ty) rfl
    bind := fun checker name ty span fit registered =>
      .of_same (registered.withBindings (registered.bindings.bind name fit))
        (kept.bind checker name ty span) rfl
    define := fun checker name ty span fit registered =>
      .of_same (registered.withBindings (registered.bindings.define checker.file name fit))
        (kept.define checker name ty span) rfl
    block := fun checker params body span _ =>
      ⟨fun registered => .acted (registered.remembered (blank_freshNodes body))
        (kept.block checker params body span) (registered.grows_remembered _),
        explains_remembered checker _⟩
    join := fun checker left right ty grown _ _ joined registered =>
      .acted (registered.withHeap (Heap.join_grows joined) (registered.heap.join joined))
        (kept.join checker left right ty grown joined) ⟨.refl _, Heap.join_grows joined⟩
    object := fun checker fields fit => by
      have grown := checker.heap.newObject_grows (.ofList fields)
      refine ⟨fun registered => .acted (registered.withHeap grown
        (registered.heap.newObject (OrderedMap.all_ofList fit)))
        (kept.object checker _) ⟨.refl _, grown⟩, Stock.explains_newObject _ _ _⟩
    variant := fun checker tag args fit => by
      have grown := checker.heap.newVariant_grows (.singleton tag args)
      refine ⟨fun registered => .acted (registered.withHeap grown
        (registered.heap.newVariant (OrderedMap.all_singleton fit tag)))
        (kept.variant checker _) ⟨.refl _, grown⟩, Stock.explains_newVariant _ _ _⟩
    addField := fun checker id name ty _ fit new registered =>
      have grown := checker.heap.setField_grows id name ty new
      .acted (registered.withHeap grown (registered.heap.setField id name fit))
        (kept.addField checker id name ty new) ⟨.refl _, grown⟩
    keeps := fun leads fit => Stock.Explains.mono (leads.flow leads.ready).grows _ fit
    unit := fun _ => trivial
    literal := fun checker value => checker.stock.explains_literal value
    lookup := fun _ _ _ registered found => registered.bindings.lookup found
    field := fun _ _ _ _ registered _ found => registered.heap.field found
    tag := fun _ _ _ _ registered _ found => registered.heap.tag found
    exported := fun _ file _ _ registered member =>
      (registered.bindings.definitions file).entries member
    supply := fun _ _ _ _ _ function args fewer => Stock.Explains.supply function args fewer
    opens := .enterScope
    enter := id
    leave := id
    scope := fun flow registered => by
      have inner := flow registered.enterScope
      have restored := @Flow.scope _ _ _ kept _ _ none inner.settled.restored
      exact ⟨inner.grows, inner.registered.leaveScope, ⟨restored, inner.settled.ends⟩,
        inner.proper⟩
    call := fun checker span id arity bound args _ function explained all => by
      have ends := runClosure_ends terms.setup run span id (bound ++ args) checker
      exact call_registers runs (Stock.Explains.saturated function explained all)
        (kept.call ends) ends
    load := fun checker span file _ closed unknown => by
      have ends := loadFile_ends terms.setup run span file checker
      exact load_registers runs closed (kept.load closed unknown ends) ends }

end Terms

end CallTyping
