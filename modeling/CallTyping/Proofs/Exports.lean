/-
This file proves which names a file exports. Requires are put at the top level of the
file from wherever they stand, and with that exception nothing below the statements of
a file reaches a table of top-level names: neither definitions in conditionals, loops,
arms and bodies do, nor updates, since these leave every name the type that it had. So
if requires are statements of files only, then each file writes its own table, and
writes it statement by statement.
-/

import CallTyping.Proofs.Consistency
import CallTyping.Proofs.Shadowing

namespace CallTyping

/-! ### What a statement exports -/

/-- The name that an expression introduces. -/
def Expr.introduced? : Expr → Option String
  | .define name _ | .require name => some name
  | _ => none

/-- The name that a node exports if it is a statement of a file. -/
def Node.exportedName? (node : Node) : Option String := node.expr.introduced?

/-- The type that the name stands for: that of the value, or of the require itself. -/
def Node.exportedType? : Node → Option Ty
  | .mk _ _ (.define _ value) => value.slot
  | .mk _ slot (.require _) => slot
  | _ => none

/-- The entry that a statement makes in the table of its file, once it has its type. -/
def Node.export? (node : Node) : Option (String × Binding) :=
  node.exportedName?.bind fun name => node.exportedType?.map fun ty => (name, ⟨ty, node.span⟩)

theorem export?_eq {node : Node} {name : String} {ty : Ty}
    (named : node.exportedName? = some name) (typed : node.exportedType? = some ty) :
    node.export? = some (name, ⟨ty, node.span⟩) := by
  rw [Node.export?, named, typed]
  rfl

/-- Where a statement stands, and the name that it introduces. -/
def Node.heading (node : Node) : Span × Option String := (node.span, node.exportedName?)

def Expr.isRequire : Expr → Bool
  | .require _ => true
  | _ => false

/-- Nothing in these nodes is a require. -/
abbrev RequireFree (nodes : List Node) : Prop := Allowed (·.isRequire = false) nodes

/-- Requires are among the statements only, and not inside of them. -/
def RequiresOnTop (program : Program) : Prop :=
  ∀ statement ∈ program, RequireFree statement.expr.preorder

theorem requireFree_fresh {nodes : List Node} (free : RequireFree (preorderNodes nodes)) :
    RequireFree (preorderNodes (freshNodes nodes)) := by
  rw [preorder_freshNodes]
  intro node member
  obtain ⟨⟨span, slot, expr⟩, inside, rfl⟩ := List.mem_map.mp member
  have own := free _ inside
  cases expr <;> first | rfl | cases own

/-! ### Tables as lists of entries -/

namespace OrderedMap

variable {α : Type}

theorem ofList_append (pairs : List (String × α)) (key : String) (value : α) :
    ofList (pairs ++ [(key, value)]) = (ofList pairs).insert key value := by
  rw [ofList, List.foldl_append]
  rfl

/-- The keys of a list of pairs stand in the order in which they occur first. -/
theorem keys_ofList (pairs : List (String × α)) :
    (ofList pairs).keys = (pairs.map Prod.fst).eraseDups := by
  induction pairs using List.reverseRecOn with
  | nil => rfl
  | append_singleton pairs pair inductionHypothesis =>
    obtain ⟨key, value⟩ := pair
    rw [ofList_append, keys_insert, inductionHypothesis, List.map_append, List.eraseDups_append]
    by_cases known : key ∈ pairs.map Prod.fst
    · rw [if_pos (List.mem_eraseDups.mpr known)]
      simp [List.removeAll, known]
    · rw [if_neg (mt List.mem_eraseDups.mp known)]
      simp [List.removeAll, known, List.eraseDups_cons]

end OrderedMap

/-! ### Below the statements of a file -/

/-- The bodies of all blocks are without requires. -/
def Closures.RequireFree (closures : Closures) : Prop :=
  ∀ id closure, closures.get? id = some closure →
    CallTyping.RequireFree (preorderNodes closure.body)

/-- If the bodies of all blocks are without requires then they stay so, and all tables of top-level
names are as before. -/
def Calm (before after : Checker) : Prop :=
  before.closures.RequireFree →
    after.closures.RequireFree ∧ after.bindings.toplevel = before.bindings.toplevel

namespace Calm

variable {setup : Setup} {run : Runner} {before middle after : Checker}

theorem of_eq (closures : after.closures = before.closures)
    (toplevel : after.bindings.toplevel = before.bindings.toplevel) : Calm before after :=
  fun free => ⟨closures ▸ free, toplevel⟩

theorem trans (left : Calm before middle) (right : Calm middle after) : Calm before after := by
  intro free
  obtain ⟨free', same⟩ := left free
  obtain ⟨free'', same'⟩ := right free'
  exact ⟨free'', same'.trans same⟩

theorem remembered (checker : Checker) {closure : Closure}
    (free : RequireFree (preorderNodes closure.body)) :
    Calm checker (Conduct.remembered checker closure) := by
  refine fun others => ⟨fun id other known => ?_, rfl⟩
  rw [Closures.get?_remembered] at known
  split at known
  next =>
    cases known
    exact free
  next => exact others id other known

/-- A call is calm if its body is, which is without requires. -/
theorem call (runs : ∀ id args program checker, RequireFree (preorderNodes program) →
      Calm checker (run (.body id args) program checker).2)
    {checker : Checker} {span : Span} {id : ClosureId} {args : List Ty}
    {outcome : Except Stop Ty × Checker}
    (ends : CallEnds setup run span id args checker outcome) : Calm checker outcome.2 := by
  cases ends with
  | known | running | tooDeep | unknown => exact .of_eq rfl rfl
  | typed closure typed types after _ _ present ran
  | failed closure typed stop after _ _ present ran =>
    intro free
    have inner := runs id args closure.body (checker.beginBody id closure args)
      (free id closure present)
    rw [ran] at inner
    have enters : Calm checker (checker.beginBody id closure args) :=
      .of_eq rfl (Inward.enterBody_toplevel _ closure args)
    exact (enters.trans inner) free

theorem course (runs : ∀ id args program checker, RequireFree (preorderNodes program) →
      Calm checker (run (.body id args) program checker).2) :
    Course (·.isRequire = false) Calm setup run where
  aside aside := .of_eq aside.closures (congrArg Bindings.toplevel aside.bindings)
  trans := trans
  bind _ _ _ := .of_eq rfl rfl
  block checker _ _ _ free := remembered checker (requireFree_fresh free)
  scope inner := inner
  call := call runs
  require _ _ _ _ _ impossible := nomatch impossible

end Calm

theorem runWithin_calm (setup : Setup) (levels : Nat) :
    Course (·.isRequire = false) Calm setup (runWithin setup levels) := by
  refine Calm.course ?_
  induction levels with
  | zero => exact fun _ _ _ _ _ => .of_eq rfl rfl
  | succ levels inductionHypothesis =>
    exact fun _ _ program checker free =>
      (Calm.course inductionHypothesis).visitNodes Course.below checker program free

/-! ### Files that are loaded -/

theorem loads_flow (setup : Setup) {run : Runner}
    (runs : ∀ occasion program (checker : Checker),
      ∀ path ∈ checker.loads, path ∈ (run occasion program checker).2.loads) :
    Flow (fun before _ after => ∀ path ∈ before.loads, path ∈ after.loads) setup run where
  still _ _ := id
  trans left right path member := right path (left path member)
  fault _ _ _ _ _ := id
  record _ _ _ := id
  inlay _ _ _ _ := id
  bind _ _ _ _ _ := id
  define _ _ _ _ _ := id
  block _ _ _ _ _ := id
  join _ _ _ _ _ _ _ := id
  object _ _ _ := id
  variant _ _ _ := id
  addField _ _ _ _ _ _ := id
  scope inner := inner
  call {checker _ id args _} ends := by
    cases ends with
    | known | running | tooDeep | unknown => exact fun _ member => member
    | typed closure body types after _ _ _ ran | failed closure body stop after _ _ _ ran =>
      have inner := runs (.body id args) closure.body (checker.beginBody id closure args)
      rw [ran] at inner
      exact inner
  load {checker _ file _} _ _ ends := by
    cases ends with
    | missing => exact fun _ => Array.mem_push_of_mem file
    | checked program typed types after _ ran | failed program typed stop after _ ran =>
      have inner := runs (.file file) program (checker.beginFile file)
      rw [ran] at inner
      exact fun path member => inner path (Array.mem_push_of_mem file member)

theorem runWithin_loads (setup : Setup) (levels : Nat) (occasion : Occasion) (program : Program)
    (checker : Checker) :
    ∀ path ∈ checker.loads, path ∈ (runWithin setup levels occasion program checker).2.loads := by
  induction levels generalizing occasion program checker with
  | zero => exact fun _ => id
  | succ levels inductionHypothesis =>
    exact (loads_flow setup inductionHypothesis).runStatements occasion program checker

/-- The files that were asked for have requires among their statements only. -/
def LoadedOnTop (setup : Setup) (checker : Checker) : Prop :=
  ∀ path ∈ checker.loads, ∀ source, setup.loader.load path = .ok source → RequiresOnTop source

/-! ### Statements of a file -/

/-- What statements leave of the tables: that of their own file has the entries of the statements in
addition, and those of the other files that are being checked are as before. -/
structure Written (statements : List Node) (before after : Checker) : Prop where
  free : after.closures.RequireFree
  own : after.definitions before.file =
    (statements.filterMap Node.export?).foldl (fun table entry => table.insert entry.1 entry.2)
      (before.definitions before.file)
  others (file : String) : before.isOpen file = true → file ≠ before.file →
    after.definitions file = before.definitions file
  /-- Each name came with a type. -/
  typed : ∀ statement ∈ statements, statement.export?.map Prod.fst = statement.exportedName?
  restored : Restored before after

namespace Written

variable {before middle after : Checker}

theorem nil (free : before.closures.RequireFree) : Written [] before before :=
  ⟨free, rfl, fun _ _ _ => rfl, List.forall_mem_nil _, .refl before⟩

theorem append {statements more : List Node} (left : Written statements before middle)
    (right : Written more middle after) : Written (statements ++ more) before after where
  free := right.free
  own := by
    have own := right.own
    rw [left.restored.file, left.own] at own
    rw [own, List.filterMap_append, List.foldl_append]
  others file opened other := by
    rw [right.others file, left.others file opened other]
    · rw [Checker.isOpen, left.restored.openFiles]
      exact opened
    · rwa [left.restored.file]
  typed := List.forall_mem_append.mpr ⟨left.typed, right.typed⟩
  restored := left.restored.trans right.restored

/-- A calm change writes nothing. -/
theorem of_calm (free : before.closures.RequireFree) (calm : Calm before after)
    (restored : Restored before after) : Written [] before after := by
  obtain ⟨free', toplevel⟩ := calm free
  have same (file : String) : after.definitions file = before.definitions file := by
    rw [Checker.definitions, Bindings.definitions, toplevel]
    rfl
  exact ⟨free', same _, fun file _ _ => same file, List.forall_mem_nil _, restored⟩

/-- A statement that introduces no name writes nothing. -/
theorem of_unnamed {statement : Node} (unnamed : statement.exportedName? = none)
    (written : Written [] before after) : Written [statement] before after :=
  have nothing : statement.export? = none := by
    rw [Node.export?, unnamed]
    rfl
  { written with
    own := by
      rw [List.filterMap_cons_none nothing]
      exact written.own
    typed := List.forall_mem_singleton.mpr (by rw [nothing, unnamed]; rfl) }

/-- A statement that introduces a name, after all else that it does. -/
theorem define {statement : Node} {name : String} {ty : Ty}
    (named : statement.exportedName? = some name) (typed : statement.exportedType? = some ty)
    (written : Written [] before middle) (heap : Heap) :
    Written [statement] before { middle with
      heap
      bindings := middle.bindings.define middle.file name ⟨ty, statement.span⟩ } where
  free := written.free
  own := by
    have own : middle.definitions before.file = before.definitions before.file := written.own
    rw [List.filterMap_cons_some (export?_eq named typed), written.restored.file, ← own]
    show (middle.bindings.define before.file name _).definitions before.file = _
    rw [Bindings.definitions, Bindings.define, OrderedMap.get?_insert_self]
    rfl
  others file opened other := by
    rw [← written.others file opened other]
    exact Bindings.definitions_define_other _ name _ (written.restored.file ▸ other)
  typed := List.forall_mem_singleton.mpr (by rw [export?_eq named typed, named]; rfl)
  restored := ⟨written.restored.scopes, written.restored.file, written.restored.callDepth,
    written.restored.openFiles⟩

end Written

/-! ### Runs of files -/

section

variable {setup : Setup} {levels : Nat} {run : Runner} {checker after : Checker} {span : Span}

/-- A visit gives back an expression that introduces the same name. -/
theorem visitExpr_introduces (setup : Setup) (run : Runner) (toplevel : Bool) (span : Span)
    (expr : Expr) : Yields (visitExpr setup run toplevel span expr)
      (fun typed => typed.introduced? = expr.introduced?) fun _ _ => True := by
  have whatever {α β : Type} (visit : Visit α β) : Yields visit (fun _ => True) fun _ _ => True :=
    fun _ => ⟨trivial, fun _ _ => trivial⟩
  have settled {β : Type} {typed : Expr} (step : Check β)
      (same : typed.introduced? = expr.introduced?) : Yields (.settle typed step)
        (fun typed => typed.introduced? = expr.introduced?) fun _ _ => True :=
    .settle same (Answers.any step)
  cases expr with
  | ident | literal | block | require =>
    simp only [visitExpr]
    exact settled _ rfl
  | call | dot | assertion | object | variant | define | inlay =>
    simp only [visitExpr]
    exact (whatever _).andThen (fun _ _ => rfl) fun _ _ _ _ => settled _ rfl
  | ifThen | whileLoop =>
    simp only [visitExpr]
    exact (whatever _).andThen (fun _ _ => rfl) fun _ _ _ _ =>
      (whatever _).andThen (fun _ _ => rfl) fun _ _ _ _ => settled _ rfl
  | ifThenElse | caseOf =>
    simp only [visitExpr]
    exact (whatever _).andThen (fun _ _ => rfl) fun _ _ _ _ =>
      (whatever _).andThen (fun _ _ => rfl) fun _ _ _ _ =>
        (whatever _).andThen (fun _ _ => rfl) fun _ _ _ _ => settled _ rfl
  | update =>
    simp only [visitExpr]
    exact (whatever _).andThen (fun _ _ => rfl) fun _ _ _ _ =>
      (whatever _).within (fun _ _ => rfl) fun _ _ _ _ => trivial

theorem heading_visitNode {toplevel : Bool} {expr : Expr} {piece : Node} {ty : Ty}
    (done : visitNode setup run toplevel (.untyped span expr) checker =
      ((piece, .ok ty), after)) : piece.heading = (Node.untyped span expr).heading := by
  obtain ⟨typed, rfl, visited⟩ := visitNode_untyped done
  have same := (visitExpr_introduces setup run toplevel span expr
    { checker with log := checker.log.push (.visiting expr.kindName span) }).1
  rw [visited] at same
  exact congrArg (Prod.mk span) same

/-- Expressions other than definitions are visited at the top level as they are below it. -/
theorem visitExpr_below {expr : Expr} (unnamed : expr.introduced? = none) (toplevel : Bool) :
    visitExpr setup run toplevel span expr = visitExpr setup run false span expr := by
  cases expr with
  | define => cases unnamed
  | _ => simp only [visitExpr]

/-- Files that are run to their end in a state where blocks hold no requires write their tables. -/
def WritesFiles (setup : Setup) (levels : Nat) : Prop :=
  ∀ (file : String) (program : Program) (checker : Checker) (typed : Program) (types : List Ty)
    (after : Checker), RequiresOnTop program → checker.closures.RequireFree →
    checker.isOpen checker.file = true → LoadedOnTop setup after →
    runWithin setup levels (.file file) program checker = ((typed, .ok types), after) →
      Written typed checker after ∧ typed.map Node.heading = program.map Node.heading

/-- The value of a definition is visited below the statements of the file. -/
theorem define_written {name : String} {value piece : Node} {ty : Ty}
    (free : checker.closures.RequireFree) (inside : RequireFree value.preorder)
    (done : visitNode setup (runWithin setup levels) true (.untyped span (.define name value))
      checker = ((piece, .ok ty), after)) : Written [piece] checker after := by
  obtain ⟨typed, bound, middle, visited, rfl, rfl⟩ := visitNode_define done
  generalize isLogged : ({ checker with
    log := checker.log.push (.visiting "define" span) } : Checker) = logged at visited
  have begins : Restored checker logged := isLogged ▸ ⟨rfl, rfl, rfl, rfl⟩
  have quiet : Calm checker logged := isLogged ▸ .of_eq rfl rfl
  have calm := (runWithin_calm setup levels).visitNode Course.below logged value inside
  have restored := ((restored_flow setup (runWithin_restores setup levels)).sound.visitNode false
    logged value).flow
  rw [Course.Of, visited] at calm
  rw [Visit.outcome, visited] at restored
  have written : Written [] checker middle :=
    .of_calm free (quiet.trans calm) (begins.trans restored)
  have typedValue : (Node.mk span (some .unit) (.define name typed)).exportedType? = some bound :=
    slot_visitNode visited
  exact written.define rfl typedValue middle.heap

/-- A statement that introduces no name is visited as if it stood elsewhere. -/
theorem other_written {expr : Expr} {piece : Node} {ty : Ty}
    (free : checker.closures.RequireFree) (inside : RequireFree expr.preorder)
    (unnamed : expr.introduced? = none)
    (done : visitNode setup (runWithin setup levels) true (.untyped span expr) checker =
      ((piece, .ok ty), after)) : Written [piece] checker after := by
  have restored := ((restored_flow setup (runWithin_restores setup levels)).sound.visitNode true
    checker (.untyped span expr)).flow
  have below : visitNode setup (runWithin setup levels) true (.untyped span expr) checker =
      visitNode setup (runWithin setup levels) false (.untyped span expr) checker := by
    simp only [Node.untyped, visitNode, visitExpr_below unnamed true]
  have own : expr.isRequire = false := by cases expr <;> first | rfl | cases unnamed
  have calm := (runWithin_calm setup levels).visitNode Course.below checker (.untyped span expr)
    (allowed_cons.mpr ⟨own, inside⟩)
  have same : piece.exportedName? = none :=
    (congrArg Prod.snd (heading_visitNode done)).trans unnamed
  rw [Visit.outcome, done] at restored
  rw [Course.Of, ← below, done] at calm
  exact .of_unnamed same (.of_calm free calm restored)

section

variable (files : WritesFiles setup levels) (free : checker.closures.RequireFree)
  (opened : checker.isOpen checker.file = true) (loaded : LoadedOnTop setup after)

include files free opened loaded

/-- What a require does before it introduces its name leaves the files that are open alone. -/
theorem typeOfRequire_written {name : String} {ty : Ty}
    (passes : (typeOfRequire setup (runWithin setup levels) span name).outcome checker =
      (.ok ty, after)) :
    ∃ middle heap, Written [] checker middle ∧ after = { middle with
      heap
      bindings := middle.bindings.define middle.file name ⟨ty, span⟩ } := by
  rw [outcome_typeOfRequire] at passes
  split at passes
  · cases passes
  next closed =>
    split at passes
    · obtain ⟨heap, defined⟩ := exposeFile_defines passes
      refine ⟨_, heap, ?_, defined⟩
      exact .of_calm free (.of_eq rfl rfl) ⟨rfl, rfl, rfl, rfl⟩
    · have ends := loadFile_ends setup (runWithin setup levels) span
        (requiredFile checker.file name setup.settings.extension) checker
      generalize requiredFile checker.file name setup.settings.extension = file
        at closed ends passes
      generalize (loadFile setup (runWithin setup levels) span file).outcome checker = outcome
        at ends passes
      cases ends with
      | missing | failed => cases passes
      | checked program typed types ended serves ran =>
        obtain ⟨heap, defined⟩ := exposeFile_defines passes
        refine ⟨_, heap, ?_, defined⟩
        have isOpen (other : String) : (checker.beginFile file).isOpen other =
            (checker.isOpen other || decide (other = file)) := isOpen_enterFile _ file other
        have entered : (checker.beginFile file).isOpen file = true := by
          rw [isOpen, decide_eq_true rfl, Bool.or_true]
        have ended_loads : after.loads = ended.loads := by rw [defined]; rfl
        have onTop : LoadedOnTop setup ended := fun path member =>
          loaded path (ended_loads ▸ member)
        have asked : file ∈ ended.loads := by
          have kept := runWithin_loads setup levels (.file file) program (checker.beginFile file)
            file Array.mem_push_self
          rwa [ran] at kept
        obtain ⟨written, -⟩ := files file program (checker.beginFile file) typed types ended
          (onTop file asked program serves) free entered onTop ran
        have kept (other : String) (openOther : checker.isOpen other = true) :
            ended.definitions other = checker.definitions other := by
          refine written.others other (by rw [isOpen, openOther, Bool.true_or]) ?_
          rintro rfl
          exact closed openOther
        have back := leaveFile_restores written.restored (Bool.eq_false_iff.mpr closed)
        exact ⟨written.free, kept _ opened, fun other openOther _ => kept other openOther,
          List.forall_mem_nil _, ⟨rfl, rfl, back.callDepth, back.openFiles⟩⟩

/-- A statement of a file that is visited without a fault. -/
theorem visitStatement_written {statement piece : Node} {ty : Ty}
    (inside : RequireFree statement.expr.preorder)
    (done : visitNode setup (runWithin setup levels) true statement checker =
      ((piece, .ok ty), after)) :
    Written [piece] checker after ∧ piece.heading = statement.heading := by
  obtain ⟨span, _ | old, expr⟩ := statement
  case some =>
    unfold visitNode at done
    rw [Visit.andThen_ok (Visit.settle_eq _ _ _)] at done
    cases done
  refine ⟨?_, heading_visitNode done⟩
  cases expr with
  | define name value => exact define_written free inside done
  | require name =>
    obtain ⟨rfl, passes⟩ := visitNode_require done
    generalize isLogged : ({ checker with
      log := checker.log.push (.visiting "require" span) } : Checker) = logged at passes
    have free' : logged.closures.RequireFree := isLogged ▸ free
    have opened' : logged.isOpen logged.file = true := isLogged ▸ opened
    obtain ⟨middle, heap, written, rfl⟩ :=
      typeOfRequire_written files free' opened' loaded passes
    have begins : Written [] checker logged := by
      rw [← isLogged]
      exact .of_calm free (.of_eq rfl rfl) ⟨rfl, rfl, rfl, rfl⟩
    exact (begins.append written).define rfl rfl heap
  | _ => exact other_written free inside rfl done

/-- Statements of a file that are visited without a fault, one after the other. -/
theorem visitNodes_written {program typed : Program} {types : List Ty}
    (onTop : RequiresOnTop program)
    (done : visitNodes setup (runWithin setup levels) true program checker =
      ((typed, .ok types), after)) :
    Written typed checker after ∧ typed.map Node.heading = program.map Node.heading := by
  induction program generalizing checker typed types with
  | nil =>
    rw [visitNodes] at done
    cases done
    exact ⟨.nil free, rfl⟩
  | cons statement rest inductionHypothesis =>
    rw [visitNodes] at done
    obtain ⟨first, others⟩ := List.forall_mem_cons.mp onTop
    rcases visited : visitNode setup (runWithin setup levels) true statement checker with
      ⟨⟨piece, stop | ty⟩, middle⟩
    · rw [Visit.andThen_error visited] at done
      cases done
    rw [Visit.andThen_ok visited] at done
    rcases more : visitNodes setup (runWithin setup levels) true rest middle with
      ⟨⟨pieces, stop | found⟩, last⟩
    · rw [Visit.andThen_error more] at done
      cases done
    rw [Visit.andThen_ok more] at done
    cases done
    have kept := ((loads_flow setup (runWithin_loads setup levels)).sound.visitNodes true middle
      rest).flow
    rw [Visit.outcome, more] at kept
    obtain ⟨written, heading⟩ := visitStatement_written files free opened
      (fun path asked => loaded path (kept path asked)) first visited
    have opened' : middle.isOpen middle.file = true := by
      rw [written.restored.file, Checker.isOpen, written.restored.openFiles]
      exact opened
    obtain ⟨written', headings⟩ := inductionHypothesis written.free opened' others more
    exact ⟨written.append written', congrArg₂ List.cons heading headings⟩

end

theorem runWithin_writesFiles (setup : Setup) (levels : Nat) : WritesFiles setup levels := by
  induction levels with
  | zero => exact fun _ _ _ _ _ _ _ _ _ _ ran => nomatch ran
  | succ levels inductionHypothesis =>
    exact fun _ _ _ _ _ _ onTop free opened loaded ran =>
      visitNodes_written inductionHypothesis free opened loaded onTop ran

end

/-! ### Checks -/

/-- What a table says about statements: it has their names in the order in which these occur first,
and for each of them the place and the type of the last statement that introduces it. -/
structure Exports (statements : List Node) (table : Frame) : Prop where
  names : table.keys = (statements.filterMap Node.exportedName?).eraseDups
  last (before : List Node) (statement : Node) (after : List Node) (name : String) :
    statements = before ++ statement :: after → statement.exportedName? = some name →
      name ∉ after.filterMap Node.exportedName? →
        ∃ ty, statement.exportedType? = some ty ∧ table.get? name = some ⟨ty, statement.span⟩

/-- A table in which the entries of statements were made one after the other. -/
theorem Exports.of_entries {statements : List Node} {table : Frame}
    (typed : ∀ statement ∈ statements, statement.export?.map Prod.fst = statement.exportedName?)
    (entries : table = .ofList (statements.filterMap Node.export?)) : Exports statements table := by
  have names (part : List Node) (inside : part ⊆ statements) :
      (part.filterMap Node.export?).map Prod.fst = part.filterMap Node.exportedName? := by
    rw [List.map_filterMap]
    exact List.filterMap_congr fun statement member => typed statement (inside member)
  constructor
  · rw [entries, OrderedMap.keys_ofList, names statements (List.Subset.refl _)]
  · rintro before statement after name rfl named isLast
    have own := typed statement (List.mem_append_right _ List.mem_cons_self)
    rw [named] at own
    obtain ⟨⟨_, binding⟩, exported, rfl⟩ := Option.map_eq_some_iff.mp own
    obtain ⟨ty, held, same⟩ : ∃ ty, statement.exportedType? = some ty ∧
        (⟨ty, statement.span⟩ : Binding) = binding := by
      rw [Node.export?, named, Option.bind_some] at exported
      obtain ⟨ty, held, same⟩ := Option.map_eq_some_iff.mp exported
      exact ⟨ty, held, congrArg Prod.snd same⟩
    refine ⟨ty, held, ?_⟩
    rw [entries, List.filterMap_append, List.filterMap_cons_some exported, same]
    refine OrderedMap.get?_ofList_last _ _ _ _ ?_
    rw [names after fun other member => List.mem_append_right _ (List.mem_cons_of_mem _ member)]
    exact isLast

/-- In a first check that passes, of a program whose requires are all among its statements, as are
those of the files that were loaded: the table of the checked file has the names that the statements
of the program define or require, in the order of their first occurrence, and for each name the
place of the last such statement and the very type of its value, or of the require. Nothing else
makes, changes or takes away an entry. -/
theorem exports_are_top_level (setup : Setup) (file : String) {program : Program}
    (onTop : RequiresOnTop program)
    (passed : (checkFile setup file program .initial).1.2 = .ok ())
    (loaded : LoadedOnTop setup (checkFile setup file program .initial).2) :
    let outcome := checkFile setup file program .initial
    outcome.1.1.map Node.heading = program.map Node.heading ∧
      Exports outcome.1.1 (outcome.2.definitions file) := by
  have files := runWithin_writesFiles setup (Checker.initial.headroom setup + 1)
  unfold checkFile at passed loaded ⊢
  rw [checkWith_closed _ _ _ _ rfl] at passed loaded ⊢
  dsimp only at passed loaded ⊢
  rcases ran : runWithin setup (Checker.initial.headroom setup + 1) (.file file) program
    (Checker.initial.enterFile file) with ⟨⟨typed, stop | types⟩, after⟩
  · rw [ran] at passed
    cases passed
  rw [ran] at loaded
  have opened : (Checker.initial.enterFile file).isOpen file = true := by
    rw [isOpen_enterFile, decide_eq_true rfl, Bool.or_true]
  obtain ⟨written, headings⟩ := files file program (Checker.initial.enterFile file) typed types
    after onTop (fun _ _ known => nomatch known) opened loaded ran
  exact ⟨headings, .of_entries written.typed written.own⟩

/-- A file that defines a name twice, updates it, and defines another one in a conditional. -/
def redefining : Program :=
  [.untyped .origin (.define "x" one),
   .untyped .origin (.require "base"),
   .untyped .origin (.ifThen (.untyped .origin (.literal (.bool true)))
     [.untyped .origin (.define "hidden" one), .untyped .origin (.define "base" one)]),
   .untyped .origin (.update (.untyped .origin (.ident "x")) one),
   .untyped .origin (.define "x" (.untyped .origin (.literal (.string "last"))))]
where
  one : Node := .untyped .origin (.literal (.integer 1))

/-- The file that it requires. -/
def redefiningSetup : Setup :=
  ⟨.standard, .standard, Sources.loader
    (.ofList [("base.brie", [.untyped .origin (.define "y" redefining.one)])])⟩

theorem redefining_exports :
    RequiresOnTop redefining ∧
      (checkFile redefiningSetup "main.brie" redefining .initial).1.2 = .ok () ∧
      LoadedOnTop redefiningSetup
        (checkFile redefiningSetup "main.brie" redefining .initial).2 ∧
      ((checkFile redefiningSetup "main.brie" redefining .initial).2.definitions
        "main.brie").keys = ["x", "base"] := by
  have onTop : RequiresOnTop redefining := by
    unfold RequiresOnTop RequireFree Allowed
    decide
  have passed : (checkFile redefiningSetup "main.brie" redefining .initial).1.2 = .ok () :=
    passes_of_isOk (by decide +kernel)
  have asked : (checkFile redefiningSetup "main.brie" redefining .initial).2.loads.toList =
      ["base.brie"] := by decide +kernel
  have loaded : LoadedOnTop redefiningSetup
      (checkFile redefiningSetup "main.brie" redefining .initial).2 := by
    intro path member source serves
    rw [← Array.mem_toList_iff, asked, List.mem_singleton] at member
    subst member
    cases serves
    unfold RequiresOnTop RequireFree Allowed
    decide
  obtain ⟨headings, exported⟩ :=
    exports_are_top_level redefiningSetup "main.brie" onTop passed loaded
  refine ⟨onTop, passed, loaded, ?_⟩
  have introduced := congrArg (List.filterMap Prod.snd) headings
  rw [List.filterMap_map, List.filterMap_map] at introduced
  rw [exported.names]
  exact (congrArg List.eraseDups introduced).trans (by decide)

end CallTyping
