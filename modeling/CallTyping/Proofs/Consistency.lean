/-
This file defines when the types in a tree agree with each other and with the heap.
Each kind of expression has a rule for the type that stands beside it, by identity
of handles: it is a type that stands at a child, or one that the heap holds behind a
handle at a child. Types that stood in a tree before it was visited are under no
rule. What was put in by the rules stays in agreement while the heap grows.
-/

import CallTyping.Proofs.Coverage
import CallTyping.Proofs.Explanation

namespace CallTyping

/-! ### Types that stood there before -/

/-- These types stand in slots of nodes. -/
def Carries (nodes : List Node) (ty : Ty) : Prop := ∃ node ∈ nodes, node.slot = some ty

/-- No types but old ones stand in the slots of nodes. -/
def Was (old : Ty → Prop) (nodes : List Node) : Prop :=
  ∀ node ∈ nodes, ∀ ty, node.slot = some ty → old ty

section

variable {old : Ty → Prop} {node : Node} {rest nodes left right : List Node}

theorem was_cons :
    Was old (node :: rest) ↔ (∀ ty, node.slot = some ty → old ty) ∧ Was old rest :=
  List.forall_mem_cons

theorem was_append : Was old (left ++ right) ↔ Was old left ∧ Was old right :=
  List.forall_mem_append

theorem was_carries (nodes : List Node) : Was (Carries nodes) nodes :=
  fun node member _ typed => ⟨node, member, typed⟩

theorem Blank.was (blank : Blank nodes) (old : Ty → Prop) : Was old nodes := by
  intro node member ty typed
  have untyped := blank node member
  rw [Node.isTyped, typed] at untyped
  cases untyped

/-- Nodes without types carry none. -/
theorem carries_of_blank (blank : Blank nodes) : Carries nodes = fun _ => False := by
  funext ty
  refine propext ⟨?_, False.elim⟩
  rintro ⟨node, member, typed⟩
  exact blank.was (fun _ => False) node member ty typed

end

/-! ### Rules -/

def Arm.tag : Arm → String
  | .mk _ tag _ _ => tag

def Arm.body : Arm → List Node
  | .mk _ _ _ body => body

/-- An arm whose tag is among these names has types in its pattern and its statements; any other
arm is as it was. -/
def Arm.Settled (old : Ty → Prop) (names : List String) (arm : Arm) : Prop :=
  if arm.tag ∈ names then ∀ node ∈ arm.pattern ++ arm.body, node.isTyped = true
  else Was old arm.preorder

/-- The first arm whose tag is among these names has this type in its last statement. -/
def FirstArm (names : List String) (arms : List Arm) (ty : Ty) : Prop :=
  ∃ arm, arms.find? (fun arm => decide (arm.tag ∈ names)) = some arm ∧ lastType arm.body = some ty

/-- The object has every field of a literal, with the type of the last value for its name. -/
def Heap.HoldsLast (heap : Heap) (id : ObjectId) (fields : List Field) : Prop :=
  ∀ before name slot after, fields.map Field.entry = before ++ (name, slot) :: after →
    name ∉ after.map Prod.fst → ∃ ty, slot = some ty ∧ heap.field? id name = some ty

/-- What holds between the type of an expression, the types of its parts and the heap. The names in
the rule of a match are the tags that the variant had when the match was reached: the arms of all
others were skipped. -/
def Expr.Rule (old : Ty → Prop) (heap : Heap) (ty : Ty) : Expr → Prop
  | .ident _ | .require _ | .call (_ :: _ :: _) => True
  | .literal value => ty = value.type
  | .call [] | .ifThen _ _ | .whileLoop _ _ | .define _ _ | .inlay _ => ty = .unit
  | .call [child] => child.slot = some ty
  | .block params _ => ∃ id, ty = .function id params.length []
  | .ifThenElse _ body _ => lastType body = some ty
  | .caseOf scrutinee arms => ∃ id names, scrutinee.slot = some (.variant id) ∧
      names <+: (heap.tags id).keys ∧ (∀ arm ∈ arms, arm.Settled old names) ∧
      FirstArm names arms ty
  | .dot target field => ∃ id, target.slot = some (.object id) ∧ heap.field? id field = some ty
  -- A target that is a field of an object is under the rule for fields as well.
  | .update target _ => target.slot = some ty
  | .assertion value _ => value.slot = some ty
  | .object fields => ∃ id, ty = .object id ∧ heap.HoldsLast id fields
  | .variant tag args => ∃ id types, ty = .variant id ∧ heap.tag? id tag = some types ∧
      args.map Node.slot = types.map some

/-- A rule that is kept is kept ever after. -/
theorem Expr.Rule.mono {old : Ty → Prop} {before after : Heap} {ty : Ty}
    (grown : before.Grows after) : (expr : Expr) → expr.Rule old before ty →
    expr.Rule old after ty
  | .caseOf _ _, ⟨id, names, matched, known, settled, first⟩ =>
    ⟨id, names, matched, known.trans (grown.tagNames id), settled, first⟩
  | .dot _ _, ⟨id, target, held⟩ => ⟨id, target, grown.field? held⟩
  | .object fields, ⟨id, made, held⟩ => by
    refine ⟨id, made, fun earlier name slot later listed last => ?_⟩
    obtain ⟨found, typed, holds⟩ := held earlier name slot later listed last
    exact ⟨found, typed, grown.field? holds⟩
  | .variant _ _, ⟨id, types, made, held, slots⟩ => ⟨id, types, made, grown.tag? held, slots⟩
  | .ident _, rule | .require _, rule | .literal _, rule | .call [], rule | .call [_], rule
  | .call (_ :: _ :: _), rule | .block _ _, rule | .ifThen _ _, rule | .ifThenElse _ _ _, rule
  | .whileLoop _ _, rule | .update _ _, rule | .assertion _ _, rule | .define _ _, rule
  | .inlay _, rule => rule

/-! ### Trees -/

/-- The type in a slot is an old one, or makes sense and is under the rule for its node. -/
def Node.Fine (old : Ty → Prop) (stock : Stock) (node : Node) : Prop :=
  ∀ ty, node.slot = some ty → old ty ∨ stock.Explains ty ∧ node.expr.Rule old stock.heap ty

/-- All types in the slots of nodes are so. -/
def Intact (old : Ty → Prop) (stock : Stock) (nodes : List Node) : Prop :=
  ∀ node ∈ nodes, node.Fine old stock

/-- Whatever type stands in the slot of a node is under the rule for it. -/
def Consistent (heap : Heap) (nodes : List Node) : Prop :=
  ∀ node ∈ nodes, ∀ ty, node.slot = some ty → node.expr.Rule (fun _ => False) heap ty

section

variable {old : Ty → Prop} {stock before after : Stock} {node : Node}
  {rest nodes left right : List Node}

theorem intact_nil : Intact old stock [] := List.forall_mem_nil _

theorem intact_cons : Intact old stock (node :: rest) ↔ node.Fine old stock ∧
    Intact old stock rest :=
  List.forall_mem_cons

theorem intact_append :
    Intact old stock (left ++ right) ↔ Intact old stock left ∧ Intact old stock right :=
  List.forall_mem_append

theorem Was.intact (was : Was old nodes) (stock : Stock) : Intact old stock nodes :=
  fun node member ty typed => .inl (was node member ty typed)

theorem Intact.later (grown : before.Grows after) (intact : Intact old before nodes) :
    Intact old after nodes := by
  intro node member ty typed
  refine (intact node member ty typed).imp_right fun ⟨explained, rule⟩ => ?_
  exact ⟨explained.mono grown, Expr.Rule.mono grown.heap node.expr rule⟩

/-- Nodes that are still to be visited follow on visited ones. -/
theorem Was.behind (was : Was old right) (visited : Intact old after left) :
    Intact old after (left ++ right) :=
  intact_append.mpr ⟨visited, was.intact after⟩

theorem Was.ahead (was : Was old left) (visited : Intact old after right) :
    Intact old after (left ++ right) :=
  intact_append.mpr ⟨was.intact after, visited⟩

/-- Nodes that were visited before stand ahead of visited ones. -/
theorem Intact.ahead (intact : Intact old before left) (grown : before.Grows after)
    (visited : Intact old after right) : Intact old after (left ++ right) :=
  intact_append.mpr ⟨intact.later grown, visited⟩

theorem Intact.consistent (intact : Intact (fun _ => False) stock nodes) :
    Consistent stock.heap nodes :=
  fun node member ty typed => ((intact node member ty typed).resolve_left id).2

end

/-! ### Literals of objects -/

/-- A key has the value that was listed last for it. -/
theorem OrderedMap.get?_ofList_last {α : Type} (before after : List (String × α)) (name : String)
    (value : α) (last : name ∉ after.map Prod.fst) :
    (ofList (before ++ (name, value) :: after)).get? name = some value := by
  unfold ofList
  rw [List.foldl_append, List.foldl_cons]
  generalize List.foldl _ empty before = map
  suffices ∀ map : OrderedMap String α, map.get? name = some value →
      (after.foldl (fun map pair => map.insert pair.1 pair.2) map).get? name = some value from
    this _ (get?_insert_self map name value)
  induction after with
  | nil => exact fun _ held => held
  | cons pair rest inductionHypothesis =>
    intro map held
    refine inductionHypothesis (List.not_mem_of_not_mem_cons last) _ ?_
    rw [get?_insert_other _ _ _ _ (List.ne_of_not_mem_cons last), held]

/-- A new object has the fields that it was made of. -/
theorem Heap.holdsLast_newObject (heap : Heap) {fields : List Field} {types : List (String × Ty)}
    (entries : fields.map Field.entry = types.map fun field => (field.1, some field.2)) :
    (heap.newObject (.ofList types)).2.HoldsLast ⟨heap.objects.size⟩ fields := by
  intro before name slot after listed last
  rw [entries] at listed
  obtain ⟨earlier, others, rfl, -, split⟩ := List.map_eq_append_iff.mp listed
  obtain ⟨⟨own, ty⟩, later, rfl, same, rfl⟩ := List.map_eq_cons_iff.mp split
  obtain ⟨rfl, rfl⟩ := Prod.mk.inj same
  refine ⟨ty, rfl, ?_⟩
  rw [List.map_map] at last
  rw [field?, fields_newObject]
  exact OrderedMap.get?_ofList_last earlier later own ty last

/-- A new variant has its tag. -/
theorem Heap.tag?_newVariant (heap : Heap) (tag : String) (types : List Ty) :
    (heap.newVariant (.singleton tag types)).2.tag? ⟨heap.variants.size⟩ tag = some types := by
  rw [tag?, tags_newVariant]
  exact if_pos rfl

end CallTyping
