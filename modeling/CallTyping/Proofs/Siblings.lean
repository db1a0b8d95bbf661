/-
This file proves that a required file lies in the directory of the file that asks
for it, so that all files of one directory resolve a name alike. Files are told
apart by the text of their paths, and a directory can be written in many ways. The
directory of a path is written without anything at its end that says nothing, and a
name that is put into it as one component is what is left out again: the same text
of the directory comes back, be it the root, the current directory or a longer one.
-/

import CallTyping.Path
import Mathlib.Data.List.Basic

namespace CallTyping

namespace Path

/-! ### Marks at the beginning -/

/-- A text that begins with a slash or with the component of a single dot. -/
inductive Marked : List Char → Prop
  | slash (rest : List Char) : Marked ('/' :: rest)
  | dot (rest : List Char) : Marked ('.' :: '/' :: rest)
  | dotAlone : Marked ['.']

theorem splitAnchor_unmarked {path : List Char} (unmarked : ¬Marked path) :
    splitAnchor path = ([], path) := by
  refine splitAnchor.eq_4 path ?_ ?_ ?_
  · rintro rest rfl
    exact unmarked (.slash rest)
  · rintro rest rfl
    exact unmarked (.dot rest)
  · rintro rfl
    exact unmarked .dotAlone

theorem trimIdle_unmarked {path : List Char} (unmarked : ¬Marked path) :
    trimIdle path = path := by
  refine trimIdle.eq_4 path ?_ ?_ ?_
  · rintro rest rfl
    exact unmarked (.slash rest)
  · rintro rest rfl
    exact unmarked (.dot rest)
  · rintro rfl
    exact unmarked .dotAlone

theorem trimIdle_trimIdle (path : List Char) : trimIdle (trimIdle path) = trimIdle path := by
  fun_induction trimIdle path with
  | case1 _ inductionHypothesis | case2 _ inductionHypothesis => exact inductionHypothesis
  | case3 => rfl
  | case4 path slash dot alone => exact trimIdle.eq_4 path slash dot alone

theorem trimIdle_suffix (path : List Char) : trimIdle path <:+ path := by
  fun_induction trimIdle path with
  | case1 _ inductionHypothesis => exact inductionHypothesis.trans (List.suffix_cons _ _)
  | case2 _ inductionHypothesis =>
    exact inductionHypothesis.trans ((List.suffix_cons _ _).trans (List.suffix_cons _ _))
  | case3 => exact List.nil_suffix
  | case4 => exact List.suffix_rfl

theorem dropComponent_suffix (path : List Char) : dropComponent path <:+ path :=
  (trimIdle_suffix _).trans (List.dropWhile_suffix _)

/-- What follows a whole component takes no part in the mark. -/
theorem Marked.of_append {path rest : List Char} (marked : Marked (path ++ rest))
    (apart : rest = [] ∨ rest.head? = some '/') (nonempty : path ≠ []) : Marked path := by
  rcases path with _ | ⟨first, _ | ⟨second, path⟩⟩
  · exact absurd rfl nonempty
  · generalize text : [first] ++ rest = whole at marked
    cases marked <;> cases text
    · exact .slash []
    · exact .dotAlone
    · exact .dotAlone
  · generalize text : first :: second :: path ++ rest = whole at marked
    cases marked <;> cases text
    · exact .slash _
    · exact .dot path

/-! ### Names in a directory -/

/-- A name that is one component of a path and says something. -/
structure IsComponent (name : List Char) : Prop where
  nonempty : name ≠ []
  noSlash : '/' ∉ name
  notIdle : name ≠ ['.']

namespace IsComponent

variable {name : List Char}

theorem reverse (component : IsComponent name) : IsComponent name.reverse where
  nonempty := fun empty => component.nonempty (List.reverse_eq_nil_iff.mp empty)
  noSlash := fun member => component.noSlash (List.mem_reverse.mp member)
  notIdle := fun single => component.notIdle (List.reverse_eq_iff.mp single)

theorem unmarked (component : IsComponent name) : ¬Marked name := by
  rintro (rest | rest | _)
  · exact component.noSlash List.mem_cons_self
  · exact component.noSlash (List.mem_cons_of_mem _ List.mem_cons_self)
  · exact component.notIdle rfl

/-- Nothing is left out behind a component. -/
theorem trimIdle_eq (component : IsComponent name) {before : List Char}
    (apart : before = [] ∨ before.head? = some '/') :
    trimIdle (name.reverse ++ before) = name.reverse ++ before :=
  trimIdle_unmarked fun marked =>
    component.reverse.unmarked (marked.of_append apart component.reverse.nonempty)

theorem dropComponent_eq (component : IsComponent name) {before : List Char}
    (apart : before = [] ∨ before.head? = some '/') :
    dropComponent (name.reverse ++ before) = trimIdle before := by
  have inside : ∀ char ∈ name.reverse, decide (char ≠ '/') = true := by
    intro char member
    refine decide_eq_true ?_
    rintro rfl
    exact component.reverse.noSlash member
  rw [dropComponent, List.dropWhile_append_of_pos inside]
  rcases before with _ | ⟨char, before⟩
  · rfl
  · rcases apart with empty | ⟨⟨⟩⟩
    · cases empty
    · rfl

end IsComponent

/-! ### Texts of directories -/

/-- An anchor and the components behind it, read backwards, of which nothing can be left out. -/
structure IsDirectory (anchor backwards : List Char) : Prop where
  trimmed : trimIdle backwards = backwards
  anchored : splitAnchor (anchor ++ backwards.reverse) = (anchor, backwards.reverse)

/-- A path that goes on behind a slash keeps its anchor. -/
theorem splitAnchor_append {path : List Char} (nonempty : path ≠ []) (name : List Char) :
    splitAnchor (path ++ '/' :: name) =
      ((splitAnchor path).1, (splitAnchor path).2 ++ '/' :: name) := by
  by_cases marked : Marked path
  · cases marked <;> rfl
  · rw [splitAnchor_unmarked marked, splitAnchor_unmarked fun whole =>
      marked (whole.of_append (.inr rfl) nonempty)]

/-- The beginning of a path has the anchor of the path, if nothing can be left out at its end. -/
theorem isDirectory_of_prefix {path backwards : List Char}
    (trimmed : trimIdle backwards = backwards)
    (starts : backwards.reverse <+: (splitAnchor path).2) :
    IsDirectory (splitAnchor path).1 backwards := by
  refine ⟨trimmed, ?_⟩
  by_cases marked : Marked path
  · cases marked with
    | slash rest => rfl
    | dot rest =>
      change backwards.reverse <+: '/' :: rest at starts
      rcases List.prefix_cons_iff.mp starts with empty | ⟨further, begins, -⟩
      · rw [empty]
        rfl
      · rw [begins]
        rfl
    | dotAlone =>
      rw [List.prefix_nil.mp starts]
      rfl
  · rw [splitAnchor_unmarked marked] at starts ⊢
    obtain ⟨rest, rfl⟩ := starts
    refine splitAnchor_unmarked fun begins => marked ?_
    rw [List.nil_append] at begins
    generalize text : backwards.reverse = body at begins ⊢
    cases begins with
    | slash => exact .slash _
    | dot => exact .dot _
    | dotAlone =>
      rw [List.reverse_eq_iff.mp text] at trimmed
      cases trimmed

/-- The directory that names are put into has such a text. -/
theorem parent_isDirectory (path : List Char) :
    ∃ anchor backwards, IsDirectory anchor backwards ∧
      (parent? path).getD [] = anchor ++ backwards.reverse := by
  unfold parent?
  dsimp only
  split
  · refine ⟨[], [], ⟨rfl, rfl⟩, ?_⟩
    split <;> rfl
  next whole _ =>
    refine ⟨_, _, isDirectory_of_prefix (trimIdle_trimIdle _) ?_, rfl⟩
    rw [← List.reverse_suffix, List.reverse_reverse]
    exact (dropComponent_suffix _).trans (trimIdle_suffix _)

/-- A component is left out again together with the slashes and dots before it. -/
theorem parent?_component {path anchor before name : List Char} (component : IsComponent name)
    (apart : before = [] ∨ before.head? = some '/')
    (parts : splitAnchor path = (anchor, before.reverse ++ name)) :
    parent? path = some (anchor ++ (trimIdle before).reverse) := by
  have backwards : (before.reverse ++ name).reverse = name.reverse ++ before := by
    rw [List.reverse_append, List.reverse_reverse]
  unfold parent?
  rw [parts]
  dsimp only
  rw [backwards, component.trimIdle_eq apart]
  split
  next empty => exact absurd (List.append_eq_nil_iff.mp empty).1 component.reverse.nonempty
  next => rw [component.dropComponent_eq apart]

/-- Only the root is a directory whose text ends with a slash. -/
theorem IsDirectory.eq_root {anchor backwards : List Char}
    (directory : IsDirectory anchor backwards)
    (slash : (anchor ++ backwards.reverse).getLast? = some '/') :
    anchor = ['/'] ∧ backwards = [] := by
  rcases backwards with _ | ⟨last, rest⟩
  · refine ⟨?_, rfl⟩
    have alone := directory.anchored
    rw [List.reverse_nil, List.append_nil] at slash alone
    by_cases marked : Marked anchor
    · cases marked with
      | slash => exact (Prod.mk.inj alone).1.symm
      | dot => cases alone
      | dotAlone => cases slash
    · rw [splitAnchor_unmarked marked] at alone
      rw [(Prod.mk.inj alone).2] at slash
      cases slash
  · rw [List.reverse_cons, ← List.append_assoc, List.getLast?_concat, Option.some.injEq] at slash
    have shorter := (trimIdle_suffix rest).length_le
    have trimmed := directory.trimmed
    rw [slash, trimIdle] at trimmed
    rw [trimmed, List.length_cons] at shorter
    omega

/-- A component that is put into a directory lies in this directory. -/
theorem parent?_join {anchor backwards name : List Char}
    (directory : IsDirectory anchor backwards) (component : IsComponent name) :
    parent? (join (anchor ++ backwards.reverse) name) = some (anchor ++ backwards.reverse) := by
  have relative : name.head? ≠ some '/' := by
    intro slash
    exact component.noSlash (List.mem_of_mem_head? slash)
  rw [join, if_neg relative]
  split
  next ends =>
    rcases ends with empty | slash
    · obtain ⟨rfl, turned⟩ := List.append_eq_nil_iff.mp empty
      rw [turned]
      exact parent?_component component (.inl rfl) (splitAnchor_unmarked component.unmarked)
    · obtain ⟨rfl, rfl⟩ := directory.eq_root slash
      have parts : splitAnchor ('/' :: name) = (['/'], ([] : List Char).reverse ++ name) := rfl
      exact parent?_component component (.inl rfl) parts
  next continues =>
    have nonempty := fun empty => continues (.inl empty)
    have parts : splitAnchor (anchor ++ backwards.reverse ++ '/' :: name) =
        (anchor, ('/' :: backwards).reverse ++ name) := by
      rw [splitAnchor_append nonempty, directory.anchored, List.reverse_cons, List.append_assoc,
        List.singleton_append]
    rw [parent?_component component (.inr rfl) parts, trimIdle, directory.trimmed]

end Path

/-- A required file lies in the directory of the file that asks for it, written in the same way, so
a name stands for the same file there. -/
theorem siblings_resolve_alike (requirer first second extension : String)
    (single : '/' ∉ (first ++ "." ++ extension).toList)
    (named : first ++ "." ++ extension ≠ ".") :
    Path.parent? (requiredFile requirer first extension).toList =
        some ((Path.parent? requirer.toList).getD []) ∧
      requiredFile (requiredFile requirer first extension) second extension =
        requiredFile requirer second extension := by
  have component : Path.IsComponent (first ++ "." ++ extension).toList := by
    refine ⟨fun empty => ?_, single, fun dot => named (String.toList_inj.mp dot)⟩
    rw [String.toList_append, String.toList_append] at empty
    exact absurd (List.append_eq_nil_iff.mp (List.append_eq_nil_iff.mp empty).1).2 nofun
  obtain ⟨anchor, backwards, directory, text⟩ := Path.parent_isDirectory requirer.toList
  have beside : Path.parent? (requiredFile requirer first extension).toList =
      some ((Path.parent? requirer.toList).getD []) := by
    rw [requiredFile, String.toList_ofList, text, Path.parent?_join directory component]
  refine ⟨beside, ?_⟩
  rw [requiredFile, beside, Option.getD_some, requiredFile]

/-- Two files required beside one whose directory is written with idle components. -/
theorem idle_components_resolve_alike :
    '/' ∉ ("util" ++ "." ++ "brie").toList ∧ "util" ++ "." ++ "brie" ≠ "." ∧
      requiredFile "./src//app/.//main.brie" "util" "brie" = "./src//app/util.brie" ∧
      requiredFile (requiredFile "./src//app/.//main.brie" "util" "brie") "list" "brie" =
        "./src//app/list.brie" := by
  have single : '/' ∉ ("util" ++ "." ++ "brie").toList := by decide
  have named : "util" ++ "." ++ "brie" ≠ "." := by decide
  refine ⟨single, named, by decide, ?_⟩
  rw [(siblings_resolve_alike _ "util" "list" "brie" single named).2]
  decide

end CallTyping
