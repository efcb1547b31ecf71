/-
**The walk along an ancestry, as a relation between what stood before and what stands after.**

`Ancestry.visit` counts its levels down and may refuse to go on. Where it does not refuse, the
levels play no part, and the walk is the relation `Walks`: over a list of types, the ones entered
before are passed over, and each fresh one is entered, everything above it is walked, and it is
finished.

* `walks_of_result_visit`: a walk that is not refused is one of the relation;
* `eq_tooDeep_of_result_visit`: a walk is refused for its depth alone;
* `Walks.exists_added`: what a walk adds, in one statement: fresh types, each once, all reached from
  the types walked, with all of their supertypes entered;
* `Provider.exists_walks_of_ancestry`: the ancestry of a type is the type in front of what a walk of
  its supertypes adds.
-/

import Mathlib.Logic.Relation
import Mathlib.Tactic.Tauto
import ValueAnatomy.Ancestry

namespace ValueAnatomy

/-! ### What is above a type -/

namespace Provider

/-- The second type is an immediate supertype of the first. -/
def Extends (provider : Provider) (below above : TypeDecl) : Prop :=
  above ∈ provider.supertypes below

/-- The second type is a supertype of the first, immediate or not. -/
abbrev Inherits (provider : Provider) : TypeDecl → TypeDecl → Prop :=
  Relation.TransGen provider.Extends

/-- The second type is the first or a supertype of it. -/
abbrev Reaches (provider : Provider) : TypeDecl → TypeDecl → Prop :=
  Relation.ReflTransGen provider.Extends

/-- What is above the types reached from a root depends on their handles alone. -/
def SupertypesByHandle (provider : Provider) (root : TypeDecl) : Prop :=
  ∀ first second, provider.Reaches root first → provider.Reaches root second →
    first.handle = second.handle → provider.supertypes first = provider.supertypes second

/-- No type reached from a root is a supertype of itself. -/
def AcyclicFrom (provider : Provider) (root : TypeDecl) : Prop :=
  ∀ below above, provider.Reaches root below → provider.Inherits below above →
    above.handle ≠ below.handle

end Provider

/-- The handles of types. -/
def handlesOf (types : List TypeDecl) : List Handle := types.map (·.handle)

@[simp] theorem handlesOf_nil : handlesOf [] = [] := rfl

@[simp] theorem handlesOf_cons (type : TypeDecl) (rest : List TypeDecl) :
    handlesOf (type :: rest) = type.handle :: handlesOf rest := rfl

@[simp] theorem handlesOf_append (types more : List TypeDecl) :
    handlesOf (types ++ more) = handlesOf types ++ handlesOf more :=
  List.map_append

theorem mem_handlesOf {handle : Handle} {types : List TypeDecl} :
    handle ∈ handlesOf types ↔ ∃ type ∈ types, type.handle = handle :=
  List.mem_map

/-! ### Attempts over a list -/

/-- The outcome of attempts made one after the other, each from what the one before came to. -/
theorem Attempt.result_foldlM {α β : Type} (attempt : β → α → Attempt β) (items : List α)
    (start : β) :
    (items.foldlM attempt start).result =
      items.foldlM (fun state item => (attempt state item).result) start := by
  induction items generalizing start with
  | nil => rfl
  | cons item rest ih =>
    rw [List.foldlM_cons, List.foldlM_cons, Attempt.result_bind]
    exact congrArg _ (funext ih)

/-- Where a list of attempts fails, one of them does, from a state that is as all those before it
left theirs. -/
theorem exists_error_of_foldlM {α β : Type} {attempt : β → α → Except Failure β}
    {items : List α} {start : β} {failure : Failure} (kept : β → Prop)
    (keeps : ∀ state item after, kept state → attempt state item = .ok after → kept after)
    (before : kept start) (failed : items.foldlM attempt start = .error failure) :
    ∃ item ∈ items, ∃ state, kept state ∧ attempt state item = .error failure := by
  induction items generalizing start with
  | nil => cases failed
  | cons item rest ih =>
    rw [List.foldlM_cons] at failed
    cases attempted : attempt start item with
    | error other =>
      rw [attempted] at failed
      obtain rfl : other = failure := Except.error.inj failed
      exact ⟨item, List.mem_cons_self, start, before, attempted⟩
    | ok after =>
      rw [attempted] at failed
      obtain ⟨culprit, among, state, intact, refused⟩ :=
        ih (keeps start item after before attempted) failed
      exact ⟨culprit, List.mem_cons_of_mem _ among, state, intact, refused⟩

namespace Ancestry

/-! ### The relation -/

/-- A walk that has entered one more type. -/
def enter (walk : Ancestry) (type : TypeDecl) : Ancestry :=
  { walk with entered := type.handle :: walk.entered }

/-- A walk that has finished one more type. -/
def finish (walk : Ancestry) (type : TypeDecl) : Ancestry :=
  { walk with finished := type :: walk.finished }

@[simp] theorem entered_enter (walk : Ancestry) (type : TypeDecl) :
    (walk.enter type).entered = type.handle :: walk.entered := rfl

@[simp] theorem finished_enter (walk : Ancestry) (type : TypeDecl) :
    (walk.enter type).finished = walk.finished := rfl

@[simp] theorem entered_finish (walk : Ancestry) (type : TypeDecl) :
    (walk.finish type).entered = walk.entered := rfl

@[simp] theorem finished_finish (walk : Ancestry) (type : TypeDecl) :
    (walk.finish type).finished = type :: walk.finished := rfl

/-- **A walk over types and everything above them**, from what stood before to what stands
after. -/
inductive Walks (provider : Provider) : List TypeDecl → Ancestry → Ancestry → Prop
  | done (walk : Ancestry) : Walks provider [] walk walk
  | known {type : TypeDecl} {rest : List TypeDecl} {walk after : Ancestry} :
      type.handle ∈ walk.entered → Walks provider rest walk after →
      Walks provider (type :: rest) walk after
  | fresh {type : TypeDecl} {rest : List TypeDecl} {walk above after : Ancestry} :
      type.handle ∉ walk.entered →
      Walks provider (provider.supertypes type).reverse (walk.enter type) above →
      Walks provider rest (above.finish type) after →
      Walks provider (type :: rest) walk after

variable {provider : Provider}

/-- A visit with levels left passes over a known type, and enters, walks and finishes a fresh
one. -/
theorem result_visit_succ (provider : Provider) (levels : Nat) (type : TypeDecl)
    (walk : Ancestry) :
    (visit provider (levels + 1) type walk).result =
      if type.handle ∈ walk.entered then .ok walk
      else
        ((provider.supertypes type).reverse.foldlM
          (fun walk supertype => (visit provider levels supertype walk).result)
          (walk.enter type)).bind fun above => .ok (above.finish type) := by
  rw [visit]
  split
  · rfl
  · rw [Attempt.result_bind, Attempt.result_ofTraced]
    simp only [Except.bind]
    rw [Attempt.result_bind, Attempt.result_foldlM]
    rfl

theorem Walks.append {types more : List TypeDecl} {walk middle after : Ancestry}
    (first : Walks provider types walk middle) (second : Walks provider more middle after) :
    Walks provider (types ++ more) walk after := by
  induction first with
  | done walk => exact second
  | known entered _ ih => exact .known entered (ih second)
  | fresh unentered above _ _ ih => exact .fresh unentered above (ih second)

theorem Walks.split {types more : List TypeDecl} {walk after : Ancestry}
    (walks : Walks provider (types ++ more) walk after) :
    ∃ middle, Walks provider types walk middle ∧ Walks provider more middle after := by
  induction types generalizing walk with
  | nil => exact ⟨walk, .done walk, walks⟩
  | cons type rest ih =>
    cases walks with
    | known entered walks =>
      obtain ⟨middle, first, second⟩ := ih walks
      exact ⟨middle, .known entered first, second⟩
    | fresh unentered above walks =>
      obtain ⟨middle, first, second⟩ := ih walks
      exact ⟨middle, .fresh unentered above first, second⟩

/-- A walk of a list, all of whose visits are walks, is a walk. -/
theorem walks_of_foldlM {levels : Nat} {types : List TypeDecl} {walk after : Ancestry}
    (visits : ∀ (type : TypeDecl) (walk after : Ancestry),
      (visit provider levels type walk).result = .ok after → Walks provider [type] walk after)
    (walked : types.foldlM (fun walk type => (visit provider levels type walk).result) walk =
      .ok after) :
    Walks provider types walk after := by
  induction types generalizing walk with
  | nil =>
    obtain rfl : walk = after := Except.ok.inj walked
    exact .done walk
  | cons type rest ih =>
    rw [List.foldlM_cons] at walked
    cases visited : (visit provider levels type walk).result with
    | error failure =>
      rw [visited] at walked
      cases walked
    | ok middle =>
      rw [visited] at walked
      exact (visits type walk middle visited).append (ih walked)

/-- **A walk that is not refused is one of the relation**, however many levels were left. -/
theorem walks_of_result_visit {levels : Nat} {type : TypeDecl} {walk after : Ancestry}
    (visited : (visit provider levels type walk).result = .ok after) :
    Walks provider [type] walk after := by
  induction levels generalizing type walk after with
  | zero => cases visited
  | succ levels ih =>
    rw [result_visit_succ] at visited
    split at visited
    · rename_i entered
      obtain rfl : walk = after := Except.ok.inj visited
      exact .known entered (.done walk)
    · rename_i unentered
      cases walked : (provider.supertypes type).reverse.foldlM
          (fun walk supertype => (visit provider levels supertype walk).result)
          (walk.enter type) with
      | error failure =>
        rw [walked] at visited
        cases visited
      | ok above =>
        rw [walked] at visited
        obtain rfl : above.finish type = after := Except.ok.inj visited
        exact .fresh unentered (walks_of_foldlM (fun _ _ _ => ih) walked) (.done _)

/-! ### Refusal -/

/-- A walk is refused for its depth alone. -/
theorem eq_tooDeep_of_result_visit {levels : Nat} {type : TypeDecl} {walk : Ancestry}
    {failure : Failure} (refused : (visit provider levels type walk).result = .error failure) :
    failure = .tooDeep recursionLimit := by
  induction levels generalizing type walk with
  | zero => exact (Except.error.inj refused).symm
  | succ levels ih =>
    rw [result_visit_succ] at refused
    split at refused
    · cases refused
    · cases walked : (provider.supertypes type).reverse.foldlM
          (fun walk supertype => (visit provider levels supertype walk).result)
          (walk.enter type) with
      | error other =>
        rw [walked] at refused
        obtain rfl : other = failure := Except.error.inj refused
        obtain ⟨supertype, -, state, -, refusedAbove⟩ :=
          exists_error_of_foldlM (fun _ => True) (fun _ _ _ _ _ => trivial) trivial walked
        exact ih refusedAbove
      | ok above =>
        rw [walked] at refused
        cases refused

/-! ### What a walk adds -/

/-- What a walk of types has added to what stood before. -/
structure Added (provider : Provider) (types : List TypeDecl) (walk after : Ancestry)
    (added : List TypeDecl) : Prop where
  /-- It stands in front of what was finished before. -/
  finished : after.finished = added ++ walk.finished
  /-- Nothing else was entered and stayed unfinished. -/
  entered : ∀ handle, handle ∈ after.entered ↔ handle ∈ walk.entered ∨ handle ∈ handlesOf added
  /-- None of it was entered before. -/
  fresh : ∀ type ∈ added, type.handle ∉ walk.entered
  /-- Each type is there once. -/
  nodup : (handlesOf added).Nodup
  /-- Each was reached from one of the types walked. -/
  reached : ∀ type ∈ added, ∃ start ∈ types, provider.Reaches start type
  /-- Everything immediately above it was entered. -/
  closed : ∀ type ∈ added, ∀ above, provider.Extends type above → above.handle ∈ after.entered
  /-- The types walked were all entered. -/
  starts : ∀ type ∈ types, type.handle ∈ after.entered

theorem Added.mem_entered {types added : List TypeDecl} {walk after : Ancestry}
    (adds : Added provider types walk after added) {handle : Handle}
    (before : handle ∈ walk.entered) : handle ∈ after.entered :=
  (adds.entered handle).mpr (.inl before)

/-- A fresh type adds what is above it, then itself, then what the rest adds. -/
theorem Added.cons {type : TypeDecl} {rest upper later : List TypeDecl}
    {walk above after : Ancestry} (unentered : type.handle ∉ walk.entered)
    (first : Added provider (provider.supertypes type).reverse (walk.enter type) above upper)
    (second : Added provider rest (above.finish type) after later) :
    Added provider (type :: rest) walk after (later ++ type :: upper) where
  finished := by
    rw [second.finished, finished_finish, first.finished, finished_enter]
    simp
  entered handle := by
    rw [second.entered, entered_finish, first.entered, entered_enter]
    simp only [handlesOf_append, handlesOf_cons, List.mem_append, List.mem_cons]
    tauto
  fresh other member entered := by
    rcases List.mem_append.mp member with member | member
    · exact second.fresh other member (first.mem_entered (List.mem_cons_of_mem _ entered))
    · rcases List.mem_cons.mp member with rfl | member
      · exact unentered entered
      · exact first.fresh other member (List.mem_cons_of_mem _ entered)
  nodup := by
    rw [handlesOf_append, handlesOf_cons, List.nodup_append, List.nodup_cons]
    refine ⟨second.nodup, ⟨fun member => ?_, first.nodup⟩, ?_⟩
    · obtain ⟨other, member, same⟩ := mem_handlesOf.mp member
      exact first.fresh other member (same ▸ List.mem_cons_self)
    · rintro handle inLater _ inOver rfl
      obtain ⟨other, member, rfl⟩ := mem_handlesOf.mp inLater
      refine second.fresh other member ?_
      rcases List.mem_cons.mp inOver with same | member
      · rw [same]
        exact first.mem_entered List.mem_cons_self
      · exact (first.entered _).mpr (.inr member)
  reached other member := by
    rcases List.mem_append.mp member with member | member
    · obtain ⟨start, among, reaches⟩ := second.reached other member
      exact ⟨start, List.mem_cons_of_mem _ among, reaches⟩
    · rcases List.mem_cons.mp member with rfl | member
      · exact ⟨other, List.mem_cons_self, .refl⟩
      · obtain ⟨start, among, reaches⟩ := first.reached other member
        exact ⟨type, List.mem_cons_self, reaches.head (List.mem_reverse.mp among)⟩
  closed other member upper upperAbove := by
    rcases List.mem_append.mp member with member | member
    · exact second.closed other member upper upperAbove
    · refine second.mem_entered ?_
      rcases List.mem_cons.mp member with rfl | member
      · exact first.starts upper (List.mem_reverse.mpr upperAbove)
      · exact first.closed other member upper upperAbove
  starts other member := by
    rcases List.mem_cons.mp member with rfl | member
    · exact second.mem_entered (first.mem_entered List.mem_cons_self)
    · exact second.starts other member

/-- **Every walk adds fresh types**, in the manner that `Added` says. -/
theorem Walks.exists_added {types : List TypeDecl} {walk after : Ancestry}
    (walks : Walks provider types walk after) : ∃ added, Added provider types walk after added := by
  induction walks with
  | done walk => exact ⟨[], by constructor <;> simp⟩
  | known entered _ ih =>
    obtain ⟨added, adds⟩ := ih
    refine ⟨added, { adds with reached := fun type member => ?_, starts := fun type member => ?_ }⟩
    · obtain ⟨start, among, reaches⟩ := adds.reached type member
      exact ⟨start, List.mem_cons_of_mem _ among, reaches⟩
    · rcases List.mem_cons.mp member with rfl | member
      · exact adds.mem_entered entered
      · exact adds.starts type member
  | fresh unentered _ _ ihAbove ihRest =>
    obtain ⟨upper, first⟩ := ihAbove
    obtain ⟨later, second⟩ := ihRest
    exact ⟨later ++ _ :: upper, first.cons unentered second⟩

end Ancestry

/-! ### The ancestry of a type -/

/-- A type has no ancestry only if it goes too deep. -/
theorem Provider.eq_tooDeep_of_ancestry {provider : Provider} {root : TypeDecl}
    {failure : Failure} (refused : (provider.ancestry root).result = .error failure) :
    failure = .tooDeep recursionLimit := by
  rw [Provider.ancestry, Attempt.result_bind] at refused
  cases visited : (Ancestry.visit provider (recursionLimit + 1) root {}).result with
  | error other =>
    rw [visited] at refused
    obtain rfl : other = failure := Except.error.inj refused
    exact Ancestry.eq_tooDeep_of_result_visit visited
  | ok after =>
    rw [visited] at refused
    cases refused

/-- **The ancestry of a type is the type in front of what a walk of its supertypes adds.** -/
theorem Provider.exists_walks_of_ancestry {provider : Provider} {root : TypeDecl}
    {order : List TypeDecl} (walked : (provider.ancestry root).result = .ok order) :
    ∃ above, Ancestry.Walks provider (provider.supertypes root).reverse
      (Ancestry.enter {} root) above ∧ order = root :: above.finished := by
  rw [Provider.ancestry, Attempt.result_bind] at walked
  cases visited : (Ancestry.visit provider (recursionLimit + 1) root {}).result with
  | error failure =>
    rw [visited] at walked
    cases walked
  | ok after =>
    rw [visited] at walked
    obtain rfl : after.finished = order := Except.ok.inj walked
    cases Ancestry.walks_of_result_visit visited with
    | known entered _ => cases entered
    | fresh _ above rest =>
      cases rest with
      | done _ => exact ⟨_, above, rfl⟩

/-! ### Other members -/

/-- The provider that reports the given members and answers every other question as before. -/
def Provider.withMembers (provider : Provider) (reported : TypeDecl → List Declaration) :
    Provider :=
  { provider with membersOf := reported }

theorem Ancestry.visit_withMembers (provider : Provider) (reported : TypeDecl → List Declaration)
    (levels : Nat) : visit (provider.withMembers reported) levels = visit provider levels := by
  induction levels with
  | zero => rfl
  | succ levels ih =>
    funext type walk
    rw [visit, visit, ih]
    rfl

/-- **What is above a type does not depend on the members that are reported.** -/
theorem Provider.ancestry_withMembers (provider : Provider)
    (reported : TypeDecl → List Declaration) (type : TypeDecl) :
    (provider.withMembers reported).ancestry type = provider.ancestry type := by
  rw [ancestry, Ancestry.visit_withMembers, ancestry]

end ValueAnatomy
