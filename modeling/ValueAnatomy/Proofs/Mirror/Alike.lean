/-
**Alike: the same but for handles.**

Two members are alike if they differ in nothing but the handles that they were given. Whatever does
not look at handles is the same of both. Where two computations go through related things in the
same order, their outcomes correspond: both end with related values, or with failures that tell the
same.

* `FieldDecl.Alike`, `CallableDecl.Alike`, `Property.Alike`: members and properties that are alike;
* `Failure.outline`: what a failure tells, without any handle;
* `Corresponds`: outcomes that correspond, with `Corresponds.bind` for one attempt after another;
* `List.Forall₂.firstOfEach`, `List.Forall₂.repeatsOfEach`: the first of each key of related items
  are related, and so are the others.
-/

import Mathlib.Data.List.Forall2
import ValueAnatomy.Finisher
import ValueAnatomy.Property

/-! ### Related items -/

namespace Option.Rel

variable {α β γ δ : Type} {related : α → β → Prop} {first : Option α} {second : Option β}

theorem any_eq {holds : α → Bool} {holdsToo : β → Bool} (alike : Option.Rel related first second)
    (same : ∀ a b, related a b → holds a = holdsToo b) : first.any holds = second.any holdsToo := by
  cases alike with
  | none => rfl
  | some pair => exact same _ _ pair

theorem map_eq {map : α → γ} {mapToo : β → γ} (alike : Option.Rel related first second)
    (same : ∀ a b, related a b → map a = mapToo b) : first.map map = second.map mapToo := by
  cases alike with
  | none => rfl
  | some pair => exact congrArg _ (same _ _ pair)

theorem map {relatedToo : γ → δ → Prop} {map : α → γ} {mapToo : β → δ}
    (alike : Option.Rel related first second)
    (keeps : ∀ a b, related a b → relatedToo (map a) (mapToo b)) :
    Option.Rel relatedToo (first.map map) (second.map mapToo) := by
  cases alike with
  | none => exact .none
  | some pair => exact .some (keeps _ _ pair)

theorem isSome_eq (alike : Option.Rel related first second) : first.isSome = second.isSome := by
  cases alike <;> rfl

theorem toList (alike : Option.Rel related first second) :
    List.Forall₂ related first.toList second.toList := by
  cases alike with
  | none => exact .nil
  | some pair => exact .cons pair .nil

theorem or {more : Option α} {moreToo : Option β} (alike : Option.Rel related first second)
    (further : Option.Rel related more moreToo) :
    Option.Rel related (first.or more) (second.or moreToo) := by
  cases alike with
  | none => exact further
  | some pair => exact .some pair

end Option.Rel

namespace List.Forall₂

variable {α β γ κ : Type} {related : α → β → Prop} {items : List α} {others : List β}

theorem filter {keep : α → Bool} {keepToo : β → Bool} (alike : List.Forall₂ related items others)
    (same : ∀ a b, related a b → keep a = keepToo b) :
    List.Forall₂ related (items.filter keep) (others.filter keepToo) :=
  List.rel_filter (fun a b pair => Bool.eq_iff_iff.mp (same a b pair)) alike

theorem any_eq {holds : α → Bool} {holdsToo : β → Bool}
    (alike : List.Forall₂ related items others)
    (same : ∀ a b, related a b → holds a = holdsToo b) : items.any holds = others.any holdsToo := by
  induction alike with
  | nil => rfl
  | cons pair _ ih => rw [List.any_cons, List.any_cons, same _ _ pair, ih]

theorem all_eq {holds : α → Bool} {holdsToo : β → Bool}
    (alike : List.Forall₂ related items others)
    (same : ∀ a b, related a b → holds a = holdsToo b) : items.all holds = others.all holdsToo := by
  induction alike with
  | nil => rfl
  | cons pair _ ih => rw [List.all_cons, List.all_cons, same _ _ pair, ih]

theorem map_eq {map : α → γ} {mapToo : β → γ} (alike : List.Forall₂ related items others)
    (same : ∀ a b, related a b → map a = mapToo b) : items.map map = others.map mapToo := by
  induction alike with
  | nil => rfl
  | cons pair _ ih => rw [List.map_cons, List.map_cons, same _ _ pair, ih]

theorem and {relatedToo : α → β → Prop} (alike : List.Forall₂ related items others)
    (further : List.Forall₂ relatedToo items others) :
    List.Forall₂ (fun a b => related a b ∧ relatedToo a b) items others := by
  induction alike with
  | nil => exact .nil
  | cons pair _ ih =>
    cases further with
    | cons pairToo rest => exact .cons ⟨pair, pairToo⟩ (ih rest)

theorem isEmpty_eq (alike : List.Forall₂ related items others) :
    items.isEmpty = others.isEmpty := by
  cases alike <;> rfl

theorem of_map_eq {items others : List α} {map : α → γ} (same : items.map map = others.map map) :
    List.Forall₂ (fun item other => map item = map other) items others := by
  rwa [← List.forall₂_eq_eq_eq, List.forall₂_map_left_iff, List.forall₂_map_right_iff] at same

theorem sole? (alike : List.Forall₂ related items others) :
    Option.Rel related (ValueAnatomy.sole? items) (ValueAnatomy.sole? others) := by
  cases alike with
  | nil => exact .none
  | cons pair rest =>
    cases rest with
    | nil => exact .some pair
    | cons _ _ => exact .none

variable [DecidableEq κ] {key : α → κ} {keyToo : β → κ}

/-- The first of each key of related items are related. -/
theorem firstOfEach (alike : List.Forall₂ related items others)
    (same : ∀ a b, related a b → key a = keyToo b) :
    List.Forall₂ related (ValueAnatomy.firstOfEach key items)
      (ValueAnatomy.firstOfEach keyToo others) := by
  induction alike with
  | nil => exact .nil
  | cons pair _ ih =>
    refine .cons pair (ih.filter fun a b further => ?_)
    rw [same _ _ pair, same _ _ further]

theorem repeatsBehind (alike : List.Forall₂ related items others)
    (same : ∀ a b, related a b → key a = keyToo b) (seen : List κ) :
    List.Forall₂ related (ValueAnatomy.repeatsBehind key seen items)
      (ValueAnatomy.repeatsBehind keyToo seen others) := by
  induction alike generalizing seen with
  | nil => exact .nil
  | cons pair _ ih =>
    rw [ValueAnatomy.repeatsBehind, ValueAnatomy.repeatsBehind, same _ _ pair]
    split
    · exact .cons pair (ih seen)
    · exact ih _

/-- The items behind another one of their key are related too. -/
theorem repeatsOfEach (alike : List.Forall₂ related items others)
    (same : ∀ a b, related a b → key a = keyToo b) :
    List.Forall₂ related (ValueAnatomy.repeatsOfEach key items)
      (ValueAnatomy.repeatsOfEach keyToo others) :=
  alike.repeatsBehind same []

end List.Forall₂

namespace ValueAnatomy

/-! ### Declarations without their handles -/

/-- The handle of nothing. -/
def Handle.blank : Handle := ⟨0⟩

/-- The field without its handle. -/
def FieldDecl.unmarked (field : FieldDecl) : FieldDecl := { field with handle := .blank }

/-- The callable without its handle. -/
def CallableDecl.unmarked (callable : CallableDecl) : CallableDecl :=
  { callable with handle := .blank }

/-- The type without its handle and those of its members. -/
def TypeDecl.unmarked (type : TypeDecl) : TypeDecl :=
  { type with
    handle := .blank
    fields := type.fields.map FieldDecl.unmarked
    constructors := type.constructors.map CallableDecl.unmarked
    methods := type.methods.map CallableDecl.unmarked }

/-- Two fields are the same but for their handles. -/
def FieldDecl.Alike (first second : FieldDecl) : Prop := first.unmarked = second.unmarked

/-- Two callables are the same but for their handles. -/
def CallableDecl.Alike (first second : CallableDecl) : Prop := first.unmarked = second.unmarked

namespace FieldDecl.Alike

variable {first second : FieldDecl} (alike : first.Alike second)

include alike

/-- Whatever does not look at the handle is the same of both. -/
theorem congr {β : Type} (read : FieldDecl → β)
    (blind : ∀ field, read field.unmarked = read field) :
    read first = read second := by
  rw [← blind first, ← blind second, alike]

theorem name_eq : first.name = second.name := alike.congr FieldDecl.name fun _ => rfl

theorem key_eq : first.key = second.key := alike.congr FieldDecl.key fun _ => rfl

theorem isStatic_eq : first.isStatic = second.isStatic :=
  alike.congr FieldDecl.isStatic fun _ => rfl

theorem isPrivate_eq : first.isPrivate = second.isPrivate :=
  alike.congr FieldDecl.isPrivate fun _ => rfl

theorem isTransient_eq : first.isTransient = second.isTransient :=
  alike.congr FieldDecl.isTransient fun _ => rfl

end FieldDecl.Alike

namespace CallableDecl.Alike

variable {first second : CallableDecl} (alike : first.Alike second)

include alike

/-- Whatever does not look at the handle is the same of both. -/
theorem congr {β : Type} (read : CallableDecl → β)
    (blind : ∀ callable, read callable.unmarked = read callable) : read first = read second := by
  rw [← blind first, ← blind second, alike]

theorem name_eq : first.name = second.name := alike.congr CallableDecl.name fun _ => rfl

theorem params_eq : first.params = second.params := alike.congr CallableDecl.params fun _ => rfl

theorem returns_eq : first.returns = second.returns := alike.congr CallableDecl.returns fun _ => rfl

theorem key_eq : first.key = second.key := alike.congr CallableDecl.key fun _ => rfl

theorem overrideKey_eq : first.overrideKey = second.overrideKey :=
  alike.congr CallableDecl.overrideKey fun _ => rfl

theorem isStatic_eq : first.isStatic = second.isStatic :=
  alike.congr CallableDecl.isStatic fun _ => rfl

/-- Both are shown alike. -/
theorem text_eq : (Declaration.ofCallable first).text = (Declaration.ofCallable second).text := by
  refine alike.congr (Declaration.text ∘ Declaration.ofCallable) fun callable => ?_
  cases kind : callable.kind <;>
    simp only [Function.comp_apply, Declaration.ofCallable, unmarked, kind] <;> rfl

/-- Both meet the same conditions. -/
theorem holds_eq (filter : CallableFilter) : filter.holds first = filter.holds second :=
  alike.congr (CallableFilter.holds · filter) fun _ => by cases filter <;> rfl

end CallableDecl.Alike

/-- The same conditions choose alike callables. -/
theorem forall₂_selectCallables {callables others : List CallableDecl}
    (alike : List.Forall₂ CallableDecl.Alike callables others) (filters : List CallableFilter) :
    List.Forall₂ CallableDecl.Alike (selectCallables filters callables)
      (selectCallables filters others) := by
  refine alike.filter fun callable other pair => ?_
  congr 1
  funext filter
  exact pair.holds_eq filter

/-! ### Properties -/

/-- Two properties come from alike declarations, in the same way. -/
inductive PropertySource.Alike : PropertySource → PropertySource → Prop
  | field {field other : FieldDecl} (alike : field.Alike other) :
      Alike (.field field) (.field other)
  | getter {method other : CallableDecl} (alike : method.Alike other) (name : String) :
      Alike (.getter method name) (.getter other name)
  | constructorParam {callable other : CallableDecl} (alike : callable.Alike other)
      (position : Nat) :
      Alike (.constructorParam callable position) (.constructorParam other position)
  | builderParam {setter other : CallableDecl} (alike : setter.Alike other) :
      Alike (.builderParam setter) (.builderParam other)

namespace PropertySource.Alike

variable {first second : PropertySource}

theorem name_eq (alike : first.Alike second) : first.name = second.name := by
  cases alike with
  | field alike => exact alike.name_eq
  | getter alike name => rfl
  | constructorParam alike position =>
    exact congrArg (fun params => (params[position]?.map Param.name).getD "") alike.params_eq
  | builderParam alike => exact alike.name_eq

theorem key_eq (alike : first.Alike second) : first.key = second.key := by
  cases alike with
  | field alike => exact congrArg (PropertyKey.mk .field · none) alike.key_eq
  | getter alike name => exact congrArg (PropertyKey.mk .getter · none) alike.key_eq
  | constructorParam alike position =>
    exact congrArg (PropertyKey.mk .constructorParam · (some position)) alike.key_eq
  | builderParam alike => exact congrArg (PropertyKey.mk .builderParam · (some 0)) alike.key_eq

theorem element_key_eq (alike : first.Alike second) :
    first.element.key = second.element.key := by
  cases alike with
  | field alike => exact alike.key_eq
  | getter alike name => exact alike.key_eq
  | constructorParam alike position =>
    exact (Declaration.key_ofCallable _).trans
      (alike.key_eq.trans (Declaration.key_ofCallable _).symm)
  | builderParam alike => exact alike.key_eq

end PropertySource.Alike

/-- Two properties come from alike declarations, with the same annotations. -/
structure Property.Alike (first second : Property) : Prop where
  source : first.source.Alike second.source
  annotations : first.annotations = second.annotations

theorem Property.Alike.name_eq {first second : Property} (alike : first.Alike second) :
    first.name = second.name := alike.source.name_eq

/-! ### Outcomes -/

/-- What is told of a problem, without any handle. -/
structure ProblemOutline where
  kind : ProblemKind
  message : String
  element : Option DeclKey
  deriving DecidableEq, Repr

def Problem.outline (problem : Problem) : ProblemOutline :=
  ⟨problem.kind, problem.message, problem.element.map Declaration.key⟩

/-- What is told of a failure, without any handle: the problems of an analysis one by one, any other
failure as it is. -/
def Failure.outline : Failure → List ProblemOutline ⊕ Failure
  | problems found => .inl (found.map Problem.outline)
  | other => .inr other

/-- Two outcomes correspond: both end with related values, or with failures that tell the same. -/
inductive Corresponds {α β : Type} (related : α → β → Prop) :
    Except Failure α → Except Failure β → Prop
  | ok {value : α} {other : β} (pair : related value other) :
      Corresponds related (.ok value) (.ok other)
  | error {failure other : Failure} (told : failure.outline = other.outline) :
      Corresponds related (.error failure) (.error other)

namespace Corresponds

variable {α β γ δ : Type} {related : α → β → Prop} {relatedToo : γ → δ → Prop}

/-- Outcomes that correspond still do where what is done to their values keeps them related. -/
theorem map {first : Except Failure α} {second : Except Failure β} {map : α → γ} {mapToo : β → δ}
    (start : Corresponds related first second)
    (keeps : ∀ a b, related a b → relatedToo (map a) (mapToo b)) :
    Corresponds relatedToo (first.map map) (second.map mapToo) := by
  cases start with
  | ok pair => exact .ok (keeps _ _ pair)
  | error told => exact .error told

/-- **One attempt after another**: the outcomes correspond if they do at each of the two. -/
theorem bind {first : Attempt α} {second : Attempt β} {next : α → Attempt γ}
    {nextToo : β → Attempt δ} (start : Corresponds related first.result second.result)
    (keeps : ∀ a b, related a b → Corresponds relatedToo (next a).result (nextToo b).result) :
    Corresponds relatedToo (first >>= next).result (second >>= nextToo).result := by
  rw [Attempt.result_bind, Attempt.result_bind]
  generalize first.result = outcome at start
  generalize second.result = outcomeToo at start
  cases start with
  | ok pair => exact keeps _ _ pair
  | error told => exact .error told

/-- A run over related items that keeps what it carries related. -/
theorem foldlM {items : List α} {others : List β} {next : γ → α → Attempt γ}
    {nextToo : δ → β → Attempt δ} (alike : List.Forall₂ related items others)
    (keeps : ∀ a b, related a b → ∀ c d, relatedToo c d →
      Corresponds relatedToo (next c a).result (nextToo d b).result)
    {start : γ} {startToo : δ} (begins : relatedToo start startToo) :
    Corresponds relatedToo (items.foldlM next start).result
      (others.foldlM nextToo startToo).result := by
  induction alike generalizing start startToo with
  | nil => exact .ok begins
  | cons pair _ ih =>
    rw [List.foldlM_cons, List.foldlM_cons]
    exact (keeps _ _ pair _ _ begins).bind fun _ _ later => ih later

/-- What is told of outcomes that correspond is the same, if it is of related values. -/
theorem outline_eq {first : Except Failure α} {second : Except Failure β} {told : α → γ}
    {toldToo : β → γ} (outcomes : Corresponds related first second)
    (same : ∀ a b, related a b → told a = toldToo b) :
    (first.map told).mapError Failure.outline = (second.map toldToo).mapError Failure.outline := by
  cases outcomes with
  | ok pair => exact congrArg Except.ok (same _ _ pair)
  | error told => exact congrArg Except.error told

end Corresponds

end ValueAnatomy
