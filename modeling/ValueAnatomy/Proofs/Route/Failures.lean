/-
**What the resolution of a route fails with.**

A resolution that finds problems stops with the problems of one matter: a single thing that is
wrong, or one ambiguity with a problem for each of the candidates. There is never an empty list, and
never a problem without the declaration that it is about.

* `OneMatter`: problems that make up one matter;
* `FailsBy`: an outcome that is no failure, a failure without problems, or the problems of one
  matter of certain kinds;
* `Inquiry.faults`: by how a route is asked for, what may be found wrong;
* `Resolver.failsBy_resolve`, `Resolver.failsBy_resolveBuilder`, `Resolver.failsBy_routeFor`: so
  fails the answer to each inquiry, as long as the policy is undecided only among several.
-/

import ValueAnatomy.Proofs.Finisher.Choice
import ValueAnatomy.Proofs.Route.Creators
import ValueAnatomy.Session

namespace ValueAnatomy

/-! ### One matter -/

/-- Problems of one kind that make up one matter. -/
structure OneMatter (kind : ProblemKind) (found : List Problem) : Prop where
  notEmpty : found ≠ []
  sameKind : ∀ problem ∈ found, problem.kind = kind
  /-- Every problem points at a declaration. -/
  located : ∀ problem ∈ found, ∃ element, problem.element = some element
  /-- What is ambiguous has at least two candidates. -/
  several : kind = .ambiguousCreator → 2 ≤ found.length
  /-- That a creator, a finisher or the right kind of declaration is missing is a single problem. -/
  alone : kind ∈ [.noCreatorFound, .noBuildMethodFound, .invalidElementKind] → found.length = 1

/-- An outcome that, if it is that problems were found, is that those of one matter were, of one of
the kinds. -/
def FailsBy {α : Type} (kinds : List ProblemKind) (outcome : Except Failure α) : Prop :=
  ∀ found, outcome = .error (.problems found) → ∃ kind ∈ kinds, OneMatter kind found

variable {α β : Type} {kinds : List ProblemKind}

/-- A problem that is no ambiguity is one matter by itself. -/
theorem oneMatter_singleton {problem : Problem} {element : Declaration}
    (located : problem.element = some element) (single : problem.kind ≠ .ambiguousCreator) :
    OneMatter problem.kind [problem] where
  notEmpty := List.cons_ne_nil _ _
  sameKind other member := by rw [List.mem_singleton.mp member]
  located other member := by
    rw [List.mem_singleton.mp member]
    exact ⟨element, located⟩
  several ambiguous := absurd ambiguous single
  alone _ := rfl

/-- The problems of an ambiguity are one matter, if there are several candidates. -/
theorem oneMatter_ambiguity (type : TypeDecl) {candidates : List Route}
    (several : 2 ≤ candidates.length) {found : List Problem}
    (same : Resolver.ambiguity type candidates = .problems found) :
    OneMatter .ambiguousCreator found := by
  obtain rfl := Failure.problems.inj same
  exact
    { notEmpty := fun nothing => by
        rw [List.map_eq_nil_iff.mp nothing] at several
        cases several
      sameKind := List.forall_mem_map.mpr fun _ _ => rfl
      located := List.forall_mem_map.mpr fun route _ => ⟨route.element, rfl⟩
      several := fun _ => by
        rw [List.length_map]
        exact several
      alone := nofun }

/-! ### Outcomes -/

theorem failsBy_ok (value : α) : FailsBy kinds (.ok value : Except Failure α) := nofun

/-- A failure without problems may always be. -/
theorem failsBy_error {failure : Failure} (nothing : ∀ found, failure ≠ .problems found) :
    FailsBy kinds (.error failure : Except Failure α) :=
  fun found same => absurd (Except.error.inj same) (nothing found)

/-- A failure because of a single problem is of the kind of that problem. -/
theorem failsBy_problem {kind : ProblemKind} (allowed : kind ∈ kinds)
    (single : kind ≠ .ambiguousCreator) (message : String) (element : Declaration) :
    FailsBy kinds (.error (.problem kind message element) : Except Failure α) := by
  intro found same
  rw [← Failure.problems.inj (Except.error.inj same)]
  exact ⟨kind, allowed, @oneMatter_singleton ⟨kind, message, some element⟩ element rfl single⟩

/-- A failure is what it is, whatever would have been the value. -/
theorem FailsBy.error {failure : Failure}
    (fails : FailsBy kinds (.error failure : Except Failure α)) :
    FailsBy kinds (.error failure : Except Failure β) :=
  fun found same => fails found (congrArg Except.error (Except.error.inj same))

theorem FailsBy.mono {outcome : Except Failure α} (fails : FailsBy kinds outcome)
    {more : List ProblemKind} (within : kinds ⊆ more) : FailsBy more outcome := by
  intro found same
  obtain ⟨kind, member, matter⟩ := fails found same
  exact ⟨kind, within member, matter⟩

/-- What follows an outcome fails as the one or the other does. -/
theorem FailsBy.bind {first : Except Failure α} {next : α → Except Failure β}
    (fails : FailsBy kinds first) (failsNext : ∀ value, FailsBy kinds (next value)) :
    FailsBy kinds (first.bind next) := by
  cases first with
  | error failure => exact fails.error
  | ok value => exact failsNext value

theorem FailsBy.map {outcome : Except Failure α} (fails : FailsBy kinds outcome) (map : α → β) :
    FailsBy kinds (outcome.map map) := by
  cases outcome with
  | error failure => exact fails.error
  | ok value => exact failsBy_ok _

/-- One attempt after another fails as the one or the other does. -/
theorem failsBy_result_bind {first : Attempt α} {next : α → Attempt β}
    (fails : FailsBy kinds first.result) (failsNext : ∀ value, FailsBy kinds (next value).result) :
    FailsBy kinds (first >>= next).result := by
  rw [Attempt.result_bind]
  exact fails.bind failsNext

/-! ### Ancestries and finishers -/

namespace Provider

/-- An ancestry that goes too deep is no problem of a declaration. -/
theorem failsBy_ancestry (provider : Provider) (type : TypeDecl) :
    FailsBy kinds (provider.ancestry type).result := by
  intro found refused
  cases eq_tooDeep_of_ancestry refused

theorem failsBy_finisher? (provider : Provider) (settings : Settings) (builder : TypeDecl) :
    FailsBy kinds (provider.finisher? settings builder).result := by
  rw [result_finisher?]
  exact (failsBy_ancestry provider builder).map _

end Provider

/-! ### Selection -/

/-- A policy that is undecided only among several candidates. -/
def Policy.Careful (policy : Policy) : Prop :=
  ∀ provider candidates others, policy.choose provider candidates = .undecided others →
    2 ≤ others.length

/-- The usual policy takes a lone candidate, marked or not. -/
theorem Policy.careful_byMarker (marker : Option String) : (Policy.byMarker marker).Careful := by
  intro provider candidates others undecided
  rw [Resolver.eq_of_byMarker_undecided undecided]
  rcases candidates with _ | ⟨first, _ | ⟨second, rest⟩⟩
  · cases undecided
  · cases undecided
  · simp

namespace Resolver

variable {resolver : Resolver}

theorem failsBy_nestedFinisher? (resolver : Resolver) (target nested : TypeDecl) :
    FailsBy kinds (resolver.nestedFinisher? target nested).result := by
  refine failsBy_result_bind (resolver.provider.failsBy_finisher? _ nested) fun finisher? => ?_
  cases finisher? with
  | none => exact failsBy_ok _
  | some finisher =>
    dsimp only
    split
    · exact failsBy_ok _
    · exact failsBy_ok _

theorem failsBy_nestedRoutes (resolver : Resolver) (target : TypeDecl)
    (methods : List CallableDecl) (nested : List TypeDecl) :
    FailsBy kinds (resolver.nestedRoutes target methods nested).result := by
  induction nested with
  | nil => exact failsBy_ok _
  | cons type rest ih =>
    rw [nestedRoutes]
    split
    · exact ih
    · refine failsBy_result_bind (resolver.failsBy_nestedFinisher? target type) fun _ => ?_
      exact failsBy_result_bind ih fun _ => failsBy_ok _

/-- **No problem is found while the candidates are enumerated.** -/
theorem failsBy_candidates (resolver : Resolver) (target : TypeDecl) :
    FailsBy kinds (resolver.candidates target).result :=
  failsBy_result_bind (resolver.failsBy_nestedRoutes target _ _) fun _ => failsBy_ok _

/-- **A selection finds no creator, which is one problem, or several.** -/
theorem failsBy_select (careful : resolver.policy.Careful) (type : TypeDecl)
    (candidates : List Route) :
    FailsBy [.noCreatorFound, .ambiguousCreator] (resolver.select type candidates).result := by
  rw [result_select]
  cases chosen : resolver.policy.choose resolver.provider candidates with
  | chosen route => exact failsBy_ok _
  | nothing => exact failsBy_problem (by decide) (by decide) _ _
  | undecided others =>
    intro found same
    have several := careful _ _ _ chosen
    exact ⟨.ambiguousCreator, by decide,
      oneMatter_ambiguity type several (Except.error.inj same)⟩

/-! ### Builders and known callables -/

theorem failsBy_requireFinisher (resolver : Resolver) (builder : TypeDecl)
    (allowed : .noBuildMethodFound ∈ kinds) :
    FailsBy kinds (resolver.requireFinisher builder).result := by
  refine failsBy_result_bind (resolver.provider.failsBy_finisher? _ builder) fun finisher? => ?_
  split
  · exact failsBy_ok _
  · exact failsBy_problem allowed (by decide) _ _

theorem failsBy_expectConstructor (resolver : Resolver) (callable : CallableDecl)
    (allowed : .invalidElementKind ∈ kinds) :
    FailsBy kinds (resolver.expectConstructor callable).result := by
  unfold expectConstructor
  split
  · split
    · exact failsBy_ok _
    · exact failsBy_error nofun
  · exact failsBy_problem allowed (by decide) _ _

theorem failsBy_expectFactory (resolver : Resolver) (callable : CallableDecl)
    (allowed : .invalidElementKind ∈ kinds) :
    FailsBy kinds (resolver.expectFactory callable).result := by
  unfold expectFactory
  split
  · exact failsBy_ok _
  · exact failsBy_problem allowed (by decide) _ _

end Resolver

/-! ### Inquiries -/

/-- What may be found wrong, by how a route is asked for. -/
def Inquiry.faults : Inquiry → List ProblemKind
  | .type => [.noCreatorFound, .ambiguousCreator]
  | .builder => [.noBuildMethodFound, .noCreatorFound, .ambiguousCreator]
  | .start ⟨_, false⟩ => [.invalidElementKind]
  | .start ⟨_, true⟩ => [.invalidElementKind, .noBuildMethodFound]

/-- What may be found wrong with a declaration that is asked about; a field leads to no route. -/
def Declaration.faults (element : Declaration) (fromBuilder : Bool) : List ProblemKind :=
  ((element.inquiry? fromBuilder).map Inquiry.faults).getD [.invalidElementKind]

namespace Resolver

variable {resolver : Resolver}

theorem failsBy_resolve (careful : resolver.policy.Careful) (type : TypeDecl) :
    FailsBy Inquiry.type.faults (resolver.resolve type).result :=
  failsBy_result_bind (resolver.failsBy_candidates type) fun candidates =>
    failsBy_select careful type candidates

theorem failsBy_resolveBuilder (careful : resolver.policy.Careful) (builder : TypeDecl) :
    FailsBy Inquiry.builder.faults (resolver.resolveBuilder builder).result := by
  have required := resolver.failsBy_requireFinisher builder
    (show .noBuildMethodFound ∈ Inquiry.builder.faults by decide)
  exact failsBy_result_bind required fun _ =>
    (failsBy_select careful builder _).mono (List.subset_cons_self _ _)

theorem failsBy_routeFor (resolver : Resolver) (shape : RouteShape) (callable : CallableDecl) :
    FailsBy (Inquiry.start shape).faults (resolver.routeFor shape callable).result := by
  obtain ⟨start, throughBuilder⟩ := shape
  have expected : FailsBy (Inquiry.start ⟨start, throughBuilder⟩).faults
        (resolver.expectConstructor callable).result ∧
      FailsBy (Inquiry.start ⟨start, throughBuilder⟩).faults
        (resolver.expectFactory callable).result := by
    have allowed : .invalidElementKind ∈ (Inquiry.start ⟨start, throughBuilder⟩).faults := by
      cases throughBuilder <;> simp [Inquiry.faults]
    exact ⟨resolver.failsBy_expectConstructor callable allowed,
      resolver.failsBy_expectFactory callable allowed⟩
  cases throughBuilder with
  | false =>
    cases start with
    | constructor => exact failsBy_result_bind expected.1 fun _ => failsBy_ok _
    | factory => exact failsBy_result_bind expected.2 fun _ => failsBy_ok _
  | true =>
    have finished : ∀ builder, FailsBy (Inquiry.start ⟨start, true⟩).faults
        (resolver.requireFinisher builder).result :=
      fun builder => resolver.failsBy_requireFinisher builder (by simp [Inquiry.faults])
    cases start with
    | constructor =>
      exact failsBy_result_bind expected.1 fun builder =>
        failsBy_result_bind (finished builder) fun _ => failsBy_ok _
    | factory =>
      exact failsBy_result_bind expected.2 fun builder =>
        failsBy_result_bind (finished builder) fun _ => failsBy_ok _

/-- **Whatever a declaration leads to, it fails by what its inquiry may find wrong.** -/
theorem failsBy_resolveElement (careful : resolver.policy.Careful) (element : Declaration)
    (fromBuilder : Bool) :
    FailsBy (element.faults fromBuilder) (resolver.resolveElement element fromBuilder).result := by
  cases element with
  | type type =>
    cases fromBuilder with
    | true => exact failsBy_resolveBuilder careful type
    | false => exact failsBy_resolve careful type
  | field field => exact failsBy_problem List.mem_cons_self (by decide) _ _
  | constructor callable => exact resolver.failsBy_routeFor _ callable
  | method callable => exact resolver.failsBy_routeFor _ callable

end Resolver

end ValueAnatomy
