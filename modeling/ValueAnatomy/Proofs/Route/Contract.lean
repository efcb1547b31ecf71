/-
**What every route promises.**

However a route was found, by enumeration or from a known callable, it starts with a constructor of
what it yields first or with a static method returning that, be it the target or a builder; and a
builder on the way is finished by the very method that is its finisher, which returns the target.

* `Route.first`: the type that the callable yields which the route starts with;
* `Resolver.Obtained`: the routes that any question about a catalog is answered with;
* `Resolver.Keeps`: what a route promises;
* `Resolver.keeps_of_obtained`: in a grown catalog, every route that is obtained keeps it.
-/

import ValueAnatomy.Proofs.Ancestry.Topological
import ValueAnatomy.Proofs.Finisher.Choice
import ValueAnatomy.Proofs.Route.Rooted

namespace ValueAnatomy

/-- The type that a route yields first: its builder, or else its target. -/
def Route.first (route : Route) : TypeDecl := route.builder?.getD route.target

namespace Resolver

/-- The routes that questions about the types and callables of a catalog are answered with. -/
inductive Obtained (resolver : Resolver) (catalog : Catalog) : Route → Prop
  | byType {type : TypeDecl} {route : Route} : type ∈ catalog.types →
      (resolver.resolve type).result = .ok route → Obtained resolver catalog route
  | byBuilder {builder : TypeDecl} {route : Route} : builder ∈ catalog.types →
      (resolver.resolveBuilder builder).result = .ok route → Obtained resolver catalog route
  | byElement {element : Declaration} {fromBuilder : Bool} {route : Route} :
      catalog.Registers element →
      (resolver.resolveElement element fromBuilder).result = .ok route →
      Obtained resolver catalog route
  | byConstructor {callable : CallableDecl} {route : Route} : callable ∈ catalog.callables →
      (resolver.constructorRoute callable).result = .ok route → Obtained resolver catalog route
  | byFactory {callable : CallableDecl} {route : Route} : callable ∈ catalog.callables →
      (resolver.factoryRoute callable).result = .ok route → Obtained resolver catalog route
  | byBuilderConstructor {callable : CallableDecl} {route : Route} :
      callable ∈ catalog.callables →
      (resolver.builderConstructorRoute callable).result = .ok route →
      Obtained resolver catalog route
  | byBuilderFactory {callable : CallableDecl} {route : Route} : callable ∈ catalog.callables →
      (resolver.builderFactoryRoute callable).result = .ok route →
      Obtained resolver catalog route

/-- The method of a builder that finishes it, and what is promised of it. -/
structure Finishes (provider : Provider) (settings : Settings) (step : BuilderStep)
    (target : TypeDecl) : Prop where
  /-- It is the finisher of the builder. -/
  found : (provider.finisher? settings step.builder).result = .ok (some step.finisher)
  isMethod : step.finisher.isConstructor = false
  notPrivate : step.finisher.isPrivate = false
  onInstance : step.finisher.isStatic = false
  noParams : step.finisher.params = []
  /-- It returns the target. -/
  yields : provider.resolveResult step.finisher = some target

/-- **What a route promises.** -/
structure Keeps (resolver : Resolver) (route : Route) : Prop where
  /-- A constructor that it starts with is one of the type that it yields first. -/
  constructor : route.start = .constructor → route.callable.isConstructor = true ∧
    route.callable ∈ route.first.constructors ∧ route.callable.owner = route.first.fullName
  /-- A factory that it starts with is a static method that returns the type it yields first. -/
  factory : route.start = .factory → route.callable.isConstructor = false ∧
    route.callable.isStatic = true ∧
    resolver.provider.resolveResult route.callable = some route.first
  /-- A builder on the way is finished by its finisher, which returns the target. -/
  finisher : ∀ step, route.step = some step →
    Finishes resolver.provider resolver.settings step route.target

variable {resolver : Resolver}

/-! ### Known callables -/

theorem result_expectConstructor_eq_ok_iff {callable : CallableDecl} {type : TypeDecl} :
    (resolver.expectConstructor callable).result = .ok type ↔
      callable.isConstructor = true ∧ resolver.provider.typeByName callable.owner = some type := by
  unfold expectConstructor
  split
  · rename_i constructs
    cases located : resolver.provider.typeByName callable.owner <;> simp [constructs]
  · rename_i other
    simp [other]

theorem result_expectFactory_eq_ok_iff {callable : CallableDecl} {type : TypeDecl} :
    (resolver.expectFactory callable).result = .ok type ↔
      callable.isConstructor = false ∧ callable.isStatic = true ∧
        resolver.provider.resolveResult callable = some type := by
  unfold expectFactory
  cases constructs : callable.isConstructor <;> cases static : callable.isStatic <;>
    cases resolved : resolver.provider.resolveResult callable <;> simp

/-- The parts of the route that is found from its own shape and callable: what is expected of the
callable is what the route yields first, and a builder has the finisher that is required of it. -/
theorem parts_of_routeFor {route : Route}
    (determined : (resolver.routeFor route.shape route.callable).result = .ok route) :
    (route.start = .constructor →
      (resolver.expectConstructor route.callable).result = .ok route.first) ∧
    (route.start = .factory →
      (resolver.expectFactory route.callable).result = .ok route.first) ∧
    ∀ step, route.step = some step →
      (resolver.requireFinisher step.builder).result = .ok (step.finisher, route.target) ∧
        route.first = step.builder := by
  obtain ⟨target, start, callable, step⟩ := route
  cases start with
  | constructor =>
    cases step with
    | none =>
      obtain ⟨type, expected, ended⟩ := Attempt.result_bind_eq_ok_iff.mp determined
      cases ended
      exact ⟨fun _ => expected, nofun, nofun⟩
    | some step =>
      obtain ⟨type, expected, ended⟩ := Attempt.result_bind_eq_ok_iff.mp determined
      obtain ⟨found, required, ended⟩ := Attempt.result_bind_eq_ok_iff.mp ended
      cases ended
      refine ⟨fun _ => expected, nofun, fun _ same => ?_⟩
      cases same
      exact ⟨required, rfl⟩
  | factory =>
    cases step with
    | none =>
      obtain ⟨type, expected, ended⟩ := Attempt.result_bind_eq_ok_iff.mp determined
      cases ended
      exact ⟨nofun, fun _ => expected, nofun⟩
    | some step =>
      obtain ⟨type, expected, ended⟩ := Attempt.result_bind_eq_ok_iff.mp determined
      obtain ⟨found, required, ended⟩ := Attempt.result_bind_eq_ok_iff.mp ended
      cases ended
      refine ⟨nofun, fun _ => expected, fun _ same => ?_⟩
      cases same
      exact ⟨required, rfl⟩

/-- What a rooted route yields first is a type of the catalog. -/
theorem Rooted.mem_types_first {catalog : Catalog} {settings : Settings} {policy : Policy}
    {route : Route} (rooted : Rooted (catalog.resolver settings policy) catalog route) :
    route.first ∈ catalog.types := by
  obtain ⟨constructed, made, -⟩ := parts_of_routeFor rooted.determined
  cases start : route.start with
  | constructor =>
    exact Catalog.mem_types_of_findByName?
      (result_expectConstructor_eq_ok_iff.mp (constructed start)).2
  | factory =>
    exact Catalog.mem_types_of_resolve (result_expectFactory_eq_ok_iff.mp (made start)).2.2

end Resolver

namespace Catalog.Faithful

open Resolver

variable {catalog : Catalog} {settings : Settings} {policy : Policy}

/-- A registered constructor is one of the type that its owner's name leads to. -/
theorem mem_constructors_of_owner (faithful : catalog.Faithful) {callable : CallableDecl}
    (registered : callable ∈ catalog.callables) (constructs : callable.isConstructor = true)
    {type : TypeDecl} (located : catalog.provider.typeByName callable.owner = some type) :
    callable ∈ type.constructors ∧ callable.owner = type.fullName := by
  obtain ⟨declaring, there, member⟩ := List.mem_flatMap.mp registered
  rcases List.mem_append.mp member with constructor | method
  · obtain ⟨owner, -⟩ := (faithful.owned declaring there).constructors callable constructor
    have same : some declaring = some type := by
      rw [← located, owner]
      exact (faithful.found declaring there).symm
    obtain rfl := Option.some.inj same
    exact ⟨constructor, owner⟩
  · have kind := ((faithful.owned declaring there).methods callable method).2
    rw [CallableDecl.isConstructor, kind] at constructs
    cases constructs

/-- What a builder must be finished by keeps what is promised of a finisher. -/
theorem finishes_of_requireFinisher (faithful : catalog.Faithful) {builder target : TypeDecl}
    (there : builder ∈ catalog.types) {finisher : CallableDecl}
    (required : (requireFinisher (catalog.resolver settings policy) builder).result =
      .ok (finisher, target)) :
    Finishes catalog.provider settings ⟨builder, finisher⟩ target := by
  obtain ⟨found, yields⟩ := result_requireFinisher_eq_ok_iff.mp required
  obtain ⟨order, walked, ⟨above, listed, declared⟩, notPrivate, onInstance, noParams⟩ :=
    Provider.finisher?_form found
  have aboveThere : above ∈ catalog.types :=
    mem_types_of_reaches there (Provider.reaches_of_mem_ancestry walked listed)
  have kind := (faithful.known_methods aboveThere finisher declared).2
  refine ⟨found, ?_, notPrivate, onInstance, noParams, yields⟩
  rw [CallableDecl.isConstructor, kind]
  rfl

/-- **A rooted route keeps what routes promise.** -/
theorem keeps_of_rooted (faithful : catalog.Faithful) {route : Route}
    (rooted : Rooted (catalog.resolver settings policy) catalog route) :
    Keeps (catalog.resolver settings policy) route := by
  have firstThere : route.first ∈ catalog.types := rooted.mem_types_first
  obtain ⟨constructed, made, finished⟩ := parts_of_routeFor rooted.determined
  refine ⟨fun start => ?_, fun start => ?_, fun step through => ?_⟩
  · obtain ⟨constructs, located⟩ := result_expectConstructor_eq_ok_iff.mp (constructed start)
    exact ⟨constructs,
      faithful.mem_constructors_of_owner rooted.registered constructs located⟩
  · exact result_expectFactory_eq_ok_iff.mp (made start)
  · obtain ⟨required, builder⟩ := finished step through
    rw [builder] at firstThere
    exact faithful.finishes_of_requireFinisher firstThere required

end Catalog.Faithful

namespace Resolver

variable {catalog : Catalog} {settings : Settings} {policy : Policy}

theorem rooted_of_obtained (faithful : catalog.Faithful) (selective : policy.Selective)
    {route : Route} (obtained : Obtained (catalog.resolver settings policy) catalog route) :
    Rooted (catalog.resolver settings policy) catalog route := by
  cases obtained with
  | byType there resolved =>
    exact faithful.rooted_of_yields selective ⟨.type _, false, there, resolved⟩
  | byBuilder there resolved =>
    exact faithful.rooted_of_yields selective ⟨.type _, true, there, resolved⟩
  | byElement registered resolved =>
    exact faithful.rooted_of_yields selective ⟨_, _, registered, resolved⟩
  | byConstructor registered found =>
    exact @rooted_of_routeFor _ _ ⟨.constructor, false⟩ _ _ registered found
  | byFactory registered found =>
    exact @rooted_of_routeFor _ _ ⟨.factory, false⟩ _ _ registered found
  | byBuilderConstructor registered found =>
    exact @rooted_of_routeFor _ _ ⟨.constructor, true⟩ _ _ registered found
  | byBuilderFactory registered found =>
    exact @rooted_of_routeFor _ _ ⟨.factory, true⟩ _ _ registered found

/-- **Every route that is obtained in a grown catalog keeps what routes promise.** -/
theorem keeps_of_obtained (grown : catalog.Grown) (selective : policy.Selective) {route : Route}
    (obtained : Obtained (catalog.resolver settings policy) catalog route) :
    Keeps (catalog.resolver settings policy) route :=
  grown.faithful.keeps_of_rooted (rooted_of_obtained grown.faithful selective obtained)

/-- The nested builder of the accounts, asked about as a builder, leads to the account. -/
theorem keeps_of_obtained_builder :
    accounts.Grown ∧ (Policy.byMarker none).Selective ∧
    ∃ builder route, accounts.findByName? "Account.Builder" = some builder ∧
      ((accounts.resolver {} (.byMarker none)).resolveBuilder builder).result = .ok route ∧
      route.text = "builder constructor Account.Builder() -> build()" ∧
      Keeps (accounts.resolver {} (.byMarker none)) route := by
  have grown : accounts.Grown := .declared _ .empty
  obtain ⟨builder, found⟩ : ∃ builder, accounts.findByName? "Account.Builder" = some builder :=
    Option.isSome_iff_exists.mp (by decide)
  have shown : ∀ builder ∈ accounts.findByName? "Account.Builder",
      ((accounts.resolver {} (.byMarker none)).resolveBuilder builder).result.toOption.map
          (·.text) =
        some "builder constructor Account.Builder() -> build()" := by decide
  cases resolved : ((accounts.resolver {} (.byMarker none)).resolveBuilder builder).result with
  | error failure =>
    have text := shown builder found
    rw [resolved] at text
    cases text
  | ok route =>
    have text := shown builder found
    rw [resolved] at text
    refine ⟨grown, Policy.selective_byMarker none, builder, route, found, resolved,
      Option.some.inj text, ?_⟩
    exact keeps_of_obtained grown (Policy.selective_byMarker none)
      (.byBuilder (Catalog.mem_types_of_findByName? found) resolved)

end Resolver

end ValueAnatomy
