/-
**Analyses on one session do not depend on each other.**

A session shares what it remembers among all types: routes by the handle of what was asked about,
properties by the shape of the route and the key of its callable. Two types never choose routes of
one such key, for the callable is a member of the type, or of a builder whose finisher leads to that
type alone.

* `Catalog.Faithful.eq_of_propertyQuestion`: types whose routes ask the same question about
  properties are one type;
* `Session.Consistent`: what is remembered is what would be computed;
* `Session.Consistent.analyze`: an analysis answers what would be computed, and keeps that so.
-/

import ValueAnatomy.Proofs.Route.Contract
import ValueAnatomy.Proofs.Session.Calls

namespace ValueAnatomy

/-! ### Which routes are enumerated for a type -/

namespace Resolver

variable {resolver : Resolver}

/-- A route to a target, whose factory is among the given methods if it starts with one. -/
def LeadsTo (target : TypeDecl) (methods : List CallableDecl) (route : Route) : Prop :=
  route.target = target ∧ (route.start = .factory → route.callable ∈ methods)

theorem leadsTo_of_directRoutes {target : TypeDecl} {route : Route}
    (member : route ∈ resolver.directRoutes target) :
    LeadsTo target (resolver.provider.members target).methods route := by
  rcases List.mem_append.mp member with constructed | made
  · obtain ⟨callable, -, rfl⟩ := List.mem_map.mp constructed
    exact ⟨rfl, nofun⟩
  · obtain ⟨callable, listed, rfl⟩ := List.mem_map.mp made
    exact ⟨rfl, fun _ => (mem_selectCallables.mp (List.mem_filter.mp listed).1).1⟩

theorem leadsTo_of_routesThrough {target : TypeDecl} {step : BuilderStep}
    {methods : List CallableDecl} {route : Route}
    (member : route ∈ resolver.routesThrough target step methods) :
    LeadsTo target methods route := by
  rcases mem_orHeldBack member with listed | heldBack
  · rcases List.mem_append.mp listed with constructed | made
    · obtain ⟨callable, -, rfl⟩ := List.mem_map.mp constructed
      exact ⟨rfl, nofun⟩
    · obtain ⟨callable, among, rfl⟩ := List.mem_map.mp made
      exact ⟨rfl, fun _ => (mem_selectCallables.mp (List.mem_filter.mp among).1).1⟩
  · obtain ⟨callable, -, rfl⟩ := Option.map_eq_some_iff.mp heldBack
    exact ⟨rfl, nofun⟩

theorem leadsTo_of_nestedRoutes {target : TypeDecl} {methods : List CallableDecl}
    {nested : List TypeDecl} {routes : List Route}
    (enumerated : (resolver.nestedRoutes target methods nested).result = .ok routes) :
    ∀ route ∈ routes, LeadsTo target methods route := by
  induction nested generalizing routes with
  | nil =>
    obtain rfl : [] = routes := Except.ok.inj enumerated
    exact fun _ member => absurd member List.not_mem_nil
  | cons type rest ih =>
    rw [nestedRoutes] at enumerated
    split at enumerated
    · exact ih enumerated
    · obtain ⟨finisher?, -, enumerated⟩ := Attempt.result_bind_eq_ok_iff.mp enumerated
      obtain ⟨later, enumeratedLater, enumerated⟩ := Attempt.result_bind_eq_ok_iff.mp enumerated
      rw [← Except.ok.inj enumerated]
      intro route member
      rcases List.mem_append.mp member with here | behind
      · cases finisher? with
        | none => cases here
        | some finisher => exact leadsTo_of_routesThrough here
      · exact ih enumeratedLater route behind

/-- **A type is resolved to a route to itself**, and a factory on it is a method of the type. -/
theorem leadsTo_of_resolve (selective : resolver.policy.Selective) {type : TypeDecl} {route : Route}
    (resolved : (resolver.resolve type).result = .ok route) :
    LeadsTo type (resolver.provider.members type).methods route := by
  obtain ⟨candidates, enumerated, selected⟩ := Attempt.result_bind_eq_ok_iff.mp resolved
  obtain ⟨through, nested, enumerated⟩ := Attempt.result_bind_eq_ok_iff.mp enumerated
  have member := mem_of_select selective selected
  rw [← Except.ok.inj enumerated] at member
  rcases mem_orHeldBack member with listed | heldBack
  · rcases List.mem_append.mp listed with direct | among
    · exact leadsTo_of_directRoutes direct
    · exact leadsTo_of_nestedRoutes nested route among
  · obtain ⟨callable, -, rfl⟩ := Option.map_eq_some_iff.mp heldBack
    exact ⟨rfl, nofun⟩

end Resolver

/-! ### Routes of one question -/

namespace Catalog.Faithful

open Resolver

variable {catalog : Catalog} {settings : Settings} {policy : Policy}

/-- A method of a type knows the type as its owner. -/
theorem owner_of_mem_methods (faithful : catalog.Faithful) {type : TypeDecl}
    (there : type ∈ catalog.types) {callable : CallableDecl}
    (member : callable ∈ (catalog.provider.members type).methods) :
    callable.owner = type.fullName := by
  rw [members_provider] at member
  exact ((faithful.owned type there).methods callable member).1

/-- **Types whose routes ask the same question about properties are one type.** -/
theorem eq_of_propertyQuestion (faithful : catalog.Faithful) (selective : policy.Selective)
    {first second : TypeDecl} (firstThere : first ∈ catalog.types)
    (secondThere : second ∈ catalog.types) {route other : Route}
    (resolved : ((catalog.resolver settings policy).resolve first).result = .ok route)
    (resolvedOther : ((catalog.resolver settings policy).resolve second).result = .ok other)
    (question : route.propertyQuestion = other.propertyQuestion) : first = second := by
  have rooted := rooted_of_obtained faithful selective (.byType firstThere resolved)
  have rootedOther := rooted_of_obtained faithful selective (.byType secondThere resolvedOther)
  have keeps := faithful.keeps_of_rooted rooted
  have keepsOther := faithful.keeps_of_rooted rootedOther
  obtain ⟨target, factory⟩ := leadsTo_of_resolve selective resolved
  obtain ⟨targetOther, factoryOther⟩ := leadsTo_of_resolve selective resolvedOther
  obtain ⟨shape, key⟩ := PropertyQuestion.mk.inj question
  obtain ⟨start, through⟩ := RouteShape.mk.inj shape
  have owner : route.callable.owner = other.callable.owner := congrArg DeclKey.owner key
  cases begins : route.start with
  | factory =>
    -- Both factories are methods of the types themselves.
    have ofFirst := faithful.owner_of_mem_methods firstThere (factory begins)
    have ofSecond := faithful.owner_of_mem_methods secondThere (factoryOther (start ▸ begins))
    exact faithful.eq_of_fullName firstThere secondThere
      (ofFirst.symm.trans (owner.trans ofSecond))
  | constructor =>
    have beginsOther : other.start = .constructor := start ▸ begins
    have same : route.first = other.first := by
      refine faithful.eq_of_fullName rooted.mem_types_first rootedOther.mem_types_first ?_
      rw [← (keeps.constructor begins).2.2, owner, (keepsOther.constructor beginsOther).2.2]
    cases led : route.step with
    | none =>
      have direct : other.step = none := by
        rw [led] at through
        simpa using through.symm
      have yielded : route.first = route.target := by rw [Route.first, Route.builder?, led]; rfl
      have yieldedOther : other.first = other.target := by
        rw [Route.first, Route.builder?, direct]; rfl
      rw [← target, ← targetOther, ← yielded, ← yieldedOther, same]
    | some step =>
      -- One builder has one finisher, and that leads to one target.
      obtain ⟨stepOther, ledOther⟩ : ∃ stepOther, other.step = some stepOther := by
        rw [led] at through
        exact Option.isSome_iff_exists.mp through.symm
      have builder : step.builder = stepOther.builder := by
        rw [Route.first, Route.builder?, led, Route.first, Route.builder?, ledOther] at same
        exact same
      have finishes := keeps.finisher step led
      have finishesOther := keepsOther.finisher stepOther ledOther
      have finisher : step.finisher = stepOther.finisher := by
        have found := finishes.found
        rw [builder, finishesOther.found] at found
        exact (Option.some.inj (Except.ok.inj found)).symm
      have yields := finishes.yields
      rw [finisher, finishesOther.yields] at yields
      rw [← target, ← targetOther, Option.some.inj yields]

end Catalog.Faithful

/-! ### One session -/

/-- How a type is built and what its instances consist of, with nothing remembered. -/
def Resolver.anatomy (resolver : Resolver) (type : TypeDecl) : Except Failure Anatomy :=
  (resolver.resolve type).result.bind fun route =>
    (resolver.provider.propertiesAlong resolver.settings route).result.map fun properties =>
      ⟨route, properties⟩

namespace Session

variable {catalog : Catalog} {settings : Settings} {policy : Policy} {session : Session}

/-- **What the session remembers about the types of a catalog is what would be computed.** -/
structure Consistent (catalog : Catalog) (settings : Settings) (policy : Policy)
    (session : Session) : Prop where
  sameSettings : session.settings = settings
  samePolicy : session.policy = policy
  routes : ∀ type ∈ catalog.types, ∀ outcome,
    session.routes.lookup ⟨type.handle, .type⟩ = some outcome →
      outcome = ((catalog.resolver settings policy).resolve type).result
  properties : ∀ type ∈ catalog.types, ∀ route,
    ((catalog.resolver settings policy).resolve type).result = .ok route →
      ∀ outcome, session.properties.lookup route.propertyQuestion = some outcome →
        outcome = (catalog.provider.propertiesAlong settings route).result

theorem consistent_of_nothing (sameSettings : session.settings = settings)
    (samePolicy : session.policy = policy) (noRoutes : session.routes = [])
    (noProperties : session.properties = []) : Consistent catalog settings policy session where
  sameSettings := sameSettings
  samePolicy := samePolicy
  routes type _ outcome found := by
    rw [noRoutes, List.lookup_nil] at found
    cases found
  properties type _ route _ outcome found := by
    rw [noProperties, List.lookup_nil] at found
    cases found

theorem Consistent.resolver_eq (consistent : Consistent catalog settings policy session) :
    session.resolver catalog.provider = catalog.resolver settings policy := by
  rw [Session.resolver, consistent.sameSettings, consistent.samePolicy]

/-- The route of a type is answered as it would be computed, and what is remembered stays so. -/
theorem Consistent.resolveType (faithful : catalog.Faithful)
    (consistent : Consistent catalog settings policy session) {type : TypeDecl}
    (there : type ∈ catalog.types) :
    (session.resolveType catalog.provider type).value.1 =
        ((catalog.resolver settings policy).resolve type).result ∧
      Consistent catalog settings policy (session.resolveType catalog.provider type).value.2 := by
  have answers : session.resolveType catalog.provider type =
      session.recallRoute ⟨type.handle, .type⟩ fun _ =>
        (catalog.resolver settings policy).resolve type := by
    rw [← consistent.resolver_eq]
    rfl
  rw [answers]
  unfold recallRoute
  cases remembered : session.routes.lookup ⟨type.handle, .type⟩ with
  | some outcome => exact ⟨consistent.routes type there outcome remembered, consistent⟩
  | none =>
    refine ⟨rfl, consistent.sameSettings, consistent.samePolicy,
      fun other otherThere outcome found => ?_, consistent.properties⟩
    change List.lookup _ ((_, ((catalog.resolver settings policy).resolve type).result) ::
      session.routes) = _ at found
    rw [List.lookup_cons] at found
    split at found
    · rename_i same
      have handles : other.handle = type.handle :=
        congrArg RouteQuestion.handle (beq_iff_eq.mp same)
      rw [faithful.eq_of_handle otherThere there handles]
      exact (Option.some.inj found).symm
    · exact consistent.routes other otherThere outcome found

/-- The properties along the route of a type are answered as they would be computed, and what is
remembered stays so. -/
theorem Consistent.propertiesOf (faithful : catalog.Faithful) (selective : policy.Selective)
    (consistent : Consistent catalog settings policy session) {type : TypeDecl}
    (there : type ∈ catalog.types) {route : Route}
    (resolved : ((catalog.resolver settings policy).resolve type).result = .ok route) :
    (session.propertiesOf catalog.provider route).value.1 =
        (catalog.provider.propertiesAlong settings route).result ∧
      Consistent catalog settings policy (session.propertiesOf catalog.provider route).value.2 := by
  unfold Session.propertiesOf
  cases remembered : session.properties.lookup route.propertyQuestion with
  | some outcome =>
    exact ⟨consistent.properties type there route resolved outcome remembered, consistent⟩
  | none =>
    rw [consistent.sameSettings]
    refine ⟨rfl, rfl, consistent.samePolicy, consistent.routes,
      fun other otherThere otherRoute resolvedOther outcome found => ?_⟩
    change List.lookup _ ((_, (catalog.provider.propertiesAlong settings route).result) ::
      session.properties) = _ at found
    rw [List.lookup_cons] at found
    split at found
    · rename_i question
      obtain rfl := faithful.eq_of_propertyQuestion selective otherThere there resolvedOther
        resolved (beq_iff_eq.mp question)
      have same : otherRoute = route := by
        rw [resolved] at resolvedOther
        exact (Except.ok.inj resolvedOther).symm
      rw [same]
      exact (Option.some.inj found).symm
    · exact consistent.properties other otherThere otherRoute resolvedOther outcome found

/-- The outcome of an analysis, by the answers to its two questions. -/
theorem fst_analyze (session : Session) (provider : Provider) (type : TypeDecl) :
    (session.analyze provider type).value.1 =
      (session.resolveType provider type).value.1.bind fun route =>
        ((session.resolveType provider type).value.2.propertiesOf provider route).value.1.map
          fun properties => ⟨route, properties⟩ := by
  unfold analyze
  rw [Traced.value_bind]
  generalize (session.resolveType provider type).value = answer
  obtain ⟨route?, later⟩ := answer
  cases route? with
  | error failure => rfl
  | ok route =>
    dsimp only [Except.bind]
    rw [Traced.value_bind]
    generalize (later.propertiesOf provider route).value = answer
    obtain ⟨properties?, last⟩ := answer
    cases properties? <;> rfl

/-- On a session of its own an analysis is what would be computed. -/
theorem fst_analyze_ofSettings (settings : Settings) (provider : Provider) (type : TypeDecl) :
    ((ofSettings settings).analyze provider type).value.1 =
      Resolver.anatomy ⟨provider, settings, .byMarker settings.creatorMarker⟩ type := by
  have answer : ((ofSettings settings).resolveType provider type).value.1 =
      (Resolver.resolve ⟨provider, settings, .byMarker settings.creatorMarker⟩ type).result := rfl
  rw [fst_analyze, answer, Resolver.anatomy]
  cases (Resolver.resolve ⟨provider, settings, .byMarker settings.creatorMarker⟩ type).result <;>
    rfl

/-- **An analysis is answered as it would be computed**, and what is remembered stays so. -/
theorem Consistent.analyze (faithful : catalog.Faithful) (selective : policy.Selective)
    (consistent : Consistent catalog settings policy session) {type : TypeDecl}
    (there : type ∈ catalog.types) :
    (session.analyze catalog.provider type).value.1 =
        (catalog.resolver settings policy).anatomy type ∧
      Consistent catalog settings policy (session.analyze catalog.provider type).value.2 := by
  obtain ⟨answer, later⟩ := consistent.resolveType faithful there
  rw [fst_analyze, snd_analyze, answer, Resolver.anatomy]
  cases resolved : ((catalog.resolver settings policy).resolve type).result with
  | error failure => exact ⟨rfl, later⟩
  | ok route =>
    obtain ⟨properties, last⟩ := later.propertiesOf faithful selective there resolved
    refine ⟨?_, last⟩
    dsimp only [Except.bind]
    rw [properties]

end Session

end ValueAnatomy
