/-
**What a type is resolved to is found again from the callable alone.**

An enumeration knows the type it began with and the builder it came through. A known callable leads
to a route by its owner's name or by its result, and its builder's finisher is looked for anew. In a
grown catalog both ways end with the same route.

* `Resolver.Rooted.resolveElement`: a rooted route is the one that its own callable leads to;
* `Resolver.exists_direct_of_resolved`: so is every route that a type, or a builder, is resolved to.
-/

import ValueAnatomy.Merge
import ValueAnatomy.Proofs.Route.Contract

namespace ValueAnatomy

theorem Route.same_self (route : Route) : route.same route = true := by
  simp [Route.same]

namespace Resolver

variable {resolver : Resolver} {catalog : Catalog} {settings : Settings} {policy : Policy}

/-- The callable of a rooted route is what the route starts with: a constructor, or a method. -/
theorem Rooted.element_eq {route : Route} (rooted : resolver.Rooted catalog route) :
    route.element = route.start.declaration route.callable := by
  obtain ⟨constructed, made, -⟩ := parts_of_routeFor rooted.determined
  rw [Route.element, Declaration.ofCallable]
  cases start : route.start with
  | constructor =>
    have constructs := (result_expectConstructor_eq_ok_iff.mp (constructed start)).1
    rw [CallableDecl.isConstructor, beq_iff_eq] at constructs
    rw [constructs]
    rfl
  | factory =>
    have method := (result_expectFactory_eq_ok_iff.mp (made start)).1
    cases kind : route.callable.kind with
    | method => rfl
    | constructor =>
      rw [CallableDecl.isConstructor, kind] at method
      cases method

/-- **A rooted route is the one that its own callable leads to**, taken for the start of a builder
if the route leads through one. -/
theorem Rooted.resolveElement {route : Route} (rooted : resolver.Rooted catalog route) :
    (resolver.resolveElement route.element route.shape.throughBuilder).result = .ok route := by
  rw [rooted.element_eq, resolveElement_declaration]
  exact rooted.determined

/-- **The callable of the route that a type is resolved to leads there directly**, be the type
enumerated for itself or as a builder: to the same route, with the same target, builder and
finisher, and so to the same properties. -/
theorem exists_direct_of_resolved (grown : catalog.Grown) (selective : policy.Selective)
    {type : TypeDecl} (there : type ∈ catalog.types) {route : Route}
    (resolved : (resolve (catalog.resolver settings policy) type).result = .ok route ∨
      (resolveBuilder (catalog.resolver settings policy) type).result = .ok route) :
    ∃ direct, (resolveElement (catalog.resolver settings policy) route.element
        route.shape.throughBuilder).result = .ok direct ∧
      direct.same route = true ∧ direct.target = route.target ∧
      direct.builder? = route.builder? ∧ direct.finisher? = route.finisher? ∧
      (catalog.provider.propertiesAlong settings direct).result =
        (catalog.provider.propertiesAlong settings route).result := by
  have obtained : Obtained (catalog.resolver settings policy) catalog route := by
    rcases resolved with enumerated | built
    · exact .byType there enumerated
    · exact .byBuilder there built
  have rooted := rooted_of_obtained grown.faithful selective obtained
  exact ⟨route, rooted.resolveElement, route.same_self, rfl, rfl, rfl, rfl⟩

/-- A name that leads to a type with a route shown so has such a type and such a route. -/
theorem exists_resolved {fullName text : String} {outcome : TypeDecl → Except Failure Route}
    (shown : ((catalog.findByName? fullName).bind fun type =>
      (outcome type).toOption.map Route.text) = some text) :
    ∃ type route, catalog.findByName? fullName = some type ∧ outcome type = .ok route ∧
      route.text = text := by
  obtain ⟨type, found, led⟩ := Option.bind_eq_some_iff.mp shown
  obtain ⟨route, resolved, named⟩ := Attempt.exists_eq_ok_of_shown led
  exact ⟨type, route, found, resolved, named⟩

/-- The account is built by its marked factory and, taken for a builder, its builder begins with its
only constructor: either callable leads there directly. -/
theorem exists_direct_of_resolved_accounts :
    accounts.Grown ∧ (Policy.byMarker (some "Creator")).Selective ∧
    (∃ account route direct, accounts.findByName? "Account" = some account ∧
      (resolve (accounts.resolver {} (.byMarker (some "Creator"))) account).result = .ok route ∧
      route.text = "factory Account.of(int)" ∧
      (resolveElement (accounts.resolver {} (.byMarker (some "Creator"))) route.element
        route.shape.throughBuilder).result = .ok direct ∧ direct.same route = true) ∧
    ∃ builder route direct, accounts.findByName? "Account.Builder" = some builder ∧
      (resolveBuilder (accounts.resolver {} (.byMarker (some "Creator"))) builder).result =
        .ok route ∧
      route.text = "builder constructor Account.Builder() -> build()" ∧
      (resolveElement (accounts.resolver {} (.byMarker (some "Creator"))) route.element
        route.shape.throughBuilder).result = .ok direct ∧ direct.same route = true := by
  have grown : accounts.Grown := .declared _ .empty
  have selective := Policy.selective_byMarker (some "Creator")
  obtain ⟨account, route, found, resolved, shown⟩ := @exists_resolved accounts "Account"
    "factory Account.of(int)"
    (fun type => (resolve (accounts.resolver {} (.byMarker (some "Creator"))) type).result)
    (by decide)
  obtain ⟨builder, through, foundBuilder, built, shownThrough⟩ := @exists_resolved accounts
    "Account.Builder" "builder constructor Account.Builder() -> build()"
    (fun type => (resolveBuilder (accounts.resolver {} (.byMarker (some "Creator"))) type).result)
    (by decide)
  obtain ⟨direct, led, same, -⟩ := exists_direct_of_resolved grown selective
    (Catalog.mem_types_of_findByName? found) (.inl resolved)
  obtain ⟨directToo, ledToo, sameToo, -⟩ := exists_direct_of_resolved grown selective
    (Catalog.mem_types_of_findByName? foundBuilder) (.inr built)
  exact ⟨grown, selective, ⟨account, route, direct, found, resolved, shown, led, same⟩,
    builder, through, directToo, foundBuilder, built, shownThrough, ledToo, sameToo⟩

end Resolver

end ValueAnatomy
