/-
**A type and its only builder are resolved alike.**

A type that offers no constructor and no factory of its own, with one builder nested in it, is built
through that builder or not at all. Asked about the type, the resolver lists its nested types and
finds the builder; asked about the builder, it starts from there and finds the type by what the
builder's finisher returns. Both ways the same routes come in the same order, so the policy has the
same choice.

* `Resolver.SoleBuilder`: the type is built through this builder alone;
* `Resolver.SoleBuilder.result_candidates`, `Resolver.SoleBuilder.result_resolveBuilder`: both
  enumerations come to the routes through the builder;
* `Resolver.resolve_soleBuilder`: both are resolved to the same route, or fail for the same reason
  and over the same elements.
-/

import Mathlib.Data.List.Basic
import ValueAnatomy.Proofs.Route.Rooted

namespace ValueAnatomy.Resolver

/-- A type is built through a builder nested in it, and in no other way. -/
structure SoleBuilder (provider : Provider) (settings : Settings) (type builder : TypeDecl)
    (finisher : CallableDecl) : Prop where
  /-- The builder is the only nested type. -/
  nested : (provider.members type).nested = [builder]
  notPrivate : builder.isPrivate = false
  static : builder.isStatic = true
  finished : (provider.finisher? settings builder).result = .ok (some finisher)
  returns : provider.returnsType finisher type = true
  /-- The type has no factory that returns it. -/
  noFactory : ∀ method ∈ (provider.members type).methods, method.isPrivate = false →
    method.isStatic = true → provider.returnsType method type = false
  /-- The type has no constructor that may be called. -/
  noConstructor : type.isAbstract = true ∨
    ∀ callable ∈ (provider.members type).constructors, callable.isPrivate = true
  /-- The builder has no factory that returns it. -/
  noOwnFactory : ∀ method ∈ (provider.members builder).methods, method.isPrivate = false →
    method.isStatic = true → provider.returnsType method builder = false

instance (provider : Provider) (settings : Settings) (type builder : TypeDecl)
    (finisher : CallableDecl) : Decidable (SoleBuilder provider settings type builder finisher) :=
  decidable_of_iff
    ((provider.members type).nested = [builder] ∧ builder.isPrivate = false ∧
      builder.isStatic = true ∧
      (provider.finisher? settings builder).result = .ok (some finisher) ∧
      provider.returnsType finisher type = true ∧
      (∀ method ∈ (provider.members type).methods, method.isPrivate = false →
        method.isStatic = true → provider.returnsType method type = false) ∧
      (type.isAbstract = true ∨
        ∀ callable ∈ (provider.members type).constructors, callable.isPrivate = true) ∧
      ∀ method ∈ (provider.members builder).methods, method.isPrivate = false →
        method.isStatic = true → provider.returnsType method builder = false)
    ⟨fun ⟨nested, notPrivate, static, finished, returns, noFactory, noConstructor, noOwnFactory⟩ =>
      ⟨nested, notPrivate, static, finished, returns, noFactory, noConstructor, noOwnFactory⟩,
    fun ⟨nested, notPrivate, static, finished, returns, noFactory, noConstructor, noOwnFactory⟩ =>
      ⟨nested, notPrivate, static, finished, returns, noFactory, noConstructor, noOwnFactory⟩⟩

variable {resolver : Resolver} {type builder : TypeDecl} {finisher : CallableDecl}

/-! ### What is not offered -/

theorem factoriesOf_append (resolver : Resolver) (first second : List CallableDecl)
    (type : TypeDecl) :
    resolver.factoriesOf (first ++ second) type =
      resolver.factoriesOf first type ++ resolver.factoriesOf second type := by
  simp [factoriesOf, selectCallables]

theorem factoriesOf_eq_nil {methods : List CallableDecl}
    (noneReturns : ∀ method ∈ methods, method.isPrivate = false → method.isStatic = true →
      resolver.provider.returnsType method type = false) :
    resolver.factoriesOf methods type = [] := by
  rw [factoriesOf, List.filter_eq_nil_iff]
  intro method listed
  obtain ⟨member, holds⟩ := mem_selectCallables.mp listed
  have notPrivate : method.isPrivate = false := by
    simpa [CallableFilter.holds] using holds .nonPrivate (by simp)
  have static : method.isStatic = true := holds .static (by simp)
  simp [noneReturns method member notPrivate static]

/-- A type that is abstract, or has private constructors only, offers none and holds none back. -/
theorem constructorsOf_eq_nothing
    (noneOpen : type.isAbstract = true ∨
      ∀ callable ∈ (resolver.provider.members type).constructors, callable.isPrivate = true) :
    resolver.constructorsOf type = {} := by
  unfold constructorsOf
  by_cases abstract : type.isAbstract = true
  · rw [if_pos abstract]
  · have hidden := noneOpen.resolve_left abstract
    have selected :
        selectCallables [.nonPrivate] (resolver.provider.members type).constructors = [] := by
      rw [selectCallables, List.filter_eq_nil_iff]
      intro callable member
      simp [CallableFilter.holds, hidden callable member]
    rw [if_neg abstract]
    dsimp only
    rw [selected]
    split
    · rename_i only listed
      rw [if_neg]
      simp [hidden only (listed ▸ List.mem_singleton_self only)]
    · rfl

/-! ### Two enumerations -/

namespace SoleBuilder

/-- **What is enumerated for the type are the routes through its builder.** -/
theorem result_candidates (resolver : Resolver)
    (sole : SoleBuilder resolver.provider resolver.settings type builder finisher) :
    (resolver.candidates type).result = .ok (resolver.routesThrough type ⟨builder, finisher⟩
      (resolver.provider.members type).methods) := by
  have nothing := constructorsOf_eq_nothing sole.noConstructor
  have noneDirect : resolver.directRoutes type = [] := by
    rw [directRoutes, nothing, factoriesOf_eq_nil sole.noFactory]
    rfl
  have noneHeldBack : resolver.heldBackRoute? type = none := by
    rw [heldBackRoute?, nothing]
    rfl
  have finished : (resolver.nestedFinisher? type builder).result = .ok (some finisher) := by
    rw [result_nestedFinisher? sole.finished, Option.filter_some, if_pos sole.returns]
  have through : (resolver.nestedRoutes type (resolver.provider.members type).methods
      (resolver.provider.members type).nested).result =
        .ok (resolver.routesThrough type ⟨builder, finisher⟩
          (resolver.provider.members type).methods) := by
    rw [sole.nested, nestedRoutes, if_neg (by simp [sole.notPrivate, sole.static]),
      Attempt.result_bind_of_ok finished, Attempt.result_bind_of_ok rfl, Attempt.result_pure,
      List.append_nil]
  rw [candidates, Attempt.result_bind_of_ok through, Attempt.result_pure, noneDirect, noneHeldBack,
    List.nil_append, orHeldBack_eq]
  split
  · rename_i empty
    rw [empty]
    rfl
  · rfl

/-- **What the builder is selected from are the same routes**, if its finisher leads to the type. -/
theorem result_resolveBuilder (resolver : Resolver)
    (sole : SoleBuilder resolver.provider resolver.settings type builder finisher)
    (yields : resolver.provider.resolveResult finisher = some type) :
    (resolver.resolveBuilder builder).result =
      (resolver.select builder (resolver.routesThrough type ⟨builder, finisher⟩
        (resolver.provider.members type).methods)).result := by
  have required : (resolver.requireFinisher builder).result = .ok (finisher, type) :=
    result_requireFinisher_eq_ok_iff.mpr ⟨sole.finished, yields⟩
  rw [resolveBuilder, Attempt.result_bind_of_ok required]
  dsimp only
  rw [routesThrough, routesThrough, factoriesOf_append, factoriesOf_eq_nil sole.noOwnFactory,
    List.nil_append]

end SoleBuilder

/-! ### One choice -/

/-- Two failures are of the same kinds of problem, and if they leave it open what is built, over the
same elements in the same order. -/
def Agree (failure other : Failure) : Prop :=
  ∃ found foundToo, failure = .problems found ∧ other = .problems foundToo ∧
    found.map (·.kind) = foundToo.map (·.kind) ∧
    ((∃ problem ∈ found, problem.kind = .ambiguousCreator) →
      found.map (·.element) = foundToo.map (·.element))

/-- **Selections from the same routes agree**, whatever type they are made for. -/
theorem select_agree (resolver : Resolver) (type other : TypeDecl) (candidates : List Route) :
    (∀ route, (resolver.select type candidates).result = .ok route ↔
      (resolver.select other candidates).result = .ok route) ∧
    ∀ failure failureToo, (resolver.select type candidates).result = .error failure →
      (resolver.select other candidates).result = .error failureToo → Agree failure failureToo := by
  rw [result_select, result_select]
  cases resolver.policy.choose resolver.provider candidates with
  | chosen route => exact ⟨fun _ => Iff.rfl, nofun⟩
  | nothing =>
    refine ⟨fun _ => ⟨nofun, nofun⟩, fun failure failureToo failed failedToo => ?_⟩
    obtain rfl := Except.error.inj failed
    obtain rfl := Except.error.inj failedToo
    refine ⟨_, _, rfl, rfl, rfl, ?_⟩
    rintro ⟨problem, listed, kind⟩
    rw [List.mem_singleton.mp listed] at kind
    cases kind
  | undecided routes =>
    refine ⟨fun _ => ⟨nofun, nofun⟩, fun failure failureToo failed failedToo => ?_⟩
    obtain rfl := Except.error.inj failed
    obtain rfl := Except.error.inj failedToo
    refine ⟨_, _, rfl, rfl, ?_, fun _ => ?_⟩
    · simp [Function.comp_def]
    · simp [Function.comp_def]

/-- **A type and its only builder are resolved alike.** In a grown catalog, under any rules and any
policy, a type that is built through one builder alone is resolved to a route exactly if the builder
is resolved to that route. Where both fail, it is for the same kinds of problem, and if it is left
open how to build them, the same elements stand in the same order. -/
theorem resolve_soleBuilder {catalog : Catalog} (grown : catalog.Grown) (settings : Settings)
    (policy : Policy) (there : type ∈ catalog.types)
    (sole : SoleBuilder catalog.provider settings type builder finisher) :
    (∀ route, ((catalog.resolver settings policy).resolve type).result = .ok route ↔
      ((catalog.resolver settings policy).resolveBuilder builder).result = .ok route) ∧
    ∀ failure failureToo,
      ((catalog.resolver settings policy).resolve type).result = .error failure →
      ((catalog.resolver settings policy).resolveBuilder builder).result = .error failureToo →
        Agree failure failureToo := by
  have yields := grown.faithful.resolveResult_of_returnsType there sole.returns
  have enumerated := SoleBuilder.result_candidates (catalog.resolver settings policy) sole
  rw [SoleBuilder.result_resolveBuilder (catalog.resolver settings policy) sole yields, resolve,
    Attempt.result_bind_of_ok enumerated]
  exact select_agree _ type builder _

/-- An invoice with a private constructor, whose builder has a constructor and a factory. -/
def invoices : Catalog :=
  (Catalog.empty.declare <|
    .mk
      { name := "Invoice"
        base := .absent
        constructors := [{ name := constructorName, keywords := [.access .ownType] }]
        methods :=
          [{ name := "builder"
             keywords := [.modifier .static]
             returns := .ofName "Invoice.Builder" }] }
      [.mk
        { name := "Builder"
          keywords := [.modifier .static]
          base := .absent
          constructors := [{ name := constructorName, params := [⟨"number", .int, []⟩] }]
          methods := [{ name := "build", returns := .ofName "Invoice" }] }
        []]).2

/-- The invoice, its builder, and what finishes that. -/
def invoiceParts? : Option (TypeDecl × TypeDecl × CallableDecl) := do
  let invoice ← invoices.findByName? "Invoice"
  let builder ← invoices.findByName? "Invoice.Builder"
  let finisher ← (invoices.provider.finisher? {} builder).result.toOption.join
  pure (invoice, builder, finisher)

/-- Under a policy that takes the last route both lead through the factory of the builder; under the
usual one both fail over its constructor and its factory. -/
theorem resolve_soleBuilder_invoices :
    ∃ invoice builder finisher route failure failureToo,
      invoiceParts? = some (invoice, builder, finisher) ∧ invoices.Grown ∧
      invoice ∈ invoices.types ∧ SoleBuilder invoices.provider {} invoice builder finisher ∧
      ((invoices.resolver {} .last).resolveBuilder builder).result = .ok route ∧
      route.text = "builder factory Invoice.builder() -> build()" ∧
      ((invoices.resolver {} (.byMarker none)).resolve invoice).result = .error failure ∧
      ((invoices.resolver {} (.byMarker none)).resolveBuilder builder).result = .error failureToo ∧
      failure.found.map (·.kind) = [.ambiguousCreator, .ambiguousCreator] ∧
      Agree failure failureToo := by
  have grown : invoices.Grown := .declared _ .empty
  obtain ⟨⟨invoice, builder, finisher⟩, given⟩ : ∃ parts, invoiceParts? = some parts :=
    Option.isSome_iff_exists.mp (by decide)
  have there : ∀ parts ∈ invoiceParts?, parts.1 ∈ invoices.types := by decide
  have sole : ∀ parts ∈ invoiceParts?,
      SoleBuilder invoices.provider {} parts.1 parts.2.1 parts.2.2 := by decide
  have shown : ∀ parts ∈ invoiceParts?,
      ((invoices.resolver {} .last).resolve parts.1).result.toOption.map Route.text =
        some "builder factory Invoice.builder() -> build()" := by decide
  have refused : ∀ parts ∈ invoiceParts?,
      (match ((invoices.resolver {} (.byMarker none)).resolve parts.1).result with
        | .ok _ => []
        | .error failure => failure.found.map (·.kind)) =
          [.ambiguousCreator, .ambiguousCreator] := by decide
  obtain ⟨route, resolved, text⟩ := Attempt.exists_eq_ok_of_shown (shown _ given)
  obtain ⟨chosen, -⟩ := resolve_soleBuilder grown {} .last (there _ given) (sole _ given)
  obtain ⟨chosenToo, agree⟩ :=
    resolve_soleBuilder grown {} (.byMarker none) (there _ given) (sole _ given)
  have kinds := refused _ given
  cases failed : ((invoices.resolver {} (.byMarker none)).resolve invoice).result with
  | ok other =>
    rw [failed] at kinds
    cases kinds
  | error failure =>
    rw [failed] at kinds
    cases failedToo : ((invoices.resolver {} (.byMarker none)).resolveBuilder builder).result with
    | ok other =>
      have contrary := (chosenToo other).mpr failedToo
      rw [failed] at contrary
      cases contrary
    | error failureToo =>
      exact ⟨invoice, builder, finisher, route, failure, failureToo, given, grown, there _ given,
        sole _ given, (chosen route).mp resolved, text, failed, failedToo, kinds,
        agree failure failureToo failed failedToo⟩

end ValueAnatomy.Resolver
