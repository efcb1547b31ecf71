/-
**Routes are determined by their shape and by what they start with.**

In a faithful catalog, whatever a declaration leads to is the very route that `Resolver.routeFor`
finds from its shape and from the callable it starts with: a constructor leads to the type that
owns it, a static method to the type that it returns, and a builder to what its finisher yields.

* `Policy.Selective`: policies that choose among the candidates they are given;
* `Resolver.Yields`: the routes that the declarations of a catalog lead to;
* `Resolver.Rooted`: routes that start with a registered callable and are determined by it;
* `Catalog.Faithful.rooted_of_yields`: whatever a declaration of the catalog leads to is rooted;
* `Resolver.Rooted.eq_of_start`: rooted routes of one shape and one callable are one route.
-/

import ValueAnatomy.Proofs.Catalog.Answers
import ValueAnatomy.Proofs.Route.Creators

namespace ValueAnatomy

/-- A policy that chooses among the candidates it is given. -/
def Policy.Selective (policy : Policy) : Prop :=
  ∀ provider candidates route, policy.choose provider candidates = .chosen route →
    route ∈ candidates

/-- The usual policy chooses among the candidates. -/
theorem Policy.selective_byMarker (marker : Option String) :
    (Policy.byMarker marker).Selective := by
  intro provider candidates route chosen
  rcases Resolver.byMarker_eq_chosen_iff.mp chosen with rfl | ⟨_, name, _, only⟩
  · exact List.mem_singleton_self _
  · have listed : route ∈ marked provider name candidates := by
      rw [only]
      exact List.mem_singleton_self _
    exact (List.mem_filter.mp listed).1

/-- The declarations of a catalog: its types and their members. -/
def Catalog.Registers (catalog : Catalog) : Declaration → Prop
  | .type type => type ∈ catalog.types
  | .field field => ∃ type ∈ catalog.types, field ∈ type.fields
  | .method callable => callable ∈ catalog.callables
  | .constructor callable => callable ∈ catalog.callables

/-- What routes are resolved with in a catalog. -/
abbrev Catalog.resolver (catalog : Catalog) (settings : Settings) (policy : Policy) : Resolver :=
  ⟨catalog.provider, settings, policy⟩

/-- A callable, looked upon as what a route of that start begins with. -/
def Start.declaration : Start → CallableDecl → Declaration
  | constructor => .constructor
  | factory => .method

namespace Resolver

variable {resolver : Resolver}

/-- As what a callable is looked upon decides how the route begins that it leads to. -/
theorem resolveElement_declaration (start : Start) (callable : CallableDecl) (fromBuilder : Bool) :
    resolver.resolveElement (start.declaration callable) fromBuilder =
      resolver.routeFor ⟨start, fromBuilder⟩ callable := by
  cases start <;> rfl

/-- Some declaration of the catalog leads to the route. -/
def Yields (resolver : Resolver) (catalog : Catalog) (route : Route) : Prop :=
  ∃ element fromBuilder, catalog.Registers element ∧
    (resolver.resolveElement element fromBuilder).result = .ok route

/-! ### What candidates are made of -/

theorem mem_constructors_of_constructorsOf {type : TypeDecl} {callable : CallableDecl}
    (member : callable ∈ (resolver.constructorsOf type).offered ∨
      (resolver.constructorsOf type).heldBack = some callable) :
    callable ∈ (resolver.provider.members type).constructors := by
  rw [constructorsOf_eq] at member
  rcases member with opened | heldBack
  · unfold Provider.openConstructors at opened
    split at opened
    · cases opened
    · exact (List.mem_filter.mp opened).1
  · rw [sole?_eq_some_iff.mp (Option.filter_eq_some_iff.mp heldBack).1]
    exact List.mem_singleton_self _

theorem mem_orHeldBack {routes : List Route} {heldBack : Option Route} {route : Route}
    (member : route ∈ orHeldBack routes heldBack) : route ∈ routes ∨ heldBack = some route := by
  unfold orHeldBack at member
  split at member
  · exact .inr (Option.mem_toList.mp member)
  · exact .inl member

/-- A type has a finisher exactly if it is a builder whose finisher yields a declared type. -/
theorem result_requireFinisher_eq_ok_iff {builder target : TypeDecl} {finisher : CallableDecl} :
    (resolver.requireFinisher builder).result = .ok (finisher, target) ↔
      (resolver.provider.finisher? resolver.settings builder).result = .ok (some finisher) ∧
        resolver.provider.resolveResult finisher = some target := by
  unfold requireFinisher
  rw [Attempt.result_bind_eq_ok_iff]
  constructor
  · rintro ⟨found, finished, required⟩
    split at required
    · rename_i _ pair yields
      rw [Attempt.result_pure, Except.ok.injEq] at required
      obtain ⟨method, rfl, built⟩ := Option.bind_eq_some_iff.mp yields
      obtain ⟨type, resolved, paired⟩ := Option.map_eq_some_iff.mp built
      rw [required, Prod.mk.injEq] at paired
      obtain ⟨rfl, rfl⟩ := paired
      exact ⟨finished, resolved⟩
    · cases required
  · rintro ⟨finished, resolved⟩
    refine ⟨some finisher, finished, ?_⟩
    simp [resolved]

/-- A nested type that makes a builder of the target has a finisher that returns the target. -/
theorem finisher?_of_nestedFinisher? {target nested : TypeDecl} {finisher : CallableDecl}
    (found : (resolver.nestedFinisher? target nested).result = .ok (some finisher)) :
    (resolver.provider.finisher? resolver.settings nested).result = .ok (some finisher) ∧
      resolver.provider.returnsType finisher target = true := by
  unfold nestedFinisher? at found
  obtain ⟨option, finished, found⟩ := Attempt.result_bind_eq_ok_iff.mp found
  split at found
  · obtain ⟨_, _, found⟩ := Attempt.result_bind_eq_ok_iff.mp found
    cases found
  · split at found
    · rename_i method returns
      obtain rfl := Option.some.inj (Except.ok.inj found)
      exact ⟨finished, returns⟩
    · obtain ⟨_, _, found⟩ := Attempt.result_bind_eq_ok_iff.mp found
      cases found

theorem mem_of_select (selective : resolver.policy.Selective) {type : TypeDecl}
    {candidates : List Route} {route : Route}
    (selected : (resolver.select type candidates).result = .ok route) : route ∈ candidates := by
  obtain ⟨_, _, selected⟩ := Attempt.result_bind_eq_ok_iff.mp selected
  split at selected
  · rename_i chosen choice
    obtain ⟨_, _, selected⟩ := Attempt.result_bind_eq_ok_iff.mp selected
    rw [← Except.ok.inj selected]
    exact selective _ _ _ choice
  · cases selected
  · cases selected

/-! ### Rooted routes -/

/-- A route that starts with a registered callable and is the one found from its shape and that
callable. -/
structure Rooted (resolver : Resolver) (catalog : Catalog) (route : Route) : Prop where
  registered : route.callable ∈ catalog.callables
  determined : (resolver.routeFor route.shape route.callable).result = .ok route

/-- **Rooted routes of one shape and one callable are one route.** -/
theorem Rooted.eq_of_start {catalog : Catalog} {first second : Route}
    (rooted : resolver.Rooted catalog first) (other : resolver.Rooted catalog second)
    (shape : first.shape = second.shape) (callable : first.callable = second.callable) :
    first = second := by
  have found := rooted.determined
  rw [shape, callable, other.determined] at found
  exact (Except.ok.inj found).symm

theorem start_of_routeFor {shape : RouteShape} {callable : CallableDecl} {route : Route}
    (found : (resolver.routeFor shape callable).result = .ok route) :
    route.shape = shape ∧ route.callable = callable := by
  obtain ⟨start, throughBuilder⟩ := shape
  cases start <;> cases throughBuilder
  all_goals
    obtain ⟨_, _, found⟩ := Attempt.result_bind_eq_ok_iff.mp found
  · obtain rfl := Except.ok.inj found
    exact ⟨rfl, rfl⟩
  · obtain ⟨_, _, found⟩ := Attempt.result_bind_eq_ok_iff.mp found
    obtain rfl := Except.ok.inj found
    exact ⟨rfl, rfl⟩
  · obtain rfl := Except.ok.inj found
    exact ⟨rfl, rfl⟩
  · obtain ⟨_, _, found⟩ := Attempt.result_bind_eq_ok_iff.mp found
    obtain rfl := Except.ok.inj found
    exact ⟨rfl, rfl⟩

theorem rooted_of_routeFor {catalog : Catalog} {shape : RouteShape} {callable : CallableDecl}
    {route : Route} (registered : callable ∈ catalog.callables)
    (found : (resolver.routeFor shape callable).result = .ok route) :
    resolver.Rooted catalog route := by
  obtain ⟨rfl, rfl⟩ := start_of_routeFor found
  exact ⟨registered, found⟩

end Resolver

/-! ### Routes in a faithful catalog -/

namespace Catalog.Faithful

open Resolver

variable {catalog : Catalog} {settings : Settings} {policy : Policy}

/-- A constructor leads to the type that declares it. -/
theorem result_expectConstructor (faithful : catalog.Faithful) {type : TypeDecl}
    (there : type ∈ catalog.types) {callable : CallableDecl}
    (member : callable ∈ type.constructors) :
    (expectConstructor (catalog.resolver settings policy) callable).result = .ok type := by
  obtain ⟨owner, kind⟩ := (faithful.owned type there).constructors callable member
  have constructs : callable.isConstructor = true := by
    rw [CallableDecl.isConstructor, kind]
    rfl
  have located : catalog.provider.typeByName callable.owner = some type := by
    rw [owner]
    exact faithful.found type there
  unfold expectConstructor
  simp only [constructs, if_true, located]
  rfl

/-- What a callable returns, as far as its handle tells, is what its result resolves to. -/
theorem resolveResult_of_returnsType (faithful : catalog.Faithful) {type : TypeDecl}
    (there : type ∈ catalog.types) {callable : CallableDecl}
    (returns : catalog.provider.returnsType callable type = true) :
    catalog.provider.resolveResult callable = some type := by
  obtain ⟨result, resolved, same⟩ := Provider.returnsType_iff.mp returns
  have equal : result.handle = type.handle := beq_iff_eq.mp same
  rw [resolved, faithful.eq_of_handle (mem_types_of_resolve resolved) there equal]

/-- A factory of a type leads to that type. -/
theorem result_expectFactory (faithful : catalog.Faithful) {type : TypeDecl}
    (there : type ∈ catalog.types) {methods : List CallableDecl} {callable : CallableDecl}
    (kind : callable.kind = .method)
    (member : callable ∈ factoriesOf (catalog.resolver settings policy) methods type) :
    (expectFactory (catalog.resolver settings policy) callable).result = .ok type := by
  obtain ⟨selected, returns⟩ := List.mem_filter.mp member
  have static : callable.isStatic = true :=
    (mem_selectCallables.mp selected).2 .static (by simp)
  have builds : callable.isConstructor = false := by
    rw [CallableDecl.isConstructor, kind]
    rfl
  unfold expectFactory
  simp only [builds, static, Bool.not_true, Bool.or_false, Bool.false_eq_true, if_false,
    faithful.resolveResult_of_returnsType there returns]
  rfl

theorem known_methods (faithful : catalog.Faithful) {type : TypeDecl}
    (there : type ∈ catalog.types) :
    ∀ method ∈ (catalog.provider.members type).methods,
      method ∈ catalog.callables ∧ method.kind = .method := by
  intro method member
  rw [members_provider] at member
  exact ⟨mem_callables_of_method there member,
    ((faithful.owned type there).methods method member).2⟩

/-- **The ways to build a target that do not lead through a builder are rooted.** -/
theorem rooted_of_directRoutes (faithful : catalog.Faithful) {target : TypeDecl}
    (there : target ∈ catalog.types) {route : Route}
    (member : route ∈ directRoutes (catalog.resolver settings policy) target ∨
      heldBackRoute? (catalog.resolver settings policy) target = some route) :
    Rooted (catalog.resolver settings policy) catalog route := by
  have constructed : ∀ callable,
      callable ∈ (catalog.provider.members target).constructors →
      Rooted (catalog.resolver settings policy) catalog
        { target, start := .constructor, callable } := by
    intro callable declared
    rw [members_provider] at declared
    refine ⟨mem_callables_of_constructor there declared, ?_⟩
    exact Attempt.result_bind_of_ok (faithful.result_expectConstructor there declared) _
  rcases member with direct | heldBack
  · rcases List.mem_append.mp direct with offered | made
    · obtain ⟨callable, listed, rfl⟩ := List.mem_map.mp offered
      exact constructed callable (mem_constructors_of_constructorsOf (.inl listed))
    · obtain ⟨callable, listed, rfl⟩ := List.mem_map.mp made
      obtain ⟨registered, kind⟩ := faithful.known_methods there callable
        (mem_selectCallables.mp (List.mem_filter.mp listed).1).1
      refine ⟨registered, ?_⟩
      exact Attempt.result_bind_of_ok (faithful.result_expectFactory there kind listed) _
  · obtain ⟨callable, listed, rfl⟩ := Option.map_eq_some_iff.mp heldBack
    exact constructed callable (mem_constructors_of_constructorsOf (.inr listed))

/-- **The ways to build a target that lead through one of its builders are rooted.** -/
theorem rooted_of_routesThrough (faithful : catalog.Faithful) {builder target : TypeDecl}
    {finisher : CallableDecl} (there : builder ∈ catalog.types)
    (finished : (requireFinisher (catalog.resolver settings policy) builder).result =
      .ok (finisher, target))
    {methods : List CallableDecl}
    (known : ∀ method ∈ methods, method ∈ catalog.callables ∧ method.kind = .method)
    {route : Route}
    (member : route ∈
      routesThrough (catalog.resolver settings policy) target ⟨builder, finisher⟩ methods) :
    Rooted (catalog.resolver settings policy) catalog route := by
  have constructed : ∀ callable,
      callable ∈ ((catalog.resolver settings policy).provider.members builder).constructors →
      Rooted (catalog.resolver settings policy) catalog
        { target, start := .constructor, callable, step := some ⟨builder, finisher⟩ } := by
    intro callable declared
    rw [members_provider] at declared
    refine ⟨mem_callables_of_constructor there declared, ?_⟩
    refine (Attempt.result_bind_of_ok (faithful.result_expectConstructor there declared) _).trans ?_
    exact Attempt.result_bind_of_ok finished _
  rcases mem_orHeldBack member with listed | heldBack
  · rcases List.mem_append.mp listed with offered | made
    · obtain ⟨callable, among, rfl⟩ := List.mem_map.mp offered
      exact constructed callable (mem_constructors_of_constructorsOf (.inl among))
    · obtain ⟨callable, among, rfl⟩ := List.mem_map.mp made
      obtain ⟨registered, kind⟩ :=
        known callable (mem_selectCallables.mp (List.mem_filter.mp among).1).1
      refine ⟨registered, ?_⟩
      refine (Attempt.result_bind_of_ok (faithful.result_expectFactory there kind among) _).trans ?_
      exact Attempt.result_bind_of_ok finished _
  · obtain ⟨callable, among, rfl⟩ := Option.map_eq_some_iff.mp heldBack
    exact constructed callable (mem_constructors_of_constructorsOf (.inr among))

/-- **The ways that lead through the builders among nested types are rooted**, as far as those are
types of the catalog. -/
theorem rooted_of_nestedRoutes (faithful : catalog.Faithful) {target : TypeDecl}
    (there : target ∈ catalog.types) {nested : List TypeDecl}
    (nestedThere : ∀ type ∈ nested, type ∈ catalog.types) {routes : List Route}
    (enumerated : (nestedRoutes (catalog.resolver settings policy) target
      (catalog.provider.members target).methods nested).result = .ok routes) :
    ∀ route ∈ routes, Rooted (catalog.resolver settings policy) catalog route := by
  induction nested generalizing routes with
  | nil =>
    obtain rfl : [] = routes := Except.ok.inj enumerated
    simp
  | cons type rest ih =>
    have restThere := fun other member => nestedThere other (List.mem_cons_of_mem _ member)
    rw [nestedRoutes] at enumerated
    split at enumerated
    · exact ih restThere enumerated
    · obtain ⟨finisher?, found, enumerated⟩ := Attempt.result_bind_eq_ok_iff.mp enumerated
      obtain ⟨later, enumeratedLater, enumerated⟩ := Attempt.result_bind_eq_ok_iff.mp enumerated
      rw [← Except.ok.inj enumerated]
      intro route member
      rcases List.mem_append.mp member with here | member
      · cases finisher? with
        | none => cases here
        | some finisher =>
          obtain ⟨finished, returns⟩ := finisher?_of_nestedFinisher? found
          have required := result_requireFinisher_eq_ok_iff.mpr
            ⟨finished, faithful.resolveResult_of_returnsType there returns⟩
          exact faithful.rooted_of_routesThrough (nestedThere type List.mem_cons_self) required
            (faithful.known_methods there) here
      · exact ih restThere enumeratedLater route member

/-- **All ways in which a type can be built are rooted.** -/
theorem rooted_of_candidates (faithful : catalog.Faithful) {target : TypeDecl}
    (there : target ∈ catalog.types) {routes : List Route}
    (enumerated : (candidates (catalog.resolver settings policy) target).result = .ok routes) :
    ∀ route ∈ routes, Rooted (catalog.resolver settings policy) catalog route := by
  obtain ⟨through, nested, enumerated⟩ := Attempt.result_bind_eq_ok_iff.mp enumerated
  rw [← Except.ok.inj enumerated]
  intro route member
  have nestedThere : ∀ type ∈ (catalog.provider.members target).nested, type ∈ catalog.types := by
    intro type among
    rw [members_provider] at among
    exact mem_types_of_nestedOf among
  rcases mem_orHeldBack member with listed | heldBack
  · rcases List.mem_append.mp listed with direct | among
    · exact faithful.rooted_of_directRoutes there (.inl direct)
    · exact faithful.rooted_of_nestedRoutes there nestedThere nested route among
  · exact faithful.rooted_of_directRoutes there (.inr heldBack)

/-- **Whatever a declaration of the catalog leads to is rooted.** -/
theorem rooted_of_yields (faithful : catalog.Faithful) (selective : policy.Selective)
    {route : Route} (yields : (catalog.resolver settings policy).Yields catalog route) :
    Rooted (catalog.resolver settings policy) catalog route := by
  obtain ⟨element, fromBuilder, registered, resolved⟩ := yields
  cases element with
  | field field => cases resolved
  | method callable => exact rooted_of_routeFor registered resolved
  | constructor callable => exact rooted_of_routeFor registered resolved
  | type type =>
    cases fromBuilder with
    | false =>
      obtain ⟨routes, enumerated, selected⟩ := Attempt.result_bind_eq_ok_iff.mp resolved
      exact faithful.rooted_of_candidates registered enumerated route
        (mem_of_select selective selected)
    | true =>
      obtain ⟨⟨finisher, target⟩, required, selected⟩ := Attempt.result_bind_eq_ok_iff.mp resolved
      have targetThere : target ∈ catalog.types :=
        mem_types_of_resolve (result_requireFinisher_eq_ok_iff.mp required).2
      refine faithful.rooted_of_routesThrough registered required (fun method member => ?_)
        (mem_of_select selective selected)
      rcases List.mem_append.mp member with own | other
      · exact faithful.known_methods registered method own
      · exact faithful.known_methods targetThere method other

end Catalog.Faithful

end ValueAnatomy
