/-
**Resolving routes.**

A resolver enumerates the ways in which a type can be built and lets a policy choose: the
constructors that are not private; the static methods that return the type; and for each builder
nested in the type the builder's constructors and the type's static methods that return it. A lone
constructor without parameters is held back, and used only where nothing else is found.

* `Resolver.candidates`: the ways in which a type can be built;
* `Resolver.resolve`, `Resolver.resolveBuilder`: a type, or a builder, resolved;
* `Resolver.constructorRoute`, .. `Resolver.builderFactoryRoute`: the route that starts with a
  given callable;
* `Resolver.resolveElement`: whichever of these a declaration calls for.
-/

import ValueAnatomy.Route.Policy

namespace ValueAnatomy

/-- What routes are resolved with. -/
structure Resolver where
  provider : Provider
  settings : Settings
  policy : Policy

/-- The constructors of a type that start a route, and one that is held back. -/
structure OfferedConstructors where
  offered : List CallableDecl := []
  heldBack : Option CallableDecl := none

namespace Resolver

/-! ### Candidates -/

/-- The constructors of a type that start a route: those not private, unless the only one takes no
parameters, which is held back. A type that cannot be instantiated offers none. -/
def constructorsOf (resolver : Resolver) (type : TypeDecl) : OfferedConstructors :=
  if type.isAbstract then {}
  else
    let constructors := (resolver.provider.members type).constructors
    match constructors with
    | [only] =>
      if !only.isPrivate && only.hasNoParams then { heldBack := some only }
      else { offered := selectCallables [.nonPrivate] constructors }
    | _ => { offered := selectCallables [.nonPrivate] constructors }

/-- Those of the methods that are static, not private, and return a type. -/
def factoriesOf (resolver : Resolver) (methods : List CallableDecl) (type : TypeDecl) :
    List CallableDecl :=
  (selectCallables [.nonPrivate, .static] methods).filter (resolver.provider.returnsType · type)

/-- The given routes, or the one held back where there are none. -/
def orHeldBack (routes : List Route) (heldBack : Option Route) : List Route :=
  if routes.isEmpty then heldBack.toList else routes

/-- The ways to build a target that do not lead through a builder, but for the one held back. -/
def directRoutes (resolver : Resolver) (target : TypeDecl) : List Route :=
  (resolver.constructorsOf target).offered.map (fun callable =>
      { target, start := .constructor, callable }) ++
    (resolver.factoriesOf (resolver.provider.members target).methods target).map fun callable =>
      { target, start := .factory, callable }

/-- The way to build a target that is held back. -/
def heldBackRoute? (resolver : Resolver) (target : TypeDecl) : Option Route :=
  (resolver.constructorsOf target).heldBack.map fun callable =>
    { target, start := .constructor, callable }

/-- The ways to build a target that lead through a builder, whose factories are among the given
methods. -/
def routesThrough (resolver : Resolver) (target : TypeDecl) (step : BuilderStep)
    (methods : List CallableDecl) : List Route :=
  let constructors := resolver.constructorsOf step.builder
  let starting (start : Start) (callable : CallableDecl) : Route :=
    { target, start, callable, step := some step }
  orHeldBack
    (constructors.offered.map (starting .constructor) ++
      (resolver.factoriesOf methods step.builder).map (starting .factory))
    (constructors.heldBack.map (starting .constructor))

/-- The method of a nested type that makes it a builder of the target, with a note where there is
none. -/
def nestedFinisher? (resolver : Resolver) (target nested : TypeDecl) :
    Attempt (Option CallableDecl) := do
  match ← resolver.provider.finisher? resolver.settings nested with
  | none =>
    Attempt.note (.notBuilder nested.fullName)
    pure none
  | some finisher =>
    if resolver.provider.returnsType finisher target then pure (some finisher)
    else
      Attempt.note (.buildsOther nested.fullName finisher.returns target.fullName)
      pure none

/-- The ways to build a target that lead through the builders among its nested types. -/
def nestedRoutes (resolver : Resolver) (target : TypeDecl) (methods : List CallableDecl) :
    List TypeDecl → Attempt (List Route)
  | [] => pure []
  | nested :: rest =>
    if nested.isPrivate || !nested.isStatic then nestedRoutes resolver target methods rest
    else do
      let finisher? ← resolver.nestedFinisher? target nested
      let here :=
        match finisher? with
        | some finisher => resolver.routesThrough target ⟨nested, finisher⟩ methods
        | none => []
      let later ← nestedRoutes resolver target methods rest
      pure (here ++ later)

/-- The ways in which a type can be built, in the order of enumeration. -/
def candidates (resolver : Resolver) (target : TypeDecl) : Attempt (List Route) := do
  let members := resolver.provider.members target
  let through ← resolver.nestedRoutes target members.methods members.nested
  pure (orHeldBack (resolver.directRoutes target ++ through) (resolver.heldBackRoute? target))

/-! ### Selection -/

/-- The failure that the candidates leave it open how a type is built. -/
def ambiguity (type : TypeDecl) (candidates : List Route) : Failure :=
  .problems (candidates.map fun route =>
    ⟨.ambiguousCreator, "ambiguous creator for " ++ type.fullName ++ ": " ++ route.text,
      some route.element⟩)

/-- Lets the policy choose among the candidates for a type. -/
def select (resolver : Resolver) (type : TypeDecl) (candidates : List Route) : Attempt Route := do
  Attempt.note (.candidatesFound candidates.length type.fullName)
  match resolver.policy.choose resolver.provider candidates with
  | .chosen route =>
    Attempt.note (.routeChosen route.text type.fullName)
    pure route
  | .nothing =>
    .fail (.problem .noCreatorFound
      ("no constructor, factory or builder found for " ++ type.fullName) (.type type))
  | .undecided candidates => .fail (ambiguity type candidates)

/-- The route by which a type is built. -/
def resolve (resolver : Resolver) (type : TypeDecl) : Attempt Route := do
  let candidates ← resolver.candidates type
  resolver.select type candidates

/-! ### Builders -/

/-- The finisher of a type that must be a builder, and what it yields. -/
def requireFinisher (resolver : Resolver) (builder : TypeDecl) :
    Attempt (CallableDecl × TypeDecl) := do
  let finisher? ← resolver.provider.finisher? resolver.settings builder
  match finisher?.bind fun finisher =>
      (resolver.provider.resolveResult finisher).map fun target => (finisher, target) with
  | some found => pure found
  | none =>
    .fail (.problem .noBuildMethodFound ("no build method found on builder " ++ builder.fullName)
      (.type builder))

/-- The route by which what a builder builds is built, through that builder. -/
def resolveBuilder (resolver : Resolver) (builder : TypeDecl) : Attempt Route := do
  let (finisher, target) ← resolver.requireFinisher builder
  let methods :=
    (resolver.provider.members builder).methods ++ (resolver.provider.members target).methods
  resolver.select builder (resolver.routesThrough target ⟨builder, finisher⟩ methods)

/-! ### Known callables -/

/-- The declaring type of a callable that must be a constructor. -/
def expectConstructor (resolver : Resolver) (callable : CallableDecl) : Attempt TypeDecl :=
  if callable.isConstructor then
    match resolver.provider.typeByName callable.owner with
    | some owner => pure owner
    | none => .fail (.typeNotFound callable.owner)
  else
    let element := Declaration.ofCallable callable
    .fail (.problem .invalidElementKind
      ("expected a constructor, found method " ++ element.text) element)

/-- The type that a callable yields that must be a static method. -/
def expectFactory (resolver : Resolver) (callable : CallableDecl) : Attempt TypeDecl :=
  match if callable.isConstructor || !callable.isStatic then none
    else resolver.provider.resolveResult callable with
  | some produced => pure produced
  | none =>
    let element := Declaration.ofCallable callable
    .fail (.problem .invalidElementKind
      ("expected a static factory method, found " ++ element.text ++ " returning " ++
        callable.returns.text) element)

/-- The route that starts with a constructor of its target. -/
def constructorRoute (resolver : Resolver) (callable : CallableDecl) : Attempt Route := do
  let target ← resolver.expectConstructor callable
  pure { target, start := .constructor, callable }

/-- The route that starts with a static method returning its target. -/
def factoryRoute (resolver : Resolver) (callable : CallableDecl) : Attempt Route := do
  let target ← resolver.expectFactory callable
  pure { target, start := .factory, callable }

/-- The route that starts with a constructor of a builder. -/
def builderConstructorRoute (resolver : Resolver) (callable : CallableDecl) : Attempt Route := do
  let builder ← resolver.expectConstructor callable
  let (finisher, target) ← resolver.requireFinisher builder
  pure { target, start := .constructor, callable, step := some ⟨builder, finisher⟩ }

/-- The route that starts with a static method returning a builder. -/
def builderFactoryRoute (resolver : Resolver) (callable : CallableDecl) : Attempt Route := do
  let builder ← resolver.expectFactory callable
  let (finisher, target) ← resolver.requireFinisher builder
  pure { target, start := .factory, callable, step := some ⟨builder, finisher⟩ }

/-- The route of a given shape that starts with a known callable. -/
def routeFor (resolver : Resolver) : RouteShape → CallableDecl → Attempt Route
  | ⟨.constructor, false⟩ => resolver.constructorRoute
  | ⟨.constructor, true⟩ => resolver.builderConstructorRoute
  | ⟨.factory, false⟩ => resolver.factoryRoute
  | ⟨.factory, true⟩ => resolver.builderFactoryRoute

/-- The failure that no route starts with a field. -/
def fieldRefused (field : FieldDecl) : Failure :=
  let element := Declaration.field field
  .problem .invalidElementKind
    ("expected a type, constructor or static method, found field " ++ element.text) element

/-- The route that a declaration leads to: a type is enumerated, as a builder if asked; a
constructor or method is what the route starts with. -/
def resolveElement (resolver : Resolver) (element : Declaration) (fromBuilder : Bool) :
    Attempt Route :=
  match element with
  | .type type => if fromBuilder then resolver.resolveBuilder type else resolver.resolve type
  | .constructor callable => resolver.routeFor ⟨.constructor, fromBuilder⟩ callable
  | .method callable => resolver.routeFor ⟨.factory, fromBuilder⟩ callable
  | .field field => .fail (fieldRefused field)

end Resolver

end ValueAnatomy
