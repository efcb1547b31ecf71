/-
**Sessions: analyses that remember their answers.**

A session answers where routes lead and which properties lie along them, and remembers every answer,
failures too. What it remembers stands for the same question even where the program has grown
since. Routes are remembered by the handle of what was asked about and by how it was asked,
properties by the shape of the route and the key of the callable that it starts with.

* `Session.resolveRoute`, `Session.routeFor`, `Session.propertiesOf`: the questions;
* `Session.analyze`: route and properties of a type at once;
* `Session.analyzeAll`: the same for many types.
-/

import ValueAnatomy.Merge
import ValueAnatomy.Route.Resolver

namespace ValueAnatomy

/-- How a route is asked for. -/
inductive Inquiry where
  /-- As the way to build a type. -/
  | type
  /-- As the way through a builder. -/
  | builder
  /-- As the route of a shape that starts with a callable. -/
  | start (shape : RouteShape)
  deriving DecidableEq, Repr

/-- How a declaration is asked about; a field is not worth remembering. -/
def Declaration.inquiry? (element : Declaration) (fromBuilder : Bool) : Option Inquiry :=
  match element with
  | .type _ => some (if fromBuilder then .builder else .type)
  | .constructor _ => some (.start ⟨.constructor, fromBuilder⟩)
  | .method _ => some (.start ⟨.factory, fromBuilder⟩)
  | .field _ => none

/-- By what a remembered route is found. -/
structure RouteQuestion where
  handle : Handle
  inquiry : Inquiry
  deriving DecidableEq, Repr

/-- By what remembered properties are found. -/
structure PropertyQuestion where
  shape : RouteShape
  key : DeclKey
  deriving DecidableEq, Repr

/-- The question after the properties along a route. -/
def Route.propertyQuestion (route : Route) : PropertyQuestion := ⟨route.shape, route.key⟩

/-- How a type is built and what its instances consist of. -/
structure Anatomy where
  route : Route
  properties : PropertySet
  deriving DecidableEq, Repr

def Anatomy.same (first second : Anatomy) : Bool :=
  first.route.same second.route && first.properties.same second.properties

/-- An analysis under way, with what it remembers. -/
structure Session where
  settings : Settings
  /-- How it chooses among several routes. -/
  policy : Policy
  /-- The routes answered so far. -/
  routes : List (RouteQuestion × Except Failure Route) := []
  /-- The properties answered so far. -/
  properties : List (PropertyQuestion × Except Failure PropertySet) := []

namespace Session

/-- A session that chooses by the marker of its settings. -/
def ofSettings (settings : Settings) : Session :=
  { settings, policy := .byMarker settings.creatorMarker }

/-- The session with another policy; what it remembers stays. -/
def withPolicy (session : Session) (policy : Policy) : Session := { session with policy }

def resolver (session : Session) (provider : Provider) : Resolver :=
  ⟨provider, session.settings, session.policy⟩

/-- How many routes are remembered, failures included. -/
def routeCount (session : Session) : Nat := session.routes.length

def cleared (session : Session) : Session := { session with routes := [], properties := [] }

/-! ### Routes -/

/-- The answer to a question about a route: as remembered, or computed and remembered. -/
def recallRoute (session : Session) (question : RouteQuestion) (compute : Unit → Attempt Route) :
    Traced (Except Failure Route × Session) :=
  match session.routes.lookup question with
  | some outcome => pure (outcome, session)
  | none => do
    let outcome ← (compute ()).run
    pure (outcome, { session with routes := (question, outcome) :: session.routes })

/-- The route that a declaration leads to, a type being taken for a builder if asked. -/
def resolveRoute (session : Session) (provider : Provider) (element : Declaration)
    (fromBuilder : Bool) : Traced (Except Failure Route × Session) :=
  let compute (_ : Unit) := (session.resolver provider).resolveElement element fromBuilder
  match element.inquiry? fromBuilder with
  | some inquiry => session.recallRoute ⟨element.handle, inquiry⟩ compute
  | none => do
    let outcome ← (compute ()).run
    pure (outcome, session)

def resolveType (session : Session) (provider : Provider) (type : TypeDecl) :
    Traced (Except Failure Route × Session) :=
  session.resolveRoute provider (.type type) false

/-- The route of a given shape that starts with a known callable. -/
def routeFor (session : Session) (provider : Provider) (shape : RouteShape)
    (callable : CallableDecl) : Traced (Except Failure Route × Session) :=
  session.recallRoute ⟨callable.handle, .start shape⟩ fun _ =>
    (session.resolver provider).routeFor shape callable

/-! ### Properties -/

/-- The properties along a route: as remembered, or computed and remembered. -/
def propertiesOf (session : Session) (provider : Provider) (route : Route) :
    Traced (Except Failure PropertySet × Session) :=
  match session.properties.lookup route.propertyQuestion with
  | some outcome => pure (outcome, session)
  | none => do
    let outcome ← (provider.propertiesAlong session.settings route).run
    pure (outcome,
      { session with properties := (route.propertyQuestion, outcome) :: session.properties })

/-- How a type is built and what its instances consist of. -/
def analyze (session : Session) (provider : Provider) (type : TypeDecl) :
    Traced (Except Failure Anatomy × Session) := do
  let (route?, session) ← session.resolveType provider type
  match route? with
  | .error failure => pure (.error failure, session)
  | .ok route =>
    let (properties?, session) ← session.propertiesOf provider route
    match properties? with
    | .error failure => pure (.error failure, session)
    | .ok properties => pure (.ok ⟨route, properties⟩, session)

/-- The same for many types, in their order. Many analyses at once leave no notes. -/
def analyzeAll (provider : Provider) : List TypeDecl → Session →
    List (Except Failure Anatomy) × Session
  | [], session => ([], session)
  | type :: rest, session =>
    let (outcome, session) := (session.analyze provider type).value
    let (outcomes, session) := analyzeAll provider rest session
    (outcome :: outcomes, session)

end Session

end ValueAnatomy
