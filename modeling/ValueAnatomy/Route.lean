/-
**Routes: how an instance is built.**

A route starts with a constructor or a factory, and either that yields the target itself or it
yields a builder, one of whose methods then yields the target.

* `RouteShape`: how a route starts and whether it leads through a builder;
* `Route.key`: the key of the callable that it starts with;
* `Route.same`: by what two routes are the same: shape, target, start and finisher.
-/

import ValueAnatomy.TypeDecl

namespace ValueAnatomy

/-- What a route starts with. -/
inductive Start where
  | constructor
  | factory
  deriving DecidableEq, Repr

def Start.name : Start → String
  | constructor => "constructor"
  | factory => "factory"

/-- How a route starts and whether it leads through a builder. -/
structure RouteShape where
  start : Start
  throughBuilder : Bool
  deriving DecidableEq, Repr

def RouteShape.text (shape : RouteShape) : String :=
  (if shape.throughBuilder then "builder " else "") ++ shape.start.name

/-- A builder on the way to the target, and the method that finishes it. -/
structure BuilderStep where
  builder : TypeDecl
  finisher : CallableDecl
  deriving DecidableEq, Repr

/-- How an instance is built. -/
structure Route where
  /-- The type of which an instance is built. -/
  target : TypeDecl
  start : Start
  /-- The callable it starts with. -/
  callable : CallableDecl
  /-- The builder that it leads through. -/
  step : Option BuilderStep := none
  deriving DecidableEq, Repr

namespace Route

/-- How the route starts and whether it leads through a builder. -/
def shape (route : Route) : RouteShape := ⟨route.start, route.step.isSome⟩

/-- The callable it starts with, as a declaration. -/
def element (route : Route) : Declaration := .ofCallable route.callable

def key (route : Route) : DeclKey := route.callable.key

def params (route : Route) : List Param := route.callable.params

def builder? (route : Route) : Option TypeDecl := route.step.map (·.builder)

def finisher? (route : Route) : Option CallableDecl := route.step.map (·.finisher)

def same (first second : Route) : Bool :=
  first.shape == second.shape && first.target.handle == second.target.handle &&
    first.key == second.key && first.finisher?.map (·.key) == second.finisher?.map (·.key)

/-- The route as shown: its shape, its start, and what finishes it. -/
def text (route : Route) : String :=
  route.shape.text ++ " " ++ route.element.text ++
    match route.finisher? with
    | some finisher => " -> " ++ finisher.name ++ "()"
    | none => ""

end Route

end ValueAnatomy
