/-
**Policies: choosing one route among several.**

A policy is given the candidates in the order of enumeration. The usual one takes a lone candidate,
and among several the only one that carries a marker annotation.

* `Policy.byMarker`: the usual policy;
* `Policy.first`, `Policy.last`, `Policy.nothing`, `Policy.reject`: policies that look at the order
  alone, or at nothing.
-/

import ValueAnatomy.Finisher
import ValueAnatomy.Route

namespace ValueAnatomy

/-- What a policy answers. -/
inductive Choice where
  | chosen (route : Route)
  | nothing
  /-- No one of these can be chosen. -/
  | undecided (candidates : List Route)
  deriving DecidableEq, Repr

/-- A way to choose one route among several. -/
structure Policy where
  choose : Provider → List Route → Choice

namespace Policy

/-- The candidates that carry the marker annotation. -/
def marked (provider : Provider) (marker : String) (candidates : List Route) : List Route :=
  candidates.filter fun route => Annotation.anyOf (provider.annotationsOf route.element) marker

/-- Takes a lone candidate, and among several the only one that carries the marker. -/
def byMarker (marker : Option String) : Policy where
  choose provider candidates :=
    match candidates with
    | [] => .nothing
    | [only] => .chosen only
    | _ =>
      match marker.bind fun marker => sole? (marked provider marker candidates) with
      | some route => .chosen route
      | none => .undecided candidates

def first : Policy where
  choose _ candidates := (candidates.head?.map Choice.chosen).getD .nothing

def last : Policy where
  choose _ candidates := (candidates.getLast?.map Choice.chosen).getD .nothing

/-- Finds nothing to choose from. -/
def nothing : Policy where
  choose _ _ := .nothing

/-- Chooses none of the candidates, be it one or none. -/
def reject : Policy where
  choose _ candidates := .undecided candidates

end Policy

end ValueAnatomy
