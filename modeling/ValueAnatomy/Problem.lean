/-
**Problems and failures.**

A `Problem` is one thing that is wrong with a declaration; a `Failure` is what an operation answers
instead of its result: the problems of an analysis, or the reason why the catalog or a walk through
it refuses.

* `Failure.entries`: what a failure tells, one message at a time;
* `Failure.message`: the whole of it as one text.
-/

import ValueAnatomy.TypeDecl

namespace ValueAnatomy

/-- What is wrong. -/
inductive ProblemKind where
  /-- A type has no constructor, factory or builder that may be used. -/
  | noCreatorFound
  /-- More than one creator is left after selection; one problem for each. -/
  | ambiguousCreator
  /-- A builder has no method that finishes it. -/
  | noBuildMethodFound
  /-- One annotation instance is attached twice to one property. -/
  | annotatedTwice
  /-- An operation was asked about a declaration it is not made for. -/
  | invalidElementKind
  deriving DecidableEq, Repr

namespace ProblemKind

def all : List ProblemKind :=
  [noCreatorFound, ambiguousCreator, noBuildMethodFound, annotatedTwice, invalidElementKind]

def name : ProblemKind → String
  | noCreatorFound => "NoCreatorFound"
  | ambiguousCreator => "AmbiguousCreator"
  | noBuildMethodFound => "NoBuildMethodFound"
  | annotatedTwice => "DuplicateAnnotation"
  | invalidElementKind => "InvalidElementKind"

end ProblemKind

/-- One thing that is wrong. -/
structure Problem where
  kind : ProblemKind
  /-- The same in words. -/
  message : String
  element : Option Declaration := none
  deriving DecidableEq, Repr

/-- A message together with the declaration it points at. -/
def located (message : String) (element : Option Declaration) : String :=
  match element with
  | some element => message ++ " (at " ++ element.text ++ ")"
  | none => message

def Problem.text (problem : Problem) : String :=
  located ("[" ++ problem.kind.name ++ "] " ++ problem.message) problem.element

/-- What is wrong with the declaration of a type. -/
inductive Inconsistency where
  /-- A method has no name. -/
  | unnamedMethod (owner : String)
  /-- A constructor is declared static. -/
  | staticConstructor (owner : String)
  /-- A constructor is declared with a result. -/
  | returningConstructor (owner : String)
  /-- Something that is told in words alone. -/
  | other (words : String)
  deriving DecidableEq, Repr

def Inconsistency.message : Inconsistency → String
  | unnamedMethod owner => "method without a name on " ++ owner
  | staticConstructor owner => "static constructor on " ++ owner
  | returningConstructor owner => "constructor of " ++ owner ++ " declares a return type"
  | other words => words

/-- What an operation answers instead of its result. -/
inductive Failure where
  /-- The analysis of a type found problems. -/
  | problems (found : List Problem)
  /-- A name leads to no type. -/
  | typeNotFound (fullName : String)
  /-- A type of this name is in the catalog already. -/
  | nameTaken (fullName : String)
  /-- The declaration of a type is inconsistent. -/
  | inconsistent (reason : Inconsistency)
  /-- Types extend each other deeper than a walk follows. -/
  | tooDeep (limit : Nat)
  deriving DecidableEq, Repr

namespace Failure

/-- A failure because of a single problem with a declaration. -/
def problem (kind : ProblemKind) (message : String) (element : Declaration) : Failure :=
  problems [⟨kind, message, some element⟩]

def message : Failure → String
  | problems found => String.intercalate "\n" (found.map Problem.text)
  | typeNotFound fullName => "Failed to find type - " ++ fullName
  | nameTaken fullName => "Failed to insert new type into TypeRegistry - " ++ fullName
  | inconsistent reason => "Invalid type declaration - " ++ reason.message
  | tooDeep limit => "Reach the maximum recursion level allowed - " ++ toString limit

/-- The problems that a failure carries; only an analysis has any. -/
def found : Failure → List Problem
  | problems found => found
  | _ => []

/-- What a failure tells, one message at a time: the problems of an analysis each at its
declaration, any other failure as a whole. -/
def entries : Failure → List (String × Option Declaration)
  | problems found => found.map fun problem => (problem.message, problem.element)
  | other => [(other.message, none)]

theorem entries_problems (found : List Problem) :
    (problems found).entries = found.map fun problem => (problem.message, problem.element) := rfl

end Failure

end ValueAnatomy
