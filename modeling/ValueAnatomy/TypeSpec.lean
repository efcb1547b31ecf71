/-
**Specifications of types, and their declaration in a catalog.**

A `TypeSpec` says how a type is to be declared, with its members and the types nested inside it.
Declaring it gives out handles, checks the members and enters the type and then its nested types
into the catalog. What was entered before a failure stays.

* `Place`: package and name of a type; a nested type stands in its parent's package, behind its
  parent's name;
* `Catalog.declareAt`: the declaration of a specification at the top or inside a place;
* `Catalog.declare`: the declaration of a specification at the top.
-/

import ValueAnatomy.Catalog

namespace ValueAnatomy

/-- How a field is to be declared. -/
structure FieldSpec where
  name : String
  type : TypeRef
  keywords : List Keyword := []
  annotations : List Annotation := []
  deriving DecidableEq, Repr

/-- How a method or constructor is to be declared. -/
structure CallableSpec where
  name : String
  keywords : List Keyword := []
  params : List Param := []
  returns : TypeRef := .void
  annotations : List Annotation := []
  deriving DecidableEq, Repr

/-- What a type is declared as. -/
inductive TypeForm where
  | plainClass
  | interface
  /-- A structural data type. -/
  | record
  deriving DecidableEq, Repr

/-- What is said about the superclass. -/
inductive BaseSpec where
  /-- Nothing: it is the root class, but for interfaces. -/
  | unsaid
  /-- That there is none. -/
  | absent
  /-- Which one it is. -/
  | is (base : TypeRef)
  deriving DecidableEq, Repr

/-- How a type is to be declared, but for the types nested inside it. -/
structure TypeHead where
  form : TypeForm := .plainClass
  package : String := ""
  name : String
  keywords : List Keyword := []
  origin : Origin := .ownCode
  base : BaseSpec := .unsaid
  interfaces : List TypeRef := []
  annotations : List Annotation := []
  fields : List FieldSpec := []
  constructors : List CallableSpec := []
  methods : List CallableSpec := []
  deriving DecidableEq, Repr

/-- How a type is to be declared, with the types nested inside it. -/
inductive TypeSpec where
  | mk (head : TypeHead) (nested : List TypeSpec)
  deriving Repr

namespace TypeSpec

def head : TypeSpec → TypeHead
  | mk head _ => head

def nested : TypeSpec → List TypeSpec
  | mk _ nested => nested

end TypeSpec

/-- The full name of the class that all classes extend. -/
def objectName : String := "java.lang.Object"

/-- The full name of the class of texts. -/
def stringName : String := "java.lang.String"

namespace TypeForm

/-- The modifiers that a form brings with it. -/
def modifiers : TypeForm → Modifiers
  | plainClass => .none
  | interface => .ofList [.interface, .abstract]
  | record => .ofList [.record, .final]

/-- The superclass where nothing is said. -/
def defaultBase : TypeForm → Option TypeRef
  | interface => none
  | plainClass | record => some (.ofName objectName)

end TypeForm

/-- The superclass that a specification of a form comes to. -/
def BaseSpec.resolved (form : TypeForm) : BaseSpec → Option TypeRef
  | unsaid => form.defaultBase
  | absent => none
  | .is base => some base

/-- Where a type stands: its package and its name behind those of the types around it. -/
structure Place where
  package : String
  name : String
  deriving DecidableEq, Repr

namespace Place

def fullName (place : Place) : String := qualified place.package place.name

/-- The place of a type of the given name inside. -/
def inside (place : Place) (name : String) : Place :=
  ⟨place.package, place.name ++ "." ++ name⟩

end Place

/-- Where a type stands that is declared at the top or inside a place. -/
def TypeHead.place (around : Option Place) (head : TypeHead) : Place :=
  match around with
  | none => ⟨head.package, head.name⟩
  | some around => around.inside head.name

/-! ### Members -/

/-- What is inconsistent about a constructor. -/
def CallableSpec.constructorFault? (owner : String) (spec : CallableSpec) : Option Inconsistency :=
  if (Modifiers.none.withKeywords .callable spec.keywords).has .static then
    some (.staticConstructor owner)
  else if !spec.returns.isVoid then some (.returningConstructor owner)
  else none

/-- What is inconsistent about a method. -/
def CallableSpec.methodFault? (owner : String) (spec : CallableSpec) : Option Inconsistency :=
  if spec.name = "" then some (.unnamedMethod owner) else none

/-- What is inconsistent about a callable. -/
def CallableSpec.fault? (kind : CallableKind) (owner : String) (spec : CallableSpec) :
    Option Inconsistency :=
  match kind with
  | .method => spec.methodFault? owner
  | .constructor => spec.constructorFault? owner

/-- The name under which a callable is declared. -/
def CallableSpec.declaredName (kind : CallableKind) (spec : CallableSpec) : String :=
  match kind with
  | .method => spec.name
  | .constructor => constructorName

namespace Catalog

/-- Declares fields of an owner, in their order. -/
def declareFields (owner : String) : List FieldSpec → Catalog → List FieldDecl × Catalog
  | [], catalog => ([], catalog)
  | spec :: rest, catalog =>
    let (handle, catalog) := catalog.mint .field
    let (fields, catalog) := declareFields owner rest catalog
    (⟨handle, owner, spec.name, Modifiers.none.withKeywords .field spec.keywords, spec.type,
      spec.annotations⟩ :: fields, catalog)

/-- Declares callables of an owner, in their order, up to the first inconsistent one. -/
def declareCallables (kind : CallableKind) (owner : String) :
    List CallableSpec → Catalog → Except Failure (List CallableDecl) × Catalog
  | [], catalog => (.ok [], catalog)
  | spec :: rest, catalog =>
    match spec.fault? kind owner with
    | some fault => (.error (.inconsistent fault), catalog)
    | none =>
      let (handle, catalog) := catalog.mint kind.handleKind
      let callable : CallableDecl :=
        ⟨handle, owner, kind, spec.declaredName kind,
          Modifiers.none.withKeywords .callable spec.keywords, spec.params, spec.returns,
          spec.annotations⟩
      match declareCallables kind owner rest catalog with
      | (.ok callables, catalog) => (.ok (callable :: callables), catalog)
      | (.error failure, catalog) => (.error failure, catalog)

/-! ### Types -/

/-- Declares a type, but for those nested inside it, of which only the names are entered. -/
def declareHead (around : Option Place) (head : TypeHead) (nestedNames : List String)
    (catalog : Catalog) : Except Failure TypeDecl × Catalog :=
  let place := head.place around
  let owner := place.fullName
  let (fields, catalog) := declareFields owner head.fields catalog
  match declareCallables .constructor owner head.constructors catalog with
  | (.error failure, catalog) => (.error failure, catalog)
  | (.ok constructors, catalog) =>
    match declareCallables .method owner head.methods catalog with
    | (.error failure, catalog) => (.error failure, catalog)
    | (.ok methods, catalog) =>
      let (handle, catalog) := catalog.mint .type
      let type : TypeDecl :=
        { handle
          package := place.package
          name := place.name
          modifiers := head.form.modifiers.withKeywords .type head.keywords
          origin := head.origin
          base := head.base.resolved head.form
          interfaces := head.interfaces
          enclosing := around.map fun around => .ofName around.fullName
          fields
          constructors
          methods
          nested := nestedNames.map fun name => .ofName (place.inside name).fullName
          annotations := head.annotations }
      match catalog.insert? type with
      | .error failure => (.error failure, catalog)
      | .ok grown => (.ok type, grown)

mutual

/-- Declares a type and then the types nested inside it, at the top or inside a place. -/
def declareAt (around : Option Place) : TypeSpec → Catalog → Except Failure TypeDecl × Catalog
  | .mk head nested, catalog =>
    match declareHead around head (nested.map (·.head.name)) catalog with
    | (.error failure, catalog) => (.error failure, catalog)
    | (.ok type, catalog) =>
      match declareNested (head.place around) nested catalog with
      | (.error failure, catalog) => (.error failure, catalog)
      | (.ok (), catalog) => (.ok type, catalog)

/-- Declares the types nested inside a place, up to the first failure. -/
def declareNested (around : Place) : List TypeSpec → Catalog → Except Failure Unit × Catalog
  | [], catalog => (.ok (), catalog)
  | spec :: rest, catalog =>
    match declareAt (some around) spec catalog with
    | (.error failure, catalog) => (.error failure, catalog)
    | (.ok _, catalog) => declareNested around rest catalog

end

/-- Declares a type at the top, and the types nested inside it. -/
def declare (catalog : Catalog) (spec : TypeSpec) : Except Failure TypeDecl × Catalog :=
  declareAt none spec catalog

end Catalog

end ValueAnatomy
