/-
**Properties: what an instance consists of.**

A property comes from exactly one declaration: a field, an accessor, a parameter of what the route
starts with, or the parameter of a builder's setter. Its key is that of the declaration, so that
properties of one name but from different declarations differ.

* `PropertySource`: the declaration a property comes from, with its logical name;
* `Property.key`, `Property.same`: by what two properties are the same;
* `PropertySet`: the properties of a type, one canonical list and a list for each kind.
-/

import ValueAnatomy.FirstOfEach
import ValueAnatomy.TypeDecl

namespace ValueAnatomy

/-- What a property comes from, in the order of keys. -/
inductive PropertyKind where
  | field | getter | constructorParam | builderParam
  deriving DecidableEq, Repr

namespace PropertyKind

def name : PropertyKind → String
  | field => "Field"
  | getter => "Getter"
  | constructorParam => "ConstructorParam"
  | builderParam => "BuilderParam"

def rank : PropertyKind → Nat
  | field => 0
  | getter => 1
  | constructorParam => 2
  | builderParam => 3

end PropertyKind

/-- What identifies a property. -/
structure PropertyKey where
  kind : PropertyKind
  /-- The key of the declaration. -/
  member : DeclKey
  /-- The position of a parameter. -/
  position : Option Nat
  deriving DecidableEq, Repr

namespace PropertyKey

/-- The place of a position in the order of keys: none comes first. -/
def positionRank (position : Option Nat) : Nat :=
  match position with
  | none => 0
  | some position => position + 1

/-- Keys are compared by kind, then declaration, then position. -/
def compare (first second : PropertyKey) : Ordering :=
  (compareOn PropertyKind.rank first.kind second.kind).then <|
    (DeclKey.compare first.member second.member).then <|
      compareOn positionRank first.position second.position

/-- Whether a key stands before another or at the same place. -/
def precedes (first second : PropertyKey) : Bool :=
  (compare first second).isLE

end PropertyKey

/-- The declaration that a property comes from. -/
inductive PropertySource where
  | field (field : FieldDecl)
  /-- An accessor, with the property's name. -/
  | getter (method : CallableDecl) (name : String)
  /-- A parameter of a constructor or factory, by its position. -/
  | constructorParam (callable : CallableDecl) (position : Nat)
  /-- The first parameter of a setter, named after the setter. -/
  | builderParam (setter : CallableDecl)
  deriving DecidableEq, Repr

namespace PropertySource

def kind : PropertySource → PropertyKind
  | field _ => .field
  | getter _ _ => .getter
  | constructorParam _ _ => .constructorParam
  | builderParam _ => .builderParam

def name : PropertySource → String
  | field decl => decl.name
  | getter _ name => name
  | constructorParam callable position => (callable.params[position]?.map (·.name)).getD ""
  | builderParam setter => setter.name

/-- The name that the declaration is written with. -/
def writtenName : PropertySource → String
  | getter method _ => method.name
  | other => other.name

def type : PropertySource → TypeRef
  | field decl => decl.type
  | getter method _ => method.returns
  | constructorParam callable position => (callable.params[position]?.map (·.type)).getD .void
  | builderParam setter => (setter.params.head?.map (·.type)).getD .void

def element : PropertySource → Declaration
  | field decl => .field decl
  | getter method _ => .method method
  | constructorParam callable _ => .ofCallable callable
  | builderParam setter => .method setter

def ownAnnotations : PropertySource → List Annotation
  | field decl => decl.annotations
  | getter method _ => method.annotations
  | constructorParam callable position =>
    (callable.params[position]?.map (·.annotations)).getD []
  | builderParam setter => (setter.params.head?.map (·.annotations)).getD []

def isParam : PropertySource → Bool
  | constructorParam _ _ | builderParam _ => true
  | field _ | getter _ _ => false

def key : PropertySource → PropertyKey
  | field decl => ⟨.field, decl.key, none⟩
  | getter method _ => ⟨.getter, method.key, none⟩
  | constructorParam callable position => ⟨.constructorParam, callable.key, some position⟩
  | builderParam setter => ⟨.builderParam, setter.key, some 0⟩

theorem kind_key (source : PropertySource) : source.key.kind = source.kind := by
  cases source <;> rfl

end PropertySource

/-- A named and typed part of an instance. -/
structure Property where
  /-- The declaration it comes from. -/
  source : PropertySource
  annotations : List Annotation
  deriving DecidableEq, Repr

namespace Property

/-- The property of a declaration with the annotations written there. -/
def ofSource (source : PropertySource) : Property := ⟨source, source.ownAnnotations⟩

def name (property : Property) : String := property.source.name

def key (property : Property) : PropertyKey := property.source.key

def same (first second : Property) : Bool := first.key == second.key

/-- The property as shown: its name and its type. -/
def text (property : Property) : String := property.name ++ ": " ++ property.source.type.text

end Property

/-- The properties of a type. -/
structure PropertySet where
  /-- The canonical list. -/
  all : List Property := []
  /-- The parameters of what the route starts with. -/
  constructorParams : List Property := []
  /-- The parameters of the builder's setters. -/
  builderParams : List Property := []
  /-- The readable fields. -/
  fields : List Property := []
  getters : List Property := []
  deriving DecidableEq, Repr

namespace PropertySet

def params (set : PropertySet) : List Property := set.constructorParams ++ set.builderParams

/-- The first property of a name in the canonical list. -/
def find? (set : PropertySet) (name : String) : Option Property :=
  set.all.find? (·.name == name)

def names (set : PropertySet) : List String := set.all.map (·.name)

/-- The keys of fields, accessors and of the canonical list, each once and in their order. -/
def sortedKeys (set : PropertySet) : List PropertyKey :=
  (firstOfEach id ((set.fields ++ set.getters ++ set.all).map (·.key))).mergeSort
    PropertyKey.precedes

def same (first second : PropertySet) : Bool :=
  first.all.map (·.key) == second.all.map (·.key)

end PropertySet

end ValueAnatomy
