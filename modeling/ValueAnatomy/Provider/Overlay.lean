/-
**Overlays: a provider that answers some questions in another way.**

An overlay over a catalog hides types or members, gives names other meanings, adds supertypes, takes
other types for the same, or reports other annotations. Whatever it does not speak of is answered
as the catalog answers it; references are resolved through the overlay's own look-up of names.

* `Overlay`: what is answered in another way;
* `Catalog.providerUnder`: the catalog seen through an overlay.
-/

import ValueAnatomy.Provider
import ValueAnatomy.Settings

namespace ValueAnatomy

/-- When two declarations are taken for the same type. -/
inductive TypeIdentity where
  | byHandle
  | bySimpleName
  | always
  | never
  deriving DecidableEq, Repr

/-- Whether two declarations are taken for the same type. -/
def TypeIdentity.same (identity : TypeIdentity) (first second : TypeDecl) : Bool :=
  match identity with
  | byHandle => first.same second
  | bySimpleName => first.name == second.name
  | always => true
  | never => false

/-- What is answered in another way than by the catalog. -/
structure Overlay where
  /-- Full names that lead nowhere. -/
  hiddenTypes : List String := []
  /-- Full names that stand for others. -/
  aliases : List (String × String) := []
  /-- When two declarations are taken for the same type. -/
  identity : TypeIdentity := .byHandle
  /-- How the names of hidden fields begin. -/
  hiddenFields : Option String := none
  /-- How the names of hidden methods begin. -/
  hiddenMethods : Option String := none
  /-- How the full names of hidden nested types begin. -/
  hiddenNested : Option String := none
  /-- Whether constructors are hidden. -/
  hidesConstructors : Bool := false
  /-- Whether members are reported in the opposite order. -/
  reversesMembers : Bool := false
  /-- The full names of further supertypes of the type of a full name. -/
  furtherSupertypes : List (String × List String) := []
  /-- The full name of the type around the type of a full name. -/
  enclosing : List (String × String) := []
  /-- The annotations of every declaration of a kind. -/
  annotations : List (DeclKind × List Annotation) := []
  /-- The annotations of every parameter. -/
  paramAnnotations : Option (List Annotation) := none
  /-- Whether every method is a positional accessor, or none is. -/
  positional : Option Bool := none

namespace Overlay

/-- Whether a name begins as those of hidden declarations do. -/
def startsHidden (name : String) (hidden : Option String) : Bool :=
  hidden.any (startsWith name)

def hides (overlay : Overlay) : Declaration → Bool
  | .type type => startsHidden type.fullName overlay.hiddenNested
  | .field field => startsHidden field.name overlay.hiddenFields
  | .method method => startsHidden method.name overlay.hiddenMethods
  | .constructor _ => overlay.hidesConstructors

/-- The members that are reported in place of others. -/
def reported (overlay : Overlay) (members : List Declaration) : List Declaration :=
  let shown := members.filter fun member => !overlay.hides member
  if overlay.reversesMembers then shown.reverse else shown

/-- The type that a full name leads to in a catalog. -/
def findByName? (overlay : Overlay) (catalog : Catalog) (fullName : String) : Option TypeDecl :=
  if fullName ∈ overlay.hiddenTypes then none
  else catalog.findByName? ((overlay.aliases.lookup fullName).getD fullName)

end Overlay

/-- The catalog seen through an overlay. -/
def Catalog.providerUnder (catalog : Catalog) (overlay : Overlay) : Provider where
  typeByName := overlay.findByName? catalog
  sameType := overlay.identity.same
  membersOf type := overlay.reported (catalog.provider.membersOf type)
  supertypesOf type := do
    let declared ← catalog.provider.supertypesOf type
    let further := (overlay.furtherSupertypes.lookup type.fullName).getD []
    pure (declared ++ further.filterMap catalog.findByName?)
  enclosingOf type :=
    match overlay.enclosing.lookup type.fullName with
    | some fullName => catalog.findByName? fullName
    | none => catalog.provider.enclosingOf type
  annotationsOf element := (overlay.annotations.lookup element.kind).getD element.annotations
  paramAnnotationsOf callable position :=
    overlay.paramAnnotations.getD (catalog.provider.paramAnnotationsOf callable position)
  isPositionalAccessor type method :=
    overlay.positional.getD (catalog.provider.isPositionalAccessor type method)

end ValueAnatomy
