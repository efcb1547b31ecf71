/-
**Providers: what an analysis asks about a program.**

A provider answers questions about types and their members. Only the look-up of a name has no
answer of its own; every other question has one in terms of it and of the declarations, which a
provider that knows better may replace.

* `Members`: what a provider reports about a type, by kind;
* `Catalog.provider`: the provider that answers from a catalog alone.
-/

import ValueAnatomy.Catalog
import ValueAnatomy.Journal

namespace ValueAnatomy

/-- What an analysis asks about a program. -/
structure Provider where
  /-- The type of a full name. -/
  typeByName : String → Option TypeDecl
  /-- The declared type that a reference leads to. -/
  resolve : TypeRef → Option TypeDecl := fun reference => reference.fullName?.bind typeByName
  /-- The declared type that a callable returns. -/
  resolveResult : CallableDecl → Option TypeDecl := fun callable => resolve callable.returns
  /-- Whether two declarations are of the same type. -/
  sameType : TypeDecl → TypeDecl → Bool := TypeDecl.same
  /-- The types nested immediately inside one. -/
  nestedOf : TypeDecl → List TypeDecl := fun type => type.nested.filterMap resolve
  /-- The members of a type: fields, constructors, methods and nested types. -/
  membersOf : TypeDecl → List Declaration := fun type =>
    type.fields.map .field ++ type.constructors.map .constructor ++ type.methods.map .method ++
      (nestedOf type).map .type
  /-- The immediate supertypes of a type, the superclass first. Those that cannot be resolved are
  passed over with a note. -/
  supertypesOf : TypeDecl → Traced (List TypeDecl) := fun type =>
    { value := type.supertypes.filterMap resolve
      notes := (type.supertypes.filter fun reference => (resolve reference).isNone).map
        (.supertypeUnresolved · type.fullName) }
  /-- The type immediately around a nested one. -/
  enclosingOf : TypeDecl → Option TypeDecl := fun type => type.enclosing.bind resolve
  /-- The annotations of a declaration. -/
  annotationsOf : Declaration → List Annotation := Declaration.annotations
  /-- The annotations of a callable's parameter at a position, none where there is no such
  parameter. -/
  paramAnnotationsOf : CallableDecl → Nat → List Annotation := fun callable position =>
    (callable.params[position]?.map (·.annotations)).getD []
  /-- Whether a method of a type is the accessor generated for a component of a structural data
  type: on a record, an instance method without parameters named like an instance field of the same
  erased type. -/
  isPositionalAccessor : TypeDecl → CallableDecl → Bool := fun type method =>
    type.isRecord && method.hasNoParams && !method.isStatic &&
      type.fields.any fun field =>
        !field.isStatic && field.name == method.name && field.type.erased == method.returns.erased

/-- The members of one type by kind, each in the order of declaration. -/
structure Members where
  fields : List FieldDecl
  constructors : List CallableDecl
  methods : List CallableDecl
  nested : List TypeDecl
  deriving DecidableEq, Repr

namespace Declaration

def field? : Declaration → Option FieldDecl
  | field decl => some decl
  | _ => none

def constructor? : Declaration → Option CallableDecl
  | constructor decl => some decl
  | _ => none

def method? : Declaration → Option CallableDecl
  | method decl => some decl
  | _ => none

def type? : Declaration → Option TypeDecl
  | type decl => some decl
  | _ => none

def callable? : Declaration → Option CallableDecl
  | method decl | constructor decl => some decl
  | _ => none

end Declaration

namespace Provider

/-- The members that a provider reports for a type, by kind. -/
def members (provider : Provider) (type : TypeDecl) : Members :=
  let members := provider.membersOf type
  { fields := members.filterMap Declaration.field?
    constructors := members.filterMap Declaration.constructor?
    methods := members.filterMap Declaration.method?
    nested := members.filterMap Declaration.type? }

/-- The immediate supertypes of a type, without the notes. -/
def supertypes (provider : Provider) (type : TypeDecl) : List TypeDecl :=
  (provider.supertypesOf type).value

/-- Whether a callable returns a given type. -/
def returnsType (provider : Provider) (callable : CallableDecl) (type : TypeDecl) : Bool :=
  (provider.resolveResult callable).any (provider.sameType · type)

theorem returnsType_iff {provider : Provider} {callable : CallableDecl} {type : TypeDecl} :
    provider.returnsType callable type = true ↔
      ∃ result, provider.resolveResult callable = some result ∧
        provider.sameType result type = true := by
  simp [returnsType, Option.any_eq_true]

end Provider

/-- The provider that answers from a catalog alone. -/
def Catalog.provider (catalog : Catalog) : Provider where
  typeByName := catalog.findByName?

end ValueAnatomy
