/-
**Sources: the members that properties are made from.**

The fields and accessors of a type are gathered along its ancestry, so that a member stands before
the ones it takes the place of. Types of the platform only say what their members are called: a
member of the program that declares one of these again is no property. For a builder the setters
are gathered too.

* `Sources.sift`: the fields and accessors among the members that are offered, each passed over
  with a note;
* `Provider.membersAlong`, `Provider.settersOf`: those of a type, those of a builder;
* `Provider.sourcesOf`: all that a route calls for.
-/

import ValueAnatomy.Finisher
import ValueAnatomy.Route

namespace ValueAnatomy

/-- The members that properties are made from. -/
structure Sources where
  /-- Instance fields, of each name the first. -/
  fields : List FieldDecl := []
  /-- Accessors, of each signature the first. -/
  getters : List CallableDecl := []
  /-- Setters of the builder, of each name the first. -/
  setters : List CallableDecl := []
  deriving DecidableEq, Repr

/-- What the members of the platform are called. -/
structure PlatformPool where
  fieldNames : List String
  /-- Names and erased parameters of methods. -/
  overrideKeys : List String
  deriving DecidableEq, Repr

/-- A member offered on the way, with the type that offers it. -/
inductive Offer where
  | field (field : FieldDecl)
  | method (owner : TypeDecl) (method : CallableDecl)
  deriving DecidableEq, Repr

namespace Provider

/-- Whether a method of a type reads a property. -/
def isAccessor (provider : Provider) (settings : Settings) (owner : TypeDecl)
    (method : CallableDecl) : Bool :=
  !method.isPrivate && !method.returns.isVoid && method.hasNoParams && !method.isSynthetic &&
    !settings.isExcludedAccessor method.name && !provider.isPositionalAccessor owner method

/-- What the members of the platform's types among the given ones are called. -/
def platformPool (provider : Provider) (settings : Settings) (walk : List TypeDecl) :
    PlatformPool :=
  let members := (walk.filter settings.isPlatform).map provider.members
  { fieldNames := members.flatMap fun members => members.fields.map (·.name)
    overrideKeys := members.flatMap fun members => members.methods.map (·.overrideKey) }

def ownTypes (settings : Settings) (walk : List TypeDecl) : List TypeDecl :=
  walk.filter fun type => !settings.isPlatform type

/-- The fields and methods of the types that are not of the platform, type by type. -/
def offers (provider : Provider) (settings : Settings) (walk : List TypeDecl) : List Offer :=
  (ownTypes settings walk).flatMap fun type =>
    let members := provider.members type
    members.fields.map .field ++ members.methods.map (.method type)

/-- The fields and accessors among the offers. An instance member is claimed by the first offer of
its name or signature, unless the platform has it; a claim holds also where a method then turns out
to read no property. -/
def sift (provider : Provider) (settings : Settings) (pool : PlatformPool) :
    (claimedFields claimedMethods : List String) → List Offer →
      Traced (List FieldDecl × List CallableDecl)
  | _, _, [] => pure ([], [])
  | claimedFields, claimedMethods, .field field :: rest =>
    if field.isStatic then provider.sift settings pool claimedFields claimedMethods rest
    else if field.name ∈ pool.fieldNames then do
      Traced.note (.hidesPlatformField field.owner field.name)
      provider.sift settings pool claimedFields claimedMethods rest
    else if field.name ∈ claimedFields then do
      Traced.note (.fieldShadowed field.owner field.name)
      provider.sift settings pool claimedFields claimedMethods rest
    else do
      let (fields, getters) ←
        provider.sift settings pool (field.name :: claimedFields) claimedMethods rest
      pure (field :: fields, getters)
  | claimedFields, claimedMethods, .method owner method :: rest =>
    if method.isStatic then provider.sift settings pool claimedFields claimedMethods rest
    else if method.overrideKey ∈ pool.overrideKeys then do
      Traced.note (.overridesPlatformMethod method.owner method.overrideKey)
      provider.sift settings pool claimedFields claimedMethods rest
    else if method.overrideKey ∈ claimedMethods then do
      Traced.note (.methodOverridden method.owner method.name)
      provider.sift settings pool claimedFields claimedMethods rest
    else if provider.isAccessor settings owner method then do
      let (fields, getters) ←
        provider.sift settings pool claimedFields (method.overrideKey :: claimedMethods) rest
      pure (fields, method :: getters)
    else do
      Traced.note (.notAccessor method.owner method.name)
      provider.sift settings pool claimedFields (method.overrideKey :: claimedMethods) rest

/-- The fields and accessors of a type and of everything above it. -/
def membersAlong (provider : Provider) (settings : Settings) (type : TypeDecl) :
    Attempt (List FieldDecl × List CallableDecl) := do
  let walk ← provider.ancestry type
  Attempt.ofTraced (provider.sift settings (provider.platformPool settings walk) [] []
    (provider.offers settings walk))

/-- Whether a method is a setter of a builder with the given ancestry: not private, of instances,
with one parameter, and returning one of these types. -/
def isSetter (provider : Provider) (ancestry : List TypeDecl) (method : CallableDecl) : Bool :=
  !method.isPrivate && !method.isStatic && method.params.length == 1 &&
    (provider.resolveResult method).any fun result => ancestry.any (provider.sameType result ·)

/-- The setters of a builder and of everything above it, of each name the first. -/
def settersOf (provider : Provider) (settings : Settings) (builder : TypeDecl) :
    Attempt (List CallableDecl) := do
  let own := ownTypes settings (← provider.ancestry builder)
  let setters := (own.flatMap fun type => (provider.members type).methods).filter
    (provider.isSetter own)
  Attempt.ofTraced
    { value := firstOfEach CallableDecl.name setters
      notes := (repeatsOfEach CallableDecl.name setters).map fun setter =>
        .setterOverridden setter.owner setter.name }

/-- The members that the properties along a route are made from: fields and accessors of its
target, and setters of its builder. -/
def sourcesOf (provider : Provider) (settings : Settings) (route : Route) : Attempt Sources := do
  let (fields, getters) ← provider.membersAlong settings route.target
  let setters ←
    match route.builder? with
    | some builder => provider.settersOf settings builder
    | none => pure []
  pure { fields, getters, setters }

end Provider

end ValueAnatomy
