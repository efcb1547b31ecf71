/-
**Finishers: the method of a builder that yields the built value.**

A method may finish a builder if it is an instance method without parameters, not private, whose
result is a declared type other than the builder and not of the platform. Where there is none, one
that returns the type around the builder may stand in. Among several, the only one named with a
build verb is taken; otherwise none is.

* `sole?`: the only item of a list;
* `Provider.visibleMethods`: the methods of a type and of everything above it, each standing for
  those it takes the place of;
* `Provider.finisher?`: the method that finishes a builder.
-/

import ValueAnatomy.Ancestry
import ValueAnatomy.FirstOfEach
import ValueAnatomy.Settings

namespace ValueAnatomy

/-- The item of a list that has only one. -/
def sole? {α : Type} : List α → Option α
  | [only] => some only
  | _ => none

theorem sole?_eq_some_iff {α : Type} {items : List α} {item : α} :
    sole? items = some item ↔ items = [item] := by
  match items with
  | [] => simp [sole?]
  | [only] => simp [sole?]
  | _ :: _ :: _ => simp [sole?]

namespace Provider

/-- The methods of a type and of everything above it, without those whose place another takes. -/
def visibleMethods (provider : Provider) (type : TypeDecl) : Attempt (List CallableDecl) := do
  let walk ← provider.ancestry type
  pure (firstOfEach CallableDecl.overrideKey (walk.flatMap fun above =>
    (provider.members above).methods))

/-- Whether the result of a method, as written, can be what a builder builds. -/
def namesBuilt (settings : Settings) (method : CallableDecl) : Bool :=
  !method.returns.isVoid && !method.returns.isPrimitive && !settings.isPlatformRef method.returns

/-- Whether the result of a method is what a builder builds: a declared type, not the builder and
not of the platform. -/
def yieldsBuilt (provider : Provider) (settings : Settings) (builder : TypeDecl)
    (method : CallableDecl) : Bool :=
  namesBuilt settings method &&
    (provider.resolveResult method).any fun result =>
      !provider.sameType result builder && !settings.isPlatform result

/-- The note that the result of a method cannot be resolved, where it matters. -/
def unresolvedNote? (provider : Provider) (settings : Settings) (method : CallableDecl) :
    Option Note :=
  if namesBuilt settings method && (provider.resolveResult method).isNone then
    some (.resultUnresolved method.returns method.owner method.name)
  else none

/-- The methods that may finish a builder by their form: open, of instances, without
parameters. -/
def finishingForm (methods : List CallableDecl) : List CallableDecl :=
  selectCallables [.nonPrivate, .onInstance, .noParams] methods

/-- Those of the methods that may finish a builder. -/
def possibleFinishers (provider : Provider) (settings : Settings) (builder : TypeDecl)
    (methods : List CallableDecl) : Traced (List CallableDecl) :=
  { value := methods.filter (provider.yieldsBuilt settings builder)
    notes := methods.filterMap (provider.unresolvedNote? settings) }

/-- The methods that may stand in for a finisher: those that return the type around the builder. -/
def enclosingFinishers (provider : Provider) (builder : TypeDecl) (methods : List CallableDecl) :
    List CallableDecl :=
  match provider.enclosingOf builder with
  | none => []
  | some enclosing => methods.filter (provider.returnsType · enclosing)

/-- The only one of several methods, or the only one of them named with a build verb. -/
def preferredFinisher? (settings : Settings) (candidates : List CallableDecl) :
    Option CallableDecl :=
  (sole? candidates).or (sole? (candidates.filter fun method => settings.isBuildVerb method.name))

/-- The choice among the methods that may finish a builder, with a note where there is none. -/
def chooseFinisher (settings : Settings) (builder : TypeDecl) (candidates : List CallableDecl) :
    Traced (Option CallableDecl) :=
  match preferredFinisher? settings candidates with
  | some method => pure (some method)
  | none => do
    let conventional := candidates.filter fun method => settings.isBuildVerb method.name
    Traced.note (.severalFinishers candidates.length builder.fullName conventional.length)
    pure none

/-- The method that finishes a builder, if there is one. -/
def finisher? (provider : Provider) (settings : Settings) (builder : TypeDecl) :
    Attempt (Option CallableDecl) := do
  let methods := finishingForm (← provider.visibleMethods builder)
  let possible ← Attempt.ofTraced (provider.possibleFinishers settings builder methods)
  let candidates :=
    if possible.isEmpty then provider.enclosingFinishers builder methods else possible
  if candidates.isEmpty then do
    Attempt.note (.noFinisher builder.fullName)
    pure none
  else Attempt.ofTraced (chooseFinisher settings builder candidates)

end Provider

end ValueAnatomy
