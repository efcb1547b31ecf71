/-
**Merging sources into properties.**

The parameters of what a route starts with, the setters of its builder, and the fields and accessors
of its target speak of the same properties where they have the same name. Merging them

1. names the accessors, all without their lead if every one follows a convention, else all as
   written;
2. drops setters named like a parameter;
3. drops accessors of fields that are not persisted;
4. drops fields that are private, not persisted, or read by an accessor that is left;
5. gives every property the annotations of all sources of its name, in which no instance may occur
   twice;
6. lists parameters and setters, then the fields, then the accessors whose names are not listed yet.

* `Merge.Drafts`: the sources as properties, before anything is merged;
* `Merge.duplicates`: what is wrong with the annotations;
* `Provider.merge`: the whole.
-/

import ValueAnatomy.Property
import ValueAnatomy.Report
import ValueAnatomy.Sources

namespace ValueAnatomy

namespace Merge

/-! ### Names -/

/-- The property name of an accessor by the first convention that it follows. -/
def strippedName? (settings : Settings) (getter : CallableDecl) : Option String :=
  settings.conventions.findSome? fun convention =>
    convention.strip getter.name getter.returns settings.minStrippedLength

/-- Whether every accessor follows a convention. -/
def allStripped (settings : Settings) (getters : List CallableDecl) : Bool :=
  getters.all fun getter => (strippedName? settings getter).isSome

/-- The property name of an accessor, without its lead or as written. -/
def logicalName (settings : Settings) (stripping : Bool) (getter : CallableDecl) : String :=
  if stripping then (strippedName? settings getter).getD getter.name else getter.name

/-! ### Drafts -/

/-- The sources as properties, each with the annotations of its own declaration. -/
structure Drafts where
  /-- The parameters of what the route starts with. -/
  params : List Property
  /-- The setters not named like a parameter. -/
  setters : List Property
  /-- All fields. -/
  fields : List Property
  /-- All accessors. -/
  getters : List Property
  deriving DecidableEq, Repr

/-- The property of a declaration with the annotations that a provider reports for it. -/
def draft (provider : Provider) (source : PropertySource) : Property where
  source
  annotations :=
    match source with
    | .field field => provider.annotationsOf (.field field)
    | .getter method _ => provider.annotationsOf (.method method)
    | .constructorParam callable position => provider.paramAnnotationsOf callable position
    | .builderParam setter => provider.paramAnnotationsOf setter 0

def paramSources (callable : CallableDecl) : List PropertySource :=
  (List.range callable.params.length).map (.constructorParam callable)

/-- Whether a setter is named like a parameter of what the route starts with. -/
def namesParam (route : Route) (setter : CallableDecl) : Bool :=
  route.params.any (·.name == setter.name)

/-- The sources of a route as properties. -/
def drafts (provider : Provider) (settings : Settings) (route : Route) (sources : Sources) :
    Drafts :=
  let stripping := allStripped settings sources.getters
  { params := (paramSources route.callable).map (draft provider)
    setters := (sources.setters.filter (!namesParam route ·)).map fun setter =>
      draft provider (.builderParam setter)
    fields := sources.fields.map fun field => draft provider (.field field)
    getters := sources.getters.map fun getter =>
      draft provider (.getter getter (logicalName settings stripping getter)) }

/-- What is noted on the way to the drafts. -/
def draftNotes (settings : Settings) (route : Route) (sources : Sources) : List Note :=
  (if allStripped settings sources.getters then [] else [.namesKept]) ++
    (sources.setters.filter (namesParam route)).map fun setter => .setterDuplicatesParam setter.name

namespace Drafts

def sources (drafts : Drafts) : List Property :=
  drafts.params ++ drafts.setters ++ drafts.fields ++ drafts.getters

def names (drafts : Drafts) : List String :=
  firstOfEach id (drafts.sources.map (·.name))

/-- The sources of one name. -/
def group (drafts : Drafts) (name : String) : List Property :=
  drafts.sources.filter (·.name == name)

/-! ### Survivors -/

def isTransient (property : Property) : Bool :=
  match property.source with
  | .field field => field.isTransient
  | _ => false

def isPrivate (property : Property) : Bool :=
  match property.source with
  | .field field => field.isPrivate
  | _ => false

/-- The accessors that are left: those of no field that is not persisted. -/
def keptGetters (drafts : Drafts) : List Property :=
  drafts.getters.filter fun getter =>
    !(drafts.fields.any fun field => isTransient field && field.name == getter.name)

/-- The fields that are left: readable, persisted, and not read by an accessor that is left. -/
def keptFields (drafts : Drafts) : List Property :=
  drafts.fields.filter fun field =>
    !isPrivate field && !isTransient field &&
      !(drafts.keptGetters.any fun getter => getter.name == field.name)

/-! ### Annotations -/

/-- The annotations of the sources of one name, each with its source. -/
def occurrences (drafts : Drafts) (name : String) : List (Property × Annotation) :=
  (drafts.group name).flatMap fun property =>
    property.annotations.map fun attached => (property, attached)

/-- The handle of the annotation that occurs. -/
def occurring (occurrence : Property × Annotation) : Handle := occurrence.2.handle

/-- The annotations of a property: those of all sources of its name. -/
def annotationsFor (drafts : Drafts) (name : String) : List Annotation :=
  (firstOfEach occurring (drafts.occurrences name)).map (·.2)

/-- The problem that an annotation occurs once more. -/
def duplicate (name : String) (occurrence : Property × Annotation) : Problem where
  kind := .annotatedTwice
  message := occurrence.2.text ++ " appears more than once on property '" ++ name ++ "'"
  element := some occurrence.1.source.element

/-- The problems with the annotations of one name. -/
def duplicatesFor (drafts : Drafts) (name : String) : List Problem :=
  (repeatsOfEach occurring (drafts.occurrences name)).map (duplicate name)

/-- The problems with the annotations, name by name. -/
def duplicates (drafts : Drafts) : List Problem :=
  drafts.names.flatMap drafts.duplicatesFor

/-- A property with the annotations of all sources of its name. -/
def annotated (drafts : Drafts) (property : Property) : Property :=
  { property with annotations := drafts.annotationsFor property.name }

end Drafts

/-! ### The canonical list -/

/-- A list and behind it those of further properties whose names are not in it, of each name the
first. -/
def extended (listed further : List Property) : List Property :=
  listed ++ firstOfEach Property.name
    (further.filter fun property => !(listed.any (·.name == property.name)))

/-- The properties that drafts come to. -/
def Drafts.merged (drafts : Drafts) : PropertySet :=
  let params := drafts.params.map drafts.annotated
  let setters := drafts.setters.map drafts.annotated
  let fields := drafts.keptFields.map drafts.annotated
  let getters := drafts.keptGetters.map drafts.annotated
  { all := extended (extended (params ++ setters) fields) getters
    constructorParams := params
    builderParams := setters
    fields
    getters }

end Merge

/-- The properties along a route, merged from the given sources. -/
def Provider.merge (provider : Provider) (settings : Settings) (route : Route)
    (sources : Sources) : Attempt PropertySet := do
  let drafts := Merge.drafts provider settings route sources
  Attempt.ofTraced (.noteAll (Merge.draftNotes settings route sources))
  match Report.verdict settings.reportMode drafts.duplicates with
  | .error failure => .fail failure
  | .ok () => pure drafts.merged

/-- The properties along a route. -/
def Provider.propertiesAlong (provider : Provider) (settings : Settings) (route : Route) :
    Attempt PropertySet := do
  let sources ← provider.sourcesOf settings route
  provider.merge settings route sources

end ValueAnatomy
