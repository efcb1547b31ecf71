/-
**Providers that mirror each other lead to corresponding properties.**

Members are gathered along walks that correspond, claimed by keys that are the same on both sides,
and merged by names and annotations. So related routes have properties of the same keys, names and
annotations in every list, or fail with the same problems in the same order.

* `Anatomy.outline`: what is told of an anatomy, without any handle;
* `Provider.Mirrors.sourcesOf`: related routes call for alike sources;
* `Merge.Drafts.Alike.merged`, `Merge.Drafts.Alike.outline_duplicates`: alike drafts come to alike
  properties, or to the same problems;
* `Provider.Mirrors.outlineOf_anatomy`: of related types the same is told.
-/

import ValueAnatomy.Proofs.Mirror.Routes
import ValueAnatomy.Proofs.Session.Independence
import ValueAnatomy.Proofs.Sources.MostSpecific

namespace ValueAnatomy

variable {related : TypeDecl → TypeDecl → Prop}

/-! ### What is told -/

/-- What is told of a property. -/
structure PropertyOutline where
  key : PropertyKey
  name : String
  annotations : List Annotation
  deriving DecidableEq, Repr

def Property.outline (property : Property) : PropertyOutline :=
  ⟨property.key, property.name, property.annotations⟩

/-- What is told of an anatomy: how its route leads where, and each list of its properties. -/
structure AnatomyOutline where
  shape : RouteShape
  /-- The full name of the target. -/
  target : String
  element : DeclKey
  finisher : Option DeclKey
  all : List PropertyOutline
  constructorParams : List PropertyOutline
  builderParams : List PropertyOutline
  fields : List PropertyOutline
  getters : List PropertyOutline
  deriving DecidableEq, Repr

/-- What is told of an anatomy, without any handle of a declaration. -/
def Anatomy.outline (anatomy : Anatomy) : AnatomyOutline where
  shape := anatomy.route.shape
  target := anatomy.route.target.fullName
  element := anatomy.route.element.key
  finisher := anatomy.route.finisher?.map CallableDecl.key
  all := anatomy.properties.all.map Property.outline
  constructorParams := anatomy.properties.constructorParams.map Property.outline
  builderParams := anatomy.properties.builderParams.map Property.outline
  fields := anatomy.properties.fields.map Property.outline
  getters := anatomy.properties.getters.map Property.outline

/-- What is told of the outcome of an analysis. -/
def outlineOf (outcome : Except Failure Anatomy) :
    Except (List ProblemOutline ⊕ Failure) AnatomyOutline :=
  (outcome.map Anatomy.outline).mapError Failure.outline

theorem Property.Alike.outline_eq {first second : Property} (alike : first.Alike second) :
    first.outline = second.outline := by
  have key : first.key = second.key := alike.source.key_eq
  rw [outline, outline, key, alike.name_eq, alike.annotations]

/-- Two property sets are alike list by list. -/
structure PropertySet.Alike (first second : PropertySet) : Prop where
  all : List.Forall₂ Property.Alike first.all second.all
  constructorParams : List.Forall₂ Property.Alike first.constructorParams second.constructorParams
  builderParams : List.Forall₂ Property.Alike first.builderParams second.builderParams
  fields : List.Forall₂ Property.Alike first.fields second.fields
  getters : List.Forall₂ Property.Alike first.getters second.getters

/-- Two anatomies have routes that mirror each other and alike properties. -/
structure Anatomy.Mirrors (related : TypeDecl → TypeDecl → Prop) (first second : Anatomy) :
    Prop where
  route : first.route.Mirrors related second.route
  properties : first.properties.Alike second.properties

/-- Of anatomies that mirror each other the same is told, if their targets are called the same. -/
theorem Anatomy.Mirrors.outline_eq {first second : Anatomy}
    (mirrors : first.Mirrors related second)
    (target : first.route.target.fullName = second.route.target.fullName) :
    first.outline = second.outline := by
  obtain ⟨route, properties⟩ := mirrors
  have told {properties others : List Property}
      (alike : List.Forall₂ Property.Alike properties others) :
      properties.map Property.outline = others.map Property.outline :=
    alike.map_eq fun _ _ pair => pair.outline_eq
  unfold Anatomy.outline
  rw [route.shape_eq, target, route.element_key_eq,
    route.finisher?_alike.map_eq fun _ _ finishers => finishers.key_eq, told properties.all,
    told properties.constructorParams, told properties.builderParams, told properties.fields,
    told properties.getters]

/-- Two collections of sources are alike. -/
structure Sources.Alike (first second : Sources) : Prop where
  fields : List.Forall₂ FieldDecl.Alike first.fields second.fields
  getters : List.Forall₂ CallableDecl.Alike first.getters second.getters
  setters : List.Forall₂ CallableDecl.Alike first.setters second.setters

namespace Provider.Mirrors

variable {first second : Provider} (mirrors : Mirrors related first second) {a b : TypeDecl}
  {settings : Settings}

include mirrors

/-! ### Sources -/

theorem ownTypes (settings : Settings) {order orderToo : List TypeDecl}
    (orders : List.Forall₂ related order orderToo) :
    List.Forall₂ related (Provider.ownTypes settings order) (Provider.ownTypes settings orderToo) :=
  orders.filter fun _ _ pair => congrArg (!·) (mirrors.isPlatform_eq settings pair)

/-- The platform calls its members the same on both sides. -/
theorem platformPool_eq {order orderToo : List TypeDecl}
    (orders : List.Forall₂ related order orderToo) :
    first.platformPool settings order = second.platformPool settings orderToo := by
  have members : List.Forall₂ (Members.Mirrors related)
      ((order.filter settings.isPlatform).map first.members)
      ((orderToo.filter settings.isPlatform).map second.members) :=
    List.rel_map (fun _ _ pair => mirrors.members pair)
      (orders.filter fun _ _ pair => mirrors.isPlatform_eq settings pair)
  have fieldNames := members.map_eq fun _ _ pair =>
    pair.fields.map_eq fun _ _ alike => alike.name_eq
  have overrideKeys := members.map_eq fun _ _ pair =>
    pair.methods.map_eq fun _ _ alike => alike.overrideKey_eq
  unfold Provider.platformPool
  simp only [List.flatMap_def, fieldNames, overrideKeys]

omit mirrors in
theorem isAccessor_eq {method other : CallableDecl} (alike : method.Alike other)
    (positional : first.isPositionalAccessor a method = second.isPositionalAccessor b other) :
    first.isAccessor settings a method = second.isAccessor settings b other := by
  have form := alike.congr (fun method => !method.isPrivate && !method.returns.isVoid &&
    method.hasNoParams && !method.isSynthetic && !settings.isExcludedAccessor method.name)
    fun _ => rfl
  rw [Provider.isAccessor, Provider.isAccessor, positional, form]

theorem instanceFields (pair : related a b) :
    List.Forall₂ FieldDecl.Alike (first.instanceFields a) (second.instanceFields b) :=
  (mirrors.members pair).fields.filter fun _ _ alike => congrArg (!·) alike.isStatic_eq

/-- The methods of instances are alike, and the same ones read properties. -/
theorem instanceMethods (settings : Settings) (pair : related a b) :
    List.Forall₂ (fun method other => method.Alike other ∧
        first.isAccessor settings a method = second.isAccessor settings b other)
      (first.instanceMethods a) (second.instanceMethods b) := by
  have methods := (mirrors.members pair).methods.and (mirrors.positional pair)
  refine (methods.filter fun _ _ pairs => congrArg (!·) pairs.1.isStatic_eq).imp ?_
  exact fun _ _ pairs => ⟨pairs.1, isAccessor_eq pairs.1 pairs.2⟩

omit mirrors in
/-- The members that are the first of their keys are alike, each on the type that declares it. -/
theorem claimed {α : Type} {alike : TypeDecl × α → TypeDecl × α → Prop} {key : α → String}
    {members membersToo : TypeDecl → List α} {types typesToo : List TypeDecl}
    (pairs : List.Forall₂ related types typesToo)
    (declared : ∀ a b, related a b → List.Forall₂ (fun item other => alike (a, item) (b, other))
      (members a) (membersToo b))
    (sameKey : ∀ entry other, alike entry other → key entry.2 = key other.2) :
    List.Forall₂ alike (ValueAnatomy.claimed key members types)
      (ValueAnatomy.claimed key membersToo typesToo) := by
  refine List.Forall₂.firstOfEach (List.rel_flatMap pairs fun a b pair => ?_) sameKey
  rw [List.forall₂_map_left_iff, List.forall₂_map_right_iff]
  exact declared a b pair

/-- Along related types alike fields and accessors are gathered. -/
theorem gathered {order orderToo : List TypeDecl} (orders : List.Forall₂ related order orderToo) :
    List.Forall₂ FieldDecl.Alike (first.gathered settings order).1
        (second.gathered settings orderToo).1 ∧
      List.Forall₂ CallableDecl.Alike (first.gathered settings order).2
        (second.gathered settings orderToo).2 := by
  have own := mirrors.ownTypes settings orders
  have fields := @claimed _ _ (fun entry other => entry.2.Alike other.2) FieldDecl.name _ _ _ _ own
    (fun _ _ pair => mirrors.instanceFields pair) fun _ _ alike => alike.name_eq
  have methods := @claimed _ _ (fun entry other => entry.2.Alike other.2 ∧
      first.isAccessor settings entry.1 entry.2 = second.isAccessor settings other.1 other.2)
    CallableDecl.overrideKey _ _ _ _ own
    (fun _ _ pair => mirrors.instanceMethods settings pair) fun _ _ pairs => pairs.1.overrideKey_eq
  unfold Provider.gathered
  rw [mirrors.platformPool_eq orders]
  dsimp only
  constructor
  · rw [List.forall₂_map_left_iff, List.forall₂_map_right_iff]
    exact fields.filter fun _ _ alike => by rw [alike.name_eq]
  · rw [List.forall₂_map_left_iff, List.forall₂_map_right_iff]
    refine List.Forall₂.imp (fun _ _ pairs => pairs.1) (methods.filter fun _ _ pairs => ?_)
    rw [pairs.1.overrideKey_eq, pairs.2]

theorem membersAlong (settings : Settings) (pair : related a b) :
    Corresponds (fun gathered other => List.Forall₂ FieldDecl.Alike gathered.1 other.1 ∧
        List.Forall₂ CallableDecl.Alike gathered.2 other.2)
      (first.membersAlong settings a).result (second.membersAlong settings b).result := by
  rw [result_membersAlong, result_membersAlong]
  exact (mirrors.ancestry pair).map fun _ _ orders => mirrors.gathered orders

theorem isSetter_eq {order orderToo : List TypeDecl} (orders : List.Forall₂ related order orderToo)
    {method other : CallableDecl} (alike : method.Alike other) :
    first.isSetter order method = second.isSetter orderToo other := by
  have form := alike.congr (fun method => !method.isPrivate && !method.isStatic &&
    method.params.length == 1) fun _ => rfl
  have returned := (mirrors.result alike).any_eq fun _ _ results =>
    orders.any_eq fun _ _ types => mirrors.sameType results types
  rw [Provider.isSetter, Provider.isSetter, form, returned]

/-- Related builders have alike setters. -/
theorem settersOf (settings : Settings) (pair : related a b) :
    Corresponds (List.Forall₂ CallableDecl.Alike) (first.settersOf settings a).result
      (second.settersOf settings b).result := by
  refine (mirrors.ancestry pair).bind fun order orderToo orders => .ok ?_
  have own := mirrors.ownTypes settings orders
  have methods : List.Forall₂ CallableDecl.Alike
      ((Provider.ownTypes settings order).flatMap fun type => (first.members type).methods)
      ((Provider.ownTypes settings orderToo).flatMap fun type => (second.members type).methods) :=
    List.rel_flatMap own fun _ _ types => (mirrors.members types).methods
  exact (methods.filter fun _ _ alike => mirrors.isSetter_eq own alike).firstOfEach
    fun _ _ alike => alike.name_eq

/-- **Related routes call for alike sources.** -/
theorem sourcesOf (settings : Settings) {route other : Route}
    (routes : route.Mirrors related other) :
    Corresponds Sources.Alike (first.sourcesOf settings route).result
      (second.sourcesOf settings other).result := by
  refine (mirrors.membersAlong settings routes.target).bind ?_
  rintro ⟨fields, getters⟩ ⟨fieldsToo, gettersToo⟩ ⟨alikeFields, alikeGetters⟩
  have builders : Option.Rel related route.builder? other.builder? :=
    routes.step.map fun _ _ steps => steps.builder
  dsimp only
  generalize route.builder? = builder at builders
  generalize other.builder? = builderToo at builders
  cases builders with
  | none => exact .ok ⟨alikeFields, alikeGetters, .nil⟩
  | some types =>
    refine (mirrors.settersOf settings types).bind fun _ _ alikeSetters => ?_
    exact .ok ⟨alikeFields, alikeGetters, alikeSetters⟩

/-- Properties of alike declarations are alike as drafts. -/
theorem draft {source other : PropertySource} (alike : source.Alike other) :
    (Merge.draft first source).Alike (Merge.draft second other) := by
  refine ⟨alike, ?_⟩
  cases alike with
  | field alike => exact mirrors.fieldAnnotations alike
  | getter alike name => exact (mirrors.callableAnnotations alike).1
  | constructorParam alike position => exact mirrors.paramAnnotations alike position
  | builderParam alike => exact mirrors.paramAnnotations alike 0

end Provider.Mirrors

/-! ### Merging -/

namespace Merge

/-- Two collections of drafts are alike list by list. -/
structure Drafts.Alike (first second : Drafts) : Prop where
  params : List.Forall₂ Property.Alike first.params second.params
  setters : List.Forall₂ Property.Alike first.setters second.setters
  fields : List.Forall₂ Property.Alike first.fields second.fields
  getters : List.Forall₂ Property.Alike first.getters second.getters

theorem strippedName?_eq (settings : Settings) {getter other : CallableDecl}
    (alike : getter.Alike other) : strippedName? settings getter = strippedName? settings other :=
  alike.congr (strippedName? settings) fun _ => rfl

theorem logicalName_eq (settings : Settings) (stripping : Bool) {getter other : CallableDecl}
    (alike : getter.Alike other) :
    logicalName settings stripping getter = logicalName settings stripping other :=
  alike.congr (logicalName settings stripping) fun _ => rfl

theorem paramSources_alike {callable other : CallableDecl} (alike : callable.Alike other) :
    List.Forall₂ PropertySource.Alike (paramSources callable) (paramSources other) := by
  rw [paramSources, paramSources, alike.params_eq, List.forall₂_map_left_iff,
    List.forall₂_map_right_iff, List.forall₂_same]
  exact fun position _ => .constructorParam alike position

/-- **Alike sources of related routes are alike as drafts.** -/
theorem drafts_alike {first second : Provider} (mirrors : first.Mirrors related second)
    (settings : Settings) {route other : Route} (routes : route.Mirrors related other)
    {sources sourcesToo : Sources} (alike : sources.Alike sourcesToo) :
    (drafts first settings route sources).Alike (drafts second settings other sourcesToo) := by
  have stripping : allStripped settings sources.getters = allStripped settings sourcesToo.getters :=
    alike.getters.all_eq fun _ _ getters => by rw [strippedName?_eq settings getters]
  have params : route.params = other.params := routes.callable.params_eq
  unfold drafts
  rw [stripping]
  refine ⟨?_, ?_, ?_, ?_⟩
  · exact List.rel_map (fun _ _ pair => mirrors.draft pair) (paramSources_alike routes.callable)
  · refine List.rel_map (fun _ _ pair => mirrors.draft (.builderParam pair))
      (alike.setters.filter fun _ _ pair => ?_)
    rw [namesParam, namesParam, params, pair.name_eq]
  · exact List.rel_map (fun _ _ pair => mirrors.draft (.field pair)) alike.fields
  · refine List.rel_map (fun _ _ pair => ?_) alike.getters
    rw [logicalName_eq settings _ pair]
    exact mirrors.draft (.getter pair _)

namespace Drafts

theorem isTransient_eq {property other : Property} (alike : property.Alike other) :
    isTransient property = isTransient other := by
  obtain ⟨source, annotations⟩ := property
  obtain ⟨sourceToo, annotationsToo⟩ := other
  cases alike.source with
  | field fields => exact fields.isTransient_eq
  | getter | constructorParam | builderParam => rfl

theorem isPrivate_eq {property other : Property} (alike : property.Alike other) :
    isPrivate property = isPrivate other := by
  obtain ⟨source, annotations⟩ := property
  obtain ⟨sourceToo, annotationsToo⟩ := other
  cases alike.source with
  | field fields => exact fields.isPrivate_eq
  | getter | constructorParam | builderParam => rfl

namespace Alike

variable {first second : Drafts} (alike : first.Alike second)

include alike

theorem sources : List.Forall₂ Property.Alike first.sources second.sources :=
  List.rel_append (List.rel_append (List.rel_append alike.params alike.setters) alike.fields)
    alike.getters

theorem names_eq : first.names = second.names :=
  congrArg (firstOfEach id) (alike.sources.map_eq fun _ _ pair => pair.name_eq)

theorem keptGetters : List.Forall₂ Property.Alike first.keptGetters second.keptGetters := by
  refine alike.getters.filter fun _ _ getters => congrArg (!·) ?_
  exact alike.fields.any_eq fun _ _ fields => by
    rw [isTransient_eq fields, fields.name_eq, getters.name_eq]

theorem keptFields : List.Forall₂ Property.Alike first.keptFields second.keptFields := by
  refine alike.fields.filter fun field other fields => ?_
  have read : (first.keptGetters.any fun getter => getter.name == field.name) =
      second.keptGetters.any fun getter => getter.name == other.name :=
    alike.keptGetters.any_eq fun _ _ getters => by rw [getters.name_eq, fields.name_eq]
  rw [isPrivate_eq fields, isTransient_eq fields, read]

/-- The same annotations occur, at alike properties. -/
theorem occurrences (name : String) :
    List.Forall₂ (fun occurrence other : Property × Annotation =>
        occurrence.1.Alike other.1 ∧ occurrence.2 = other.2)
      (first.occurrences name) (second.occurrences name) := by
  have group : List.Forall₂ Property.Alike (first.group name) (second.group name) :=
    alike.sources.filter fun _ _ pair => by rw [pair.name_eq]
  refine List.rel_flatMap group fun _ _ pair => ?_
  rw [pair.annotations, List.forall₂_map_left_iff, List.forall₂_map_right_iff, List.forall₂_same]
  exact fun _ _ => ⟨pair, rfl⟩

theorem annotationsFor_eq (name : String) :
    first.annotationsFor name = second.annotationsFor name :=
  ((alike.occurrences name).firstOfEach fun _ _ pair => congrArg Annotation.handle pair.2).map_eq
    fun _ _ pair => pair.2

/-- **Alike drafts have the same problems**, in one order. -/
theorem outline_duplicates :
    first.duplicates.map Problem.outline = second.duplicates.map Problem.outline := by
  rw [duplicates, duplicates, alike.names_eq, List.map_flatMap, List.map_flatMap]
  refine congrArg (List.flatMap · _) (funext fun name => ?_)
  have repeats := (alike.occurrences name).repeatsOfEach
    fun _ _ pair => congrArg Annotation.handle pair.2
  unfold duplicatesFor
  rw [List.map_map, List.map_map]
  refine repeats.map_eq fun occurrence other pair => ?_
  simp only [Function.comp_apply, duplicate, Problem.outline, Option.map_some, pair.2,
    pair.1.source.element_key_eq]

theorem annotated {property other : Property} (pair : property.Alike other) :
    (first.annotated property).Alike (second.annotated other) := by
  refine ⟨pair.source, ?_⟩
  unfold Drafts.annotated
  rw [pair.name_eq]
  exact alike.annotationsFor_eq other.name

omit alike in
theorem extended {listed listedToo further furtherToo : List Property}
    (begins : List.Forall₂ Property.Alike listed listedToo)
    (ends : List.Forall₂ Property.Alike further furtherToo) :
    List.Forall₂ Property.Alike (Merge.extended listed further)
      (Merge.extended listedToo furtherToo) := by
  refine List.rel_append begins (List.Forall₂.firstOfEach ?_ fun _ _ pair => pair.name_eq)
  refine ends.filter fun _ _ pair => congrArg (!·) ?_
  exact begins.any_eq fun _ _ known => by rw [known.name_eq, pair.name_eq]

/-- **Alike drafts come to alike properties.** -/
theorem merged : first.merged.Alike second.merged := by
  have params := List.rel_map (fun _ _ pair => alike.annotated pair) alike.params
  have setters := List.rel_map (fun _ _ pair => alike.annotated pair) alike.setters
  have fields := List.rel_map (fun _ _ pair => alike.annotated pair) alike.keptFields
  have getters := List.rel_map (fun _ _ pair => alike.annotated pair) alike.keptGetters
  exact ⟨extended (extended (List.rel_append params setters) fields) getters, params, setters,
    fields, getters⟩

end Alike

end Drafts

end Merge

/-- Problems that tell the same come to the same verdict, in either mode. -/
theorem Report.verdict_corresponds (mode : ReportMode) {problems others : List Problem}
    (told : problems.map Problem.outline = others.map Problem.outline) :
    Corresponds Eq (verdict mode problems) (verdict mode others) := by
  cases problems with
  | nil =>
    obtain rfl : others = [] := List.map_eq_nil_iff.mp told.symm
    cases mode <;> exact .ok rfl
  | cons problem rest =>
    obtain ⟨other, restToo, rfl, same, sameRest⟩ := List.map_eq_cons_iff.mp told.symm
    cases mode with
    | failFast =>
      rw [verdict_failFast, verdict_failFast]
      exact .error (congrArg (Sum.inl [·]) same.symm)
    | batch =>
      rw [verdict_batch, verdict_batch, if_neg (List.cons_ne_nil _ _),
        if_neg (List.cons_ne_nil _ _)]
      exact .error (congrArg Sum.inl told)

namespace Provider.Mirrors

variable {first second : Provider} (mirrors : Mirrors related first second) {a b : TypeDecl}
  {settings : Settings}

include mirrors

theorem merge (settings : Settings) {route other : Route} (routes : route.Mirrors related other)
    {sources sourcesToo : Sources} (alike : sources.Alike sourcesToo) :
    Corresponds PropertySet.Alike (first.merge settings route sources).result
      (second.merge settings other sourcesToo).result := by
  have drafts := Merge.drafts_alike mirrors settings routes alike
  have noted : Corresponds (fun _ _ => True)
      (Attempt.ofTraced (.noteAll (Merge.draftNotes settings route sources))).result
      (Attempt.ofTraced (.noteAll (Merge.draftNotes settings other sourcesToo))).result :=
    .ok trivial
  refine noted.bind fun _ _ _ => ?_
  have verdicts := Report.verdict_corresponds settings.reportMode drafts.outline_duplicates
  generalize Report.verdict settings.reportMode _ = verdict at verdicts
  generalize Report.verdict settings.reportMode _ = verdictToo at verdicts
  cases verdicts with
  | ok => exact .ok drafts.merged
  | error told => exact .error told

/-- **Related routes have alike properties.** -/
theorem propertiesAlong (settings : Settings) {route other : Route}
    (routes : route.Mirrors related other) :
    Corresponds PropertySet.Alike (first.propertiesAlong settings route).result
      (second.propertiesAlong settings other).result :=
  (mirrors.sourcesOf settings routes).bind fun _ _ alike => mirrors.merge settings routes alike

/-- **Related types have anatomies that mirror each other**, or none for the same reasons. -/
theorem anatomy (settings : Settings) (marker : Option String) (pair : related a b) :
    Corresponds (Anatomy.Mirrors related)
      (Resolver.anatomy ⟨first, settings, .byMarker marker⟩ a)
      (Resolver.anatomy ⟨second, settings, .byMarker marker⟩ b) := by
  have routes := @resolve _ _ _ mirrors _ _ settings marker pair
  unfold Resolver.anatomy
  generalize (Resolver.resolve ⟨first, settings, .byMarker marker⟩ a).result = route at routes ⊢
  generalize (Resolver.resolve ⟨second, settings, .byMarker marker⟩ b).result = other at routes ⊢
  cases routes with
  | error told => exact .error told
  | ok alike =>
    exact (mirrors.propertiesAlong settings alike).map fun _ _ properties => ⟨alike, properties⟩

/-- **Of related types the same is told**, whether they have an anatomy or not. -/
theorem outlineOf_anatomy (settings : Settings) (marker : Option String) (pair : related a b) :
    outlineOf (Resolver.anatomy ⟨first, settings, .byMarker marker⟩ a) =
      outlineOf (Resolver.anatomy ⟨second, settings, .byMarker marker⟩ b) :=
  (mirrors.anatomy settings marker pair).outline_eq fun _ _ anatomies =>
    anatomies.outline_eq (mirrors.fullName anatomies.route.target)

end Provider.Mirrors

end ValueAnatomy
