/-
**The canonical list of merged properties.**

Whatever the sources are, the canonical list begins with the parameters of what the route starts
with and the setters of other names, and goes on with fields and then accessors, each where its name
is not listed yet.

* `Merge.represent`: items listed one after the other, each only where its name is not listed yet;
* `Merge.Canonical`: what the canonical list is, said of the sources alone;
* `Provider.merge_canonical`: merged properties have the canonical list.

An accessor whose field is not persisted is dropped before the fields are looked at, so it hides no
field; a field is dropped only for an accessor that is left, so its name stays represented.
-/

import ValueAnatomy.Merge
import ValueAnatomy.TypeSpec

namespace ValueAnatomy

namespace Merge

/-! ### Listing -/

section Listing

variable {α β : Type}

/-- A list and, one after the other, those of further items whose names are not listed yet. -/
def represent (name : α → String) (listed : List α) : List α → List α
  | [] => listed
  | item :: rest =>
    represent name (if name item ∈ listed.map name then listed else listed ++ [item]) rest

/-- The items added are further ones in their order, of fresh names, each name once, and no further
name is left unlisted. -/
structure Represents (name : α → String) (listed further added : List α) : Prop where
  sublist : added.Sublist further
  nodup : (added.map name).Nodup
  fresh : ∀ item ∈ added, name item ∉ listed.map name
  covers : ∀ item ∈ further, name item ∈ (listed ++ added).map name

/-- **What is listed stays in front, and the items added behind it are those of fresh names.** -/
theorem exists_represents (name : α → String) (listed further : List α) :
    ∃ added, represent name listed further = listed ++ added ∧
      Represents name listed further added := by
  induction further generalizing listed with
  | nil => exact ⟨[], (List.append_nil _).symm, ⟨List.Sublist.refl _, List.nodup_nil, nofun, nofun⟩⟩
  | cons item rest ih =>
    rw [represent]
    split
    · rename_i known
      obtain ⟨added, same, adds⟩ := ih listed
      refine ⟨added, same, adds.sublist.cons _, adds.nodup, adds.fresh, fun other member => ?_⟩
      rcases List.mem_cons.mp member with rfl | member
      · rw [List.map_append]
        exact List.mem_append_left _ known
      · exact adds.covers other member
    · rename_i unknown
      obtain ⟨added, same, adds⟩ := ih (listed ++ [item])
      have behind : ∀ other ∈ added, name other ∉ listed.map name ∧ name other ≠ name item := by
        intro other member
        have apart := adds.fresh other member
        rw [List.map_append, List.mem_append, not_or] at apart
        exact ⟨apart.1, fun equal => apart.2 (equal ▸ List.mem_singleton_self _)⟩
      refine ⟨item :: added, by rw [same, List.append_assoc]; rfl, adds.sublist.cons_cons _, ?_,
        fun other member => ?_, fun other member => ?_⟩
      · rw [List.map_cons, List.nodup_cons]
        refine ⟨fun member => ?_, adds.nodup⟩
        obtain ⟨other, listedBehind, equal⟩ := List.mem_map.mp member
        exact (behind other listedBehind).2 equal
      · rcases List.mem_cons.mp member with rfl | member
        · exact unknown
        · exact (behind other member).1
      · rw [List.append_cons]
        rcases List.mem_cons.mp member with rfl | member
        · exact List.mem_map_of_mem (by simp)
        · exact adds.covers other member

/-- Listing by name goes along with a map that keeps the names. -/
theorem map_represent {name : α → String} {other : β → String} {map : α → β}
    (keeps : ∀ item, other (map item) = name item) (listed further : List α) :
    (represent name listed further).map map =
      represent other (listed.map map) (further.map map) := by
  induction further generalizing listed with
  | nil => rfl
  | cons item rest ih =>
    have names : (listed.map map).map other = listed.map name := by
      rw [List.map_map]
      exact List.map_congr_left fun item _ => keeps item
    rw [represent, List.map_cons, represent, ih, keeps, names]
    congr 1
    split
    · rfl
    · rw [List.map_append, List.map_singleton]

end Listing

/-- Properties are listed one after the other, each only where its name is not listed yet. -/
theorem extended_eq_represent (listed further : List Property) :
    extended listed further = represent Property.name listed further := by
  induction further generalizing listed with
  | nil =>
    rw [extended, List.filter_nil, represent]
    exact List.append_nil listed
  | cons property rest ih =>
    have known : ∀ (properties : List Property) (name : String),
        (properties.any (·.name == name)) = decide (name ∈ properties.map Property.name) := by
      intro properties name
      rw [Bool.eq_iff_iff, decide_eq_true_iff, List.any_eq_true, List.mem_map]
      simp
    rw [represent]
    split
    · rename_i listedYet
      rw [← ih, extended, List.filter_cons_of_neg (by simp [known, listedYet])]
      rfl
    · rename_i unlisted
      rw [← ih, extended, List.filter_cons_of_pos (by simp [known, unlisted]), firstOfEach,
        filter_firstOfEach Property.name (fun name => name != property.name), extended,
        List.filter_filter, List.append_assoc]
      congr 4
      funext other
      rw [Bool.eq_iff_iff]
      simp [known, and_comm]

/-! ### The sources of properties -/

/-- The names of accessors: all without their lead if every one follows a convention, and all as
written otherwise. -/
def accessorNames (settings : Settings) (getters : List CallableDecl) : List String :=
  (getters.mapM (strippedName? settings)).getD (getters.map (·.name))

/-- The accessors under these names. -/
def readings (settings : Settings) (getters : List CallableDecl) : List PropertySource :=
  List.zipWith .getter getters (accessorNames settings getters)

/-- The accessors that are left: those under the name of no field that is not persisted. -/
def openReadings (settings : Settings) (sources : Sources) : List PropertySource :=
  (readings settings sources.getters).filter fun reading =>
    ∀ field ∈ sources.fields, field.isTransient = true → field.name ≠ reading.name

/-- The fields that are neither private nor not persisted. -/
def openFields (sources : Sources) : List FieldDecl :=
  sources.fields.filter fun field => !field.isPrivate && !field.isTransient

/-- The names of properties. -/
def namesOf (sources : List PropertySource) : List String := sources.map (·.name)

/-- The parameters of what a route starts with, and the setters of other names. -/
def paramsOf (route : Route) (setters : List CallableDecl) : List PropertySource :=
  paramSources route.callable ++
    (setters.filter fun setter => setter.name ∉ route.params.map (·.name)).map .builderParam

/-- The open fields that no accessor reads that is left. -/
def unreadFields (settings : Settings) (sources : Sources) : List PropertySource :=
  ((openFields sources).filter fun field =>
    field.name ∉ namesOf (openReadings settings sources)).map .field

/-- **What the canonical list is.** -/
structure Canonical (settings : Settings) (route : Route) (sources : Sources)
    (all : List Property) : Prop where
  /-- The parameters come first, then the setters of other names; behind them the open fields that
  no accessor reads, and then the accessors, each where its name is not listed yet. -/
  order : all.map (·.source) =
    represent (·.name)
      (represent (·.name) (paramsOf route sources.setters) (unreadFields settings sources))
      (openReadings settings sources)
  /-- The names are those of parameters, setters, open fields and the accessors that are left. -/
  names : ∀ name, name ∈ all.map (·.name) ↔
    name ∈ route.params.map (·.name) ∨ name ∈ sources.setters.map (·.name) ∨
      name ∈ (openFields sources).map (·.name) ∨ name ∈ namesOf (openReadings settings sources)
  /-- Only parameters and setters share names. -/
  apart : all.Pairwise fun first second =>
    first.name = second.name → first.source.isParam = true ∧ second.source.isParam = true
  /-- Of other names, those of the accessors that are left are listed as accessors. -/
  getters : ∀ name, name ∉ route.params.map (·.name) → name ∉ sources.setters.map (·.name) →
    ((∃ property ∈ all, property.name = name ∧ property.source.kind = .getter) ↔
      name ∈ namesOf (openReadings settings sources))
  /-- Of other names, those of the open fields that no accessor reads are listed as fields. -/
  fields : ∀ name, name ∉ route.params.map (·.name) → name ∉ sources.setters.map (·.name) →
    ((∃ property ∈ all, property.name = name ∧ property.source.kind = .field) ↔
      name ∉ namesOf (openReadings settings sources) ∧ name ∈ (openFields sources).map (·.name))

/-! ### Drafts and their sources -/

@[simp] theorem source_draft (provider : Provider) (source : PropertySource) :
    (draft provider source).source = source := rfl

@[simp] theorem name_draft (provider : Provider) (source : PropertySource) :
    (draft provider source).name = source.name := rfl

theorem namesOf_paramSources (callable : CallableDecl) :
    namesOf (paramSources callable) = callable.params.map (·.name) := by
  rw [namesOf, paramSources, List.map_map]
  refine List.ext_getElem (by simp) fun position inside _ => ?_
  have within : position < callable.params.length := by simpa using inside
  simp [PropertySource.name, within]

/-- Names without their leads are found together or not at all. -/
theorem mapM_strippedName? (settings : Settings) (getters : List CallableDecl) :
    getters.mapM (strippedName? settings) =
      if allStripped settings getters = true then some (getters.map (logicalName settings true))
      else none := by
  induction getters with
  | nil => rfl
  | cons getter rest ih =>
    have both : allStripped settings (getter :: rest) =
        ((strippedName? settings getter).isSome && allStripped settings rest) := List.all_cons
    rw [List.mapM_cons, ih, both]
    cases stripped : strippedName? settings getter with
    | none => rfl
    | some name =>
      have named : logicalName settings true getter = name := by
        rw [logicalName, if_pos rfl, stripped, Option.getD_some]
      rw [Option.isSome_some, Bool.true_and, List.map_cons, named]
      split <;> rfl

/-- The accessors are named one by one, once it is known whether all follow a convention. -/
theorem accessorNames_eq_map (settings : Settings) (getters : List CallableDecl) :
    accessorNames settings getters =
      getters.map (logicalName settings (allStripped settings getters)) := by
  rw [accessorNames, mapM_strippedName?]
  cases allStripped settings getters with
  | true => rfl
  | false => rfl

theorem readings_eq_map (settings : Settings) (getters : List CallableDecl) :
    readings settings getters = getters.map fun getter =>
      .getter getter (logicalName settings (allStripped settings getters) getter) := by
  rw [readings, accessorNames_eq_map, List.zipWith_map_right, List.zipWith_self]

/-- The setters that are left are those not named like a parameter. -/
theorem filter_namesParam (route : Route) (setters : List CallableDecl) :
    (setters.filter (!namesParam route ·)) =
      setters.filter fun setter => setter.name ∉ route.params.map (·.name) := by
  refine List.filter_congr fun setter _ => ?_
  rw [Bool.eq_iff_iff]
  simp [namesParam]

theorem map_source_setters (provider : Provider) (settings : Settings) (route : Route)
    (sources : Sources) :
    (drafts provider settings route sources).setters.map (·.source) =
      (sources.setters.filter fun setter => setter.name ∉ route.params.map (·.name)).map
        .builderParam := by
  rw [drafts, List.map_map, filter_namesParam]
  rfl

theorem map_source_keptGetters (provider : Provider) (settings : Settings) (route : Route)
    (sources : Sources) :
    (drafts provider settings route sources).keptGetters.map (·.source) =
      openReadings settings sources := by
  rw [Drafts.keptGetters, openReadings, readings_eq_map, drafts, List.filter_map, List.map_map,
    List.filter_map]
  dsimp only
  congr 1
  refine List.filter_congr fun getter _ => ?_
  rw [Bool.eq_iff_iff, Function.comp_apply, Function.comp_apply, decide_eq_true_iff]
  simp [Drafts.isTransient, PropertySource.name]

theorem map_name_keptGetters (provider : Provider) (settings : Settings) (route : Route)
    (sources : Sources) :
    (drafts provider settings route sources).keptGetters.map (·.name) =
      namesOf (openReadings settings sources) := by
  rw [← map_source_keptGetters provider settings route sources, namesOf, List.map_map]
  rfl

theorem map_source_keptFields (provider : Provider) (settings : Settings) (route : Route)
    (sources : Sources) :
    (drafts provider settings route sources).keptFields.map (·.source) =
      unreadFields settings sources := by
  have read : ∀ name, ((drafts provider settings route sources).keptGetters.any
      (·.name == name)) = decide (name ∈ namesOf (openReadings settings sources)) := by
    intro name
    rw [← map_name_keptGetters provider settings route sources, Bool.eq_iff_iff,
      decide_eq_true_iff, List.any_eq_true, List.mem_map]
    simp
  have fields : (drafts provider settings route sources).fields =
      sources.fields.map fun field => draft provider (.field field) := rfl
  rw [Drafts.keptFields, fields, List.filter_map, List.map_map, unreadFields, openFields,
    List.filter_filter]
  congr 1
  refine List.filter_congr fun field _ => ?_
  rw [Bool.eq_iff_iff]
  simp only [Function.comp_apply, read, Drafts.isPrivate, Drafts.isTransient, source_draft,
    name_draft, PropertySource.name, Bool.and_eq_true, Bool.not_eq_true', decide_eq_true_iff]
  exact (and_congr_right fun _ => decide_eq_false_iff_not).trans and_comm

/-- **The canonical list of drafts, as sources**, listed one kind after the other. -/
theorem map_source_merged (provider : Provider) (settings : Settings) (route : Route)
    (sources : Sources) :
    (drafts provider settings route sources).merged.all.map (·.source) =
      represent (·.name)
        (represent (·.name) (paramsOf route sources.setters) (unreadFields settings sources))
        (openReadings settings sources) := by
  have forget : ∀ properties : List Property,
      (properties.map (drafts provider settings route sources).annotated).map (·.source) =
        properties.map (·.source) := by
    intro properties
    rw [List.map_map]
    rfl
  have params : (drafts provider settings route sources).params.map (·.source) =
      paramSources route.callable := by
    rw [drafts, List.map_map]
    exact List.map_id _
  have listing : ∀ listed further : List Property,
      (represent Property.name listed further).map (·.source) =
        represent (·.name) (listed.map (·.source)) (further.map (·.source)) :=
    map_represent fun _ => rfl
  unfold Drafts.merged
  dsimp only
  rw [extended_eq_represent, extended_eq_represent, listing, listing, List.map_append, forget,
    forget, forget, forget, params, map_source_setters, map_source_keptFields,
    map_source_keptGetters, paramsOf]

/-! ### What the order comes to -/

theorem isParam_of_mem_paramsOf {route : Route} {setters : List CallableDecl}
    {source : PropertySource} (member : source ∈ paramsOf route setters) :
    source.isParam = true := by
  rcases List.mem_append.mp member with param | setter
  · obtain ⟨_, _, rfl⟩ := List.mem_map.mp param
    rfl
  · obtain ⟨_, _, rfl⟩ := List.mem_map.mp setter
    rfl

theorem mem_namesOf_paramsOf {route : Route} {setters : List CallableDecl} {name : String} :
    name ∈ namesOf (paramsOf route setters) ↔
      name ∈ route.params.map (·.name) ∨ name ∈ setters.map (·.name) := by
  have params : namesOf (paramSources route.callable) = route.params.map (·.name) :=
    namesOf_paramSources route.callable
  rw [paramsOf, namesOf, List.map_append, List.mem_append, ← namesOf, params]
  constructor
  · rintro (param | setter)
    · exact .inl param
    · obtain ⟨_, member, rfl⟩ := List.mem_map.mp setter
      obtain ⟨_, kept, rfl⟩ := List.mem_map.mp member
      exact .inr (List.mem_map_of_mem (List.mem_filter.mp kept).1)
  · rintro (param | setter)
    · exact .inl param
    · by_cases named : name ∈ route.params.map (·.name)
      · exact .inl named
      · obtain ⟨decl, member, rfl⟩ := List.mem_map.mp setter
        refine .inr (List.mem_map.mpr ⟨.builderParam decl, List.mem_map_of_mem ?_, rfl⟩)
        exact List.mem_filter.mpr ⟨member, decide_eq_true named⟩

theorem mem_namesOf_unreadFields {settings : Settings} {sources : Sources} {name : String} :
    name ∈ namesOf (unreadFields settings sources) ↔
      name ∉ namesOf (openReadings settings sources) ∧
        name ∈ (openFields sources).map (·.name) := by
  constructor
  · intro member
    obtain ⟨_, listed, rfl⟩ := List.mem_map.mp member
    obtain ⟨field, kept, rfl⟩ := List.mem_map.mp listed
    obtain ⟨amongOpen, unread⟩ := List.mem_filter.mp kept
    exact ⟨of_decide_eq_true unread, List.mem_map_of_mem amongOpen⟩
  · rintro ⟨unread, member⟩
    obtain ⟨field, amongOpen, rfl⟩ := List.mem_map.mp member
    refine List.mem_map.mpr ⟨.field field, List.mem_map_of_mem ?_, rfl⟩
    exact List.mem_filter.mpr ⟨amongOpen, decide_eq_true unread⟩

theorem kind_of_mem_unreadFields {settings : Settings} {sources : Sources}
    {source : PropertySource} (member : source ∈ unreadFields settings sources) :
    source.kind = .field := by
  obtain ⟨_, _, rfl⟩ := List.mem_map.mp member
  rfl

theorem kind_of_mem_openReadings {settings : Settings} {sources : Sources}
    {source : PropertySource} (member : source ∈ openReadings settings sources) :
    source.kind = .getter := by
  have among := (List.mem_filter.mp member).1
  rw [readings_eq_map] at among
  obtain ⟨_, _, rfl⟩ := List.mem_map.mp among
  rfl

section Parts

variable {settings : Settings} {route : Route} {sources : Sources}
  {fields getters : List PropertySource}

/-- The fields and the accessors that are listed behind the parameters and setters. -/
structure Parts (settings : Settings) (route : Route) (sources : Sources)
    (fields getters : List PropertySource) : Prop where
  addsFields : Represents PropertySource.name (paramsOf route sources.setters)
    (unreadFields settings sources) fields
  addsGetters : Represents PropertySource.name (paramsOf route sources.setters ++ fields)
    (openReadings settings sources) getters

theorem Parts.mem_unreadFields (parts : Parts settings route sources fields getters)
    {source : PropertySource} (member : source ∈ fields) :
    source ∈ unreadFields settings sources :=
  parts.addsFields.sublist.subset member

theorem Parts.mem_openReadings (parts : Parts settings route sources fields getters)
    {source : PropertySource} (member : source ∈ getters) :
    source ∈ openReadings settings sources :=
  parts.addsGetters.sublist.subset member

theorem Parts.covers_field (parts : Parts settings route sources fields getters) {name : String}
    (member : name ∈ namesOf (unreadFields settings sources)) :
    name ∈ namesOf (paramsOf route sources.setters ++ fields) := by
  obtain ⟨source, among, rfl⟩ := List.mem_map.mp member
  exact parts.addsFields.covers source among

theorem Parts.covers_getter (parts : Parts settings route sources fields getters) {name : String}
    (member : name ∈ namesOf (openReadings settings sources)) :
    name ∈ namesOf (paramsOf route sources.setters ++ fields ++ getters) := by
  obtain ⟨source, among, rfl⟩ := List.mem_map.mp member
  exact parts.addsGetters.covers source among

theorem Parts.mem_namesOf (parts : Parts settings route sources fields getters) (name : String) :
    name ∈ namesOf (paramsOf route sources.setters ++ fields ++ getters) ↔
      name ∈ route.params.map (·.name) ∨ name ∈ sources.setters.map (·.name) ∨
        name ∈ (openFields sources).map (·.name) ∨
        name ∈ namesOf (openReadings settings sources) := by
  constructor
  · intro member
    obtain ⟨source, among, rfl⟩ := List.mem_map.mp member
    rcases List.mem_append.mp among with among | getter
    · rcases List.mem_append.mp among with param | field
      · have named : source.name ∈ namesOf (paramsOf route sources.setters) :=
          List.mem_map_of_mem param
        exact (mem_namesOf_paramsOf.mp named).imp_right .inl
      · have named : source.name ∈ namesOf (unreadFields settings sources) :=
          List.mem_map_of_mem (parts.mem_unreadFields field)
        exact .inr (.inr (.inl (mem_namesOf_unreadFields.mp named).2))
    · exact .inr (.inr (.inr (List.mem_map_of_mem (parts.mem_openReadings getter))))
  · have behind : name ∈ namesOf (paramsOf route sources.setters ++ fields) →
        name ∈ namesOf (paramsOf route sources.setters ++ fields ++ getters) := by
      intro member
      rw [namesOf, List.map_append]
      exact List.mem_append_left _ member
    have first : name ∈ namesOf (paramsOf route sources.setters) →
        name ∈ namesOf (paramsOf route sources.setters ++ fields ++ getters) := by
      intro member
      refine behind ?_
      rw [namesOf, List.map_append]
      exact List.mem_append_left _ member
    rintro (param | setter | field | getter)
    · exact first (mem_namesOf_paramsOf.mpr (.inl param))
    · exact first (mem_namesOf_paramsOf.mpr (.inr setter))
    · by_cases read : name ∈ namesOf (openReadings settings sources)
      · exact parts.covers_getter read
      · exact behind (parts.covers_field (mem_namesOf_unreadFields.mpr ⟨read, field⟩))
    · exact parts.covers_getter getter

theorem Parts.pairwise (parts : Parts settings route sources fields getters) :
    (paramsOf route sources.setters ++ fields ++ getters).Pairwise fun first second =>
      first.name = second.name → first.isParam = true ∧ second.isParam = true := by
  rw [List.pairwise_append, List.pairwise_append]
  refine ⟨⟨?_, ?_, fun first member second other same => ?_⟩, ?_,
    fun first member second other same => ?_⟩
  · refine List.pairwise_of_forall_mem_list fun first member second other _ => ?_
    exact ⟨isParam_of_mem_paramsOf member, isParam_of_mem_paramsOf other⟩
  · exact (List.pairwise_map.mp parts.addsFields.nodup).imp fun apart same => absurd same apart
  · have listed : second.name ∈ (paramsOf route sources.setters).map PropertySource.name :=
      same ▸ List.mem_map_of_mem member
    exact absurd listed (parts.addsFields.fresh second other)
  · exact (List.pairwise_map.mp parts.addsGetters.nodup).imp fun apart same => absurd same apart
  · have listed : second.name ∈
        (paramsOf route sources.setters ++ fields).map PropertySource.name :=
      same ▸ List.mem_map_of_mem member
    exact absurd listed (parts.addsGetters.fresh second other)

/-- The part that a source of a name stands in, if that is not the name of a parameter or
setter. -/
theorem Parts.cases_of_name (parts : Parts settings route sources fields getters) {name : String}
    (noParam : name ∉ route.params.map (·.name)) (noSetter : name ∉ sources.setters.map (·.name))
    {source : PropertySource}
    (member : source ∈ paramsOf route sources.setters ++ fields ++ getters)
    (named : source.name = name) :
    (source ∈ unreadFields settings sources ∧ source.kind = .field) ∨
      (source ∈ openReadings settings sources ∧ source.kind = .getter) := by
  rcases List.mem_append.mp member with member | getter
  · rcases List.mem_append.mp member with param | field
    · have listed : name ∈ namesOf (paramsOf route sources.setters) :=
        named ▸ List.mem_map_of_mem param
      rcases mem_namesOf_paramsOf.mp listed with param | setter
      · exact absurd param noParam
      · exact absurd setter noSetter
    · have unread := parts.mem_unreadFields field
      exact .inl ⟨unread, kind_of_mem_unreadFields unread⟩
  · have left := parts.mem_openReadings getter
    exact .inr ⟨left, kind_of_mem_openReadings left⟩

/-- Of names of no parameter or setter, those of the accessors that are left are listed as
accessors. -/
theorem Parts.exists_getter_iff (parts : Parts settings route sources fields getters)
    {name : String} (noParam : name ∉ route.params.map (·.name))
    (noSetter : name ∉ sources.setters.map (·.name)) :
    (∃ source ∈ paramsOf route sources.setters ++ fields ++ getters,
        source.name = name ∧ source.kind = .getter) ↔
      name ∈ namesOf (openReadings settings sources) := by
  constructor
  · rintro ⟨source, member, named, kind⟩
    rcases parts.cases_of_name noParam noSetter member named with ⟨_, field⟩ | ⟨reading, _⟩
    · rw [field] at kind
      cases kind
    · exact named ▸ List.mem_map_of_mem reading
  · intro reading
    obtain ⟨source, member, named⟩ := List.mem_map.mp (parts.covers_getter reading)
    rcases parts.cases_of_name noParam noSetter member named with ⟨unread, _⟩ | ⟨_, kind⟩
    · have listed : name ∈ namesOf (unreadFields settings sources) :=
        named ▸ List.mem_map_of_mem unread
      exact absurd reading (mem_namesOf_unreadFields.mp listed).1
    · exact ⟨source, member, named, kind⟩

/-- Of names of no parameter or setter, those of the open fields that no accessor reads are listed
as fields. -/
theorem Parts.exists_field_iff (parts : Parts settings route sources fields getters)
    {name : String} (noParam : name ∉ route.params.map (·.name))
    (noSetter : name ∉ sources.setters.map (·.name)) :
    (∃ source ∈ paramsOf route sources.setters ++ fields ++ getters,
        source.name = name ∧ source.kind = .field) ↔
      name ∉ namesOf (openReadings settings sources) ∧
        name ∈ (openFields sources).map (·.name) := by
  rw [← mem_namesOf_unreadFields]
  constructor
  · rintro ⟨source, member, named, kind⟩
    rcases parts.cases_of_name noParam noSetter member named with ⟨unread, _⟩ | ⟨_, getter⟩
    · exact named ▸ List.mem_map_of_mem unread
    · rw [getter] at kind
      cases kind
  · intro unread
    obtain ⟨source, member, named⟩ := List.mem_map.mp (parts.covers_field unread)
    have among := List.mem_append_left getters member
    rcases parts.cases_of_name noParam noSetter among named with ⟨_, kind⟩ | ⟨reading, _⟩
    · exact ⟨source, among, named, kind⟩
    · have listed : name ∈ namesOf (openReadings settings sources) :=
        named ▸ List.mem_map_of_mem reading
      exact absurd listed (mem_namesOf_unreadFields.mp unread).1

/-- **A list in the canonical order is canonical.** -/
theorem canonical_of_order {all : List Property}
    (order : all.map (·.source) =
      represent (·.name)
        (represent (·.name) (paramsOf route sources.setters) (unreadFields settings sources))
        (openReadings settings sources)) :
    Canonical settings route sources all := by
  obtain ⟨fields, listedFields, addsFields⟩ := exists_represents PropertySource.name
    (paramsOf route sources.setters) (unreadFields settings sources)
  obtain ⟨getters, listedGetters, addsGetters⟩ := exists_represents PropertySource.name
    (paramsOf route sources.setters ++ fields) (openReadings settings sources)
  have parts : Parts settings route sources fields getters := ⟨addsFields, addsGetters⟩
  have whole : all.map (·.source) = paramsOf route sources.setters ++ fields ++ getters := by
    rw [order, listedFields, listedGetters]
  have named : all.map (·.name) = namesOf (all.map (·.source)) := by
    rw [namesOf, List.map_map]
    rfl
  have listed : ∀ name kind, (∃ property ∈ all, property.name = name ∧
      property.source.kind = kind) ↔ ∃ source ∈ all.map (·.source),
        source.name = name ∧ source.kind = kind := by
    intro name kind
    constructor
    · rintro ⟨property, member, facts⟩
      exact ⟨property.source, List.mem_map_of_mem member, facts⟩
    · rintro ⟨_, member, facts⟩
      obtain ⟨property, among, rfl⟩ := List.mem_map.mp member
      exact ⟨property, among, facts⟩
  refine ⟨order, fun name => ?_, ?_, fun name noParam noSetter => ?_,
    fun name noParam noSetter => ?_⟩
  · rw [named, whole]
    exact parts.mem_namesOf name
  · have apart := parts.pairwise
    rw [← whole] at apart
    exact List.pairwise_map.mp apart
  · rw [listed, whole]
    exact parts.exists_getter_iff noParam noSetter
  · rw [listed, whole]
    exact parts.exists_field_iff noParam noSetter

end Parts

end Merge

/-- Merged properties are those of the drafts. -/
theorem Provider.eq_merged_of_result_merge {provider : Provider} {settings : Settings}
    {route : Route} {sources : Sources} {set : PropertySet}
    (merged : (provider.merge settings route sources).result = .ok set) :
    set = (Merge.drafts provider settings route sources).merged := by
  obtain ⟨_, _, merged⟩ := Attempt.result_bind_eq_ok_iff.mp merged
  split at merged
  · cases merged
  · exact (Except.ok.inj merged).symm

/-- **Merged properties have the canonical list**, whatever the sources are. -/
theorem Provider.merge_canonical {provider : Provider} {settings : Settings} {route : Route}
    {sources : Sources} {set : PropertySet}
    (merged : (provider.merge settings route sources).result = .ok set) :
    Merge.Canonical settings route sources set.all := by
  rw [Provider.eq_merged_of_result_merge merged]
  exact Merge.canonical_of_order (Merge.map_source_merged provider settings route sources)

/-- A class whose members meet in every way. -/
def beanSpec : TypeSpec :=
  .mk
    { name := "Bean"
      base := .absent
      fields :=
        [{ name := "name", type := .int, keywords := [.access .ownType] },
          { name := "cache", type := .int, keywords := [.modifier .transient] },
          { name := "age", type := .int },
          { name := "note", type := .int }]
      constructors := [{ name := constructorName, params := [⟨"name", .int, []⟩] }]
      methods :=
        [{ name := "getName", returns := .int },
          { name := "getCache", returns := .int },
          { name := "getRank", returns := .int },
          { name := "name", params := [⟨"name", .int, []⟩] },
          { name := "age", params := [⟨"age", .int, []⟩] }] }
    []

/-- Its constructor, and all of its members as sources. -/
def beanRoute? : Option (Route × Sources) := do
  let bean ← (Catalog.empty.declare beanSpec).2.findByName? "Bean"
  let callable ← bean.constructors.head?
  pure ({ target := bean, start := .constructor, callable },
    { fields := bean.fields
      getters := bean.methods.filter (·.hasNoParams)
      setters := bean.methods.filter (!·.hasNoParams) })

/-- The canonical list of the class: a parameter, a setter, a field and an accessor. -/
theorem Provider.merge_canonical_bean :
    ∃ route sources set, beanRoute? = some (route, sources) ∧
      (Catalog.empty.provider.merge {} route sources).result = .ok set ∧
      set.names = ["name", "age", "note", "rank"] ∧ Merge.Canonical {} route sources set.all := by
  obtain ⟨⟨route, sources⟩, given⟩ : ∃ pair, beanRoute? = some pair :=
    Option.isSome_iff_exists.mp (by decide)
  have named : ∀ pair ∈ beanRoute?,
      (Catalog.empty.provider.merge {} pair.1 pair.2).result.toOption.map (·.names) =
        some ["name", "age", "note", "rank"] := by decide
  have outcome := named (route, sources) given
  cases merged : (Catalog.empty.provider.merge {} route sources).result with
  | error failure =>
    rw [merged] at outcome
    cases outcome
  | ok set =>
    rw [merged] at outcome
    exact ⟨route, sources, set, given, merged, Option.some.inj outcome,
      Provider.merge_canonical merged⟩

end ValueAnatomy
