/-
**Merged properties are told apart, by their keys and by their names.**

No single place sees to it. Fields are gathered by name, accessors by signature and setters by name;
setters named like a parameter are dropped; and what is listed behind the parameters and setters is
listed only under a fresh name, since accessors of different signatures may come to one name when
they lose their leads.

* `Sources.Distinct`, `Provider.distinct_of_sourcesOf`: what gathering leaves apart;
* `Merge.nodup_map_represent`, `Merge.nodup_represent`: what listing keeps apart;
* `PropertySet.ToldApart`: keys and names that lead to one property each, none of them lost;
* `Provider.merge_toldApart`: such are the merged properties of gathered sources.
-/

import Mathlib.Data.List.Nodup
import ValueAnatomy.Proofs.Merge.Canonical
import ValueAnatomy.Proofs.Sources.MostSpecific

namespace ValueAnatomy

/-! ### Gathered sources -/

/-- Sources of which no two are claimed by the same name or signature. -/
structure Sources.Distinct (sources : Sources) : Prop where
  fields : (sources.fields.map (·.name)).Nodup
  getters : (sources.getters.map (·.overrideKey)).Nodup
  setters : (sources.setters.map (·.name)).Nodup

namespace Provider

variable {provider : Provider} {settings : Settings}

theorem nodup_membersAlong {type : TypeDecl} {fields : List FieldDecl}
    {getters : List CallableDecl}
    (found : (provider.membersAlong settings type).result = .ok (fields, getters)) :
    (fields.map (·.name)).Nodup ∧ (getters.map (·.overrideKey)).Nodup := by
  rw [result_membersAlong] at found
  cases walked : (provider.ancestry type).result with
  | error failure =>
    rw [walked] at found
    cases found
  | ok order =>
    rw [walked] at found
    obtain ⟨rfl, rfl⟩ := Prod.mk.inj (Except.ok.inj found)
    rw [List.map_map, List.map_map]
    exact ⟨(nodup_claimed FieldDecl.name _ _).sublist (List.filter_sublist.map _),
      (nodup_claimed CallableDecl.overrideKey _ _).sublist (List.filter_sublist.map _)⟩

theorem nodup_settersOf {builder : TypeDecl} {setters : List CallableDecl}
    (found : (provider.settersOf settings builder).result = .ok setters) :
    (setters.map (·.name)).Nodup := by
  obtain ⟨walk, -, rest⟩ := Attempt.result_bind_eq_ok_iff.mp found
  rw [Attempt.result_ofTraced] at rest
  rw [← Except.ok.inj rest]
  exact firstOfEach_nodup _ _

/-- **Gathering leaves no two sources of one claim**, whatever the types declare. -/
theorem distinct_of_sourcesOf {route : Route} {sources : Sources}
    (found : (provider.sourcesOf settings route).result = .ok sources) : sources.Distinct := by
  obtain ⟨⟨fields, getters⟩, members, rest⟩ := Attempt.result_bind_eq_ok_iff.mp found
  obtain ⟨apartFields, apartGetters⟩ := nodup_membersAlong members
  cases through : route.builder? with
  | none =>
    rw [through] at rest
    rw [← Except.ok.inj rest]
    exact ⟨apartFields, apartGetters, List.nodup_nil⟩
  | some builder =>
    rw [through] at rest
    obtain ⟨setters, bySetter, whole⟩ := Attempt.result_bind_eq_ok_iff.mp rest
    rw [← Except.ok.inj whole]
    exact ⟨apartFields, apartGetters, nodup_settersOf bySetter⟩

end Provider

namespace Merge

/-! ### Listing keeps apart -/

section Listing

variable {α κ : Type} {name : α → String} {listed further : List α}

/-- Listing further items keeps any keys apart by which they are apart. -/
theorem nodup_map_represent (key : α → κ) (listedApart : (listed.map key).Nodup)
    (furtherApart : (further.map key).Nodup)
    (across : ∀ first ∈ listed, ∀ second ∈ further, key first ≠ key second) :
    ((represent name listed further).map key).Nodup := by
  obtain ⟨added, same, adds⟩ := exists_represents name listed further
  rw [same, List.map_append, List.nodup_append]
  refine ⟨listedApart, furtherApart.sublist (adds.sublist.map key), fun first atFirst second
    atSecond => ?_⟩
  obtain ⟨item, member, rfl⟩ := List.mem_map.mp atFirst
  obtain ⟨other, among, rfl⟩ := List.mem_map.mp atSecond
  exact across item member other (adds.sublist.subset among)

/-- Listing further items keeps the names apart, whatever the further names are. -/
theorem nodup_represent (apart : (listed.map name).Nodup) :
    ((represent name listed further).map name).Nodup := by
  obtain ⟨added, same, adds⟩ := exists_represents name listed further
  rw [same, List.map_append, List.nodup_append]
  refine ⟨apart, adds.nodup, fun first atFirst second behind equal => ?_⟩
  obtain ⟨item, member, rfl⟩ := List.mem_map.mp behind
  exact adds.fresh item member (equal ▸ atFirst)

/-- What is listed or added comes from the one list or the other. -/
theorem mem_of_mem_represent {item : α} (member : item ∈ represent name listed further) :
    item ∈ listed ∨ item ∈ further := by
  obtain ⟨added, same, adds⟩ := exists_represents name listed further
  rw [same] at member
  exact (List.mem_append.mp member).imp_right fun among => adds.sublist.subset among

end Listing

/-! ### Keys -/

/-- Keys are apart if something that is read off them is. -/
theorem nodup_key_of_read {κ : Type} (read : PropertyKey → κ) {sources : List PropertySource}
    (apart : (sources.map fun source => read source.key).Nodup) :
    (sources.map (·.key)).Nodup := by
  have twice : (sources.map (·.key)).map read = sources.map fun source => read source.key :=
    List.map_map
  exact List.Nodup.of_map read (twice ▸ apart)

/-- Sources of different kinds have different keys. -/
theorem key_ne_of_kind_ne {first second : PropertySource} (kinds : first.kind ≠ second.kind) :
    first.key ≠ second.key := by
  intro equal
  rw [← first.kind_key, ← second.kind_key, equal] at kinds
  exact kinds rfl

/-- A parameter is neither a field nor an accessor. -/
theorem kind_ne_of_isParam {source : PropertySource} (param : source.isParam = true) :
    source.kind ≠ .field ∧ source.kind ≠ .getter := by
  cases source with
  | field decl => cases param
  | getter method name => cases param
  | constructorParam callable position => exact ⟨nofun, nofun⟩
  | builderParam setter => exact ⟨nofun, nofun⟩

/-- Parameters are told apart by their positions. -/
theorem nodup_key_paramSources (callable : CallableDecl) :
    ((paramSources callable).map (·.key)).Nodup := by
  refine nodup_key_of_read PropertyKey.position ?_
  rw [paramSources, List.map_map]
  exact List.nodup_range.map fun _ _ => Option.some.inj

section Sources

variable {settings : Settings} {route : Route} {sources : Sources}

/-- Setters are told apart by their names, and from parameters by their kind. -/
theorem nodup_key_paramsOf (distinct : sources.Distinct) :
    ((paramsOf route sources.setters).map (·.key)).Nodup := by
  rw [paramsOf, List.map_append, List.nodup_append]
  refine ⟨nodup_key_paramSources route.callable, ?_, fun first atFirst second atSecond => ?_⟩
  · refine nodup_key_of_read (·.member.name) ?_
    rw [List.map_map]
    exact distinct.setters.sublist (List.filter_sublist.map _)
  · obtain ⟨param, member, rfl⟩ := List.mem_map.mp atFirst
    obtain ⟨setter, among, rfl⟩ := List.mem_map.mp atSecond
    obtain ⟨_, _, rfl⟩ := List.mem_map.mp member
    obtain ⟨_, _, rfl⟩ := List.mem_map.mp among
    exact key_ne_of_kind_ne (by simp [PropertySource.kind])

/-- Fields are told apart by their names. -/
theorem nodup_key_unreadFields (distinct : sources.Distinct) :
    ((unreadFields settings sources).map (·.key)).Nodup := by
  refine nodup_key_of_read (·.member.name) ?_
  rw [unreadFields, openFields, List.map_map]
  exact distinct.fields.sublist ((List.filter_sublist.trans List.filter_sublist).map _)

/-- Accessors are told apart by their signatures, under whichever name they stand. -/
theorem nodup_key_openReadings (distinct : sources.Distinct) :
    ((openReadings settings sources).map (·.key)).Nodup := by
  refine List.Nodup.sublist (List.filter_sublist.map _) ?_
  -- Several accessors may have come to one name, but the key keeps the name as written.
  refine nodup_key_of_read (fun key => key.member.name ++ key.member.signature) ?_
  rw [readings_eq_map, List.map_map]
  exact distinct.getters

/-- **The keys of the canonical list are apart.** -/
theorem nodup_key_canonical (settings : Settings) (route : Route) (distinct : sources.Distinct) :
    ((represent (·.name)
      (represent (·.name) (paramsOf route sources.setters) (unreadFields settings sources))
      (openReadings settings sources)).map (·.key)).Nodup := by
  have beforeField : ∀ first ∈ paramsOf route sources.setters,
      ∀ second ∈ unreadFields settings sources, first.key ≠ second.key := by
    intro first param second field
    apply key_ne_of_kind_ne
    rw [kind_of_mem_unreadFields field]
    exact (kind_ne_of_isParam (isParam_of_mem_paramsOf param)).1
  refine nodup_map_represent _ (nodup_map_represent _ (nodup_key_paramsOf distinct)
    (nodup_key_unreadFields distinct) beforeField) (nodup_key_openReadings distinct) ?_
  intro first member second getter
  apply key_ne_of_kind_ne
  rw [kind_of_mem_openReadings getter]
  rcases mem_of_mem_represent member with param | field
  · exact (kind_ne_of_isParam (isParam_of_mem_paramsOf param)).2
  · rw [kind_of_mem_unreadFields field]
    exact nofun

/-! ### Names -/

/-- No setter that is left has the name of a parameter. -/
theorem nodup_namesOf_paramsOf (distinct : sources.Distinct)
    (paramsApart : (route.params.map (·.name)).Nodup) :
    (namesOf (paramsOf route sources.setters)).Nodup := by
  have params : namesOf (paramSources route.callable) = route.params.map (·.name) :=
    namesOf_paramSources route.callable
  rw [paramsOf, namesOf, List.map_append, ← namesOf, params, List.map_map, List.nodup_append]
  refine ⟨paramsApart, distinct.setters.sublist (List.filter_sublist.map _),
    fun name ofParam other ofSetter equal => ?_⟩
  obtain ⟨setter, left, rfl⟩ := List.mem_map.mp ofSetter
  subst equal
  exact of_decide_eq_true (List.mem_filter.mp left).2 ofParam

/-- **The names of the canonical list are apart if those of the parameters are.** -/
theorem nodup_name_canonical (settings : Settings) (distinct : sources.Distinct)
    (paramsApart : (route.params.map (·.name)).Nodup) :
    ((represent (·.name)
      (represent (·.name) (paramsOf route sources.setters) (unreadFields settings sources))
      (openReadings settings sources)).map (·.name)).Nodup :=
  nodup_represent (nodup_represent (nodup_namesOf_paramsOf distinct paramsApart))

end Sources

/-! ### Nothing is lost -/

/-- What is listed stays listed, and every further name is listed. -/
theorem extended_covers (listed further : List Property) :
    (∀ property ∈ listed, property ∈ extended listed further) ∧
      ∀ property ∈ further, property.name ∈ (extended listed further).map (·.name) := by
  obtain ⟨added, same, adds⟩ := exists_represents Property.name listed further
  rw [extended_eq_represent, same]
  exact ⟨fun property member => List.mem_append_left _ member, adds.covers⟩

end Merge

/-! ### Merged properties -/

/-- Of names that are apart, each leads to the one that has it. -/
theorem PropertySet.find?_name_of_mem {set : PropertySet} (apart : set.names.Nodup)
    {property : Property} (member : property ∈ set.all) :
    set.find? property.name = some property := by
  obtain ⟨found, led⟩ : ∃ found, set.find? property.name = some found :=
    Option.isSome_iff_exists.mp (List.find?_isSome.mpr ⟨property, member, beq_self_eq_true _⟩)
  have named : found.name = property.name := by simpa using List.find?_some led
  rw [led, List.inj_on_of_nodup_map apart (List.mem_of_find?_eq_some led) member named]

/-- **Every key, and every name, is that of one property**, and no name is lost. -/
structure PropertySet.ToldApart (route : Route) (set : PropertySet) : Prop where
  /-- No two properties have one key. -/
  keys : (set.all.map (·.key)).Nodup
  /-- Nor one name, unless parameters have it. -/
  names : (route.params.map (·.name)).Nodup → set.names.Nodup
  /-- Then the look-up by name leads to each. -/
  found : (route.params.map (·.name)).Nodup →
    ∀ property ∈ set.all, set.find? property.name = some property
  /-- All parameters and setters are in the canonical list. -/
  params : ∀ property ∈ set.constructorParams ++ set.builderParams, property ∈ set.all
  /-- The names of all fields and accessors are. -/
  represented : ∀ property ∈ set.fields ++ set.getters,
    ∃ listed ∈ set.all, listed.name = property.name

namespace Provider

variable {provider : Provider} {settings : Settings} {route : Route} {sources : Sources}

/-- Of what is merged nothing is lost: parameters and setters are listed, the rest is under its
name. -/
theorem merge_covers {set : PropertySet}
    (merged : (provider.merge settings route sources).result = .ok set) :
    (∀ property ∈ set.constructorParams ++ set.builderParams, property ∈ set.all) ∧
      ∀ property ∈ set.fields ++ set.getters, ∃ listed ∈ set.all, listed.name = property.name := by
  rw [eq_merged_of_result_merge merged]
  obtain ⟨paramsStay, fieldNames⟩ := Merge.extended_covers _ _
  obtain ⟨listedStay, getterNames⟩ := Merge.extended_covers _ _
  refine ⟨fun property member => listedStay _ (paramsStay _ member), fun property member => ?_⟩
  rcases List.mem_append.mp member with field | getter
  · obtain ⟨listed, among, same⟩ := List.mem_map.mp (fieldNames _ field)
    exact ⟨listed, listedStay _ among, same⟩
  · exact List.mem_map.mp (getterNames _ getter)

/-- **Merged properties of gathered sources are told apart**, whatever the provider reports. -/
theorem merge_toldApart {set : PropertySet}
    (found : (provider.sourcesOf settings route).result = .ok sources)
    (merged : (provider.merge settings route sources).result = .ok set) :
    set.ToldApart route := by
  have distinct := distinct_of_sourcesOf found
  have order := Merge.map_source_merged provider settings route sources
  rw [← eq_merged_of_result_merge merged] at order
  have keys : (set.all.map (·.key)).Nodup := by
    have apart := Merge.nodup_key_canonical settings route distinct
    rw [← order, List.map_map] at apart
    exact apart
  have names : (route.params.map (·.name)).Nodup → set.names.Nodup := by
    intro paramsApart
    have apart := Merge.nodup_name_canonical settings distinct paramsApart
    rw [← order, List.map_map] at apart
    exact apart
  obtain ⟨params, represented⟩ := merge_covers merged
  exact ⟨keys, names,
    fun paramsApart property member => PropertySet.find?_name_of_mem (names paramsApart) member,
    params, represented⟩

/-- A class with a builder, some of whose setters, fields and accessors have the same names. -/
def orders : Catalog :=
  (Catalog.empty.declare <|
    .mk
      { name := "Order"
        base := .absent
        fields :=
          [{ name := "count", type := .int },
            { name := "note", type := .int },
            { name := "id", type := .int }]
        methods :=
          [{ name := "getId", returns := .int },
            { name := "getRank", returns := .int },
            { name := "isRank", returns := .boolean }] }
      [.mk
        { name := "Builder"
          keywords := [.modifier .static]
          base := .absent
          constructors := [{ name := constructorName, params := [⟨"id", .int, []⟩] }]
          methods :=
            [{ name := "id", params := [⟨"id", .int, []⟩], returns := .ofName "Order.Builder" },
              { name := "count", params := [⟨"n", .int, []⟩], returns := .ofName "Order.Builder" },
              { name := "build", returns := .ofName "Order" }] }
        []]).2

/-- The order's route through its builder, whose constructor takes a number. -/
def ordersRoute? : Option Route := do
  let order ← orders.findByName? "Order"
  let builder ← orders.findByName? "Order.Builder"
  let callable ← builder.constructors.head?
  let finisher ← builder.methods.getLast?
  pure { target := order, start := .constructor, callable, step := some ⟨builder, finisher⟩ }

/-- The number, a setter, a field and an accessor: the setter of the number, the field of the count
and the second accessor of the rank have their names listed already. -/
theorem merge_toldApart_orders :
    ∃ route sources set, ordersRoute? = some route ∧
      (orders.provider.sourcesOf {} route).result = .ok sources ∧
      (orders.provider.merge {} route sources).result = .ok set ∧
      (route.params.map (·.name)).Nodup ∧ set.names = ["id", "count", "note", "rank"] ∧
      (set.fields ++ set.getters).map (·.name) = ["count", "note", "id", "rank", "rank"] ∧
      set.ToldApart route := by
  obtain ⟨route, led⟩ : ∃ route, ordersRoute? = some route :=
    Option.isSome_iff_exists.mp (by decide)
  have apart : ∀ route ∈ ordersRoute?, (route.params.map (·.name)).Nodup := by decide
  have named : ∀ route ∈ ordersRoute?,
      (orders.provider.propertiesAlong {} route).result.toOption.map (fun set =>
        (set.names, (set.fields ++ set.getters).map (·.name))) =
          some (["id", "count", "note", "rank"], ["count", "note", "id", "rank", "rank"]) := by
    decide
  obtain ⟨set, merged, shown⟩ := Attempt.exists_eq_ok_of_shown (named route led)
  obtain ⟨names, rest⟩ := Prod.mk.inj shown
  obtain ⟨sources, found, whole⟩ := Attempt.result_bind_eq_ok_iff.mp merged
  exact ⟨route, sources, set, led, found, whole, apart route led, names, rest,
    merge_toldApart found whole⟩

end Provider

end ValueAnatomy
