/-
**The annotations of merged properties are those of their groups.**

All sources of one name are a group, those too that come to no property themselves: a private field
and an accessor that is dropped have a say in what is attached to the property of their name. Merging
puts the annotations of a group one behind the other, in the order of the sources, and refuses if an
instance occurs twice.

* `Merge.attachedTo`: the annotations of a group, each with the source that holds it;
* `Merge.repeated`: those among them that stand behind another one of the same instance;
* `length_repeatsOfEach`, `repeatsOfEach_eq_filter`: how many repeats there are, and which;
* `Provider.merge_annotations`: when properties are merged, which annotations they carry, and what is
  told of a group where they are not.
-/

import Mathlib.Data.Finset.Card
import ValueAnatomy.Proofs.Merge.Uniqueness

namespace ValueAnatomy

/-! ### Repeats -/

section Repeats

variable {α κ : Type} [DecidableEq κ] (key : α → κ)

/-- The repeats are the items whose key is among those seen or among the keys before them. -/
theorem repeatsBehind_eq_filter (seen : List κ) (items : List α) :
    repeatsBehind key seen items =
      ((items.zip items.inits).filter fun place =>
        key place.1 ∈ seen ∨ key place.1 ∈ place.2.map key).map (·.1) := by
  induction items generalizing seen with
  | nil => rfl
  | cons head rest ih =>
    rw [repeatsBehind, List.inits_cons, List.zip_cons_cons, List.zip_map_right]
    split
    · rename_i known
      rw [List.filter_cons_of_pos (by simpa using known), List.map_cons, ih, List.filter_map,
        List.map_map]
      congr 2
      refine List.filter_congr fun place _ => ?_
      show decide (key place.1 ∈ seen ∨ key place.1 ∈ place.2.map key) =
        decide (key place.1 ∈ seen ∨ key place.1 ∈ (head :: place.2).map key)
      rw [decide_eq_decide, List.map_cons, List.mem_cons]
      by_cases same : key place.1 = key head
      · simp [same, known]
      · simp [same]
    · rename_i fresh
      rw [List.filter_cons_of_neg (by simpa using fresh), ih, List.filter_map, List.map_map]
      congr 1
      refine List.filter_congr fun place _ => ?_
      show decide (key place.1 ∈ key head :: seen ∨ key place.1 ∈ place.2.map key) =
        decide (key place.1 ∈ seen ∨ key place.1 ∈ (head :: place.2).map key)
      rw [decide_eq_decide, List.map_cons, List.mem_cons, List.mem_cons, or_assoc, or_left_comm]

/-- **The repeats are the items whose key is among the keys before them.** -/
theorem repeatsOfEach_eq_filter (items : List α) :
    repeatsOfEach key items =
      ((items.zip items.inits).filter fun place => key place.1 ∈ place.2.map key).map (·.1) := by
  simp [repeatsOfEach, repeatsBehind_eq_filter]

/-- Of the kept items those whose keys are not seen, where the key of the first item is. -/
theorem filter_firstOfEach_cons_of_mem {head : α} {seen : List κ} (known : key head ∈ seen)
    (rest : List α) :
    ((firstOfEach key (head :: rest)).filter fun item => key item ∉ seen) =
      (firstOfEach key rest).filter fun item => key item ∉ seen := by
  rw [firstOfEach, List.filter_cons_of_neg (by simpa using known), List.filter_filter]
  refine List.filter_congr fun item _ => ?_
  by_cases same : key item = key head
  · simp [same, known]
  · simp [same]

/-- Of the kept items those whose keys are not seen, where the key of the first item is new. -/
theorem filter_firstOfEach_cons_of_not_mem {head : α} {seen : List κ} (fresh : key head ∉ seen)
    (rest : List α) :
    ((firstOfEach key (head :: rest)).filter fun item => key item ∉ seen) =
      head :: (firstOfEach key rest).filter fun item => key item ∉ key head :: seen := by
  rw [firstOfEach, List.filter_cons_of_pos (by simpa using fresh), List.filter_filter]
  congr 1
  refine List.filter_congr fun item _ => ?_
  by_cases same : key item = key head
  · simp [same]
  · simp [same]

theorem length_repeatsBehind (seen : List κ) (items : List α) :
    (repeatsBehind key seen items).length +
      ((firstOfEach key items).filter fun item => key item ∉ seen).length = items.length := by
  induction items generalizing seen with
  | nil => rfl
  | cons head rest ih =>
    rw [repeatsBehind]
    by_cases known : key head ∈ seen
    · rw [if_pos known, filter_firstOfEach_cons_of_mem key known, List.length_cons,
        List.length_cons, ← ih seen]
      omega
    · rw [if_neg known, filter_firstOfEach_cons_of_not_mem key known, List.length_cons,
        List.length_cons, ← ih (key head :: seen)]
      omega

/-- **There is one repeat for each item beyond the first of its key.** -/
theorem length_repeatsOfEach (items : List α) :
    (repeatsOfEach key items).length = items.length - (items.map key).toFinset.card := by
  have whole := length_repeatsBehind key [] items
  have kept : ((firstOfEach key items).map key).toFinset = (items.map key).toFinset := by
    ext one
    rw [List.mem_toFinset, List.mem_toFinset, List.mem_map, List.mem_map]
    constructor
    · rintro ⟨item, member, same⟩
      exact ⟨item, mem_of_mem_firstOfEach member, same⟩
    · rintro ⟨item, member, rfl⟩
      exact exists_mem_firstOfEach member
  have distinct := List.toFinset_card_of_nodup (firstOfEach_nodup key items)
  rw [kept, List.length_map] at distinct
  have all : ((firstOfEach key items).filter fun item => key item ∉ ([] : List κ)) =
      firstOfEach key items := by simp
  rw [all, ← distinct] at whole
  rw [repeatsOfEach]
  omega

/-- What a map makes of the items repeats as they do, if the keys are those of what it makes. -/
theorem map_repeatsOfEach {β : Type} (key : β → κ) (map : α → β) (items : List α) :
    (repeatsOfEach (fun item => key (map item)) items).map map =
      repeatsOfEach key (items.map map) := by
  rw [repeatsOfEach, repeatsOfEach]
  generalize ([] : List κ) = seen
  induction items generalizing seen with
  | nil => rfl
  | cons head rest ih =>
    rw [repeatsBehind, List.map_cons, repeatsBehind]
    split
    · rw [List.map_cons, ih]
    · exact ih _

/-- Where all keys differ every item is kept. -/
theorem firstOfEach_of_nodup {items : List α} (apart : (items.map key).Nodup) :
    firstOfEach key items = items := by
  induction items with
  | nil => rfl
  | cons head rest ih =>
    rw [List.map_cons, List.nodup_cons] at apart
    rw [firstOfEach, ih apart.2, List.filter_eq_self.mpr fun other member => ?_]
    rw [bne_iff_ne]
    intro same
    exact apart.1 (same ▸ List.mem_map_of_mem member)

end Repeats

namespace Merge

/-! ### Groups -/

section Groups

variable (provider : Provider) (settings : Settings) (route : Route) (sources : Sources)

/-- All sources along a route: the parameters and the setters of other names, then all fields and
all accessors. -/
def allSources : List PropertySource :=
  paramsOf route sources.setters ++ sources.fields.map .field ++ readings settings sources.getters

/-- The annotations that a provider reports for a source. -/
def reported : PropertySource → List Annotation
  | .field field => provider.annotationsOf (.field field)
  | .getter method _ => provider.annotationsOf (.method method)
  | .constructorParam callable position => provider.paramAnnotationsOf callable position
  | .builderParam setter => provider.paramAnnotationsOf setter 0

/-- The sources of one name. -/
def sourcesNamed (name : String) : List PropertySource :=
  (allSources settings route sources).filter fun source => source.name = name

/-- The annotations of the sources of one name, each with the source that holds it. -/
def attachedTo (name : String) : List (PropertySource × Annotation) :=
  (sourcesNamed settings route sources name).flatMap fun source =>
    (reported provider source).map fun attached => (source, attached)

/-- Those of the annotations that stand behind another one of the same instance. -/
def repeated (occurrences : List (PropertySource × Annotation)) :
    List (PropertySource × Annotation) :=
  ((occurrences.zip occurrences.inits).filter fun place =>
    place.1.2.handle ∈ place.2.map (·.2.handle)).map (·.1)

/-- The names of the sources, in the order in which they first occur. -/
def groupNames : List String := firstOfEach id (namesOf (allSources settings route sources))

/-- What is told of a group: as many problems as there are annotations beyond the instances, one for
each that is repeated, at the source that holds it. -/
structure Blames (occurrences : List (PropertySource × Annotation)) (problems : List Problem) :
    Prop where
  count : problems.length =
    occurrences.length - (occurrences.map (·.2.handle)).toFinset.card
  pointing : List.Forall₂ (fun problem occurrence => problem.kind = .annotatedTwice ∧
    problem.element = some occurrence.1.element) problems (repeated occurrences)

/-! ### Groups of drafts -/

variable {provider settings route sources}

theorem annotations_draft (source : PropertySource) :
    (draft provider source).annotations = reported provider source := by
  cases source <;> rfl

/-- The drafts are those of all sources, in their order. -/
theorem sources_drafts :
    (drafts provider settings route sources).sources =
      (allSources settings route sources).map (draft provider) := by
  rw [Drafts.sources, drafts, allSources, paramsOf, readings_eq_map, filter_namesParam]
  simp only [List.map_append, List.map_map]
  rfl

theorem group_drafts (name : String) :
    (drafts provider settings route sources).group name =
      (sourcesNamed settings route sources name).map (draft provider) := by
  rw [Drafts.group, sources_drafts, List.filter_map, sourcesNamed]
  congr 1

theorem occurrences_drafts (name : String) :
    (drafts provider settings route sources).occurrences name =
      (attachedTo provider settings route sources name).map fun (source, attached) =>
        (draft provider source, attached) := by
  rw [Drafts.occurrences, group_drafts, attachedTo, List.flatMap_map, List.map_flatMap]
  refine List.flatMap_congr fun source _ => ?_
  rw [annotations_draft, List.map_map]
  rfl

/-- The name of every source is listed. -/
theorem mem_names {drafts : Drafts} {property : Property} (source : property ∈ drafts.sources) :
    property.name ∈ drafts.names := by
  have named : property.name ∈ drafts.sources.map (·.name) := List.mem_map_of_mem source
  obtain ⟨kept, member, same⟩ : ∃ kept ∈ drafts.names, id kept = id property.name :=
    exists_mem_firstOfEach named
  rw [id, id] at same
  exact same ▸ member

theorem names_drafts :
    (drafts provider settings route sources).names = groupNames settings route sources := by
  rw [Drafts.names, sources_drafts, List.map_map, groupNames, namesOf]
  rfl

/-- **Without repeats a group's annotations are put one behind the other.** -/
theorem annotationsFor_drafts {name : String}
    (apart : ((attachedTo provider settings route sources name).map (·.2.handle)).Nodup) :
    (drafts provider settings route sources).annotationsFor name =
      (sourcesNamed settings route sources name).flatMap (reported provider) := by
  have occurring : ((drafts provider settings route sources).occurrences name).map
      Drafts.occurring = (attachedTo provider settings route sources name).map (·.2.handle) := by
    rw [occurrences_drafts, List.map_map]
    rfl
  rw [Drafts.annotationsFor, firstOfEach_of_nodup _ (occurring ▸ apart), occurrences_drafts,
    List.map_map, attachedTo, List.map_flatMap]
  refine List.flatMap_congr fun source _ => ?_
  rw [List.map_map]
  exact List.map_id _

/-- **What is told of a group are its repeats**, each at its source. -/
theorem blames_duplicatesFor (name : String) :
    Blames (attachedTo provider settings route sources name)
      ((drafts provider settings route sources).duplicatesFor name) := by
  have repeats : (drafts provider settings route sources).duplicatesFor name =
      (repeatsOfEach (·.2.handle) (attachedTo provider settings route sources name)).map
        fun (source, attached) => Drafts.duplicate name (draft provider source, attached) := by
    rw [Drafts.duplicatesFor, occurrences_drafts, ← map_repeatsOfEach, List.map_map]
    rfl
  constructor
  · rw [repeats, List.length_map, length_repeatsOfEach]
  · rw [repeats, repeatsOfEach_eq_filter, List.forall₂_map_left_iff]
    exact List.forall₂_same.mpr fun occurrence _ => ⟨rfl, rfl⟩

/-- Nothing is told exactly if in no group an instance occurs twice. -/
theorem duplicates_drafts_eq_nil_iff :
    (drafts provider settings route sources).duplicates = [] ↔
      ∀ name, ((attachedTo provider settings route sources name).map (·.2.handle)).Nodup := by
  have told : ∀ name, (drafts provider settings route sources).duplicatesFor name = [] ↔
      ((attachedTo provider settings route sources name).map (·.2.handle)).Nodup := by
    intro name
    rw [Drafts.duplicatesFor, List.map_eq_nil_iff, repeatsOfEach_eq_nil_iff, occurrences_drafts,
      List.map_map]
    rfl
  rw [Drafts.duplicates, List.flatMap_eq_nil_iff]
  constructor
  · intro nothing name
    by_cases named : name ∈ (drafts provider settings route sources).names
    · exact (told name).mp (nothing name named)
    · -- A name of no source has nothing attached to it.
      have nobody : sourcesNamed settings route sources name = [] := by
        refine List.filter_eq_nil_iff.mpr fun source member same => named ?_
        have among : draft provider source ∈ (drafts provider settings route sources).sources := by
          rw [sources_drafts]
          exact List.mem_map_of_mem member
        rw [← of_decide_eq_true same]
        exact mem_names among
      rw [attachedTo, nobody]
      exact List.nodup_nil
  · exact fun apart name _ => (told name).mpr (apart name)

end Groups

end Merge

/-! ### Merging -/

namespace Provider

open Merge

variable {provider : Provider} {settings : Settings} {route : Route} {sources : Sources}

/-- What merging comes to: the verdict on the repeats, and the properties if there are none. -/
theorem result_merge :
    (provider.merge settings route sources).result =
      (Report.verdict settings.reportMode
        (drafts provider settings route sources).duplicates).map fun _ =>
          (drafts provider settings route sources).merged := by
  rw [merge, Attempt.result_bind, Attempt.result_ofTraced]
  cases Report.verdict settings.reportMode (drafts provider settings route sources).duplicates with
  | error failure => rfl
  | ok _ => rfl

/-- Properties are merged exactly if no instance occurs twice in a group. -/
theorem exists_result_merge_iff :
    (∃ set, (provider.merge settings route sources).result = .ok set) ↔
      ∀ name, ((attachedTo provider settings route sources name).map (·.2.handle)).Nodup := by
  rw [← duplicates_drafts_eq_nil_iff, result_merge]
  cases settings.reportMode with
  | batch =>
    rw [Report.verdict_batch]
    split <;> simp_all [Except.map]
  | failFast =>
    rw [Report.verdict_failFast]
    split <;> simp_all [Except.map]

/-- Every property of any list is a draft with the annotations of its group. -/
theorem exists_annotated_of_mem_merged {drafts : Drafts} {property : Property}
    (member : property ∈ drafts.merged.all ++ drafts.merged.constructorParams ++
      drafts.merged.builderParams ++ drafts.merged.fields ++ drafts.merged.getters) :
    ∃ own, property = drafts.annotated own := by
  have ofMap : ∀ {properties : List Property}, property ∈ properties.map drafts.annotated →
      ∃ own, property = drafts.annotated own := by
    intro properties member
    obtain ⟨own, -, rfl⟩ := List.mem_map.mp member
    exact ⟨own, rfl⟩
  simp only [Drafts.merged, extended_eq_represent, List.mem_append] at member
  obtain (((listed | param) | setter) | field) | getter := member
  · rcases mem_of_mem_represent listed with listed | getter
    · rcases mem_of_mem_represent listed with first | field
      · rw [← List.map_append] at first
        exact ofMap first
      · exact ofMap field
    · exact ofMap getter
  · exact ofMap param
  · exact ofMap setter
  · exact ofMap field
  · exact ofMap getter

/-- **Merged properties carry the annotations of their groups.** Merging succeeds exactly if in no
group an instance occurs twice; every property of every list then carries the annotations of its
group, one source behind the other; and where merging fails in batch mode, each group is blamed for
its repeats. -/
theorem merge_annotations (provider : Provider) (settings : Settings) (route : Route)
    (sources : Sources) :
    ((∃ set, (provider.merge settings route sources).result = .ok set) ↔
      ∀ name, ((attachedTo provider settings route sources name).map (·.2.handle)).Nodup) ∧
    (∀ set, (provider.merge settings route sources).result = .ok set →
      ∀ property ∈ set.all ++ set.constructorParams ++ set.builderParams ++ set.fields ++
          set.getters,
        property.annotations =
          (sourcesNamed settings route sources property.name).flatMap (reported provider)) ∧
    (settings.reportMode = .batch → ∀ failure,
      (provider.merge settings route sources).result = .error failure →
        ∃ told : String → List Problem,
          failure = .problems ((groupNames settings route sources).flatMap told) ∧
          ∀ name, Blames (attachedTo provider settings route sources name) (told name)) := by
  refine ⟨exists_result_merge_iff, fun set merged property member => ?_,
    fun batch failure refused => ?_⟩
  · have apart := exists_result_merge_iff.mp ⟨set, merged⟩
    rw [eq_merged_of_result_merge merged] at member
    obtain ⟨own, rfl⟩ := exists_annotated_of_mem_merged member
    exact annotationsFor_drafts (apart own.name)
  · rw [result_merge, batch, Report.verdict_batch] at refused
    split at refused
    · cases refused
    · refine ⟨(drafts provider settings route sources).duplicatesFor, ?_, blames_duplicatesFor⟩
      rw [← names_drafts]
      exact (Except.error.inj refused).symm

/-- How many problems a refusal to merge tells of. -/
def toldCount? : Except Failure PropertySet → Option Nat
  | .ok _ => none
  | .error failure => some failure.found.length

theorem exists_refused_of_toldCount? {outcome : Except Failure PropertySet} {count : Nat}
    (counted : toldCount? outcome = some count) :
    ∃ failure, outcome = .error failure ∧ failure.found.length = count := by
  cases outcome with
  | ok set => cases counted
  | error failure => exact ⟨failure, rfl, Option.some.inj counted⟩

/-- One of several instances of one annotation. -/
def label (index : Nat) : Annotation := ⟨.ofIndex .attachment index, "Label", []⟩

/-- A class that is built from what its private field holds and its accessor reads, with labels on
all three. -/
def labelled? (onParam onField onGetter : List Annotation) : Option (Route × Sources) := do
  let item ← (Catalog.empty.declare <|
    .mk
      { name := "Item"
        base := .absent
        fields :=
          [{ name := "id", type := .int, keywords := [.access .ownType], annotations := onField }]
        constructors := [{ name := constructorName, params := [⟨"id", .int, onParam⟩] }]
        methods := [{ name := "getId", returns := .int, annotations := onGetter }] }
      []).2.findByName? "Item"
  let callable ← item.constructors.head?
  pure ({ target := item, start := .constructor, callable },
    { fields := item.fields, getters := item.methods })

/-- Different labels are put one behind the other, that of the private field between the others;
labels that recur, in one source or in another, are told one by one. -/
theorem merge_annotations_labels :
    (∃ route sources set,
      labelled? [label 1] [label 2] [label 3, label 4] = some (route, sources) ∧
      (Catalog.empty.provider.merge {} route sources).result = .ok set ∧
      set.names = ["id"] ∧ set.fields = [] ∧
      ∀ property ∈ set.all ++ set.constructorParams ++ set.builderParams ++ set.fields ++
          set.getters,
        property.annotations =
          (sourcesNamed {} route sources property.name).flatMap
            (reported Catalog.empty.provider)) ∧
    ∃ route sources failure,
      labelled? [label 1] [label 2, label 2] [label 1] = some (route, sources) ∧
      (Catalog.empty.provider.merge {} route sources).result = .error failure ∧
      failure.found.length = 2 ∧
      ∃ told : String → List Problem,
        failure = .problems ((groupNames {} route sources).flatMap told) ∧
        ∀ name, Blames (attachedTo Catalog.empty.provider {} route sources name) (told name) := by
  constructor
  · obtain ⟨⟨route, sources⟩, given⟩ : ∃ pair,
        labelled? [label 1] [label 2] [label 3, label 4] = some pair :=
      Option.isSome_iff_exists.mp (by decide)
    have shown : ∀ pair ∈ labelled? [label 1] [label 2] [label 3, label 4],
        (Catalog.empty.provider.merge {} pair.1 pair.2).result.toOption.map (fun set =>
          (set.names, set.fields)) = some (["id"], []) := by decide
    obtain ⟨set, merged, seen⟩ := Attempt.exists_eq_ok_of_shown (shown _ given)
    obtain ⟨names, fields⟩ := Prod.mk.inj seen
    exact ⟨route, sources, set, given, merged, names, fields,
      (merge_annotations _ _ route sources).2.1 set merged⟩
  · obtain ⟨⟨route, sources⟩, given⟩ : ∃ pair,
        labelled? [label 1] [label 2, label 2] [label 1] = some pair :=
      Option.isSome_iff_exists.mp (by decide)
    have counted : ∀ pair ∈ labelled? [label 1] [label 2, label 2] [label 1],
        toldCount? (Catalog.empty.provider.merge {} pair.1 pair.2).result = some 2 := by decide
    obtain ⟨failure, refused, count⟩ := exists_refused_of_toldCount? (counted _ given)
    exact ⟨route, sources, failure, given, refused, count,
      (merge_annotations _ _ route sources).2.2 rfl failure refused⟩

end Provider

end ValueAnatomy
