/-
**Merging agrees in both report modes.**

The modes leave the merging of annotations at different places. In batch mode it goes through all
names, tells of every repeat and fails when the report is finished; in fail-fast mode it ends at the
first repeat, when some properties have the annotations of their groups and the others their own.
`Merge.stepwise` is merging as it goes, name by name and annotation by annotation, with the report
at hand.

* `Reporting`: computations that tell a report of problems and end where that is a failure;
* `Merge.gather_eq`: gathering the annotations of a group tells of its repeats and keeps the others;
* `Merge.attachEach_after`: attaching goes from what is there after some names to what is there
  after more, and tells of the repeats of their groups;
* `Merge.stepwise_eq_verdict`: step by step, merging comes to the verdict on all repeats;
* `Provider.merge_reportModes`: both modes merge alike, and fail with the same first problem.
-/

import ValueAnatomy.Proofs.Merge.Annotations

namespace ValueAnatomy

/-! ### Reporting -/

/-- A computation with a report at hand, which may end in a failure. -/
abbrev Reporting := ExceptT Failure (StateM Report)

namespace Reporting

/-- Tells of a problem. -/
def tell (problem : Problem) : Reporting Unit := fun report => report.report problem

/-- Tells of problems one after the other. -/
def tellEach (problems : List Problem) : Reporting Unit := Report.reportEach problems

/-- Finishes the report. -/
def close : Reporting Unit := fun report => (report.finish, report)

/-- The outcome of a computation that starts with an empty report. -/
def outcome {α : Type} (mode : ReportMode) (reporting : Reporting α) : Except Failure α :=
  (reporting { mode }).1

theorem bind_apply {α β : Type} (first : Reporting α) (next : α → Reporting β) (report : Report) :
    (first >>= next) report =
      match first report with
      | (.error failure, told) => (.error failure, told)
      | (.ok value, told) => next value told := by
  show ExceptT.bindCont next (first report).1 (first report).2 = _
  rcases first report with ⟨failure | value, told⟩
  · rfl
  · rfl

theorem tellEach_cons (problem : Problem) (rest : List Problem) :
    tellEach (problem :: rest) = tell problem >>= fun () => tellEach rest := by
  funext report
  rw [bind_apply, tellEach, Report.reportEach, tell]
  rcases report.report problem with ⟨failure | _, told⟩
  · rfl
  · rfl

/-- Telling of more problems is telling of the first ones and then of the others. -/
theorem tellEach_append (first second : List Problem) :
    tellEach (first ++ second) = tellEach first >>= fun () => tellEach second := by
  induction first with
  | nil => rfl
  | cons problem rest ih =>
    rw [List.cons_append, tellEach_cons, ih, tellEach_cons, bind_assoc]

/-- Telling of problems and finishing the report comes to the verdict on them. -/
theorem outcome_tellEach_close {α : Type} (mode : ReportMode) (problems : List Problem)
    (value : α) :
    outcome mode (tellEach problems >>= fun () => close >>= fun () => pure value) =
      (Report.verdict mode problems).map fun _ => value := by
  rw [outcome, bind_apply, Report.verdict, tellEach]
  rcases Report.reportEach problems { mode } with ⟨failure | _, told⟩
  · rfl
  · show ((close >>= fun () => pure value) told).1 = told.finish.map fun _ => value
    rw [bind_apply, close]
    cases told.finish with
    | error failure => rfl
    | ok _ => rfl

end Reporting

namespace Merge

open Reporting

/-! ### Gathering -/

/-- Gathers the annotations of one name behind those gathered already: tells of an annotation whose
instance is among those seen, and keeps any other. -/
def gather (name : String) : List Handle → List Annotation → List (Property × Annotation) →
    Reporting (List Annotation)
  | _, gathered, [] => pure gathered
  | seen, gathered, occurrence :: rest =>
    if Drafts.occurring occurrence ∈ seen then do
      tell (Drafts.duplicate name occurrence)
      gather name seen gathered rest
    else
      gather name (Drafts.occurring occurrence :: seen) (gathered ++ [occurrence.2]) rest

/-- **Gathering tells of the repeats and keeps the others.** -/
theorem gather_eq (name : String) (seen : List Handle) (gathered : List Annotation)
    (occurrences : List (Property × Annotation)) :
    gather name seen gathered occurrences =
      tellEach ((repeatsBehind Drafts.occurring seen occurrences).map (Drafts.duplicate name)) >>=
        fun () => pure (gathered ++ ((firstOfEach Drafts.occurring occurrences).filter
          fun occurrence => Drafts.occurring occurrence ∉ seen).map (·.2)) := by
  induction occurrences generalizing seen gathered with
  | nil => simp [gather, repeatsBehind, firstOfEach, tellEach, Report.reportEach]; rfl
  | cons head rest ih =>
    rw [gather, repeatsBehind]
    by_cases known : Drafts.occurring head ∈ seen
    · rw [if_pos known, if_pos known, filter_firstOfEach_cons_of_mem _ known, List.map_cons,
        tellEach_cons, bind_assoc, ih]
    · rw [if_neg known, if_neg known, filter_firstOfEach_cons_of_not_mem _ known, ih,
        List.map_cons, List.append_assoc, List.singleton_append]

/-! ### Properties under way -/

/-- Properties under way. Parameters and setters are read and written, fields and accessors are read
among all and written among those that are left. -/
structure Underway where
  drafts : Drafts
  /-- The fields that are left. -/
  fields : List Property
  /-- The accessors that are left. -/
  getters : List Property

namespace Underway

/-- What merging starts with. -/
def start (drafts : Drafts) : Underway := ⟨drafts, drafts.keptFields, drafts.keptGetters⟩

/-- Changes every property that comes into a list. -/
def change (how : Property → Property) (underway : Underway) : Underway where
  drafts :=
    { underway.drafts with
      params := underway.drafts.params.map how
      setters := underway.drafts.setters.map how }
  fields := underway.fields.map how
  getters := underway.getters.map how

/-- Gives the properties of one name their annotations. -/
def attach (name : String) (annotations : List Annotation) : Underway → Underway :=
  change fun property => if property.name = name then { property with annotations } else property

/-- The lists of the properties, the canonical one among them. -/
def listed (underway : Underway) : PropertySet where
  all :=
    represent (·.name)
      (represent (·.name) (underway.drafts.params ++ underway.drafts.setters) underway.fields)
      underway.getters
  constructorParams := underway.drafts.params
  builderParams := underway.drafts.setters
  fields := underway.fields
  getters := underway.getters

end Underway

/-- Gathers the annotations of names and attaches them, one name after the other. -/
def attachEach : List String → Underway → Reporting Underway
  | [], underway => pure underway
  | name :: rest, underway => do
    let gathered ← gather name [] [] (underway.drafts.occurrences name)
    attachEach rest (underway.attach name gathered)

/-- Merging name by name and annotation by annotation. -/
def stepwise (drafts : Drafts) (mode : ReportMode) : Except Failure PropertySet :=
  outcome mode do
    let underway ← attachEach drafts.names (.start drafts)
    close
    pure underway.listed

/-! ### After some names -/

section After

variable (drafts : Drafts) (done : List String)

/-- A property after some names: those of these names have the annotations of their groups. -/
def attached (property : Property) : Property :=
  if property.name ∈ done then drafts.annotated property else property

/-- What is under way after some names. -/
def after : Underway := (Underway.start drafts).change (attached drafts done)

variable {drafts done}

theorem name_attached (property : Property) :
    (attached drafts done property).name = property.name := by
  rw [attached]
  split <;> rfl

/-- The groups of the other names are untouched. -/
theorem occurrences_after {name : String} (left : name ∉ done) :
    (after drafts done).drafts.occurrences name = drafts.occurrences name := by
  have untouched (properties : List Property) :
      (properties.map (attached drafts done)).filter (·.name == name) =
        properties.filter (·.name == name) := by
    induction properties with
    | nil => rfl
    | cons property rest ih =>
      by_cases named : property.name = name
      · have same : attached drafts done property = property := if_neg (named ▸ left)
        rw [List.map_cons, same, List.filter_cons, List.filter_cons, ih]
      · rw [List.map_cons, List.filter_cons_of_neg, List.filter_cons_of_neg, ih]
        · simpa using named
        · simpa [name_attached] using named
  have group : (after drafts done).drafts.group name = drafts.group name := by
    rw [Drafts.group, Drafts.group, Drafts.sources, Drafts.sources]
    simp only [List.filter_append, after, Underway.change, Underway.start, untouched]
  rw [Drafts.occurrences, group, Drafts.occurrences]

/-- Attaching to one more name the annotations of its group. -/
theorem attach_after (name : String) :
    (after drafts done).attach name (drafts.annotationsFor name) =
      after drafts (done ++ [name]) := by
  have twice (property : Property) :
      (if (attached drafts done property).name = name then
        { attached drafts done property with annotations := drafts.annotationsFor name }
      else attached drafts done property) = attached drafts (done ++ [name]) property := by
    rw [name_attached]
    by_cases named : property.name = name
    · have known : property.name ∈ done ++ [name] := by
        rw [named]
        exact List.mem_append_right _ List.mem_cons_self
      have own : attached drafts (done ++ [name]) property = drafts.annotated property :=
        if_pos known
      rw [if_pos named, own, Drafts.annotated, named, attached]
      split <;> rfl
    · rw [if_neg named, attached, attached]
      simp only [List.mem_append, List.mem_singleton, named, or_false]
  simp only [Underway.attach, after, Underway.change, List.map_map, Function.comp_def, twice]

/-- **Attaching goes from some names to more**, and tells of the repeats of their groups. -/
theorem attachEach_after {names : List String} (apart : (done ++ names).Nodup) :
    attachEach names (after drafts done) =
      tellEach (names.flatMap drafts.duplicatesFor) >>=
        fun () => pure (after drafts (done ++ names)) := by
  induction names generalizing done with
  | nil =>
    rw [List.append_nil]
    rfl
  | cons name rest ih =>
    have left : name ∉ done := fun known =>
      List.disjoint_of_nodup_append apart known List.mem_cons_self
    rw [List.append_cons] at apart
    have gathered : gather name [] [] (drafts.occurrences name) =
        tellEach (drafts.duplicatesFor name) >>=
          fun () => pure (drafts.annotationsFor name) := by
      rw [gather_eq]
      simp [Drafts.duplicatesFor, Drafts.annotationsFor, repeatsOfEach]
    rw [attachEach, occurrences_after left, gathered, List.flatMap_cons, tellEach_append,
      bind_assoc, bind_assoc]
    congr 1
    funext _
    rw [pure_bind, attach_after, ih apart, ← List.append_cons]

/-- After all names every property in a list has the annotations of its group. -/
theorem listed_after_names : (after drafts drafts.names).listed = drafts.merged := by
  have named {property : Property} (source : property ∈ drafts.sources) :
      attached drafts drafts.names property = drafts.annotated property :=
    if_pos (mem_names source)
  have params : drafts.params.map (attached drafts drafts.names) =
      drafts.params.map drafts.annotated :=
    List.map_congr_left fun property member => named (by simp [Drafts.sources, member])
  have setters : drafts.setters.map (attached drafts drafts.names) =
      drafts.setters.map drafts.annotated :=
    List.map_congr_left fun property member => named (by simp [Drafts.sources, member])
  have fields : drafts.keptFields.map (attached drafts drafts.names) =
      drafts.keptFields.map drafts.annotated :=
    List.map_congr_left fun property member =>
      named (by simp [Drafts.sources, List.mem_of_mem_filter member])
  have getters : drafts.keptGetters.map (attached drafts drafts.names) =
      drafts.keptGetters.map drafts.annotated :=
    List.map_congr_left fun property member =>
      named (by simp [Drafts.sources, List.mem_of_mem_filter member])
  simp only [Underway.listed, after, Underway.change, Underway.start, params, setters, fields,
    getters, Drafts.merged, extended_eq_represent]

end After

/-- **Step by step, merging comes to the verdict on all repeats.** -/
theorem stepwise_eq_verdict (drafts : Drafts) (mode : ReportMode) :
    stepwise drafts mode =
      (Report.verdict mode drafts.duplicates).map fun _ => drafts.merged := by
  have untouched (properties : List Property) :
      properties.map (attached drafts []) = properties :=
    (List.map_congr_left fun _ _ => if_neg List.not_mem_nil).trans (List.map_id _)
  have fromStart : Underway.start drafts = after drafts [] := by
    simp only [after, Underway.change, Underway.start, untouched]
  have apart : ([] ++ drafts.names).Nodup := by
    rw [List.nil_append, ← List.map_id drafts.names]
    exact firstOfEach_nodup id _
  rw [stepwise, fromStart, attachEach_after apart, List.nil_append, bind_assoc]
  simp only [pure_bind, listed_after_names]
  exact outcome_tellEach_close mode _ _

end Merge

/-! ### Both modes -/

namespace Provider

open Merge

/-- Merging in a mode is merging step by step with a report in that mode. -/
theorem result_merge_eq_stepwise (provider : Provider) (settings : Settings) (route : Route)
    (sources : Sources) (mode : ReportMode) :
    (provider.merge { settings with reportMode := mode } route sources).result =
      stepwise (drafts provider settings route sources) mode := by
  rw [stepwise_eq_verdict, result_merge]
  rfl

/-- **Both modes merge alike.** In either mode merging is what going step by step comes to, which
ends at different places. Yet it succeeds in the one mode exactly if it does in the other, with the
same properties, and where it fails in batch mode, with some problems, it fails in fail-fast mode
with the first of them. -/
theorem merge_reportModes (provider : Provider) (settings : Settings) (route : Route)
    (sources : Sources) :
    (∀ mode, (provider.merge { settings with reportMode := mode } route sources).result =
      stepwise (drafts provider settings route sources) mode) ∧
    (∀ set, (provider.merge { settings with reportMode := .batch } route sources).result = .ok set ↔
      (provider.merge { settings with reportMode := .failFast } route sources).result = .ok set) ∧
    ∀ failure,
      (provider.merge { settings with reportMode := .batch } route sources).result =
        .error failure →
      ∃ first rest, failure = .problems (first :: rest) ∧
        (provider.merge { settings with reportMode := .failFast } route sources).result =
          .error (.problems [first]) := by
  refine ⟨result_merge_eq_stepwise provider settings route sources, ?_⟩
  rw [result_merge_eq_stepwise, result_merge_eq_stepwise, stepwise_eq_verdict, stepwise_eq_verdict,
    Report.verdict_batch, Report.verdict_failFast]
  cases (drafts provider settings route sources).duplicates with
  | nil => exact ⟨fun _ => Iff.rfl, fun failure refused => nomatch refused⟩
  | cons first rest =>
    refine ⟨fun set => ⟨nofun, nofun⟩, fun failure refused => ⟨first, rest, ?_, rfl⟩⟩
    exact (Except.error.inj refused).symm

/-- A class with two private fields and an accessor for each, which carry the labels of the field. -/
def doublyLabelled? (onFirst onSecond : List Annotation) : Option (Route × Sources) := do
  let pair ← (Catalog.empty.declare <|
    .mk
      { name := "Pair"
        base := .absent
        fields :=
          [ { name := "first", type := .int, keywords := [.access .ownType],
              annotations := onFirst },
            { name := "second", type := .int, keywords := [.access .ownType],
              annotations := onSecond } ]
        constructors := [{ name := constructorName }]
        methods :=
          [ { name := "getFirst", returns := .int, annotations := onFirst },
            { name := "getSecond", returns := .int, annotations := onSecond } ] }
      []).2.findByName? "Pair"
  let callable ← pair.constructors.head?
  pure ({ target := pair, start := .constructor, callable },
    { fields := pair.fields, getters := pair.methods })

/-- Labels that recur on the one property and on the other are told all in batch mode, and the first
of them alone in fail-fast mode. -/
theorem merge_reportModes_labels :
    ∃ route sources failure,
      doublyLabelled? [label 1, label 1] [label 2] = some (route, sources) ∧
      (Catalog.empty.provider.merge { reportMode := .batch } route sources).result =
        .error failure ∧
      failure.found.length = 4 ∧
      ∃ first rest, failure = .problems (first :: rest) ∧
        (Catalog.empty.provider.merge { reportMode := .failFast } route sources).result =
          .error (.problems [first]) := by
  obtain ⟨⟨route, sources⟩, given⟩ : ∃ pair,
      doublyLabelled? [label 1, label 1] [label 2] = some pair :=
    Option.isSome_iff_exists.mp (by decide)
  have counted : ∀ pair ∈ doublyLabelled? [label 1, label 1] [label 2],
      toldCount? (Catalog.empty.provider.merge { reportMode := .batch } pair.1 pair.2).result =
        some 4 := by decide
  obtain ⟨failure, refused, count⟩ := exists_refused_of_toldCount? (counted _ given)
  exact ⟨route, sources, failure, given, refused, count,
    (merge_reportModes Catalog.empty.provider {} route sources).2.2 failure refused⟩

end Provider

end ValueAnatomy
