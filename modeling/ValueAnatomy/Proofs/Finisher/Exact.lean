/-
**A finisher is singled out among its rivals, and nothing else decides.**

Of the methods along the ancestry of a builder, each signature is stood for by the first. In a grown
catalog whose types all have handles of their own, the finisher is chosen among the open instance
methods without parameters that lead to a type which is neither the builder nor one of the platform;
where there is none, among those that return the type around the builder.

* `SingledOut`: what it means to be the only candidate, or the only one named for the purpose;
* `Catalog.Faithful.yieldsBuilt_eq`: the tests on the result as written add nothing to those on the
  type it leads to;
* `Catalog.enclosing_of_standIn`: a method can stand in for a finisher only where the type
  around the builder is one of the platform, or the builder itself;
* `Catalog.finisher?_exact`: the finisher of a builder.
-/

import ValueAnatomy.Proofs.Catalog.Built
import ValueAnatomy.Proofs.Finisher.Choice
import ValueAnatomy.Proofs.Route.Rooted

namespace ValueAnatomy

theorem sole?_eq_none_iff {α : Type} {items : List α} :
    sole? items = none ↔ items = [] ∨ 2 ≤ items.length := by
  match items with
  | [] => simp [sole?]
  | [only] => simp [sole?]
  | _ :: _ :: _ => simp [sole?]

/-- A method is the only candidate, or of several the only one that is named with a build verb. -/
def SingledOut (settings : Settings) (candidates : List CallableDecl) (method : CallableDecl) :
    Prop :=
  candidates = [method] ∨
    2 ≤ candidates.length ∧
      (candidates.filter fun candidate => settings.isBuildVerb candidate.name) = [method]

/-- Whether a method is open, of instances and without parameters. -/
def CallableDecl.isOpenNullary (method : CallableDecl) : Bool :=
  !method.isPrivate && !method.isStatic && method.params.isEmpty

namespace Provider

variable {provider : Provider} {settings : Settings}

/-- **The preferred finisher is the candidate that is singled out.** -/
theorem preferredFinisher?_eq_some_iff {candidates : List CallableDecl} {method : CallableDecl} :
    preferredFinisher? settings candidates = some method ↔
      SingledOut settings candidates method := by
  rw [preferredFinisher?, Option.or_eq_some_iff, sole?_eq_some_iff, sole?_eq_some_iff,
    sole?_eq_none_iff, SingledOut]
  refine or_congr_right (and_congr_left fun named => ?_)
  refine ⟨fun count => count.resolve_left ?_, .inr⟩
  rintro rfl
  cases named

/-- The methods of types, of each signature the first. -/
def firstMethods (provider : Provider) (order : List TypeDecl) : List CallableDecl :=
  firstOfEach CallableDecl.overrideKey (order.flatMap fun type => (provider.members type).methods)

theorem visibleForms_eq_filter (order : List TypeDecl) :
    provider.visibleForms order =
      (provider.firstMethods order).filter CallableDecl.isOpenNullary := by
  refine List.filter_congr fun method _ => ?_
  simp only [List.all_cons, List.all_nil, Bool.and_true, ← Bool.and_assoc]
  rfl

end Provider

namespace Catalog

open Provider

variable {catalog : Catalog} {settings : Settings} {builder : TypeDecl}

/-- The open instance methods without parameters along an ancestry that lead to a type which is
neither the builder nor one of the platform. -/
def ordinaryFinishers (catalog : Catalog) (settings : Settings) (builder : TypeDecl)
    (order : List TypeDecl) : List CallableDecl :=
  (catalog.provider.firstMethods order).filter fun method => method.isOpenNullary &&
    (catalog.provider.resolveResult method).any fun result =>
      result != builder && !settings.isPlatform result

/-- The open instance methods without parameters along an ancestry that lead to the given type. -/
def standIns (catalog : Catalog) (order : List TypeDecl) (enclosing : TypeDecl) :
    List CallableDecl :=
  (catalog.provider.firstMethods order).filter fun method => method.isOpenNullary &&
    catalog.provider.resolveResult method == some enclosing

/-- Types of a faithful catalog are the same by their handles exactly if they are one. -/
theorem Faithful.sameType_eq (faithful : catalog.Faithful) {first second : TypeDecl}
    (firstThere : first ∈ catalog.types) (secondThere : second ∈ catalog.types) :
    catalog.provider.sameType first second = (first == second) := by
  rw [Bool.eq_iff_iff, beq_iff_eq]
  constructor
  · intro same
    exact faithful.eq_of_handle firstThere secondThere (beq_iff_eq.mp same)
  · rintro rfl
    exact beq_self_eq_true first.handle

/-- A result that leads to a type is named like the type. -/
theorem Faithful.returns_of_resolveResult (faithful : catalog.Faithful)
    (distinct : catalog.DistinctHandles) {method : CallableDecl} {result : TypeDecl}
    (resolved : catalog.provider.resolveResult method = some result) :
    ∃ arguments, method.returns = .named result.fullName arguments := by
  obtain ⟨fullName, written, found⟩ := Option.bind_eq_some_iff.mp resolved
  obtain ⟨arguments, returns⟩ := TypeRef.fullName?_eq_some_iff.mp written
  obtain ⟨-, rfl⟩ := (faithful.findByName?_eq_some_iff distinct).mp found
  exact ⟨arguments, returns⟩

/-- **A method yields what a builder builds exactly if it leads to another type that is not of the
platform**: whatever leads to such a type is neither void nor primitive, nor named as one of the
platform. -/
theorem Faithful.yieldsBuilt_eq (faithful : catalog.Faithful) (distinct : catalog.DistinctHandles)
    (there : builder ∈ catalog.types) (method : CallableDecl) :
    catalog.provider.yieldsBuilt settings builder method =
      (catalog.provider.resolveResult method).any fun result =>
        result != builder && !settings.isPlatform result := by
  rw [yieldsBuilt]
  cases resolved : catalog.provider.resolveResult method with
  | none => exact Bool.and_false _
  | some result =>
    obtain ⟨arguments, written⟩ := faithful.returns_of_resolveResult distinct resolved
    have names : namesBuilt settings method = !settings.isPlatformName result.fullName := by
      rw [namesBuilt, written]
      rfl
    rw [Option.any_some, Option.any_some,
      faithful.sameType_eq (mem_types_of_resolve resolved) there, names, Settings.isPlatform]
    cases settings.isPlatformName result.fullName <;> simp [bne]

/-- The type around a type, if it has one, is in the catalog. -/
theorem mem_types_of_enclosingOf {type enclosing : TypeDecl}
    (around : catalog.provider.enclosingOf type = some enclosing) : enclosing ∈ catalog.types := by
  obtain ⟨_, _, resolved⟩ := Option.bind_eq_some_iff.mp around
  exact mem_types_of_resolve resolved

theorem Faithful.returnsType_eq (faithful : catalog.Faithful) {enclosing : TypeDecl}
    (there : enclosing ∈ catalog.types) (method : CallableDecl) :
    catalog.provider.returnsType method enclosing =
      (catalog.provider.resolveResult method == some enclosing) := by
  rw [Bool.eq_iff_iff, beq_iff_eq]
  constructor
  · exact faithful.resolveResult_of_returnsType there
  · intro resolved
    rw [returnsType, resolved, Option.any_some, faithful.sameType_eq there there]
    exact beq_self_eq_true enclosing

/-- The candidates are the ordinary finishers, or else the methods that stand in for them. -/
theorem Faithful.finisherCandidates_eq (faithful : catalog.Faithful)
    (distinct : catalog.DistinctHandles) (there : builder ∈ catalog.types)
    (order : List TypeDecl) :
    catalog.provider.finisherCandidates settings builder order =
      if catalog.ordinaryFinishers settings builder order = [] then
        ((catalog.provider.enclosingOf builder).map (catalog.standIns order)).getD []
      else catalog.ordinaryFinishers settings builder order := by
  have ordinary : (catalog.provider.visibleForms order).filter
      (catalog.provider.yieldsBuilt settings builder) =
        catalog.ordinaryFinishers settings builder order := by
    rw [visibleForms_eq_filter, List.filter_filter]
    refine List.filter_congr fun method _ => ?_
    rw [faithful.yieldsBuilt_eq distinct there, Bool.and_comm]
  have standing : catalog.provider.enclosingFinishers builder
      (catalog.provider.visibleForms order) =
        ((catalog.provider.enclosingOf builder).map (catalog.standIns order)).getD [] := by
    rw [enclosingFinishers]
    cases around : catalog.provider.enclosingOf builder with
    | none => rfl
    | some enclosing =>
      dsimp only
      rw [visibleForms_eq_filter, List.filter_filter]
      refine List.filter_congr fun method _ => ?_
      rw [faithful.returnsType_eq (mem_types_of_enclosingOf around), Bool.and_comm]
  rw [finisherCandidates, ordinary, standing]
  simp only [List.isEmpty_iff]

/-- **A method stands in only for a type of the platform, or for the builder itself**: one that led
to any other type around the builder would be an ordinary finisher. -/
theorem enclosing_of_standIn {order : List TypeDecl}
    (nothing : catalog.ordinaryFinishers settings builder order = []) {enclosing : TypeDecl}
    {method : CallableDecl} (standsIn : method ∈ catalog.standIns order enclosing) :
    settings.isPlatform enclosing = true ∨ enclosing = builder := by
  by_contra neither
  obtain ⟨ofProgram, other⟩ := not_or.mp neither
  obtain ⟨visible, holds⟩ := List.mem_filter.mp standsIn
  obtain ⟨form, resolved⟩ := Bool.and_eq_true_iff.mp holds
  have ordinary : method ∈ catalog.ordinaryFinishers settings builder order := by
    refine List.mem_filter.mpr ⟨visible, ?_⟩
    rw [form, beq_iff_eq.mp resolved, Option.any_some, bne_iff_ne.mpr other,
      Bool.eq_false_iff.mpr ofProgram]
    rfl
  rw [nothing] at ordinary
  cases ordinary

/-- **The finisher of a builder** whose ancestry is not too deep is singled out among its ordinary
finishers. Where it has none, it is singled out among the methods that return the type around the
builder; and these can only stand in where that type is one of the platform, or the builder. -/
theorem finisher?_exact (grown : catalog.Grown) (distinct : catalog.DistinctHandles)
    (there : builder ∈ catalog.types) {order : List TypeDecl}
    (walked : (catalog.provider.ancestry builder).result = .ok order) :
    ∃ found, (catalog.provider.finisher? settings builder).result = .ok found ∧
      (catalog.ordinaryFinishers settings builder order ≠ [] → ∀ method, found = some method ↔
        SingledOut settings (catalog.ordinaryFinishers settings builder order) method) ∧
      (catalog.ordinaryFinishers settings builder order = [] →
        (∀ method, found = some method ↔
          ∃ enclosing, catalog.provider.enclosingOf builder = some enclosing ∧
            SingledOut settings (catalog.standIns order enclosing) method) ∧
        ∀ method enclosing, found = some method →
          catalog.provider.enclosingOf builder = some enclosing →
            settings.isPlatform enclosing = true ∨ enclosing = builder) := by
  have outcome : (catalog.provider.finisher? settings builder).result =
      .ok (preferredFinisher? settings
        (catalog.provider.finisherCandidates settings builder order)) := by
    rw [result_finisher?, walked]
    rfl
  have candidates : catalog.provider.finisherCandidates settings builder order = _ :=
    grown.faithful.finisherCandidates_eq distinct there order
  refine ⟨_, outcome, fun anyOrdinary method => ?_, fun nothing => ?_⟩
  · rw [candidates, if_neg anyOrdinary]
    exact preferredFinisher?_eq_some_iff
  · rw [candidates, if_pos nothing]
    cases around : catalog.provider.enclosingOf builder with
    | none =>
      have noneFound : preferredFinisher? settings [] = none := rfl
      exact ⟨fun method => by simp [noneFound], nofun⟩
    | some enclosing =>
      refine ⟨fun method => ?_, fun method _ chosen same => ?_⟩
      · rw [Option.map_some, Option.getD_some, preferredFinisher?_eq_some_iff]
        simp
      · obtain rfl := Option.some.inj same
        exact enclosing_of_standIn nothing (mem_of_preferredFinisher? chosen)

/-- A builder that refines what it inherits, and besides its parcel yields a label. -/
def parcels : Catalog :=
  [TypeSpec.mk { form := .interface, name := "Parcel" } [],
    .mk { form := .interface, name := "Label" } [],
    .mk
      { form := .interface
        name := "Maker"
        methods :=
          [{ name := "build", returns := .ofName "Label" },
            { name := "label", returns := .ofName "Label" }] }
      [],
    .mk
      { name := "ParcelBuilder"
        base := .absent
        interfaces := [.ofName "Maker"]
        methods :=
          [{ name := "build", returns := .ofName "Parcel" },
            { name := "weight", returns := .int },
            { name := "self", returns := .ofName "ParcelBuilder" }] }
      []].foldl (fun catalog spec => (catalog.declare spec).2) .empty

/-- Of the two methods that yield something, the one named for building is the finisher of the
parcel's builder; the inherited one of that name is no longer visible. -/
theorem finisher?_exact_parcels :
    parcels.Grown ∧ parcels.DistinctHandles ∧
    ∃ builder order found, parcels.findByName? "ParcelBuilder" = some builder ∧
      (parcels.provider.ancestry builder).result = .ok order ∧
      (parcels.ordinaryFinishers {} builder order).map (·.key.text) =
        ["ParcelBuilder.build()", "Maker.label()"] ∧
      (parcels.provider.finisher? {} builder).result = .ok found ∧
      found.map (·.key.text) = some "ParcelBuilder.build()" ∧
      ∀ method, found = some method ↔
        SingledOut {} (parcels.ordinaryFinishers {} builder order) method := by
  have grown : parcels.Grown := Grown.empty.declareAll _
  have distinct : parcels.DistinctHandles := by
    unfold DistinctHandles
    decide
  obtain ⟨builder, named⟩ : ∃ builder, parcels.findByName? "ParcelBuilder" = some builder :=
    Option.isSome_iff_exists.mp (by decide)
  have ordinary : ∀ builder ∈ parcels.findByName? "ParcelBuilder",
      (parcels.provider.ancestry builder).result.toOption.map (fun order =>
        (parcels.ordinaryFinishers {} builder order).map (·.key.text)) =
          some ["ParcelBuilder.build()", "Maker.label()"] := by decide
  have shown : ∀ builder ∈ parcels.findByName? "ParcelBuilder",
      (parcels.provider.finisher? {} builder).result.toOption.map (fun found =>
        found.map (·.key.text)) = some (some "ParcelBuilder.build()") := by decide
  obtain ⟨order, walked, candidates⟩ := Attempt.exists_eq_ok_of_shown (ordinary builder named)
  obtain ⟨found, outcome, chosen, -⟩ :=
    @finisher?_exact _ {} _ grown distinct (mem_types_of_findByName? named) _ walked
  have text := shown builder named
  rw [outcome] at text
  refine ⟨grown, distinct, builder, order, found, named, walked, candidates, outcome,
    Option.some.inj text, chosen fun nothing => ?_⟩
  rw [nothing] at candidates
  cases candidates

/-- Inside a type of the platform, a method that returns it stands in. -/
example :
    let outer := (Catalog.empty.declare <|
      .mk { package := "javax", name := "Outer", base := .absent }
        [.mk
          { name := "Builder"
            base := .absent
            methods := [{ name := "get", returns := .ofName "javax.Outer" }] }
          []]).2
    (outer.findByName? "javax.Outer.Builder").map (fun builder =>
      (outer.provider.finisher? {} builder).result.toOption.map (Option.map (·.name))) =
        some (some (some "get")) := by
  decide

end Catalog

end ValueAnatomy
