/-
**The setters of a builder are the most specific fluent ones.**

Setters are claimed by their names alone, but only by methods that are setters: open methods of
instances with one parameter that return the builder, or a type of the program above it. So any
other method of that name, wherever it is declared, hides none.

* `Provider.FluentSetter`: what makes a method a setter;
* `Provider.result_settersOf`: the setters in closed form;
* `Provider.settersOf_withMembers`: only the setters among the members count;
* `Provider.settersOf_mostSpecific`: the setters of a builder.
-/

import ValueAnatomy.Proofs.Sources.MostSpecific

namespace ValueAnatomy
namespace Provider

variable {provider : Provider} {settings : Settings} {own : List TypeDecl}

/-- **An open method of instances that takes one value and returns one of the given types.** -/
structure FluentSetter (provider : Provider) (own : List TypeDecl) (method : CallableDecl) :
    Prop where
  notPrivate : method.isPrivate = false
  onInstance : method.isStatic = false
  oneParam : ∃ param, method.params = [param]
  fluent : ∃ result, provider.resolveResult method = some result ∧
    ∃ type ∈ own, provider.sameType result type = true

theorem fluentSetter_iff {method : CallableDecl} :
    provider.FluentSetter own method ↔ provider.isSetter own method = true := by
  simp only [isSetter, Bool.and_eq_true, Bool.not_eq_true', beq_iff_eq, List.length_eq_one_iff,
    Option.any_eq_true, List.any_eq_true]
  constructor
  · rintro ⟨notPrivate, onInstance, oneParam, fluent⟩
    exact ⟨⟨⟨notPrivate, onInstance⟩, oneParam⟩, fluent⟩
  · rintro ⟨⟨⟨notPrivate, onInstance⟩, oneParam⟩, fluent⟩
    exact ⟨notPrivate, onInstance, oneParam, fluent⟩

/-- The setters that a type declares. -/
def declaredSetters (provider : Provider) (own : List TypeDecl) (type : TypeDecl) :
    List CallableDecl :=
  (provider.members type).methods.filter (provider.isSetter own)

theorem mem_declaredSetters {type : TypeDecl} {method : CallableDecl} :
    method ∈ provider.declaredSetters own type ↔
      method ∈ (provider.members type).methods ∧ provider.FluentSetter own method := by
  rw [declaredSetters, List.mem_filter, fluentSetter_iff]

/-- The first setters of each name on the types. -/
def firstSetters (provider : Provider) (own : List TypeDecl) : List CallableDecl :=
  (claimed CallableDecl.name (provider.declaredSetters own) own).map (·.2)

theorem firstSetters_eq_filter :
    provider.firstSetters own =
      ((claimed CallableDecl.name (provider.declaredSetters own) own).filter fun entry =>
        provider.isSetter own entry.2).map (·.2) := by
  rw [firstSetters, List.filter_eq_self.mpr fun entry first => ?_]
  obtain ⟨-, declared⟩ := mem_declaredOn.mp (mem_of_mem_firstOfEach first)
  exact (List.mem_filter.mp declared).2

/-- **The setters of a builder are the first ones of each name along its ancestry.** -/
theorem result_settersOf (provider : Provider) (settings : Settings) (builder : TypeDecl) :
    (provider.settersOf settings builder).result =
      (provider.ancestry builder).result.map fun order =>
        provider.firstSetters (ownTypes settings order) := by
  refine Attempt.result_bind_eq_map fun order => ?_
  have setters : ((ownTypes settings order).flatMap fun type =>
      (provider.members type).methods).filter (provider.isSetter (ownTypes settings order)) =
        (declaredOn (provider.declaredSetters (ownTypes settings order))
          (ownTypes settings order)).map (·.2) := by
    simp [declaredOn, declaredSetters, List.filter_flatMap, List.map_flatMap, Function.comp_def]
  rw [Attempt.result_ofTraced, setters]
  exact congrArg Except.ok (map_firstOfEach CallableDecl.name _ _).symm

/-- A setter on one of the types has a name that is taken. -/
theorem name_mem_firstSetters {type : TypeDecl} {method : CallableDecl} (there : type ∈ own)
    (declared : method ∈ provider.declaredSetters own type) :
    method.name ∈ (provider.firstSetters own).map (·.name) := by
  have listed : (type, method) ∈ declaredOn (provider.declaredSetters own) own :=
    mem_declaredOn.mpr ⟨there, declared⟩
  have first : ∃ kept ∈ claimed CallableDecl.name (provider.declaredSetters own) own,
      kept.2.name = method.name := exists_mem_firstOfEach listed
  obtain ⟨kept, first, same⟩ := first
  rw [← same]
  exact List.mem_map_of_mem (List.mem_map_of_mem first)

/-- **Members that are no setters count for nothing**: where the types of the program declare the
same setters, a builder has the same. -/
theorem settersOf_withMembers {builder : TypeDecl} {order : List TypeDecl}
    {reported : TypeDecl → List Declaration}
    (walked : (provider.ancestry builder).result = .ok order)
    (same : ∀ type ∈ ownTypes settings order,
      (provider.withMembers reported).declaredSetters (ownTypes settings order) type =
        provider.declaredSetters (ownTypes settings order) type) :
    ((provider.withMembers reported).settersOf settings builder).result =
      (provider.settersOf settings builder).result := by
  have setters : (provider.withMembers reported).firstSetters (ownTypes settings order) =
      provider.firstSetters (ownTypes settings order) := by
    rw [firstSetters, firstSetters, claimed_congr same]
  rw [result_settersOf, result_settersOf, ancestry_withMembers, walked]
  exact congrArg Except.ok setters

/-- **The setters of a builder are the most specific ones of its ancestry**: of each name that a
setter has there is one, and no type below declares another. They are the same whatever else the
types declare. -/
theorem settersOf_mostSpecific {builder : TypeDecl} {order : List TypeDecl}
    (walked : (provider.ancestry builder).result = .ok order)
    (acyclic : provider.AcyclicFrom builder) :
    ∃ setters, (provider.settersOf settings builder).result = .ok setters ∧
      MostSpecific (provider.BelowIn order) (ownTypes settings order)
        (provider.declaredSetters (ownTypes settings order)) CallableDecl.name
        (fun _ => provider.FluentSetter (ownTypes settings order)) setters ∧
      (∀ type ∈ ownTypes settings order, ∀ method ∈ (provider.members type).methods,
        provider.FluentSetter (ownTypes settings order) method →
          method.name ∈ setters.map (·.name)) ∧
      ∀ reported : TypeDecl → List Declaration,
        (∀ type ∈ ownTypes settings order,
          (provider.withMembers reported).declaredSetters (ownTypes settings order) type =
            provider.declaredSetters (ownTypes settings order) type) →
        ((provider.withMembers reported).settersOf settings builder).result = .ok setters := by
  have taken : (provider.settersOf settings builder).result =
      .ok (provider.firstSetters (ownTypes settings order)) := by
    rw [result_settersOf, walked]
    rfl
  refine ⟨_, taken, ?_, fun type there method declared fluent => ?_, fun reported same => ?_⟩
  · -- Along an ancestry whatever is below a type stands in front of it, and claims its names first.
    rw [firstSetters_eq_filter]
    exact mostSpecific_claimed (fun _ => fluentSetter_iff.symm) fun _ _ _ split _ inOwn below =>
      mem_lower_of_belowIn (grounded_ancestry acyclic walked) (nodup_ancestry walked) split inOwn
        below
  · exact name_mem_firstSetters there (mem_declaredSetters.mpr ⟨declared, fluent⟩)
  · rw [settersOf_withMembers walked same, taken]

/-- A whole number that a setter takes. -/
def amount : Param where
  name := "amount"
  type := .int

/-- A builder over another one, with methods of all kinds that are called like inherited setters. -/
def crates : Catalog :=
  [TypeSpec.mk
      { name := "BoxBuilder"
        base := .absent
        methods :=
          [{ name := "height", params := [amount], returns := .ofName "BoxBuilder" },
            { name := "width", params := [amount], returns := .ofName "BoxBuilder" },
            { name := "depth", params := [amount], returns := .ofName "BoxBuilder" }] }
      [],
    .mk
      { name := "CrateBuilder"
        base := .is (.ofName "BoxBuilder")
        methods :=
          [{ name := "height", params := [amount], returns := .ofName "CrateBuilder" },
            { name := "width"
              keywords := [.access .ownType]
              params := [amount]
              returns := .ofName "CrateBuilder" },
            { name := "width", params := [amount, amount], returns := .ofName "CrateBuilder" },
            { name := "depth"
              keywords := [.modifier .static]
              params := [amount]
              returns := .ofName "CrateBuilder" },
            { name := "depth", params := [amount], returns := .void }] }
      []].foldl (fun catalog spec => (catalog.declare spec).2) .empty

/-- The crate's own height takes the place of the inherited one, and its other methods that of
none. -/
theorem settersOf_mostSpecific_crates :
    ∃ builder order setters, crates.findByName? "CrateBuilder" = some builder ∧
      (crates.provider.ancestry builder).result = .ok order ∧
      crates.provider.AcyclicFrom builder ∧
      (crates.provider.settersOf {} builder).result = .ok setters ∧
      setters.map (fun setter => (setter.owner, setter.name)) =
        [("CrateBuilder", "height"), ("BoxBuilder", "width"), ("BoxBuilder", "depth")] ∧
      MostSpecific (crates.provider.BelowIn order) (ownTypes {} order)
        (crates.provider.declaredSetters (ownTypes {} order)) CallableDecl.name
        (fun _ => crates.provider.FluentSetter (ownTypes {} order)) setters := by
  obtain ⟨builder, found⟩ : ∃ builder, crates.findByName? "CrateBuilder" = some builder :=
    Option.isSome_iff_exists.mp (by decide)
  have acyclic : crates.provider.AcyclicFrom builder :=
    Catalog.acyclicFrom_of_descending (Catalog.mem_types_of_findByName? found) (by decide)
  have within : ∀ builder ∈ crates.findByName? "CrateBuilder",
      (crates.provider.ancestry builder).result.toOption.map List.length = some 2 := by decide
  have shown : ∀ builder ∈ crates.findByName? "CrateBuilder",
      (crates.provider.settersOf {} builder).result.toOption.map (fun setters =>
        setters.map fun setter => (setter.owner, setter.name)) =
          some [("CrateBuilder", "height"), ("BoxBuilder", "width"), ("BoxBuilder", "depth")] := by
    decide
  obtain ⟨order, walked, -⟩ := Attempt.exists_eq_ok_of_shown (within builder found)
  obtain ⟨setters, taken, specific, -, -⟩ := @settersOf_mostSpecific _ {} _ _ walked acyclic
  have names := shown builder found
  rw [taken] at names
  exact ⟨builder, order, setters, found, walked, acyclic, taken, Option.some.inj names, specific⟩

end Provider
end ValueAnatomy
