/-
**What the provider of a catalog answers.**

Whatever a catalog's provider leads to is a type of the catalog, be it by a name, by a reference, by
nesting or by inheritance. Where the catalog is faithful, its types are determined by their handles,
and so is what is above them.

* `Catalog.Faithful.supertypesByHandle`: above a type of a faithful catalog, supertypes depend on
  the handle alone;
* `Catalog.acyclicFrom_of_descending`: types that come after their supertypes are on no cycle;
* `Catalog.members_provider`: the members of a type are those declared on it.
-/

import ValueAnatomy.Finisher
import ValueAnatomy.Proofs.Ancestry.Walk
import ValueAnatomy.Proofs.Catalog.Grown

namespace ValueAnatomy.Catalog

variable {catalog : Catalog}

/-! ### Types -/

theorem mem_types_of_resolve {reference : TypeRef} {type : TypeDecl}
    (resolved : catalog.provider.resolve reference = some type) : type ∈ catalog.types := by
  obtain ⟨_, _, found⟩ := Option.bind_eq_some_iff.mp resolved
  exact mem_types_of_findByName? found

theorem mem_types_of_extends {below above : TypeDecl}
    (step : catalog.provider.Extends below above) : above ∈ catalog.types := by
  obtain ⟨_, _, resolved⟩ := List.mem_filterMap.mp step
  exact mem_types_of_resolve resolved

theorem mem_types_of_nestedOf {around nested : TypeDecl}
    (member : nested ∈ catalog.provider.nestedOf around) : nested ∈ catalog.types := by
  obtain ⟨_, _, resolved⟩ := List.mem_filterMap.mp member
  exact mem_types_of_resolve resolved

theorem mem_types_of_reaches {root type : TypeDecl} (there : root ∈ catalog.types)
    (reaches : catalog.provider.Reaches root type) : type ∈ catalog.types := by
  cases reaches with
  | refl => exact there
  | tail _ step => exact mem_types_of_extends step

/-- **Above a type of a faithful catalog, supertypes depend on the handle alone.** -/
theorem Faithful.supertypesByHandle (faithful : catalog.Faithful) {root : TypeDecl}
    (there : root ∈ catalog.types) : catalog.provider.SupertypesByHandle root := by
  intro first second toFirst toSecond same
  rw [faithful.eq_of_handle (mem_types_of_reaches there toFirst)
    (mem_types_of_reaches there toSecond) same]

/-- **Types that come after all of their supertypes are on no cycle.** -/
theorem acyclicFrom_of_descending {root : TypeDecl} (there : root ∈ catalog.types)
    (descending : ∀ type ∈ catalog.types, ∀ above ∈ catalog.provider.supertypes type,
      above.handle.code < type.handle.code) : catalog.provider.AcyclicFrom root := by
  intro below above reaches inherits same
  have start : below ∈ catalog.types := mem_types_of_reaches there reaches
  have less : above.handle.code < below.handle.code := by
    clear same
    induction inherits with
    | single step => exact descending below start _ step
    | tail way step ih =>
      have between := mem_types_of_reaches start way.to_reflTransGen
      exact UInt32.lt_trans (descending _ between _ step) ih
  rw [same] at less
  exact absurd less (UInt32.lt_irrefl _)

/-! ### Members -/

/-- The methods and constructors of all types. -/
def callables (catalog : Catalog) : List CallableDecl :=
  catalog.types.flatMap fun type => type.constructors ++ type.methods

/-- Members that are reported kind by kind are told apart again by their kinds. -/
theorem members_of_membersOf {provider : Provider} {type : TypeDecl} {fields : List FieldDecl}
    {constructors methods : List CallableDecl} {nested : List TypeDecl}
    (reported : provider.membersOf type =
      fields.map .field ++ constructors.map .constructor ++ methods.map .method ++
        nested.map .type) :
    provider.members type = ⟨fields, constructors, methods, nested⟩ := by
  have nothing : ∀ {α β : Type} (items : List α),
      items.filterMap (fun _ => (none : Option β)) = [] :=
    fun _ => List.filterMap_eq_nil_iff.mpr fun _ _ => rfl
  rw [Provider.members, reported]
  simp [nothing, List.filterMap_append, List.filterMap_map, Function.comp_def, Declaration.field?,
    Declaration.constructor?, Declaration.method?, Declaration.type?]

/-- The members of a type, by kind, are those declared on it and the types nested inside it. -/
theorem members_provider (type : TypeDecl) :
    catalog.provider.members type =
      ⟨type.fields, type.constructors, type.methods, catalog.provider.nestedOf type⟩ :=
  members_of_membersOf rfl

theorem mem_callables_of_constructor {type : TypeDecl} (there : type ∈ catalog.types)
    {callable : CallableDecl} (member : callable ∈ type.constructors) :
    callable ∈ catalog.callables :=
  List.mem_flatMap.mpr ⟨type, there, List.mem_append_left _ member⟩

theorem mem_callables_of_method {type : TypeDecl} (there : type ∈ catalog.types)
    {callable : CallableDecl} (member : callable ∈ type.methods) :
    callable ∈ catalog.callables :=
  List.mem_flatMap.mpr ⟨type, there, List.mem_append_right _ member⟩

end ValueAnatomy.Catalog
