/-
**Nested types stand inside the types that they were declared in.**

A declaration enters one type for every specification of its tree, each in front of those inside it.
A type knows the one around it and those inside it by their full names alone, and these are worked
out before any of the types inside is entered. Once all are entered each of the names leads to the
type that was declared there: whatever a name leads to when it is entered it leads to ever after, as
long as the indices of types do not wrap around.

* `TypeTree`: types, each with those declared inside it;
* `Catalog.Settled`: a type is what its specification asks for, and the names that it holds lead to
  the types around and inside it, and from its members back to it;
* `Catalog.StandsAs`: every type of a tree is settled;
* `Catalog.declare_nested`: what a declaration that succeeds leaves behind.
-/

import ValueAnatomy.Proofs.Catalog.Preorder

namespace ValueAnatomy

/-- A declared type with the types declared inside it. -/
inductive TypeTree where
  | mk (type : TypeDecl) (inside : List TypeTree)

namespace TypeTree

/-- The outermost type. -/
def type : TypeTree → TypeDecl
  | mk type _ => type

mutual

/-- The types of a tree, each in front of those inside it. -/
def preorder : TypeTree → List TypeDecl
  | mk type inside => type :: preorderAll inside

/-- The types of trees, tree by tree. -/
def preorderAll : List TypeTree → List TypeDecl
  | [] => []
  | tree :: rest => tree.preorder ++ preorderAll rest

end

theorem type_mem_preorder (tree : TypeTree) : tree.type ∈ tree.preorder := by
  cases tree
  exact List.mem_cons_self

theorem mem_preorderAll_of_outermost {trees : List TypeTree} {type : TypeDecl}
    (outermost : type ∈ trees.map (·.type)) : type ∈ preorderAll trees := by
  induction trees with
  | nil => cases outermost
  | cons tree rest ih =>
    rcases List.mem_cons.mp outermost with rfl | later
    · exact List.mem_append_left _ tree.type_mem_preorder
    · exact List.mem_append_right _ (ih later)

end TypeTree

/-- A type inside another is called after it. -/
theorem Place.fullName_inside (place : Place) (name : String) :
    (place.inside name).fullName = place.fullName ++ "." ++ name := by
  unfold Place.fullName Place.inside qualified
  split <;> simp only [String.append_assoc]

/-- Where a declared type stands. -/
def TypeDecl.place (type : TypeDecl) : Place := ⟨type.package, type.name⟩

/-- The full names under which the members of a type are declared. -/
def TypeDecl.owners (type : TypeDecl) : List String :=
  type.fields.map (·.owner) ++ (type.constructors ++ type.methods).map (·.owner)

/-- The full name of a type declared at the top or inside another. -/
def TypeHead.nameWithin (around : Option TypeDecl) (head : TypeHead) : String :=
  match around with
  | none => qualified head.package head.name
  | some parent => parent.fullName ++ "." ++ head.name

namespace Catalog

/-- **A type is settled** where it is what its specification asks for, and where every name that it
holds leads to the type that is meant. -/
structure Settled (catalog : Catalog) (around : Option TypeDecl) (head : TypeHead)
    (nestedNames : List String) (type : TypeDecl) (inside : List TypeDecl) : Prop where
  /-- But for its handles it is what its specification says. -/
  declared : type.unmarked = head.declared (around.map TypeDecl.place) nestedNames
  /-- It is called after the type around it. -/
  called : type.fullName = head.nameWithin around
  /-- It is found under its name. -/
  found : catalog.findByName? type.fullName = some type
  /-- The type around it is the one that it was declared in. -/
  enclosed : catalog.provider.enclosingOf type = around
  /-- The types inside it are those declared there, in their order. -/
  nested : catalog.provider.nestedOf type = inside
  /-- The owner of each member is the type, and is found by its name. -/
  owned : ∀ owner ∈ type.owners,
    owner = type.fullName ∧ catalog.findByName? owner = some type

mutual

/-- Every type of a tree is settled, at the top or inside a type, as the specification that stands
at its place asks for. -/
def StandsAs (catalog : Catalog) (around : Option TypeDecl) : TypeSpec → TypeTree → Prop
  | .mk head nested, .mk type inside =>
    catalog.Settled around head (nested.map (·.head.name)) type (inside.map (·.type)) ∧
      catalog.StandInside type nested inside

/-- As many trees as specifications stand inside a type, each as its specification asks for. -/
def StandInside (catalog : Catalog) (around : TypeDecl) : List TypeSpec → List TypeTree → Prop
  | [], [] => True
  | spec :: specs, tree :: trees =>
    catalog.StandsAs (some around) spec tree ∧ catalog.StandInside around specs trees
  | _, _ => False

end

variable {catalog grown last : Catalog} {type : TypeDecl}

/-! ### One type -/

/-- In a faithful catalog the reference to a type leads to it. -/
theorem Faithful.resolve_reference (faithful : last.Faithful) (there : type ∈ last.types) :
    last.provider.resolve type.reference = some type :=
  faithful.found type there

theorem Faithful.filterMap_resolve_reference (faithful : last.Faithful) {types : List TypeDecl}
    (there : ∀ type ∈ types, type ∈ last.types) :
    (types.map TypeDecl.reference).filterMap last.provider.resolve = types := by
  induction types with
  | nil => rfl
  | cons type rest ih =>
    rw [List.map_cons, List.filterMap_cons_some
      (faithful.resolve_reference (there type List.mem_cons_self)),
      ih fun other member => there other (List.mem_cons_of_mem _ member)]

/-- **A type that is what its specification says is settled**, once the types around and inside it
stand in the catalog too. -/
theorem Faithful.settled (faithful : last.Faithful) {around : Option TypeDecl} {head : TypeHead}
    {nestedNames : List String} {inside : List TypeDecl}
    (declared : type.unmarked = head.declared (around.map TypeDecl.place) nestedNames)
    (places : inside.map TypeDecl.place = nestedNames.map type.place.inside)
    (there : type ∈ last.types) (aroundThere : ∀ parent ∈ around, parent ∈ last.types)
    (insideThere : ∀ inner ∈ inside, inner ∈ last.types) :
    last.Settled around head nestedNames type inside := by
  have place : type.place = head.place (around.map TypeDecl.place) :=
    congrArg TypeDecl.place declared
  have enclosing : type.enclosing = around.map TypeDecl.reference := by
    have written := congrArg TypeDecl.enclosing declared
    cases around <;> exact written
  have nested : type.nested = inside.map TypeDecl.reference := by
    calc type.nested
        = (nestedNames.map type.place.inside).map fun inner => .ofName inner.fullName := by
          rw [place, List.map_map]
          exact congrArg TypeDecl.nested declared
      _ = inside.map TypeDecl.reference := by
          rw [← places, List.map_map]
          rfl
  refine ⟨declared, ?_, faithful.found type there, ?_, ?_, fun owner member => ?_⟩
  · change type.place.fullName = _
    rw [place]
    cases around with
    | none => rfl
    | some parent => exact parent.place.fullName_inside head.name
  · change type.enclosing.bind last.provider.resolve = around
    rw [enclosing]
    cases around with
    | none => rfl
    | some parent => exact faithful.resolve_reference (aroundThere parent rfl)
  · change type.nested.filterMap last.provider.resolve = inside
    rw [nested]
    exact faithful.filterMap_resolve_reference insideThere
  · have owns := faithful.owned type there
    obtain rfl : owner = type.fullName := by
      rcases List.mem_append.mp member with ofField | ofCallable
      · obtain ⟨field, fieldThere, rfl⟩ := List.mem_map.mp ofField
        exact owns.fields field fieldThere
      · obtain ⟨callable, callableThere, rfl⟩ := List.mem_map.mp ofCallable
        rcases List.mem_append.mp callableThere with constructor | method
        · exact (owns.constructors callable constructor).1
        · exact (owns.methods callable method).1
    exact ⟨rfl, faithful.found type there⟩

/-! ### Trees of types -/

mutual

/-- **A declaration that succeeds enters a tree of types in preorder**, and wherever these and the
type around them are known they are settled. -/
theorem exists_tree_of_declareAt (around : Option Place) : ∀ (spec : TypeSpec)
    {catalog grown : Catalog} {type : TypeDecl},
    declareAt around spec catalog = (.ok type, grown) →
      ∃ tree : TypeTree, tree.type = type ∧ Enters catalog tree.preorder grown ∧
        type.place = spec.head.place around ∧
        ∀ (last : Catalog) (parent : Option TypeDecl), last.Faithful →
          around = parent.map TypeDecl.place → (∀ outer ∈ parent, outer ∈ last.types) →
          (∀ inner ∈ tree.preorder, inner ∈ last.types) → last.StandsAs parent spec tree
  | .mk head nested, catalog, grown, type, declared => by
    rw [declareAt] at declared
    split at declared
    · cases declared
    · rename_i first between declaredHead
      split at declared
      · cases declared
      · rename_i later declaredNested
        obtain ⟨rfl, rfl⟩ : first = type ∧ later = grown :=
          ⟨Except.ok.inj (Prod.mk.inj declared).1, (Prod.mk.inj declared).2⟩
        have entered : catalog.declarePlaced ⟨around, head, nested.map (·.head.name)⟩ =
            (.ok first, between) := declaredHead
        have enters := (enters_of_declared entered).1
        have unmarked := unmarked_of_declareHead declaredHead
        have place : first.place = head.place around := congrArg TypeDecl.place unmarked
        obtain ⟨trees, entersInside, places, standInside⟩ :=
          exists_trees_of_declareNested (head.place around) nested declaredNested
        refine ⟨.mk first trees, rfl, enters.append entersInside, place, ?_⟩
        rintro last parent faithful rfl parentThere there
        obtain ⟨firstThere, insideThere⟩ := List.forall_mem_cons.mp there
        refine ⟨faithful.settled unmarked ?_ firstThere parentThere fun inner member =>
            insideThere inner (TypeTree.mem_preorderAll_of_outermost member),
          standInside last first faithful place.symm firstThere insideThere⟩
        rw [place, List.map_map, List.map_map]
        exact places

/-- Declarations inside a place that succeed enter trees of types. -/
theorem exists_trees_of_declareNested (around : Place) : ∀ (specs : List TypeSpec)
    {catalog grown : Catalog}, declareNested around specs catalog = (.ok (), grown) →
      ∃ trees : List TypeTree, Enters catalog (TypeTree.preorderAll trees) grown ∧
        trees.map (·.type.place) = specs.map (around.inside ·.head.name) ∧
        ∀ (last : Catalog) (parent : TypeDecl), last.Faithful →
          around = parent.place → parent ∈ last.types →
          (∀ inner ∈ TypeTree.preorderAll trees, inner ∈ last.types) →
            last.StandInside parent specs trees
  | [], catalog, grown, declared => by
    obtain rfl : catalog = grown := (Prod.mk.inj declared).2
    exact ⟨[], .nothing catalog, rfl, fun _ _ _ _ _ _ => trivial⟩
  | spec :: rest, catalog, grown, declared => by
    rw [declareNested] at declared
    split at declared
    · cases declared
    · rename_i type between declaredFirst
      obtain ⟨tree, rfl, enters, place, stands⟩ :=
        exists_tree_of_declareAt (some around) spec declaredFirst
      obtain ⟨trees, entersRest, places, standInside⟩ :=
        exists_trees_of_declareNested around rest declared
      refine ⟨tree :: trees, enters.append entersRest, ?_, ?_⟩
      · rw [List.map_cons, List.map_cons, place, places]
        rfl
      · rintro last parent faithful rfl parentThere there
        obtain ⟨treeThere, treesThere⟩ := List.forall_mem_append.mp there
        exact ⟨stands last (some parent) faithful rfl (by rintro _ ⟨⟩; exact parentThere) treeThere,
          standInside last parent faithful rfl parentThere treesThere⟩

end

/-! ### Populated catalogs -/

theorem Grown.exists_enters (populated : catalog.Grown) : ∃ types, Enters .empty types catalog := by
  induction populated with
  | empty => exact ⟨[], .nothing .empty⟩
  | @minted catalog kind _ ih =>
    obtain ⟨types, enters⟩ := ih
    exact ⟨types ++ [], enters.append (.mint kind (.nothing _))⟩
  | @declared catalog spec _ ih =>
    obtain ⟨types, enters⟩ := ih
    exact ⟨types ++ spec.entered none catalog, enters.append (enters_declareAt none spec catalog)⟩

/-- However a catalog was populated, it lists its types in the order in which they were entered. -/
theorem Grown.inStep (populated : catalog.Grown) (few : catalog.minted.type < Handle.indexCount) :
    InStep catalog catalog.types := by
  obtain ⟨types, enters⟩ := populated.exists_enters
  have inStep := enters.inStep few inStep_empty
  rw [List.nil_append] at inStep
  rwa [inStep.types]

/-- **A declaration that succeeds adds one type for every specification of its tree**, each in front
of those inside it, behind all types that were there. Each of them is what its specification says.
It is called after the type around it, which it leads to, it leads to the types inside it in the
order of their specifications, and its members lead back to it. -/
theorem declare_nested {spec : TypeSpec} (populated : catalog.Grown)
    (declared : catalog.declare spec = (.ok type, grown))
    (few : grown.minted.type < Handle.indexCount) :
    ∃ tree : TypeTree, tree.type = type ∧ grown.types = catalog.types ++ tree.preorder ∧
      grown.StandsAs none spec tree := by
  obtain ⟨tree, root, enters, -, stands⟩ := exists_tree_of_declareAt none spec declared
  have after : InStep grown (catalog.types ++ tree.preorder) :=
    enters.inStep few (populated.inStep (enters.minted_le.trans_lt few))
  have populatedToo := Grown.declared spec populated
  rw [declared] at populatedToo
  refine ⟨tree, root, after.types, stands grown none populatedToo.faithful rfl nofun ?_⟩
  intro inner member
  rw [after.types]
  exact List.mem_append_right _ member

/-- An atlas with its maps, which have a legend, and with an index. -/
def atlasSpec : TypeSpec :=
  .mk
    { package := "shop"
      name := "Atlas"
      fields := [{ name := "title", type := .ofName "Text" }] }
    [.mk
      { package := "elsewhere"
        name := "Map"
        constructors := [{ name := constructorName }]
        methods := [{ name := "scale", returns := .int }] }
      [.mk { name := "Legend", fields := [{ name := "entries", type := .int }] } []],
    .mk { name := "Index" } []]

/-- The map is part of the atlas, whatever its own specification says of its package. -/
theorem declare_nested_atlas :
    ∃ type grown, initial.Grown ∧ initial.declare atlasSpec = (.ok type, grown) ∧
      grown.minted.type < Handle.indexCount ∧
      ∃ tree : TypeTree, tree.type = type ∧ grown.StandsAs none atlasSpec tree ∧
        tree.preorder.map (·.fullName) =
          ["shop.Atlas", "shop.Atlas.Map", "shop.Atlas.Map.Legend", "shop.Atlas.Index"] := by
  have succeeds : (initial.declare atlasSpec).1.isOk = true := by decide
  have few : (initial.declare atlasSpec).2.minted.type < Handle.indexCount := by decide
  have names : (initial.declare atlasSpec).2.types.map (·.fullName) = [objectName, stringName] ++
      ["shop.Atlas", "shop.Atlas.Map", "shop.Atlas.Map.Legend", "shop.Atlas.Index"] := by decide
  obtain ⟨type, grown, declared⟩ : ∃ type grown, initial.declare atlasSpec = (.ok type, grown) := by
    cases outcome : initial.declare atlasSpec with
    | mk result grown =>
      rw [outcome] at succeeds
      cases result with
      | error failure => cases succeeds
      | ok type => exact ⟨type, grown, rfl⟩
  rw [declared] at few names
  obtain ⟨tree, root, types, stands⟩ := declare_nested grown_initial declared few
  refine ⟨type, grown, grown_initial, declared, few, tree, root, stands, ?_⟩
  rw [types, List.map_append] at names
  exact List.append_cancel_left names

end Catalog

end ValueAnatomy
