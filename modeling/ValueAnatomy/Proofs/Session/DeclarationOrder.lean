/-
**The order of declaration does not matter.**

Catalogs built from the same specifications in different orders give different handles to the same
types. An analysis compares handles and looks at nothing else of them, so that of a name the same is
told in either catalog: by the types of that name, their routes, and the keys, names and annotations
of their properties, or by the problems with them.

* `Catalog.Built.counterparts`: such catalogs hold the same types but for handles;
* `Session.outlineOf_analyze_perm`: an analysis tells the same in both.

Where handles repeat, a type takes the place of an earlier one, and the order decides which.
-/

import ValueAnatomy.Proofs.Catalog.Built
import ValueAnatomy.Proofs.Mirror.Properties

namespace ValueAnatomy

/-- **Catalogs built from the same specifications hold the same types**, in whichever order. -/
theorem Catalog.Built.counterparts {specs others : List TypeSpec} {first second : Catalog}
    (built : Catalog.Built specs first) (builtToo : Catalog.Built others second)
    (same : specs.Perm others) (distinct : first.DistinctHandles)
    (distinctToo : second.DistinctHandles) : Catalog.Counterparts first second where
  faithful := built.grown.faithful
  faithfulToo := builtToo.grown.faithful
  distinct := distinct
  distinctToo := distinctToo
  types := (built.perm_types distinct).trans
    ((same.flatMap_right _).trans (builtToo.perm_types distinctToo).symm)

namespace Session

/-- **The order of declaration does not matter**: a name leads to a type in both catalogs or in
neither, and of the two types the same is told. -/
theorem outlineOf_analyze_perm {specs others : List TypeSpec} {first second : Catalog}
    (built : Catalog.Built specs first) (builtToo : Catalog.Built others second)
    (same : specs.Perm others) (distinct : first.DistinctHandles)
    (distinctToo : second.DistinctHandles) (settings : Settings) (fullName : String) :
    (first.findByName? fullName).map
        (fun type => outlineOf ((ofSettings settings).analyze first.provider type).value.1) =
      (second.findByName? fullName).map
        fun type => outlineOf ((ofSettings settings).analyze second.provider type).value.1 := by
  have catalogs := built.counterparts builtToo same distinct distinctToo
  refine (catalogs.findByName? fullName).map_eq fun a b pair => ?_
  rw [fst_analyze_ofSettings, fst_analyze_ofSettings]
  exact catalogs.mirrors.outlineOf_anatomy settings settings.creatorMarker pair

/-- An interface with an accessor. -/
def namedSpec : TypeSpec :=
  .mk
    { form := .interface
      name := "Named"
      methods := [{ name := "getName", returns := .ofName stringName }] }
    []

/-- A class under the interface, with a nested class. -/
def itemSpec : TypeSpec :=
  .mk
    { name := "Item"
      base := .absent
      interfaces := [.ofName "Named"]
      constructors := [{ name := constructorName, params := [⟨"size", .int, []⟩] }] }
    [.mk
      { name := "Tag"
        keywords := [.modifier .static]
        base := .absent }
      []]

/-- The catalog with both, in the given order. -/
def itemsIn (order : List TypeSpec) : Catalog :=
  order.foldl (fun catalog spec => (catalog.declare spec).2) .empty

/-- The interface declared before the class that is under it, or behind it: the item has another
handle, and is built alike and consists of the same. -/
theorem outlineOf_analyze_perm_items :
    Catalog.Built [namedSpec, itemSpec] (itemsIn [namedSpec, itemSpec]) ∧
      Catalog.Built [itemSpec, namedSpec] (itemsIn [itemSpec, namedSpec]) ∧
      [namedSpec, itemSpec].Perm [itemSpec, namedSpec] ∧
      (itemsIn [namedSpec, itemSpec]).DistinctHandles ∧
      (itemsIn [itemSpec, namedSpec]).DistinctHandles ∧
      ((itemsIn [namedSpec, itemSpec]).findByName? "Item").map (·.handle) ≠
        ((itemsIn [itemSpec, namedSpec]).findByName? "Item").map (·.handle) ∧
      ((itemsIn [namedSpec, itemSpec]).findByName? "Item").map (fun type => outlineOf
          ((ofSettings {}).analyze (itemsIn [namedSpec, itemSpec]).provider type).value.1) =
        ((itemsIn [itemSpec, namedSpec]).findByName? "Item").map (fun type => outlineOf
          ((ofSettings {}).analyze (itemsIn [itemSpec, namedSpec]).provider type).value.1) ∧
      ((itemsIn [itemSpec, namedSpec]).findByName? "Item").bind (fun type =>
        (outlineOf ((ofSettings {}).analyze (itemsIn [itemSpec, namedSpec]).provider
          type).value.1).toOption.map fun outline => outline.all.map (·.name)) =
            some ["size", "name"] := by
  have built : Catalog.Built [namedSpec, itemSpec] (itemsIn [namedSpec, itemSpec]) :=
    .declared (.declared .empty rfl) rfl
  have builtToo : Catalog.Built [itemSpec, namedSpec] (itemsIn [itemSpec, namedSpec]) :=
    .declared (.declared .empty rfl) rfl
  have same : [namedSpec, itemSpec].Perm [itemSpec, namedSpec] := .swap _ _ _
  have distinct : (itemsIn [namedSpec, itemSpec]).DistinctHandles := by
    unfold Catalog.DistinctHandles
    decide
  have distinctToo : (itemsIn [itemSpec, namedSpec]).DistinctHandles := by
    unfold Catalog.DistinctHandles
    decide
  exact ⟨built, builtToo, same, distinct, distinctToo, by decide,
    outlineOf_analyze_perm built builtToo same distinct distinctToo {} "Item", by decide⟩

end Session

end ValueAnatomy
