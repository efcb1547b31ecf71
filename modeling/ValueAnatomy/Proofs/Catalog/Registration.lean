/-
**Catalogs list their types in the order in which they were entered.**

The look-ups by handle and by name, and the handles given out, are kept apart. They stay in step
since a type is entered under the handle that was given out last: as long as the indices of types do
not wrap around, that one stands behind those of all types entered before, whichever declarations
failed in between and however far they had come.

* `TypeSpec.entered`: the types that a declaration enters, in their order, be it one that fails;
* `Catalog.Enters`: what becomes of a catalog, one handle and one type after the other;
* `Catalog.Follows.declareAt`: what follows each type follows a declaration, also one that fails;
* `Catalog.Consistent`: handles, names and the listing agree;
* `Catalog.consistent_run`: they do after every change of a run from scratch.
-/

import Mathlib.Data.Finset.Card
import ValueAnatomy.Proofs.Catalog.Built

namespace ValueAnatomy

/-! ### What is entered -/

mutual

/-- The types that a declaration enters into a catalog, in the order in which it does. Those that
it entered before it failed are among them. -/
def TypeSpec.entered (around : Option Place) : TypeSpec → Catalog → List TypeDecl
  | .mk head nested, catalog =>
    match Catalog.declareHead around head (nested.map (·.head.name)) catalog with
    | (.error _, _) => []
    | (.ok type, grown) => type :: enteredInside (head.place around) nested grown

/-- The types that declarations inside a place enter. -/
def TypeSpec.enteredInside (around : Place) : List TypeSpec → Catalog → List TypeDecl
  | [], _ => []
  | spec :: rest, catalog =>
    spec.entered (some around) catalog ++
      match Catalog.declareAt (some around) spec catalog with
      | (.error _, _) => []
      | (.ok _, grown) => enteredInside around rest grown

end

namespace Catalog

/-- What may be asked of a catalog: to give out a handle, or to declare a type. -/
inductive Change where
  | mint (kind : HandleKind)
  | declare (spec : TypeSpec)

/-- The catalog after a change, whether it succeeded or failed. -/
def change (catalog : Catalog) : Change → Catalog
  | .mint kind => (catalog.mint kind).2
  | .declare spec => (catalog.declare spec).2

/-- The types that a change enters. -/
def enteredBy (catalog : Catalog) : Change → List TypeDecl
  | .mint _ => []
  | .declare spec => spec.entered none catalog

/-- The catalog after one change after the other. -/
def run (changes : List Change) (catalog : Catalog) : Catalog :=
  changes.foldl change catalog

/-- The types that one change after the other enters, in their order. -/
def enteredByAll : List Change → Catalog → List TypeDecl
  | [], _ => []
  | change :: rest, catalog => catalog.enteredBy change ++ enteredByAll rest (catalog.change change)

/-- The second catalog comes from the first by giving out handles and by entering types, these in
this order and each under the handle given out last. -/
inductive Enters : Catalog → List TypeDecl → Catalog → Prop
  | nothing (catalog : Catalog) : Enters catalog [] catalog
  | mint {catalog grown : Catalog} {types : List TypeDecl} (kind : HandleKind)
      (later : Enters (catalog.mint kind).2 types grown) : Enters catalog types grown
  | type {catalog between grown : Catalog} {type : TypeDecl} {types : List TypeDecl}
      (minted : type.handle = (catalog.mint .type).1)
      (inserted : (catalog.mint .type).2.insert? type = .ok between)
      (later : Enters between types grown) : Enters catalog (type :: types) grown

theorem Enters.append {catalog between grown : Catalog} {types more : List TypeDecl}
    (enters : Enters catalog types between) (further : Enters between more grown) :
    Enters catalog (types ++ more) grown := by
  induction enters with
  | nothing catalog => exact further
  | mint kind _ ih => exact .mint kind (ih further)
  | type minted inserted _ ih => exact .type minted inserted (ih further)

/-! ### Declarations as steps -/

theorem enters_declareFields (owner : String) (specs : List FieldSpec) (catalog : Catalog) :
    Enters catalog [] (declareFields owner specs catalog).2 := by
  induction specs generalizing catalog with
  | nil => exact .nothing catalog
  | cons spec rest ih => exact .mint .field (ih _)

theorem enters_declareCallables {kind : CallableKind} {owner : String}
    {specs : List CallableSpec} {catalog grown : Catalog}
    {outcome : Except Failure (List CallableDecl)}
    (declared : declareCallables kind owner specs catalog = (outcome, grown)) :
    Enters catalog [] grown := by
  obtain rfl : (declareCallables kind owner specs catalog).2 = grown := congrArg Prod.snd declared
  clear declared
  induction specs generalizing catalog with
  | nil => exact .nothing catalog
  | cons spec rest ih =>
    rw [declareCallables_cons]
    split
    · exact .nothing catalog
    · exact .mint kind.handleKind ih

/-- **Declaring a type without those nested inside it enters the type, if it does not fail**, and
nothing else. -/
theorem enters_declareHead (around : Option Place) (head : TypeHead) (nestedNames : List String)
    (catalog : Catalog) :
    Enters catalog (declareHead around head nestedNames catalog).1.toOption.toList
      (declareHead around head nestedNames catalog).2 := by
  have outcome := headOutcome_declareHead around head nestedNames catalog
  have withFields := enters_declareFields (head.place around).fullName head.fields catalog
  generalize declareHead around head nestedNames catalog = result at outcome ⊢
  cases outcome with
  | constructorRefused refused => exact withFields.append (enters_declareCallables refused)
  | methodRefused constructed refused =>
    have withConstructors := withFields.append (enters_declareCallables constructed)
    exact withConstructors.append (enters_declareCallables refused)
  | nameTaken constructed completed taken =>
    have withConstructors := withFields.append (enters_declareCallables constructed)
    have withMethods := withConstructors.append (enters_declareCallables completed)
    exact withMethods.append (.mint .type (.nothing _))
  | entered constructed completed inserted =>
    have withConstructors := withFields.append (enters_declareCallables constructed)
    have withMethods := withConstructors.append (enters_declareCallables completed)
    exact withMethods.append (.type rfl inserted (.nothing _))

/-- A relation between catalogs by the types entered in between, that may be composed and holds of
each type declared without those nested inside it, whether it succeeds or fails. -/
structure Follows (leads : Catalog → List TypeDecl → Catalog → Prop) : Prop where
  nothing (catalog : Catalog) : leads catalog [] catalog
  append {catalog between grown : Catalog} {types more : List TypeDecl} :
    leads catalog types between → leads between more grown → leads catalog (types ++ more) grown
  head (around : Option Place) (head : TypeHead) (nestedNames : List String) (catalog : Catalog) :
    leads catalog (declareHead around head nestedNames catalog).1.toOption.toList
      (declareHead around head nestedNames catalog).2

mutual

/-- **What follows each type follows a declaration and all that it enters**, also where it fails. -/
theorem Follows.declareAt {leads : Catalog → List TypeDecl → Catalog → Prop}
    (follows : Follows leads) (around : Option Place) : ∀ (spec : TypeSpec) (catalog : Catalog),
      leads catalog (spec.entered around catalog) (Catalog.declareAt around spec catalog).2
  | .mk head nested, catalog => by
    have first := follows.head around head (nested.map (·.head.name)) catalog
    rw [Catalog.declareAt, TypeSpec.entered]
    cases declared : declareHead around head (nested.map (·.head.name)) catalog with
    | mk outcome grown =>
      rw [declared] at first
      cases outcome with
      | error failure => exact first
      | ok type =>
        have whole := follows.append first
          (follows.declareNested (head.place around) nested grown)
        dsimp only
        split
        · rename_i failed
          rw [failed] at whole
          exact whole
        · rename_i done
          rw [done] at whole
          exact whole

theorem Follows.declareNested {leads : Catalog → List TypeDecl → Catalog → Prop}
    (follows : Follows leads) (around : Place) : ∀ (specs : List TypeSpec) (catalog : Catalog),
      leads catalog (TypeSpec.enteredInside around specs catalog)
        (Catalog.declareNested around specs catalog).2
  | [], catalog => follows.nothing catalog
  | spec :: rest, catalog => by
    have first := follows.declareAt (some around) spec catalog
    rw [Catalog.declareNested, TypeSpec.enteredInside]
    cases declared : Catalog.declareAt (some around) spec catalog with
    | mk outcome grown =>
      rw [declared] at first
      cases outcome with
      | error failure => exact follows.append first (follows.nothing grown)
      | ok type => exact follows.append first (follows.declareNested around rest grown)

end

/-- **A declaration enters what it is said to enter**, also where it fails. -/
theorem enters_declareAt (around : Option Place) (spec : TypeSpec) (catalog : Catalog) :
    Enters catalog (spec.entered around catalog) (declareAt around spec catalog).2 :=
  Follows.declareAt ⟨.nothing, .append, enters_declareHead⟩ around spec catalog

theorem enters_change (catalog : Catalog) (change : Change) :
    Enters catalog (catalog.enteredBy change) (catalog.change change) := by
  cases change with
  | mint kind => exact .mint kind (.nothing _)
  | declare spec => exact enters_declareAt none spec catalog

/-- **A run enters what its changes enter.** -/
theorem enters_run (changes : List Change) (catalog : Catalog) :
    Enters catalog (enteredByAll changes catalog) (run changes catalog) := by
  induction changes generalizing catalog with
  | nil => exact .nothing catalog
  | cons change rest ih => exact (enters_change catalog change).append (ih _)

/-! ### What stays in step -/

/-- No handle is ever taken back. -/
theorem Enters.minted_le {catalog grown : Catalog} {types : List TypeDecl}
    (enters : Enters catalog types grown) : catalog.minted.type ≤ grown.minted.type := by
  induction enters with
  | nothing catalog => exact le_rfl
  | @mint catalog grown types kind _ ih =>
    have counted := catalog.minted.count_next kind .type
    simp only [MintCounts.count] at counted
    rw [minted_mint] at ih
    omega
  | @type catalog between grown type types _ inserted _ ih =>
    obtain ⟨-, rfl⟩ := insert?_eq_ok_iff.mp inserted
    exact (Nat.le_succ _).trans ih

/-- A type whose handle stands behind all others is placed behind them. -/
theorem placed_eq_append {type : TypeDecl} {types : List TypeDecl}
    (behind : ∀ other ∈ types, other.handle.code < type.handle.code) :
    placed type types = types ++ [type] := by
  induction types with
  | nil => rfl
  | cons other rest ih =>
    have less := behind other List.mem_cons_self
    rw [placed, if_neg fun smaller => UInt32.lt_irrefl _ (UInt32.lt_trans less smaller), if_neg,
      ih fun later member => behind later (List.mem_cons_of_mem _ member), List.cons_append]
    intro same
    rw [same] at less
    exact UInt32.lt_irrefl _ less

/-- The types, the names and the handles given out are those of the types entered so far. -/
structure InStep (catalog : Catalog) (entered : List TypeDecl) : Prop where
  types : catalog.types = entered
  names : catalog.names = (entered.map fun type => (type.fullName, type.handle)).reverse
  /-- Each type has a handle that was given out. -/
  numbered : ∀ type ∈ entered, ∃ index ≤ catalog.minted.type, type.handle = .ofIndex .type index

theorem inStep_empty : InStep empty [] := ⟨rfl, rfl, nofun⟩

theorem InStep.mint {catalog : Catalog} {entered : List TypeDecl} (inStep : InStep catalog entered)
    (kind : HandleKind) : InStep (catalog.mint kind).2 entered where
  types := inStep.types
  names := inStep.names
  numbered type member := by
    obtain ⟨index, given, handle⟩ := inStep.numbered type member
    exact ⟨index, given.trans (Enters.mint kind (.nothing _)).minted_le, handle⟩

/-- A type entered under the handle given out last comes behind all others. -/
theorem InStep.insert? {catalog grown : Catalog} {entered : List TypeDecl} {type : TypeDecl}
    (inStep : InStep catalog entered) (minted : type.handle = (catalog.mint .type).1)
    (few : catalog.minted.type + 1 < Handle.indexCount)
    (inserted : (catalog.mint .type).2.insert? type = .ok grown) :
    InStep grown (entered ++ [type]) := by
  obtain ⟨-, rfl⟩ := insert?_eq_ok_iff.mp inserted
  have behind : ∀ other ∈ catalog.types, other.handle.code < type.handle.code := by
    intro other there
    obtain ⟨index, given, handle⟩ := inStep.numbered other (inStep.types ▸ there)
    rw [handle, minted]
    exact Handle.code_ofIndex_lt .type (Nat.lt_succ_of_le given) few
  refine ⟨?_, ?_, fun other member => ?_⟩
  · rw [← inStep.types]
    exact placed_eq_append behind
  · simp [inStep.names]
  · rcases List.mem_append.mp member with before | last
    · obtain ⟨index, given, handle⟩ := (inStep.mint .type).numbered other before
      exact ⟨index, given, handle⟩
    · obtain rfl := List.mem_singleton.mp last
      exact ⟨catalog.minted.type + 1, le_rfl, minted⟩

/-- **Catalogs stay in step with what is entered**, as long as the indices of types do not wrap
around. -/
theorem Enters.inStep {catalog grown : Catalog} {entered types : List TypeDecl}
    (enters : Enters catalog types grown) (few : grown.minted.type < Handle.indexCount)
    (inStep : InStep catalog entered) : InStep grown (entered ++ types) := by
  induction enters generalizing entered with
  | nothing catalog => rwa [List.append_nil]
  | mint kind _ ih => exact ih few (inStep.mint kind)
  | @type catalog between grown type types minted inserted later ih =>
    have counted : between.minted.type = catalog.minted.type + 1 := by
      obtain ⟨-, rfl⟩ := insert?_eq_ok_iff.mp inserted
      rfl
    have bound := later.minted_le
    rw [List.append_cons]
    exact ih few (inStep.insert? minted (by omega) inserted)

/-! ### Consistency -/

/-- The full names that lead to a handle. -/
def knownNames (catalog : Catalog) : Finset String := (catalog.names.map (·.1)).toFinset

/-- **Handles, names and the listing agree**, and the listing is that of the types entered. -/
structure Consistent (catalog : Catalog) (entered : List TypeDecl) : Prop where
  /-- Every type is found by its handle. -/
  byHandle : ∀ type ∈ catalog.types, catalog.find? type.handle = some type
  /-- Every type is found by its full name. -/
  byName : ∀ type ∈ catalog.types, catalog.findByName? type.fullName = some type
  /-- Whatever a name leads to is a type of the catalog that is called so. -/
  called : ∀ fullName type, catalog.findByName? fullName = some type →
    type ∈ catalog.types ∧ type.fullName = fullName
  /-- No name that is known leads nowhere. -/
  known : ∀ fullName, fullName ∈ catalog.knownNames ↔
    (catalog.findByName? fullName).isSome = true
  /-- No two types have one handle. -/
  handles : (catalog.types.map (·.handle)).Nodup
  /-- No two types have one full name. -/
  fullNames : (catalog.types.map (·.fullName)).Nodup
  /-- There are as many types as names. -/
  size : catalog.size = catalog.knownNames.card
  /-- The types are listed in the order in which they were entered. -/
  listed : catalog.types = entered

/-- **A faithful catalog that is in step is consistent.** -/
theorem InStep.consistent {catalog : Catalog} {entered : List TypeDecl}
    (inStep : InStep catalog entered) (faithful : catalog.Faithful) :
    catalog.Consistent entered := by
  have handles : (catalog.types.map (·.handle)).Nodup := by
    rw [List.Nodup, List.pairwise_map]
    refine faithful.ordered.imp fun less same => ?_
    rw [same] at less
    exact UInt32.lt_irrefl _ less
  have distinct : catalog.DistinctHandles := by
    rw [DistinctHandles, inStep.names, List.map_reverse, List.nodup_reverse, List.map_map,
      ← inStep.types]
    exact handles
  have names : catalog.names.map (·.1) = (catalog.types.map (·.fullName)).reverse := by
    rw [inStep.names, inStep.types, List.map_reverse, List.map_map]
    rfl
  have fullNames : (catalog.types.map (·.fullName)).Nodup :=
    (List.Nodup.of_map _ handles).map_on fun first there second thereToo =>
      faithful.eq_of_fullName there thereToo
  have byName : ∀ fullName type, catalog.findByName? fullName = some type ↔
      type ∈ catalog.types ∧ type.fullName = fullName :=
    fun fullName type => faithful.findByName?_eq_some_iff distinct
  refine ⟨fun type there => (handleOf?_of_findByName? (faithful.found type there)).2,
    faithful.found, fun fullName type => (byName fullName type).mp, fun fullName => ?_, handles,
    fullNames, ?_, inStep.types⟩
  · rw [knownNames, names, List.mem_toFinset, List.mem_reverse, List.mem_map,
      Option.isSome_iff_exists]
    exact exists_congr fun type => (byName fullName type).symm
  · rw [knownNames, names, List.toFinset_card_of_nodup (List.nodup_reverse.mpr fullNames),
      List.length_reverse, List.length_map]
    rfl

/-! ### Runs -/

theorem Grown.change {catalog : Catalog} (grown : catalog.Grown) (change : Change) :
    (catalog.change change).Grown := by
  cases change with
  | mint kind => exact grown.minted kind
  | declare spec => exact grown.declared spec

theorem Grown.run {catalog : Catalog} (grown : catalog.Grown) (changes : List Change) :
    (Catalog.run changes catalog).Grown := by
  induction changes generalizing catalog with
  | nil => exact grown
  | cons change rest ih => exact ih (grown.change change)

/-- The catalog that every program starts with comes from a run of its own. -/
theorem inStep_initial : InStep initial initial.types := by
  have inStep := (enters_run [.declare objectSpec, .declare stringSpec] empty).inStep
    (by decide) inStep_empty
  exact ⟨rfl, inStep.types ▸ inStep.names, inStep.types ▸ inStep.numbered⟩

/-- **After every change of a run from scratch the catalog is consistent**, whichever declarations
fail on the way, if fewer handles of types are given out on the whole than there are indices. -/
theorem consistent_run {start : Catalog} (scratch : start = empty ∨ start = initial)
    {changes : List Change} (few : (run changes start).minted.type < Handle.indexCount) :
    ∀ done, done <+: changes →
      (run done start).Consistent (start.types ++ enteredByAll done start) := by
  rintro done ⟨rest, rfl⟩
  have fewYet : (run done start).minted.type < Handle.indexCount := by
    have given := (enters_run rest (run done start)).minted_le
    rw [run, List.foldl_append] at few
    exact given.trans_lt few
  obtain ⟨grown, inStep⟩ : start.Grown ∧ InStep start start.types := by
    rcases scratch with rfl | rfl
    · exact ⟨.empty, inStep_empty⟩
    · exact ⟨grown_initial, inStep_initial⟩
  exact ((enters_run done start).inStep fewYet inStep).consistent (grown.run done).faithful

/-- Declarations of which the first fails at a nested type, the second for its name, and the third
at a constructor inside. -/
def shipments : List Change :=
  [.declare <| .mk { name := "Order" } [.mk { name := "Line" } [], .mk { name := "Line" } []],
    .mint .attachment,
    .declare <| .mk { name := "Order", fields := [{ name := "id", type := .int }] } [],
    .declare <| .mk { name := "Parcel" }
      [.mk { name := "Label" }
        [.mk
          { name := "Code"
            constructors := [{ name := constructorName, keywords := [.modifier .static] }] }
          []]],
    .declare <| .mk { name := "Item" } [.mk { name := "Part" } [.mk { name := "Screw" } []]]]

/-- What was entered before each failure stays, in its place. -/
theorem consistent_run_shipments :
    (run shipments initial).minted.type < Handle.indexCount ∧
      (run shipments initial).types.map (·.fullName) =
        ["java.lang.Object", "java.lang.String", "Order", "Order.Line", "Parcel", "Parcel.Label",
          "Item", "Item.Part", "Item.Part.Screw"] ∧
      ∀ done, done <+: shipments →
        (run done initial).Consistent (initial.types ++ enteredByAll done initial) :=
  have few : (run shipments initial).minted.type < Handle.indexCount := by decide
  ⟨few, by decide, consistent_run (.inr rfl) few⟩

end Catalog

end ValueAnatomy
