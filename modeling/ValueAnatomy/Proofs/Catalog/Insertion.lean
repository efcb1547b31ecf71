/-
**What an insertion changes, and what it leaves as it was.**

A type is entered under its full name, which must be free, and under its handle, which need not be.
A name that is known keeps its handle for good, but the type behind a handle gives way to any later
one of the same handle. So the look-ups by name and the number of types are kept as long as the
handles differ, and no longer.

* `Catalog.insertEach`: insertions one after the other, with those that succeed;
* `Catalog.Reached`: the catalogs that come of insertions, declarations and handles given out;
* `Catalog.Linked`: every name that is known leads to a type;
* `Catalog.insert?_effect`: when an insertion fails, what it does to every look-up and to the number
  of types, and where its name leads after any further insertions;
* `Catalog.insert?_sharedHandle`: a name that leads to another type after an insertion.
-/

import ValueAnatomy.Proofs.Catalog.Registration

namespace ValueAnatomy.Catalog

/-- Inserts types one after the other, passing over those whose names are taken: the types that are
accepted, and the catalog with them. -/
def insertEach : List TypeDecl → Catalog → List TypeDecl × Catalog
  | [], catalog => ([], catalog)
  | type :: rest, catalog =>
    match catalog.insert? type with
    | .error _ => insertEach rest catalog
    | .ok grown =>
      let (accepted, last) := insertEach rest grown
      (type :: accepted, last)

/-- The catalogs that come from the empty one by giving out handles, by declaring types and by
inserting any types at all. -/
inductive Reached : Catalog → Prop
  | empty : Reached .empty
  | changed {catalog : Catalog} (change : Change) : Reached catalog →
      Reached (catalog.change change)
  | inserted {catalog grown : Catalog} {type : TypeDecl} : Reached catalog →
      catalog.insert? type = .ok grown → Reached grown

/-- The types stand in the order of their handles, and every name that is known leads to one. -/
structure Linked (catalog : Catalog) : Prop where
  ordered : catalog.types.Pairwise fun first second => first.handle.code < second.handle.code
  leads : ∀ fullName handle, catalog.handleOf? fullName = some handle →
    ∃ type, catalog.find? handle = some type

variable {catalog grown : Catalog} {type : TypeDecl}

/-! ### Names and handles stay linked -/

theorem linked_empty : Linked empty where
  ordered := .nil
  leads fullName handle named := by cases named

/-- An insertion keeps names and handles linked, whatever the type is. -/
theorem Linked.insert? (linked : catalog.Linked) (inserted : catalog.insert? type = .ok grown) :
    grown.Linked where
  ordered := by
    rw [(insert?_eq_ok_iff.mp inserted).2]
    exact pairwise_placed linked.ordered
  leads fullName handle named := by
    rw [find?_insert? inserted]
    by_cases own : handle = type.handle
    · exact ⟨type, if_pos own⟩
    · rw [if_neg own]
      rw [handleOf?_insert? inserted] at named
      by_cases same : fullName = type.fullName
      · rw [if_pos same] at named
        exact absurd (Option.some.inj named).symm own
      · rw [if_neg same] at named
        exact linked.leads fullName handle named

theorem Linked.of_enters {types : List TypeDecl} (linked : catalog.Linked)
    (enters : Enters catalog types grown) : grown.Linked := by
  induction enters with
  | nothing catalog => exact linked
  | mint kind _ ih => exact ih ⟨linked.ordered, linked.leads⟩
  | @type catalog between grown type types _ inserted _ ih =>
    have minted : (catalog.mint .type).2.Linked := ⟨linked.ordered, linked.leads⟩
    exact ih (minted.insert? inserted)

/-- **However a catalog was reached, its names and handles are linked.** -/
theorem Reached.linked (reached : catalog.Reached) : catalog.Linked := by
  induction reached with
  | empty => exact linked_empty
  | @changed catalog change _ ih => exact ih.of_enters (enters_change catalog change)
  | inserted _ inserted ih => exact ih.insert? inserted

/-- In a linked catalog a name is taken exactly if it leads to a type. -/
theorem Linked.taken_iff (linked : catalog.Linked) (fullName : String) :
    (catalog.handleOf? fullName).isSome = true ↔
      ∃ known, catalog.findByName? fullName = some known := by
  constructor
  · intro taken
    obtain ⟨handle, named⟩ := Option.isSome_iff_exists.mp taken
    obtain ⟨known, located⟩ := linked.leads fullName handle named
    refine ⟨known, ?_⟩
    rw [findByName?, named, Option.bind_some, located]
  · rintro ⟨known, found⟩
    rw [(handleOf?_of_findByName? found).1]
    rfl

/-! ### How many types there are -/

/-- One type more is placed among others, unless one of them has its handle. -/
theorem length_placed {types : List TypeDecl}
    (ordered : types.Pairwise fun first second => first.handle.code < second.handle.code) :
    (placed type types).length =
      types.length + if types.find? (·.handle == type.handle) = none then 1 else 0 := by
  induction types with
  | nil => simp [placed]
  | cons head rest ih =>
    obtain ⟨behind, restOrdered⟩ := List.pairwise_cons.mp ordered
    rw [placed]
    by_cases smaller : type.handle.code < head.handle.code
    · have fresh : (head :: rest).find? (·.handle == type.handle) = none := by
        rw [List.find?_eq_none]
        intro later member same
        have larger : type.handle.code < later.handle.code := by
          rcases List.mem_cons.mp member with rfl | member
          · exact smaller
          · exact UInt32.lt_trans smaller (behind later member)
        rw [beq_iff_eq.mp same] at larger
        exact UInt32.lt_irrefl _ larger
      rw [if_pos smaller, if_pos fresh]
      rfl
    · rw [if_neg smaller]
      by_cases same : type.handle = head.handle
      · simp [same]
      · rw [if_neg same, List.length_cons, ih restOrdered, List.find?_cons,
          beq_eq_false_iff_ne.mpr (Ne.symm same), List.length_cons]
        dsimp only
        omega

theorem Linked.size_insert? (linked : catalog.Linked)
    (inserted : catalog.insert? type = .ok grown) :
    grown.size = catalog.size + if catalog.find? type.handle = none then 1 else 0 := by
  rw [(insert?_eq_ok_iff.mp inserted).2]
  exact length_placed linked.ordered

/-! ### Further insertions -/

/-- **A name leads to the type that was accepted last under its handle**, be it the first one. -/
theorem findByName?_insertEach (later : List TypeDecl) {fullName : String}
    (found : catalog.findByName? fullName = some type) :
    (insertEach later catalog).2.findByName? fullName =
      some (((insertEach later catalog).1.filter fun other =>
        other.handle = type.handle).getLastD type) := by
  induction later generalizing catalog type with
  | nil => exact found
  | cons next rest ih =>
    rw [insertEach]
    cases inserted : catalog.insert? next with
    | error failure => exact ih found
    | ok grown =>
      dsimp only
      obtain ⟨named, located⟩ := handleOf?_of_findByName? found
      have other : fullName ≠ next.fullName := by
        rintro rfl
        rw [(insert?_eq_ok_iff.mp inserted).1] at named
        cases named
      have leads := findByName?_insert?_other inserted other
      rw [named, found] at leads
      by_cases same : next.handle = type.handle
      · rw [if_pos (congrArg some same.symm)] at leads
        rw [ih leads, List.filter_cons_of_pos (by simpa using same), List.getLastD_cons, same]
      · rw [if_neg fun equal => same (Option.some.inj equal).symm] at leads
        rw [ih leads, List.filter_cons_of_neg (by simpa using same)]

/-- **What an insertion changes.** It fails exactly if its full name leads to a type already, says
so, and adds nothing. If it succeeds, its name leads to the new type; another name leads where it
did before, unless that was under the handle of the new type; and there is one type more, unless the
handle was in use. So nothing else changes under a fresh handle. After any further insertions the
name leads to the type that was accepted last under the handle. -/
theorem insert?_effect (reached : catalog.Reached) (type : TypeDecl) :
    ((∃ failure, catalog.insert? type = .error failure) ↔
      ∃ known, catalog.findByName? type.fullName = some known) ∧
    (∀ failure, catalog.insert? type = .error failure →
      failure = .nameTaken type.fullName ∧ insertEach [type] catalog = ([], catalog)) ∧
    ∀ grown, catalog.insert? type = .ok grown →
      grown.findByName? type.fullName = some type ∧
      (∀ fullName, fullName ≠ type.fullName → grown.findByName? fullName =
        if catalog.handleOf? fullName = some type.handle then some type
        else catalog.findByName? fullName) ∧
      grown.size = (catalog.size + if catalog.find? type.handle = none then 1 else 0) ∧
      (catalog.find? type.handle = none → grown.size = catalog.size + 1 ∧
        ∀ fullName, fullName ≠ type.fullName →
          grown.findByName? fullName = catalog.findByName? fullName) ∧
      ∀ later, (insertEach later grown).2.findByName? type.fullName =
        some (((insertEach later grown).1.filter fun other =>
          other.handle = type.handle).getLastD type) := by
  have linked := reached.linked
  refine ⟨?_, fun failure refused => ?_, fun grown inserted => ?_⟩
  · rw [← linked.taken_iff]
    constructor
    · rintro ⟨failure, refused⟩
      exact (insert?_eq_error_iff.mp refused).1
    · intro taken
      exact ⟨_, insert?_eq_error_iff.mpr ⟨taken, rfl⟩⟩
  · refine ⟨(insert?_eq_error_iff.mp refused).2, ?_⟩
    rw [insertEach, refused]
    rfl
  · have own := findByName?_insert?_self inserted
    have size := linked.size_insert? inserted
    refine ⟨own, fun fullName other => findByName?_insert?_other inserted other, size,
      fun fresh => ⟨?_, fun fullName other => ?_⟩, fun later => findByName?_insertEach later own⟩
    · rw [size, if_pos fresh]
    · -- A name under the handle of the new type would lead to a type of that handle.
      rw [findByName?_insert?_other inserted other, if_neg]
      intro named
      obtain ⟨known, located⟩ := linked.leads fullName type.handle named
      rw [fresh] at located
      cases located

/-- A class without members, under the handle of the given index. -/
def bareClass (name : String) (index : Nat) : TypeDecl :=
  { handle := .ofIndex .type index
    package := ""
    name
    modifiers := .none
    origin := .ownCode
    base := none
    interfaces := []
    enclosing := none
    fields := []
    constructors := []
    methods := []
    nested := []
    annotations := [] }

theorem reached_initial : initial.Reached :=
  .changed (.declare stringSpec) (.changed (.declare objectSpec) .empty)

/-- A barrel comes under a fresh handle and leaves the root class where it was. A second barrel is
refused, a crate has a handle of its own, and a keg takes the barrel's place. -/
theorem insert?_effect_barrels :
    ∃ grown, initial.Reached ∧ initial.insert? (bareClass "Barrel" 3) = .ok grown ∧
      initial.find? (bareClass "Barrel" 3).handle = none ∧ grown.size = 3 ∧
      grown.findByName? objectName = initial.findByName? objectName ∧
      (insertEach [bareClass "Crate" 4, bareClass "Barrel" 5, bareClass "Keg" 3] grown).2.findByName?
        "Barrel" = some (bareClass "Keg" 3) := by
  obtain ⟨grown, inserted⟩ : ∃ grown, initial.insert? (bareClass "Barrel" 3) = .ok grown :=
    ⟨_, insert?_eq_ok_iff.mpr ⟨by decide, rfl⟩⟩
  have fresh : initial.find? (bareClass "Barrel" 3).handle = none := by decide
  obtain ⟨-, -, effect⟩ := insert?_effect reached_initial (bareClass "Barrel" 3)
  obtain ⟨-, -, -, kept, last⟩ := effect grown inserted
  obtain ⟨size, others⟩ := kept fresh
  refine ⟨grown, reached_initial, inserted, fresh, size, others objectName (by decide), ?_⟩
  rw [show "Barrel" = (bareClass "Barrel" 3).fullName from rfl, last]
  rw [(insert?_eq_ok_iff.mp inserted).2]
  decide

/-- **A name leads to another type after an insertion that succeeds**, and there are as many types
as before: barrel and keg are of different names and of one handle. -/
theorem insert?_sharedHandle :
    ∃ catalog grown : Catalog, catalog.Reached ∧ catalog.insert? (bareClass "Keg" 3) = .ok grown ∧
      catalog.findByName? "Barrel" = some (bareClass "Barrel" 3) ∧
      grown.findByName? "Barrel" = some (bareClass "Keg" 3) ∧ grown.size = catalog.size := by
  obtain ⟨catalog, inserted⟩ : ∃ catalog, initial.insert? (bareClass "Barrel" 3) = .ok catalog :=
    ⟨_, insert?_eq_ok_iff.mpr ⟨by decide, rfl⟩⟩
  have reached : catalog.Reached := reached_initial.inserted inserted
  obtain rfl := (insert?_eq_ok_iff.mp inserted).2
  exact ⟨_, _, reached, insert?_eq_ok_iff.mpr ⟨by decide, rfl⟩, by decide, by decide, by decide⟩

end ValueAnatomy.Catalog
