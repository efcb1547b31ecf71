/-
**A declaration goes through its specification in preorder, and stops where it is refused.**

A type is checked with its own members before it is entered, and the types nested inside it are
declared after that. So what a specification asks for is declared one type after the other, each in
front of those inside it and each as a whole or not at all. Where a type is refused the ones in
front of it stay: a declaration that fails leaves no trace only if its outermost type is refused.

* `TypeSpec.preorder`: the types that a specification asks for, each in front of those inside it;
* `Catalog.declareEach_preorder`: a declaration declares just these, in this order;
* `Catalog.SameLookups`: the same types, found under the same names and handles;
* `Catalog.declare_refused`: what a declaration that fails leaves behind;
* `Catalog.declare_refusedInside`: a failure after which a name is known that was not.
-/

import ValueAnatomy.Proofs.Catalog.Registration

namespace ValueAnatomy

/-- A type to be declared at its place, but for the types nested inside it. -/
structure PlacedHead where
  around : Option Place
  head : TypeHead
  nestedNames : List String
  deriving DecidableEq, Repr

/-- The full name that the type is to have. -/
def PlacedHead.fullName (placed : PlacedHead) : String := (placed.head.place placed.around).fullName

mutual

/-- The types that a specification asks for, each in front of those nested inside it. -/
def TypeSpec.preorder (around : Option Place) : TypeSpec → List PlacedHead
  | .mk head nested =>
    ⟨around, head, nested.map (·.head.name)⟩ :: preorderInside (head.place around) nested

/-- The types that specifications ask for inside a place. -/
def TypeSpec.preorderInside (around : Place) : List TypeSpec → List PlacedHead
  | [] => []
  | spec :: rest => spec.preorder (some around) ++ preorderInside around rest

end

namespace Catalog

/-- Declares a type at its place, but for the types nested inside it. -/
def declarePlaced (catalog : Catalog) (placed : PlacedHead) : Except Failure TypeDecl × Catalog :=
  declareHead placed.around placed.head placed.nestedNames catalog

/-- Declares types one after the other, up to the first that is refused. -/
def declareEach : List PlacedHead → Catalog → Except Failure Unit × Catalog
  | [], catalog => (.ok (), catalog)
  | placed :: rest, catalog =>
    match catalog.declarePlaced placed with
    | (.error failure, catalog) => (.error failure, catalog)
    | (.ok _, catalog) => declareEach rest catalog

/-- Two catalogs list the same types and find the same ones, by name and by handle. -/
structure SameLookups (catalog other : Catalog) : Prop where
  types : other.types = catalog.types
  byName : ∀ fullName, other.findByName? fullName = catalog.findByName? fullName
  byHandle : ∀ handle, other.find? handle = catalog.find? handle

variable {catalog before between grown : Catalog} {placed : PlacedHead} {type : TypeDecl}
  {failure : Failure}

/-! ### Declarations in preorder -/

theorem declareEach_append (first second : List PlacedHead) (catalog : Catalog) :
    declareEach (first ++ second) catalog =
      match declareEach first catalog with
      | (.error failure, between) => (.error failure, between)
      | (.ok (), between) => declareEach second between := by
  induction first generalizing catalog with
  | nil => rfl
  | cons placed rest ih =>
    rw [List.cons_append, declareEach, declareEach]
    cases catalog.declarePlaced placed with
    | mk outcome between =>
      cases outcome with
      | error failure => rfl
      | ok type => exact ih between

mutual

/-- **A declaration declares the types of its specification in preorder.** -/
theorem declareEach_preorder (around : Option Place) : ∀ (spec : TypeSpec) (catalog : Catalog),
    declareEach (spec.preorder around) catalog =
      ((declareAt around spec catalog).1.map fun _ => (), (declareAt around spec catalog).2)
  | .mk head nested, catalog => by
    rw [TypeSpec.preorder, declareEach, declareAt, declarePlaced]
    cases declareHead around head (nested.map (·.head.name)) catalog with
    | mk outcome between =>
      cases outcome with
      | error failure => rfl
      | ok type =>
        dsimp only
        rw [declareEach_preorderInside]
        cases declareNested (head.place around) nested between with
        | mk inside last => cases inside <;> rfl

/-- Declarations inside a place declare the types of their specifications in preorder. -/
theorem declareEach_preorderInside (around : Place) : ∀ (specs : List TypeSpec) (catalog : Catalog),
    declareEach (TypeSpec.preorderInside around specs) catalog = declareNested around specs catalog
  | [], catalog => rfl
  | spec :: rest, catalog => by
    rw [TypeSpec.preorderInside, declareEach_append, declareEach_preorder, declareNested]
    cases declareAt (some around) spec catalog with
    | mk outcome between =>
      cases outcome with
      | error failure => rfl
      | ok type => exact declareEach_preorderInside around rest between

end

/-- Where declarations fail, one type is refused after those in front of it were declared. -/
theorem exists_refused {all : List PlacedHead}
    (failed : declareEach all catalog = (.error failure, grown)) :
    ∃ done refused rest before, all = done ++ refused :: rest ∧
      declareEach done catalog = (.ok (), before) ∧
      before.declarePlaced refused = (.error failure, grown) := by
  induction all generalizing catalog with
  | nil => cases failed
  | cons placed rest ih =>
    rw [declareEach] at failed
    cases outcome : catalog.declarePlaced placed with
    | mk result between =>
      rw [outcome] at failed
      cases result with
      | error reason =>
        cases failed
        exact ⟨[], placed, rest, catalog, rfl, rfl, outcome⟩
      | ok type =>
        obtain ⟨done, refused, later, before, split, declared, refusal⟩ := ih failed
        refine ⟨placed :: done, refused, later, before, congrArg (placed :: ·) split, ?_, refusal⟩
        rw [declareEach, outcome]
        exact declared

/-! ### One type -/

/-- Who gives out handles only keeps the types and their names. -/
theorem Enters.sameTypes (enters : Enters catalog [] grown) : SameTypes catalog grown := by
  generalize nothing : ([] : List TypeDecl) = types at enters
  induction enters with
  | nothing catalog => exact .rfl
  | mint kind _ ih => exact (sameTypes_mint _ kind).trans (ih nothing)
  | type minted inserted later => cases nothing

/-- A type that is refused is not entered. -/
theorem sameTypes_of_refused (refused : catalog.declarePlaced placed = (.error failure, grown)) :
    SameTypes catalog grown := by
  have enters := enters_declareHead placed.around placed.head placed.nestedNames catalog
  rw [← declarePlaced, refused] at enters
  exact enters.sameTypes

/-- A type that is declared has the name of its place, and is entered. -/
theorem enters_of_declared (declared : catalog.declarePlaced placed = (.ok type, grown)) :
    Enters catalog [type] grown ∧ type.fullName = placed.fullName := by
  have enters := enters_declareHead placed.around placed.head placed.nestedNames catalog
  rw [← declarePlaced, declared] at enters
  exact ⟨enters, congrArg TypeDecl.fullName (unmarked_of_declareHead declared)⟩

/-! ### Names -/

/-- A name that leads to a type leads to one after every insertion. -/
theorem isSome_findByName?_insert? (inserted : catalog.insert? type = .ok grown)
    {fullName : String} (known : (catalog.findByName? fullName).isSome = true) :
    (grown.findByName? fullName).isSome = true := by
  obtain ⟨old, found⟩ := Option.isSome_iff_exists.mp known
  have named := (handleOf?_of_findByName? found).1
  have other : fullName ≠ type.fullName := by
    rintro rfl
    rw [(insert?_eq_ok_iff.mp inserted).1] at named
    cases named
  rw [findByName?_insert?_other inserted other]
  split
  · rfl
  · exact known

theorem Enters.isSome_findByName? {types : List TypeDecl} (enters : Enters catalog types grown)
    {fullName : String} (known : (catalog.findByName? fullName).isSome = true) :
    (grown.findByName? fullName).isSome = true := by
  induction enters with
  | nothing catalog => exact known
  | mint kind _ ih => exact ih known
  | type minted inserted _ ih => exact ih (isSome_findByName?_insert? inserted known)

/-- **A type is entered under a name that led nowhere**, and that leads to some type ever after. -/
theorem Enters.name_isNew {types : List TypeDecl} (enters : Enters catalog types grown) :
    ∀ type ∈ types, catalog.findByName? type.fullName = none ∧
      (grown.findByName? type.fullName).isSome = true := by
  induction enters with
  | nothing catalog => nofun
  | mint kind _ ih => exact ih
  | @type catalog between grown type types minted inserted later ih =>
    intro other member
    rcases List.mem_cons.mp member with rfl | member
    · have free : catalog.handleOf? other.fullName = none := (insert?_eq_ok_iff.mp inserted).1
      refine ⟨by rw [findByName?, free]; rfl, later.isSome_findByName? ?_⟩
      rw [findByName?_insert?_self inserted]
      rfl
    · obtain ⟨unknown, known⟩ := ih other member
      refine ⟨Option.not_isSome_iff_eq_none.mp fun knownBefore => ?_, known⟩
      have stays := isSome_findByName?_insert? inserted
        (show ((catalog.mint .type).2.findByName? other.fullName).isSome = true from knownBefore)
      rw [unknown] at stays
      cases stays

theorem enters_of_declareEach {done : List PlacedHead}
    (declared : declareEach done catalog = (.ok (), grown)) :
    ∃ types, Enters catalog types grown ∧
      types.map (·.fullName) = done.map PlacedHead.fullName := by
  induction done generalizing catalog with
  | nil =>
    obtain rfl : catalog = grown := (Prod.mk.inj declared).2
    exact ⟨[], .nothing catalog, rfl⟩
  | cons placed rest ih =>
    rw [declareEach] at declared
    cases outcome : catalog.declarePlaced placed with
    | mk result between =>
      rw [outcome] at declared
      cases result with
      | error reason => cases declared
      | ok type =>
        obtain ⟨types, enters, names⟩ := ih declared
        obtain ⟨first, name⟩ := enters_of_declared outcome
        refine ⟨type :: types, first.append enters, ?_⟩
        rw [List.map_cons, List.map_cons, name, names]

/-! ### Declarations that fail -/

theorem SameTypes.sameLookups (same : SameTypes catalog grown) : SameLookups catalog grown where
  types := same.types
  byName fullName := by
    unfold findByName? handleOf? find?
    rw [same.types, same.names]
  byHandle handle := by rw [find?, find?, same.types]

/-- **A declaration that fails leaves behind what it has declared up to there.** In preorder there
is a first type that is refused, for the reason that is given. Those in front of it are declared one
after the other, and nothing comes of the refused one, or of those behind it: types and look-ups are
as they were before its turn. The names in front of it led nowhere and lead to types now, so all is
as before the declaration exactly if the outermost type is the one refused. -/
theorem declare_refused {spec : TypeSpec}
    (failed : catalog.declare spec = (.error failure, grown)) :
    ∃ done refused rest before, spec.preorder none = done ++ refused :: rest ∧
      declareEach done catalog = (.ok (), before) ∧
      (before.declarePlaced refused).1 = .error failure ∧
      SameLookups before grown ∧
      (∀ placed ∈ done, catalog.findByName? placed.fullName = none ∧
        (grown.findByName? placed.fullName).isSome = true) ∧
      (SameLookups catalog grown ↔ done = []) := by
  have each := declareEach_preorder none spec catalog
  rw [← declare, failed] at each
  obtain ⟨done, refused, rest, before, split, declared, refusal⟩ := exists_refused each
  have stopped := (sameTypes_of_refused refusal).sameLookups
  have names : ∀ placed ∈ done, catalog.findByName? placed.fullName = none ∧
      (grown.findByName? placed.fullName).isSome = true := by
    intro placed member
    obtain ⟨types, enters, called⟩ := enters_of_declareEach declared
    obtain ⟨type, entered, name⟩ : ∃ type ∈ types, type.fullName = placed.fullName :=
      List.mem_map.mp (called ▸ List.mem_map_of_mem member)
    rw [← name, stopped.byName]
    exact enters.name_isNew type entered
  refine ⟨done, refused, rest, before, split, declared, congrArg Prod.fst refusal, stopped, names,
    fun same => ?_, fun nothing => ?_⟩
  · cases done with
    | nil => rfl
    | cons placed more =>
      obtain ⟨unknown, known⟩ := names placed List.mem_cons_self
      rw [same.byName, unknown] at known
      cases known
  · subst nothing
    obtain rfl : catalog = before := (Prod.mk.inj declared).2
    exact stopped

/-- A parcel with a label, whose code has a constructor that is refused, and with a stamp. -/
def parcelSpec : TypeSpec :=
  .mk { name := "Parcel" }
    [.mk { name := "Label" }
      [.mk
        { name := "Code"
          constructors := [{ name := constructorName, keywords := [.modifier .static] }] }
        []],
      .mk { name := "Stamp" } []]

/-- The parcel and its label are there after the failure, and the stamp is not. -/
theorem declare_refused_parcel :
    ∃ failure grown, initial.declare parcelSpec = (.error failure, grown) ∧
      grown.types.map (·.fullName) = [objectName, stringName, "Parcel", "Parcel.Label"] ∧
      ∃ done refused rest before, parcelSpec.preorder none = done ++ refused :: rest ∧
        declareEach done initial = (.ok (), before) ∧ SameLookups before grown ∧ done ≠ [] := by
  obtain ⟨failure, grown, failed, types⟩ : ∃ failure grown,
      initial.declare parcelSpec = (.error failure, grown) ∧
        grown.types.map (·.fullName) = [objectName, stringName, "Parcel", "Parcel.Label"] :=
    ⟨_, _, rfl, by decide⟩
  obtain ⟨done, refused, rest, before, split, declared, -, stopped, -, traceless⟩ :=
    declare_refused failed
  refine ⟨failure, grown, failed, types, done, refused, rest, before, split, declared, stopped,
    fun nothing => ?_⟩
  rw [(traceless.mpr nothing).types] at types
  revert types
  decide

/-- **A declaration fails and leaves a trace**: the parcel is found under its name. -/
theorem declare_refusedInside :
    ¬∀ (catalog grown : Catalog) (spec : TypeSpec) (failure : Failure),
      catalog.declare spec = (.error failure, grown) → SameLookups catalog grown := by
  intro traceless
  have same := traceless initial _ parcelSpec _ rfl
  have leads := same.byName "Parcel"
  revert leads
  decide

end Catalog

end ValueAnatomy
