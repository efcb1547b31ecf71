/-
**Built catalogs: those filled by declarations that all succeed.**

A catalog is built from specifications if it comes from the empty one by declaring them in their
order, each with success. Which handles are given out depends on the order; what else is declared
does not. As long as no two types are given one handle, no type takes the place of another, and a
built catalog holds exactly the types that its specifications come to.

* `TypeSpec.declared`: the types that a specification comes to, without their handles;
* `Catalog.Built`: the catalogs built from specifications;
* `Catalog.Built.perm_types`: without handles, their types are those that the specifications come
  to;
* `Catalog.Faithful.findByName?_eq_some_iff`: a name leads to the type that is called so;
* `Catalog.Counterparts.mirrors`: catalogs that hold the same types mirror each other.
-/

import Mathlib.Data.List.Nodup
import ValueAnatomy.Proofs.Catalog.Answers
import ValueAnatomy.Proofs.Mirror.ByName

namespace ValueAnatomy

/-! ### What specifications come to -/

/-- The field that a specification comes to. -/
def declaredField (owner : String) (spec : FieldSpec) (handle : Handle) : FieldDecl :=
  ⟨handle, owner, spec.name, Modifiers.none.withKeywords .field spec.keywords, spec.type,
    spec.annotations⟩

/-- The type that a specification comes to without those nested inside it, and without handles. -/
def TypeHead.declared (around : Option Place) (head : TypeHead) (nestedNames : List String) :
    TypeDecl :=
  let place := head.place around
  let owner := place.fullName
  { handle := .blank
    package := place.package
    name := place.name
    modifiers := head.form.modifiers.withKeywords .type head.keywords
    origin := head.origin
    base := head.base.resolved head.form
    interfaces := head.interfaces
    enclosing := around.map fun around => .ofName around.fullName
    fields := head.fields.map (declaredField owner · .blank)
    constructors := head.constructors.map (Catalog.declaredCallable .constructor owner · .blank)
    methods := head.methods.map (Catalog.declaredCallable .method owner · .blank)
    nested := nestedNames.map fun name => .ofName (place.inside name).fullName
    annotations := head.annotations }

mutual

/-- The types that a specification comes to at the top or inside a place, without their handles. -/
def TypeSpec.declared (around : Option Place) : TypeSpec → List TypeDecl
  | .mk head nested =>
    head.declared around (nested.map (·.head.name)) :: declaredInside (head.place around) nested

/-- The types that specifications come to inside a place. -/
def TypeSpec.declaredInside (around : Place) : List TypeSpec → List TypeDecl
  | [] => []
  | spec :: rest => spec.declared (some around) ++ declaredInside around rest

end

namespace Catalog

theorem map_unmarked_declareFields (owner : String) (specs : List FieldSpec) (catalog : Catalog) :
    (declareFields owner specs catalog).1.map FieldDecl.unmarked =
      specs.map (declaredField owner · .blank) := by
  induction specs generalizing catalog with
  | nil => rfl
  | cons spec rest ih => exact congrArg (declaredField owner spec .blank :: ·) (ih _)

theorem map_unmarked_declareCallables {kind : CallableKind} {owner : String}
    {specs : List CallableSpec} {catalog : Catalog} {callables : List CallableDecl}
    (declared : (declareCallables kind owner specs catalog).1 = .ok callables) :
    callables.map CallableDecl.unmarked = specs.map (declaredCallable kind owner · .blank) := by
  induction specs generalizing catalog callables with
  | nil =>
    obtain rfl : [] = callables := Except.ok.inj declared
    rfl
  | cons spec rest ih =>
    rw [declareCallables_cons] at declared
    split at declared
    · cases declared
    · cases later : (declareCallables kind owner rest (catalog.mint kind.handleKind).2).1 with
      | error failure =>
        simp only [later] at declared
        cases declared
      | ok more =>
        simp only [later] at declared
        obtain rfl : _ :: more = callables := Except.ok.inj declared
        exact congrArg (declaredCallable kind owner spec .blank :: ·) (ih later)

/-- A type declared with success is what its specification says. -/
theorem unmarked_of_declareHead {around : Option Place} {head : TypeHead}
    {nestedNames : List String} {catalog grown : Catalog} {type : TypeDecl}
    (declared : declareHead around head nestedNames catalog = (.ok type, grown)) :
    type.unmarked = head.declared around nestedNames := by
  have outcome := headOutcome_declareHead around head nestedNames catalog
  rw [declared] at outcome
  cases outcome with
  | entered constructed completed inserted =>
    simp only [TypeDecl.unmarked, headedType, TypeHead.declared, map_unmarked_declareFields,
      map_unmarked_declareCallables (congrArg Prod.fst constructed),
      map_unmarked_declareCallables (congrArg Prod.fst completed)]

/-! ### Gaining types -/

/-- The second catalog has gained types that, without their handles, are the given ones, in this
order. -/
inductive Gains : Catalog → List TypeDecl → Catalog → Prop
  | nothing {catalog other : Catalog} (same : SameTypes catalog other) : Gains catalog [] other
  | type {catalog before between grown : Catalog} {type : TypeDecl} {types : List TypeDecl}
      (same : SameTypes catalog before) (inserted : before.insert? type = .ok between)
      (later : Gains between types grown) : Gains catalog (type.unmarked :: types) grown

theorem Gains.of_sameTypes {catalog between grown : Catalog} {types : List TypeDecl}
    (same : SameTypes catalog between) (gains : Gains between types grown) :
    Gains catalog types grown := by
  cases gains with
  | nothing later => exact .nothing (same.trans later)
  | type further inserted later => exact .type (same.trans further) inserted later

theorem Gains.append {catalog between grown : Catalog} {types more : List TypeDecl}
    (gains : Gains catalog types between) (further : Gains between more grown) :
    Gains catalog (types ++ more) grown := by
  induction gains with
  | nothing same => exact further.of_sameTypes same
  | type same inserted _ ih => exact .type same inserted (ih further)

/-- **A type declared with success is gained**, and is what its specification comes to. -/
theorem gains_of_declareHead {around : Option Place} {head : TypeHead} {nestedNames : List String}
    {catalog grown : Catalog} {type : TypeDecl}
    (declared : declareHead around head nestedNames catalog = (.ok type, grown)) :
    Gains catalog [head.declared around nestedNames] grown := by
  rw [← unmarked_of_declareHead declared]
  have outcome := headOutcome_declareHead around head nestedNames catalog
  rw [declared] at outcome
  cases outcome with
  | @entered _ _ _ before _ constructed completed inserted =>
    have withFields := sameTypes_declareFields (head.place around).fullName head.fields catalog
    have withConstructors := withFields.trans (sameTypes_declareCallables constructed)
    have withMethods := withConstructors.trans (sameTypes_declareCallables completed)
    exact .type (withMethods.trans (sameTypes_mint before .type)) inserted (.nothing .rfl)

mutual

/-- **What is declared with success is gained**, the nested types behind those around them. -/
theorem gains_of_declareAt (around : Option Place) : ∀ (spec : TypeSpec) {catalog grown : Catalog}
    {type : TypeDecl}, declareAt around spec catalog = (.ok type, grown) →
      Gains catalog (spec.declared around) grown
  | .mk head nested, catalog, grown, type, declared => by
    rw [declareAt] at declared
    split at declared
    · cases declared
    · rename_i first between declaredHead
      split at declared
      · cases declared
      · rename_i last declaredNested
        obtain rfl : last = grown := (Prod.mk.inj declared).2
        exact (gains_of_declareHead declaredHead).append
          (gains_of_declareNested (head.place around) nested declaredNested)

theorem gains_of_declareNested (around : Place) : ∀ (specs : List TypeSpec)
    {catalog grown : Catalog}, declareNested around specs catalog = (.ok (), grown) →
      Gains catalog (TypeSpec.declaredInside around specs) grown
  | [], catalog, grown, declared => by
    obtain rfl : catalog = grown := (Prod.mk.inj declared).2
    exact .nothing .rfl
  | spec :: rest, catalog, grown, declared => by
    rw [declareNested] at declared
    split at declared
    · cases declared
    · rename_i first between declaredFirst
      exact (gains_of_declareAt (some around) spec declaredFirst).append
        (gains_of_declareNested around rest declared)

end

/-! ### Distinct handles -/

/-- No two declared types were given one handle. -/
def DistinctHandles (catalog : Catalog) : Prop := (catalog.names.map (·.2)).Nodup

/-- Every type that is there has a handle that a name leads to. -/
def Indexed (catalog : Catalog) : Prop :=
  ∀ type ∈ catalog.types, type.handle ∈ catalog.names.map (·.2)

/-- A type of a fresh handle is placed among the others. -/
theorem perm_placed {type : TypeDecl} {types : List TypeDecl}
    (fresh : ∀ other ∈ types, other.handle ≠ type.handle) :
    (placed type types).Perm (type :: types) := by
  induction types with
  | nil => exact .refl _
  | cons head rest ih =>
    rw [placed]
    split
    · exact .refl _
    · rw [if_neg fun same => fresh head List.mem_cons_self same.symm]
      exact ((ih fun other member => fresh other (List.mem_cons_of_mem _ member)).cons head).trans
        (.swap type head rest)

theorem DistinctHandles.of_gains {catalog grown : Catalog} {types : List TypeDecl}
    (distinct : grown.DistinctHandles) (gains : Gains catalog types grown) :
    catalog.DistinctHandles := by
  induction gains with
  | nothing same =>
    unfold DistinctHandles at distinct
    rw [same.names] at distinct
    exact distinct
  | type same inserted _ ih =>
    have further := ih distinct
    obtain ⟨-, rfl⟩ := insert?_eq_ok_iff.mp inserted
    rw [DistinctHandles, ← same.names]
    exact (List.nodup_cons.mp further).2

/-- **Where all handles are distinct, the types gained stand beside those that were there.** -/
theorem Gains.perm_types {catalog grown : Catalog} {types : List TypeDecl}
    (gains : Gains catalog types grown) (indexed : catalog.Indexed)
    (distinct : grown.DistinctHandles) :
    (grown.types.map TypeDecl.unmarked).Perm (types ++ catalog.types.map TypeDecl.unmarked) := by
  induction gains with
  | nothing same =>
    rw [same.types]
    exact .refl _
  | @type catalog before between grown type types same inserted later ih =>
    have apart := distinct.of_gains later
    obtain ⟨-, rfl⟩ := insert?_eq_ok_iff.mp inserted
    have fresh : ∀ other ∈ before.types, other.handle ≠ type.handle := by
      intro other there equal
      have known := indexed other (same.types ▸ there)
      rw [← same.names, equal] at known
      exact (List.nodup_cons.mp apart).1 known
    have places : (placed type before.types).Perm (type :: catalog.types) :=
      same.types ▸ perm_placed fresh
    have indexedToo : Indexed { before with
        types := placed type before.types
        names := (type.fullName, type.handle) :: before.names } := by
      intro other member
      rcases List.mem_cons.mp (places.mem_iff.mp member) with rfl | there
      · exact List.mem_cons_self
      · exact List.mem_cons_of_mem _ (same.names ▸ indexed other there)
    refine (ih indexedToo distinct).trans ?_
    exact ((places.map TypeDecl.unmarked).append_left types).trans List.perm_middle

/-! ### Built catalogs -/

/-- The catalogs that come from the empty one by declaring specifications in their order, all with
success, and by giving out handles in between. -/
inductive Built : List TypeSpec → Catalog → Prop
  | empty : Built [] .empty
  | minted {specs : List TypeSpec} {catalog : Catalog} (kind : HandleKind) :
      Built specs catalog → Built specs (catalog.mint kind).2
  | declared {specs : List TypeSpec} {catalog grown : Catalog} {spec : TypeSpec} {type : TypeDecl} :
      Built specs catalog → catalog.declare spec = (.ok type, grown) →
        Built (specs ++ [spec]) grown

theorem Built.grown {specs : List TypeSpec} {catalog : Catalog} (built : Built specs catalog) :
    catalog.Grown := by
  induction built with
  | empty => exact .empty
  | minted kind _ ih => exact .minted kind ih
  | @declared specs catalog grown spec type _ succeeds ih =>
    have next := Grown.declared spec ih
    rw [succeeds] at next
    exact next

theorem Built.gains {specs : List TypeSpec} {catalog : Catalog} (built : Built specs catalog) :
    Gains .empty (specs.flatMap (TypeSpec.declared none)) catalog := by
  induction built with
  | empty => exact .nothing .rfl
  | minted kind _ ih =>
    have next := ih.append (.nothing (sameTypes_mint _ kind))
    rw [List.append_nil] at next
    exact next
  | @declared specs catalog grown spec type _ succeeds ih =>
    rw [List.flatMap_append, List.flatMap_singleton]
    exact ih.append (gains_of_declareAt none spec succeeds)

/-- **Without handles, the types of a built catalog are those that its specifications come to.** -/
theorem Built.perm_types {specs : List TypeSpec} {catalog : Catalog} (built : Built specs catalog)
    (distinct : catalog.DistinctHandles) :
    (catalog.types.map TypeDecl.unmarked).Perm (specs.flatMap (TypeSpec.declared none)) := by
  have types : (catalog.types.map TypeDecl.unmarked).Perm
      (specs.flatMap (TypeSpec.declared none) ++ []) := built.gains.perm_types nofun distinct
  rw [List.append_nil] at types
  exact types

/-- The catalog that every program starts with is built from the two root types. -/
theorem built_initial : Built [objectSpec, stringSpec] initial :=
  .declared (.declared .empty rfl) rfl

/-! ### Catalogs that hold the same types -/

theorem mem_names_of_handleOf? {catalog : Catalog} {fullName : String} {handle : Handle}
    (named : catalog.handleOf? fullName = some handle) : (fullName, handle) ∈ catalog.names := by
  obtain ⟨before, after, split, -⟩ := List.lookup_eq_some_iff.mp named
  rw [split]
  exact List.mem_append_right _ List.mem_cons_self

/-- **A name leads to the type that is called so**, where all handles are distinct. -/
theorem Faithful.findByName?_eq_some_iff {catalog : Catalog} (faithful : catalog.Faithful)
    (distinct : catalog.DistinctHandles) {fullName : String} {type : TypeDecl} :
    catalog.findByName? fullName = some type ↔ type ∈ catalog.types ∧ type.fullName = fullName := by
  constructor
  · intro found
    have there := mem_types_of_findByName? found
    refine ⟨there, ?_⟩
    -- The name and the type's own name lead to one handle, and are one entry for that.
    have named := mem_names_of_handleOf? (handleOf?_of_findByName? found).1
    have ownName := mem_names_of_handleOf? (handleOf?_of_findByName? (faithful.found type there)).1
    exact congrArg Prod.fst (List.inj_on_of_nodup_map distinct ownName named rfl)
  · rintro ⟨there, rfl⟩
    exact faithful.found type there

/-- Two catalogs hold the same types but for handles, which are distinct in either. -/
structure Counterparts (first second : Catalog) : Prop where
  faithful : first.Faithful
  faithfulToo : second.Faithful
  distinct : first.DistinctHandles
  distinctToo : second.DistinctHandles
  types : (first.types.map TypeDecl.unmarked).Perm (second.types.map TypeDecl.unmarked)

/-- A type of the first catalog and one of the second are the same but for handles. -/
structure Counterpart (first second : Catalog) (a b : TypeDecl) : Prop where
  there : a ∈ first.types
  thereToo : b ∈ second.types
  unmarked : a.unmarked = b.unmarked

namespace Counterpart

variable {first second : Catalog} {a b : TypeDecl} (pair : Counterpart first second a b)

include pair

/-- Whatever does not look at handles is the same of both. -/
theorem congr {β : Type} (read : TypeDecl → β) (blind : ∀ type, read type.unmarked = read type) :
    read a = read b := by
  rw [← blind a, ← blind b, pair.unmarked]

theorem fullName_eq : a.fullName = b.fullName := pair.congr TypeDecl.fullName fun _ => rfl

theorem fields : List.Forall₂ FieldDecl.Alike a.fields b.fields :=
  .of_map_eq (congrArg TypeDecl.fields pair.unmarked)

theorem constructors : List.Forall₂ CallableDecl.Alike a.constructors b.constructors :=
  .of_map_eq (congrArg TypeDecl.constructors pair.unmarked)

theorem methods : List.Forall₂ CallableDecl.Alike a.methods b.methods :=
  .of_map_eq (congrArg TypeDecl.methods pair.unmarked)

end Counterpart

namespace Counterparts

variable {first second : Catalog}

theorem symm (catalogs : Counterparts first second) : Counterparts second first :=
  ⟨catalogs.faithfulToo, catalogs.faithful, catalogs.distinctToo, catalogs.distinct,
    catalogs.types.symm⟩

variable (catalogs : Counterparts first second)

include catalogs

/-- What a name leads to has a counterpart that the name leads to. -/
theorem exists_findByName? {fullName : String} {a : TypeDecl}
    (found : first.findByName? fullName = some a) :
    ∃ b, second.findByName? fullName = some b ∧ Counterpart first second a b := by
  obtain ⟨there, rfl⟩ := (catalogs.faithful.findByName?_eq_some_iff catalogs.distinct).mp found
  obtain ⟨b, thereToo, same⟩ :=
    List.mem_map.mp (catalogs.types.mem_iff.mp (List.mem_map_of_mem there))
  have pair : Counterpart first second a b := ⟨there, thereToo, same.symm⟩
  exact ⟨b, (catalogs.faithfulToo.findByName?_eq_some_iff catalogs.distinctToo).mpr
    ⟨thereToo, pair.fullName_eq.symm⟩, pair⟩

/-- **A name leads to counterparts**, or nowhere in either. -/
theorem findByName? (fullName : String) :
    Option.Rel (Counterpart first second) (first.findByName? fullName)
      (second.findByName? fullName) := by
  cases found : first.findByName? fullName with
  | some a =>
    obtain ⟨b, foundToo, pair⟩ := catalogs.exists_findByName? found
    rw [foundToo]
    exact .some pair
  | none =>
    cases foundToo : second.findByName? fullName with
    | none => exact .none
    | some b =>
      obtain ⟨a, located, -⟩ := catalogs.symm.exists_findByName? foundToo
      rw [located] at found
      cases found

/-- Two types are one exactly if their counterparts are. -/
theorem handle_eq_iff {a b c d : TypeDecl} (pair : Counterpart first second a b)
    (other : Counterpart first second c d) : a.handle = c.handle ↔ b.handle = d.handle := by
  constructor
  · intro same
    obtain rfl := catalogs.faithful.eq_of_handle pair.there other.there same
    rw [catalogs.faithfulToo.eq_of_fullName pair.thereToo other.thereToo
      (pair.fullName_eq.symm.trans other.fullName_eq)]
  · intro same
    obtain rfl := catalogs.faithfulToo.eq_of_handle pair.thereToo other.thereToo same
    rw [catalogs.faithful.eq_of_fullName pair.there other.there
      (pair.fullName_eq.trans other.fullName_eq.symm)]

/-- **Catalogs that hold the same types mirror each other.** -/
theorem mirrors : first.provider.Mirrors (Counterpart first second) second.provider := by
  refine Provider.mirrors_ofNames catalogs.findByName?
    (fun pair => pair.congr TypeDecl.head fun _ => rfl) catalogs.handle_eq_iff
    (fun {a b} pair => ?_) fun {a b} pair => ?_
  · change (first.provider.members a).Mirrors _ (second.provider.members b)
    have nested : a.nested = b.nested := pair.congr TypeDecl.nested fun _ => rfl
    rw [members_provider, members_provider]
    refine ⟨pair.fields, pair.constructors, pair.methods, ?_⟩
    change List.Forall₂ _ (a.nested.filterMap _) (b.nested.filterMap _)
    rw [nested]
    exact Provider.resolveAll_ofNames catalogs.findByName? b.nested
  · change List.Forall₂ _ (first.provider.members a).methods (second.provider.members b).methods
    rw [members_provider, members_provider]
    refine pair.methods.imp fun c d alike => ?_
    have record : a.isRecord = b.isRecord := pair.congr TypeDecl.isRecord fun _ => rfl
    have named : (a.fields.any fun field => !field.isStatic && field.name == c.name &&
        field.type.erased == c.returns.erased) = b.fields.any fun field =>
          !field.isStatic && field.name == d.name && field.type.erased == d.returns.erased :=
      pair.fields.any_eq fun _ _ fields => by
        rw [fields.isStatic_eq, fields.name_eq, fields.congr FieldDecl.type fun _ => rfl,
          alike.name_eq, alike.returns_eq]
    change (a.isRecord && c.hasNoParams && !c.isStatic && _) =
      (b.isRecord && d.hasNoParams && !d.isStatic && _)
    rw [record, named, alike.congr CallableDecl.hasNoParams fun _ => rfl, alike.isStatic_eq]

end Counterparts

end Catalog

end ValueAnatomy
