/-
**Members that a provider does not report.**

A provider may report fewer members than a type declares. Everything that an analysis does reads
members through the provider, so that a hidden member is as good as never declared. One question has
an answer of its own that reads the declaration instead: a method of a record is taken for the
accessor of a component as long as the record declares the field, be it hidden or not.

* `Catalog.providerHiding`: the provider that reports all members but the hidden ones;
* `Catalog.without`: the catalog in which these were never declared;
* `Catalog.mirrors_hiding`: the two mirror each other, if they take the same shown methods for
  accessors of components;
* `Session.outlineOf_analyze_hiding`: then an analysis tells the same in both;
* `Session.outlineOf_analyze_hidden_component`: a shown accessor of a hidden field is lost.
-/

import ValueAnatomy.Proofs.Catalog.Answers
import ValueAnatomy.Proofs.Mirror.ByName
import ValueAnatomy.Proofs.Mirror.Properties

namespace ValueAnatomy

variable {hidden : Declaration → Bool}

/-- Whether a declaration is a member that is reported; nested types always are. -/
def Declaration.isShown (hidden : Declaration → Bool) : Declaration → Bool
  | .type _ => true
  | member => !hidden member

/-- The type as if it had never declared the hidden members. -/
def TypeDecl.without (hidden : Declaration → Bool) (type : TypeDecl) : TypeDecl :=
  { type with
    fields := type.fields.filter fun field => !hidden (.field field)
    constructors := type.constructors.filter fun callable => !hidden (.constructor callable)
    methods := type.methods.filter fun callable => !hidden (.method callable) }

/-- The first type is one of the catalog, and the second is it without the hidden members. -/
structure TypeDecl.Shown (catalog : Catalog) (hidden : Declaration → Bool) (a b : TypeDecl) :
    Prop where
  there : a ∈ catalog.types
  shown : b = a.without hidden

namespace Catalog

variable {catalog : Catalog}

/-- The catalog with the same types under the same handles, in which the hidden members were never
declared. -/
def without (catalog : Catalog) (hidden : Declaration → Bool) : Catalog :=
  { catalog with types := catalog.types.map (TypeDecl.without hidden) }

/-- The members of a type but for the hidden ones. -/
def membersShown (catalog : Catalog) (hidden : Declaration → Bool) (type : TypeDecl) :
    List Declaration :=
  (catalog.provider.membersOf type).filter (Declaration.isShown hidden)

/-- The provider that reports all members but the hidden ones, and answers every other question as
usual. -/
def providerHiding (catalog : Catalog) (hidden : Declaration → Bool) : Provider where
  typeByName := catalog.findByName?
  membersOf := catalog.membersShown hidden

/-- The same provider, except that it looks for the components of a record among the fields that it
reports. -/
def providerHidingComponents (catalog : Catalog) (hidden : Declaration → Bool) : Provider where
  typeByName := catalog.findByName?
  membersOf := catalog.membersShown hidden
  isPositionalAccessor type := catalog.provider.isPositionalAccessor (type.without hidden)

/-- No record loses the field of a component and keeps the accessor. -/
def KeepsComponents (catalog : Catalog) (hidden : Declaration → Bool) : Prop :=
  ∀ record ∈ catalog.types, ∀ method ∈ record.methods, hidden (.method method) = false →
    catalog.provider.isPositionalAccessor record method = true →
      catalog.provider.isPositionalAccessor (record.without hidden) method = true

/-! ### Names and members -/

theorem findByName?_without (fullName : String) :
    (catalog.without hidden).findByName? fullName =
      (catalog.findByName? fullName).map (TypeDecl.without hidden) := by
  show (catalog.handleOf? fullName).bind (catalog.without hidden).find? = _
  have byHandle : (catalog.without hidden).find? =
      fun handle => (catalog.find? handle).map (TypeDecl.without hidden) := by
    funext handle
    exact List.find?_map
  rw [byHandle, findByName?, Option.map_bind]
  rfl

/-- **A name leads to one type in both**, with or without the hidden members. -/
theorem rel_findByName?_without (fullName : String) :
    Option.Rel (TypeDecl.Shown catalog hidden) (catalog.findByName? fullName)
      ((catalog.without hidden).findByName? fullName) := by
  rw [findByName?_without]
  cases found : catalog.findByName? fullName with
  | none => exact .none
  | some type => exact .some ⟨mem_types_of_findByName? found, rfl⟩

/-- The members that are reported are those of the type without the hidden ones. -/
theorem members_membersShown (type : TypeDecl) (positional : TypeDecl → CallableDecl → Bool) :
    (Provider.ofNames catalog.findByName? (catalog.membersShown hidden) positional).members type =
      ⟨(type.without hidden).fields, (type.without hidden).constructors,
        (type.without hidden).methods, catalog.provider.nestedOf type⟩ := by
  have declared : catalog.provider.membersOf type =
      type.fields.map .field ++ type.constructors.map .constructor ++ type.methods.map .method ++
        (catalog.provider.nestedOf type).map .type := rfl
  have nested : (catalog.provider.nestedOf type).filter
      (Declaration.isShown hidden ∘ Declaration.type) = catalog.provider.nestedOf type :=
    List.filter_eq_self.mpr fun _ _ => rfl
  apply members_of_membersOf
  show (catalog.provider.membersOf type).filter _ = _
  rw [declared, List.filter_append, List.filter_append, List.filter_append, List.filter_map,
    List.filter_map, List.filter_map, List.filter_map, nested]
  rfl

theorem providerHiding_eq_ofNames :
    catalog.providerHiding hidden = Provider.ofNames catalog.findByName?
      (catalog.membersShown hidden) catalog.provider.isPositionalAccessor := rfl

theorem providerHidingComponents_eq_ofNames :
    catalog.providerHidingComponents hidden = Provider.ofNames catalog.findByName?
      (catalog.membersShown hidden)
      fun type => catalog.provider.isPositionalAccessor (type.without hidden) := rfl

/-! ### Mirroring -/

/-- **Hiding members mirrors never having declared them**, whichever methods are taken for accessors
of components, as long as they are the same shown ones on both sides. -/
theorem mirrors_hiding {positional : TypeDecl → CallableDecl → Bool}
    (same : ∀ type ∈ catalog.types, ∀ method ∈ (type.without hidden).methods,
      positional type method =
        catalog.provider.isPositionalAccessor (type.without hidden) method) :
    (Provider.ofNames catalog.findByName? (catalog.membersShown hidden) positional).Mirrors
      (TypeDecl.Shown catalog hidden) (catalog.without hidden).provider := by
  refine Provider.mirrors_ofNames rel_findByName?_without ?_ ?_ ?_ ?_
  · rintro a _ ⟨-, rfl⟩
    rfl
  · rintro a _ c _ ⟨-, rfl⟩ ⟨-, rfl⟩
    exact Iff.rfl
  · rintro a _ ⟨-, rfl⟩
    show Members.Mirrors _ _ ((catalog.without hidden).provider.members (a.without hidden))
    rw [members_membersShown, members_provider]
    refine ⟨List.forall₂_same.mpr fun _ _ => rfl, List.forall₂_same.mpr fun _ _ => rfl,
      List.forall₂_same.mpr fun _ _ => rfl, ?_⟩
    exact Provider.resolveAll_ofNames rel_findByName?_without a.nested
  · rintro a _ ⟨there, rfl⟩
    show List.Forall₂ _ _ ((catalog.without hidden).provider.members (a.without hidden)).methods
    rw [members_membersShown, members_provider]
    exact List.forall₂_same.mpr (same a there)

/-- Without the hidden members no method becomes the accessor of a component that was none. -/
theorem isPositionalAccessor_without {type : TypeDecl} {method : CallableDecl}
    (reads : catalog.provider.isPositionalAccessor (type.without hidden) method = true) :
    catalog.provider.isPositionalAccessor type method = true := by
  have form : ∀ type : TypeDecl, catalog.provider.isPositionalAccessor type method = true ↔
      (type.isRecord && method.hasNoParams && !method.isStatic) = true ∧
        ∃ field ∈ type.fields, (!field.isStatic && field.name == method.name &&
          field.type.erased == method.returns.erased) = true := by
    intro type
    show (type.isRecord && method.hasNoParams && !method.isStatic && _) = true ↔ _
    rw [Bool.and_eq_true, List.any_eq_true]
  rw [form] at reads ⊢
  obtain ⟨record, field, member, names⟩ := reads
  exact ⟨record, field, (List.mem_filter.mp member).1, names⟩

/-- Where components keep their fields, the usual answer about a shown method is that of the type
without the hidden members. -/
theorem KeepsComponents.isPositionalAccessor_eq (keeps : catalog.KeepsComponents hidden)
    {type : TypeDecl} (there : type ∈ catalog.types) {method : CallableDecl}
    (member : method ∈ (type.without hidden).methods) :
    catalog.provider.isPositionalAccessor type method =
      catalog.provider.isPositionalAccessor (type.without hidden) method := by
  obtain ⟨declared, shown⟩ := List.mem_filter.mp member
  rw [Bool.not_eq_true'] at shown
  rw [Bool.eq_iff_iff]
  exact ⟨keeps type there method declared shown, isPositionalAccessor_without⟩

end Catalog

namespace Session

/-- **Hidden members are as if they had never been declared**, whichever fields, methods and
constructors are hidden, if components are looked for among the fields that are reported. With the
usual answer they are, if no record loses the field of a component and keeps the accessor. -/
theorem outlineOf_analyze_hiding (catalog : Catalog) (hidden : Declaration → Bool)
    (settings : Settings) {type : TypeDecl} (there : type ∈ catalog.types) :
    outlineOf ((ofSettings settings).analyze (catalog.providerHidingComponents hidden) type).value.1 =
        outlineOf ((ofSettings settings).analyze (catalog.without hidden).provider
          (type.without hidden)).value.1 ∧
      (catalog.KeepsComponents hidden →
        outlineOf ((ofSettings settings).analyze (catalog.providerHiding hidden) type).value.1 =
          outlineOf ((ofSettings settings).analyze (catalog.without hidden).provider
            (type.without hidden)).value.1) := by
  have pair : TypeDecl.Shown catalog hidden type (type.without hidden) := ⟨there, rfl⟩
  rw [fst_analyze_ofSettings, fst_analyze_ofSettings, fst_analyze_ofSettings,
    Catalog.providerHidingComponents_eq_ofNames, Catalog.providerHiding_eq_ofNames]
  refine ⟨?_, fun keeps => ?_⟩
  · have mirrors := Catalog.mirrors_hiding fun type (_ : type ∈ catalog.types) method
      (_ : method ∈ (type.without hidden).methods) => rfl
    exact mirrors.outlineOf_anatomy settings settings.creatorMarker pair
  · have mirrors := Catalog.mirrors_hiding fun _ there _ member =>
      keeps.isPositionalAccessor_eq there member
    exact mirrors.outlineOf_anatomy settings settings.creatorMarker pair

/-- A record with two components and a method beside their accessors. -/
def points : Catalog :=
  (Catalog.empty.declare <|
    .mk
      { form := .record
        name := "Point"
        base := .absent
        fields :=
          [{ name := "x", type := .int, keywords := [.access .ownType] },
            { name := "y", type := .int, keywords := [.access .ownType] }]
        constructors := [{ name := constructorName }]
        methods :=
          [{ name := "x", returns := .int },
            { name := "y", returns := .int },
            { name := "sum", returns := .int }] }
      []).2

/-- The members of a name. -/
def membersNamed (name : String) : Declaration → Bool
  | .field field => field.name == name
  | .method callable | .constructor callable => callable.name == name
  | .type _ => false

/-- The fields of a name. -/
def fieldsNamed (name : String) : Declaration → Bool
  | .field field => field.name == name
  | _ => false

/-- Hidden with its accessor, a component of a point is as if it had never been declared. -/
theorem outlineOf_analyze_hiding_points :
    ∃ point, points.findByName? "Point" = some point ∧
      points.KeepsComponents (membersNamed "x") ∧
      outlineOf ((ofSettings {}).analyze (points.providerHiding (membersNamed "x"))
          point).value.1 =
        outlineOf ((ofSettings {}).analyze (points.without (membersNamed "x")).provider
          (point.without (membersNamed "x"))).value.1 ∧
      (outlineOf ((ofSettings {}).analyze (points.providerHiding (membersNamed "x"))
        point).value.1).toOption.map (fun outline => outline.all.map (·.name)) =
          some ["sum"] := by
  obtain ⟨point, found⟩ : ∃ point, points.findByName? "Point" = some point :=
    Option.isSome_iff_exists.mp (by decide)
  have keeps : points.KeepsComponents (membersNamed "x") := by
    unfold Catalog.KeepsComponents
    decide
  have named : ∀ point ∈ points.findByName? "Point",
      (outlineOf ((ofSettings {}).analyze (points.providerHiding (membersNamed "x"))
        point).value.1).toOption.map (fun outline => outline.all.map (·.name)) =
          some ["sum"] := by decide
  have there := Catalog.mem_types_of_findByName? found
  exact ⟨point, found, keeps,
    (outlineOf_analyze_hiding points (membersNamed "x") {} there).2 keeps, named point found⟩

/-- **A shown accessor of a hidden field is lost.** With the field hidden the accessor is still taken
for one of a component, and reads no property; had the field never been declared, it would. -/
theorem outlineOf_analyze_hidden_component :
    ∃ point, points.findByName? "Point" = some point ∧
      outlineOf ((ofSettings {}).analyze (points.providerHiding (fieldsNamed "x"))
          point).value.1 ≠
        outlineOf ((ofSettings {}).analyze (points.without (fieldsNamed "x")).provider
          (point.without (fieldsNamed "x"))).value.1 ∧
      (outlineOf ((ofSettings {}).analyze (points.providerHiding (fieldsNamed "x"))
        point).value.1).toOption.map (fun outline => outline.all.map (·.name)) = some ["sum"] ∧
      (outlineOf ((ofSettings {}).analyze (points.without (fieldsNamed "x")).provider
        (point.without (fieldsNamed "x"))).value.1).toOption.map
          (fun outline => outline.all.map (·.name)) = some ["x", "sum"] := by
  obtain ⟨point, found⟩ : ∃ point, points.findByName? "Point" = some point :=
    Option.isSome_iff_exists.mp (by decide)
  have told : ∀ point ∈ points.findByName? "Point",
      (outlineOf ((ofSettings {}).analyze (points.providerHiding (fieldsNamed "x"))
        point).value.1).toOption.map (fun outline => outline.all.map (·.name)) = some ["sum"] ∧
      (outlineOf ((ofSettings {}).analyze (points.without (fieldsNamed "x")).provider
        (point.without (fieldsNamed "x"))).value.1).toOption.map
          (fun outline => outline.all.map (·.name)) = some ["x", "sum"] := by decide
  obtain ⟨hides, declaresNot⟩ := told point found
  refine ⟨point, found, fun same => ?_, hides, declaresNot⟩
  rw [same, declaresNot] at hides
  exact absurd hides (by decide)

end Session

end ValueAnatomy
