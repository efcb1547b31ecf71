/-
**Providers that look names up alike mirror each other.**

A provider that is not told better answers every question by its look-up of names and by what the
declarations say. So two of them mirror each other along a relation between their types as soon as
names lead to related types, and related types are the same in all but their handles and members.
How they report members and positional accessors is left to each.

* `Provider.ofNames`: the provider with a look-up of names, and its own reports of members;
* `Provider.mirrors_ofNames`: when two such providers mirror each other.
-/

import ValueAnatomy.Proofs.Mirror.Routes

namespace ValueAnatomy

/-- The type without its handle and its members. -/
def TypeDecl.head (type : TypeDecl) : TypeDecl :=
  { type with handle := .blank, fields := [], constructors := [], methods := [] }

namespace Provider

/-- The provider that looks names up and reports members and positional accessors as given, and
answers every other question by names. -/
def ofNames (find : String → Option TypeDecl) (membersOf : TypeDecl → List Declaration)
    (isPositionalAccessor : TypeDecl → CallableDecl → Bool) : Provider where
  typeByName := find
  membersOf
  isPositionalAccessor

variable {related : TypeDecl → TypeDecl → Prop} {find findToo : String → Option TypeDecl}
  {membersOf membersOfToo : TypeDecl → List Declaration}
  {positional positionalToo : TypeDecl → CallableDecl → Bool}
  (names : ∀ fullName, Option.Rel related (find fullName) (findToo fullName))

include names

/-- References lead to related types where names do. -/
theorem resolve_ofNames (reference : TypeRef) :
    Option.Rel related (reference.fullName?.bind find) (reference.fullName?.bind findToo) := by
  cases reference.fullName? with
  | none => exact .none
  | some fullName => exact names fullName

theorem resolveAll_ofNames (references : List TypeRef) :
    List.Forall₂ related (references.filterMap fun reference => reference.fullName?.bind find)
      (references.filterMap fun reference => reference.fullName?.bind findToo) := by
  have same : List.Forall₂ Eq references references := List.forall₂_same.mpr fun _ _ => rfl
  exact List.rel_filterMap (fun reference _ equal => equal ▸ resolve_ofNames names reference) same

/-- **Providers that look names up alike mirror each other**, if related types differ in nothing but
handles and members, handles are the same on both sides or on neither, and members are reported
alike. -/
theorem mirrors_ofNames (heads : ∀ {a b}, related a b → a.head = b.head)
    (handles : ∀ {a b c d}, related a b → related c d →
      (a.handle = c.handle ↔ b.handle = d.handle))
    (members : ∀ {a b}, related a b →
      ((ofNames find membersOf positional).members a).Mirrors related
        ((ofNames findToo membersOfToo positionalToo).members b))
    (accessors : ∀ {a b}, related a b →
      List.Forall₂ (fun c d => positional a c = positionalToo b d)
        ((ofNames find membersOf positional).members a).methods
        ((ofNames findToo membersOfToo positionalToo).members b).methods) :
    (ofNames find membersOf positional).Mirrors related
      (ofNames findToo membersOfToo positionalToo) where
  fullName pair := (congrArg TypeDecl.fullName (heads pair) :)
  modifiers pair := (congrArg TypeDecl.modifiers (heads pair) :)
  origin pair := (congrArg TypeDecl.origin (heads pair) :)
  handle := handles
  sameType pair other := by
    change (_ == _) = (_ == _)
    rw [Bool.eq_iff_iff, beq_iff_eq, beq_iff_eq]
    exact handles pair other
  members := members
  supertypes {a b} pair := by
    have supertypes : a.supertypes = b.supertypes :=
      (congrArg TypeDecl.supertypes (heads pair) :)
    change List.Forall₂ _ (a.supertypes.filterMap _) (b.supertypes.filterMap _)
    rw [supertypes]
    exact resolveAll_ofNames names b.supertypes
  enclosing {a b} pair := by
    have enclosing : a.enclosing = b.enclosing :=
      (congrArg TypeDecl.enclosing (heads pair) :)
    change Option.Rel _ (a.enclosing.bind _) (b.enclosing.bind _)
    rw [enclosing]
    cases b.enclosing with
    | none => exact .none
    | some reference => exact resolve_ofNames names reference
  result {c d} alike := by
    change Option.Rel _ (c.returns.fullName?.bind find) (d.returns.fullName?.bind findToo)
    rw [alike.returns_eq]
    exact resolve_ofNames names d.returns
  fieldAnnotations alike := alike.congr FieldDecl.annotations fun _ => rfl
  callableAnnotations alike :=
    ⟨alike.congr CallableDecl.annotations fun _ => rfl,
      alike.congr CallableDecl.annotations fun _ => rfl⟩
  paramAnnotations alike position :=
    congrArg (fun params => (params[position]?.map Param.annotations).getD []) alike.params_eq
  positional := accessors

end Provider

end ValueAnatomy
