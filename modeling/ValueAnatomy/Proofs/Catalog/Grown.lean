/-
**Grown catalogs: those filled by declarations alone.**

A catalog is grown if it comes from the empty one by giving out handles and by declaring types,
failed declarations included. Nothing is assumed about how many handles were given out: where the
indices of types wrap around, a later type takes the place of an earlier one.

* `Catalog.Faithful`: every type that is there is found under its full name, and owns its members;
* `Catalog.headOutcome_declareHead`: what becomes of a type that is declared, in any case;
* `Catalog.Grown.faithful`: every grown catalog is faithful.
-/

import ValueAnatomy.Catalog.Roots

namespace ValueAnatomy

/-- The members of a type name it as their owner and are what they are listed as. -/
structure TypeDecl.OwnsMembers (type : TypeDecl) : Prop where
  fields : ∀ field ∈ type.fields, field.owner = type.fullName
  constructors : ∀ callable ∈ type.constructors,
    callable.owner = type.fullName ∧ callable.kind = .constructor
  methods : ∀ callable ∈ type.methods, callable.owner = type.fullName ∧ callable.kind = .method

namespace Catalog

/-- The catalogs that come from the empty one by giving out handles and declaring types. -/
inductive Grown : Catalog → Prop
  | empty : Grown .empty
  | minted {catalog : Catalog} (kind : HandleKind) : Grown catalog → Grown (catalog.mint kind).2
  | declared {catalog : Catalog} (spec : TypeSpec) :
      Grown catalog → Grown (catalog.declare spec).2

theorem Grown.declareAll {catalog : Catalog} (grown : catalog.Grown) (specs : List TypeSpec) :
    Grown (specs.foldl (fun catalog spec => (catalog.declare spec).2) catalog) := by
  induction specs generalizing catalog with
  | nil => exact grown
  | cons spec rest ih => exact ih (grown.declared spec)

theorem grown_initial : Grown initial := Grown.empty.declareAll _

/-- Every type of the catalog is found under its name and owns its members. -/
structure Faithful (catalog : Catalog) : Prop where
  /-- The types stand in the order of their handles. -/
  ordered : catalog.types.Pairwise fun first second => first.handle.code < second.handle.code
  /-- The full name of a type leads to it. -/
  found : ∀ type ∈ catalog.types, catalog.findByName? type.fullName = some type
  /-- A type owns its members. -/
  owned : ∀ type ∈ catalog.types, type.OwnsMembers

/-! ### Look-ups -/

theorem mem_types_of_findByName? {catalog : Catalog} {fullName : String} {type : TypeDecl}
    (found : catalog.findByName? fullName = some type) : type ∈ catalog.types := by
  obtain ⟨_, _, located⟩ := Option.bind_eq_some_iff.mp found
  exact List.mem_of_find?_eq_some located

/-- A type that its name leads to is found by its handle, and its name leads to that handle. -/
theorem handleOf?_of_findByName? {catalog : Catalog} {fullName : String} {type : TypeDecl}
    (found : catalog.findByName? fullName = some type) :
    catalog.handleOf? fullName = some type.handle ∧ catalog.find? type.handle = some type := by
  obtain ⟨handle, named, located⟩ := Option.bind_eq_some_iff.mp found
  obtain rfl : type.handle = handle := by simpa using List.find?_some located
  exact ⟨named, located⟩

/-- In a faithful catalog types of one handle are one type. -/
theorem Faithful.eq_of_handle {catalog : Catalog} (faithful : catalog.Faithful)
    {first second : TypeDecl} (firstThere : first ∈ catalog.types)
    (secondThere : second ∈ catalog.types) (same : first.handle = second.handle) :
    first = second := by
  have atFirst := (handleOf?_of_findByName? (faithful.found first firstThere)).2
  have atSecond := (handleOf?_of_findByName? (faithful.found second secondThere)).2
  rw [same, atSecond] at atFirst
  exact (Option.some.inj atFirst).symm

/-- In a faithful catalog types of one name are one type. -/
theorem Faithful.eq_of_fullName {catalog : Catalog} (faithful : catalog.Faithful)
    {first second : TypeDecl} (firstThere : first ∈ catalog.types)
    (secondThere : second ∈ catalog.types) (same : first.fullName = second.fullName) :
    first = second := by
  have located := faithful.found first firstThere
  rw [same, faithful.found second secondThere] at located
  exact (Option.some.inj located).symm

/-! ### Insertion -/

/-- Among types in order, those placed with a new one are it and the others of another handle. -/
theorem mem_placed {type other : TypeDecl} {types : List TypeDecl}
    (ordered : types.Pairwise fun first second => first.handle.code < second.handle.code) :
    other ∈ placed type types ↔
      other = type ∨ other ∈ types ∧ other.handle ≠ type.handle := by
  induction types with
  | nil => simp [placed]
  | cons head rest ih =>
    rw [List.pairwise_cons] at ordered
    have behind : ∀ later ∈ rest, head.handle ≠ later.handle := by
      intro later member same
      have := ordered.1 later member
      rw [same] at this
      exact absurd this (UInt32.lt_irrefl _)
    rw [placed]
    split
    · rename_i smaller
      have apart : ∀ later ∈ head :: rest, later.handle ≠ type.handle := by
        intro later member same
        have least : type.handle.code < later.handle.code := by
          rcases List.mem_cons.mp member with rfl | member
          · exact smaller
          · exact UInt32.lt_trans smaller (ordered.1 later member)
        rw [same] at least
        exact absurd least (UInt32.lt_irrefl _)
      rw [List.mem_cons]
      exact or_congr_right ⟨fun member => ⟨member, apart other member⟩, And.left⟩
    · split
      · rename_i same
        rw [List.mem_cons, List.mem_cons]
        refine or_congr_right ⟨fun member => ⟨.inr member, ?_⟩, ?_⟩
        · rw [same]
          exact (behind other member).symm
        · rintro ⟨rfl | member, apart⟩
          · exact absurd same.symm apart
          · exact member
      · rename_i apart
        rw [List.mem_cons, List.mem_cons, ih ordered.2]
        constructor
        · rintro (rfl | rfl | ⟨member, other⟩)
          · exact .inr ⟨.inl rfl, Ne.symm apart⟩
          · exact .inl rfl
          · exact .inr ⟨.inr member, other⟩
        · rintro (rfl | ⟨rfl | member, other⟩)
          · exact .inr (.inl rfl)
          · exact .inl rfl
          · exact .inr (.inr ⟨member, other⟩)

theorem pairwise_placed {type : TypeDecl} {types : List TypeDecl}
    (ordered : types.Pairwise fun first second => first.handle.code < second.handle.code) :
    (placed type types).Pairwise fun first second => first.handle.code < second.handle.code := by
  induction types with
  | nil => simp [placed]
  | cons head rest ih =>
    have parts := List.pairwise_cons.mp ordered
    rw [placed]
    split
    · rename_i smaller
      refine List.pairwise_cons.mpr ⟨fun later member => ?_, ordered⟩
      rcases List.mem_cons.mp member with rfl | member
      · exact smaller
      · exact UInt32.lt_trans smaller (parts.1 later member)
    · rename_i notSmaller
      split
      · rename_i same
        refine List.pairwise_cons.mpr ⟨fun later member => ?_, parts.2⟩
        rw [same]
        exact parts.1 later member
      · rename_i apart
        refine List.pairwise_cons.mpr ⟨fun later member => ?_, ih parts.2⟩
        rcases (mem_placed parts.2).mp member with rfl | ⟨member, _⟩
        · exact UInt32.lt_of_le_of_ne (UInt32.not_lt.mp notSmaller) fun same =>
            apart (congrArg Handle.mk same.symm)
        · exact parts.1 later member

/-- What an insertion that succeeds has found and leaves behind. -/
theorem insert?_eq_ok_iff {catalog grown : Catalog} {type : TypeDecl} :
    catalog.insert? type = .ok grown ↔
      catalog.handleOf? type.fullName = none ∧
        grown = { catalog with
          types := placed type catalog.types
          names := (type.fullName, type.handle) :: catalog.names } := by
  rw [insert?]
  split
  · rename_i taken
    simp [taken]
  · rename_i free
    simp only [free, true_and, Except.ok.injEq]
    exact eq_comm

/-- Behind its handle the new type is found, behind every other one what was there. -/
theorem find?_insert? {catalog grown : Catalog} {type : TypeDecl}
    (inserted : catalog.insert? type = .ok grown) (handle : Handle) :
    grown.find? handle = if handle = type.handle then some type else catalog.find? handle := by
  rw [(insert?_eq_ok_iff.mp inserted).2]
  exact find?_placed type catalog.types handle

/-- After an insertion a name leads to what its handle does. -/
theorem findByName?_insert? {catalog grown : Catalog} {type : TypeDecl}
    (inserted : catalog.insert? type = .ok grown) (fullName : String) :
    grown.findByName? fullName =
      (if fullName = type.fullName then some type.handle
        else catalog.handleOf? fullName).bind fun handle =>
          if handle = type.handle then some type else catalog.find? handle := by
  rw [findByName?, handleOf?_insert? inserted]
  congr 1
  funext handle
  exact find?_insert? inserted handle

/-- The new name leads to the new type. -/
theorem findByName?_insert?_self {catalog grown : Catalog} {type : TypeDecl}
    (inserted : catalog.insert? type = .ok grown) :
    grown.findByName? type.fullName = some type := by
  rw [findByName?_insert? inserted, if_pos rfl, Option.bind_some, if_pos rfl]

/-- **Another name leads where it did before, unless that was under the handle of the new type**:
then it leads to the new type. -/
theorem findByName?_insert?_other {catalog grown : Catalog} {type : TypeDecl}
    (inserted : catalog.insert? type = .ok grown) {fullName : String}
    (other : fullName ≠ type.fullName) :
    grown.findByName? fullName =
      if catalog.handleOf? fullName = some type.handle then some type
      else catalog.findByName? fullName := by
  rw [findByName?_insert? inserted, if_neg other, findByName?]
  cases named : catalog.handleOf? fullName with
  | none => simp
  | some handle =>
    rw [Option.bind_some, Option.bind_some]
    by_cases own : handle = type.handle
    · simp [own]
    · simp [own]

/-- **An insertion keeps a catalog faithful**, if the new type owns its members. -/
theorem Faithful.insert? {catalog grown : Catalog} (faithful : catalog.Faithful)
    {type : TypeDecl} (owns : type.OwnsMembers) (inserted : catalog.insert? type = .ok grown) :
    grown.Faithful := by
  have located := findByName?_insert? inserted
  obtain ⟨free, rfl⟩ := insert?_eq_ok_iff.mp inserted
  refine ⟨pairwise_placed faithful.ordered, fun other member => ?_, fun other member => ?_⟩
  · rcases (mem_placed faithful.ordered).mp member with rfl | ⟨there, apart⟩
    · rw [located]
      simp
    · obtain ⟨named, atHandle⟩ := handleOf?_of_findByName? (faithful.found other there)
      have otherName : other.fullName ≠ type.fullName := by
        intro same
        rw [same, free] at named
        cases named
      rw [located, if_neg otherName, named, Option.bind_some, if_neg apart, atHandle]
  · rcases (mem_placed faithful.ordered).mp member with rfl | ⟨there, _⟩
    · exact owns
    · exact faithful.owned other there

/-! ### Declarations -/

/-- Two catalogs hold the same types under the same names; the handles given out may differ. -/
structure SameTypes (catalog other : Catalog) : Prop where
  types : other.types = catalog.types
  names : other.names = catalog.names

theorem SameTypes.rfl {catalog : Catalog} : SameTypes catalog catalog := ⟨.refl _, .refl _⟩

theorem SameTypes.trans {first second third : Catalog} (start : SameTypes first second)
    (next : SameTypes second third) : SameTypes first third :=
  ⟨next.types.trans start.types, next.names.trans start.names⟩

theorem sameTypes_mint (catalog : Catalog) (kind : HandleKind) :
    SameTypes catalog (catalog.mint kind).2 := ⟨.refl _, .refl _⟩

/-- Being faithful is a matter of the types and their names. -/
theorem Faithful.of_sameTypes {catalog other : Catalog} (faithful : catalog.Faithful)
    (same : SameTypes catalog other) : other.Faithful := by
  obtain ⟨types, names, minted⟩ := other
  obtain ⟨rfl, rfl⟩ := same
  exact ⟨faithful.ordered, faithful.found, faithful.owned⟩

theorem sameTypes_declareFields (owner : String) (specs : List FieldSpec) (catalog : Catalog) :
    SameTypes catalog (declareFields owner specs catalog).2 := by
  induction specs generalizing catalog with
  | nil => exact .rfl
  | cons spec rest ih => exact (sameTypes_mint catalog .field).trans (ih _)

theorem owner_of_mem_declareFields {owner : String} {specs : List FieldSpec} {catalog : Catalog}
    {field : FieldDecl} (declared : field ∈ (declareFields owner specs catalog).1) :
    field.owner = owner := by
  induction specs generalizing catalog with
  | nil => cases declared
  | cons spec rest ih =>
    rcases List.mem_cons.mp declared with rfl | later
    · rfl
    · exact ih later

/-- The callable that a specification without faults comes to. -/
def declaredCallable (kind : CallableKind) (owner : String) (spec : CallableSpec)
    (handle : Handle) : CallableDecl :=
  ⟨handle, owner, kind, spec.declaredName kind,
    Modifiers.none.withKeywords .callable spec.keywords, spec.params, spec.returns,
    spec.annotations⟩

/-- The first callable is declared, unless it has a fault, and then the rest. -/
theorem declareCallables_cons (kind : CallableKind) (owner : String) (spec : CallableSpec)
    (rest : List CallableSpec) (catalog : Catalog) :
    declareCallables kind owner (spec :: rest) catalog =
      match spec.fault? kind owner with
      | some fault => (.error (.inconsistent fault), catalog)
      | none =>
        let (handle, minted) := catalog.mint kind.handleKind
        let (later, grown) := declareCallables kind owner rest minted
        (later.map (declaredCallable kind owner spec handle :: ·), grown) := by
  rw [declareCallables]
  cases spec.fault? kind owner with
  | some fault => rfl
  | none =>
    simp only [mint]
    split <;> (rename_i later; simp only [later]; rfl)

theorem sameTypes_declareCallables {kind : CallableKind} {owner : String}
    {specs : List CallableSpec} {catalog grown : Catalog}
    {outcome : Except Failure (List CallableDecl)}
    (declared : declareCallables kind owner specs catalog = (outcome, grown)) :
    SameTypes catalog grown := by
  obtain rfl : (declareCallables kind owner specs catalog).2 = grown := congrArg Prod.snd declared
  clear declared
  induction specs generalizing catalog with
  | nil => exact .rfl
  | cons spec rest ih =>
    rw [declareCallables_cons]
    split
    · exact .rfl
    · exact (sameTypes_mint catalog kind.handleKind).trans ih

theorem owner_of_mem_declareCallables {kind : CallableKind} {owner : String}
    {specs : List CallableSpec} {catalog : Catalog} {callables : List CallableDecl}
    (declared : (declareCallables kind owner specs catalog).1 = .ok callables) :
    ∀ callable ∈ callables, callable.owner = owner ∧ callable.kind = kind := by
  induction specs generalizing catalog callables with
  | nil =>
    obtain rfl : [] = callables := Except.ok.inj declared
    simp
  | cons spec rest ih =>
    rw [declareCallables_cons] at declared
    split at declared
    · cases declared
    · cases later : (declareCallables kind owner rest (catalog.mint kind.handleKind).2).1 with
      | error failure =>
        simp only [later] at declared
        cases declared
      | ok more =>
        simp only [later] at declared
        obtain rfl : _ :: more = callables := Except.ok.inj declared
        intro callable member
        rcases List.mem_cons.mp member with rfl | member
        · exact ⟨rfl, rfl⟩
        · exact ih later callable member

/-- The type that a specification comes to with the given handle and members. -/
def headedType (around : Option Place) (head : TypeHead) (nestedNames : List String)
    (handle : Handle) (fields : List FieldDecl) (constructors methods : List CallableDecl) :
    TypeDecl :=
  let place := head.place around
  { handle
    package := place.package
    name := place.name
    modifiers := head.form.modifiers.withKeywords .type head.keywords
    origin := head.origin
    base := head.base.resolved head.form
    interfaces := head.interfaces
    enclosing := around.map fun around => .ofName around.fullName
    fields
    constructors
    methods
    nested := nestedNames.map fun name => .ofName (place.inside name).fullName
    annotations := head.annotations }

/-- **What becomes of a type that is declared without those nested inside it**: it is refused at a
constructor, at a method, or for its name, or else it is entered. -/
inductive HeadOutcome (around : Option Place) (head : TypeHead) (nestedNames : List String)
    (catalog : Catalog) : Except Failure TypeDecl × Catalog → Prop
  | constructorRefused {failure : Failure} {grown : Catalog}
      (refused : declareCallables .constructor (head.place around).fullName head.constructors
        (declareFields (head.place around).fullName head.fields catalog).2 =
          (.error failure, grown)) :
      HeadOutcome around head nestedNames catalog (.error failure, grown)
  | methodRefused {constructors : List CallableDecl} {between grown : Catalog} {failure : Failure}
      (constructed : declareCallables .constructor (head.place around).fullName head.constructors
        (declareFields (head.place around).fullName head.fields catalog).2 =
          (.ok constructors, between))
      (refused : declareCallables .method (head.place around).fullName head.methods between =
        (.error failure, grown)) :
      HeadOutcome around head nestedNames catalog (.error failure, grown)
  | nameTaken {constructors methods : List CallableDecl} {between before : Catalog}
      {failure : Failure}
      (constructed : declareCallables .constructor (head.place around).fullName head.constructors
        (declareFields (head.place around).fullName head.fields catalog).2 =
          (.ok constructors, between))
      (completed : declareCallables .method (head.place around).fullName head.methods between =
        (.ok methods, before))
      (taken : (before.mint .type).2.insert? (headedType around head nestedNames
        (before.mint .type).1 (declareFields (head.place around).fullName head.fields catalog).1
        constructors methods) = .error failure) :
      HeadOutcome around head nestedNames catalog (.error failure, (before.mint .type).2)
  | entered {constructors methods : List CallableDecl} {between before grown : Catalog}
      (constructed : declareCallables .constructor (head.place around).fullName head.constructors
        (declareFields (head.place around).fullName head.fields catalog).2 =
          (.ok constructors, between))
      (completed : declareCallables .method (head.place around).fullName head.methods between =
        (.ok methods, before))
      (inserted : (before.mint .type).2.insert? (headedType around head nestedNames
        (before.mint .type).1 (declareFields (head.place around).fullName head.fields catalog).1
        constructors methods) = .ok grown) :
      HeadOutcome around head nestedNames catalog (.ok (headedType around head nestedNames
        (before.mint .type).1 (declareFields (head.place around).fullName head.fields catalog).1
        constructors methods), grown)

/-- Declaring a type without those nested inside it comes to one of these outcomes. -/
theorem headOutcome_declareHead (around : Option Place) (head : TypeHead)
    (nestedNames : List String) (catalog : Catalog) :
    HeadOutcome around head nestedNames catalog (declareHead around head nestedNames catalog) := by
  unfold declareHead
  dsimp only
  split
  · rename_i refused
    exact .constructorRefused refused
  · rename_i constructed
    split
    · rename_i refused
      exact .methodRefused constructed refused
    · rename_i completed
      split
      · rename_i taken
        exact .nameTaken constructed completed taken
      · rename_i inserted
        exact .entered constructed completed inserted

/-- **Declaring a type without those nested inside it keeps a catalog faithful.** -/
theorem Faithful.declareHead {catalog : Catalog} (faithful : catalog.Faithful)
    (around : Option Place) (head : TypeHead) (nestedNames : List String) :
    (Catalog.declareHead around head nestedNames catalog).2.Faithful := by
  have outcome := headOutcome_declareHead around head nestedNames catalog
  have withFields := faithful.of_sameTypes
    (sameTypes_declareFields (head.place around).fullName head.fields catalog)
  generalize Catalog.declareHead around head nestedNames catalog = result at outcome ⊢
  cases outcome with
  | constructorRefused refused => exact withFields.of_sameTypes (sameTypes_declareCallables refused)
  | methodRefused constructed refused =>
    have withConstructors := withFields.of_sameTypes (sameTypes_declareCallables constructed)
    exact withConstructors.of_sameTypes (sameTypes_declareCallables refused)
  | @nameTaken _ _ _ before _ constructed completed taken =>
    have withConstructors := withFields.of_sameTypes (sameTypes_declareCallables constructed)
    have withMethods := withConstructors.of_sameTypes (sameTypes_declareCallables completed)
    exact withMethods.of_sameTypes (sameTypes_mint before .type)
  | @entered _ _ _ before _ constructed completed inserted =>
    have withConstructors := withFields.of_sameTypes (sameTypes_declareCallables constructed)
    have withMethods := withConstructors.of_sameTypes (sameTypes_declareCallables completed)
    have minted := withMethods.of_sameTypes (sameTypes_mint before .type)
    have ownConstructors := owner_of_mem_declareCallables (congrArg Prod.fst constructed)
    have ownMethods := owner_of_mem_declareCallables (congrArg Prod.fst completed)
    exact minted.insert? ⟨fun _ => owner_of_mem_declareFields, ownConstructors, ownMethods⟩ inserted

mutual

/-- What every declaration of a type without its nested ones keeps, every declaration keeps. -/
theorem declareAt_keeps {kept : Catalog → Prop}
    (step : ∀ around head names catalog, kept catalog →
      kept (declareHead around head names catalog).2)
    (around : Option Place) : ∀ (spec : TypeSpec) (catalog : Catalog), kept catalog →
      kept (declareAt around spec catalog).2
  | .mk head nested, catalog, before => by
    have afterHead := step around head (nested.map (·.head.name)) catalog before
    rw [declareAt]
    split
    · rename_i failed
      rw [failed] at afterHead
      exact afterHead
    · rename_i grown declared
      rw [declared] at afterHead
      have afterNested := declareNested_keeps step (head.place around) nested grown afterHead
      split
      · rename_i failed
        rw [failed] at afterNested
        exact afterNested
      · rename_i done
        rw [done] at afterNested
        exact afterNested

theorem declareNested_keeps {kept : Catalog → Prop}
    (step : ∀ around head names catalog, kept catalog →
      kept (declareHead around head names catalog).2)
    (around : Place) : ∀ (specs : List TypeSpec) (catalog : Catalog), kept catalog →
      kept (declareNested around specs catalog).2
  | [], catalog, before => before
  | spec :: rest, catalog, before => by
    have afterFirst := declareAt_keeps step (some around) spec catalog before
    rw [declareNested]
    split
    · rename_i failed
      rw [failed] at afterFirst
      exact afterFirst
    · rename_i grown declared
      rw [declared] at afterFirst
      exact declareNested_keeps step around rest grown afterFirst

end

/-- **Every grown catalog is faithful.** -/
theorem Grown.faithful {catalog : Catalog} (grown : catalog.Grown) : catalog.Faithful := by
  induction grown with
  | empty => exact ⟨.nil, nofun, nofun⟩
  | minted kind _ ih => exact ih.of_sameTypes (sameTypes_mint _ kind)
  | declared spec _ ih =>
    exact declareAt_keeps (fun around head names _ before => before.declareHead around head names)
      none spec _ ih

end Catalog

end ValueAnatomy
