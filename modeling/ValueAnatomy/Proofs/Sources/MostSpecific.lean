/-
**The members gathered along an ancestry are the most specific ones.**

Fields are claimed by their names and methods by their signatures, on the way from a type to the
types above it. Every type stands before its own supertypes, so that the first claim comes from a
type that no other one of the program lies below.

* `MostSpecific`: what it means that members are taken by key from types in an order;
* `Provider.value_sift`, `Provider.result_membersAlong`: the fields and accessors in closed form;
* `Provider.belowIn_of_inherits`: below in an ancestry is whatever inherits;
* `Provider.mem_front_of_belowIn`: whatever is below a type stands in front of it;
* `Provider.membersAlong_mostSpecific`: the fields and accessors of a type are the most specific
  ones of its ancestry.

A claim holds whether or not the method turns out to read a property: a method that reads none hides
the accessors above it.
-/

import ValueAnatomy.Proofs.Ancestry.Topological
import ValueAnatomy.Sources

namespace ValueAnatomy

variable {α β κ : Type} [DecidableEq κ]

/-! ### Members with the types that declare them -/

section Declared

variable {members : TypeDecl → List α} {key : α → String}

/-- The members of types, each with the type that declares it. -/
def declaredOn (members : TypeDecl → List α) (types : List TypeDecl) : List (TypeDecl × α) :=
  types.flatMap fun type => (members type).map (type, ·)

theorem mem_declaredOn {types : List TypeDecl} {entry : TypeDecl × α} :
    entry ∈ declaredOn members types ↔ entry.1 ∈ types ∧ entry.2 ∈ members entry.1 := by
  obtain ⟨type, item⟩ := entry
  simp [declaredOn, and_left_comm]

theorem declaredOn_congr {others : TypeDecl → List α} {types : List TypeDecl}
    (same : ∀ type ∈ types, members type = others type) :
    declaredOn members types = declaredOn others types := by
  rw [declaredOn, declaredOn, List.flatMap_def, List.flatMap_def]
  refine congrArg List.flatten (List.map_congr_left fun type member => ?_)
  rw [same type member]

/-- A place among the members of types is a place among the types and one among the members of
the type that stands there. -/
theorem exists_split_of_declaredOn {types : List TypeDecl} {before after : List (TypeDecl × α)}
    {type : TypeDecl} {item : α}
    (split : declaredOn members types = before ++ (type, item) :: after) :
    ∃ lower upper earlier later, types = lower ++ type :: upper ∧
      members type = earlier ++ item :: later ∧
      before = declaredOn members lower ++ earlier.map (type, ·) := by
  induction types generalizing before with
  | nil => simp [declaredOn] at split
  | cons head rest ih =>
    have cons : declaredOn members (head :: rest) =
      (members head).map (head, ·) ++ declaredOn members rest := List.flatMap_cons
    rw [cons] at split
    rcases List.append_eq_append_iff.mp split with ⟨more, rfl, behind⟩ | ⟨more, here, behind⟩
    · obtain ⟨lower, upper, earlier, later, rfl, among, rfl⟩ := ih behind
      refine ⟨head :: lower, upper, earlier, later, rfl, among, ?_⟩
      rw [declaredOn, declaredOn, List.flatMap_cons, List.append_assoc]
    · cases more with
      | nil =>
        obtain ⟨lower, upper, earlier, later, rfl, among, nothing⟩ :=
          @ih [] (by simpa using behind.symm)
        obtain ⟨noneLower, noneEarlier⟩ := List.append_eq_nil_iff.mp nothing.symm
        refine ⟨head :: lower, upper, earlier, later, rfl, among, ?_⟩
        rw [declaredOn, List.flatMap_cons, ← declaredOn, noneLower, noneEarlier]
        simpa using here.symm
      | cons first more =>
        obtain ⟨rfl, -⟩ := List.cons.inj behind
        obtain ⟨earlier, onward, declared, rfl, last⟩ := List.map_eq_append_iff.mp here
        obtain ⟨found, later, rfl, same, -⟩ := List.map_eq_cons_iff.mp last
        obtain ⟨rfl, rfl⟩ := Prod.mk.inj same
        exact ⟨[], rest, earlier, later, rfl, declared, by simp [declaredOn]⟩

/-- The members that are the first of their keys, type by type. -/
def claimed (key : α → String) (members : TypeDecl → List α) (types : List TypeDecl) :
    List (TypeDecl × α) :=
  firstOfEach (fun entry => key entry.2) (declaredOn members types)

/-- A member is the first of its key if none of that key is declared on an earlier type, or earlier
on its own. -/
theorem mem_claimed_iff {types : List TypeDecl} {type : TypeDecl} {item : α} :
    (type, item) ∈ claimed key members types ↔
      ∃ lower upper earlier later, types = lower ++ type :: upper ∧
        members type = earlier ++ item :: later ∧
        (∀ below ∈ lower, ∀ other ∈ members below, key other ≠ key item) ∧
        ∀ other ∈ earlier, key other ≠ key item := by
  rw [claimed, mem_firstOfEach_iff]
  constructor
  · rintro ⟨before, after, split, fresh⟩
    obtain ⟨lower, upper, earlier, later, types, among, rfl⟩ := exists_split_of_declaredOn split
    refine ⟨lower, upper, earlier, later, types, among, fun below there other declared => ?_,
      fun other declared => ?_⟩
    · exact fresh (below, other)
        (List.mem_append_left _ (mem_declaredOn.mpr ⟨there, declared⟩))
    · exact fresh (type, other) (List.mem_append_right _ (List.mem_map_of_mem declared))
  · rintro ⟨lower, upper, earlier, later, rfl, among, freshBelow, freshHere⟩
    refine ⟨declaredOn members lower ++ earlier.map (type, ·),
      later.map (type, ·) ++ declaredOn members upper, ?_, fun entry place => ?_⟩
    · simp [declaredOn, among]
    · rcases List.mem_append.mp place with there | here
      · obtain ⟨below, declared⟩ := mem_declaredOn.mp there
        exact freshBelow entry.1 below entry.2 declared
      · obtain ⟨other, declared, rfl⟩ := List.mem_map.mp here
        exact freshHere other declared

theorem claimed_congr {others : TypeDecl → List α} {types : List TypeDecl}
    (same : ∀ type ∈ types, members type = others type) :
    claimed key members types = claimed key others types :=
  congrArg (firstOfEach _) (declaredOn_congr same)

theorem nodup_claimed (key : α → String) (members : TypeDecl → List α) (types : List TypeDecl) :
    ((claimed key members types).map fun entry => key entry.2).Nodup :=
  firstOfEach_nodup _ _

/-- **The members taken are the most specific ones.** They are eligible members of the types, no
two of one key, and none of that key is declared on a type below; and every eligible member is taken
unless one of its key stands on an earlier type, or earlier on its own. -/
structure MostSpecific (below : TypeDecl → TypeDecl → Prop) (types : List TypeDecl)
    (members : TypeDecl → List α) (key : α → String) (eligible : TypeDecl → α → Prop)
    (taken : List α) : Prop where
  distinct : (taken.map key).Nodup
  sound : ∀ item ∈ taken, ∃ type ∈ types, item ∈ members type ∧ eligible type item ∧
    ∀ lower ∈ types, below lower type → ∀ other ∈ members lower, key other ≠ key item
  complete : ∀ lower type upper, types = lower ++ type :: upper →
    ∀ earlier item later, members type = earlier ++ item :: later → eligible type item →
      (∀ under ∈ lower, ∀ other ∈ members under, key other ≠ key item) →
      (∀ other ∈ earlier, key other ≠ key item) → item ∈ taken

/-- The eligible ones among the members that are the first of their keys are the most specific, if
every type stands behind those below it. -/
theorem mostSpecific_claimed {below : TypeDecl → TypeDecl → Prop} {types : List TypeDecl}
    {eligible : TypeDecl → α → Prop} {kept : TypeDecl × α → Bool}
    (decides : ∀ entry, kept entry = true ↔ eligible entry.1 entry.2)
    (ordered : ∀ lower type upper, types = lower ++ type :: upper → ∀ under ∈ types,
      below under type → under ∈ lower) :
    MostSpecific below types members key eligible
      (((claimed key members types).filter kept).map (·.2)) where
  distinct := by
    rw [List.map_map]
    exact (nodup_claimed key members types).sublist (List.filter_sublist.map _)
  sound item member := by
    obtain ⟨⟨type, item⟩, there, rfl⟩ := List.mem_map.mp member
    obtain ⟨first, holds⟩ := List.mem_filter.mp there
    obtain ⟨lower, upper, earlier, later, split, among, fresh, -⟩ := mem_claimed_iff.mp first
    refine ⟨type, ?_, ?_, (decides _).mp holds, fun under there step => fresh under ?_⟩
    · rw [split]
      simp
    · rw [among]
      simp
    · exact ordered lower type upper split under there step
  complete lower type upper split earlier item later among holds freshBelow freshHere := by
    refine List.mem_map.mpr ⟨(type, item), List.mem_filter.mpr ⟨?_, (decides _).mpr holds⟩, rfl⟩
    exact mem_claimed_iff.mpr
      ⟨lower, upper, earlier, later, split, among, freshBelow, freshHere⟩

end Declared

/-! ### The sift in closed form -/

/-- The items of keys that are not claimed, of each key the first. -/
def unclaimed (key : α → κ) (claimed : List κ) (items : List α) : List α :=
  firstOfEach key (items.filter fun item => key item ∉ claimed)

theorem unclaimed_cons_of_mem (key : α → κ) {claimed : List κ} {item : α}
    (known : key item ∈ claimed) (rest : List α) :
    unclaimed key claimed (item :: rest) = unclaimed key claimed rest := by
  rw [unclaimed, List.filter_cons_of_neg (by simp [known]), unclaimed]

/-- An item of a fresh key is kept and claims its key. -/
theorem unclaimed_cons_of_notMem (key : α → κ) {claimed : List κ} {item : α}
    (fresh : key item ∉ claimed) (rest : List α) :
    unclaimed key claimed (item :: rest) = item :: unclaimed key (key item :: claimed) rest := by
  rw [unclaimed, List.filter_cons_of_pos (by simp [fresh]), firstOfEach,
    filter_firstOfEach key (· != key item), List.filter_filter, unclaimed]
  congr 3
  funext other
  rw [Bool.eq_iff_iff]
  simp

theorem unclaimed_of_nothing (key : α → κ) (items : List α) :
    unclaimed key [] items = firstOfEach key items :=
  congrArg _ (List.filter_eq_self.mpr fun _ _ => by simp)

namespace Offer

/-- The signature of an offered method. -/
def signature (entry : TypeDecl × CallableDecl) : String := entry.2.overrideKey

/-- The instance field that is offered, unless the platform has its name. -/
def openField? (pool : PlatformPool) : Offer → Option FieldDecl
  | field decl =>
    Option.guard (fun field => !field.isStatic && field.name ∉ pool.fieldNames) decl
  | method _ _ => none

/-- The instance method that is offered, with the type that offers it, unless the platform has its
signature. -/
def openMethod? (pool : PlatformPool) : Offer → Option (TypeDecl × CallableDecl)
  | field _ => none
  | method owner decl =>
    (Option.guard (fun method => !method.isStatic && method.overrideKey ∉ pool.overrideKeys)
      decl).map (owner, ·)

end Offer

namespace Provider

open Offer

variable (provider : Provider) (settings : Settings)

/-- Whether a method reads a property of the type that offers it. -/
def isOfferedAccessor (entry : TypeDecl × CallableDecl) : Bool :=
  provider.isAccessor settings entry.1 entry.2

/-- **A sift keeps the first open field of each name, and of the first open methods of each
signature the accessors.** -/
theorem value_sift (pool : PlatformPool) (claimedFields claimedMethods : List String)
    (offers : List Offer) :
    (provider.sift settings pool claimedFields claimedMethods offers).value =
      (unclaimed FieldDecl.name claimedFields (offers.filterMap (Offer.openField? pool)),
        ((unclaimed signature claimedMethods
          (offers.filterMap (Offer.openMethod? pool))).filter
            (provider.isOfferedAccessor settings)).map (·.2)) := by
  induction offers generalizing claimedFields claimedMethods with
  | nil => rfl
  | cons offer rest ih =>
    cases offer with
    | field decl =>
      have others : (Offer.field decl :: rest).filterMap (Offer.openMethod? pool) =
        rest.filterMap (Offer.openMethod? pool) := rfl
      rw [sift, others]
      split
      · rename_i static
        rw [ih, List.filterMap_cons_none (by simp [openField?, Option.guard, static])]
      · rename_i onInstance
        split
        · rename_i reserved
          rw [Traced.value_bind, ih,
            List.filterMap_cons_none (by simp [openField?, Option.guard, reserved])]
        · rename_i free
          have offered : Offer.openField? pool (.field decl) = some decl := by
            simp [openField?, Option.guard, onInstance, free]
          rw [List.filterMap_cons_some offered]
          split
          · rename_i known
            rw [Traced.value_bind, ih, unclaimed_cons_of_mem _ known]
          · rename_i fresh
            rw [Traced.value_bind, ih, unclaimed_cons_of_notMem _ fresh]
            rfl
    | method owner decl =>
      have others : (Offer.method owner decl :: rest).filterMap (Offer.openField? pool) =
        rest.filterMap (Offer.openField? pool) := rfl
      rw [sift, others]
      split
      · rename_i static
        rw [ih, List.filterMap_cons_none (by simp [openMethod?, Option.guard, static])]
      · rename_i onInstance
        split
        · rename_i reserved
          rw [Traced.value_bind, ih,
            List.filterMap_cons_none (by simp [openMethod?, Option.guard, reserved])]
        · rename_i free
          have offered : Offer.openMethod? pool (.method owner decl) = some (owner, decl) := by
            simp [openMethod?, Option.guard, onInstance, free]
          rw [List.filterMap_cons_some offered]
          split
          · rename_i known
            rw [Traced.value_bind, ih, unclaimed_cons_of_mem signature known]
          · rename_i fresh
            rw [unclaimed_cons_of_notMem signature fresh]
            split
            · rename_i accessor
              have reads : provider.isOfferedAccessor settings (owner, decl) = true := accessor
              rw [Traced.value_bind, ih, List.filter_cons_of_pos reads]
              rfl
            · rename_i other
              have passed : ¬ provider.isOfferedAccessor settings (owner, decl) = true := other
              rw [Traced.value_bind, ih, List.filter_cons_of_neg passed]
              rfl

/-! ### Instance members -/

/-- The instance fields of a type. -/
def instanceFields (type : TypeDecl) : List FieldDecl :=
  (provider.members type).fields.filter fun field => !field.isStatic

/-- The instance methods of a type. -/
def instanceMethods (type : TypeDecl) : List CallableDecl :=
  (provider.members type).methods.filter fun method => !method.isStatic

/-- No type of the platform among the given ones has a field of this name. -/
def FieldUnreserved (order : List TypeDecl) (field : FieldDecl) : Prop :=
  ∀ above ∈ order, settings.isPlatform above = true →
    ∀ other ∈ (provider.members above).fields, other.name ≠ field.name

/-- **A method of a type reads a property**, and no type of the platform among the given ones has a
method of its signature. -/
structure EligibleAccessor (order : List TypeDecl) (type : TypeDecl) (method : CallableDecl) :
    Prop where
  notPrivate : method.isPrivate = false
  notVoid : method.returns.isVoid = false
  noParams : method.params = []
  notSynthetic : method.isSynthetic = false
  notExcluded : method.name ∉ settings.excludedAccessors
  notPositional : provider.isPositionalAccessor type method = false
  unreserved : ∀ above ∈ order, settings.isPlatform above = true →
    ∀ other ∈ (provider.members above).methods, other.overrideKey ≠ method.overrideKey

variable {provider settings}

theorem fieldUnreserved_iff {order : List TypeDecl} {field : FieldDecl} :
    provider.FieldUnreserved settings order field ↔
      field.name ∉ (provider.platformPool settings order).fieldNames := by
  simp [FieldUnreserved, platformPool]

theorem eligibleAccessor_iff {order : List TypeDecl} {type : TypeDecl} {method : CallableDecl} :
    provider.EligibleAccessor settings order type method ↔
      method.overrideKey ∉ (provider.platformPool settings order).overrideKeys ∧
        provider.isAccessor settings type method = true := by
  constructor
  · rintro ⟨notPrivate, notVoid, noParams, notSynthetic, notExcluded, notPositional, unreserved⟩
    refine ⟨?_, ?_⟩
    · simpa [platformPool] using unreserved
    · simp [isAccessor, notPrivate, notVoid, CallableDecl.hasNoParams, noParams, notSynthetic,
        Settings.isExcludedAccessor, notExcluded, notPositional]
  · rintro ⟨unreserved, reads⟩
    simp only [isAccessor, Bool.and_eq_true, Bool.not_eq_true', CallableDecl.hasNoParams,
      Settings.isExcludedAccessor, List.isEmpty_iff, List.contains_eq_mem,
      decide_eq_false_iff_not] at reads
    obtain ⟨⟨⟨⟨⟨notPrivate, notVoid⟩, noParams⟩, notSynthetic⟩, notExcluded⟩, notPositional⟩ :=
      reads
    exact ⟨notPrivate, notVoid, noParams, notSynthetic, notExcluded, notPositional,
      by simpa [platformPool] using unreserved⟩

theorem filterMap_openField? (pool : PlatformPool) (order : List TypeDecl) :
    (provider.offers settings order).filterMap (openField? pool) =
      ((declaredOn provider.instanceFields (ownTypes settings order)).map (·.2)).filter fun field =>
        field.name ∉ pool.fieldNames := by
  unfold offers declaredOn
  induction ownTypes settings order with
  | nil => rfl
  | cons type rest ih =>
    have fields : ((provider.members type).fields.map Offer.field).filterMap (openField? pool) =
        (provider.instanceFields type).filter fun field => field.name ∉ pool.fieldNames := by
      rw [List.filterMap_map, instanceFields, List.filter_filter, ← List.filterMap_eq_filter]
      simp only [Function.comp_def, openField?, Bool.and_comm]
    have methods : ((provider.members type).methods.map (Offer.method type)).filterMap
        (openField? pool) = [] := by
      simp [openField?]
    dsimp only at ih ⊢
    rw [List.flatMap_cons, List.flatMap_cons, List.filterMap_append, ih, List.filterMap_append,
      fields, methods, List.append_nil, List.map_append, List.filter_append, List.map_map]
    simp only [Function.comp_def, List.map_id']

theorem filterMap_openMethod? (pool : PlatformPool) (order : List TypeDecl) :
    (provider.offers settings order).filterMap (openMethod? pool) =
      (declaredOn provider.instanceMethods (ownTypes settings order)).filter fun entry =>
        signature entry ∉ pool.overrideKeys := by
  unfold offers declaredOn
  induction ownTypes settings order with
  | nil => rfl
  | cons type rest ih =>
    have fields : ((provider.members type).fields.map Offer.field).filterMap
        (openMethod? pool) = [] := by
      simp [openMethod?]
    have methods : ((provider.members type).methods.map (Offer.method type)).filterMap
        (openMethod? pool) =
          ((provider.instanceMethods type).map (type, ·)).filter fun entry =>
            signature entry ∉ pool.overrideKeys := by
      rw [List.filterMap_map, List.filter_map, instanceMethods, List.filter_filter,
        ← List.filterMap_eq_filter, List.map_filterMap]
      simp only [Function.comp_def, openMethod?, signature, Bool.and_comm]
      rfl
    dsimp only at ih ⊢
    rw [List.flatMap_cons, List.flatMap_cons, List.filterMap_append, ih, List.filterMap_append,
      fields, methods, List.nil_append, List.filter_append]

/-- The first fields and methods of each name and signature along an ancestry, as far as the
platform leaves them open and the methods read properties. -/
def gathered (provider : Provider) (settings : Settings) (order : List TypeDecl) :
    List FieldDecl × List CallableDecl :=
  let pool := provider.platformPool settings order
  (((claimed FieldDecl.name provider.instanceFields (ownTypes settings order)).filter fun entry =>
      entry.2.name ∉ pool.fieldNames).map (·.2),
    ((claimed CallableDecl.overrideKey provider.instanceMethods
      (ownTypes settings order)).filter fun entry =>
        entry.2.overrideKey ∉ pool.overrideKeys &&
          provider.isAccessor settings entry.1 entry.2).map (·.2))

/-- **What is gathered along an ancestry are the first open fields and accessors.** -/
theorem result_membersAlong (provider : Provider) (settings : Settings) (root : TypeDecl) :
    (provider.membersAlong settings root).result =
      (provider.ancestry root).result.map (provider.gathered settings) := by
  refine Attempt.result_bind_eq_map fun order => ?_
  have fields : (firstOfEach FieldDecl.name
      ((declaredOn provider.instanceFields (ownTypes settings order)).map (·.2))) =
        (claimed FieldDecl.name provider.instanceFields (ownTypes settings order)).map (·.2) :=
    (map_firstOfEach FieldDecl.name _ _).symm
  rw [Attempt.result_ofTraced, value_sift,
    unclaimed_of_nothing, unclaimed_of_nothing, filterMap_openField?, filterMap_openMethod?,
    ← filter_firstOfEach FieldDecl.name (· ∉ (provider.platformPool settings order).fieldNames),
    ← filter_firstOfEach signature (· ∉ (provider.platformPool settings order).overrideKeys),
    fields, List.filter_map, List.filter_filter]
  simp only [gathered, Function.comp_def, isOfferedAccessor, signature, Bool.and_comm]
  rfl

/-! ### Below in an ancestry -/

/-- The first type is below the second in an ancestry: types of the ancestry, each an immediate
supertype of the one before, lead from it to the second. -/
abbrev BelowIn (provider : Provider) (order : List TypeDecl) : TypeDecl → TypeDecl → Prop :=
  Relation.TransGen fun below above =>
    below ∈ order ∧ above ∈ order ∧ above.handle ∈ handlesOf (provider.supertypes below)

/-- Where supertypes depend on the handle alone, a type that inherits from another is below it. -/
theorem belowIn_of_inherits {root : TypeDecl} (byHandle : provider.SupertypesByHandle root)
    {order : List TypeDecl} (walked : (provider.ancestry root).result = .ok order)
    {below above : TypeDecl} (listed : below ∈ order) (inherits : provider.Inherits below above) :
    ∀ type ∈ order, type.handle = above.handle → provider.BelowIn order below type := by
  have start : provider.Reaches root below := reaches_of_mem_ancestry walked listed
  induction inherits with
  | single step =>
    intro type there same
    exact .single ⟨listed, there, mem_handlesOf.mpr ⟨_, step, same.symm⟩⟩
  | @tail middle above way step ih =>
    intro type there same
    have reached : provider.Reaches root middle := start.trans way.to_reflTransGen
    obtain ⟨between, among, alike⟩ :=
      mem_handlesOf.mp (mem_ancestry_of_reaches byHandle walked reached)
    have aboveBetween : above ∈ provider.supertypes between := by
      rw [byHandle between middle (reaches_of_mem_ancestry walked among) reached alike]
      exact step
    exact (ih between among alike).tail
      ⟨among, there, mem_handlesOf.mpr ⟨above, aboveBetween, same.symm⟩⟩

/-- In a grounded list the immediate supertypes of a type stand behind it. -/
theorem mem_front_of_step {front back : List TypeDecl} {below above : TypeDecl}
    (grounded : Grounded provider (front ++ above :: back))
    (nodup : (handlesOf (front ++ above :: back)).Nodup)
    (listed : below ∈ front ++ above :: back)
    (step : above.handle ∈ handlesOf (provider.supertypes below)) : below ∈ front := by
  rcases List.mem_append.mp listed with ahead | behind
  · exact ahead
  · -- Otherwise the supertype stands behind the type, and so at two places.
    exfalso
    obtain ⟨middle, rest, split⟩ := List.append_of_mem behind
    obtain ⟨upper, upperAbove, same⟩ := mem_handlesOf.mp step
    rw [split] at grounded
    have later : above.handle ∈ handlesOf rest := same ▸ grounded.tail.tail.1 upper upperAbove
    have once : (handlesOf (above :: back)).Nodup := by
      rw [handlesOf_append, List.nodup_append] at nodup
      exact nodup.2.1
    cases middle with
    | nil =>
      obtain ⟨rfl, rfl⟩ := List.cons.inj split
      exact (List.nodup_cons.mp once).1 later
    | cons first middle =>
      rw [List.cons_append] at split
      have behindBelow : above.handle ∈ handlesOf back := by
        rw [(List.cons.inj split).2, handlesOf_append, handlesOf_cons]
        exact List.mem_append_right _ (List.mem_cons_of_mem _ later)
      exact (List.nodup_cons.mp once).1 behindBelow

/-- **In a grounded list whatever is below a type stands in front of it.** -/
theorem mem_front_of_belowIn {order front back : List TypeDecl} {below above : TypeDecl}
    (grounded : Grounded provider order) (nodup : (handlesOf order).Nodup)
    (split : order = front ++ above :: back) (under : provider.BelowIn order below above) :
    below ∈ front := by
  induction under using Relation.TransGen.head_induction_on with
  | single step =>
    subst split
    exact mem_front_of_step grounded nodup step.1 step.2.2
  | @head lower between step way ih =>
    obtain ⟨ahead, behind, rfl⟩ := List.append_of_mem ih
    rw [List.append_assoc, List.cons_append] at split
    subst split
    exact List.mem_append_left _ (mem_front_of_step grounded nodup step.1 step.2.2)

/-- Among the types that are not of the platform too. -/
theorem mem_lower_of_belowIn {order lower upper : List TypeDecl} {below above : TypeDecl}
    (grounded : Grounded provider order) (nodup : (handlesOf order).Nodup)
    (split : ownTypes settings order = lower ++ above :: upper)
    (own : below ∈ ownTypes settings order) (under : provider.BelowIn order below above) :
    below ∈ lower := by
  obtain ⟨front, back, rfl, rfl, rest⟩ := List.filter_eq_append_iff.mp split
  obtain ⟨middle, behind, rfl, skipped, -, -⟩ := List.filter_eq_cons_iff.mp rest
  have ahead : below ∈ front ++ middle :=
    mem_front_of_belowIn grounded nodup (List.append_assoc _ _ _).symm under
  obtain ⟨-, ofProgram⟩ := List.mem_filter.mp own
  rcases List.mem_append.mp ahead with inFront | inMiddle
  · exact List.mem_filter.mpr ⟨inFront, ofProgram⟩
  · exact absurd ofProgram (skipped below inMiddle)

/-- **The fields and accessors of a type are the most specific ones of its ancestry.** -/
theorem membersAlong_mostSpecific {root : TypeDecl} {order : List TypeDecl}
    (walked : (provider.ancestry root).result = .ok order) (acyclic : provider.AcyclicFrom root) :
    ∃ fields getters, (provider.membersAlong settings root).result = .ok (fields, getters) ∧
      MostSpecific (provider.BelowIn order) (ownTypes settings order) provider.instanceFields
        FieldDecl.name (fun _ => provider.FieldUnreserved settings order) fields ∧
      MostSpecific (provider.BelowIn order) (ownTypes settings order) provider.instanceMethods
        CallableDecl.overrideKey (provider.EligibleAccessor settings order) getters := by
  have ordered : ∀ lower type upper, ownTypes settings order = lower ++ type :: upper →
      ∀ under ∈ ownTypes settings order, provider.BelowIn order under type → under ∈ lower :=
    fun _ _ _ split _ own below => mem_lower_of_belowIn (grounded_ancestry acyclic walked)
      (nodup_ancestry walked) split own below
  have taken : (provider.membersAlong settings root).result =
      .ok (provider.gathered settings order) := by
    rw [result_membersAlong, walked]
    rfl
  refine ⟨_, _, taken, ?_, ?_⟩
  · refine mostSpecific_claimed (fun entry => ?_) ordered
    rw [fieldUnreserved_iff, decide_eq_true_iff]
  · refine mostSpecific_claimed (fun entry => ?_) ordered
    rw [eligibleAccessor_iff, Bool.and_eq_true, decide_eq_true_iff]

/-- A class under an interface that is refined, and under one of the platform. -/
def people : Catalog :=
  [TypeSpec.mk
      { form := .interface
        package := "java.lang"
        name := "Sized"
        origin := .platform
        methods := [{ name := "getSize", returns := .int }] }
      [],
    .mk
      { form := .interface
        name := "Named"
        methods := [{ name := "getName", returns := .ofName stringName }] }
      [],
    .mk
      { form := .interface
        name := "Titled"
        interfaces := [.ofName "Named"]
        methods := [{ name := "getName", returns := .ofName stringName }] }
      [],
    .mk
      { name := "Base"
        base := .absent
        interfaces := [.ofName "Named"]
        fields := [{ name := "name", type := .ofName stringName }] }
      [],
    .mk
      { name := "Person"
        base := .is (.ofName "Base")
        interfaces := [.ofName "Titled", .ofName "java.lang.Sized"]
        fields := [{ name := "name", type := .ofName stringName }]
        methods := [{ name := "getSize", returns := .int }] }
      []].foldl (fun catalog spec => (catalog.declare spec).2) .empty

/-- The person reads its name through the refined interface, and its own field hides the inherited
one; its size is a matter of the platform. -/
theorem membersAlong_mostSpecific_people :
    ∃ root order fields getters, people.findByName? "Person" = some root ∧
      (people.provider.ancestry root).result = .ok order ∧
      people.provider.AcyclicFrom root ∧
      (people.provider.membersAlong {} root).result = .ok (fields, getters) ∧
      fields.map (·.owner) = ["Person"] ∧ getters.map (·.key.text) = ["Titled.getName()"] ∧
      MostSpecific (people.provider.BelowIn order) (ownTypes {} order)
        people.provider.instanceFields FieldDecl.name
        (fun _ => people.provider.FieldUnreserved {} order) fields ∧
      MostSpecific (people.provider.BelowIn order) (ownTypes {} order)
        people.provider.instanceMethods CallableDecl.overrideKey
        (people.provider.EligibleAccessor {} order) getters := by
  obtain ⟨root, found⟩ : ∃ root, people.findByName? "Person" = some root :=
    Option.isSome_iff_exists.mp (by decide)
  have acyclic : people.provider.AcyclicFrom root :=
    Catalog.acyclicFrom_of_descending (Catalog.mem_types_of_findByName? found) (by decide)
  have within : ∀ root ∈ people.findByName? "Person",
      (people.provider.ancestry root).result.isOk = true := by decide
  have shown : ∀ root ∈ people.findByName? "Person",
      (people.provider.membersAlong {} root).result.toOption.map (fun members =>
        (members.1.map (·.owner), members.2.map (·.key.text))) =
          some (["Person"], ["Titled.getName()"]) := by decide
  cases walked : (people.provider.ancestry root).result with
  | error failure =>
    have ended := within root found
    rw [walked] at ended
    cases ended
  | ok order =>
    obtain ⟨fields, getters, gathered, specificFields, specificGetters⟩ :=
      @membersAlong_mostSpecific _ {} _ _ walked acyclic
    have texts := shown root found
    rw [gathered] at texts
    obtain ⟨owners, keys⟩ := Prod.mk.inj (Option.some.inj texts)
    exact ⟨root, order, fields, getters, found, walked, acyclic, gathered, owners, keys,
      specificFields, specificGetters⟩

end Provider
end ValueAnatomy
