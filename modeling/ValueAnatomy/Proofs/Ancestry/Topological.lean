/-
**The ancestry of a type is a topological order of what is above it.**

The walk is the reverse of a postorder, with one set of entered types for all branches. Where the
supertypes of a type depend on its handle alone,

* `Provider.ancestry_topological`: the ancestry begins with the type itself and holds every type
  reached from it once and no other; without cycles every type stands before all of its
  supertypes, and an immediate supertype of the root that no later declared one leads to stands
  before all later declared ones.

The order holds since a type is finished only behind everything above it: while a type is walked,
the types that are entered and not finished are those on the way to it (`Underway`), and none of
these is above it.
-/

import ValueAnatomy.Proofs.Catalog.Answers

namespace ValueAnatomy

/-- The first type stands before the second, each found by its handle. -/
def StandsBefore (order : List TypeDecl) (first second : TypeDecl) : Prop :=
  [first.handle, second.handle].Sublist (handlesOf order)

theorem standsBefore_of_split {front back : List TypeDecl} {first second : TypeDecl}
    (behind : second.handle ∈ handlesOf back) :
    StandsBefore (front ++ first :: back) first second := by
  rw [StandsBefore, handlesOf_append, handlesOf_cons]
  refine List.Sublist.trans ?_ (List.sublist_append_right _ _)
  exact (List.singleton_sublist.mpr behind).cons_cons _

theorem StandsBefore.append_left {order : List TypeDecl} {first second : TypeDecl}
    (before : StandsBefore order first second) (front : List TypeDecl) :
    StandsBefore (front ++ order) first second := by
  rw [StandsBefore, handlesOf_append]
  exact List.Sublist.trans before (List.sublist_append_right _ _)

/-! ### Grounded lists -/

/-- Every type of the list has all of its immediate supertypes behind it. -/
def Grounded (provider : Provider) : List TypeDecl → Prop
  | [] => True
  | type :: rest =>
    (∀ above, provider.Extends type above → above.handle ∈ handlesOf rest) ∧
      Grounded provider rest

variable {provider : Provider} {root : TypeDecl}

/-- What stands behind in a grounded list is grounded. -/
theorem Grounded.tail {front back : List TypeDecl} (grounded : Grounded provider (front ++ back)) :
    Grounded provider back := by
  induction front with
  | nil => exact grounded
  | cons _ _ ih => exact ih grounded.2

/-- **In a grounded list all supertypes stand behind**, the ones that are not immediate too. -/
theorem Grounded.mem_of_inherits (byHandle : provider.SupertypesByHandle root)
    {below above : TypeDecl} {back : List TypeDecl} (grounded : Grounded provider (below :: back))
    (reached : ∀ type ∈ below :: back, provider.Reaches root type)
    (inherits : provider.Inherits below above) : above.handle ∈ handlesOf back := by
  have start : provider.Reaches root below := reached below List.mem_cons_self
  induction inherits with
  | single step => exact grounded.1 _ step
  | @tail middle above way step ih =>
    -- The type in between is listed under its handle, and what is above depends on that alone.
    obtain ⟨listed, member, same⟩ := mem_handlesOf.mp ih
    have aboveListed : provider.Extends listed above := by
      rw [Provider.Extends, byHandle listed middle (reached listed (List.mem_cons_of_mem _ member))
        (start.trans way.to_reflTransGen) same]
      exact step
    obtain ⟨front, behind, rfl⟩ := List.append_of_mem member
    have found := (@Grounded.tail provider (below :: front) _ grounded).1 _ aboveListed
    rw [handlesOf_append, handlesOf_cons]
    exact List.mem_append_right _ (List.mem_cons_of_mem _ found)

/-! ### Walks under way -/

namespace Ancestry

/-- A walk is under way to types, with some types open: entered, not finished, and below all of the
types still to be walked. What is finished is grounded. -/
structure Underway (provider : Provider) (root : TypeDecl) (types : List TypeDecl)
    (walk : Ancestry) (opened : List TypeDecl) : Prop where
  /-- What is entered is finished or open. -/
  entered : ∀ handle ∈ walk.entered, handle ∈ handlesOf walk.finished ∨ handle ∈ handlesOf opened
  /-- The open types are reached from the root. -/
  reached : ∀ type ∈ opened, provider.Reaches root type
  /-- The open types are below the types to be walked. -/
  toward : ∀ below ∈ opened, ∀ type ∈ types, provider.Inherits below type
  /-- What is finished is grounded. -/
  grounded : Grounded provider walk.finished

/-- Entering a fresh type opens it, on the way to its supertypes. -/
theorem Underway.enter {type : TypeDecl} {rest opened : List TypeDecl} {walk : Ancestry}
    (underway : Underway provider root (type :: rest) walk opened)
    (reached : provider.Reaches root type) :
    Underway provider root (provider.supertypes type).reverse (walk.enter type)
      (type :: opened) where
  entered handle member := by
    rcases List.mem_cons.mp member with rfl | member
    · exact .inr List.mem_cons_self
    · exact (underway.entered handle member).imp_right (List.mem_cons_of_mem _)
  reached other member := by
    rcases List.mem_cons.mp member with rfl | member
    · exact reached
    · exact underway.reached other member
  toward below member above among := by
    have step : provider.Extends type above := List.mem_reverse.mp among
    rcases List.mem_cons.mp member with rfl | member
    · exact .single step
    · exact (underway.toward below member type List.mem_cons_self).tail step
  grounded := underway.grounded

/-- What is entered by a walk is finished or was open before. -/
theorem Added.entered_finished_or_open {types opened added : List TypeDecl} {walk after : Ancestry}
    (adds : Added provider types walk after added)
    (before : ∀ handle ∈ walk.entered, handle ∈ handlesOf walk.finished ∨ handle ∈ handlesOf opened)
    {handle : Handle} (member : handle ∈ after.entered) :
    handle ∈ handlesOf after.finished ∨ handle ∈ handlesOf opened := by
  rw [adds.finished, handlesOf_append, List.mem_append]
  rcases (adds.entered handle).mp member with old | new
  · exact (before handle old).imp_left .inr
  · exact .inl (.inl new)

/-- A fresh type that is finished behind everything above it leaves the walk under way. -/
theorem Underway.finish (acyclic : provider.AcyclicFrom root) {type : TypeDecl}
    {rest opened added : List TypeDecl} {walk above : Ancestry}
    (underway : Underway provider root (type :: rest) walk opened)
    (reached : provider.Reaches root type)
    (adds : Added provider (provider.supertypes type).reverse (walk.enter type) above added)
    (grounded : Grounded provider above.finished) :
    Underway provider root rest (above.finish type) opened := by
  have inner := underway.enter reached
  have known : ∀ handle ∈ above.entered,
      handle ∈ handlesOf above.finished ∨ handle ∈ handlesOf (type :: opened) :=
    fun handle => adds.entered_finished_or_open inner.entered
  refine ⟨fun handle member => ?_, underway.reached,
    fun below member other among =>
      underway.toward below member other (List.mem_cons_of_mem _ among),
    ⟨fun upper step => ?_, grounded⟩⟩
  · rcases known handle member with finished | stillOpen
    · exact .inl (List.mem_cons_of_mem _ finished)
    · rcases List.mem_cons.mp stillOpen with rfl | stillOpen
      · exact .inl List.mem_cons_self
      · exact .inr stillOpen
  · -- A supertype that is still open would be below the type and above it.
    have among : upper ∈ (provider.supertypes type).reverse := List.mem_reverse.mpr step
    rcases known upper.handle (adds.starts upper among) with finished | stillOpen
    · exact finished
    · obtain ⟨below, member, same⟩ := mem_handlesOf.mp stillOpen
      exact absurd same.symm
        (acyclic below upper (inner.reached below member) (inner.toward below member upper among))

/-- **A walk without cycles finishes every type behind all of its supertypes.** -/
theorem Walks.grounded (acyclic : provider.AcyclicFrom root) {types opened : List TypeDecl}
    {walk after : Ancestry} (walks : Walks provider types walk after)
    (reached : ∀ type ∈ types, provider.Reaches root type)
    (underway : Underway provider root types walk opened) :
    Grounded provider after.finished := by
  induction walks generalizing opened with
  | done walk => exact underway.grounded
  | known _ _ ih =>
    refine ih (fun type member => reached type (List.mem_cons_of_mem _ member))
      ⟨underway.entered, underway.reached, fun below member type among => ?_, underway.grounded⟩
    exact underway.toward below member type (List.mem_cons_of_mem _ among)
  | @fresh type rest walk above after _ ascent _ ihAbove ihRest =>
    have here : provider.Reaches root type := reached type List.mem_cons_self
    obtain ⟨added, adds⟩ := ascent.exists_added
    refine ihRest (fun other member => reached other (List.mem_cons_of_mem _ member))
      (underway.finish acyclic here adds (ihAbove (fun other member => ?_) (underway.enter here)))
    exact here.tail (List.mem_reverse.mp member)

/-! ### The order of siblings -/

/-- **A type that nothing walked before leads to is finished in front of it all.** -/
theorem Walks.standsBefore_of_unreached {direct : TypeDecl} {earlier later : List TypeDecl}
    {walk after : Ancestry} (walks : Walks provider (later ++ direct :: earlier) walk after)
    (nothing : walk.finished = [])
    (unentered : direct.handle ∉ walk.entered)
    (unreached : ∀ sibling ∈ later, ∀ above, provider.Reaches sibling above →
      above.handle ≠ direct.handle)
    {sibling : TypeDecl} (among : sibling ∈ later) (apart : sibling.handle ∉ walk.entered) :
    StandsBefore after.finished direct sibling := by
  obtain ⟨middle, first, second⟩ := walks.split
  obtain ⟨siblings, adds⟩ := first.exists_added
  have finished : middle.finished = siblings := by rw [adds.finished, nothing, List.append_nil]
  have behind : sibling.handle ∈ handlesOf siblings :=
    ((adds.entered _).mp (adds.starts sibling among)).resolve_left apart
  cases second with
  | known entered _ =>
    rcases (adds.entered _).mp entered with old | new
    · exact absurd old unentered
    · obtain ⟨type, member, same⟩ := mem_handlesOf.mp new
      obtain ⟨start, walked, reaches⟩ := adds.reached type member
      exact absurd same (unreached start walked type reaches)
  | fresh _ ascent rest =>
    obtain ⟨above, addsAbove⟩ := ascent.exists_added
    obtain ⟨others, addsRest⟩ := rest.exists_added
    rw [addsRest.finished, finished_finish, addsAbove.finished, finished_enter, finished]
    refine standsBefore_of_split ?_
    rw [handlesOf_append]
    exact List.mem_append_right _ behind

end Ancestry

/-! ### The ancestry -/

namespace Provider

/-- What an ancestry consists of: the root, and what a walk of its supertypes adds. -/
theorem exists_added_of_ancestry {order : List TypeDecl}
    (walked : (provider.ancestry root).result = .ok order) :
    ∃ above added, Ancestry.Walks provider (provider.supertypes root).reverse
        (Ancestry.enter {} root) above ∧
      Ancestry.Added provider (provider.supertypes root).reverse (Ancestry.enter {} root) above
        added ∧
      above.finished = added ∧ order = root :: added := by
  obtain ⟨above, walks, rfl⟩ := exists_walks_of_ancestry walked
  obtain ⟨added, adds⟩ := walks.exists_added
  have finished : above.finished = added := by
    rw [adds.finished]
    exact List.append_nil added
  exact ⟨above, added, walks, adds, finished, by rw [finished]⟩

theorem nodup_ancestry {order : List TypeDecl}
    (walked : (provider.ancestry root).result = .ok order) : (handlesOf order).Nodup := by
  obtain ⟨above, added, _, adds, _, rfl⟩ := exists_added_of_ancestry walked
  rw [handlesOf_cons, List.nodup_cons]
  refine ⟨fun member => ?_, adds.nodup⟩
  obtain ⟨type, among, same⟩ := mem_handlesOf.mp member
  exact adds.fresh type among (same ▸ List.mem_cons_self)

theorem reaches_of_mem_ancestry {order : List TypeDecl}
    (walked : (provider.ancestry root).result = .ok order) {type : TypeDecl}
    (listed : type ∈ order) : provider.Reaches root type := by
  obtain ⟨above, added, _, adds, _, rfl⟩ := exists_added_of_ancestry walked
  rcases List.mem_cons.mp listed with rfl | member
  · exact .refl
  · obtain ⟨start, among, reaches⟩ := adds.reached type member
    exact reaches.head (List.mem_reverse.mp among)

theorem ancestry_closed {order : List TypeDecl}
    (walked : (provider.ancestry root).result = .ok order) {type above : TypeDecl}
    (listed : type ∈ order) (step : provider.Extends type above) :
    above.handle ∈ handlesOf order := by
  obtain ⟨walk, added, _, adds, _, rfl⟩ := exists_added_of_ancestry walked
  have entered : above.handle ∈ walk.entered := by
    rcases List.mem_cons.mp listed with rfl | member
    · exact adds.starts above (List.mem_reverse.mpr step)
    · exact adds.closed type member above step
  rcases (adds.entered _).mp entered with old | new
  · exact List.mem_cons.mpr (.inl (List.mem_singleton.mp old))
  · exact List.mem_cons_of_mem _ new

/-- Every type reached from the root is in its ancestry, by its handle. -/
theorem mem_ancestry_of_reaches (byHandle : provider.SupertypesByHandle root)
    {order : List TypeDecl} (walked : (provider.ancestry root).result = .ok order)
    {type : TypeDecl} (reaches : provider.Reaches root type) : type.handle ∈ handlesOf order := by
  induction reaches with
  | refl =>
    obtain ⟨_, _, _, _, _, rfl⟩ := exists_added_of_ancestry walked
    exact List.mem_cons_self
  | tail way step ih =>
    obtain ⟨listed, member, same⟩ := mem_handlesOf.mp ih
    refine ancestry_closed walked member ?_
    rw [Extends, byHandle listed _ (reaches_of_mem_ancestry walked member) way same]
    exact step

/-- Without cycles an ancestry is grounded. -/
theorem grounded_ancestry (acyclic : provider.AcyclicFrom root) {order : List TypeDecl}
    (walked : (provider.ancestry root).result = .ok order) : Grounded provider order := by
  obtain ⟨above, added, walks, adds, finished, rfl⟩ := exists_added_of_ancestry walked
  have start : Ancestry.Underway provider root [root] {} [] :=
    ⟨nofun, nofun, nofun, trivial⟩
  have behind : Grounded provider above.finished :=
    walks.grounded acyclic (fun type member => .single (List.mem_reverse.mp member))
      (start.enter .refl)
  rw [← finished]
  exact (start.finish acyclic .refl adds behind).grounded

/-- **The ancestry is a topological order.** It begins with the root, holds each type reached from
it once, and holds no other; without cycles every type stands before all of its supertypes, and an
immediate supertype of the root stands before all those declared later, if none of them leads to
it. -/
theorem ancestry_topological (byHandle : provider.SupertypesByHandle root)
    {order : List TypeDecl} (walked : (provider.ancestry root).result = .ok order) :
    order.head? = some root ∧
    (handlesOf order).Nodup ∧
    (∀ type, provider.Reaches root type → type.handle ∈ handlesOf order) ∧
    (∀ type ∈ order, provider.Reaches root type) ∧
    (provider.AcyclicFrom root →
      (∀ below ∈ order, ∀ above, provider.Inherits below above →
        StandsBefore order below above) ∧
      ∀ earlier direct later, provider.supertypes root = earlier ++ direct :: later →
        (∀ sibling ∈ later, ∀ above, provider.Reaches sibling above →
          above.handle ≠ direct.handle) →
        ∀ sibling ∈ later, StandsBefore order direct sibling) := by
  refine ⟨?_, nodup_ancestry walked, fun _ => mem_ancestry_of_reaches byHandle walked,
    fun _ => reaches_of_mem_ancestry walked, fun acyclic => ⟨?_, ?_⟩⟩
  · obtain ⟨_, _, _, _, _, rfl⟩ := exists_added_of_ancestry walked
    rfl
  · intro below listed above inherits
    obtain ⟨front, back, rfl⟩ := List.append_of_mem listed
    have grounded := (grounded_ancestry acyclic walked).tail
    refine standsBefore_of_split
      (grounded.mem_of_inherits byHandle (fun type member => ?_) inherits)
    exact reaches_of_mem_ancestry walked (List.mem_append_right _ member)
  · intro earlier direct later declared unreached sibling among
    obtain ⟨above, added, walks, _, finished, rfl⟩ := exists_added_of_ancestry walked
    have apart : ∀ type ∈ direct :: later, type.handle ∉ (Ancestry.enter {} root).entered := by
      intro type member entered
      have step : provider.Extends root type := by
        rw [Extends, declared]
        exact List.mem_append_right _ member
      exact acyclic root type .refl (.single step) (List.mem_singleton.mp entered)
    rw [declared, List.reverse_append, List.reverse_cons, List.append_assoc] at walks
    have before := walks.standsBefore_of_unreached rfl (apart direct List.mem_cons_self)
      (fun other member => unreached other (List.mem_reverse.mp member))
      (List.mem_reverse.mpr among) (apart sibling (List.mem_cons_of_mem _ among))
    rw [finished] at before
    exact before.append_left [root]

/-- Two interfaces above one class, and a further one above both. -/
def diamond : Catalog :=
  [TypeSpec.mk { form := .interface, name := "Top" } [],
    .mk { form := .interface, name := "Left", interfaces := [.ofName "Top"] } [],
    .mk { form := .interface, name := "Right", interfaces := [.ofName "Top"] } [],
    .mk
      { name := "Bottom"
        base := .absent
        interfaces := [.ofName "Left", .ofName "Right"] }
      []].foldl
      (fun catalog spec => (catalog.declare spec).2) .empty

/-- In the diamond, the shared supertype stands behind both types that lead to it. -/
theorem ancestry_topological_diamond :
    ∃ root order, diamond.findByName? "Bottom" = some root ∧
      (diamond.provider.ancestry root).result = .ok order ∧
      order.map (·.name) = ["Bottom", "Left", "Right", "Top"] ∧
      diamond.provider.AcyclicFrom root ∧
      ∀ below ∈ order, ∀ above, diamond.provider.Inherits below above →
        StandsBefore order below above := by
  obtain ⟨root, found⟩ : ∃ root, diamond.findByName? "Bottom" = some root :=
    Option.isSome_iff_exists.mp (by decide)
  have there : root ∈ diamond.types := Catalog.mem_types_of_findByName? found
  have faithful : diamond.Faithful := (Catalog.Grown.empty.declareAll _).faithful
  have named : (diamond.findByName? "Bottom").map (fun root =>
      (diamond.provider.ancestry root).result.toOption.map (·.map (·.name))) =
        some (some ["Bottom", "Left", "Right", "Top"]) := by decide
  rw [found, Option.map_some, Option.some_inj, Option.map_eq_some_iff] at named
  obtain ⟨order, ended, names⟩ := named
  have walked : (diamond.provider.ancestry root).result = .ok order := by
    revert ended
    cases (diamond.provider.ancestry root).result with
    | error _ => exact nofun
    | ok _ => exact fun same => congrArg Except.ok (Option.some.inj same)
  have acyclic : diamond.provider.AcyclicFrom root :=
    Catalog.acyclicFrom_of_descending there (by decide)
  exact ⟨root, order, found, walked, names, acyclic,
    ((ancestry_topological (faithful.supertypesByHandle there) walked).2.2.2.2 acyclic).1⟩

end Provider

end ValueAnatomy
