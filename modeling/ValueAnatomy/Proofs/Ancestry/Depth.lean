/-
**When an ancestry is refused.**

A walk is refused for its depth alone. Depth is measured along the way the walk took, whose types
are all different, but for the type at its end: that one may have been entered before, and the
levels are looked at first. So a walk that is refused has found `recursionLimit + 1` different
types one above the other, and one more step above the last of them.

* `Ancestry.exists_climb_of_refused`: such a way, from where a walk is refused;
* `Provider.ancestry_of_boundedPaths`: no type whose paths stay within the limit is refused, as long
  as no path that comes to the limit leads back to a type on it;
* `Catalog.getLastD_of_simplePath`: where a path through all types ends;
* `Provider.ancestry_refused_ring`: a ring of types around which a path comes to the limit is
  refused.
-/

import Mathlib.Data.List.Chain
import Mathlib.Data.List.Nodup
import Mathlib.Data.List.Perm.Subperm
import ValueAnatomy.Proofs.Catalog.Answers

namespace ValueAnatomy

variable {provider : Provider} {root : TypeDecl}

/-- A path of supertypes above a root, each immediately above the one before it and no two of them
the same. It has as many steps as types above the root. -/
structure Provider.SimplePath (provider : Provider) (root : TypeDecl) (above : List TypeDecl) :
    Prop where
  climbs : (root :: above).IsChain provider.Extends
  apart : (handlesOf (root :: above)).Nodup

/-! ### The way to a refusal -/

namespace Ancestry

/-- A way from a root to a type, through the types of a path, which all differ. The type at the end
may be one of them. -/
structure Climb (provider : Provider) (root : TypeDecl) (path : List TypeDecl)
    (last : TypeDecl) : Prop where
  climbs : (path ++ [last]).IsChain provider.Extends
  starts : (path ++ [last]).head? = some root
  apart : (handlesOf path).Nodup

/-- A way to a type that is not on it goes through different types to its end. -/
theorem Climb.apart_end {path : List TypeDecl} {last : TypeDecl}
    (climb : Climb provider root path last) (fresh : last.handle ∉ handlesOf path) :
    (handlesOf (path ++ [last])).Nodup := by
  rw [handlesOf_append, List.nodup_append]
  refine ⟨climb.apart, List.nodup_singleton _, ?_⟩
  rintro handle onPath _ atEnd rfl
  obtain rfl : handle = last.handle := List.mem_singleton.mp atEnd
  exact fresh onPath

/-- It goes on above that type. -/
theorem Climb.step {path : List TypeDecl} {last above : TypeDecl}
    (climb : Climb provider root path last) (fresh : last.handle ∉ handlesOf path)
    (step : provider.Extends last above) : Climb provider root (path ++ [last]) above where
  climbs := by
    rw [List.isChain_append]
    refine ⟨climb.climbs, List.isChain_singleton _, fun below atEnd upper next => ?_⟩
    obtain rfl : last = below := by simpa using atEnd
    obtain rfl : above = upper := by simpa using next
    exact step
  starts := by
    rw [List.head?_append, climb.starts]
    rfl
  apart := climb.apart_end fresh

theorem entered_of_result_visit {levels : Nat} {type : TypeDecl} {walk after : Ancestry}
    (visited : (visit provider levels type walk).result = .ok after) {handle : Handle}
    (entered : handle ∈ walk.entered) : handle ∈ after.entered := by
  obtain ⟨added, adds⟩ := (walks_of_result_visit visited).exists_added
  exact adds.mem_entered entered

/-- **A walk that is refused has climbed as many different types as it had levels**, all above those
on the way to it, and has gone one step further. -/
theorem exists_climb_of_refused {levels : Nat} {type : TypeDecl} {walk : Ancestry}
    {path : List TypeDecl} {failure : Failure} (climb : Climb provider root path type)
    (entered : ∀ handle ∈ handlesOf path, handle ∈ walk.entered)
    (refused : (visit provider levels type walk).result = .error failure) :
    ∃ way last, Climb provider root way last ∧ way.length = path.length + levels := by
  induction levels generalizing type walk path with
  | zero => exact ⟨path, type, climb, rfl⟩
  | succ levels ih =>
    rw [result_visit_succ] at refused
    split at refused
    · cases refused
    · rename_i unentered
      have fresh : type.handle ∉ handlesOf path := fun onPath => unentered (entered _ onPath)
      cases walked : (provider.supertypes type).reverse.foldlM
          (fun walk supertype => (visit provider levels supertype walk).result)
          (walk.enter type) with
      | ok above =>
        rw [walked] at refused
        cases refused
      | error other =>
        rw [walked] at refused
        obtain rfl : other = failure := Except.error.inj refused
        -- Whichever supertype is refused, the way to it was entered before its siblings.
        obtain ⟨above, among, state, known, refusedAbove⟩ :=
          exists_error_of_foldlM
            (fun state : Ancestry =>
              ∀ handle ∈ handlesOf (path ++ [type]), handle ∈ state.entered)
            (fun state supertype after known visited handle onPath =>
              entered_of_result_visit visited (known handle onPath))
            (fun handle onPath => by
              rw [handlesOf_append, List.mem_append] at onPath
              rcases onPath with onPath | atEnd
              · exact List.mem_cons_of_mem _ (entered handle onPath)
              · exact List.mem_singleton.mp atEnd ▸ List.mem_cons_self)
            walked
        obtain ⟨way, last, further, length⟩ :=
          ih (climb.step fresh (List.mem_reverse.mp among)) known refusedAbove
        refine ⟨way, last, further, ?_⟩
        rw [length, List.length_append, List.length_singleton]
        omega

end Ancestry

/-! ### Paths within the limit -/

namespace Provider

/-- **A type that is refused has a path that comes to the limit, and a way on from its end.** -/
theorem exists_climb_of_refused {failure : Failure}
    (refused : (provider.ancestry root).result = .error failure) :
    ∃ above next, Ancestry.Climb provider root (root :: above) next ∧
      above.length = recursionLimit := by
  rw [ancestry, Attempt.result_bind] at refused
  cases visited : (Ancestry.visit provider (recursionLimit + 1) root {}).result with
  | ok after =>
    rw [visited] at refused
    cases refused
  | error other =>
    have start : Ancestry.Climb provider root [] root :=
      ⟨List.isChain_singleton _, rfl, List.nodup_nil⟩
    obtain ⟨way, next, climb, length⟩ := Ancestry.exists_climb_of_refused start
      (fun _ onPath => absurd onPath List.not_mem_nil) visited
    rw [List.length_nil, Nat.zero_add] at length
    cases way with
    | nil => cases length
    | cons first above =>
      obtain rfl : first = root := Option.some.inj climb.starts
      exact ⟨above, next, climb, Nat.succ.inj length⟩

/-- **No type is refused whose paths stay within the limit**, whatever cycles and diamonds there
are, as long as no path that comes to the limit leads back to a type on it. -/
theorem ancestry_of_boundedPaths
    (bounded : ∀ above, provider.SimplePath root above → above.length ≤ recursionLimit)
    (onward : ∀ above, provider.SimplePath root above → above.length = recursionLimit →
      ∀ next, provider.Extends (above.getLastD root) next →
        next.handle ∉ handlesOf (root :: above)) :
    ∃ order, (provider.ancestry root).result = .ok order := by
  cases walked : (provider.ancestry root).result with
  | ok order => exact ⟨order, rfl⟩
  | error failure =>
    obtain ⟨above, next, climb, atLimit⟩ := exists_climb_of_refused walked
    obtain ⟨climbs, -, further⟩ := List.isChain_append.mp climb.climbs
    have atEnd : (root :: above).getLast? = some (above.getLastD root) := by
      rw [List.getLast?_cons, List.getLastD_eq_getLast?]
    have fresh := onward above ⟨climbs, climb.apart⟩ atLimit next (further _ atEnd next rfl)
    -- The step behind the path then makes it a longer one.
    have short := bounded (above ++ [next]) ⟨climb.climbs, climb.apart_end fresh⟩
    rw [List.length_append, atLimit, List.length_singleton] at short
    omega

end Provider

/-! ### Rings of types -/

/-- Whatever a path goes through is in the catalog. -/
theorem Catalog.subset_types_of_isChain {catalog : Catalog} {above : List TypeDecl}
    (there : root ∈ catalog.types) (climbs : (root :: above).IsChain catalog.provider.Extends) :
    root :: above ⊆ catalog.types := by
  induction above generalizing root with
  | nil => exact List.cons_subset.mpr ⟨there, List.nil_subset _⟩
  | cons next rest ih =>
    obtain ⟨step, onward⟩ := List.isChain_cons_cons.mp climbs
    exact List.cons_subset.mpr ⟨there, ih (mem_types_of_extends step) onward⟩

/-- A path goes through every type of the catalog once at most. -/
theorem Catalog.subperm_types_of_simplePath {catalog : Catalog} (there : root ∈ catalog.types)
    {above : List TypeDecl} (path : catalog.provider.SimplePath root above) :
    (root :: above).Subperm catalog.types := by
  have apart : (root :: above).Nodup := path.apart.of_map _
  exact apart.subperm (subset_types_of_isChain there path.climbs)

/-- A path has fewer steps than there are types. -/
theorem Catalog.length_le_of_simplePath {catalog : Catalog} (there : root ∈ catalog.types)
    {above : List TypeDecl} (path : catalog.provider.SimplePath root above) {limit : Nat}
    (few : catalog.types.length = limit + 1) : above.length ≤ limit :=
  Nat.le_of_lt_succ ((subperm_types_of_simplePath there path).length_le.trans few.le)

/-- Interfaces in a ring: each extends the one before it, and the first the last. -/
def ringOf (size : Nat) : Catalog :=
  ((List.range size).map fun position =>
    TypeSpec.mk
      { form := .interface
        name := "T" ++ toString position
        interfaces := [.ofName ("T" ++ toString ((position + size - 1) % size))] }
      []).foldl
    (fun catalog spec => (catalog.declare spec).2) .empty

/-- A ring of interfaces, the first of which also extends one that is outside the ring. -/
def crownedRingOf (size : Nat) : Catalog :=
  ((List.range size).map fun position =>
    TypeSpec.mk
      { form := .interface
        name := "T" ++ toString position
        interfaces := (if position = 0 then [.ofName "Crown"] else []) ++
          [.ofName ("T" ++ toString ((position + size - 1) % size))] }
      []).foldl
    (fun catalog spec => (catalog.declare spec).2)
    (Catalog.empty.declare (.mk { form := .interface, name := "Crown" } [])).2

/-- On a path, only the type at its end may be without supertypes. -/
theorem getLast?_of_isChain {path : List TypeDecl} {top : TypeDecl}
    (climbs : path.IsChain provider.Extends) (onPath : top ∈ path)
    (atTop : provider.supertypes top = []) : path.getLast? = some top := by
  obtain ⟨front, back, rfl⟩ := List.append_of_mem onPath
  cases back with
  | nil => exact List.getLast?_concat
  | cons next rest =>
    obtain ⟨-, further, -⟩ := List.isChain_append.mp climbs
    have step : next ∈ provider.supertypes top := (List.isChain_cons_cons.mp further).1
    rw [atTop] at step
    cases step

/-- A path through as many types as there are ends at the one without supertypes. -/
theorem Catalog.getLastD_of_simplePath {catalog : Catalog} (there : root ∈ catalog.types)
    {above : List TypeDecl} (path : catalog.provider.SimplePath root above)
    (through : catalog.types.length ≤ above.length + 1) {top : TypeDecl}
    (topThere : top ∈ catalog.types) (atTop : catalog.provider.supertypes top = []) :
    above.getLastD root = top := by
  have everywhere := (subperm_types_of_simplePath there path).perm_of_length_le through
  have onPath : top ∈ root :: above := everywhere.mem_iff.mpr topThere
  have atEnd := getLast?_of_isChain path.climbs onPath atTop
  rwa [List.getLast?_cons, ← List.getLastD_eq_getLast?, Option.some.injEq] at atEnd

namespace Provider

/-- The walk comes round a ring of as many types as the limit, back to where it started, and goes
on above the ring: the longest path comes to the limit, and the type at its end leads nowhere. -/
theorem ancestry_of_boundedPaths_ring :
    ∃ root order, (crownedRingOf recursionLimit).findByName? "T63" = some root ∧
      (∀ above, (crownedRingOf recursionLimit).provider.SimplePath root above →
        above.length ≤ recursionLimit) ∧
      (∃ above, (crownedRingOf recursionLimit).provider.SimplePath root above ∧
        above.length = recursionLimit ∧
        ∃ below ∈ above, (crownedRingOf recursionLimit).provider.Extends below root) ∧
      ((crownedRingOf recursionLimit).provider.ancestry root).result = .ok order := by
  -- From the last declared to the first, the types are the longest path.
  obtain ⟨few, first, climbs, apart, round, crowned⟩ :
      (crownedRingOf recursionLimit).types.length = recursionLimit + 1 ∧
      (crownedRingOf recursionLimit).findByName? "T63" =
        (crownedRingOf recursionLimit).types.reverse.head? ∧
      ((crownedRingOf recursionLimit).types.reverse.IsChain fun below above =>
        above ∈ (crownedRingOf recursionLimit).provider.supertypes below) ∧
      (handlesOf (crownedRingOf recursionLimit).types.reverse).Nodup ∧
      (∀ root ∈ (crownedRingOf recursionLimit).types.reverse.head?,
        ∃ below ∈ (crownedRingOf recursionLimit).types.reverse.tail,
          root ∈ (crownedRingOf recursionLimit).provider.supertypes below) ∧
      ((crownedRingOf recursionLimit).findByName? "Crown").map
        (crownedRingOf recursionLimit).provider.supertypes = some [] := by decide +kernel
  obtain ⟨crown, foundCrown, atTop⟩ := Option.map_eq_some_iff.mp crowned
  have length : (crownedRingOf recursionLimit).types.reverse.length = recursionLimit + 1 :=
    List.length_reverse.trans few
  cases descent : (crownedRingOf recursionLimit).types.reverse with
  | nil =>
    rw [descent] at length
    cases length
  | cons root above =>
    rw [descent] at first climbs apart round length
    have there := Catalog.mem_types_of_findByName? first
    have bounded : ∀ above, (crownedRingOf recursionLimit).provider.SimplePath root above →
        above.length ≤ recursionLimit :=
      fun above path => Catalog.length_le_of_simplePath there path few
    have onward : ∀ above, (crownedRingOf recursionLimit).provider.SimplePath root above →
        above.length = recursionLimit →
        ∀ next, (crownedRingOf recursionLimit).provider.Extends (above.getLastD root) next →
          next.handle ∉ handlesOf (root :: above) := by
      intro above path atLimit next step
      have atEnd := Catalog.getLastD_of_simplePath there path (by rw [few, atLimit])
        (Catalog.mem_types_of_findByName? foundCrown) atTop
      rw [Extends, atEnd, atTop] at step
      cases step
    obtain ⟨order, walked⟩ := ancestry_of_boundedPaths bounded onward
    exact ⟨root, order, first, bounded,
      ⟨above, ⟨climbs, apart⟩, Nat.succ.inj length, round root rfl⟩, walked⟩

/-- **A ring of one type more than the limit is refused**, though none of its paths is longer than
the limit: the step that closes the ring is one too many. -/
theorem ancestry_refused_ring :
    ∃ root, (ringOf (recursionLimit + 1)).findByName? "T64" = some root ∧
      (∀ above, (ringOf (recursionLimit + 1)).provider.SimplePath root above →
        above.length ≤ recursionLimit) ∧
      ((ringOf (recursionLimit + 1)).provider.ancestry root).result =
        .error (.tooDeep recursionLimit) := by
  obtain ⟨few, refused⟩ : (ringOf (recursionLimit + 1)).types.length = recursionLimit + 1 ∧
      ((ringOf (recursionLimit + 1)).findByName? "T64").map (fun root =>
        ((ringOf (recursionLimit + 1)).provider.ancestry root).result.toOption.isNone) =
          some true := by decide +kernel
  obtain ⟨root, found, nothing⟩ := Option.map_eq_some_iff.mp refused
  have there := Catalog.mem_types_of_findByName? found
  refine ⟨root, found, fun above path => Catalog.length_le_of_simplePath there path few, ?_⟩
  cases walked : ((ringOf (recursionLimit + 1)).provider.ancestry root).result with
  | error failure => rw [eq_tooDeep_of_ancestry walked]
  | ok order =>
    rw [walked] at nothing
    cases nothing

end Provider

end ValueAnatomy
