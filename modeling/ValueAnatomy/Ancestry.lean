/-
**The ancestry of a type: the type and everything above it.**

The walk visits supertypes depth first, the last declared first, and puts each type in front of
those finished before it. So every type stands before its own supertypes, even where two of them
share one, and otherwise the superclass and what is above it stand before the interfaces in their
order. Whoever keeps the first member of each signature keeps the most specific one.

* `Ancestry.visit`: the walk, which refuses to go deeper than its budget of levels;
* `Provider.ancestry`: the walk with the full budget.
-/

import ValueAnatomy.Provider

namespace ValueAnatomy

/-- How many steps above a type a walk goes. -/
def recursionLimit : Nat := 64

/-- A walk under way. -/
structure Ancestry where
  /-- The types entered so far. -/
  entered : List Handle := []
  /-- The types finished so far, the last one first. -/
  finished : List TypeDecl := []

namespace Ancestry

/-- Walks a type and everything above it, with so many levels left. The budget is looked at before
anything else, even where the type was entered already. -/
def visit (provider : Provider) : Nat → TypeDecl → Ancestry → Attempt Ancestry
  | 0, _, _ => .fail (.tooDeep recursionLimit)
  | levels + 1, type, walk =>
    if type.handle ∈ walk.entered then pure walk
    else do
      let supertypes ← Attempt.ofTraced (provider.supertypesOf type)
      let above ← supertypes.reverse.foldlM (fun walk supertype =>
        visit provider levels supertype walk) { walk with entered := type.handle :: walk.entered }
      pure { above with finished := type :: above.finished }

end Ancestry

/-- A type and everything above it, each type once and before its own supertypes. -/
def Provider.ancestry (provider : Provider) (type : TypeDecl) : Attempt (List TypeDecl) := do
  let walk ← Ancestry.visit provider (recursionLimit + 1) type {}
  pure walk.finished

end ValueAnatomy
