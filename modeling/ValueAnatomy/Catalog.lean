/-
**The catalog: the declared types, by handle and by name.**

A catalog keeps its types in the order of their handles, knows which handle each full name leads
to, and counts the handles it has given out. A name is given once and for all.

* `Catalog.mint`: a handle that was not given out before, as long as the indices last;
* `Catalog.insert?`: a further type, unless its name is taken;
* `Catalog.findByName?`, `Catalog.find?`: the look-ups;
* `Catalog.handleOf?_insert?`: an insertion changes where its own name leads and no other.
-/

import ValueAnatomy.Problem

namespace ValueAnatomy

/-- How many handles of each kind have been given out. -/
structure MintCounts where
  type : Nat := 0
  field : Nat := 0
  method : Nat := 0
  constructor : Nat := 0
  attachment : Nat := 0
  deriving DecidableEq, Repr

namespace MintCounts

def count (counts : MintCounts) : HandleKind → Nat
  | .type => counts.type
  | .field => counts.field
  | .method => counts.method
  | .constructor => counts.constructor
  | .attachment => counts.attachment

def next (counts : MintCounts) : HandleKind → MintCounts
  | .type => { counts with type := counts.type + 1 }
  | .field => { counts with field := counts.field + 1 }
  | .method => { counts with method := counts.method + 1 }
  | .constructor => { counts with constructor := counts.constructor + 1 }
  | .attachment => { counts with attachment := counts.attachment + 1 }

theorem count_next (counts : MintCounts) (kind other : HandleKind) :
    (counts.next kind).count other = counts.count other + if other = kind then 1 else 0 := by
  cases kind <;> cases other <;> simp [next, count]

end MintCounts

/-- The declared types of a program. -/
structure Catalog where
  /-- The types, in the order of their handles. -/
  types : List TypeDecl := []
  /-- Which handle a full name leads to. -/
  names : List (String × Handle) := []
  /-- The handles given out so far. -/
  minted : MintCounts := {}
  deriving DecidableEq, Repr

namespace Catalog

def empty : Catalog := {}

/-! ### Handles -/

/-- The next handle of a kind, and the catalog that has given it out. Indices begin with one. -/
def mint (catalog : Catalog) (kind : HandleKind) : Handle × Catalog :=
  (.ofIndex kind (catalog.minted.count kind + 1),
    { catalog with minted := catalog.minted.next kind })

/-- A new annotation instance, and the catalog that has given out its handle. -/
def mintAttachment (catalog : Catalog) (typeName : String) (arguments : List (String × Argument)) :
    Annotation × Catalog :=
  let (handle, catalog) := catalog.mint .attachment
  (⟨handle, typeName, arguments⟩, catalog)

@[simp] theorem types_mint (catalog : Catalog) (kind : HandleKind) :
    (catalog.mint kind).2.types = catalog.types := rfl

@[simp] theorem names_mint (catalog : Catalog) (kind : HandleKind) :
    (catalog.mint kind).2.names = catalog.names := rfl

@[simp] theorem minted_mint (catalog : Catalog) (kind : HandleKind) :
    (catalog.mint kind).2.minted = catalog.minted.next kind := rfl

/-! ### Look-ups -/

def find? (catalog : Catalog) (handle : Handle) : Option TypeDecl :=
  catalog.types.find? (·.handle == handle)

def handleOf? (catalog : Catalog) (fullName : String) : Option Handle :=
  catalog.names.lookup fullName

def findByName? (catalog : Catalog) (fullName : String) : Option TypeDecl :=
  (catalog.handleOf? fullName).bind catalog.find?

def size (catalog : Catalog) : Nat := catalog.types.length

def typesFrom (catalog : Catalog) (origin : Origin) : List TypeDecl :=
  catalog.types.filter (·.origin == origin)

/-! ### Insertion -/

/-- The types with one more, in the order of their handles; one of the same handle gives way. -/
def placed (type : TypeDecl) : List TypeDecl → List TypeDecl
  | [] => [type]
  | other :: rest =>
    if type.handle.code < other.handle.code then type :: other :: rest
    else if type.handle = other.handle then type :: rest
    else other :: placed type rest

/-- The catalog with a further type, unless its full name is taken. -/
def insert? (catalog : Catalog) (type : TypeDecl) : Except Failure Catalog :=
  match catalog.handleOf? type.fullName with
  | some _ => .error (.nameTaken type.fullName)
  | none =>
    .ok { catalog with
      types := placed type catalog.types
      names := (type.fullName, type.handle) :: catalog.names }

/-- An insertion fails exactly if the name leads somewhere already, and says so. -/
theorem insert?_eq_error_iff {catalog : Catalog} {type : TypeDecl} {failure : Failure} :
    catalog.insert? type = .error failure ↔
      (catalog.handleOf? type.fullName).isSome = true ∧ failure = .nameTaken type.fullName := by
  rw [insert?]
  split
  · rename_i taken
    simp only [taken, Option.isSome_some, true_and]
    exact ⟨fun same => (Except.error.inj same).symm, fun same => same ▸ rfl⟩
  · rename_i free
    simp [free]

/-- An insertion changes where its own name leads and no other. -/
theorem handleOf?_insert? {catalog grown : Catalog} {type : TypeDecl}
    (inserted : catalog.insert? type = .ok grown) (fullName : String) :
    grown.handleOf? fullName =
      if fullName = type.fullName then some type.handle else catalog.handleOf? fullName := by
  rw [insert?] at inserted
  split at inserted
  · simp at inserted
  · obtain rfl := Except.ok.inj inserted
    by_cases same : fullName = type.fullName
    · simp [handleOf?, same]
    · simp [handleOf?, same, List.lookup_cons, beq_eq_false_iff_ne.mpr same]

/-- Among placed types the new one is found by its handle, every other as before. -/
theorem find?_placed (type : TypeDecl) (types : List TypeDecl) (handle : Handle) :
    (placed type types).find? (·.handle == handle) =
      if handle = type.handle then some type else types.find? (·.handle == handle) := by
  induction types with
  | nil =>
    by_cases same : handle = type.handle
    · simp [placed, same]
    · simp [placed, same, Ne.symm same]
  | cons other rest ih =>
    rw [placed]
    split
    · by_cases same : handle = type.handle
      · simp [same]
      · simp [same, List.find?_cons, Ne.symm same]
    · split
      · rename_i equal
        by_cases same : handle = type.handle
        · simp [same]
        · simp [same, Ne.symm same, ← equal]
      · rename_i apart
        rw [List.find?_cons, List.find?_cons, ih]
        by_cases same : handle = type.handle
        · simp [same, beq_eq_false_iff_ne.mpr (Ne.symm apart)]
        · simp [same]

end Catalog

end ValueAnatomy
