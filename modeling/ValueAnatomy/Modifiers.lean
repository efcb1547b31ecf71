/-
**Modifiers: who may use a declaration, and how.**

A declaration carries its modifiers as a mask of thirty-two bits. The low three bits are the
access, every other modifier has a bit of its own; which bits mean something depends on whether the
declaration is a type or a member.

* `Modifiers.access`, `Modifiers.has`: reading the mask;
* `Modifiers.with`: what a keyword in front of a declaration does to it, if such a declaration may
  carry the keyword at all.
-/

namespace ValueAnatomy

/-- Who may use a declaration. -/
inductive Access where
  /-- The declaring type alone. -/
  | ownType
  /-- The package of the declaring type, as where nothing is said. -/
  | ownPackage
  /-- The package and the subtypes. -/
  | subtypes
  /-- Everyone. -/
  | everyone
  deriving DecidableEq, Repr

def Access.name : Access → String
  | ownType => "Private"
  | ownPackage => "Package"
  | subtypes => "Protected"
  | everyone => "Public"

def Access.bits : Access → UInt32
  | ownType => 1
  | ownPackage => 3
  | subtypes => 4
  | everyone => 6

/-- A modifier other than the access. -/
inductive Modifier where
  /-- Of the type itself rather than of its instances; of a nested type: without an enclosing
  instance. -/
  | static
  /-- Cannot be extended, overridden or assigned again. -/
  | final
  | interface
  /-- The field is not persisted. -/
  | transient
  /-- Made by a compiler rather than declared. -/
  | synthetic
  /-- Without an implementation of its own. -/
  | abstract
  /-- A structural data type, whose positional accessors are generated. -/
  | record
  | enumeration
  deriving DecidableEq, Repr

namespace Modifier

def name : Modifier → String
  | static => "STATIC"
  | final => "FINAL"
  | interface => "INTERFACE"
  | transient => "TRANSIENT"
  | synthetic => "SYNTHETIC"
  | abstract => "ABSTRACT"
  | record => "RECORD"
  | enumeration => "ENUM"

def mask : Modifier → UInt32
  | static => 0x0010
  | final => 0x0020
  | interface => 0x0040
  | transient => 0x0080
  | synthetic => 0x0200
  | abstract => 0x0400
  | record => 0x1000
  | enumeration => 0x2000

/-- The modifiers that mean something on a field, method or constructor. -/
def ofMembers : List Modifier := [static, final, transient, synthetic, abstract]

/-- The modifiers that mean something on a type. -/
def ofTypes : List Modifier := [static, final, interface, abstract, record, enumeration]

end Modifier

/-- What a declaration can be, as far as its keywords go. -/
inductive DeclarationForm where
  | type
  | field
  | callable
  deriving DecidableEq, Repr

/-- A word in front of a declaration. -/
inductive Keyword where
  | access (access : Access)
  | modifier (modifier : Modifier)
  deriving DecidableEq, Repr

/-- Whether a kind of declaration may carry the keyword. -/
def Keyword.fits (form : DeclarationForm) : Keyword → Bool
  | .access .ownPackage => false
  | .access .subtypes => form != .type
  | .access _ => true
  | .modifier added =>
    match form with
    | .type => [Modifier.static, .final, .abstract].contains added
    | .field => [Modifier.static, .final, .transient].contains added
    | .callable => [Modifier.static, .final, .abstract, .synthetic].contains added

/-- The modifiers of a declaration, as a mask. -/
structure Modifiers where
  /-- The access in the low three bits, a bit for each other modifier. -/
  bits : UInt32
  deriving DecidableEq, Repr

namespace Modifiers

def none : Modifiers := ⟨0⟩

/-- The access, which is the package's unless the bits name another. -/
def access (modifiers : Modifiers) : Access :=
  match (modifiers.bits &&& 7).toNat with
  | 1 => .ownType
  | 4 => .subtypes
  | 6 => .everyone
  | _ => .ownPackage

def has (modifiers : Modifiers) (modifier : Modifier) : Bool :=
  modifiers.bits &&& modifier.mask != 0

/-- Those of the given modifiers that are set. -/
def among (modifiers : Modifiers) (known : List Modifier) : List Modifier :=
  known.filter modifiers.has

def add (modifiers : Modifiers) (modifier : Modifier) : Modifiers :=
  ⟨modifiers.bits ||| modifier.mask⟩

/-- The modifiers with another access. -/
def withAccess (modifiers : Modifiers) (access : Access) : Modifiers :=
  ⟨(modifiers.bits &&& ~~~7) ||| access.bits⟩

/-- The modifiers that several ones make together. -/
def ofList (modifiers : List Modifier) : Modifiers :=
  modifiers.foldl add none

/-- What a keyword in front of a declaration does to its modifiers: nothing, if such a declaration
does not carry it. -/
def withKeyword (form : DeclarationForm) (modifiers : Modifiers) (keyword : Keyword) :
    Modifiers :=
  if keyword.fits form then
    match keyword with
    | .access access => modifiers.withAccess access
    | .modifier modifier => modifiers.add modifier
  else modifiers

/-- What the keywords in front of a declaration do to its modifiers, in their order. -/
def withKeywords (form : DeclarationForm) (modifiers : Modifiers) (keywords : List Keyword) :
    Modifiers :=
  keywords.foldl (withKeyword form) modifiers

def isPrivate (modifiers : Modifiers) : Bool :=
  modifiers.access == .ownType

/-- Bits put in the place of a mask's are read back through the mask. -/
theorem and_of_replaced (bits mask value : UInt32) (inside : value &&& mask = value) :
    ((bits &&& ~~~mask) ||| value) &&& mask = value := by
  have inside := congrArg UInt32.toBitVec inside
  apply UInt32.toBitVec_inj.mp
  simp only [UInt32.toBitVec_and, UInt32.toBitVec_or, UInt32.toBitVec_not] at inside ⊢
  ext i bound
  have here := congrArg (·[i]) inside
  simp only [BitVec.getElem_and, BitVec.getElem_or, BitVec.getElem_not] at here ⊢
  cases inMask : mask.toBitVec[i] <;> simp_all

/-- The last access set is the one that holds. -/
@[simp] theorem access_withAccess (modifiers : Modifiers) (access : Access) :
    (modifiers.withAccess access).access = access := by
  have low : (modifiers.withAccess access).bits &&& 7 = access.bits :=
    and_of_replaced _ _ _ (by cases access <;> rfl)
  rw [Modifiers.access, low]
  cases access <;> rfl

/-- Bits that were added are read back through themselves. -/
theorem and_of_added (bits added : UInt32) : (bits ||| added) &&& added = added := by
  apply UInt32.toBitVec_inj.mp
  simp only [UInt32.toBitVec_and, UInt32.toBitVec_or]
  ext i bound
  simpa using fun held => Or.inr held

/-- A modifier that was added is set. -/
@[simp] theorem has_add (modifiers : Modifiers) (modifier : Modifier) :
    (modifiers.add modifier).has modifier = true := by
  rw [has, add, and_of_added]
  cases modifier <;> rfl

end Modifiers

end ValueAnatomy
