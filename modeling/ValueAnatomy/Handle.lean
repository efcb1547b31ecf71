/-
**Handles: what identifies a declaration or an annotation.**

A handle is a number of thirty-two bits. Its high byte tells what kind of thing it stands for, its
low twenty-four bits count the things of that kind.

* `Handle.ofIndex`: the handle of the so-manieth thing of a kind;
* `Handle.kind?_ofIndex`, `Handle.index_ofIndex`: what a handle was made from can be read off it,
  the index modulo 2²⁴.
-/

import ValueAnatomy.Text.Hex

namespace ValueAnatomy

/-- What kind of thing a handle stands for. -/
inductive HandleKind where
  | type
  | field
  /-- A method, static or not. -/
  | method
  | constructor
  /-- One attached annotation. -/
  | attachment
  deriving DecidableEq, Repr

namespace HandleKind

def all : List HandleKind := [type, field, method, constructor, attachment]

/-- The high byte of the handles of a kind. -/
def tag : HandleKind → Nat
  | type => 0x02
  | field => 0x04
  | method => 0x06
  | constructor => 0x0A
  | attachment => 0x0C

def name : HandleKind → String
  | type => "Type"
  | field => "Field"
  | method => "Method"
  | constructor => "Constructor"
  | attachment => "Annotation"

def ofTag? (tag : Nat) : Option HandleKind :=
  all.find? (·.tag == tag)

theorem tag_lt (kind : HandleKind) : kind.tag < 0x100 := by
  cases kind <;> decide

@[simp] theorem ofTag?_tag (kind : HandleKind) : ofTag? kind.tag = some kind := by
  cases kind <;> rfl

end HandleKind

/-- What identifies a declaration or an annotation. -/
structure Handle where
  /-- The kind in the high byte, the index below it. -/
  code : UInt32
  deriving DecidableEq, Repr

namespace Handle

/-- The number of indices that a handle can tell apart. -/
def indexCount : Nat := 0x1000000

/-- The handle of a kind with the given index, of which the low twenty-four bits count. -/
def ofIndex (kind : HandleKind) (index : Nat) : Handle :=
  ⟨UInt32.ofNat (kind.tag * indexCount + index % indexCount)⟩

/-- The kind of thing that the handle stands for, if its high byte is one of the known ones. -/
def kind? (handle : Handle) : Option HandleKind :=
  HandleKind.ofTag? (handle.code.toNat / indexCount)

/-- The low twenty-four bits. -/
def index (handle : Handle) : Nat :=
  handle.code.toNat % indexCount

def isNull (handle : Handle) : Bool :=
  handle.code == 0

def precedes (first second : Handle) : Bool :=
  first.code ≤ second.code

def sorted (handles : List Handle) : List Handle := handles.mergeSort precedes

/-- The text of a handle: eight hexadecimal digits. -/
def text (handle : Handle) : String :=
  "0x" ++ Text.hexPadded 8 handle.code.toNat

/-- The text of a handle together with what it is made of. -/
def description (handle : Handle) : String :=
  let kind :=
    match handle.kind? with
    | some kind => "Some(" ++ kind.name ++ ")"
    | none => "None"
  "Token(" ++ handle.text ++ ", kind: " ++ kind ++ ", index: " ++ toString handle.index ++ ")"

theorem toNat_ofIndex (kind : HandleKind) (index : Nat) :
    (ofIndex kind index).code.toNat = kind.tag * indexCount + index % indexCount := by
  have bound := kind.tag_lt
  have small : kind.tag * indexCount + index % indexCount < 2 ^ 32 := by
    simp only [indexCount]; omega
  simp only [ofIndex, UInt32.toNat_ofNat']
  exact Nat.mod_eq_of_lt small

@[simp] theorem kind?_ofIndex (kind : HandleKind) (index : Nat) :
    (ofIndex kind index).kind? = some kind := by
  have quotient : (ofIndex kind index).code.toNat / indexCount = kind.tag := by
    rw [toNat_ofIndex]; simp only [indexCount]; omega
  rw [kind?, quotient, HandleKind.ofTag?_tag]

@[simp] theorem index_ofIndex (kind : HandleKind) (index : Nat) :
    (ofIndex kind index).index = index % indexCount := by
  rw [Handle.index, toNat_ofIndex]; simp only [indexCount]; omega

/-- Handles of a kind stand in the order of their indices, as long as these are told apart. -/
theorem code_ofIndex_lt (kind : HandleKind) {first second : Nat} (less : first < second)
    (told : second < indexCount) : (ofIndex kind first).code < (ofIndex kind second).code := by
  rw [UInt32.lt_iff_toNat_lt, toNat_ofIndex, toNat_ofIndex, Nat.mod_eq_of_lt told,
    Nat.mod_eq_of_lt (Nat.lt_trans less told)]
  omega

end Handle

end ValueAnatomy
