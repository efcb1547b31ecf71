/-
**References to types, as written at a declaration.**

A field, a parameter or a return value is declared with a `TypeRef`. Only a named reference can
lead to a declared type; primitives, `void`, arrays and type variables never do.

* `TypeRef.text`: the reference as written;
* `TypeRef.erased`: what identities of members keep of it, without type arguments and without the
  names of type variables;
* `TypeRef.fullName?_eq_some_iff`: exactly the named references have a full name.
-/

namespace ValueAnatomy

/-- A primitive type. -/
inductive Primitive where
  | boolean | byte | char | short | int | long | float | double
  deriving DecidableEq, Repr

def Primitive.keyword : Primitive → String
  | boolean => "boolean"
  | byte => "byte"
  | char => "char"
  | short => "short"
  | int => "int"
  | long => "long"
  | float => "float"
  | double => "double"

def Primitive.all : List Primitive := [boolean, byte, char, short, int, long, float, double]

/-- The primitive type that a word stands for. -/
def Primitive.ofKeyword? (word : String) : Option Primitive :=
  all.find? (·.keyword == word)

/-- A type as written at a declaration. -/
inductive TypeRef where
  /-- No value, of a method's result only. -/
  | void
  | primitive (kind : Primitive)
  /-- A declared type by its full name, with the type arguments of a generic one. -/
  | named (fullName : String) (arguments : List TypeRef)
  | array (element : TypeRef)
  | typeVariable (name : String)
  deriving Repr

namespace TypeRef

/-- A declared type without type arguments. -/
def ofName (fullName : String) : TypeRef := named fullName []

def boolean : TypeRef := primitive .boolean

def int : TypeRef := primitive .int

/-- The reference that a single word stands for: `void`, a primitive, or else a declared type. -/
def ofWord (word : String) : TypeRef :=
  if word = "void" then void
  else
    match Primitive.ofKeyword? word with
    | some kind => primitive kind
    | none => ofName word

mutual

/-- The reference as written. -/
def text : TypeRef → String
  | void => "void"
  | primitive kind => kind.keyword
  | named fullName [] => fullName
  | named fullName (first :: rest) => fullName ++ "<" ++ first.text ++ textOfRest rest ++ ">"
  | array element => element.text ++ "[]"
  | typeVariable name => name

def textOfRest : List TypeRef → String
  | [] => ""
  | argument :: rest => ", " ++ argument.text ++ textOfRest rest

end

/-- What identities of members keep of a reference: no type arguments, and a question mark for any
type variable. -/
def erased : TypeRef → String
  | void => "void"
  | primitive kind => kind.keyword
  | named fullName _ => fullName
  | array element => element.erased ++ "[]"
  | typeVariable _ => "?"

def isVoid : TypeRef → Bool
  | void => true
  | _ => false

def isPrimitive : TypeRef → Bool
  | primitive _ => true
  | _ => false

/-- Whether the reference is the primitive `boolean` or the class that boxes it. -/
def isBoolean : TypeRef → Bool
  | primitive .boolean => true
  | named fullName _ => fullName == "java.lang.Boolean"
  | _ => false

def fullName? : TypeRef → Option String
  | named fullName _ => some fullName
  | _ => none

theorem fullName?_eq_some_iff {reference : TypeRef} {fullName : String} :
    reference.fullName? = some fullName ↔ ∃ arguments, reference = named fullName arguments := by
  cases reference <;> simp [fullName?]

@[simp] theorem fullName?_ofName (fullName : String) :
    (ofName fullName).fullName? = some fullName := rfl

/-! ### Equality -/

mutual

/-- Equality of references, decided along their structure. -/
def decideEq : (first second : TypeRef) → Decidable (first = second)
  | void, void => isTrue rfl
  | primitive kind, primitive kind' =>
    if same : kind = kind' then isTrue (congrArg primitive same)
    else isFalse fun equal => same (primitive.inj equal)
  | named fullName arguments, named fullName' arguments' =>
    if same : fullName = fullName' then
      match decideEqList arguments arguments' with
      | isTrue alike => isTrue (same ▸ alike ▸ rfl)
      | isFalse apart => isFalse fun equal => apart (named.inj equal).2
    else isFalse fun equal => same (named.inj equal).1
  | array element, array element' =>
    match decideEq element element' with
    | isTrue alike => isTrue (congrArg array alike)
    | isFalse apart => isFalse fun equal => apart (array.inj equal)
  | typeVariable name, typeVariable name' =>
    if same : name = name' then isTrue (congrArg typeVariable same)
    else isFalse fun equal => same (typeVariable.inj equal)
  | void, primitive _ | void, named _ _ | void, array _ | void, typeVariable _
  | primitive _, void | primitive _, named _ _ | primitive _, array _
  | primitive _, typeVariable _ | named _ _, void | named _ _, primitive _
  | named _ _, array _ | named _ _, typeVariable _ | array _, void | array _, primitive _
  | array _, named _ _ | array _, typeVariable _ | typeVariable _, void
  | typeVariable _, primitive _ | typeVariable _, named _ _ | typeVariable _, array _ =>
    isFalse nofun

def decideEqList : (first second : List TypeRef) → Decidable (first = second)
  | [], [] => isTrue rfl
  | reference :: rest, reference' :: rest' =>
    match decideEq reference reference' with
    | isTrue alike =>
      match decideEqList rest rest' with
      | isTrue restAlike => isTrue (alike ▸ restAlike ▸ rfl)
      | isFalse apart => isFalse fun equal => apart (List.cons.inj equal).2
    | isFalse apart => isFalse fun equal => apart (List.cons.inj equal).1
  | [], _ :: _ | _ :: _, [] => isFalse nofun

end

instance : DecidableEq TypeRef := decideEq

end TypeRef

end ValueAnatomy
