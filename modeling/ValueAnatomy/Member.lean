/-
**Members of types: fields, methods and constructors.**

Methods and constructors are both `CallableDecl`s. A member knows the full name of the type that
declares it; its key tells it from every other declaration.

* `CallableDecl.overrideKey`: name and erased parameters, by which a method takes the place of
  another in a supertype;
* `CallableFilter`, `selectCallables`: choosing among callables by what they are.
-/

import ValueAnatomy.Annotation
import ValueAnatomy.DeclKey
import ValueAnatomy.Modifiers
import ValueAnatomy.TypeRef

namespace ValueAnatomy

/-- A field declared on a type. -/
structure FieldDecl where
  handle : Handle
  /-- The full name of the declaring type. -/
  owner : String
  name : String
  modifiers : Modifiers
  type : TypeRef
  annotations : List Annotation
  deriving DecidableEq, Repr

namespace FieldDecl

def isPrivate (field : FieldDecl) : Bool := field.modifiers.isPrivate

/-- Whether the field belongs to the type rather than to its instances. -/
def isStatic (field : FieldDecl) : Bool := field.modifiers.has .static

def isTransient (field : FieldDecl) : Bool := field.modifiers.has .transient

def key (field : FieldDecl) : DeclKey :=
  ⟨.field, field.owner, field.name, field.type.erased⟩

end FieldDecl

/-- A parameter of a method or constructor. -/
structure Param where
  name : String
  type : TypeRef
  annotations : List Annotation := []
  deriving DecidableEq, Repr

/-- Whether a callable is a method or a constructor. -/
inductive CallableKind where
  | method | constructor
  deriving DecidableEq, Repr

namespace CallableKind

def declKind : CallableKind → DeclKind
  | method => .method
  | constructor => .constructor

def handleKind : CallableKind → HandleKind
  | method => .method
  | constructor => .constructor

end CallableKind

/-- The name that stands for a constructor. -/
def constructorName : String := "<init>"

/-- A method or constructor declared on a type. -/
structure CallableDecl where
  handle : Handle
  /-- The full name of the declaring type. -/
  owner : String
  kind : CallableKind
  /-- The name, `constructorName` for a constructor. -/
  name : String
  modifiers : Modifiers
  /-- The parameters, in order. -/
  params : List Param
  /-- The declared result, `void` for a constructor. -/
  returns : TypeRef
  annotations : List Annotation
  deriving DecidableEq, Repr

namespace CallableDecl

def isPrivate (callable : CallableDecl) : Bool := callable.modifiers.isPrivate

/-- Whether the callable belongs to the type rather than to its instances. -/
def isStatic (callable : CallableDecl) : Bool := callable.modifiers.has .static

/-- Whether a compiler made the callable, such as a bridge. -/
def isSynthetic (callable : CallableDecl) : Bool := callable.modifiers.has .synthetic

def isConstructor (callable : CallableDecl) : Bool := callable.kind == .constructor

def hasNoParams (callable : CallableDecl) : Bool := callable.params.isEmpty

/-- The erased parameter types in parentheses. -/
def erasedParams (callable : CallableDecl) : String :=
  "(" ++ String.intercalate ", " (callable.params.map (·.type.erased)) ++ ")"

/-- The parameter types as written, in parentheses. -/
def writtenParams (callable : CallableDecl) : String :=
  "(" ++ String.intercalate ", " (callable.params.map (·.type.text)) ++ ")"

def key (callable : CallableDecl) : DeclKey :=
  ⟨callable.kind.declKind, callable.owner, callable.name, callable.erasedParams⟩

/-- Name and erased parameters, by which one method takes the place of another. -/
def overrideKey (callable : CallableDecl) : String :=
  callable.name ++ callable.erasedParams

end CallableDecl

/-! ### Choosing among callables -/

/-- A condition on callables. -/
inductive CallableFilter where
  /-- Someone besides the declaring type may use it. -/
  | nonPrivate
  | static
  /-- It belongs to the instances. -/
  | onInstance
  | noParams
  /-- It returns something. -/
  | nonVoid
  | synthetic
  | named (name : String)
  | paramCount (count : Nat)
  /-- It is declared with exactly this result. -/
  | returning (returns : TypeRef)
  deriving DecidableEq, Repr

/-- Whether a callable meets a condition. -/
def CallableFilter.holds (callable : CallableDecl) : CallableFilter → Bool
  | nonPrivate => !callable.isPrivate
  | static => callable.isStatic
  | onInstance => !callable.isStatic
  | noParams => callable.hasNoParams
  | nonVoid => !callable.returns.isVoid
  | synthetic => callable.isSynthetic
  | named name => callable.name == name
  | paramCount count => callable.params.length == count
  | returning returns => callable.returns == returns

/-- The callables that meet every one of the conditions, in their order. -/
def selectCallables (filters : List CallableFilter) (callables : List CallableDecl) :
    List CallableDecl :=
  callables.filter fun callable => filters.all (·.holds callable)

theorem mem_selectCallables {filters : List CallableFilter} {callables : List CallableDecl}
    {callable : CallableDecl} :
    callable ∈ selectCallables filters callables ↔
      callable ∈ callables ∧ ∀ filter ∈ filters, filter.holds callable = true := by
  simp [selectCallables]

end ValueAnatomy
