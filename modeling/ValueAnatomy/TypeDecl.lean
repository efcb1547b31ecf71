/-
**Declared types and declarations of every kind.**

A `TypeDecl` holds a type together with its members. Its supertypes, nested types and enclosing
type are references by name, so that no declaration contains another type. A `Declaration` is a
type or a member of one: what an analysis may start from and what a problem points at.

* `TypeDecl.fullName`: package and simple name, joined by a dot;
* `Declaration.key`: by which two declarations are the same;
* `Declaration.text`: how a declaration is shown.
-/

import ValueAnatomy.Member

namespace ValueAnatomy

/-- Where a type comes from. -/
inductive Origin where
  /-- The code under analysis. -/
  | ownCode
  | library
  /-- The platform that every program runs on. -/
  | platform
  deriving DecidableEq, Repr

def Origin.name : Origin → String
  | ownCode => "Local"
  | library => "External"
  | platform => "Platform"

/-- A simple name inside a package, which may be the unnamed one. -/
def qualified (package name : String) : String :=
  if package = "" then name else package ++ "." ++ name

/-- A declared type with its members. -/
structure TypeDecl where
  handle : Handle
  /-- The package, empty for the unnamed one. -/
  package : String
  /-- The simple name; of a nested type, behind those of the types around it. -/
  name : String
  modifiers : Modifiers
  origin : Origin
  base : Option TypeRef
  /-- The interfaces, in the order of declaration. -/
  interfaces : List TypeRef
  /-- The type immediately around a nested one. -/
  enclosing : Option TypeRef
  fields : List FieldDecl
  constructors : List CallableDecl
  methods : List CallableDecl
  /-- The types nested immediately inside. -/
  nested : List TypeRef
  annotations : List Annotation
  deriving DecidableEq, Repr

namespace TypeDecl

/-- The name by which the type is looked up. -/
def fullName (type : TypeDecl) : String :=
  qualified type.package type.name

def reference (type : TypeDecl) : TypeRef :=
  .ofName type.fullName

def isPrivate (type : TypeDecl) : Bool := type.modifiers.isPrivate

/-- Whether a nested type needs no enclosing instance, as interfaces never do. -/
def isStatic (type : TypeDecl) : Bool :=
  type.modifiers.has .static || type.modifiers.has .interface

def isRecord (type : TypeDecl) : Bool := type.modifiers.has .record

def isInterface (type : TypeDecl) : Bool := type.modifiers.has .interface

/-- Whether the type cannot be instantiated itself. -/
def isAbstract (type : TypeDecl) : Bool := type.modifiers.has .abstract

/-- The supertypes as declared, the superclass first. -/
def supertypes (type : TypeDecl) : List TypeRef :=
  type.base.toList ++ type.interfaces

def key (type : TypeDecl) : DeclKey :=
  ⟨.type, type.fullName, "", ""⟩

def same (first second : TypeDecl) : Bool :=
  first.handle == second.handle

end TypeDecl

/-- A declaration of any kind. -/
inductive Declaration where
  | type (decl : TypeDecl)
  | field (decl : FieldDecl)
  /-- A callable, looked upon as a method. -/
  | method (decl : CallableDecl)
  /-- A callable, looked upon as a constructor. -/
  | constructor (decl : CallableDecl)
  deriving DecidableEq, Repr

namespace Declaration

/-- The declaration of a callable, looked upon as what it is. -/
def ofCallable (callable : CallableDecl) : Declaration :=
  match callable.kind with
  | .method => method callable
  | .constructor => constructor callable

/-- As what the declaration is looked upon. -/
def kind : Declaration → DeclKind
  | type _ => .type
  | field _ => .field
  | method _ => .method
  | constructor _ => .constructor

def handle : Declaration → Handle
  | type decl => decl.handle
  | field decl => decl.handle
  | method decl | constructor decl => decl.handle

def key : Declaration → DeclKey
  | type decl => decl.key
  | field decl => decl.key
  | method decl | constructor decl => decl.key

/-- The annotations written at the declaration. -/
def annotations : Declaration → List Annotation
  | type decl => decl.annotations
  | field decl => decl.annotations
  | method decl | constructor decl => decl.annotations

def same (first second : Declaration) : Bool :=
  first.key == second.key

/-- The declaration as shown to a reader. -/
def text : Declaration → String
  | type decl => decl.fullName
  | field decl => decl.owner ++ "." ++ decl.name
  | method decl => decl.owner ++ "." ++ decl.name ++ decl.writtenParams
  | constructor decl => decl.owner ++ decl.writtenParams

@[simp] theorem key_ofCallable (callable : CallableDecl) :
    (ofCallable callable).key = callable.key := by
  rw [ofCallable]; split <;> rfl

@[simp] theorem handle_ofCallable (callable : CallableDecl) :
    (ofCallable callable).handle = callable.handle := by
  rw [ofCallable]; split <;> rfl

end Declaration

end ValueAnatomy
