/-
**Drafts: types described part by part.**

A draft says everything about a type and its members but for handles and owners, which may be left
open. Entering it into a catalog fills these in: an open owner is the type itself, and an open
handle is the next one of its kind, given out to the fields, then the constructors, then the methods
and at last to the type.
-/

import ValueAnatomy.Catalog

namespace ValueAnatomy

/-- A field with its handle and owner perhaps left open. -/
structure FieldDraft where
  handle : Option Handle := none
  owner : Option String := none
  name : String
  modifiers : Modifiers := .none
  type : TypeRef
  annotations : List Annotation := []
  deriving DecidableEq, Repr

/-- A callable with its handle and owner perhaps left open. -/
structure CallableDraft where
  handle : Option Handle := none
  owner : Option String := none
  kind : CallableKind
  name : String
  modifiers : Modifiers := .none
  params : List Param := []
  returns : TypeRef := .void
  annotations : List Annotation := []
  deriving DecidableEq, Repr

/-- A type with its own handle perhaps left open. -/
structure TypeDraft where
  handle : Option Handle := none
  package : String := ""
  name : String
  modifiers : Modifiers := .none
  origin : Origin := .ownCode
  base : Option TypeRef := none
  interfaces : List TypeRef := []
  enclosing : Option TypeRef := none
  fields : List FieldDraft := []
  constructors : List CallableDraft := []
  methods : List CallableDraft := []
  nested : List TypeRef := []
  annotations : List Annotation := []
  deriving DecidableEq, Repr

namespace Catalog

/-- The handle that is given, or else the next one of the kind. -/
def mintUnless (catalog : Catalog) (given : Option Handle) (kind : HandleKind) :
    Handle × Catalog :=
  match given with
  | some handle => (handle, catalog)
  | none => catalog.mint kind

/-- Fills in what the drafts of fields leave open. -/
def fillFields (owner : String) : List FieldDraft → Catalog → List FieldDecl × Catalog
  | [], catalog => ([], catalog)
  | draft :: rest, catalog =>
    let (handle, catalog) := catalog.mintUnless draft.handle .field
    let (fields, catalog) := fillFields owner rest catalog
    ({ handle
       owner := draft.owner.getD owner
       name := draft.name
       modifiers := draft.modifiers
       type := draft.type
       annotations := draft.annotations } :: fields, catalog)

/-- Fills in what the drafts of callables leave open. -/
def fillCallables (owner : String) : List CallableDraft → Catalog → List CallableDecl × Catalog
  | [], catalog => ([], catalog)
  | draft :: rest, catalog =>
    let (handle, catalog) := catalog.mintUnless draft.handle draft.kind.handleKind
    let (callables, catalog) := fillCallables owner rest catalog
    ({ handle
       owner := draft.owner.getD owner
       kind := draft.kind
       name := draft.name
       modifiers := draft.modifiers
       params := draft.params
       returns := draft.returns
       annotations := draft.annotations } :: callables, catalog)

/-- The type that a draft comes to, and the catalog that has given out its handles. -/
def fill (catalog : Catalog) (draft : TypeDraft) : TypeDecl × Catalog :=
  let owner := qualified draft.package draft.name
  let (fields, catalog) := fillFields owner draft.fields catalog
  let (constructors, catalog) := fillCallables owner draft.constructors catalog
  let (methods, catalog) := fillCallables owner draft.methods catalog
  let (handle, catalog) := catalog.mintUnless draft.handle .type
  ({ handle
     package := draft.package
     name := draft.name
     modifiers := draft.modifiers
     origin := draft.origin
     base := draft.base
     interfaces := draft.interfaces
     enclosing := draft.enclosing
     fields
     constructors
     methods
     nested := draft.nested
     annotations := draft.annotations }, catalog)

/-- Enters a draft. The handles that were given out for it stay so even if its name is taken. -/
def enter (catalog : Catalog) (draft : TypeDraft) : Except Failure TypeDecl × Catalog :=
  let (type, catalog) := catalog.fill draft
  match catalog.insert? type with
  | .error failure => (.error failure, catalog)
  | .ok grown => (.ok type, grown)

end Catalog

end ValueAnatomy
