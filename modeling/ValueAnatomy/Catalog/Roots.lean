/-
**The types every program starts with.**

The root class with the methods that every object has, and the class of texts. Both belong to the
platform. `Catalog.initial_findByName?_object`: the root class is found under its name.
-/

import ValueAnatomy.TypeSpec

namespace ValueAnatomy

/-- The keyword that opens a declaration to everyone. -/
def publicKeyword : Keyword := .access .everyone

/-- The keyword that opens a declaration to package and subtypes. -/
def protectedKeyword : Keyword := .access .subtypes

/-- The root class. -/
def objectSpec : TypeSpec :=
  .mk
    { package := "java.lang"
      name := "Object"
      keywords := [publicKeyword]
      origin := .platform
      base := .absent
      constructors := [{ name := constructorName, keywords := [publicKeyword] }]
      methods :=
        [{ name := "hashCode", keywords := [publicKeyword], returns := .int },
          { name := "equals"
            keywords := [publicKeyword]
            params := [{ name := "other", type := .ofName objectName }]
            returns := .boolean },
          { name := "toString", keywords := [publicKeyword], returns := .ofName stringName },
          { name := "getClass"
            keywords := [publicKeyword, .modifier .final]
            returns := .ofName "java.lang.Class" },
          { name := "clone", keywords := [protectedKeyword], returns := .ofName objectName },
          { name := "finalize", keywords := [protectedKeyword] }] }
    []

/-- The class of texts. -/
def stringSpec : TypeSpec :=
  .mk
    { package := "java.lang"
      name := "String"
      keywords := [publicKeyword, .modifier .final]
      origin := .platform
      constructors := [{ name := constructorName, keywords := [publicKeyword] }]
      methods :=
        [{ name := "length", keywords := [publicKeyword], returns := .int },
          { name := "isEmpty", keywords := [publicKeyword], returns := .boolean }] }
    []

namespace Catalog

/-- The catalog with the types every program starts with. -/
def initial : Catalog :=
  [objectSpec, stringSpec].foldl (fun catalog spec => (catalog.declare spec).2) empty

theorem initial_findByName?_object :
    (initial.findByName? objectName).map (·.fullName) = some objectName := by
  decide

end Catalog

end ValueAnatomy
