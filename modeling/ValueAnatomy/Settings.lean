/-
**Settings: the naming rules that an analysis goes by.**

Which methods read a property, which names belong to the platform and which verbs announce a
finished object are conventions, not laws. The defaults are those of ordinary classes.

* `Convention.strip`: the property name that an accessor's name stands for;
* `Settings.isPlatform`, `Settings.isBuildVerb`, `Settings.isExcludedAccessor`: what the settings
  say about a type or a name;
* `Convention.strip_eq_some_iff`: when an accessor follows a convention, and what is left of it.
-/

import ValueAnatomy.Text.Lowercase
import ValueAnatomy.Text.Uppercase
import ValueAnatomy.TypeDecl

namespace ValueAnatomy

/-- What follows the given beginning of a text, if the text begins so. -/
def afterStart? : (start text : List Char) → Option (List Char)
  | [], text => some text
  | _ :: _, [] => none
  | expected :: start, character :: text =>
    if expected = character then afterStart? start text else none

theorem afterStart?_eq_some_iff {start text rest : List Char} :
    afterStart? start text = some rest ↔ text = start ++ rest := by
  induction start generalizing text with
  | nil => simp [afterStart?]
  | cons expected start ih =>
    cases text with
    | nil => simp [afterStart?]
    | cons character text =>
      rw [afterStart?, List.cons_append, List.cons.injEq]
      split
      · rename_i same
        simp [ih, same]
      · rename_i apart
        simp [Ne.symm apart]

/-- Whether a text begins with another. -/
def startsWith (text start : String) : Bool :=
  start.toList.isPrefixOf text.toList

/-- A way of naming accessors. -/
structure Convention where
  /-- What stands in front of the property's name. -/
  lead : String
  /-- Whether only accessors of truth values are named so. -/
  booleanOnly : Bool := false
  deriving DecidableEq, Repr

namespace Convention

/-- The property name that an accessor's name stands for, if the accessor follows the convention:
behind the lead, at least `minLength` characters, and never none, of which the first is uppercase.
That one is lowered. -/
def strip (convention : Convention) (name : String) (returns : TypeRef) (minLength : Nat) :
    Option String :=
  if convention.booleanOnly && !returns.isBoolean then none
  else
    match afterStart? convention.lead.toList name.toList with
    | some (first :: rest) =>
      if minLength ≤ rest.length + 1 ∧ Text.isUppercase first then
        some (String.ofList (Text.lowercase first ++ rest))
      else none
    | _ => none

theorem strip_eq_some_iff {convention : Convention} {name stripped : String} {returns : TypeRef}
    {minLength : Nat} :
    convention.strip name returns minLength = some stripped ↔
      (convention.booleanOnly = true → returns.isBoolean = true) ∧
        ∃ first rest, name.toList = convention.lead.toList ++ first :: rest ∧
          minLength ≤ (first :: rest).length ∧ Text.isUppercase first = true ∧
          stripped = String.ofList (Text.lowercase first ++ rest) := by
  constructor
  · intro result
    rw [strip] at result
    split at result
    · simp at result
    · rename_i fits
      split at result
      · rename_i first rest split
        split at result
        · rename_i condition
          refine ⟨?_, first, rest, afterStart?_eq_some_iff.mp split, condition.1, condition.2,
            (Option.some.inj result).symm⟩
          intro only
          simpa [only] using fits
        · simp at result
      · simp at result
  · rintro ⟨fits, first, rest, written, long, capital, rfl⟩
    have admitted : (convention.booleanOnly && !returns.isBoolean) = false := by
      cases only : convention.booleanOnly
      · rfl
      · simp [fits only]
    have split := afterStart?_eq_some_iff.mpr written
    simp only [strip, admitted, split]
    simpa using ⟨long, capital⟩

end Convention

/-- How a report reacts to a problem. -/
inductive ReportMode where
  /-- The first reported problem is a failure. -/
  | failFast
  /-- Problems are collected, and the whole is a failure at the end. -/
  | batch
  deriving DecidableEq, Repr

def ReportMode.name : ReportMode → String
  | failFast => "FailFast"
  | batch => "Batch"

/-- The rules that an analysis goes by. -/
structure Settings where
  /-- The conventions for accessor names, the first that fits holds. -/
  conventions : List Convention := [⟨"is", true⟩, ⟨"get", false⟩]
  /-- How many characters must follow the lead of an accessor. -/
  minStrippedLength : Nat := 1
  /-- How the names of methods begin that finish a builder. -/
  buildVerbs : List String := ["build", "create"]
  /-- How the full names of platform types begin. -/
  platformLeads : List String := ["java.", "javax.", "kotlin."]
  /-- The methods every object has, which are never accessors. -/
  excludedAccessors : List String := ["hashCode", "toString", "clone", "getClass", "finalize"]
  /-- The annotation that singles out one creator among several. -/
  creatorMarker : Option String := none
  /-- How reports react to problems. -/
  reportMode : ReportMode := .batch
  deriving DecidableEq, Repr

namespace Settings

/-- Whether a full name belongs to the platform. -/
def isPlatformName (settings : Settings) (fullName : String) : Bool :=
  settings.platformLeads.any (startsWith fullName)

/-- Whether a type belongs to the platform, by its origin or by its name. -/
def isPlatform (settings : Settings) (type : TypeDecl) : Bool :=
  type.origin == .platform || settings.isPlatformName type.fullName

def isPlatformRef (settings : Settings) (reference : TypeRef) : Bool :=
  reference.fullName?.any settings.isPlatformName

/-- Whether a method's name begins with a verb that announces the finished object. -/
def isBuildVerb (settings : Settings) (name : String) : Bool :=
  settings.buildVerbs.any (startsWith name)

def isExcludedAccessor (settings : Settings) (name : String) : Bool :=
  settings.excludedAccessors.contains name

end Settings

end ValueAnatomy
