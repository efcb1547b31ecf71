/-
**The journal: what an analysis notes on its way.**

An analysis answers with a value and leaves notes behind: why a member was passed over, which names
it could not resolve, what it chose. A `Traced` value carries its notes in the order in which they
were made, and an `Attempt` is a traced value that may be a failure instead; notes made before a
failure stay.

* `Note.level`, `Note.message`: how grave a note is, and its words;
* `Traced.value_bind`, `Traced.notes_bind`: a later computation never changes earlier notes;
* `Attempt.result`: the outcome without the notes, with one equation per operation.
-/

import ValueAnatomy.Problem

namespace ValueAnatomy

/-- How grave a note is. -/
inductive Level where
  | error | warn | debug | trace
  deriving DecidableEq, Repr

namespace Level

def name : Level → String
  | error => "ERROR"
  | warn => "WARN"
  | debug => "DEBUG"
  | trace => "TRACE"

def all : List Level := [error, warn, debug, trace]

def rank : Level → Nat
  | error => 0
  | warn => 1
  | debug => 2
  | trace => 3

end Level

/-- Something an analysis notes on its way. -/
inductive Note where
  /-- A supertype is not in the catalog. -/
  | supertypeUnresolved (supertype : TypeRef) (subtype : String)
  /-- The result of a method that might finish a builder is not in the catalog. -/
  | resultUnresolved (returns : TypeRef) (owner name : String)
  /-- A type has no method that finishes it. -/
  | noFinisher (builder : String)
  /-- Several methods might finish a builder, so many of them named for it. -/
  | severalFinishers (count : Nat) (builder : String) (conventional : Nat)
  /-- A nested type is passed over, for it is no builder. -/
  | notBuilder (nested : String)
  /-- A nested type is passed over, for it builds something else. -/
  | buildsOther (nested : String) (built : TypeRef) (target : String)
  /-- So many creators were found. -/
  | candidatesFound (count : Nat) (type : String)
  /-- A route was chosen. -/
  | routeChosen (route type : String)
  /-- A field hides one of the platform. -/
  | hidesPlatformField (owner name : String)
  /-- A field is hidden by one of a subtype. -/
  | fieldShadowed (owner name : String)
  /-- A method takes the place of one of the platform. -/
  | overridesPlatformMethod (owner overrideKey : String)
  /-- A method is replaced by one of a subtype. -/
  | methodOverridden (owner name : String)
  /-- A method reads no property. -/
  | notAccessor (owner name : String)
  /-- A setter is replaced by one of a subtype. -/
  | setterOverridden (owner name : String)
  /-- The accessors keep their names, for one of them follows no convention. -/
  | namesKept
  /-- A setter is dropped, for a parameter has its name. -/
  | setterDuplicatesParam (name : String)
  /-- A failure or a report told its problems to the journal. -/
  | told (message : String) (element : Option Declaration)
  deriving DecidableEq, Repr

namespace Note

def level : Note → Level
  | told _ _ => .error
  | supertypeUnresolved _ _ | resultUnresolved _ _ _ => .warn
  | noFinisher _ | severalFinishers _ _ _ | candidatesFound _ _ | routeChosen _ _ | namesKept
  | setterDuplicatesParam _ => .debug
  | notBuilder _ | buildsOther _ _ _ | hidesPlatformField _ _ | fieldShadowed _ _
  | overridesPlatformMethod _ _ | methodOverridden _ _ | notAccessor _ _
  | setterOverridden _ _ => .trace

def message : Note → String
  | supertypeUnresolved supertype subtype =>
    "supertype " ++ supertype.text ++ " of " ++ subtype ++ " cannot be resolved"
  | resultUnresolved returns owner name =>
    "return type " ++ returns.text ++ " of " ++ owner ++ "." ++ name ++ " cannot be resolved"
  | noFinisher builder => "no build method on " ++ builder
  | severalFinishers count builder conventional =>
    toString count ++ " build method candidates on " ++ builder ++ " (" ++
      toString conventional ++ " conventionally named), none selected"
  | notBuilder nested => "nested type " ++ nested ++ " is not a builder"
  | buildsOther nested built target =>
    "nested type " ++ nested ++ " builds " ++ built.text ++ ", not " ++ target
  | candidatesFound count type => toString count ++ " creator candidate(s) for " ++ type
  | routeChosen route type => "selected " ++ route ++ " for " ++ type
  | hidesPlatformField owner name => owner ++ "." ++ name ++ " hides a platform field"
  | fieldShadowed owner name => owner ++ "." ++ name ++ " is shadowed"
  | overridesPlatformMethod owner overrideKey =>
    owner ++ "." ++ overrideKey ++ " overrides a platform method"
  | methodOverridden owner name => owner ++ "." ++ name ++ " is overridden"
  | notAccessor owner name => owner ++ "." ++ name ++ " is not an accessor"
  | setterOverridden owner name => "setter " ++ owner ++ "." ++ name ++ " is overridden"
  | namesKept => "accessors do not follow a naming convention, keeping names"
  | setterDuplicatesParam name => "setter " ++ name ++ " duplicates a constructor parameter"
  | told message element => located message element

/-- Those of the notes that are at least as grave as a level. -/
def upTo (level : Level) (notes : List Note) : List Note :=
  notes.filter fun note => note.level.rank ≤ level.rank

end Note

/-! ### Values with notes -/

/-- A value together with the notes made on the way to it. -/
structure Traced (α : Type) where
  value : α
  /-- The notes, the first made first. -/
  notes : List Note := []

namespace Traced

variable {α β : Type}

instance : Monad Traced where
  pure value := ⟨value, []⟩
  bind first next := ⟨(next first.value).value, first.notes ++ (next first.value).notes⟩

def note (note : Note) : Traced Unit := ⟨(), [note]⟩

def noteAll (notes : List Note) : Traced Unit := ⟨(), notes⟩

/-- Tells messages, each at the declaration it points at. -/
def tell (entries : List (String × Option Declaration)) : Traced Unit :=
  noteAll (entries.map fun entry => .told entry.1 entry.2)

@[simp] theorem value_pure (value : α) : (pure value : Traced α).value = value := rfl

@[simp] theorem notes_pure (value : α) : (pure value : Traced α).notes = [] := rfl

@[simp] theorem value_bind (first : Traced α) (next : α → Traced β) :
    (first >>= next).value = (next first.value).value := rfl

@[simp] theorem notes_bind (first : Traced α) (next : α → Traced β) :
    (first >>= next).notes = first.notes ++ (next first.value).notes := rfl

instance : LawfulMonad Traced := LawfulMonad.mk' Traced
  (fun _ => by simp [Functor.map])
  (fun _ _ => by simp [bind, pure])
  (fun _ _ _ => by simp [bind, List.append_assoc])

end Traced

/-- A traced value that may be a failure instead. -/
abbrev Attempt := ExceptT Failure Traced

namespace Attempt

variable {α β : Type}

/-- The outcome without the notes. -/
def result (attempt : Attempt α) : Except Failure α := attempt.run.value

def note (note : Note) : Attempt Unit := ExceptT.lift (Traced.note note)

def ofTraced (traced : Traced α) : Attempt α := ExceptT.lift traced

def fail (failure : Failure) : Attempt α := throw failure

@[simp] theorem result_pure (value : α) : (pure value : Attempt α).result = .ok value := rfl

@[simp] theorem result_fail (failure : Failure) :
    (fail failure : Attempt α).result = .error failure := rfl

@[simp] theorem result_ofTraced (traced : Traced α) :
    (ofTraced traced).result = .ok traced.value := rfl

@[simp] theorem result_note (made : Note) : (note made).result = .ok () := rfl

@[simp] theorem result_bind (first : Attempt α) (next : α → Attempt β) :
    (first >>= next).result = first.result.bind fun value => (next value).result := by
  change (Traced.value (ExceptT.run first >>= ExceptT.bindCont next)) = _
  rw [Traced.value_bind]
  unfold result ExceptT.run
  cases Traced.value first <;> rfl

/-- One attempt after another succeeds exactly if both do. -/
theorem result_bind_eq_ok_iff {first : Attempt α} {next : α → Attempt β} {value : β} :
    (first >>= next).result = .ok value ↔
      ∃ between, first.result = .ok between ∧ (next between).result = .ok value := by
  rw [result_bind]
  cases first.result <;> simp [Except.bind]

/-- What follows an attempt that succeeds decides the outcome. -/
theorem result_bind_of_ok {first : Attempt α} {between : α}
    (succeeds : first.result = .ok between) (next : α → Attempt β) :
    (first >>= next).result = (next between).result := by
  rw [result_bind, succeeds]
  rfl

/-- An attempt whose continuation cannot fail ends as the first part does, its value passed on. -/
theorem result_bind_eq_map {first : Attempt α} {next : α → Attempt β} {map : α → β}
    (succeeds : ∀ value, (next value).result = .ok (map value)) :
    (first >>= next).result = first.result.map map := by
  rw [result_bind]
  cases first.result with
  | error failure => rfl
  | ok value => exact succeeds value

/-- An outcome of which something is shown has a value, and of that it is shown. -/
theorem exists_eq_ok_of_shown {outcome : Except Failure α} {view : α → β} {seen : β}
    (shown : outcome.toOption.map view = some seen) :
    ∃ value, outcome = .ok value ∧ view value = seen := by
  cases outcome with
  | error failure => cases shown
  | ok value => exact ⟨value, rfl, Option.some.inj shown⟩

end Attempt

end ValueAnatomy
