/-
**Annotations: instances attached to declarations.**

Every attached annotation is an instance of its own, identified by its handle: two annotations of
one type on different members are two instances, the same instance on two members is one.

* `Argument.sameValue`: equality of argument values, numbers compared as numbers;
* `Argument.text`, `Annotation.text`: how they are shown;
* `Annotation.same`: identity of instances.
-/

import ValueAnatomy.Binary64.Printer
import ValueAnatomy.Handle
import ValueAnatomy.Text.Quoted

namespace ValueAnatomy

/-- The value of an annotation's argument. -/
inductive Argument where
  | bool (value : Bool)
  | int (value : Int)
  | float (value : Binary64)
  | string (value : String)
  /-- A type, by its full name. -/
  | typeLiteral (fullName : String)
  /-- A constant of an enumeration, by the full name of the type and its own name. -/
  | constant (fullName name : String)
  | array (items : List Argument)
  deriving Repr

namespace Argument

mutual

/-- Equality of values; numbers are compared as numbers. -/
def sameValue : Argument → Argument → Bool
  | bool value, bool value' => value == value'
  | int value, int value' => value == value'
  | float value, float value' => value.sameValue value'
  | string value, string value' => value == value'
  | typeLiteral fullName, typeLiteral fullName' => fullName == fullName'
  | constant fullName name, constant fullName' name' => fullName == fullName' && name == name'
  | array items, array items' => sameValues items items'
  | _, _ => false

def sameValues : List Argument → List Argument → Bool
  | [], [] => true
  | item :: rest, item' :: rest' => item.sameValue item' && sameValues rest rest'
  | _, _ => false

end

mutual

/-- A value as shown: its kind, and the value in parentheses. -/
def text : Argument → String
  | bool value => "Bool(" ++ toString value ++ ")"
  | int value => "Int(" ++ toString value ++ ")"
  | float value => "Float(" ++ value.text ++ ")"
  | string value => "String(" ++ Text.quote value ++ ")"
  | typeLiteral fullName => "Type(" ++ Text.quote fullName ++ ")"
  | constant fullName name => "Enum(" ++ Text.quote fullName ++ ", " ++ Text.quote name ++ ")"
  | array [] => "Array([])"
  | array (first :: rest) => "Array([" ++ first.text ++ textOfRest rest ++ "])"

def textOfRest : List Argument → String
  | [] => ""
  | item :: rest => ", " ++ item.text ++ textOfRest rest

end

/-! ### Identity of written values -/

mutual

/-- Equality of values as data, decided along their structure. -/
def decideEq : (first second : Argument) → Decidable (first = second)
  | bool value, bool value' =>
    if same : value = value' then isTrue (congrArg bool same)
    else isFalse fun equal => same (bool.inj equal)
  | int value, int value' =>
    if same : value = value' then isTrue (congrArg int same)
    else isFalse fun equal => same (int.inj equal)
  | float value, float value' =>
    if same : value = value' then isTrue (congrArg float same)
    else isFalse fun equal => same (float.inj equal)
  | string value, string value' =>
    if same : value = value' then isTrue (congrArg string same)
    else isFalse fun equal => same (string.inj equal)
  | typeLiteral fullName, typeLiteral fullName' =>
    if same : fullName = fullName' then isTrue (congrArg typeLiteral same)
    else isFalse fun equal => same (typeLiteral.inj equal)
  | constant fullName name, constant fullName' name' =>
    if same : fullName = fullName' ∧ name = name' then isTrue (same.1 ▸ same.2 ▸ rfl)
    else isFalse fun equal => same (constant.inj equal)
  | array items, array items' =>
    match decideEqList items items' with
    | isTrue alike => isTrue (congrArg array alike)
    | isFalse apart => isFalse fun equal => apart (array.inj equal)
  | bool _, int _ | bool _, float _ | bool _, string _ | bool _, typeLiteral _
  | bool _, constant _ _ | bool _, array _ | int _, bool _ | int _, float _ | int _, string _
  | int _, typeLiteral _ | int _, constant _ _ | int _, array _ | float _, bool _
  | float _, int _ | float _, string _ | float _, typeLiteral _ | float _, constant _ _
  | float _, array _ | string _, bool _ | string _, int _ | string _, float _
  | string _, typeLiteral _ | string _, constant _ _ | string _, array _
  | typeLiteral _, bool _ | typeLiteral _, int _ | typeLiteral _, float _
  | typeLiteral _, string _ | typeLiteral _, constant _ _ | typeLiteral _, array _
  | constant _ _, bool _ | constant _ _, int _ | constant _ _, float _ | constant _ _, string _
  | constant _ _, typeLiteral _ | constant _ _, array _ | array _, bool _ | array _, int _
  | array _, float _ | array _, string _ | array _, typeLiteral _ | array _, constant _ _ =>
    isFalse nofun

def decideEqList : (first second : List Argument) → Decidable (first = second)
  | [], [] => isTrue rfl
  | item :: rest, item' :: rest' =>
    match decideEq item item' with
    | isTrue alike =>
      match decideEqList rest rest' with
      | isTrue restAlike => isTrue (alike ▸ restAlike ▸ rfl)
      | isFalse apart => isFalse fun equal => apart (List.cons.inj equal).2
    | isFalse apart => isFalse fun equal => apart (List.cons.inj equal).1
  | [], _ :: _ | _ :: _, [] => isFalse nofun

end

instance : DecidableEq Argument := decideEq

end Argument

/-- One attached annotation. -/
structure Annotation where
  handle : Handle
  /-- The full name of the annotation's type. -/
  typeName : String
  /-- The named arguments, in the order of declaration. -/
  arguments : List (String × Argument) := []
  deriving DecidableEq, Repr

namespace Annotation

/-- The first argument of a name. -/
def argument? (attached : Annotation) (name : String) : Option Argument :=
  (attached.arguments.find? (·.1 == name)).map (·.2)

def isOf (attached : Annotation) (typeName : String) : Bool :=
  attached.typeName == typeName

def same (first second : Annotation) : Bool :=
  first.handle == second.handle

/-- The annotation as shown: its type behind an at sign, and the arguments in parentheses. -/
def text (attached : Annotation) : String :=
  let arguments := attached.arguments.map fun (name, value) => name ++ " = " ++ value.text
  "@" ++ attached.typeName ++
    (if arguments.isEmpty then "" else "(" ++ String.intercalate ", " arguments ++ ")")

/-- Whether one of the annotations is of the given type. -/
def anyOf (annotations : List Annotation) (typeName : String) : Bool :=
  annotations.any (·.isOf typeName)

end Annotation

end ValueAnatomy
