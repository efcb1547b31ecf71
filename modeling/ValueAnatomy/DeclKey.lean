/-
**Keys: what makes a declaration the declaration it is.**

A key combines the full name of the declaring type with the member's name and its erased signature.
Two declarations are taken for the same one exactly if their keys are equal; keys are ordered by
kind, owner, name and signature, texts character by character.
-/

namespace ValueAnatomy

/-- The kinds of declarations that keys tell apart, in their order. -/
inductive DeclKind where
  | type | field | method | constructor
  deriving DecidableEq, Repr

namespace DeclKind

def all : List DeclKind := [type, field, method, constructor]

def name : DeclKind → String
  | type => "Type"
  | field => "Field"
  | method => "Method"
  | constructor => "Constructor"

def rank : DeclKind → Nat
  | type => 0
  | field => 1
  | method => 2
  | constructor => 3

end DeclKind

/-- What identifies a declaration across the catalog. -/
structure DeclKey where
  kind : DeclKind
  /-- The full name of the declaring type; of a type, its own. -/
  owner : String
  /-- The name of the member, empty for a type. -/
  name : String
  /-- The erased parameters of a callable, the erased type of a field. -/
  signature : String
  deriving DecidableEq, Repr

namespace DeclKey

/-- Keys are compared by kind, then owner, then name, then signature. -/
def compare (first second : DeclKey) : Ordering :=
  (compareOn DeclKind.rank first.kind second.kind).then <|
    (compareOn DeclKey.owner first second).then <|
      (compareOn DeclKey.name first second).then <|
        compareOn DeclKey.signature first second

/-- Whether a key stands before another or at the same place. -/
def precedes (first second : DeclKey) : Bool :=
  (compare first second).isLE

def sorted (keys : List DeclKey) : List DeclKey := keys.mergeSort precedes

def text (key : DeclKey) : String :=
  match key.kind with
  | .type => key.owner
  | .field => key.owner ++ "." ++ key.name ++ ":" ++ key.signature
  | .method | .constructor => key.owner ++ "." ++ key.name ++ key.signature

end DeclKey

end ValueAnatomy
