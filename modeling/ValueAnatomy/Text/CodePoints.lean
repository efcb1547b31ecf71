/-
**Sets of code points, written as sorted strides.**

A `Stride` is an arithmetic progression of code points: every `step`-th one from `first` to
`last`. A `CodePoints` is a list of strides sorted by their first member and apart from each
other, which is the form in which the properties of the character database are tabulated here.

* `Stride.mem_iff`: what a stride contains;
* `CodePoints.contains`: the look-up, which stops at the first stride that begins past the sought
  code point.
-/

namespace ValueAnatomy.Text

/-- Every `step`-th code point from `first` to `last`. -/
structure Stride where
  /-- The least member. -/
  first : Nat
  /-- The greatest member. -/
  last : Nat
  /-- The distance between neighbours. -/
  step : Nat := 1
  deriving DecidableEq, Repr

/-- Whether a code point lies on the stride. -/
def Stride.contains (stride : Stride) (code : Nat) : Bool :=
  stride.first ≤ code && code ≤ stride.last && (code - stride.first) % stride.step == 0

theorem Stride.mem_iff (stride : Stride) (code : Nat) :
    stride.contains code = true ↔
      stride.first ≤ code ∧ code ≤ stride.last ∧ (code - stride.first) % stride.step = 0 := by
  simp [Stride.contains, and_assoc]

/-- Strides sorted by their first member, no two of which overlap. -/
abbrev CodePoints := List Stride

/-- Whether a code point lies on one of the strides. The strides are sorted, so the first one that
begins past the code point ends the search. -/
def CodePoints.contains : CodePoints → Nat → Bool
  | [], _ => false
  | stride :: rest, code =>
    if code < stride.first then false
    else stride.contains code || CodePoints.contains rest code

/-- What lies on the first stride is found. -/
theorem CodePoints.contains_of_head? {points : CodePoints} (stride : Stride) {code : Nat}
    (head : points.head? = some stride) (member : stride.contains code = true) :
    points.contains code = true := by
  match points, head with
  | _ :: _, rfl =>
    have start : ¬ code < stride.first := Nat.not_lt.mpr ((stride.mem_iff code).mp member).1
    simp [CodePoints.contains, start, member]

end ValueAnatomy.Text
