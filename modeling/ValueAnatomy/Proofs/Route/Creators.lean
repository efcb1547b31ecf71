/-
**The creators of a type, and what the usual policy makes of them.**

The creators are listed here one rule at a time, without notes and failures: the constructors and
static methods of the type, and those that start each of its nested builders, a lone constructor
without parameters only where the list of its type, or of its builder, is empty otherwise.

* `Provider.creators`: the list;
* `Resolver.result_candidates`: what is enumerated is this list, as long as no nested type goes too
  deep;
* `Resolver.resolve_byMarker`: a type is resolved to its lone creator, or to the only one that
  carries the marker, and otherwise fails for want of creators or for each of them.
-/

import ValueAnatomy.Proofs.Ancestry.Walk
import ValueAnatomy.Route.Resolver
import ValueAnatomy.TypeSpec

namespace ValueAnatomy

namespace Provider

/-! ### The list of creators -/

/-- The constructor that is held back: the only one of a type that can be instantiated, if it is not
private and takes no parameters. -/
def heldBack? (provider : Provider) (type : TypeDecl) : Option CallableDecl :=
  (sole? (provider.members type).constructors).filter fun only =>
    !type.isAbstract && !only.isPrivate && only.hasNoParams

/-- The other constructors of a type that can be instantiated, as far as they are not private. -/
def openConstructors (provider : Provider) (type : TypeDecl) : List CallableDecl :=
  if type.isAbstract || (provider.heldBack? type).isSome then []
  else (provider.members type).constructors.filter fun callable => !callable.isPrivate

/-- The static methods of a type that return another, as far as they are not private. -/
def openFactories (provider : Provider) (declaring result : TypeDecl) : List CallableDecl :=
  (provider.members declaring).methods.filter fun method =>
    !method.isPrivate && method.isStatic && provider.returnsType method result

/-- The method by which a static nested type that is not private builds the target. -/
def builds? (provider : Provider) (settings : Settings) (target nested : TypeDecl) :
    Option CallableDecl :=
  if nested.isPrivate || !nested.isStatic then none
  else
    match (provider.finisher? settings nested).result with
    | .ok finisher? => finisher?.filter (provider.returnsType · target)
    | .error _ => none

/-- The creators of a target that lead through one of its nested types. -/
def creatorsThrough (provider : Provider) (settings : Settings) (target nested : TypeDecl) :
    List Route :=
  match provider.builds? settings target nested with
  | none => []
  | some finisher =>
    let starting (start : Start) (callable : CallableDecl) : Route :=
      { target, start, callable, step := some ⟨nested, finisher⟩ }
    match (provider.openConstructors nested).map (starting .constructor) ++
        (provider.openFactories target nested).map (starting .factory) with
    | [] => (provider.heldBack? nested).toList.map (starting .constructor)
    | found => found

/-- **The creators of a type.** -/
def creators (provider : Provider) (settings : Settings) (target : TypeDecl) : List Route :=
  let starting (start : Start) (callable : CallableDecl) : Route := { target, start, callable }
  match (provider.openConstructors target).map (starting .constructor) ++
      (provider.openFactories target target).map (starting .factory) ++
      (provider.members target).nested.flatMap (provider.creatorsThrough settings target) with
  | [] => (provider.heldBack? target).toList.map (starting .constructor)
  | found => found

/-- None of the nested types that may be builders goes too deep. -/
def NestedInReach (provider : Provider) (target : TypeDecl) : Prop :=
  ∀ nested ∈ (provider.members target).nested, nested.isPrivate = false → nested.isStatic = true →
    (provider.ancestry nested).result ≠ .error (.tooDeep recursionLimit)

/-- A type that does not go too deep has a finisher or none, but no failure. -/
theorem exists_finisher?_of_ancestry {provider : Provider} (settings : Settings)
    {builder : TypeDecl}
    (reached : (provider.ancestry builder).result ≠ .error (.tooDeep recursionLimit)) :
    ∃ finisher?, (provider.finisher? settings builder).result = .ok finisher? := by
  cases walked : (provider.ancestry builder).result with
  | error failure =>
    rw [walked, eq_tooDeep_of_ancestry walked] at reached
    exact absurd rfl reached
  | ok order =>
    have visible : ∃ methods, (provider.visibleMethods builder).result = .ok methods :=
      ⟨_, Attempt.result_bind_of_ok walked _⟩
    obtain ⟨methods, visible⟩ := visible
    rw [finisher?, Attempt.result_bind_of_ok visible, Attempt.result_bind, Attempt.result_ofTraced]
    simp only [Except.bind]
    split
    · split
      · exact ⟨none, rfl⟩
      · exact ⟨_, rfl⟩
    · exact ⟨_, rfl⟩

end Provider

namespace Resolver

variable {resolver : Resolver}

/-! ### Enumeration -/

/-- What a type offers and holds back, by the only constructor it may have. -/
theorem constructorsOf_eq (resolver : Resolver) (type : TypeDecl) :
    resolver.constructorsOf type =
      ⟨resolver.provider.openConstructors type, resolver.provider.heldBack? type⟩ := by
  have chosen : ∀ callables, selectCallables [.nonPrivate] callables =
      callables.filter fun callable => !callable.isPrivate := by
    intro callables
    simp [selectCallables, CallableFilter.holds]
  unfold constructorsOf Provider.openConstructors Provider.heldBack?
  cases abstract : type.isAbstract with
  | true => cases sole? (resolver.provider.members type).constructors <;> rfl
  | false =>
    rcases (resolver.provider.members type).constructors with _ | ⟨only, _ | ⟨second, rest⟩⟩
    · simp [chosen, sole?]
    · cases hidden : only.isPrivate <;> cases bare : only.hasNoParams <;>
        simp [chosen, sole?, Option.filter, hidden, bare]
    · simp [chosen, sole?]

theorem factoriesOf_eq (resolver : Resolver) (declaring result : TypeDecl) :
    resolver.factoriesOf (resolver.provider.members declaring).methods result =
      resolver.provider.openFactories declaring result := by
  rw [factoriesOf, selectCallables, List.filter_filter, Provider.openFactories]
  refine List.filter_congr fun method _ => ?_
  rw [Bool.eq_iff_iff]
  simp [CallableFilter.holds, and_comm]

theorem orHeldBack_eq (routes : List Route) (heldBack : Option Route) :
    orHeldBack routes heldBack =
      match routes with
      | [] => heldBack.toList
      | found => found := by
  cases routes <;> rfl

theorem routesThrough_eq (resolver : Resolver) {target nested : TypeDecl} {finisher : CallableDecl}
    (builds : resolver.provider.builds? resolver.settings target nested = some finisher) :
    resolver.routesThrough target ⟨nested, finisher⟩ (resolver.provider.members target).methods =
      resolver.provider.creatorsThrough resolver.settings target nested := by
  rw [routesThrough, constructorsOf_eq, factoriesOf_eq, orHeldBack_eq, Provider.creatorsThrough,
    builds]
  dsimp only
  cases resolver.provider.heldBack? nested <;> rfl

/-- A nested type whose finisher is found makes a builder of the target if that returns it. -/
theorem result_nestedFinisher? {target nested : TypeDecl} {finisher? : Option CallableDecl}
    (finished : (resolver.provider.finisher? resolver.settings nested).result = .ok finisher?) :
    (resolver.nestedFinisher? target nested).result =
      .ok (finisher?.filter (resolver.provider.returnsType · target)) := by
  rw [nestedFinisher?, Attempt.result_bind_of_ok finished]
  cases finisher? with
  | none => rfl
  | some finisher =>
    dsimp only
    cases returns : resolver.provider.returnsType finisher target with
    | true =>
      rw [if_pos rfl, Option.filter_some, if_pos returns]
      rfl
    | false =>
      rw [if_neg (by simp), Option.filter_some, if_neg (by simp [returns])]
      rfl

/-- **The ways that lead through nested types are the creators through each of them.** -/
theorem result_nestedRoutes {target : TypeDecl} {nested : List TypeDecl}
    (reached : ∀ type ∈ nested, type.isPrivate = false → type.isStatic = true →
      (resolver.provider.ancestry type).result ≠ .error (.tooDeep recursionLimit)) :
    (resolver.nestedRoutes target (resolver.provider.members target).methods nested).result =
      .ok (nested.flatMap (resolver.provider.creatorsThrough resolver.settings target)) := by
  induction nested with
  | nil => rfl
  | cons type rest ih =>
    have restReached := ih fun other member => reached other (List.mem_cons_of_mem _ member)
    rw [nestedRoutes, List.flatMap_cons]
    cases passed : type.isPrivate || !type.isStatic with
    | true =>
      have nothing : resolver.provider.creatorsThrough resolver.settings target type = [] := by
        rw [Provider.creatorsThrough, Provider.builds?, if_pos passed]
      rw [if_pos rfl, restReached, nothing, List.nil_append]
    | false =>
      rw [Bool.or_eq_false_iff, Bool.not_eq_false'] at passed
      obtain ⟨notPrivate, static⟩ := passed
      obtain ⟨finisher?, finished⟩ := Provider.exists_finisher?_of_ancestry
        resolver.settings (reached type List.mem_cons_self notPrivate static)
      have builds : resolver.provider.builds? resolver.settings target type =
          finisher?.filter (resolver.provider.returnsType · target) := by
        rw [Provider.builds?, finished, notPrivate, static]
        rfl
      rw [if_neg (by simp), Attempt.result_bind_of_ok (result_nestedFinisher? finished),
        Attempt.result_bind_of_ok restReached, Attempt.result_pure, ← builds]
      cases found : resolver.provider.builds? resolver.settings target type with
      | none => rw [Provider.creatorsThrough, found]
      | some finisher =>
        dsimp only
        rw [routesThrough_eq resolver found]

/-- **What is enumerated are the creators.** -/
theorem result_candidates {target : TypeDecl}
    (reached : resolver.provider.NestedInReach target) :
    (resolver.candidates target).result =
      .ok (resolver.provider.creators resolver.settings target) := by
  rw [candidates, Attempt.result_bind_of_ok (result_nestedRoutes reached), Attempt.result_pure,
    orHeldBack_eq, directRoutes, heldBackRoute?, constructorsOf_eq, factoriesOf_eq,
    Provider.creators]
  cases resolver.provider.heldBack? target <;> rfl

/-! ### Selection -/

/-- A selection ends as the policy chooses. -/
theorem result_select (resolver : Resolver) (type : TypeDecl) (candidates : List Route) :
    (resolver.select type candidates).result =
      match resolver.policy.choose resolver.provider candidates with
      | .chosen route => .ok route
      | .nothing => .error (.problem .noCreatorFound
          ("no constructor, factory or builder found for " ++ type.fullName) (.type type))
      | .undecided candidates => .error (ambiguity type candidates) := by
  rw [select, Attempt.result_bind_of_ok (Attempt.result_note _)]
  cases resolver.policy.choose resolver.provider candidates <;> rfl

/-- The usual policy chooses a lone candidate, or among several the only one that carries the
marker. -/
theorem byMarker_eq_chosen_iff {provider : Provider} {marker : Option String}
    {candidates : List Route} {route : Route} :
    (Policy.byMarker marker).choose provider candidates = .chosen route ↔
      candidates = [route] ∨ 2 ≤ candidates.length ∧
        ∃ name, marker = some name ∧ Policy.marked provider name candidates = [route] := by
  rcases candidates with _ | ⟨first, _ | ⟨second, rest⟩⟩
  · simp [Policy.byMarker]
  · simp [Policy.byMarker]
  · have several : 2 ≤ (first :: second :: rest).length := by simp
    constructor
    · intro chosen
      unfold Policy.byMarker at chosen
      dsimp only at chosen
      split at chosen
      · rename_i found
        obtain ⟨name, given, only⟩ := Option.bind_eq_some_iff.mp found
        rw [← Choice.chosen.inj chosen]
        exact .inr ⟨several, name, given, sole?_eq_some_iff.mp only⟩
      · cases chosen
    · rintro (alone | ⟨_, name, given, only⟩)
      · cases alone
      · unfold Policy.byMarker
        dsimp only
        rw [given, Option.bind_some, sole?_eq_some_iff.mpr only]

/-- The usual policy finds nothing to choose from exactly where there is nothing. -/
theorem byMarker_eq_nothing_iff {provider : Provider} {marker : Option String}
    {candidates : List Route} :
    (Policy.byMarker marker).choose provider candidates = .nothing ↔ candidates = [] := by
  rcases candidates with _ | ⟨first, _ | ⟨second, rest⟩⟩
  · simp [Policy.byMarker]
  · simp [Policy.byMarker]
  · refine ⟨fun nothing => ?_, nofun⟩
    unfold Policy.byMarker at nothing
    dsimp only at nothing
    split at nothing <;> cases nothing

/-- What the usual policy leaves undecided are all the candidates. -/
theorem eq_of_byMarker_undecided {provider : Provider} {marker : Option String}
    {candidates others : List Route}
    (undecided : (Policy.byMarker marker).choose provider candidates = .undecided others) :
    others = candidates := by
  rcases candidates with _ | ⟨first, _ | ⟨second, rest⟩⟩
  · cases undecided
  · cases undecided
  · unfold Policy.byMarker at undecided
    dsimp only at undecided
    split at undecided
    · cases undecided
    · exact (Choice.undecided.inj undecided).symm

/-- **A type is resolved to its lone creator, or among several to the only one that carries the
marker.** Where there is no creator this is the failure; otherwise each creator is a problem of its
own, in their order. -/
theorem resolve_byMarker {provider : Provider} {settings : Settings} {marker : Option String}
    {target : TypeDecl} (reached : provider.NestedInReach target) :
    (∀ route, (resolve ⟨provider, settings, .byMarker marker⟩ target).result = .ok route ↔
      provider.creators settings target = [route] ∨
        2 ≤ (provider.creators settings target).length ∧ ∃ name, marker = some name ∧
          ((provider.creators settings target).filter fun creator =>
            Annotation.anyOf (provider.annotationsOf creator.element) name) = [route]) ∧
    ((∃ problem, (resolve ⟨provider, settings, .byMarker marker⟩ target).result =
        .error (.problems [problem]) ∧ problem.kind = .noCreatorFound) ↔
      provider.creators settings target = []) ∧
    (provider.creators settings target ≠ [] →
      (∀ route, (resolve ⟨provider, settings, .byMarker marker⟩ target).result ≠ .ok route) →
      (resolve ⟨provider, settings, .byMarker marker⟩ target).result =
        .error (.problems ((provider.creators settings target).map fun creator =>
          ⟨.ambiguousCreator, "ambiguous creator for " ++ target.fullName ++ ": " ++ creator.text,
            some creator.element⟩))) := by
  have outcome : (resolve ⟨provider, settings, .byMarker marker⟩ target).result =
      match (Policy.byMarker marker).choose provider (provider.creators settings target) with
      | .chosen route => .ok route
      | .nothing => .error (.problem .noCreatorFound
          ("no constructor, factory or builder found for " ++ target.fullName) (.type target))
      | .undecided candidates => .error (ambiguity target candidates) := by
    rw [resolve, Attempt.result_bind_of_ok (result_candidates reached), result_select]
  rw [outcome]
  refine ⟨fun route => ?_, ?_, fun anyCreator failed => ?_⟩
  · refine Iff.trans ?_ byMarker_eq_chosen_iff
    cases (Policy.byMarker marker).choose provider (provider.creators settings target) <;> simp
  · refine Iff.trans ?_ (@byMarker_eq_nothing_iff provider marker _)
    cases chosen : (Policy.byMarker marker).choose provider (provider.creators settings target) with
    | chosen route => simp
    | nothing => simp [Failure.problem]
    | undecided candidates =>
      refine ⟨fun ⟨problem, same, kind⟩ => ?_, nofun⟩
      have listed : problem ∈ [problem] := List.mem_singleton_self _
      rw [← Failure.problems.inj (Except.error.inj same)] at listed
      obtain ⟨_, _, rfl⟩ := List.mem_map.mp listed
      cases kind
  · cases chosen : (Policy.byMarker marker).choose provider (provider.creators settings target) with
    | chosen route =>
      rw [chosen] at failed
      exact absurd rfl (failed route)
    | nothing => exact absurd (byMarker_eq_nothing_iff.mp chosen) anyCreator
    | undecided candidates =>
      rw [eq_of_byMarker_undecided chosen]
      rfl

/-- A type with a private constructor, a marked factory and a nested builder. -/
def accounts : Catalog :=
  (Catalog.empty.declare <|
    .mk
      { name := "Account"
        base := .absent
        constructors :=
          [{ name := constructorName
             keywords := [.access .ownType]
             params := [⟨"id", .int, []⟩] }]
        methods :=
          [{ name := "of"
             keywords := [.modifier .static]
             params := [⟨"id", .int, []⟩]
             returns := .ofName "Account"
             annotations := [⟨.ofIndex .attachment 1, "Creator", []⟩] }] }
      [.mk
        { name := "Builder"
          keywords := [.modifier .static]
          base := .absent
          constructors := [{ name := constructorName }]
          methods := [{ name := "build", returns := .ofName "Account" }] }
        []]).2

/-- Of the factory and the builder, whose only constructor is no longer held back, the marked
factory is taken. -/
theorem resolve_byMarker_accounts :
    ∃ target route, accounts.findByName? "Account" = some target ∧
      (accounts.provider.creators {} target).map (·.text) =
        ["factory Account.of(int)", "builder constructor Account.Builder() -> build()"] ∧
      (resolve ⟨accounts.provider, {}, .byMarker (some "Creator")⟩ target).result = .ok route ∧
      route.text = "factory Account.of(int)" := by
  obtain ⟨target, found⟩ : ∃ target, accounts.findByName? "Account" = some target :=
    Option.isSome_iff_exists.mp (by decide)
  have within : ∀ target ∈ accounts.findByName? "Account",
      ∀ nested ∈ (accounts.provider.members target).nested,
        (accounts.provider.ancestry nested).result.isOk = true := by decide
  have reached : accounts.provider.NestedInReach target := by
    intro nested member _ _ tooDeep
    have walked := within target found nested member
    rw [tooDeep] at walked
    cases walked
  have enumerated : ∀ target ∈ accounts.findByName? "Account",
      (accounts.provider.creators {} target).map (·.text) =
        ["factory Account.of(int)", "builder constructor Account.Builder() -> build()"] := by decide
  have marked : ∀ target ∈ accounts.findByName? "Account",
      ((accounts.provider.creators {} target).filter fun creator =>
        Annotation.anyOf (accounts.provider.annotationsOf creator.element) "Creator").map (·.text) =
          ["factory Account.of(int)"] := by decide
  have texts := enumerated target found
  obtain ⟨route, only, shown⟩ := List.map_eq_singleton_iff.mp (marked target found)
  have several : 2 ≤ (accounts.provider.creators {} target).length := by
    have length := congrArg List.length texts
    rw [List.length_map] at length
    exact Nat.le_of_eq length.symm
  exact ⟨target, route, found, texts,
    ((resolve_byMarker reached).1 route).mpr (.inr ⟨several, "Creator", rfl, only⟩), shown⟩

end Resolver

end ValueAnatomy
