/-
**Providers that mirror each other lead to corresponding routes.**

One provider mirrors another along a relation between their types: related types are called the
same and have the same modifiers, whatever is asked about one is answered for the other with related
types and alike members, and two types on the one side have one handle exactly if the related ones
on the other side do. Handles are compared and never looked at otherwise, so that walks, finishers
and routes correspond.

* `Provider.Mirrors`: what it means to mirror;
* `Provider.Mirrors.ancestry`: walks correspond, step by step;
* `Provider.Mirrors.finisher?`: related builders have alike finishers;
* `Provider.Mirrors.resolve`: related types are resolved to related routes, or not at all for the
  same reasons.
-/

import ValueAnatomy.Proofs.Finisher.Choice
import ValueAnatomy.Proofs.Mirror.Alike
import ValueAnatomy.Proofs.Route.Creators

namespace ValueAnatomy

variable {related : TypeDecl → TypeDecl → Prop}

/-- The members of related types: alike, and the nested types related. -/
structure Members.Mirrors (related : TypeDecl → TypeDecl → Prop) (first second : Members) :
    Prop where
  fields : List.Forall₂ FieldDecl.Alike first.fields second.fields
  constructors : List.Forall₂ CallableDecl.Alike first.constructors second.constructors
  methods : List.Forall₂ CallableDecl.Alike first.methods second.methods
  nested : List.Forall₂ related first.nested second.nested

/-- **Two providers mirror each other** along a relation between their types. -/
structure Provider.Mirrors (related : TypeDecl → TypeDecl → Prop) (first second : Provider) :
    Prop where
  fullName : ∀ {a b}, related a b → a.fullName = b.fullName
  modifiers : ∀ {a b}, related a b → a.modifiers = b.modifiers
  origin : ∀ {a b}, related a b → a.origin = b.origin
  /-- Handles are the same on both sides or on neither. -/
  handle : ∀ {a b c d}, related a b → related c d → (a.handle = c.handle ↔ b.handle = d.handle)
  sameType : ∀ {a b c d}, related a b → related c d → first.sameType a c = second.sameType b d
  members : ∀ {a b}, related a b → (first.members a).Mirrors related (second.members b)
  supertypes : ∀ {a b}, related a b →
    List.Forall₂ related (first.supertypes a) (second.supertypes b)
  enclosing : ∀ {a b}, related a b → Option.Rel related (first.enclosingOf a) (second.enclosingOf b)
  result : ∀ {c d : CallableDecl}, c.Alike d →
    Option.Rel related (first.resolveResult c) (second.resolveResult d)
  fieldAnnotations : ∀ {f g : FieldDecl}, f.Alike g →
    first.annotationsOf (.field f) = second.annotationsOf (.field g)
  callableAnnotations : ∀ {c d : CallableDecl}, c.Alike d →
    first.annotationsOf (.method c) = second.annotationsOf (.method d) ∧
      first.annotationsOf (.constructor c) = second.annotationsOf (.constructor d)
  paramAnnotations : ∀ {c d : CallableDecl}, c.Alike d → ∀ position,
    first.paramAnnotationsOf c position = second.paramAnnotationsOf d position
  /-- Of the methods of related types the same ones are positional accessors. -/
  positional : ∀ {a b}, related a b →
    List.Forall₂ (fun c d => first.isPositionalAccessor a c = second.isPositionalAccessor b d)
      (first.members a).methods (second.members b).methods

/-- Two walks have entered and finished related types. -/
structure Ancestry.Mirrors (related : TypeDecl → TypeDecl → Prop) (walk other : Ancestry) :
    Prop where
  entered : ∀ {a b}, related a b → (a.handle ∈ walk.entered ↔ b.handle ∈ other.entered)
  finished : List.Forall₂ related walk.finished other.finished

/-- Two steps lead through related builders with alike finishers. -/
structure BuilderStep.Mirrors (related : TypeDecl → TypeDecl → Prop) (step other : BuilderStep) :
    Prop where
  builder : related step.builder other.builder
  finisher : step.finisher.Alike other.finisher

/-- Two routes lead in one way to related targets. -/
structure Route.Mirrors (related : TypeDecl → TypeDecl → Prop) (route other : Route) : Prop where
  target : related route.target other.target
  start : route.start = other.start
  callable : route.callable.Alike other.callable
  step : Option.Rel (BuilderStep.Mirrors related) route.step other.step

namespace Route.Mirrors

variable {route other : Route}

theorem shape_eq (alike : route.Mirrors related other) : route.shape = other.shape := by
  rw [shape, shape, alike.start, alike.step.isSome_eq]

theorem element_key_eq (alike : route.Mirrors related other) :
    route.element.key = other.element.key := by
  rw [element, element, Declaration.key_ofCallable, Declaration.key_ofCallable,
    alike.callable.key_eq]

theorem finisher?_alike (alike : route.Mirrors related other) :
    Option.Rel CallableDecl.Alike route.finisher? other.finisher? :=
  alike.step.map fun _ _ pair => pair.finisher

/-- Both are shown alike. -/
theorem text_eq (alike : route.Mirrors related other) : route.text = other.text := by
  have start : route.element.text = other.element.text := alike.callable.text_eq
  have finishers := alike.finisher?_alike
  rw [text, text, alike.shape_eq, start]
  generalize route.finisher? = finisher at finishers
  generalize other.finisher? = finisherToo at finishers
  cases finishers with
  | none => rfl
  | some pair =>
    dsimp only
    rw [pair.name_eq]

end Route.Mirrors

/-- Two policies choose related routes, or nothing among related candidates. -/
inductive Choice.Mirrors (related : TypeDecl → TypeDecl → Prop) : Choice → Choice → Prop
  | chosen {route other : Route} (alike : route.Mirrors related other) :
      Mirrors related (.chosen route) (.chosen other)
  | nothing : Mirrors related .nothing .nothing
  | undecided {candidates others : List Route}
      (alike : List.Forall₂ (Route.Mirrors related) candidates others) :
      Mirrors related (.undecided candidates) (.undecided others)

namespace Provider.Mirrors

variable {first second : Provider} (mirrors : Mirrors related first second) {a b c d : TypeDecl}

include mirrors

/-! ### Questions about one type -/

theorem isPrivate_eq (pair : related a b) : a.isPrivate = b.isPrivate := by
  rw [TypeDecl.isPrivate, TypeDecl.isPrivate, mirrors.modifiers pair]

theorem isStatic_eq (pair : related a b) : a.isStatic = b.isStatic := by
  rw [TypeDecl.isStatic, TypeDecl.isStatic, mirrors.modifiers pair]

theorem isAbstract_eq (pair : related a b) : a.isAbstract = b.isAbstract := by
  rw [TypeDecl.isAbstract, TypeDecl.isAbstract, mirrors.modifiers pair]

theorem isPlatform_eq (settings : Settings) (pair : related a b) :
    settings.isPlatform a = settings.isPlatform b := by
  rw [Settings.isPlatform, Settings.isPlatform, mirrors.origin pair, mirrors.fullName pair]

theorem returnsType_eq {callable other : CallableDecl} (alike : callable.Alike other)
    (pair : related a b) : first.returnsType callable a = second.returnsType other b :=
  (mirrors.result alike).any_eq fun _ _ results => mirrors.sameType results pair

theorem elementAnnotations_eq {callable other : CallableDecl} (alike : callable.Alike other) :
    first.annotationsOf (.ofCallable callable) = second.annotationsOf (.ofCallable other) := by
  have kind : callable.kind = other.kind := alike.congr CallableDecl.kind fun _ => rfl
  unfold Declaration.ofCallable
  rw [kind]
  cases other.kind with
  | method => exact (mirrors.callableAnnotations alike).1
  | constructor => exact (mirrors.callableAnnotations alike).2

/-! ### Walks -/

/-- **Walks correspond**: one enters a type exactly if the other enters the related one. -/
theorem visit (levels : Nat) (pair : related a b) {walk other : Ancestry}
    (walks : walk.Mirrors related other) :
    Corresponds (Ancestry.Mirrors related) (Ancestry.visit first levels a walk).result
      (Ancestry.visit second levels b other).result := by
  induction levels generalizing a b walk other with
  | zero => exact .error rfl
  | succ levels ih =>
    rw [Ancestry.visit, Ancestry.visit]
    by_cases known : a.handle ∈ walk.entered
    · rw [if_pos known, if_pos ((walks.entered pair).mp known)]
      exact .ok walks
    · rw [if_neg known, if_neg (mt (walks.entered pair).mpr known)]
      have supertypes : Corresponds (List.Forall₂ related)
          (Attempt.ofTraced (first.supertypesOf a)).result
          (Attempt.ofTraced (second.supertypesOf b)).result := .ok (mirrors.supertypes pair)
      refine supertypes.bind fun _ _ above => ?_
      have entering : Ancestry.Mirrors related { walk with entered := a.handle :: walk.entered }
          { other with entered := b.handle :: other.entered } := by
        refine ⟨fun types => ?_, walks.finished⟩
        rw [List.mem_cons, List.mem_cons, mirrors.handle types pair, walks.entered types]
      have walked := Corresponds.foldlM (List.rel_reverse above)
        (fun _ _ types _ _ between => ih types between) entering
      exact walked.bind fun _ _ done => .ok ⟨done.entered, .cons pair done.finished⟩

/-- The types above related types are related, in one order. -/
theorem ancestry (pair : related a b) :
    Corresponds (List.Forall₂ related) (first.ancestry a).result (second.ancestry b).result := by
  have nothing : Ancestry.Mirrors related {} {} :=
    ⟨fun _ => ⟨fun member => absurd member List.not_mem_nil,
      fun member => absurd member List.not_mem_nil⟩, .nil⟩
  exact (mirrors.visit (recursionLimit + 1) pair nothing).bind fun _ _ walks => .ok walks.finished

/-! ### Finishers -/

theorem visibleForms {order orderToo : List TypeDecl}
    (orders : List.Forall₂ related order orderToo) :
    List.Forall₂ CallableDecl.Alike (first.visibleForms order) (second.visibleForms orderToo) := by
  have methods : List.Forall₂ CallableDecl.Alike
      (order.flatMap fun above => (first.members above).methods)
      (orderToo.flatMap fun above => (second.members above).methods) :=
    List.rel_flatMap orders fun _ _ pair => (mirrors.members pair).methods
  exact forall₂_selectCallables (methods.firstOfEach fun _ _ alike => alike.overrideKey_eq) _

theorem yieldsBuilt_eq (settings : Settings) (pair : related a b) {method other : CallableDecl}
    (alike : method.Alike other) :
    first.yieldsBuilt settings a method = second.yieldsBuilt settings b other := by
  have named : namesBuilt settings method = namesBuilt settings other :=
    alike.congr (namesBuilt settings) fun _ => rfl
  have yielded := (mirrors.result alike).any_eq fun _ _ results =>
    congrArg₂ (fun same platform => !same && !platform) (mirrors.sameType results pair)
      (mirrors.isPlatform_eq settings results)
  rw [yieldsBuilt, yieldsBuilt, named, yielded]

theorem enclosingFinishers (pair : related a b) {methods others : List CallableDecl}
    (alike : List.Forall₂ CallableDecl.Alike methods others) :
    List.Forall₂ CallableDecl.Alike (first.enclosingFinishers a methods)
      (second.enclosingFinishers b others) := by
  unfold Provider.enclosingFinishers
  have around := mirrors.enclosing pair
  generalize first.enclosingOf a = enclosing at around
  generalize second.enclosingOf b = enclosingToo at around
  cases around with
  | none => exact .nil
  | some types => exact alike.filter fun _ _ callables => mirrors.returnsType_eq callables types

theorem finisherCandidates (settings : Settings) (pair : related a b)
    {order orderToo : List TypeDecl} (orders : List.Forall₂ related order orderToo) :
    List.Forall₂ CallableDecl.Alike (first.finisherCandidates settings a order)
      (second.finisherCandidates settings b orderToo) := by
  have forms := mirrors.visibleForms orders
  have possible := forms.filter fun _ _ alike => mirrors.yieldsBuilt_eq settings pair alike
  unfold Provider.finisherCandidates
  dsimp only
  rw [possible.isEmpty_eq]
  split
  · exact mirrors.enclosingFinishers pair forms
  · exact possible

omit mirrors in
theorem preferredFinisher? (settings : Settings) {candidates others : List CallableDecl}
    (alike : List.Forall₂ CallableDecl.Alike candidates others) :
    Option.Rel CallableDecl.Alike (Provider.preferredFinisher? settings candidates)
      (Provider.preferredFinisher? settings others) :=
  alike.sole?.or (alike.filter fun _ _ pair =>
    congrArg settings.isBuildVerb pair.name_eq).sole?

/-- **Related builders have alike finishers.** -/
theorem finisher? (settings : Settings) (pair : related a b) :
    Corresponds (Option.Rel CallableDecl.Alike) (first.finisher? settings a).result
      (second.finisher? settings b).result := by
  rw [result_finisher?, result_finisher?]
  exact (mirrors.ancestry pair).map fun _ _ orders =>
    preferredFinisher? settings (mirrors.finisherCandidates settings pair orders)

/-! ### Candidates -/

variable {settings : Settings} {policy : Policy}

/-- What related types offer and hold back is alike. -/
theorem constructorsOf (pair : related a b) :
    List.Forall₂ CallableDecl.Alike
        (Resolver.constructorsOf ⟨first, settings, policy⟩ a).offered
        (Resolver.constructorsOf ⟨second, settings, policy⟩ b).offered ∧
      Option.Rel CallableDecl.Alike
        (Resolver.constructorsOf ⟨first, settings, policy⟩ a).heldBack
        (Resolver.constructorsOf ⟨second, settings, policy⟩ b).heldBack := by
  unfold Resolver.constructorsOf
  rw [mirrors.isAbstract_eq pair]
  split
  · exact ⟨.nil, .none⟩
  · have constructors := (mirrors.members pair).constructors
    dsimp only
    generalize (first.members a).constructors = callables at constructors
    generalize (second.members b).constructors = others at constructors
    cases constructors with
    | nil => exact ⟨.nil, .none⟩
    | cons only rest =>
      cases rest with
      | nil =>
        have lone := List.Forall₂.cons only .nil
        dsimp only
        rw [only.congr (fun callable => !callable.isPrivate && callable.hasNoParams) fun _ => rfl]
        split
        · exact ⟨.nil, .some only⟩
        · exact ⟨forall₂_selectCallables lone _, .none⟩
      | cons next later =>
        exact ⟨forall₂_selectCallables (.cons only (.cons next later)) _, .none⟩

theorem factoriesOf (pair : related a b) {methods others : List CallableDecl}
    (alike : List.Forall₂ CallableDecl.Alike methods others) :
    List.Forall₂ CallableDecl.Alike (Resolver.factoriesOf ⟨first, settings, policy⟩ methods a)
      (Resolver.factoriesOf ⟨second, settings, policy⟩ others b) :=
  (forall₂_selectCallables alike _).filter fun _ _ callables =>
    mirrors.returnsType_eq callables pair

omit mirrors in
theorem orHeldBack {routes others : List Route} {heldBack heldBackToo : Option Route}
    (alike : List.Forall₂ (Route.Mirrors related) routes others)
    (held : Option.Rel (Route.Mirrors related) heldBack heldBackToo) :
    List.Forall₂ (Route.Mirrors related) (Resolver.orHeldBack routes heldBack)
      (Resolver.orHeldBack others heldBackToo) := by
  unfold Resolver.orHeldBack
  rw [alike.isEmpty_eq]
  split
  · exact held.toList
  · exact alike

theorem directRoutes (pair : related a b) :
    List.Forall₂ (Route.Mirrors related) (Resolver.directRoutes ⟨first, settings, policy⟩ a)
      (Resolver.directRoutes ⟨second, settings, policy⟩ b) := by
  refine List.rel_append (List.rel_map (fun _ _ alike => ⟨pair, rfl, alike, .none⟩)
    (mirrors.constructorsOf pair).1) ?_
  exact List.rel_map (fun _ _ alike => ⟨pair, rfl, alike, .none⟩)
    (mirrors.factoriesOf pair (mirrors.members pair).methods)

theorem heldBackRoute? (pair : related a b) :
    Option.Rel (Route.Mirrors related) (Resolver.heldBackRoute? ⟨first, settings, policy⟩ a)
      (Resolver.heldBackRoute? ⟨second, settings, policy⟩ b) :=
  (mirrors.constructorsOf pair).2.map fun _ _ alike => ⟨pair, rfl, alike, .none⟩

theorem routesThrough (pair : related a b) {step stepToo : BuilderStep}
    (steps : step.Mirrors related stepToo) {methods others : List CallableDecl}
    (alike : List.Forall₂ CallableDecl.Alike methods others) :
    List.Forall₂ (Route.Mirrors related)
      (Resolver.routesThrough ⟨first, settings, policy⟩ a step methods)
      (Resolver.routesThrough ⟨second, settings, policy⟩ b stepToo others) := by
  obtain ⟨offered, heldBack⟩ := @constructorsOf _ _ _ mirrors _ _ settings policy steps.builder
  have starting : ∀ start (callable other : CallableDecl), callable.Alike other →
      Route.Mirrors related ⟨a, start, callable, some step⟩ ⟨b, start, other, some stepToo⟩ :=
    fun _ _ _ callables => ⟨pair, rfl, callables, .some steps⟩
  refine orHeldBack (List.rel_append ?_ ?_) (heldBack.map (starting .constructor))
  · exact List.rel_map (starting .constructor) offered
  · exact List.rel_map (starting .factory) (mirrors.factoriesOf steps.builder alike)

/-- A nested type is a builder of the target exactly if the related one is. -/
theorem nestedFinisher? (pair : related a b) (nested : related c d) :
    Corresponds (Option.Rel CallableDecl.Alike)
      (Resolver.nestedFinisher? ⟨first, settings, policy⟩ a c).result
      (Resolver.nestedFinisher? ⟨second, settings, policy⟩ b d).result := by
  refine (mirrors.finisher? settings nested).bind fun _ _ finishers => ?_
  cases finishers with
  | none => exact .ok .none
  | some alike =>
    dsimp only
    rw [mirrors.returnsType_eq alike pair]
    split
    · exact .ok (.some alike)
    · exact .ok .none

theorem nestedRoutes (pair : related a b) {methods others : List CallableDecl}
    (alike : List.Forall₂ CallableDecl.Alike methods others) {nested nestedToo : List TypeDecl}
    (types : List.Forall₂ related nested nestedToo) :
    Corresponds (List.Forall₂ (Route.Mirrors related))
      (Resolver.nestedRoutes ⟨first, settings, policy⟩ a methods nested).result
      (Resolver.nestedRoutes ⟨second, settings, policy⟩ b others nestedToo).result := by
  induction types with
  | nil => exact .ok .nil
  | cons head _ ih =>
    rw [Resolver.nestedRoutes, Resolver.nestedRoutes, mirrors.isPrivate_eq head,
      mirrors.isStatic_eq head]
    split
    · exact ih
    · refine (mirrors.nestedFinisher? pair head).bind fun _ _ finishers => ?_
      refine ih.bind fun _ _ later => .ok (List.rel_append ?_ later)
      cases finishers with
      | none => exact .nil
      | some callables => exact mirrors.routesThrough pair ⟨head, callables⟩ alike

/-- **Related types have related candidates.** -/
theorem candidates (pair : related a b) :
    Corresponds (List.Forall₂ (Route.Mirrors related))
      (Resolver.candidates ⟨first, settings, policy⟩ a).result
      (Resolver.candidates ⟨second, settings, policy⟩ b).result := by
  have members := mirrors.members pair
  refine (mirrors.nestedRoutes pair members.methods members.nested).bind fun _ _ through => ?_
  exact .ok (orHeldBack (List.rel_append (mirrors.directRoutes pair) through)
    (mirrors.heldBackRoute? pair))

/-! ### Selection -/

/-- The problems with related candidates tell the same. -/
theorem outline_ambiguity (pair : related a b) {candidates others : List Route}
    (alike : List.Forall₂ (Route.Mirrors related) candidates others) :
    (Resolver.ambiguity a candidates).outline = (Resolver.ambiguity b others).outline := by
  refine congrArg Sum.inl ?_
  rw [List.map_map, List.map_map]
  refine alike.map_eq fun _ _ routes => ?_
  simp only [Function.comp_apply, Problem.outline, Option.map_some, routes.text_eq,
    routes.element_key_eq, mirrors.fullName pair]

theorem marked (marker : String) {candidates others : List Route}
    (alike : List.Forall₂ (Route.Mirrors related) candidates others) :
    List.Forall₂ (Route.Mirrors related) (Policy.marked first marker candidates)
      (Policy.marked second marker others) :=
  alike.filter fun _ _ routes =>
    congrArg (fun found => Annotation.anyOf found marker)
      (mirrors.elementAnnotations_eq routes.callable)

/-- The only candidates that carry the marker are related. -/
theorem soleMarked (marker : Option String) {candidates others : List Route}
    (alike : List.Forall₂ (Route.Mirrors related) candidates others) :
    Option.Rel (Route.Mirrors related)
      (marker.bind fun marker => sole? (Policy.marked first marker candidates))
      (marker.bind fun marker => sole? (Policy.marked second marker others)) := by
  cases marker with
  | none => exact .none
  | some marker => exact (mirrors.marked marker alike).sole?

/-- The usual policy chooses alike among related candidates. -/
theorem choose_byMarker (marker : Option String) {candidates others : List Route}
    (alike : List.Forall₂ (Route.Mirrors related) candidates others) :
    Choice.Mirrors related ((Policy.byMarker marker).choose first candidates)
      ((Policy.byMarker marker).choose second others) := by
  cases alike with
  | nil => exact .nothing
  | @cons only onlyToo _ _ alone rest =>
    cases rest with
    | nil => exact .chosen alone
    | @cons next nextToo later laterToo further behind =>
      have several := List.Forall₂.cons alone (.cons further behind)
      have found := mirrors.soleMarked marker several
      unfold Policy.byMarker
      dsimp only
      generalize marker.bind (fun marker =>
        sole? (Policy.marked first marker (only :: next :: later))) = choice at found ⊢
      generalize marker.bind (fun marker =>
        sole? (Policy.marked second marker (onlyToo :: nextToo :: laterToo))) = choiceToo at found ⊢
      cases found with
      | none => exact .undecided several
      | some routes => exact .chosen routes

/-- The usual policy selects related routes among related candidates. -/
theorem select (marker : Option String) (pair : related a b) {candidates others : List Route}
    (alike : List.Forall₂ (Route.Mirrors related) candidates others) :
    Corresponds (Route.Mirrors related)
      (Resolver.select ⟨first, settings, .byMarker marker⟩ a candidates).result
      (Resolver.select ⟨second, settings, .byMarker marker⟩ b others).result := by
  rw [Resolver.result_select, Resolver.result_select]
  have choices := mirrors.choose_byMarker marker alike
  dsimp only
  generalize (Policy.byMarker marker).choose first candidates = choice at choices
  generalize (Policy.byMarker marker).choose second others = choiceToo at choices
  cases choices with
  | chosen routes => exact .ok routes
  | nothing =>
    refine .error (congrArg Sum.inl ?_)
    simp only [List.map_cons, List.map_nil, Problem.outline, Option.map_some, Declaration.key,
      TypeDecl.key, mirrors.fullName pair]
  | undecided undecided => exact .error (mirrors.outline_ambiguity pair undecided)

/-- **Related types are resolved to related routes**, or not at all for the same reasons. -/
theorem resolve (marker : Option String) (pair : related a b) :
    Corresponds (Route.Mirrors related)
      (Resolver.resolve ⟨first, settings, .byMarker marker⟩ a).result
      (Resolver.resolve ⟨second, settings, .byMarker marker⟩ b).result :=
  (mirrors.candidates pair).bind fun _ _ alike => mirrors.select marker pair alike

end Provider.Mirrors

end ValueAnatomy
