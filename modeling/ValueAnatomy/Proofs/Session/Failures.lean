/-
**What a session fails with.**

Problems are raised in many places: by a policy that finds nothing or several candidates, where a
callable is of the wrong kind, where a builder has no finisher, and by the report of a merge, which
stops at once or at the end. Some are remembered and told again. Still a failure of a session with
the usual policy always tells of one matter, and a reporter is told exactly its problems.

* `Failure.reportTo`: a failure told to a reporter;
* `Provider.failsBy_propertiesAlong`: what merging may find wrong, in either mode;
* `Session.Orderly`: a session that remembers no other failures, as every call leaves it;
* `Session.failure?_shape`: what every call may fail with, after any earlier ones.
-/

import ValueAnatomy.Proofs.Merge.Annotations
import ValueAnatomy.Proofs.Route.Failures
import ValueAnatomy.Proofs.Session.PropertyRecall
import ValueAnatomy.Proofs.Session.Independence
import ValueAnatomy.Proofs.Sources.Setters

namespace ValueAnatomy

/-! ### Reporters -/

/-- Tells a reporter of a failure, in one call for each problem; of any other failure in one call
without a declaration. A reporter is what a call does to its state. -/
def Failure.reportTo {σ : Type} (report : σ → String → Option Declaration → σ) :
    Failure → σ → σ
  | .problems found, state =>
    found.foldl (fun state problem => report state problem.message problem.element) state
  | other, state => report state other.message none

/-- **A reporter is told exactly the entries of a failure, in their order.** -/
theorem Failure.reportTo_eq_foldl_entries {σ : Type}
    (report : σ → String → Option Declaration → σ) (failure : Failure) (state : σ) :
    failure.reportTo report state =
      failure.entries.foldl (fun state entry => report state entry.1 entry.2) state := by
  cases failure with
  | problems found => rw [reportTo, entries_problems, List.foldl_map]
  | typeNotFound fullName => rfl
  | nameTaken fullName => rfl
  | inconsistent reason => rfl
  | tooDeep limit => rfl

/-! ### Merging -/

/-- A report fails with some of the problems that it is told, and with at least one. -/
theorem Report.exists_of_verdict {mode : ReportMode} {problems : List Problem} {failure : Failure}
    (failed : verdict mode problems = .error failure) :
    ∃ told, failure = .problems told ∧ told ≠ [] ∧ told ⊆ problems := by
  cases mode with
  | batch =>
    rw [verdict_batch] at failed
    split at failed
    · cases failed
    · rename_i notEmpty
      exact ⟨problems, (Except.error.inj failed).symm, notEmpty, List.Subset.refl _⟩
  | failFast =>
    rw [verdict_failFast] at failed
    split at failed
    · cases failed
    · rename_i first rest
      exact ⟨[first], (Except.error.inj failed).symm, List.cons_ne_nil _ _, by simp⟩

/-- Problems with the annotations are one matter, whichever they are. -/
theorem Merge.Drafts.oneMatter_of_subset_duplicates {drafts : Merge.Drafts} {told : List Problem}
    (notEmpty : told ≠ []) (within : told ⊆ drafts.duplicates) :
    OneMatter .annotatedTwice told := by
  have each : ∀ problem ∈ told, ∃ name occurrence, duplicate name occurrence = problem := by
    intro problem member
    obtain ⟨name, -, ofName⟩ := List.mem_flatMap.mp (within member)
    obtain ⟨occurrence, -, same⟩ := List.mem_map.mp ofName
    exact ⟨name, occurrence, same⟩
  refine ⟨notEmpty, fun problem member => ?_, fun problem member => ?_, nofun, nofun⟩
  · obtain ⟨name, occurrence, rfl⟩ := each problem member
    rfl
  · obtain ⟨name, occurrence, rfl⟩ := each problem member
    exact ⟨occurrence.1.source.element, rfl⟩

namespace Provider

variable {kinds : List ProblemKind}

/-- No problem is found while the sources are gathered. -/
theorem failsBy_sourcesOf (provider : Provider) (settings : Settings) (route : Route) :
    FailsBy kinds (provider.sourcesOf settings route).result := by
  have members : FailsBy kinds (provider.membersAlong settings route.target).result := by
    rw [result_membersAlong]
    exact (failsBy_ancestry provider _).map _
  have setters : ∀ builder, FailsBy kinds (provider.settersOf settings builder).result := by
    intro builder
    rw [result_settersOf]
    exact (failsBy_ancestry provider builder).map _
  refine failsBy_result_bind members fun gathered => ?_
  cases route.builder? with
  | none => exact failsBy_ok _
  | some builder => exact failsBy_result_bind (setters builder) fun _ => failsBy_ok _

/-- **Merging finds annotations that are attached twice**, all of them or the first. -/
theorem failsBy_merge (provider : Provider) (settings : Settings) (route : Route)
    (sources : Sources) :
    FailsBy [.annotatedTwice] (provider.merge settings route sources).result := by
  rw [result_merge]
  refine FailsBy.map (fun found failed => ?_) _
  obtain ⟨told, same, notEmpty, within⟩ := Report.exists_of_verdict failed
  rw [Failure.problems.inj same]
  exact ⟨.annotatedTwice, List.mem_singleton_self _,
    Merge.Drafts.oneMatter_of_subset_duplicates notEmpty within⟩

theorem failsBy_propertiesAlong (provider : Provider) (settings : Settings) (route : Route) :
    FailsBy [.annotatedTwice] (provider.propertiesAlong settings route).result :=
  failsBy_result_bind (provider.failsBy_sourcesOf settings route) fun sources =>
    provider.failsBy_merge settings route sources

end Provider

namespace Session

/-! ### Calls that fail -/

/-- What may be found wrong by a call. -/
def Call.faults : Call → List ProblemKind
  | resolveRoute element fromBuilder => element.faults fromBuilder
  | resolveType _ => Inquiry.type.faults
  | routeFor shape _ => (Inquiry.start shape).faults
  | propertiesOf _ => [.annotatedTwice]
  | analyze _ => Inquiry.type.faults ++ [.annotatedTwice]
  | clear => []

/-- The failure of an outcome, if it is one. -/
def failureOf? {α : Type} : Except Failure α → Option Failure
  | .error failure => some failure
  | .ok _ => none

/-- The failure that a call is answered with, if it is. -/
def failure? (provider : Provider) (session : Session) : Call → Option Failure
  | .resolveRoute element fromBuilder =>
    failureOf? (session.resolveRoute provider element fromBuilder).value.1
  | .resolveType type => failureOf? (session.resolveType provider type).value.1
  | .routeFor shape callable => failureOf? (session.routeFor provider shape callable).value.1
  | .propertiesOf route => failureOf? (session.propertiesOf provider route).value.1
  | .analyze type => failureOf? (session.analyze provider type).value.1
  | .clear => none

/-- The session after calls, each through a provider of its own: between them more may have become
known. -/
def afterEach (session : Session) (steps : List (Provider × Call)) : Session :=
  steps.foldl (fun session step => session.perform step.1 step.2) session

/-- A session that is undecided only among several candidates, and remembers no other failures than
those that a call may be answered with. -/
structure Orderly (session : Session) : Prop where
  careful : session.policy.Careful
  routes : ∀ question outcome, session.routes.lookup question = some outcome →
    FailsBy question.inquiry.faults outcome
  properties : ∀ question outcome, session.properties.lookup question = some outcome →
    FailsBy [.annotatedTwice] outcome

variable {provider : Provider} {session : Session}

theorem orderly_of_nothing (careful : session.policy.Careful) (noRoutes : session.routes = [])
    (noProperties : session.properties = []) : session.Orderly := by
  refine ⟨careful, fun question outcome known => ?_, fun question outcome known => ?_⟩
  · rw [noRoutes] at known
    cases known
  · rw [noProperties] at known
    cases known

/-- Where all entries are of a kind, all are with one more of it. -/
theorem forall_lookup_remember {κ α : Type} [DecidableEq κ] {holds : κ → α → Prop}
    {entries : List (κ × α)} {key : κ} {answer : α}
    (kept : ∀ other outcome, entries.lookup other = some outcome → holds other outcome)
    (added : holds key answer) :
    ∀ other outcome, (remember entries key answer).lookup other = some outcome →
      holds other outcome := by
  intro other outcome known
  rw [lookup_remember, Option.or_eq_some_iff] at known
  rcases known with known | ⟨-, known⟩
  · exact kept other outcome known
  · split at known
    · rename_i same
      rw [same, ← Option.some.inj known]
      exact added
    · cases known

/-- **A question about a route fails by what its inquiry may find wrong**, if what would be computed
does, and leaves the session orderly. -/
theorem Orderly.recallRoute (orderly : session.Orderly) (question : RouteQuestion)
    {compute : Unit → Attempt Route}
    (computed : FailsBy question.inquiry.faults (compute ()).result) :
    FailsBy question.inquiry.faults (session.recallRoute question compute).value.1 ∧
      (session.recallRoute question compute).value.2.Orderly := by
  obtain ⟨-, policy, properties⟩ := keeps_recallRoute session question compute
  constructor
  · rw [fst_recallRoute]
    cases known : session.routes.lookup question with
    | some outcome => exact orderly.routes question outcome known
    | none => exact computed
  · refine ⟨?_, ?_, ?_⟩
    · rw [policy]
      exact orderly.careful
    · rw [routes_recallRoute]
      exact forall_lookup_remember orderly.routes computed
    · rw [properties]
      exact orderly.properties

theorem Orderly.resolveRoute (orderly : session.Orderly) (provider : Provider)
    (element : Declaration) (fromBuilder : Bool) :
    FailsBy (element.faults fromBuilder)
        (session.resolveRoute provider element fromBuilder).value.1 ∧
      (session.resolveRoute provider element fromBuilder).value.2.Orderly := by
  have careful : (session.resolver provider).policy.Careful := orderly.careful
  have computed := Resolver.failsBy_resolveElement careful element fromBuilder
  unfold Session.resolveRoute
  dsimp only
  split
  · rename_i inquiry asked
    have faults : element.faults fromBuilder = inquiry.faults := by
      rw [Declaration.faults, asked]
      rfl
    rw [faults] at computed ⊢
    exact orderly.recallRoute ⟨element.handle, inquiry⟩ computed
  · exact ⟨computed, orderly⟩

theorem Orderly.resolveType (orderly : session.Orderly) (provider : Provider) (type : TypeDecl) :
    FailsBy Inquiry.type.faults (session.resolveType provider type).value.1 ∧
      (session.resolveType provider type).value.2.Orderly :=
  orderly.resolveRoute provider (.type type) false

theorem Orderly.routeFor (orderly : session.Orderly) (provider : Provider) (shape : RouteShape)
    (callable : CallableDecl) :
    FailsBy (Inquiry.start shape).faults (session.routeFor provider shape callable).value.1 ∧
      (session.routeFor provider shape callable).value.2.Orderly :=
  orderly.recallRoute ⟨callable.handle, .start shape⟩
    ((session.resolver provider).failsBy_routeFor shape callable)

theorem Orderly.propertiesOf (orderly : session.Orderly) (provider : Provider) (route : Route) :
    FailsBy [.annotatedTwice] (session.propertiesOf provider route).value.1 ∧
      (session.propertiesOf provider route).value.2.Orderly := by
  obtain ⟨-, policy, routes⟩ := keeps_propertiesOf session provider route
  have computed := provider.failsBy_propertiesAlong session.settings route
  constructor
  · rw [fst_propertiesOf]
    cases known : session.properties.lookup route.propertyQuestion with
    | some outcome => exact orderly.properties _ outcome known
    | none => exact computed
  · refine ⟨?_, ?_, ?_⟩
    · rw [policy]
      exact orderly.careful
    · rw [routes]
      exact orderly.routes
    · rw [properties_propertiesOf]
      exact forall_lookup_remember orderly.properties computed

/-- An analysis fails as one of its two questions does. -/
theorem Orderly.analyze (orderly : session.Orderly) (provider : Provider) (type : TypeDecl) :
    FailsBy (Inquiry.type.faults ++ [.annotatedTwice]) (session.analyze provider type).value.1 ∧
      (session.analyze provider type).value.2.Orderly := by
  obtain ⟨route?Fails, later⟩ := orderly.resolveType provider type
  constructor
  · rw [fst_analyze]
    refine (route?Fails.mono (List.subset_append_left _ _)).bind fun route => ?_
    exact ((later.propertiesOf provider route).1.mono (List.subset_append_right _ _)).map _
  · rw [snd_analyze]
    split
    · exact later
    · rename_i route _
      exact (later.propertiesOf provider route).2

theorem exists_oneMatter_of_failureOf? {α : Type} {kinds : List ProblemKind}
    {outcome : Except Failure α} (fails : FailsBy kinds outcome) {found : List Problem}
    (failed : failureOf? outcome = some (.problems found)) :
    ∃ kind ∈ kinds, OneMatter kind found := by
  cases outcome with
  | error failure => exact fails found (congrArg Except.error (Option.some.inj failed))
  | ok value => cases failed

/-- **One call fails by what it may find wrong, and leaves the session orderly.** -/
theorem Orderly.perform (orderly : session.Orderly) (provider : Provider) (call : Call) :
    (∀ found, session.failure? provider call = some (.problems found) →
        ∃ kind ∈ call.faults, OneMatter kind found) ∧
      (session.perform provider call).Orderly := by
  cases call with
  | resolveRoute element fromBuilder =>
    obtain ⟨fails, later⟩ := orderly.resolveRoute provider element fromBuilder
    exact ⟨fun _ => exists_oneMatter_of_failureOf? fails, later⟩
  | resolveType type =>
    obtain ⟨fails, later⟩ := orderly.resolveType provider type
    exact ⟨fun _ => exists_oneMatter_of_failureOf? fails, later⟩
  | routeFor shape callable =>
    obtain ⟨fails, later⟩ := orderly.routeFor provider shape callable
    exact ⟨fun _ => exists_oneMatter_of_failureOf? fails, later⟩
  | propertiesOf route =>
    obtain ⟨fails, later⟩ := orderly.propertiesOf provider route
    exact ⟨fun _ => exists_oneMatter_of_failureOf? fails, later⟩
  | analyze type =>
    obtain ⟨fails, later⟩ := orderly.analyze provider type
    exact ⟨fun _ => exists_oneMatter_of_failureOf? fails, later⟩
  | clear => exact ⟨nofun, orderly_of_nothing orderly.careful rfl rfl⟩

/-- An orderly session stays so through any calls. -/
theorem Orderly.afterEach (orderly : session.Orderly) (steps : List (Provider × Call)) :
    (session.afterEach steps).Orderly := by
  induction steps generalizing session with
  | nil => exact orderly
  | cons step rest ih => exact ih (orderly.perform step.1 step.2).2

/-- **The shape of every failure.** Whatever the settings and whatever was called before, through
whatever providers: if a call of a session with the usual policy finds problems, then these are of
one matter, of a kind that the call may find wrong, and a reporter that is told of the failure is
told them, one after the other and nothing else. -/
theorem failure?_shape (settings : Settings) (earlier : List (Provider × Call))
    (provider : Provider) (call : Call) {found : List Problem}
    (failed : ((ofSettings settings).afterEach earlier).failure? provider call =
      some (.problems found)) :
    (∃ kind ∈ call.faults, OneMatter kind found) ∧
      ∀ {σ : Type} (report : σ → String → Option Declaration → σ) (state : σ),
        (Failure.problems found).reportTo report state =
          (found.map fun problem => (problem.message, problem.element)).foldl
            (fun state entry => report state entry.1 entry.2) state := by
  have start : (ofSettings settings).Orderly :=
    orderly_of_nothing (Policy.careful_byMarker settings.creatorMarker) rfl rfl
  refine ⟨((start.afterEach earlier).perform provider call).1 found failed, fun report state => ?_⟩
  rw [Failure.reportTo_eq_foldl_entries, Failure.entries_problems]

/-- A class with two constructors is ambiguous. Even in fail-fast mode and from what is remembered
an analysis tells of both, and so does a reporter that writes down what it is told. -/
theorem failure?_shape_boxes :
    ∃ box found, (boxes apartParams).findByName? "com.example.Box" = some box ∧
      ((ofSettings { reportMode := .failFast }).afterEach
          [((boxes apartParams).provider, .resolveType box)]).failure? (boxes apartParams).provider
            (.analyze box) = some (.problems found) ∧
      found.length = 2 ∧ (∃ kind ∈ (Call.analyze box).faults, OneMatter kind found) ∧
      (Failure.problems found).reportTo (fun log message _ => log ++ [message]) [] =
        found.map (·.message) := by
  obtain ⟨box, located⟩ : ∃ box, (boxes apartParams).findByName? "com.example.Box" = some box :=
    Option.isSome_iff_exists.mp (by decide)
  have count : ∀ box ∈ (boxes apartParams).findByName? "com.example.Box",
      (((ofSettings { reportMode := .failFast }).afterEach
        [((boxes apartParams).provider, .resolveType box)]).failure? (boxes apartParams).provider
          (.analyze box)).map (·.found.length) = some 2 := by decide
  obtain ⟨failure, failed, length⟩ := Option.map_eq_some_iff.mp (count box located)
  cases failure with
  | problems found =>
    obtain ⟨matter, told⟩ := failure?_shape { reportMode := .failFast } _ _ _ failed
    refine ⟨box, found, located, failed, length, matter, ?_⟩
    obtain ⟨first, second, rfl⟩ := List.length_eq_two.mp length
    rw [told]
    rfl
  | typeNotFound fullName => cases length
  | nameTaken fullName => cases length
  | inconsistent reason => cases length
  | tooDeep limit => cases length

end Session

end ValueAnatomy
