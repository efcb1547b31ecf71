/-
**Requests on one session, one after the other and many analyses at once.**

Analyses of many types at once share what the session remembers, and their steps may come in any
order. A step of an analysis asks one of its two questions. To look something up and find nothing
changes nothing, and an answer that was computed after that yields to one that was entered
meanwhile; so the step is made at the moment of entry, where it recalls or enters as it would if it
were alone.

* `Session.advance`, `Session.Step`: a step of one analysis, and of one among many;
* `Session.Underway`: every analysis has found what would be computed, and the session remembers
  nothing else;
* `Session.Underway.run`: no run of steps, in whichever order, ever leaves this;
* `Session.answers_eq_map`: requests on one session are answered as each analysis would be on a
  session of its own.
-/

import Mathlib.Logic.Relation
import ValueAnatomy.Proofs.Session.Independence

namespace ValueAnatomy.Session

/-! ### Many analyses at once -/

/-- How far the analysis of a type has come. -/
inductive Stage where
  /-- Its route is asked for. -/
  | asked
  /-- The route is known and the properties are asked for. -/
  | routed (route : Route)
  | done (outcome : Except Failure Anatomy)

/-- One step of the analysis of a type. -/
def advance (provider : Provider) (session : Session) (type : TypeDecl) : Stage → Stage × Session
  | .asked =>
    match (session.resolveType provider type).value with
    | (.error failure, session) => (.done (.error failure), session)
    | (.ok route, session) => (.routed route, session)
  | .routed route =>
    let (properties?, session) := (session.propertiesOf provider route).value
    (.done (properties?.map fun properties => ⟨route, properties⟩), session)
  | .done outcome => (.done outcome, session)

/-- One step of one among many analyses on a session. -/
inductive Step (provider : Provider) :
    List (TypeDecl × Stage) × Session → List (TypeDecl × Stage) × Session → Prop
  | advance (front back : List (TypeDecl × Stage)) (type : TypeDecl) (stage : Stage)
      (session : Session) :
      Step provider (front ++ (type, stage) :: back, session)
        (front ++ (type, (session.advance provider type stage).1) :: back,
          (session.advance provider type stage).2)

/-- Steps that lead from one state of many analyses to another, in any order. -/
abbrev Run (provider : Provider) :
    List (TypeDecl × Stage) × Session → List (TypeDecl × Stage) × Session → Prop :=
  Relation.ReflTransGen (Step provider)

section Runs

variable {catalog : Catalog} {settings : Settings} {policy : Policy}

/-- Whether an analysis has found what would be computed, as far as it has come. -/
def Stage.Sound (resolver : Resolver) (type : TypeDecl) : Stage → Prop
  | asked => True
  | routed route => (resolver.resolve type).result = .ok route
  | done outcome => outcome = resolver.anatomy type

/-- **A step finds what would be computed**, and what is remembered stays so. -/
theorem Consistent.advance (faithful : catalog.Faithful) (selective : policy.Selective)
    {session : Session} (consistent : Consistent catalog settings policy session) {type : TypeDecl}
    (there : type ∈ catalog.types) {stage : Stage}
    (sound : stage.Sound (catalog.resolver settings policy) type) :
    (session.advance catalog.provider type stage).1.Sound (catalog.resolver settings policy) type ∧
      Consistent catalog settings policy (session.advance catalog.provider type stage).2 := by
  cases stage with
  | asked =>
    obtain ⟨answer, later⟩ := consistent.resolveType faithful there
    unfold Session.advance
    generalize (session.resolveType catalog.provider type).value = answered at answer later ⊢
    obtain ⟨route?, after⟩ := answered
    cases route? with
    | error failure =>
      refine ⟨?_, later⟩
      change Except.error failure = Resolver.anatomy _ type
      rw [Resolver.anatomy, ← answer]
      rfl
    | ok route => exact ⟨answer.symm, later⟩
  | routed route =>
    obtain ⟨answer, later⟩ := consistent.propertiesOf faithful selective there sound
    refine ⟨?_, later⟩
    change Except.map _ (session.propertiesOf catalog.provider route).value.1 =
      Resolver.anatomy _ type
    rw [answer, Resolver.anatomy, sound]
    rfl
  | done outcome => exact ⟨sound, consistent⟩

/-- Analyses of types are under way: each has found what would be computed, and the session
remembers nothing else. -/
structure Underway (catalog : Catalog) (settings : Settings) (policy : Policy)
    (types : List TypeDecl) (state : List (TypeDecl × Stage) × Session) : Prop where
  types : state.1.map (·.1) = types
  sound : ∀ task ∈ state.1, task.2.Sound (catalog.resolver settings policy) task.1
  consistent : Consistent catalog settings policy state.2

theorem underway_of_asked {session : Session} (types : List TypeDecl)
    (consistent : Consistent catalog settings policy session) :
    Underway catalog settings policy types (types.map (·, .asked), session) where
  types := by
    rw [List.map_map]
    exact List.map_id _
  sound task member := by
    obtain ⟨type, -, rfl⟩ := List.mem_map.mp member
    exact True.intro
  consistent := consistent

theorem Underway.step (faithful : catalog.Faithful) (selective : policy.Selective)
    {types : List TypeDecl} (there : ∀ type ∈ types, type ∈ catalog.types)
    {state next : List (TypeDecl × Stage) × Session}
    (underway : Underway catalog settings policy types state)
    (step : Step catalog.provider state next) :
    Underway catalog settings policy types next := by
  obtain ⟨sameTypes, sound, consistent⟩ := underway
  cases step with
  | advance front back type stage session =>
    have listed : (type, stage) ∈ front ++ (type, stage) :: back :=
      List.mem_append_right _ List.mem_cons_self
    have present : type ∈ catalog.types :=
      there type (sameTypes ▸ List.mem_map_of_mem listed)
    have soundHere : stage.Sound (catalog.resolver settings policy) type :=
      sound (type, stage) listed
    obtain ⟨found, later⟩ := consistent.advance faithful selective present soundHere
    refine ⟨?_, fun task member => ?_, later⟩
    · rw [← sameTypes, List.map_append, List.map_append, List.map_cons, List.map_cons]
    · rcases List.mem_append.mp member with inFront | behind
      · exact sound task (List.mem_append_left _ inFront)
      · rcases List.mem_cons.mp behind with rfl | inBack
        · exact found
        · exact sound task (List.mem_append_right _ (List.mem_cons_of_mem _ inBack))

/-- **Whatever the order of the steps**, every analysis finds what would be computed. -/
theorem Underway.run (faithful : catalog.Faithful) (selective : policy.Selective)
    {types : List TypeDecl} (there : ∀ type ∈ types, type ∈ catalog.types)
    {state last : List (TypeDecl × Stage) × Session}
    (underway : Underway catalog settings policy types state)
    (run : Run catalog.provider state last) : Underway catalog settings policy types last := by
  induction run with
  | refl => exact underway
  | tail _ step ih => exact ih.step faithful selective there step

/-- Analyses that are all done have found the anatomies of their types. -/
theorem Underway.outcomes {types : List TypeDecl}
    {answers : List (TypeDecl × Except Failure Anatomy)} {last : Session}
    (underway : Underway catalog settings policy types
      (answers.map fun answer => (answer.1, .done answer.2), last)) :
    answers.map (·.2) = types.map (catalog.resolver settings policy).anatomy := by
  rw [← underway.types, List.map_map, List.map_map]
  exact List.map_congr_left fun answer member => underway.sound _ (List.mem_map_of_mem member)

end Runs

/-! ### One analysis after the other -/

/-- What runs on its own runs behind other analyses as well. -/
theorem Run.behind {provider : Provider} (front : List (TypeDecl × Stage))
    {state last : List (TypeDecl × Stage) × Session} (run : Run provider state last) :
    Run provider (front ++ state.1, state.2) (front ++ last.1, last.2) := by
  induction run with
  | refl => exact .refl
  | tail _ step ih =>
    refine ih.tail ?_
    cases step with
    | advance ahead back type stage session =>
      have step := @Step.advance provider (front ++ ahead) back type stage session
      rw [List.append_assoc, List.append_assoc] at step
      exact step

/-- Two steps of an analysis that is left alone come to what it answers at once. -/
theorem advance_advance (provider : Provider) (session : Session) (type : TypeDecl) :
    (session.advance provider type .asked).2.advance provider type
        (session.advance provider type .asked).1 =
      (.done (session.analyze provider type).value.1, (session.analyze provider type).value.2) := by
  unfold analyze
  rw [Traced.value_bind]
  unfold advance
  generalize (session.resolveType provider type).value = answer
  obtain ⟨route?, later⟩ := answer
  cases route? with
  | error failure => rfl
  | ok route =>
    dsimp only
    generalize later.propertiesOf provider route = answer
    obtain ⟨⟨properties?, last⟩, notes⟩ := answer
    cases properties? <;> rfl

/-- An analysis that is left alone is done with in two steps. -/
theorem run_analyze (provider : Provider) (session : Session) (type : TypeDecl)
    (rest : List (TypeDecl × Stage)) :
    Run provider ((type, .asked) :: rest, session)
      ((type, .done (session.analyze provider type).value.1) :: rest,
        (session.analyze provider type).value.2) := by
  have first := @Step.advance provider [] rest type .asked session
  have second := @Step.advance provider [] rest type
    (session.advance provider type .asked).1 (session.advance provider type .asked).2
  rw [advance_advance] at second
  exact (Relation.ReflTransGen.single first).tail second

/-- **Analyses made one after the other are one way to make them all at once.** -/
theorem run_analyzeAll (provider : Provider) (types : List TypeDecl) (session : Session) :
    ∃ answers : List (TypeDecl × Except Failure Anatomy),
      answers.map (·.2) = (analyzeAll provider types session).1 ∧
      Run provider (types.map (·, .asked), session)
        (answers.map fun answer => (answer.1, .done answer.2),
          (analyzeAll provider types session).2) := by
  induction types generalizing session with
  | nil => exact ⟨[], rfl, .refl⟩
  | cons type rest ih =>
    obtain ⟨answers, outcomes, run⟩ := ih (session.analyze provider type).value.2
    refine ⟨(type, (session.analyze provider type).value.1) :: answers, ?_, ?_⟩
    · exact congrArg (_ :: ·) outcomes
    · exact (run_analyze provider session type _).trans (run.behind [_])

/-! ### Any requests -/

/-- A request to a session for analyses. -/
inductive Request where
  /-- Asks for the analysis of a type. -/
  | analyze (type : TypeDecl)
  /-- Asks for the analyses of many types. -/
  | analyzeAll (types : List TypeDecl)
  /-- Has everything forgotten. -/
  | clear
  deriving DecidableEq, Repr

/-- The types whose analyses are asked for, in their order. -/
def Request.types : Request → List TypeDecl
  | analyze type => [type]
  | analyzeAll types => types
  | clear => []

/-- The answers to a request, one for each type, and the session after it: many analyses are made
one after the other. -/
def serve (provider : Provider) (session : Session) :
    Request → List (Except Failure Anatomy) × Session
  | .analyze type =>
    let (outcome, session) := (session.analyze provider type).value
    ([outcome], session)
  | .analyzeAll types => analyzeAll provider types session
  | .clear => ([], session.cleared)

/-- The answers to requests made one after the other. -/
def answers (provider : Provider) : List Request → Session → List (List (Except Failure Anatomy))
  | [], _ => []
  | request :: rest, session =>
    (session.serve provider request).1 :: answers provider rest (session.serve provider request).2

/-- A request may be answered so, and leaves such a session: many analyses are made at once, their
steps in any order. -/
inductive Serves (provider : Provider) :
    Session → Request → List (Except Failure Anatomy) → Session → Prop
  | analyze (session : Session) (type : TypeDecl) :
      Serves provider session (.analyze type) [(session.analyze provider type).value.1]
        (session.analyze provider type).value.2
  | analyzeAll {session last : Session} {types : List TypeDecl}
      (answers : List (TypeDecl × Except Failure Anatomy))
      (run : Run provider (types.map (·, .asked), session)
        (answers.map fun answer => (answer.1, .done answer.2), last)) :
      Serves provider session (.analyzeAll types) (answers.map (·.2)) last
  | clear (session : Session) : Serves provider session .clear [] session.cleared

/-- Requests that follow each other may be answered so. -/
inductive Answers (provider : Provider) :
    Session → List Request → List (List (Except Failure Anatomy)) → Prop
  | nothing (session : Session) : Answers provider session [] []
  | request {session between : Session} {request : Request} {rest : List Request}
      {outcomes : List (Except Failure Anatomy)} {later : List (List (Except Failure Anatomy))}
      (served : Serves provider session request outcomes between)
      (answered : Answers provider between rest later) :
      Answers provider session (request :: rest) (outcomes :: later)

theorem serves_serve (provider : Provider) (session : Session) (request : Request) :
    Serves provider session request (session.serve provider request).1
      (session.serve provider request).2 := by
  cases request with
  | analyze type => exact .analyze session type
  | analyzeAll types =>
    obtain ⟨answers, outcomes, run⟩ := run_analyzeAll provider types session
    change Serves provider session _ (analyzeAll provider types session).1 _
    rw [← outcomes]
    exact .analyzeAll answers run
  | clear => exact .clear session

/-- To answer one after the other is a way to answer. -/
theorem answers_answers (provider : Provider) (requests : List Request) (session : Session) :
    Answers provider session requests (answers provider requests session) := by
  induction requests generalizing session with
  | nil => exact .nothing session
  | cons request rest ih => exact .request (serves_serve provider session request) (ih _)

section

variable {catalog : Catalog} {settings : Settings} {policy : Policy} {session last : Session}

/-- **A request is answered as it would be computed**, and what is remembered stays so. -/
theorem Consistent.serves (faithful : catalog.Faithful) (selective : policy.Selective)
    (consistent : Consistent catalog settings policy session) {request : Request}
    {outcomes : List (Except Failure Anatomy)}
    (there : ∀ type ∈ request.types, type ∈ catalog.types)
    (served : Serves catalog.provider session request outcomes last) :
    outcomes = request.types.map (catalog.resolver settings policy).anatomy ∧
      Consistent catalog settings policy last := by
  cases served with
  | analyze type =>
    obtain ⟨answer, later⟩ :=
      consistent.analyze faithful selective (there type (List.mem_singleton_self type))
    exact ⟨congrArg ([·]) answer, later⟩
  | @analyzeAll _ types _ run =>
    have underway := (underway_of_asked types consistent).run faithful selective there run
    exact ⟨underway.outcomes, underway.consistent⟩
  | clear =>
    exact ⟨rfl, consistent_of_nothing consistent.sameSettings consistent.samePolicy rfl rfl⟩

theorem Consistent.answers (faithful : catalog.Faithful) (selective : policy.Selective)
    (consistent : Consistent catalog settings policy session) {requests : List Request}
    {given : List (List (Except Failure Anatomy))}
    (there : ∀ request ∈ requests, ∀ type ∈ request.types, type ∈ catalog.types)
    (answered : Answers catalog.provider session requests given) :
    given =
      requests.map fun request => request.types.map (catalog.resolver settings policy).anatomy := by
  induction answered with
  | nothing session => rfl
  | @request session between request rest outcomes later served answered ih =>
    obtain ⟨answer, after⟩ :=
      consistent.serves faithful selective (there request List.mem_cons_self) served
    rw [List.map_cons, answer,
      ih after fun other member => there other (List.mem_cons_of_mem _ member)]

/-- **Requests on one session are answered as each analysis would be on a session of its own**, in
any order, with repetitions, whatever is forgotten in between, and however the steps of analyses
made at once are mixed. -/
theorem answers_eq_map (grown : catalog.Grown) (settings : Settings) {requests : List Request}
    (there : ∀ request ∈ requests, ∀ type ∈ request.types, type ∈ catalog.types) :
    (answers catalog.provider requests (ofSettings settings) =
      requests.map fun request => request.types.map fun type =>
        ((ofSettings settings).analyze catalog.provider type).value.1) ∧
    ∀ given, Answers catalog.provider (ofSettings settings) requests given →
      given = requests.map fun request => request.types.map fun type =>
        ((ofSettings settings).analyze catalog.provider type).value.1 := by
  have selective := Policy.selective_byMarker settings.creatorMarker
  have start : Consistent catalog settings (.byMarker settings.creatorMarker)
      (ofSettings settings) := consistent_of_nothing rfl rfl rfl rfl
  have determined : ∀ given, Answers catalog.provider (ofSettings settings) requests given →
      given = requests.map fun request => request.types.map fun type =>
        ((ofSettings settings).analyze catalog.provider type).value.1 := by
    intro given answered
    rw [start.answers grown.faithful selective there answered]
    refine List.map_congr_left fun request _ => List.map_congr_left fun type _ => ?_
    exact (fst_analyze_ofSettings settings catalog.provider type).symm
  exact ⟨determined _ (answers_answers catalog.provider requests (ofSettings settings)), determined⟩

end

/-- The account and its builder, and an interface that nothing makes instances of. -/
def accountsAndLedger : Catalog :=
  (Resolver.accounts.declare (.mk { form := .interface, name := "Ledger" } [])).2

/-- An analysis in words: the route and the names of the properties, or the failure. -/
def inWords : Except Failure Anatomy → (String × List String) ⊕ String
  | .ok anatomy => .inl (anatomy.route.text, anatomy.properties.names)
  | .error failure => .inr failure.message

/-- The account and its builder are built each in its own way, and the ledger in none. None of this
depends on what was asked before or meanwhile, nor on what is forgotten in between. -/
theorem answers_eq_map_accounts :
    accountsAndLedger.Grown ∧ ∃ account builder ledger requests alone,
      accountsAndLedger.findByName? "Account" = some account ∧
      accountsAndLedger.findByName? "Account.Builder" = some builder ∧
      accountsAndLedger.findByName? "Ledger" = some ledger ∧
      requests = [.analyze ledger, .analyze account, .analyzeAll [builder, ledger, account], .clear,
        .analyze builder] ∧
      alone = (fun type => ((ofSettings { creatorMarker := some "Creator" }).analyze
        accountsAndLedger.provider type).value.1) ∧
      inWords (alone account) = .inl ("factory Account.of(int)", ["id"]) ∧
      inWords (alone builder) = .inl ("constructor Account.Builder()", ["build"]) ∧
      inWords (alone ledger) =
        .inr "[NoCreatorFound] no constructor, factory or builder found for Ledger (at Ledger)" ∧
      answers accountsAndLedger.provider requests (ofSettings { creatorMarker := some "Creator" }) =
        [[alone ledger], [alone account], [alone builder, alone ledger, alone account], [],
          [alone builder]] ∧
      ∀ given, Answers accountsAndLedger.provider (ofSettings { creatorMarker := some "Creator" })
          requests given →
        given = [[alone ledger], [alone account], [alone builder, alone ledger, alone account], [],
          [alone builder]] := by
  have grown : accountsAndLedger.Grown := .declared _ (.declared _ .empty)
  obtain ⟨account, foundAccount⟩ : ∃ account,
      accountsAndLedger.findByName? "Account" = some account :=
    Option.isSome_iff_exists.mp (by decide)
  obtain ⟨builder, foundBuilder⟩ : ∃ builder,
      accountsAndLedger.findByName? "Account.Builder" = some builder :=
    Option.isSome_iff_exists.mp (by decide)
  obtain ⟨ledger, foundLedger⟩ : ∃ ledger,
      accountsAndLedger.findByName? "Ledger" = some ledger :=
    Option.isSome_iff_exists.mp (by decide)
  have outcomes : ∀ named ∈
      [("Account", .inl ("factory Account.of(int)", ["id"])),
        ("Account.Builder", .inl ("constructor Account.Builder()", ["build"])),
        ("Ledger", .inr
          "[NoCreatorFound] no constructor, factory or builder found for Ledger (at Ledger)")],
      ∀ type ∈ accountsAndLedger.findByName? named.1,
        inWords ((ofSettings { creatorMarker := some "Creator" }).analyze
          accountsAndLedger.provider type).value.1 = named.2 := by decide
  simp only [List.forall_mem_cons] at outcomes
  obtain ⟨ofAccount, ofBuilder, ofLedger, -⟩ := outcomes
  have accountThere := Catalog.mem_types_of_findByName? foundAccount
  have builderThere := Catalog.mem_types_of_findByName? foundBuilder
  have ledgerThere := Catalog.mem_types_of_findByName? foundLedger
  refine ⟨grown, account, builder, ledger, _, _, foundAccount, foundBuilder, foundLedger, rfl, rfl,
    ofAccount account foundAccount, ofBuilder builder foundBuilder, ofLedger ledger foundLedger, ?_⟩
  refine answers_eq_map grown { creatorMarker := some "Creator" } ?_
  simp [Request.types, accountThere, builderThere, ledgerThere]

end ValueAnatomy.Session
