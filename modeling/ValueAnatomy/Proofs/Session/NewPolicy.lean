/-
**A new policy decides what is not remembered.**

A session that is given another policy keeps what it remembers. A question that was answered before
keeps its answer, be it a failure that the new policy would have spared, until everything is
forgotten. Every other question is answered as by a session that had the new policy from the start.

* `Session.lookup_routes_after`: which routes any session remembers after any calls, by what it
  remembered before and by what was asked;
* `Session.answers_withPolicy`: which answers come from before the new policy, and what the others
  are;
* `Session.withPolicy_remembers`: an answer from before the new policy that it would not give.
-/

import ValueAnatomy.Catalog.Draft
import ValueAnatomy.Proofs.Session.Independence
import ValueAnatomy.Proofs.Session.RouteRecall

namespace ValueAnatomy.Session

/-- What a session remembers about a route and still does after calls, if none has everything
forgotten. -/
def keptRoute? (session : Session) (calls : List Call) (question : RouteQuestion) :
    Option (Except Failure Route) :=
  if .clear ∈ calls then none else session.routes.lookup question

variable (session : Session) (provider : Provider) (calls : List Call)

/-! ### What is kept -/

theorem keptRoute?_append_singleton (call : Call) (question : RouteQuestion) :
    session.keptRoute? (calls ++ [call]) question =
      if call = .clear then none else session.keptRoute? calls question := by
  by_cases clears : call = .clear
  · simp [keptRoute?, clears]
  · simp [keptRoute?, clears, Ne.symm clears]

/-- A session of which nothing was asked yet keeps nothing. -/
theorem keptRoute?_fresh (settings : Settings) (policy : Policy) (question : RouteQuestion) :
    (fresh settings policy).keptRoute? calls question = none := by
  unfold keptRoute?
  split <;> rfl

/-! ### Routes -/

theorem resolver_eq_of_after :
    (session.after provider calls).resolver provider = session.resolver provider := by
  obtain ⟨settings, policy⟩ := rules_after session provider calls
  rw [resolver, settings, policy, resolver]

/-- One call adds the answer to what it asks, unless there is one already. -/
theorem lookup_routes_perform (call : Call) (question : RouteQuestion) :
    (session.perform provider call).routes.lookup question =
      if call = .clear then none
      else (session.routes.lookup question).or
        ((call.request?.toList.find? fun request => request.question = question).map
          fun request => ((session.resolver provider).answer request).result) := by
  by_cases clears : call = .clear
  · rw [if_pos clears, clears]
    rfl
  · rw [if_neg clears]
    cases asks : call.request? with
    | none => simp [(perform_of_no_request asks).2 clears]
    | some request =>
      rw [(recallRequest_of_request asks).2.1, recallRequest, routes_recallRoute, lookup_remember]
      by_cases same : request.question = question
      · simp [same]
      · simp [same, Ne.symm same]

/-- **After any calls a session remembers a route as it did before**, or else as it is computed for
the first request of its question. -/
theorem lookup_routes_after (question : RouteQuestion) :
    (session.after provider calls).routes.lookup question =
      (session.keptRoute? calls question).or
        (((requestsOf calls).find? fun request => request.question = question).map
          fun request => ((session.resolver provider).answer request).result) := by
  induction calls using List.reverseRecOn with
  | nil => simp [keptRoute?, requestsOf]
  | append_singleton calls call ih =>
    rw [after_append_singleton, lookup_routes_perform, keptRoute?_append_singleton, ih,
      resolver_eq_of_after]
    by_cases clears : call = .clear
    · subst clears
      simp [requestsOf_append_clear]
    · rw [if_neg clears, if_neg clears, requestsOf_append_singleton calls clears,
        List.find?_append, Option.map_or, Option.or_assoc]

/-- A call is answered by what is remembered about its question, or else as it is computed. -/
theorem routeAnswer?_of_request {call : Call} {request : RouteRequest}
    (asks : call.request? = some request) :
    session.routeAnswer? provider call =
      some ((session.routes.lookup request.question).getD
        ((session.resolver provider).answer request).result) := by
  rw [(recallRequest_of_request asks).1, recallRequest, fst_recallRoute]

/-- A question that is remembered is answered as before. -/
theorem routeAnswer?_after_of_kept {call : Call} {request : RouteRequest}
    {outcome : Except Failure Route} (asks : call.request? = some request)
    (kept : session.keptRoute? calls request.question = some outcome) :
    (session.after provider calls).routeAnswer? provider call = some outcome := by
  rw [routeAnswer?_of_request _ _ asks, lookup_routes_after, kept]
  rfl

/-- A question that is not remembered is answered as for the first request of it. -/
theorem routeAnswer?_after_of_unknown {call : Call} {request : RouteRequest}
    (asks : call.request? = some request)
    (unknown : session.keptRoute? calls request.question = none) :
    (session.after provider calls).routeAnswer? provider call =
      some ((session.resolver provider).answer
        (((requestsOf calls).find? fun other => other.question = request.question).getD
          request)).result := by
  rw [routeAnswer?_of_request _ _ asks, lookup_routes_after, unknown, resolver_eq_of_after]
  cases (requestsOf calls).find? fun other => other.question = request.question <;> rfl

/-- Where no two declarations that are asked about have one handle, the first request of a question
is the only one. -/
theorem first_eq_of_distinctHandles {calls : List Call} {call : Call} {request : RouteRequest}
    (distinct : RouteRequest.DistinctHandles ((calls ++ [call]).filterMap Call.request?))
    (asks : call.request? = some request) :
    ((requestsOf calls).find? fun other => other.question = request.question).getD request =
      request := by
  cases found : (requestsOf calls).find? fun other => other.question = request.question with
  | none => rfl
  | some other =>
    have asked : other ∈ (calls ++ [call]).filterMap Call.request? := by
      rw [List.filterMap_append]
      exact List.mem_append_left _ (mem_of_mem_requestsOf (List.mem_of_find?_eq_some found))
    have last : request ∈ (calls ++ [call]).filterMap Call.request? := by simp [asks]
    exact distinct.eq_of_question asked last (by simpa using List.find?_some found)

/-! ### Properties -/

/-- The properties along a route are those found along it, if what is remembered by their question
is just that. -/
theorem fst_propertiesOf_after {route : Route}
    (kept : ∀ outcome, session.keptProperties? calls route.propertyQuestion = some outcome →
      outcome = (provider.propertiesAlong session.settings route).result)
    (asked : ∀ other ∈ session.asked provider calls,
      other.propertyQuestion = route.propertyQuestion → other = route) :
    ((session.after provider calls).propertiesOf provider route).value.1 =
      (provider.propertiesAlong session.settings route).result := by
  rw [fst_propertiesOf, lookup_properties_after, (rules_after session provider calls).1]
  cases before : session.keptProperties? calls route.propertyQuestion with
  | some outcome => exact kept outcome before
  | none =>
    rw [Option.none_or]
    cases found : (session.asked provider calls).find? fun other =>
        other.propertyQuestion = route.propertyQuestion with
    | none => rfl
    | some other =>
      rw [asked other (List.mem_of_find?_eq_some found) (by simpa using List.find?_some found)]
      rfl

/-! ### Another policy -/

/-- **What is not remembered from before is answered as under the new policy alone.** -/
theorem routeAnswer?_withPolicy (policy : Policy) (call : Call)
    (unknown : ∀ request ∈ call.request?, session.keptRoute? calls request.question = none) :
    ((session.withPolicy policy).after provider calls).routeAnswer? provider call =
        ((fresh session.settings policy).after provider calls).routeAnswer? provider call ∧
      (RouteRequest.DistinctHandles ((calls ++ [call]).filterMap Call.request?) →
        ((session.withPolicy policy).after provider calls).routeAnswer? provider call =
          (fresh session.settings policy).routeAnswer? provider call) := by
  have resolves : (session.withPolicy policy).resolver provider =
      (fresh session.settings policy).resolver provider := rfl
  have nothing : ∀ question,
      (fresh session.settings policy).routes.lookup question = none := fun _ => rfl
  cases asks : call.request? with
  | none =>
    rw [(perform_of_no_request asks).1, (perform_of_no_request asks).1,
      (perform_of_no_request asks).1, resolver_eq_of_after, resolver_eq_of_after, resolves]
    exact ⟨rfl, fun _ => rfl⟩
  | some request =>
    have answer := routeAnswer?_after_of_unknown (session.withPolicy policy) provider calls asks
      (unknown request asks)
    have answerAlone := routeAnswer?_after_of_unknown (fresh session.settings policy) provider calls
      asks (keptRoute?_fresh calls session.settings policy request.question)
    rw [← resolves, ← answer] at answerAlone
    refine ⟨answerAlone.symm, fun distinct => ?_⟩
    have first := routeAnswer?_of_request (fresh session.settings policy) provider asks
    rw [nothing, Option.getD_none] at first
    rw [answer, first_eq_of_distinctHandles distinct asks, first, resolves]

/-- **So is an analysis**, if what is remembered by the question about its properties is what is
found along the route. -/
theorem fst_analyze_withPolicy (policy : Policy) (type : TypeDecl)
    (unknown : session.keptRoute? calls ⟨type.handle, .type⟩ = none)
    (distinct : RouteRequest.DistinctHandles ((calls ++
      [Call.analyze type]).filterMap Call.request?))
    (along : ∀ route, (fresh session.settings policy).routeAnswer? provider (.analyze type) =
        some (.ok route) →
      (∀ outcome, session.keptProperties? calls route.propertyQuestion = some outcome →
        outcome = (provider.propertiesAlong session.settings route).result) ∧
      ∀ other ∈ (session.withPolicy policy).asked provider calls,
        other.propertyQuestion = route.propertyQuestion → other = route) :
    (((session.withPolicy policy).after provider calls).analyze provider type).value.1 =
      ((fresh session.settings policy).analyze provider type).value.1 := by
  have chosen : (((session.withPolicy policy).after provider calls).resolveType
      provider type).value.1 =
        ((fresh session.settings policy).resolveType provider type).value.1 := by
    refine Option.some.inj ((routeAnswer?_withPolicy session provider calls policy
      (.analyze type) fun request asked => ?_).2 distinct)
    obtain rfl := Option.some.inj asked
    exact unknown
  rw [fst_analyze, fst_analyze, chosen]
  cases answered : ((fresh session.settings policy).resolveType provider type).value.1 with
  | error failure => simp only [Except.bind]
  | ok route =>
    obtain ⟨kept, asked⟩ := along route (congrArg some answered)
    have found := fst_propertiesOf_after (session.withPolicy policy) provider calls kept asked
    have keeps := keeps_resolveType ((session.withPolicy policy).after provider calls) provider type
    have keepsAlone := keeps_resolveType (fresh session.settings policy) provider type
    have nothing : (fresh session.settings policy).properties.lookup route.propertyQuestion =
      none := rfl
    have rules : (fresh session.settings policy).settings =
      (session.withPolicy policy).settings := rfl
    rw [fst_propertiesOf] at found
    dsimp only [Except.bind]
    rw [fst_propertiesOf, keeps.properties, keeps.settings, found, fst_propertiesOf,
      keepsAlone.properties, keepsAlone.settings, nothing, rules, Option.getD_none]

/-- **A new policy decides what is not remembered.** Whatever a session remembers when it is given
another policy, and whatever is asked of it then: a question that is remembered from before is
answered as before. Every other one is answered as by a session of the same rules that had the
policy from the start and of which the same was asked since; as long as no two declarations that
were asked about since have one handle, that is how a session answers of which nothing was asked.
The same holds of analyses, if what is remembered by the question about the properties is what is
found along the route. -/
theorem answers_withPolicy (provider : Provider) (session : Session) (policy : Policy)
    (later : List Call) :
    let now := (session.withPolicy policy).after provider later
    let alone := fresh session.settings policy
    (∀ call request outcome, call.request? = some request →
      session.keptRoute? later request.question = some outcome →
        now.routeAnswer? provider call = some outcome ∧
          session.routeAnswer? provider call = some outcome) ∧
    (∀ call, (∀ request ∈ call.request?, session.keptRoute? later request.question = none) →
      now.routeAnswer? provider call = (alone.after provider later).routeAnswer? provider call ∧
        (RouteRequest.DistinctHandles ((later ++ [call]).filterMap Call.request?) →
          now.routeAnswer? provider call = alone.routeAnswer? provider call)) ∧
    ∀ type, session.keptRoute? later ⟨type.handle, .type⟩ = none →
      RouteRequest.DistinctHandles ((later ++ [Call.analyze type]).filterMap Call.request?) →
      (∀ route, alone.routeAnswer? provider (.analyze type) = some (.ok route) →
        (∀ outcome, session.keptProperties? later route.propertyQuestion = some outcome →
          outcome = (provider.propertiesAlong session.settings route).result) ∧
        ∀ other ∈ (session.withPolicy policy).asked provider later,
          other.propertyQuestion = route.propertyQuestion → other = route) →
      (now.analyze provider type).value.1 = (alone.analyze provider type).value.1 := by
  intro now alone
  refine ⟨fun call request outcome asks kept => ⟨routeAnswer?_after_of_kept _ _ _ asks kept, ?_⟩,
    fun call unknown => routeAnswer?_withPolicy session provider later policy call unknown,
    fun type unknown distinct along =>
      fst_analyze_withPolicy session provider later policy type unknown distinct along⟩
  unfold keptRoute? at kept
  split at kept
  · cases kept
  · exact routeAnswer?_after_of_kept session provider [] asks kept

/-- A session that was asked how a box with two constructors is built. No constructor has a marker,
so that it remembers a failure. -/
def undecided? : Option (TypeDecl × Session) := do
  let box ← (boxes apartParams).findByName? "com.example.Box"
  pure (box, (fresh {} (.byMarker none)).after (boxes apartParams).provider [.resolveType box])

/-- Given a policy that takes the first route, the session still fails. Once everything is forgotten
it takes the first constructor, and analyses are those of a session of its own. -/
theorem answers_withPolicy_boxes :
    ∃ box session refusal first, undecided? = some (box, session) ∧
      boxRoute? apartParams 0 = some first ∧
      ((session.withPolicy .first).after (boxes apartParams).provider []).routeAnswer?
        (boxes apartParams).provider (.resolveType box) = some (.error refusal) ∧
      ((session.withPolicy .first).after (boxes apartParams).provider [.clear]).routeAnswer?
        (boxes apartParams).provider (.resolveType box) = some (.ok first) ∧
      (((session.withPolicy .first).after (boxes apartParams).provider [.clear]).analyze
        (boxes apartParams).provider box).value.1 =
          ((fresh {} .first).analyze (boxes apartParams).provider box).value.1 := by
  obtain ⟨⟨box, session⟩, given⟩ : ∃ pair, undecided? = some pair :=
    Option.isSome_iff_exists.mp (by decide)
  obtain ⟨first, found⟩ : ∃ first, boxRoute? apartParams 0 = some first :=
    Option.isSome_iff_exists.mp (by decide)
  have rules : ∀ pair ∈ undecided?, pair.2.settings = {} := by decide
  have refused : ∀ pair ∈ undecided?, ∃ outcome ∈
      pair.2.keptRoute? [] (RouteRequest.enumerated pair.1 false).question,
        outcome.toOption = none := by decide
  have taken : ∀ pair ∈ undecided?, ∀ first ∈ boxRoute? apartParams 0,
      (fresh {} .first).routeAnswer? (boxes apartParams).provider (.resolveType pair.1) =
        some (.ok first) := by decide
  obtain ⟨outcome, kept, fails⟩ := refused _ given
  obtain ⟨refusal, rfl⟩ : ∃ refusal, outcome = .error refusal := by
    cases outcome with
    | error refusal => exact ⟨refusal, rfl⟩
    | ok route => cases fails
  have unknown : ∀ request : RouteRequest,
      session.keptRoute? [.clear] request.question = none := fun request => rfl
  obtain ⟨before, -, -⟩ :=
    answers_withPolicy (boxes apartParams).provider session .first []
  obtain ⟨-, others, analyses⟩ :=
    answers_withPolicy (boxes apartParams).provider session .first [.clear]
  rw [rules _ given] at others analyses
  refine ⟨box, session, refusal, first, given, found, (before _ _ _ rfl kept).1, ?_, ?_⟩
  · rw [(others (.resolveType box) fun request _ => unknown request).2 ?_,
      taken _ given first found]
    simp [Call.request?, RouteRequest.DistinctHandles]
  · refine analyses box rfl ?_ fun route _ => ⟨fun outcome known => ?_, fun other asked => ?_⟩
    · simp [Call.request?, RouteRequest.DistinctHandles]
    · cases known
    · cases asked

/-- The catalog with a box whose two constructors have one handle. -/
def twins : Catalog :=
  (Catalog.initial.enter
    { package := "com.example"
      name := "Box"
      constructors := apartParams.map fun param =>
        { handle := some (.ofIndex .constructor 9)
          kind := .constructor
          name := constructorName
          params := [param] } }).2

/-- **A new policy is not always that of the answers.** A failure that is remembered from before is
answered where the new policy would choose, and so are properties along a route that it would not
choose. Where two constructors have one handle, the second is answered by the route of the first, if
that was asked about under the new policy. -/
theorem withPolicy_remembers :
    (¬∀ (provider : Provider) (settings : Settings) (old policy : Policy) (calls later : List Call)
      (call : Call),
      ((((fresh settings old).after provider calls).withPolicy policy).after provider
          later).routeAnswer? provider call =
        ((fresh settings policy).after provider later).routeAnswer? provider call) ∧
    (¬∀ (provider : Provider) (settings : Settings) (old policy : Policy) (calls : List Call)
      (type : TypeDecl),
      ((((fresh settings old).after provider calls).withPolicy policy).analyze
          provider type).value.1 = ((fresh settings policy).analyze provider type).value.1) ∧
    ¬∀ (provider : Provider) (settings : Settings) (old policy : Policy) (later : List Call)
      (call : Call),
      (((fresh settings old).withPolicy policy).after provider later).routeAnswer? provider call =
        (fresh settings policy).routeAnswer? provider call := by
  refine ⟨fun same => ?_, fun same => ?_, fun same => ?_⟩
  · have stale : ∀ box ∈ (boxes apartParams).findByName? "com.example.Box",
        (((fresh {} (.byMarker none)).after (boxes apartParams).provider
            [.resolveType box]).withPolicy .first).routeAnswer? (boxes apartParams).provider
              (.resolveType box) ≠
          (fresh {} .first).routeAnswer? (boxes apartParams).provider (.resolveType box) := by
      decide
    obtain ⟨box, found⟩ : ∃ box, (boxes apartParams).findByName? "com.example.Box" = some box :=
      Option.isSome_iff_exists.mp (by decide)
    exact stale box found (same _ {} (.byMarker none) .first [.resolveType box] [] _)
  · have stale : ∀ route ∈ boxRoute? sharedParams 0,
        ((((fresh {} (.byMarker none)).after (boxes sharedParams).provider
            [.propertiesOf route]).withPolicy .last).analyze (boxes sharedParams).provider
              route.target).value.1 ≠
          ((fresh {} .last).analyze (boxes sharedParams).provider route.target).value.1 := by
      decide
    obtain ⟨route, found⟩ : ∃ route, boxRoute? sharedParams 0 = some route :=
      Option.isSome_iff_exists.mp (by decide)
    exact stale route found (same _ {} (.byMarker none) .last [.propertiesOf route] _)
  · have stale : ∀ box ∈ twins.findByName? "com.example.Box",
        ∀ first ∈ box.constructors[0]?, ∀ second ∈ box.constructors[1]?,
          (((fresh {} (.byMarker none)).withPolicy .first).after twins.provider
              [.resolveRoute (.constructor first) false]).routeAnswer? twins.provider
                (.resolveRoute (.constructor second) false) ≠
            (fresh {} .first).routeAnswer? twins.provider
              (.resolveRoute (.constructor second) false) := by
      decide
    obtain ⟨box, found⟩ : ∃ box, twins.findByName? "com.example.Box" = some box :=
      Option.isSome_iff_exists.mp (by decide)
    have two : ∀ box ∈ twins.findByName? "com.example.Box", box.constructors.length = 2 := by decide
    obtain ⟨first, second, listed⟩ := List.length_eq_two.mp (two box found)
    exact stale box found first (by rw [listed]; rfl) second (by rw [listed]; rfl)
      (same _ {} (.byMarker none) .first _ _)

end ValueAnatomy.Session
