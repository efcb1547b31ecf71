/-
**Remembering routes is not seen.**

Two ways lead to one remembered answer: a callable may be asked about as a declaration, and by the
shape of the route that it is to start with. Failures are remembered like routes, so that a question
shared by requests of different answers would show. None is shared as long as no two declarations
that are asked about have one handle.

* `RouteRequest`: what is asked about a route, whichever call asks it;
* `Session.RecallsRoutes`: the session remembers one answer to each question, as it was computed for
  a request;
* `Session.RecallsRoutes.recallRequest`: one more request keeps this, and so does every call;
* `Session.routeAnswer?_after`: after any calls, routes are answered as with nothing remembered, by
  the same answer in either form, and as many are remembered as questions were asked since the
  session was last cleared.
-/

import Mathlib.Data.Finset.Card
import Mathlib.Data.List.DropRight
import Mathlib.Data.List.Induction
import ValueAnatomy.Proofs.Route.Creators
import ValueAnatomy.Proofs.Session.PropertyRecall

namespace ValueAnatomy

theorem Declaration.ofCallable_injective : Function.Injective ofCallable := by
  intro first second same
  unfold ofCallable at same
  split at same <;> split at same <;> cases same <;> rfl

/-! ### Requests -/

/-- What is asked about a route. -/
inductive RouteRequest where
  /-- How a type is built, or what it builds if it is taken for a builder. -/
  | enumerated (type : TypeDecl) (asBuilder : Bool)
  /-- Which route of a shape starts with a callable. -/
  | known (shape : RouteShape) (callable : CallableDecl)
  deriving DecidableEq, Repr

namespace RouteRequest

/-- The declaration that is asked about. -/
def subject : RouteRequest → Declaration
  | enumerated type _ => .type type
  | known _ callable => .ofCallable callable

/-- How it is asked about. -/
def inquiry : RouteRequest → Inquiry
  | enumerated _ asBuilder => if asBuilder then .builder else .type
  | known shape _ => .start shape

/-- By what the answer is remembered. -/
def question (request : RouteRequest) : RouteQuestion := ⟨request.subject.handle, request.inquiry⟩

/-- Declarations that are asked about under one handle are one declaration. -/
def DistinctHandles (requests : List RouteRequest) : Prop :=
  ∀ first ∈ requests, ∀ second ∈ requests,
    first.subject.handle = second.subject.handle → first.subject = second.subject

instance (requests : List RouteRequest) : Decidable (DistinctHandles requests) :=
  inferInstanceAs (Decidable (∀ first ∈ requests, ∀ second ∈ requests, _ → _))

theorem eq_of_subject {first second : RouteRequest} (subjects : first.subject = second.subject)
    (inquiries : first.inquiry = second.inquiry) : first = second := by
  cases first with
  | enumerated type asBuilder =>
    cases second with
    | enumerated typeToo asBuilderToo =>
      obtain rfl := Declaration.type.inj subjects
      cases asBuilder <;> cases asBuilderToo <;> first | rfl | cases inquiries
    | known shape callable => cases asBuilder <;> cases inquiries
  | known shape callable =>
    cases second with
    | enumerated type asBuilder => cases asBuilder <;> cases inquiries
    | known shapeToo callableToo =>
      obtain rfl := Inquiry.start.inj inquiries
      obtain rfl := Declaration.ofCallable_injective subjects
      rfl

/-- **Requests of one question are one request.** -/
theorem DistinctHandles.eq_of_question {requests : List RouteRequest}
    (distinct : DistinctHandles requests) {first second : RouteRequest}
    (member : first ∈ requests) (other : second ∈ requests)
    (same : first.question = second.question) : first = second := by
  obtain ⟨handles, inquiries⟩ := RouteQuestion.mk.inj same
  exact eq_of_subject (distinct first member second other handles) inquiries

end RouteRequest

/-- The answer to a request with nothing remembered. -/
def Resolver.answer (resolver : Resolver) : RouteRequest → Attempt Route
  | .enumerated type true => resolver.resolveBuilder type
  | .enumerated type false => resolver.resolve type
  | .known shape callable => resolver.routeFor shape callable

namespace Session

/-! ### What calls ask -/

/-- What a call asks about a route. -/
def Call.request? : Call → Option RouteRequest
  | .resolveRoute (.type type) fromBuilder => some (.enumerated type fromBuilder)
  | .resolveRoute (.constructor callable) fromBuilder =>
    some (.known ⟨.constructor, fromBuilder⟩ callable)
  | .resolveRoute (.method callable) fromBuilder => some (.known ⟨.factory, fromBuilder⟩ callable)
  | .resolveRoute (.field _) _ => none
  | .resolveType type | .analyze type => some (.enumerated type false)
  | .routeFor shape callable => some (.known shape callable)
  | .propertiesOf _ | .clear => none

/-- What calls asked about routes since everything was last forgotten, the first request first. -/
def requestsOf (calls : List Call) : List RouteRequest :=
  (calls.rtakeWhile (· ≠ .clear)).filterMap Call.request?

/-- The route that a call is answered by, or an analysis goes by, if it asks for one. -/
def routeAnswer? (provider : Provider) (session : Session) : Call → Option (Except Failure Route)
  | .resolveRoute element fromBuilder =>
    some (session.resolveRoute provider element fromBuilder).value.1
  | .resolveType type | .analyze type => some (session.resolveType provider type).value.1
  | .routeFor shape callable => some (session.routeFor provider shape callable).value.1
  | .propertiesOf _ | .clear => none

/-- The route that the operation behind a call leads to, with nothing remembered. -/
def Call.routeUncached? (resolver : Resolver) : Call → Option (Except Failure Route)
  | .resolveRoute element fromBuilder => some (resolver.resolveElement element fromBuilder).result
  | .resolveType type | .analyze type => some (resolver.resolve type).result
  | .routeFor shape callable => some (resolver.routeFor shape callable).result
  | .propertiesOf _ | .clear => none

variable {provider : Provider} {settings : Settings} {policy : Policy} {session : Session}

theorem requestsOf_append_clear (calls : List Call) : requestsOf (calls ++ [.clear]) = [] := by
  rw [requestsOf, List.rtakeWhile_concat_neg _ _ _ (by simp), List.filterMap_nil]

theorem requestsOf_append_singleton (calls : List Call) {call : Call} (goesOn : call ≠ .clear) :
    requestsOf (calls ++ [call]) = requestsOf calls ++ call.request?.toList := by
  rw [requestsOf, List.rtakeWhile_concat_pos _ _ _ (by simpa using goesOn),
    List.filterMap_append, requestsOf]
  cases asks : call.request? <;> simp [asks]

/-- Since everything was last forgotten no more was asked than at all. -/
theorem mem_of_mem_requestsOf {calls : List Call} {request : RouteRequest}
    (member : request ∈ requestsOf calls) : request ∈ calls.filterMap Call.request? :=
  ((List.rtakeWhile_suffix _ _).sublist.filterMap _).subset member

/-! ### Calls are answered by their requests -/

/-- The answer to a request, as remembered or as computed. -/
def recallRequest (provider : Provider) (session : Session) (request : RouteRequest) :
    Traced (Except Failure Route × Session) :=
  session.recallRoute request.question fun _ => (session.resolver provider).answer request

theorem resolveType_eq_recallRequest (session : Session) (provider : Provider) (type : TypeDecl) :
    session.resolveType provider type =
      session.recallRequest provider (.enumerated type false) := rfl

/-- **A callable is asked about in two forms, and both are one request**, be it a constructor or a
method and looked upon as either. -/
theorem resolveRoute_eq_routeFor (session : Session) (provider : Provider) (start : Start)
    (callable : CallableDecl) (fromBuilder : Bool) :
    session.resolveRoute provider (start.declaration callable) fromBuilder =
      session.routeFor provider ⟨start, fromBuilder⟩ callable := by
  cases start <;> rfl

theorem resolveRoute_type (session : Session) (provider : Provider) (type : TypeDecl)
    (fromBuilder : Bool) :
    session.resolveRoute provider (.type type) fromBuilder =
      session.recallRequest provider (.enumerated type fromBuilder) := by
  cases fromBuilder <;> rfl

theorem routeFor_eq_recallRequest (session : Session) (provider : Provider) (shape : RouteShape)
    (callable : CallableDecl) :
    session.routeFor provider shape callable =
      session.recallRequest provider (.known shape callable) := by
  rw [recallRequest, RouteRequest.question, RouteRequest.subject, Declaration.handle_ofCallable]
  rfl

/-- **A call that asks about a route is answered as its request is**, remembers the same, and stands
for the operation that computes the answer to the request. -/
theorem recallRequest_of_request {call : Call} {request : RouteRequest}
    (asks : call.request? = some request) :
    session.routeAnswer? provider call = some (session.recallRequest provider request).value.1 ∧
      (session.perform provider call).routes =
        (session.recallRequest provider request).value.2.routes ∧
      ∀ resolver, call.routeUncached? resolver = some (Resolver.answer resolver request).result := by
  cases call with
  | resolveRoute element fromBuilder =>
    cases element with
    | type type =>
      obtain rfl := Option.some.inj asks
      rw [← resolveRoute_type]
      refine ⟨rfl, rfl, fun resolver => ?_⟩
      cases fromBuilder <;> rfl
    | field field => cases asks
    | constructor callable =>
      obtain rfl := Option.some.inj asks
      rw [← routeFor_eq_recallRequest]
      exact ⟨rfl, rfl, fun _ => rfl⟩
    | method callable =>
      obtain rfl := Option.some.inj asks
      rw [← routeFor_eq_recallRequest]
      exact ⟨rfl, rfl, fun _ => rfl⟩
  | resolveType type =>
    obtain rfl := Option.some.inj asks
    exact ⟨rfl, rfl, fun _ => rfl⟩
  | routeFor shape callable =>
    obtain rfl := Option.some.inj asks
    rw [← routeFor_eq_recallRequest]
    exact ⟨rfl, rfl, fun _ => rfl⟩
  | propertiesOf route => cases asks
  | analyze type =>
    obtain rfl := Option.some.inj asks
    refine ⟨rfl, ?_, fun _ => rfl⟩
    rw [perform, snd_analyze, resolveType_eq_recallRequest]
    split
    · rfl
    · exact (keeps_propertiesOf _ _ _).2.2
  | clear => cases asks

/-- A call without a request is answered, if at all, with nothing remembered, and leaves the routes
as they were unless it forgets them. -/
theorem perform_of_no_request {call : Call} (asks : call.request? = none) :
    session.routeAnswer? provider call = call.routeUncached? (session.resolver provider) ∧
      (call ≠ .clear → (session.perform provider call).routes = session.routes) := by
  cases call with
  | resolveRoute element fromBuilder =>
    cases element with
    | field field => exact ⟨rfl, fun _ => rfl⟩
    | type type => cases asks
    | constructor callable => cases asks
    | method callable => cases asks
  | resolveType type => cases asks
  | routeFor shape callable => cases asks
  | propertiesOf route => exact ⟨rfl, fun _ => (keeps_propertiesOf _ _ route).2.2⟩
  | analyze type => cases asks
  | clear => exact ⟨rfl, fun goesOn => absurd rfl goesOn⟩

/-! ### What is remembered -/

/-- The session remembers one answer to each question that is asked, and each as it was computed for
a request. -/
structure RecallsRoutes (resolver : Resolver) (requests : List RouteRequest) (session : Session) :
    Prop where
  once : (session.routes.map (·.1)).Nodup
  asked : ∀ question, question ∈ session.routes.map (·.1) ↔ question ∈ requests.map (·.question)
  computed : ∀ entry ∈ session.routes, ∃ request ∈ requests,
    request.question = entry.1 ∧ (resolver.answer request).result = entry.2

theorem recallsRoutes_of_nothing (resolver : Resolver) (nothing : session.routes = []) :
    RecallsRoutes resolver [] session := by
  refine ⟨?_, fun question => ?_, fun entry member => ?_⟩
  · rw [nothing]
    exact List.nodup_nil
  · rw [nothing]
    exact Iff.rfl
  · rw [nothing] at member
    cases member

theorem RecallsRoutes.of_routes {resolver : Resolver} {requests : List RouteRequest}
    (recalls : RecallsRoutes resolver requests session) {other : Session}
    (same : other.routes = session.routes) : RecallsRoutes resolver requests other := by
  obtain ⟨once, asked, computed⟩ := recalls
  rw [← same] at once asked computed
  exact ⟨once, asked, computed⟩

/-- **One more request is remembered**, unless its question was asked before. -/
theorem RecallsRoutes.recallRequest {requests : List RouteRequest}
    (recalls : RecallsRoutes (session.resolver provider) requests session)
    (request : RouteRequest) :
    RecallsRoutes (session.resolver provider) (requests ++ [request])
      (session.recallRequest provider request).value.2 := by
  obtain ⟨once, asked, computed⟩ := recalls
  unfold Session.recallRequest recallRoute
  -- Either nothing is entered, for the question is there, or the answer as it is computed.
  cases remembered : session.routes.lookup request.question with
  | some outcome =>
    have known : request.question ∈ session.routes.map (·.1) := by
      obtain ⟨before, after, split, -⟩ := List.lookup_eq_some_iff.mp remembered
      simp [split]
    refine ⟨once, fun question => ?_, fun entry member => ?_⟩
    · rw [List.map_append, List.mem_append, ← asked]
      refine ⟨.inl, fun member => member.elim id fun last => ?_⟩
      rw [List.mem_singleton.mp last]
      exact known
    · obtain ⟨earlier, among, facts⟩ := computed entry member
      exact ⟨earlier, List.mem_append_left _ among, facts⟩
  | none =>
    have fresh : request.question ∉ session.routes.map (·.1) := by
      intro known
      obtain ⟨entry, member, same⟩ := List.mem_map.mp known
      have apart := List.lookup_eq_none_iff.mp remembered entry member
      rw [same] at apart
      exact (bne_iff_ne.mp apart) rfl
    refine ⟨List.nodup_cons.mpr ⟨fresh, once⟩, fun question => ?_, fun entry member => ?_⟩
    · rw [List.map_append, List.mem_append, ← asked]
      refine List.mem_cons.trans (or_comm.trans (or_congr_right ?_))
      exact List.mem_singleton.symm
    · rcases List.mem_cons.mp member with rfl | member
      · exact ⟨request, List.mem_append_right _ (List.mem_singleton_self _), rfl, rfl⟩
      · obtain ⟨earlier, among, facts⟩ := computed entry member
        exact ⟨earlier, List.mem_append_left _ among, facts⟩

/-- **Every call recalls what was asked since everything was last forgotten.** -/
theorem RecallsRoutes.perform {calls : List Call}
    (recalls : RecallsRoutes (session.resolver provider) (requestsOf calls) session)
    (call : Call) :
    RecallsRoutes (session.resolver provider) (requestsOf (calls ++ [call]))
      (session.perform provider call) := by
  by_cases clears : call = .clear
  · subst clears
    rw [requestsOf_append_clear]
    exact recallsRoutes_of_nothing _ rfl
  · rw [requestsOf_append_singleton calls clears]
    cases asks : call.request? with
    | none =>
      rw [Option.toList_none, List.append_nil]
      exact recalls.of_routes ((perform_of_no_request asks).2 clears)
    | some request =>
      exact (recalls.recallRequest request).of_routes (recallRequest_of_request asks).2.1

/-- The rules and the policy stay, whatever is asked. -/
theorem resolver_after (provider : Provider) (settings : Settings) (policy : Policy)
    (calls : List Call) :
    ((fresh settings policy).after provider calls).resolver provider =
      ⟨provider, settings, policy⟩ := by
  obtain ⟨sameSettings, samePolicy⟩ := rules_after (fresh settings policy) provider calls
  rw [Session.resolver, sameSettings, samePolicy]
  rfl

/-- **After any calls a fresh session recalls what was asked since everything was last
forgotten.** -/
theorem recallsRoutes_after (provider : Provider) (settings : Settings) (policy : Policy)
    (calls : List Call) :
    RecallsRoutes ⟨provider, settings, policy⟩ (requestsOf calls)
      ((fresh settings policy).after provider calls) := by
  induction calls using List.reverseRecOn with
  | nil => exact recallsRoutes_of_nothing _ rfl
  | append_singleton calls call ih =>
    rw [after_append_singleton]
    rw [← resolver_after provider settings policy calls] at ih ⊢
    exact ih.perform call

/-- As many routes are remembered as questions were asked. -/
theorem RecallsRoutes.routeCount {resolver : Resolver} {requests : List RouteRequest}
    (recalls : RecallsRoutes resolver requests session) :
    session.routeCount = (requests.map (·.question)).toFinset.card := by
  have same : (requests.map (·.question)).toFinset = (session.routes.map (·.1)).toFinset := by
    ext question
    rw [List.mem_toFinset, List.mem_toFinset, recalls.asked]
  rw [same, List.toFinset_card_of_nodup recalls.once, List.length_map, Session.routeCount]

/-- Where no two requests share a question, each is answered as with nothing remembered. -/
theorem RecallsRoutes.answer {requests : List RouteRequest}
    (recalls : RecallsRoutes (session.resolver provider) requests session)
    {request : RouteRequest}
    (unshared : ∀ other ∈ requests, other.question = request.question → other = request) :
    (session.recallRequest provider request).value.1 =
      ((session.resolver provider).answer request).result := by
  unfold Session.recallRequest recallRoute
  cases remembered : session.routes.lookup request.question with
  | none => rfl
  | some outcome =>
    obtain ⟨before, after, split, -⟩ := List.lookup_eq_some_iff.mp remembered
    have member : (request.question, outcome) ∈ session.routes := by simp [split]
    obtain ⟨other, among, same, answered⟩ := recalls.computed _ member
    rw [unshared other among same] at answered
    exact answered.symm

/-- Asked once more, a question is answered as before. -/
theorem recallRoute_again (question : RouteQuestion) (compute computeToo : Unit → Attempt Route) :
    ((session.recallRoute question compute).value.2.recallRoute question computeToo).value.1 =
      (session.recallRoute question compute).value.1 := by
  rw [fst_recallRoute, fst_recallRoute, routes_recallRoute, lookup_remember, if_pos rfl]
  cases session.routes.lookup question <;> rfl

/-! ### Any calls -/

/-- **That a session remembers routes is not seen.** As long as no two declarations that are asked
about have one handle, every call is answered with the route that is computed with nothing
remembered. A callable, looked upon as a constructor or as a method, is answered alike in both forms
in which it may be asked about; whichever comes first, the other is answered the same behind it. As
many routes are remembered as there are questions that were asked since everything was last
forgotten. -/
theorem routeAnswer?_after (provider : Provider) (settings : Settings) (policy : Policy)
    (calls : List Call) :
    (∀ call, RouteRequest.DistinctHandles ((calls ++ [call]).filterMap Call.request?) →
      ((fresh settings policy).after provider calls).routeAnswer? provider call =
        call.routeUncached? ⟨provider, settings, policy⟩) ∧
    (∀ (session : Session) (start : Start) callable fromBuilder,
      let byElement := session.resolveRoute provider (start.declaration callable) fromBuilder
      let byShape := session.routeFor provider ⟨start, fromBuilder⟩ callable
      byElement = byShape ∧
        (byElement.value.2.routeFor provider ⟨start, fromBuilder⟩ callable).value.1 =
          byElement.value.1 ∧
        (byShape.value.2.resolveRoute provider (start.declaration callable) fromBuilder).value.1 =
          byShape.value.1) ∧
    ((fresh settings policy).after provider calls).routeCount =
      ((requestsOf calls).map (·.question)).toFinset.card := by
  have recalls := recallsRoutes_after provider settings policy calls
  refine ⟨fun call distinct => ?_, fun session start callable fromBuilder => ?_,
    recalls.routeCount⟩
  · rw [← resolver_after provider settings policy calls] at recalls ⊢
    cases asks : call.request? with
    | none => exact (perform_of_no_request asks).1
    | some request =>
      obtain ⟨answered, -, computed⟩ := recallRequest_of_request asks
      rw [answered, computed, recalls.answer]
      intro other member same
      have last : request ∈ (calls ++ [call]).filterMap Call.request? := by simp [asks]
      have before : other ∈ (calls ++ [call]).filterMap Call.request? := by
        rw [List.filterMap_append]
        exact List.mem_append_left _ (mem_of_mem_requestsOf member)
      exact distinct.eq_of_question before last same
  · dsimp only
    rw [resolveRoute_eq_routeFor, resolveRoute_eq_routeFor]
    exact ⟨rfl, recallRoute_again _ _ _, recallRoute_again _ _ _⟩

/-- Calls about an account and the constructor of its builder, which is first taken for a factory,
and one call more. -/
def accountCalls? : Option (List Call × Call) := do
  let account ← Resolver.accounts.findByName? "Account"
  let builder ← Resolver.accounts.findByName? "Account.Builder"
  let callable ← builder.constructors.head?
  pure
    ([.resolveType builder, .clear, .resolveRoute (.method callable) false,
        .routeFor ⟨.factory, false⟩ callable, .analyze account,
        .resolveRoute (.type builder) true],
      .resolveRoute (.constructor callable) false)

/-- The builder's constructor makes no factory, and that is remembered; it still starts a route of
its own. Since everything was forgotten, three questions were asked. -/
theorem routeAnswer?_after_accounts :
    ∃ calls call refusal route, accountCalls? = some (calls, call) ∧
      RouteRequest.DistinctHandles ((calls ++ [call]).filterMap Call.request?) ∧
      refusal ∈ ((fresh {} (.byMarker none)).after Resolver.accounts.provider calls).routes ∧
      refusal.2.isOk = false ∧
      ((fresh {} (.byMarker none)).after Resolver.accounts.provider calls).routeAnswer?
        Resolver.accounts.provider call = some (.ok route) ∧
      route.text = "constructor Account.Builder()" ∧
      ((fresh {} (.byMarker none)).after Resolver.accounts.provider calls).routeCount = 3 := by
  obtain ⟨⟨calls, call⟩, given⟩ : ∃ pair, accountCalls? = some pair :=
    Option.isSome_iff_exists.mp (by decide)
  have distinct : ∀ pair ∈ accountCalls?,
      RouteRequest.DistinctHandles ((pair.1 ++ [pair.2]).filterMap Call.request?) := by decide
  have asked : ∀ pair ∈ accountCalls?,
      ((requestsOf pair.1).map (·.question)).toFinset.card = 3 := by decide
  have refused : ∀ pair ∈ accountCalls?,
      ∃ refusal ∈ ((fresh {} (.byMarker none)).after Resolver.accounts.provider pair.1).routes,
        refusal.2.isOk = false := by decide
  have led : ∀ pair ∈ accountCalls?,
      ((pair.2.routeUncached? ⟨Resolver.accounts.provider, {}, .byMarker none⟩).bind
        fun outcome => outcome.toOption.map Route.text) =
          some "constructor Account.Builder()" := by decide
  obtain ⟨refusal, remembered, fails⟩ := refused _ given
  obtain ⟨answers, -, count⟩ :=
    routeAnswer?_after Resolver.accounts.provider {} (.byMarker none) calls
  obtain ⟨outcome, computed, found⟩ := Option.bind_eq_some_iff.mp (led _ given)
  obtain ⟨route, succeeds, shown⟩ := Attempt.exists_eq_ok_of_shown found
  refine ⟨calls, call, refusal, route, given, distinct _ given, remembered, fails, ?_, shown, ?_⟩
  · rw [answers call (distinct _ given), computed, succeeds]
  · rw [count]
    exact asked _ given

end Session
end ValueAnatomy
