/-
**Calls on a session, in any order.**

A session is asked for routes and for properties, and cleared, any number of times. The rules and
the policy that it began with stay, whatever is asked.

* `Session.after`: the session after a list of calls;
* `Session.asked`: the routes whose properties were asked for since the session was last cleared;
* `Call.Sound`: calls about what a catalog declares, and about routes that its declarations lead to;
* `Session.snd_analyze`: an analysis is a question about a route and one about its properties.
-/

import ValueAnatomy.Proofs.Route.Rooted
import ValueAnatomy.Session

namespace ValueAnatomy.Session

/-- A call on a session. -/
inductive Call where
  /-- Asks which route a declaration leads to. -/
  | resolveRoute (element : Declaration) (fromBuilder : Bool)
  /-- Asks how a type is built. -/
  | resolveType (type : TypeDecl)
  /-- Asks for the route of a shape that starts with a callable. -/
  | routeFor (shape : RouteShape) (callable : CallableDecl)
  /-- Asks for the properties along a route. -/
  | propertiesOf (route : Route)
  /-- Asks how a type is built and what its instances consist of. -/
  | analyze (type : TypeDecl)
  /-- Has everything forgotten. -/
  | clear
  deriving DecidableEq, Repr

/-- A call about declarations of the catalog, or about a route that one of them leads to. -/
def Call.Sound (resolver : Resolver) (catalog : Catalog) : Call → Prop
  | resolveRoute element _ => catalog.Registers element
  | resolveType type => type ∈ catalog.types
  | routeFor _ callable => callable ∈ catalog.callables
  | propertiesOf route => resolver.Yields catalog route
  | analyze type => type ∈ catalog.types
  | clear => True

/-- A session of which nothing was asked yet. -/
def fresh (settings : Settings) (policy : Policy) : Session :=
  (ofSettings settings).withPolicy policy

/-- The session after a call. -/
def perform (provider : Provider) (session : Session) : Call → Session
  | .resolveRoute element fromBuilder =>
    (session.resolveRoute provider element fromBuilder).value.2
  | .resolveType type => (session.resolveType provider type).value.2
  | .routeFor shape callable => (session.routeFor provider shape callable).value.2
  | .propertiesOf route => (session.propertiesOf provider route).value.2
  | .analyze type => (session.analyze provider type).value.2
  | .clear => session.cleared

/-- The session after a list of calls. -/
def after (provider : Provider) (session : Session) (calls : List Call) : Session :=
  calls.foldl (·.perform provider ·) session

/-- The routes whose properties were asked for, with those that one more call asks for. -/
def record (provider : Provider) (session : Session) (asked : List Route) : Call → List Route
  | .propertiesOf route => asked ++ [route]
  | .analyze type => asked ++ (session.resolveType provider type).value.1.toOption.toList
  | .clear => []
  | .resolveRoute _ _ | .resolveType _ | .routeFor _ _ => asked

/-- The routes whose properties were asked for since the session was last cleared, the first one
first. -/
def asked (provider : Provider) (session : Session) (calls : List Call) : List Route :=
  (calls.foldl (fun (state : Session × List Route) call =>
    (state.1.perform provider call, state.1.record provider state.2 call)) (session, [])).2

variable {provider : Provider} {session : Session}

@[simp] theorem after_nil : session.after provider [] = session := rfl

@[simp] theorem asked_nil : session.asked provider [] = [] := rfl

theorem after_append_singleton (calls : List Call) (call : Call) :
    session.after provider (calls ++ [call]) =
      (session.after provider calls).perform provider call := by
  rw [after, List.foldl_append]
  rfl

theorem asked_append_singleton (calls : List Call) (call : Call) :
    session.asked provider (calls ++ [call]) =
      (session.after provider calls).record provider (session.asked provider calls) call := by
  have state : ∀ start : Session × List Route, (calls.foldl (fun state call =>
      (state.1.perform provider call, state.1.record provider state.2 call)) start).1 =
        start.1.after provider calls := by
    intro start
    induction calls generalizing start with
    | nil => rfl
    | cons first rest ih => exact ih _
  rw [asked, List.foldl_append, List.foldl_cons, List.foldl_nil, state]
  rfl

/-! ### What a question leaves as it was -/

/-- The second session has the rules and the policy of the first, and remembers the same
properties. -/
structure Keeps (session other : Session) : Prop where
  settings : other.settings = session.settings
  policy : other.policy = session.policy
  properties : other.properties = session.properties

theorem Keeps.rfl : Keeps session session := ⟨.refl _, .refl _, .refl _⟩

theorem keeps_recallRoute (session : Session) (question : RouteQuestion)
    (compute : Unit → Attempt Route) :
    Keeps session (session.recallRoute question compute).value.2 := by
  unfold recallRoute
  split
  · exact .rfl
  · exact ⟨.refl _, .refl _, .refl _⟩

theorem keeps_resolveRoute (session : Session) (provider : Provider) (element : Declaration)
    (fromBuilder : Bool) :
    Keeps session (session.resolveRoute provider element fromBuilder).value.2 := by
  unfold resolveRoute
  dsimp only
  split
  · exact keeps_recallRoute _ _ _
  · exact .rfl

theorem keeps_resolveType (session : Session) (provider : Provider) (type : TypeDecl) :
    Keeps session (session.resolveType provider type).value.2 :=
  keeps_resolveRoute session provider (.type type) false

theorem keeps_routeFor (session : Session) (provider : Provider) (shape : RouteShape)
    (callable : CallableDecl) :
    Keeps session (session.routeFor provider shape callable).value.2 :=
  keeps_recallRoute _ _ _

/-- The answers about properties leave rules, policy and routes as they were. -/
theorem keeps_propertiesOf (session : Session) (provider : Provider) (route : Route) :
    (session.propertiesOf provider route).value.2.settings = session.settings ∧
      (session.propertiesOf provider route).value.2.policy = session.policy ∧
      (session.propertiesOf provider route).value.2.routes = session.routes := by
  unfold propertiesOf
  split
  · exact ⟨rfl, rfl, rfl⟩
  · exact ⟨rfl, rfl, rfl⟩

/-- An analysis asks for the route, and where there is one for the properties along it. -/
theorem snd_analyze (session : Session) (provider : Provider) (type : TypeDecl) :
    (session.analyze provider type).value.2 =
      match (session.resolveType provider type).value.1 with
      | .error _ => (session.resolveType provider type).value.2
      | .ok route =>
        ((session.resolveType provider type).value.2.propertiesOf provider route).value.2 := by
  unfold analyze
  rw [Traced.value_bind]
  generalize (session.resolveType provider type).value = answer
  obtain ⟨route?, later⟩ := answer
  cases route? with
  | error failure => rfl
  | ok route =>
    dsimp only
    rw [Traced.value_bind]
    split <;> rfl

/-- No call changes the rules or the policy. -/
theorem rules_perform (session : Session) (provider : Provider) (call : Call) :
    (session.perform provider call).settings = session.settings ∧
      (session.perform provider call).policy = session.policy := by
  cases call with
  | resolveRoute element fromBuilder =>
    have keeps := keeps_resolveRoute session provider element fromBuilder
    exact ⟨keeps.settings, keeps.policy⟩
  | resolveType type =>
    have keeps := keeps_resolveType session provider type
    exact ⟨keeps.settings, keeps.policy⟩
  | routeFor shape callable =>
    have keeps := keeps_routeFor session provider shape callable
    exact ⟨keeps.settings, keeps.policy⟩
  | propertiesOf route =>
    obtain ⟨settings, policy, -⟩ := keeps_propertiesOf session provider route
    exact ⟨settings, policy⟩
  | analyze type =>
    have keeps := keeps_resolveType session provider type
    rw [perform, snd_analyze]
    split
    · exact ⟨keeps.settings, keeps.policy⟩
    · rename_i route _
      obtain ⟨settings, policy, -⟩ :=
        keeps_propertiesOf (session.resolveType provider type).value.2 provider route
      exact ⟨settings.trans keeps.settings, policy.trans keeps.policy⟩
  | clear => exact ⟨rfl, rfl⟩

/-- **The rules and the policy stay**, whatever is asked. -/
theorem rules_after (session : Session) (provider : Provider) (calls : List Call) :
    (session.after provider calls).settings = session.settings ∧
      (session.after provider calls).policy = session.policy := by
  induction calls generalizing session with
  | nil => exact ⟨rfl, rfl⟩
  | cons call rest ih =>
    obtain ⟨settings, policy⟩ := rules_perform session provider call
    obtain ⟨settingsLater, policyLater⟩ := ih (session.perform provider call)
    exact ⟨settingsLater.trans settings, policyLater.trans policy⟩

/-! ### What a question adds -/

/-- Entries with one more, unless there is one of that key already. -/
def remember {κ α : Type} [DecidableEq κ] (entries : List (κ × α)) (key : κ) (answer : α) :
    List (κ × α) :=
  match entries.lookup key with
  | some _ => entries
  | none => (key, answer) :: entries

/-- **An entry stands for its key if none did before**, and for no other key. -/
theorem lookup_remember {κ α : Type} [DecidableEq κ] (entries : List (κ × α)) (key : κ) (answer : α)
    (other : κ) :
    (remember entries key answer).lookup other =
      (entries.lookup other).or (if other = key then some answer else none) := by
  unfold remember
  by_cases same : other = key
  · subst same
    cases known : entries.lookup other with
    | some earlier => simp [known]
    | none => simp
  · rw [if_neg same, Option.or_none]
    split
    · rfl
    · rw [List.lookup_cons, beq_eq_false_iff_ne.mpr same]

theorem routes_recallRoute (session : Session) (question : RouteQuestion)
    (compute : Unit → Attempt Route) :
    (session.recallRoute question compute).value.2.routes =
      remember session.routes question (compute ()).result := by
  unfold recallRoute remember
  cases session.routes.lookup question <;> rfl

theorem fst_recallRoute (session : Session) (question : RouteQuestion)
    (compute : Unit → Attempt Route) :
    (session.recallRoute question compute).value.1 =
      (session.routes.lookup question).getD (compute ()).result := by
  unfold recallRoute
  cases session.routes.lookup question <;> rfl

theorem properties_propertiesOf (session : Session) (provider : Provider) (route : Route) :
    (session.propertiesOf provider route).value.2.properties =
      remember session.properties route.propertyQuestion
        (provider.propertiesAlong session.settings route).result := by
  unfold propertiesOf remember
  cases session.properties.lookup route.propertyQuestion <;> rfl

theorem fst_propertiesOf (session : Session) (provider : Provider) (route : Route) :
    (session.propertiesOf provider route).value.1 =
      (session.properties.lookup route.propertyQuestion).getD
        (provider.propertiesAlong session.settings route).result := by
  unfold propertiesOf
  cases session.properties.lookup route.propertyQuestion <;> rfl

/-! ### Which routes are remembered -/

/-- All routes that the session remembers are of a kind. -/
def Holds (kept : Route → Prop) (session : Session) : Prop :=
  ∀ question route, session.routes.lookup question = some (.ok route) → kept route

theorem holds_of_nothing {kept : Route → Prop} (nothing : session.routes = []) :
    session.Holds kept := by
  intro question route found
  rw [nothing, List.lookup_nil] at found
  cases found

theorem Holds.of_routes {kept : Route → Prop} (holds : session.Holds kept) {other : Session}
    (same : other.routes = session.routes) : other.Holds kept := by
  intro question route found
  rw [same] at found
  exact holds question route found

/-- A question about a route is answered by a route of the kind, if what would be computed is one,
and leaves all remembered routes of the kind. -/
theorem Holds.recallRoute {kept : Route → Prop} (holds : session.Holds kept)
    {question : RouteQuestion} {compute : Unit → Attempt Route}
    (computed : ∀ route, (compute ()).result = .ok route → kept route) :
    (∀ route, (session.recallRoute question compute).value.1 = .ok route → kept route) ∧
      (session.recallRoute question compute).value.2.Holds kept := by
  unfold Session.recallRoute
  split
  · rename_i outcome remembered
    refine ⟨fun route answer => ?_, holds⟩
    obtain rfl : outcome = .ok route := answer
    exact holds question route remembered
  · refine ⟨computed, fun other route found => ?_⟩
    change List.lookup other ((question, (compute ()).result) :: session.routes) = _ at found
    rw [List.lookup_cons] at found
    split at found
    · exact computed route (Option.some.inj found)
    · exact holds other route found

theorem Holds.resolveRoute {kept : Route → Prop} (holds : session.Holds kept)
    {element : Declaration} {fromBuilder : Bool}
    (computed : ∀ route, ((session.resolver provider).resolveElement element fromBuilder).result =
      .ok route → kept route) :
    (∀ route, (session.resolveRoute provider element fromBuilder).value.1 = .ok route →
        kept route) ∧
      (session.resolveRoute provider element fromBuilder).value.2.Holds kept := by
  unfold Session.resolveRoute
  dsimp only
  split
  · exact holds.recallRoute computed
  · exact ⟨computed, holds⟩

end ValueAnatomy.Session
