/-
**What a session answers about properties is what was computed for the first route of its
question.**

Properties are remembered by the shape of a route and the key of the callable that it starts with.
The key keeps no names of type variables, so that two callables of one type may share it.

* `Session.lookup_properties_after`: what any session remembers after any calls, by what it
  remembered before and by what was asked;
* `Session.propertiesOf_after`: after any calls, the answer is what is found along the first route
  of the same question since the session was last cleared;
* `Session.propertiesOf_recall`: in a grown catalog this is the route that is asked about, as long
  as no other callable has the key of the one it starts with;
* `Session.propertiesOf_shared_key`: otherwise it may be another route.
-/

import Mathlib.Data.List.Induction
import ValueAnatomy.Proofs.Session.Calls

namespace ValueAnatomy.Session

/-- The first of the routes that is asked about by the same question, or else the route itself. -/
def firstAsked (asked : List Route) (route : Route) : Route :=
  (asked.find? fun first => first.propertyQuestion = route.propertyQuestion).getD route

/-- What a session remembers about properties and still does after calls, if none has everything
forgotten. -/
def keptProperties? (session : Session) (calls : List Call) (question : PropertyQuestion) :
    Option (Except Failure PropertySet) :=
  if .clear ∈ calls then none else session.properties.lookup question

/-- The session has these rules and this policy, and remembers for each question about properties
what is found along the first route that was asked about by it. -/
structure Recalls (provider : Provider) (settings : Settings) (policy : Policy)
    (asked : List Route) (session : Session) : Prop where
  sameSettings : session.settings = settings
  samePolicy : session.policy = policy
  properties : ∀ question, session.properties.lookup question =
    (asked.find? fun first => first.propertyQuestion = question).map fun first =>
      (provider.propertiesAlong settings first).result

variable {provider : Provider} {settings : Settings} {policy : Policy} {asked : List Route}
  {session : Session}

/-! ### One call -/

/-- The answer about properties is what is found along the first route of the question. -/
theorem Recalls.answer (recalls : Recalls provider settings policy asked session)
    (route : Route) :
    (session.propertiesOf provider route).value.1 =
      (provider.propertiesAlong settings (firstAsked asked route)).result := by
  rw [fst_propertiesOf, recalls.properties, recalls.sameSettings, firstAsked]
  cases asked.find? fun first => first.propertyQuestion = route.propertyQuestion <;> rfl

/-! ### What is remembered -/

theorem keptProperties?_append_singleton (session : Session) (calls : List Call) (call : Call)
    (question : PropertyQuestion) :
    session.keptProperties? (calls ++ [call]) question =
      if call = .clear then none else session.keptProperties? calls question := by
  by_cases clears : call = .clear
  · simp [keptProperties?, clears]
  · simp [keptProperties?, clears, Ne.symm clears]

theorem record_eq (session : Session) (provider : Provider) (asked : List Route) (call : Call) :
    session.record provider asked call =
      if call = .clear then [] else asked ++ session.record provider [] call := by
  cases call <;> simp [record]

/-- Asking for the properties along a route adds them, unless there are some already. -/
theorem lookup_properties_propertiesOf (session : Session) (provider : Provider) (route : Route)
    (question : PropertyQuestion) :
    (session.propertiesOf provider route).value.2.properties.lookup question =
      (session.properties.lookup question).or
        (([route].find? fun route => route.propertyQuestion = question).map
          fun route => (provider.propertiesAlong session.settings route).result) := by
  rw [properties_propertiesOf, lookup_remember]
  by_cases same : route.propertyQuestion = question
  · simp [same]
  · simp [same, Ne.symm same]

/-- One call adds the properties that it asks for, unless there are some already. -/
theorem lookup_properties_perform (session : Session) (provider : Provider) (call : Call)
    (question : PropertyQuestion) :
    (session.perform provider call).properties.lookup question =
      if call = .clear then none
      else (session.properties.lookup question).or
        (((session.record provider [] call).find? fun route =>
          route.propertyQuestion = question).map
            fun route => (provider.propertiesAlong session.settings route).result) := by
  cases call with
  | resolveRoute element fromBuilder =>
    rw [perform, (keeps_resolveRoute session provider element fromBuilder).properties]
    simp [record]
  | resolveType type =>
    rw [perform, (keeps_resolveType session provider type).properties]
    simp [record]
  | routeFor shape callable =>
    rw [perform, (keeps_routeFor session provider shape callable).properties]
    simp [record]
  | propertiesOf route => exact lookup_properties_propertiesOf session provider route question
  | analyze type =>
    have keeps := keeps_resolveType session provider type
    rw [perform, snd_analyze, record]
    cases (session.resolveType provider type).value.1 with
    | error failure => simp [keeps.properties, Except.toOption]
    | ok route =>
      have asked := lookup_properties_propertiesOf (session.resolveType provider type).value.2
        provider route question
      rw [keeps.properties, keeps.settings] at asked
      exact asked
  | clear => rfl

/-- **After any calls a session remembers properties as it did before**, or else as they are found
along the first route of their question. -/
theorem lookup_properties_after (session : Session) (provider : Provider) (calls : List Call)
    (question : PropertyQuestion) :
    (session.after provider calls).properties.lookup question =
      (session.keptProperties? calls question).or
        (((session.asked provider calls).find? fun route =>
          route.propertyQuestion = question).map
            fun route => (provider.propertiesAlong session.settings route).result) := by
  induction calls using List.reverseRecOn with
  | nil => simp [keptProperties?]
  | append_singleton calls call ih =>
    rw [after_append_singleton, asked_append_singleton, record_eq, lookup_properties_perform,
      keptProperties?_append_singleton, ih, (rules_after session provider calls).1]
    by_cases clears : call = .clear
    · simp [clears]
    · rw [if_neg clears, if_neg clears, if_neg clears, List.find?_append, Option.map_or,
        Option.or_assoc]

/-! ### Any calls -/

/-- **After any calls, a fresh session recalls what was asked since it was last cleared.** -/
theorem recalls_after (provider : Provider) (settings : Settings) (policy : Policy)
    (calls : List Call) :
    Recalls provider settings policy ((fresh settings policy).asked provider calls)
      ((fresh settings policy).after provider calls) := by
  obtain ⟨sameSettings, samePolicy⟩ := rules_after (fresh settings policy) provider calls
  refine ⟨sameSettings, samePolicy, fun question => ?_⟩
  have nothing : (fresh settings policy).keptProperties? calls question = none := by
    unfold keptProperties?
    split <;> rfl
  rw [lookup_properties_after, nothing, Option.none_or]
  rfl

/-- **After any calls, the properties along a route are those along the first route of the same
question**, whatever the provider is. -/
theorem propertiesOf_after (provider : Provider) (settings : Settings) (policy : Policy)
    (calls : List Call) (route : Route) :
    (((fresh settings policy).after provider calls).propertiesOf provider route).value.1 =
      (provider.propertiesAlong settings
        (firstAsked ((fresh settings policy).asked provider calls) route)).result :=
  (recalls_after provider settings policy calls).answer route

/-! ### Calls about a catalog -/

/-- All routes that the session remembers, and all whose properties were asked for, are rooted. -/
structure Founded (catalog : Catalog) (settings : Settings) (policy : Policy)
    (asked : List Route) (session : Session) : Prop where
  remembered : session.Holds ((catalog.resolver settings policy).Rooted catalog)
  asked : ∀ route ∈ asked, (catalog.resolver settings policy).Rooted catalog route

variable {catalog : Catalog}

/-- **A sound call keeps all routes rooted.** -/
theorem Founded.perform (faithful : catalog.Faithful) (selective : policy.Selective)
    (recalls : Recalls catalog.provider settings policy asked session)
    (founded : Founded catalog settings policy asked session) {call : Call}
    (sound : call.Sound (catalog.resolver settings policy) catalog) :
    Founded catalog settings policy (session.record catalog.provider asked call)
      (session.perform catalog.provider call) := by
  obtain ⟨remembered, rooted⟩ := founded
  have resolves : session.resolver catalog.provider = catalog.resolver settings policy := by
    rw [Session.resolver, recalls.sameSettings, recalls.samePolicy]
  have byElement : ∀ element fromBuilder, catalog.Registers element → ∀ route,
      ((session.resolver catalog.provider).resolveElement element fromBuilder).result =
        .ok route → (catalog.resolver settings policy).Rooted catalog route := by
    intro element fromBuilder registered route resolved
    rw [resolves] at resolved
    exact faithful.rooted_of_yields selective ⟨element, fromBuilder, registered, resolved⟩
  cases call with
  | resolveRoute element fromBuilder =>
    exact ⟨(remembered.resolveRoute (byElement element fromBuilder sound)).2, rooted⟩
  | resolveType type =>
    exact ⟨(remembered.resolveRoute (byElement (.type type) false sound)).2, rooted⟩
  | routeFor shape callable =>
    refine ⟨(remembered.recallRoute fun route found => ?_).2, rooted⟩
    rw [resolves] at found
    exact Resolver.rooted_of_routeFor sound found
  | propertiesOf route =>
    refine ⟨remembered.of_routes (keeps_propertiesOf _ _ route).2.2, fun other member => ?_⟩
    rcases List.mem_append.mp member with old | new
    · exact rooted other old
    · rw [List.mem_singleton.mp new]
      exact faithful.rooted_of_yields selective sound
  | analyze type =>
    obtain ⟨answer, later⟩ := remembered.resolveRoute (byElement (.type type) false sound)
    rw [Session.perform, record, snd_analyze, resolveType]
    cases answered : (session.resolveRoute catalog.provider (.type type) false).value.1 with
    | error failure => exact ⟨later, by simpa [Except.toOption] using rooted⟩
    | ok route =>
      refine ⟨later.of_routes (keeps_propertiesOf _ _ route).2.2, fun other member => ?_⟩
      rcases List.mem_append.mp member with old | new
      · exact rooted other old
      · rw [List.mem_singleton.mp new]
        exact answer route answered
  | clear => exact ⟨holds_of_nothing rfl, fun _ member => absurd member List.not_mem_nil⟩

/-- **After sound calls all routes are rooted.** -/
theorem founded_after (faithful : catalog.Faithful) (selective : policy.Selective)
    {calls : List Call}
    (sound : ∀ call ∈ calls, call.Sound (catalog.resolver settings policy) catalog) :
    Founded catalog settings policy ((fresh settings policy).asked catalog.provider calls)
      ((fresh settings policy).after catalog.provider calls) := by
  induction calls using List.reverseRecOn with
  | nil => exact ⟨holds_of_nothing rfl, fun _ member => absurd member List.not_mem_nil⟩
  | append_singleton calls call ih =>
    rw [after_append_singleton, asked_append_singleton]
    refine (ih fun other member => sound other (List.mem_append_left _ member)).perform faithful
      selective (recalls_after catalog.provider settings policy calls) ?_
    exact sound call (List.mem_append_right _ (List.mem_singleton_self call))

/-- **A session answers for the first route of the question.** In a grown catalog, after any calls,
the properties along a route are those along the first route that was asked about with its shape
and its key since the session was last cleared. If the calls are about the catalog, and no other
callable has the key of the one that the route starts with, they are those along the route. -/
theorem propertiesOf_recall (grown : catalog.Grown) (settings : Settings) (policy : Policy)
    (calls : List Call) (route : Route) :
    (((fresh settings policy).after catalog.provider calls).propertiesOf catalog.provider
        route).value.1 =
      (catalog.provider.propertiesAlong settings
        (firstAsked ((fresh settings policy).asked catalog.provider calls) route)).result ∧
    (policy.Selective →
      (∀ call ∈ calls, call.Sound (catalog.resolver settings policy) catalog) →
      (catalog.resolver settings policy).Yields catalog route →
      (∀ other ∈ catalog.callables, other.key = route.key → other = route.callable) →
      (((fresh settings policy).after catalog.provider calls).propertiesOf catalog.provider
          route).value.1 =
        (catalog.provider.propertiesAlong settings route).result) := by
  have answer := propertiesOf_after catalog.provider settings policy calls route
  refine ⟨answer, fun selective sound yields unshared => ?_⟩
  rw [answer, firstAsked]
  cases found : ((fresh settings policy).asked catalog.provider calls).find? fun first =>
      first.propertyQuestion = route.propertyQuestion with
  | none => rfl
  | some first =>
    have question : first.propertyQuestion = route.propertyQuestion := by
      simpa using List.find?_some found
    obtain ⟨shape, key⟩ := PropertyQuestion.mk.inj question
    have rooted := (founded_after grown.faithful selective sound).asked first
      (List.mem_of_find?_eq_some found)
    have same : first = route :=
      rooted.eq_of_start (grown.faithful.rooted_of_yields selective yields) shape
        (unshared first.callable rooted.registered key)
    rw [Option.getD_some, same]

/-! ### Overloads -/

/-- A class with a constructor for each of the given types of its one parameter. -/
def boxSpec (params : List Param) : TypeSpec :=
  .mk
    { package := "com.example"
      name := "Box"
      constructors := params.map fun param => { name := constructorName, params := [param] } }
    []

/-- The catalog with such a class. -/
def boxes (params : List Param) : Catalog := (Catalog.initial.declare (boxSpec params)).2

theorem grown_boxes (params : List Param) : (boxes params).Grown :=
  .declared _ Catalog.grown_initial

/-- The route that starts with one of the constructors of the class. -/
def boxRoute? (params : List Param) (position : Nat) : Option Route := do
  let box ← (boxes params).findByName? "com.example.Box"
  let callable ← box.constructors[position]?
  pure { target := box, start := .constructor, callable }

theorem yields_of_boxRoute? {params : List Param} {position : Nat} {route : Route}
    (found : boxRoute? params position = some route) :
    ((boxes params).resolver settings policy).Yields (boxes params) route := by
  obtain ⟨box, located, found⟩ := Option.bind_eq_some_iff.mp found
  obtain ⟨callable, listed, found⟩ := Option.bind_eq_some_iff.mp found
  rw [← Option.some.inj found]
  have there := Catalog.mem_types_of_findByName? located
  have member := List.mem_of_getElem? listed
  refine ⟨.constructor callable, false, Catalog.mem_callables_of_constructor there member, ?_⟩
  exact Attempt.result_bind_of_ok
    ((grown_boxes params).faithful.result_expectConstructor there member) _

/-- Parameters of two erased types. -/
def apartParams : List Param := [⟨"number", .int, []⟩, ⟨"text", .typeVariable "T", []⟩]

/-- Where the constructors have keys of their own, both routes are answered for. -/
theorem propertiesOf_recall_apart :
    ∃ first second, boxRoute? apartParams 0 = some first ∧ boxRoute? apartParams 1 = some second ∧
      (((fresh {} (.byMarker none)).after (boxes apartParams).provider
          [.routeFor ⟨.constructor, false⟩ first.callable, .propertiesOf first]).propertiesOf
          (boxes apartParams).provider second).value.1 =
        ((boxes apartParams).provider.propertiesAlong {} second).result := by
  obtain ⟨first, foundFirst⟩ : ∃ first, boxRoute? apartParams 0 = some first :=
    Option.isSome_iff_exists.mp (by decide)
  obtain ⟨second, foundSecond⟩ : ∃ second, boxRoute? apartParams 1 = some second :=
    Option.isSome_iff_exists.mp (by decide)
  have registered : ∀ route ∈ boxRoute? apartParams 0,
      route.callable ∈ (boxes apartParams).callables := by decide
  have unshared : ∀ route ∈ boxRoute? apartParams 1, ∀ other ∈ (boxes apartParams).callables,
      other.key = route.key → other = route.callable := by decide
  refine ⟨first, second, foundFirst, foundSecond, ?_⟩
  refine (propertiesOf_recall (grown_boxes apartParams) {} (.byMarker none) _ second).2
    (Policy.selective_byMarker none) (fun call member => ?_) (yields_of_boxRoute? foundSecond)
    (unshared second foundSecond)
  rcases List.mem_cons.mp member with rfl | member
  · exact registered first foundFirst
  · rw [List.mem_singleton.mp member]
    exact yields_of_boxRoute? foundFirst

/-- Parameters of one erased type. -/
def sharedParams : List Param :=
  [⟨"number", .typeVariable "T", []⟩, ⟨"text", .typeVariable "S", []⟩]

/-- **Where two constructors share their key, the second route is answered for with the properties
along the first.** -/
theorem propertiesOf_shared_key :
    (boxes sharedParams).Grown ∧
    ∃ first second, boxRoute? sharedParams 0 = some first ∧
      boxRoute? sharedParams 1 = some second ∧
      (∀ route ∈ [first, second],
        ((boxes sharedParams).resolver {} (.byMarker none)).Yields (boxes sharedParams) route) ∧
      (((fresh {} (.byMarker none)).after (boxes sharedParams).provider
          [.propertiesOf first]).propertiesOf (boxes sharedParams).provider second).value.1 =
        ((boxes sharedParams).provider.propertiesAlong {} first).result ∧
      ((boxes sharedParams).provider.propertiesAlong {} first).result ≠
        ((boxes sharedParams).provider.propertiesAlong {} second).result := by
  obtain ⟨first, foundFirst⟩ : ∃ first, boxRoute? sharedParams 0 = some first :=
    Option.isSome_iff_exists.mp (by decide)
  obtain ⟨second, foundSecond⟩ : ∃ second, boxRoute? sharedParams 1 = some second :=
    Option.isSome_iff_exists.mp (by decide)
  have alike : ∀ first ∈ boxRoute? sharedParams 0, ∀ second ∈ boxRoute? sharedParams 1,
      first.propertyQuestion = second.propertyQuestion := by decide
  have different : ∀ first ∈ boxRoute? sharedParams 0, ∀ second ∈ boxRoute? sharedParams 1,
      ((boxes sharedParams).provider.propertiesAlong {} first).result ≠
        ((boxes sharedParams).provider.propertiesAlong {} second).result := by decide
  refine ⟨grown_boxes sharedParams, first, second, foundFirst, foundSecond, ?_, ?_,
    different first foundFirst second foundSecond⟩
  · intro route member
    rcases List.mem_cons.mp member with rfl | member
    · exact yields_of_boxRoute? foundFirst
    · rw [List.mem_singleton.mp member]
      exact yields_of_boxRoute? foundSecond
  · rw [propertiesOf_after, firstAsked]
    have asked : (fresh {} (.byMarker none)).asked (boxes sharedParams).provider
        [.propertiesOf first] = [first] := rfl
    rw [asked, List.find?_singleton,
      if_pos (decide_eq_true (alike first foundFirst second foundSecond)), Option.getD_some]

end ValueAnatomy.Session
