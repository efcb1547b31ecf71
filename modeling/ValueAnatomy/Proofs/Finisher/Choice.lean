/-
**The choice of a finisher, without notes and failures.**

A builder that does not go too deep has its finisher chosen among the methods of its ancestry, each
standing for those whose place it takes.

* `Provider.finisherCandidates`: the methods that the choice is made among;
* `Provider.result_finisher?`: the finisher is the preferred one of them;
* `Provider.finisher?_form`: it is an open method of instances, without parameters, and one that
  a type of the ancestry declares.
-/

import ValueAnatomy.Proofs.Ancestry.Walk
import ValueAnatomy.Finisher

namespace ValueAnatomy.Provider

/-- The methods of finishing form that are visible along an ancestry. -/
def visibleForms (provider : Provider) (order : List TypeDecl) : List CallableDecl :=
  finishingForm (firstOfEach CallableDecl.overrideKey
    (order.flatMap fun above => (provider.members above).methods))

/-- The methods that a finisher is chosen among: those that yield what a builder builds, or else
those that return the type around the builder. -/
def finisherCandidates (provider : Provider) (settings : Settings) (builder : TypeDecl)
    (order : List TypeDecl) : List CallableDecl :=
  let possible := (provider.visibleForms order).filter (provider.yieldsBuilt settings builder)
  if possible.isEmpty then provider.enclosingFinishers builder (provider.visibleForms order)
  else possible

variable {provider : Provider} {settings : Settings} {builder : TypeDecl}

/-- The choice ends with the preferred method, with or without a note. -/
theorem value_chooseFinisher (settings : Settings) (builder : TypeDecl)
    (candidates : List CallableDecl) :
    (chooseFinisher settings builder candidates).value =
      preferredFinisher? settings candidates := by
  unfold chooseFinisher
  split
  · rename_i method chosen
    exact chosen.symm
  · rename_i nothing
    exact nothing.symm

/-- **The finisher of a builder is the preferred one of the candidates.** -/
theorem result_finisher? (provider : Provider) (settings : Settings) (builder : TypeDecl) :
    (provider.finisher? settings builder).result = (provider.ancestry builder).result.map
      fun order => preferredFinisher? settings
        (provider.finisherCandidates settings builder order) := by
  have visible : (provider.visibleMethods builder).result = (provider.ancestry builder).result.map
      fun order => firstOfEach CallableDecl.overrideKey
        (order.flatMap fun above => (provider.members above).methods) :=
    Attempt.result_bind_eq_map fun _ => rfl
  rw [finisher?, Attempt.result_bind, visible]
  cases (provider.ancestry builder).result with
  | error failure => rfl
  | ok order =>
    change Attempt.result (if (provider.finisherCandidates settings builder order).isEmpty = true
      then _ else _) =
        .ok (preferredFinisher? settings (provider.finisherCandidates settings builder order))
    split
    · rename_i nothing
      rw [List.isEmpty_iff.mp nothing, Attempt.result_bind_of_ok (Attempt.result_note _)]
      rfl
    · rw [Attempt.result_ofTraced, value_chooseFinisher]
      rfl

theorem mem_of_preferredFinisher? {candidates : List CallableDecl} {method : CallableDecl}
    (chosen : preferredFinisher? settings candidates = some method) : method ∈ candidates := by
  rcases Option.or_eq_some_iff.mp chosen with only | ⟨-, only⟩
  · rw [sole?_eq_some_iff.mp only]
    exact List.mem_singleton_self _
  · have kept : method ∈ candidates.filter fun method => settings.isBuildVerb method.name := by
      rw [sole?_eq_some_iff.mp only]
      exact List.mem_singleton_self _
    exact (List.mem_filter.mp kept).1

theorem mem_visibleForms_of_mem_finisherCandidates {order : List TypeDecl} {method : CallableDecl}
    (candidate : method ∈ provider.finisherCandidates settings builder order) :
    method ∈ provider.visibleForms order := by
  unfold finisherCandidates at candidate
  dsimp only at candidate
  split at candidate
  · unfold enclosingFinishers at candidate
    split at candidate
    · cases candidate
    · exact (List.mem_filter.mp candidate).1
  · exact (List.mem_filter.mp candidate).1

/-- **A finisher is an open method of instances, without parameters**, of a type of the ancestry. -/
theorem finisher?_form {finisher : CallableDecl}
    (finished : (provider.finisher? settings builder).result = .ok (some finisher)) :
    ∃ order, (provider.ancestry builder).result = .ok order ∧
      (∃ above ∈ order, finisher ∈ (provider.members above).methods) ∧
      finisher.isPrivate = false ∧ finisher.isStatic = false ∧ finisher.params = [] := by
  rw [result_finisher?] at finished
  cases walked : (provider.ancestry builder).result with
  | error failure =>
    rw [walked] at finished
    cases finished
  | ok order =>
    rw [walked] at finished
    have chosen := mem_of_preferredFinisher? (Except.ok.inj finished)
    obtain ⟨visible, form⟩ :=
      mem_selectCallables.mp (mem_visibleForms_of_mem_finisherCandidates chosen)
    obtain ⟨above, listed, declared⟩ := List.mem_flatMap.mp (mem_of_mem_firstOfEach visible)
    refine ⟨order, rfl, ⟨above, listed, declared⟩, ?_, ?_, ?_⟩
    · simpa [CallableFilter.holds] using form .nonPrivate (by simp)
    · simpa [CallableFilter.holds] using form .onInstance (by simp)
    · simpa [CallableFilter.holds, CallableDecl.hasNoParams] using form .noParams (by simp)

end ValueAnatomy.Provider
