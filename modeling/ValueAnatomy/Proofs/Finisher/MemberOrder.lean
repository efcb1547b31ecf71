/-
**In which order a type lists its members matters to a finisher only where signatures are
contested.**

The finisher is chosen by counting candidates, and candidates are counted alike in any order. But
each signature is stood for by the first of its methods, and where one type lists two of them, as it
does with a method and the bridge to it, their order decides which one is seen at all.

* `Contested`: a signature that two different methods have;
* `firstOfEach_perm`: lists that begin each key alike keep the same items;
* `Provider.preferredFinisher?_perm`: the preferred finisher is the same in any order of candidates;
* `Provider.finisher?_reordered`: a reordering of members keeps the finisher if it keeps the first
  method of each contested signature;
* `Provider.finisher?_reversed_bridge`: otherwise it may lose the finisher.
-/

import Mathlib.Data.List.Nodup
import Mathlib.Data.List.Perm.Basic
import ValueAnatomy.Proofs.Ancestry.Topological
import ValueAnatomy.Proofs.Finisher.Choice

namespace ValueAnatomy

variable {α κ : Type} [DecidableEq κ]

/-! ### What is found first -/

/-- Two lists keep the same items, in some order, if they begin each key with the same item. -/
theorem firstOfEach_perm {key : α → κ} {items others : List α}
    (same : ∀ value, items.find? (fun item => key item == value) =
      others.find? (fun item => key item == value)) :
    (firstOfEach key items).Perm (firstOfEach key others) := by
  refine (List.perm_ext_iff_of_nodup ?_ ?_).mpr fun item => ?_
  · exact (firstOfEach_nodup key items).of_map _
  · exact (firstOfEach_nodup key others).of_map _
  · rw [mem_firstOfEach_iff_find?, mem_firstOfEach_iff_find?, same]

theorem find?_flatMap_congr {β : Type} {first second : β → List α} {holds : α → Bool}
    {parts : List β}
    (same : ∀ part ∈ parts, (first part).find? holds = (second part).find? holds) :
    (parts.flatMap first).find? holds = (parts.flatMap second).find? holds := by
  induction parts with
  | nil => rfl
  | cons part rest ih =>
    rw [List.flatMap_cons, List.flatMap_cons, List.find?_append, List.find?_append,
      same part List.mem_cons_self, ih fun other member => same other (List.mem_cons_of_mem _ member)]

/-- What is found in a list is found in any order of it, if there is no more than one such item. -/
theorem find?_eq_of_perm {items others : List α} {holds : α → Bool} (perm : items.Perm others)
    (only : ∀ first ∈ others, ∀ second ∈ others, holds first = true → holds second = true →
      first = second) :
    items.find? holds = others.find? holds := by
  cases found : others.find? holds with
  | none => exact List.find?_eq_none.mpr fun item member =>
      List.find?_eq_none.mp found item (perm.mem_iff.mp member)
  | some item =>
    have there := List.mem_of_find?_eq_some found
    have fits := List.find?_some found
    obtain ⟨other, located⟩ : ∃ other, items.find? holds = some other :=
      Option.isSome_iff_exists.mp
        (List.find?_isSome.mpr ⟨item, perm.mem_iff.mpr there, fits⟩)
    rw [located, only other (perm.mem_iff.mp (List.mem_of_find?_eq_some located)) item there
      (List.find?_some located) fits]

theorem sole?_perm {items others : List α} (perm : items.Perm others) :
    sole? items = sole? others := by
  refine Option.ext fun item => ?_
  rw [sole?_eq_some_iff, sole?_eq_some_iff]
  constructor
  · rintro rfl
    exact List.perm_singleton.mp perm.symm
  · rintro rfl
    exact List.perm_singleton.mp perm

/-! ### Reordered members -/

/-- The first of some methods that has a signature. -/
def firstOfSignature? (methods : List CallableDecl) (signature : String) : Option CallableDecl :=
  methods.find? (·.overrideKey == signature)

/-- Two different ones of some methods have the signature. -/
def Contested (methods : List CallableDecl) (signature : String) : Prop :=
  ∃ first ∈ methods, ∃ second ∈ methods,
    first ≠ second ∧ first.overrideKey = signature ∧ second.overrideKey = signature

/-- Of a signature that is not contested, any order of the methods begins with the same one. -/
theorem firstOfSignature?_eq_of_perm {methods others : List CallableDecl} {signature : String}
    (perm : methods.Perm others) (settled : ¬ Contested others signature) :
    firstOfSignature? methods signature = firstOfSignature? others signature := by
  refine find?_eq_of_perm perm fun first member second memberToo fits fitsToo => ?_
  by_contra apart
  exact settled ⟨first, member, second, memberToo, apart, beq_iff_eq.mp fits, beq_iff_eq.mp fitsToo⟩

/-- Whether a member is a method of the name. -/
def Declaration.isMethodCalled (name : String) : Declaration → Bool
  | .method decl => decl.name == name
  | _ => false

namespace Provider

variable {provider : Provider} {settings : Settings} {builder : TypeDecl}

/-- **The preferred finisher is the same in any order of the candidates.** -/
theorem preferredFinisher?_perm {candidates others : List CallableDecl}
    (perm : candidates.Perm others) :
    preferredFinisher? settings candidates = preferredFinisher? settings others := by
  rw [preferredFinisher?, preferredFinisher?, sole?_perm perm, sole?_perm (perm.filter _)]

theorem enclosingFinishers_perm {methods others : List CallableDecl} (perm : methods.Perm others) :
    (provider.enclosingFinishers builder methods).Perm
      (provider.enclosingFinishers builder others) := by
  unfold enclosingFinishers
  cases provider.enclosingOf builder with
  | none => exact .refl _
  | some enclosing => exact perm.filter _

/-- The candidates are the same in some order if the visible methods are. -/
theorem finisherCandidates_perm {reported : TypeDecl → List Declaration} {order : List TypeDecl}
    (visible : ((provider.withMembers reported).visibleForms order).Perm
      (provider.visibleForms order)) :
    ((provider.withMembers reported).finisherCandidates settings builder order).Perm
      (provider.finisherCandidates settings builder order) := by
  have possible := visible.filter (provider.yieldsBuilt settings builder)
  have standing : (provider.enclosingFinishers builder _).Perm _ := enclosingFinishers_perm visible
  -- The members are only read for the visible methods.
  change List.Perm (if List.isEmpty (List.filter (provider.yieldsBuilt settings builder) _) = true
    then provider.enclosingFinishers builder _ else _) _
  rw [finisherCandidates, possible.isEmpty_eq]
  split
  · exact standing
  · exact possible

/-- **A reordering of members keeps the finisher**, if it keeps the first method of each signature
that is contested on a type. -/
theorem finisher?_reordered {reported : TypeDecl → List Declaration}
    (reordered : ∀ type, provider.Reaches builder type →
      (reported type).Perm (provider.membersOf type))
    (settled : ∀ type, provider.Reaches builder type → ∀ signature,
      Contested (provider.members type).methods signature →
        firstOfSignature? ((provider.withMembers reported).members type).methods signature =
          firstOfSignature? (provider.members type).methods signature) :
    ((provider.withMembers reported).finisher? settings builder).result =
      (provider.finisher? settings builder).result := by
  rw [result_finisher?, result_finisher?, ancestry_withMembers]
  cases walked : (provider.ancestry builder).result with
  | error failure => rfl
  | ok order =>
    have begins : ∀ type ∈ order, ∀ signature,
        firstOfSignature? ((provider.withMembers reported).members type).methods signature =
          firstOfSignature? (provider.members type).methods signature := by
      intro type member signature
      have reached := reaches_of_mem_ancestry walked member
      by_cases contested : Contested (provider.members type).methods signature
      · exact settled type reached signature contested
      · exact firstOfSignature?_eq_of_perm
          ((reordered type reached).filterMap Declaration.method?) contested
    have visible : ((provider.withMembers reported).visibleForms order).Perm
        (provider.visibleForms order) := by
      refine List.Perm.filter _ (firstOfEach_perm fun signature => ?_)
      exact find?_flatMap_congr fun type member => begins type member signature
    exact congrArg Except.ok (preferredFinisher?_perm (finisherCandidates_perm visible))

/-- A builder whose building method has a bridge to it, as a generic supertype calls for. -/
def kits : Catalog :=
  [TypeSpec.mk { form := .interface, name := "Kit" } [],
    .mk
      { name := "KitBuilder"
        base := .absent
        methods :=
          [{ name := "build", returns := .ofName "Kit" },
            { name := "size", returns := .int },
            { name := "build", keywords := [.modifier .synthetic], returns := .ofName objectName }] }
      []].foldl (fun catalog spec => (catalog.declare spec).2) .empty

/-- The members of a type of the kits, the building methods behind all others. -/
def buildingLast (type : TypeDecl) : List Declaration :=
  (kits.provider.membersOf type).filter (fun member => !member.isMethodCalled "build") ++
    (kits.provider.membersOf type).filter (Declaration.isMethodCalled "build")

/-- With the building methods listed last, but still in front of the bridge to it, the building
method remains the finisher. -/
theorem finisher?_reordered_kits :
    ∃ builder, kits.findByName? "KitBuilder" = some builder ∧
      (∀ type, kits.provider.Reaches builder type →
        (buildingLast type).Perm (kits.provider.membersOf type)) ∧
      (∀ type, kits.provider.Reaches builder type → ∀ signature,
        Contested (kits.provider.members type).methods signature →
          firstOfSignature? ((kits.provider.withMembers buildingLast).members type).methods
              signature =
            firstOfSignature? (kits.provider.members type).methods signature) ∧
      Contested (kits.provider.members builder).methods "build()" ∧
      ((kits.provider.withMembers buildingLast).finisher? {} builder).result =
        (kits.provider.finisher? {} builder).result ∧
      (kits.provider.finisher? {} builder).result.toOption.map
        (Option.map (·.returns.text)) = some (some "Kit") := by
  obtain ⟨builder, found⟩ : ∃ builder, kits.findByName? "KitBuilder" = some builder :=
    Option.isSome_iff_exists.mp (by decide)
  have there := Catalog.mem_types_of_findByName? found
  have begins : ∀ type ∈ kits.types, ∀ method ∈ (kits.provider.members type).methods,
      firstOfSignature? ((kits.provider.withMembers buildingLast).members type).methods
          method.overrideKey =
        firstOfSignature? (kits.provider.members type).methods method.overrideKey := by decide
  have contested : ∀ builder ∈ kits.findByName? "KitBuilder",
      ∃ first ∈ (kits.provider.members builder).methods,
        ∃ second ∈ (kits.provider.members builder).methods,
          first ≠ second ∧ first.overrideKey = "build()" ∧ second.overrideKey = "build()" := by
    decide
  have shown : ∀ builder ∈ kits.findByName? "KitBuilder",
      (kits.provider.finisher? {} builder).result.toOption.map (Option.map (·.returns.text)) =
        some (some "Kit") := by decide
  have reordered : ∀ type, kits.provider.Reaches builder type →
      (buildingLast type).Perm (kits.provider.membersOf type) :=
    fun type _ => List.perm_append_comm.trans (List.filter_append_perm _ _)
  have settled : ∀ type, kits.provider.Reaches builder type → ∀ signature,
      Contested (kits.provider.members type).methods signature →
        firstOfSignature? ((kits.provider.withMembers buildingLast).members type).methods
            signature =
          firstOfSignature? (kits.provider.members type).methods signature := by
    rintro type reached _ ⟨first, member, -, -, -, rfl, -⟩
    exact begins type (Catalog.mem_types_of_reaches there reached) first member
  exact ⟨builder, found, reordered, settled, contested builder found,
    finisher?_reordered reordered settled, shown builder found⟩

/-- **In the opposite order the bridge stands for the building method**, and as it leads to the
platform, the builder has no finisher. -/
theorem finisher?_reversed_bridge :
    ∃ builder, kits.findByName? "KitBuilder" = some builder ∧
      (∀ type, (kits.provider.membersOf type).reverse.Perm (kits.provider.membersOf type)) ∧
      (kits.provider.finisher? {} builder).result.toOption.map
        (Option.map (·.returns.text)) = some (some "Kit") ∧
      ((kits.provider.withMembers fun type => (kits.provider.membersOf type).reverse).finisher? {}
        builder).result = .ok none := by
  obtain ⟨builder, found⟩ : ∃ builder, kits.findByName? "KitBuilder" = some builder :=
    Option.isSome_iff_exists.mp (by decide)
  have shown : ∀ builder ∈ kits.findByName? "KitBuilder",
      (kits.provider.finisher? {} builder).result.toOption.map (Option.map (·.returns.text)) =
          some (some "Kit") ∧
        ((kits.provider.withMembers fun type =>
          (kits.provider.membersOf type).reverse).finisher? {} builder).result.toOption.map
            Option.isNone = some true := by decide
  obtain ⟨forwards, backwards⟩ := shown builder found
  obtain ⟨finisher, outcome, nothing⟩ := Attempt.exists_eq_ok_of_shown backwards
  rw [Option.isNone_iff_eq_none.mp nothing] at outcome
  exact ⟨builder, found, fun type => List.reverse_perm _, forwards, outcome⟩

end Provider

end ValueAnatomy
