/-
**Bridges are no accessors, but they may stand in front of one.**

A compiler adds methods of its own to a type, among them bridges, which have the name and the erased
parameters of the method that they call. None of them is ever taken for an accessor. As signatures
are claimed before accessors are told from other methods, a bridge that is offered first claims the
signature all the same, and the accessor behind it is lost.

* `filter_firstOfEach_eq`: what is kept of the first items, and the first items of what is kept;
* `Provider.withoutBridges`: the provider that reports the types of a program without the methods
  that a compiler added;
* `Provider.gathered_withoutBridges`: the members gathered with and without these;
* `Provider.membersAlong_withoutBridges`: the fields are the same, and the accessors are those whose
  signature no bridge claims;
* `Provider.membersAlong_hidden_by_bridge`: a bridge hides an accessor of its own type, and an
  inherited one.
-/

import ValueAnatomy.Proofs.Sources.MostSpecific

namespace ValueAnatomy

variable {α κ : Type} [DecidableEq κ]

/-- Items may be chosen before or after something is made of them, if both choose alike. -/
theorem filterMap_filter_eq {β : Type} {make? : β → Option α} {chosen : β → Bool}
    {holds : α → Bool} (alike : ∀ item, ∀ made ∈ make? item, chosen item = holds made)
    (items : List β) :
    (items.filter chosen).filterMap make? = (items.filterMap make?).filter holds := by
  rw [List.filterMap_filter, List.filter_filterMap]
  congr 1
  funext item
  cases made : make? item with
  | none => simp
  | some value => simp [alike item value made, Option.filter_some]

/-- Of the first items of each key, the ones that hold are the first items of those that hold, as
far as the first item of their key is one. -/
theorem filter_firstOfEach_eq (key : α → κ) (holds : α → Bool) (items : List α) :
    (firstOfEach key items).filter holds =
      (firstOfEach key (items.filter holds)).filter fun item =>
        (items.find? fun other => key other == key item).all holds := by
  induction items with
  | nil => rfl
  | cons head rest ih =>
    -- Behind the head only items of other keys are looked at, and these are found in the rest.
    have behind : ((firstOfEach key rest).filter fun other => key other != key head).filter holds =
        ((firstOfEach key (rest.filter holds)).filter fun other => key other != key head).filter
          fun item => ((head :: rest).find? fun other => key other == key item).all holds := by
      rw [filter_filter_comm, ih, List.filter_filter, List.filter_filter]
      refine List.filter_congr fun item _ => ?_
      by_cases same : key item = key head
      · simp [same]
      · rw [List.find?_cons_of_neg (by simpa using Ne.symm same), Bool.and_comm]
    rw [firstOfEach]
    by_cases first : holds head = true
    · rw [List.filter_cons_of_pos first, List.filter_cons_of_pos first, firstOfEach,
        List.filter_cons_of_pos (by simp [first]), behind]
    · rw [List.filter_cons_of_neg first, List.filter_cons_of_neg first, behind, List.filter_filter]
      refine List.filter_congr fun item _ => ?_
      by_cases same : key item = key head
      · simp [same, first]
      · simp [same]

theorem filter_declaredOn {members : TypeDecl → List α} (holds : α → Bool)
    (types : List TypeDecl) :
    (declaredOn members types).filter (fun entry => holds entry.2) =
      declaredOn (fun type => (members type).filter holds) types := by
  simp [declaredOn, List.filter_flatMap, List.filter_map, Function.comp_def]

/-- Whether a member is a method that a compiler added. -/
def Declaration.isBridge : Declaration → Bool
  | .method decl => decl.isSynthetic
  | _ => false

namespace Provider

variable (provider : Provider) (settings : Settings)

/-- The members of a type, without the bridges if it is not one of the platform. -/
def membersWithoutBridges (type : TypeDecl) : List Declaration :=
  if settings.isPlatform type then provider.membersOf type
  else (provider.membersOf type).filter fun member => !member.isBridge

/-- The provider that reports no bridges on the types of the program. -/
def withoutBridges : Provider :=
  provider.withMembers (provider.membersWithoutBridges settings)

/-- Whether the first instance method of the signature along an ancestry is a bridge. -/
def bridgeClaims (order : List TypeDecl) (signature : String) : Bool :=
  ((declaredOn provider.instanceMethods (ownTypes settings order)).find? fun entry =>
    entry.2.overrideKey == signature).any fun entry => entry.2.isSynthetic

/-- Whether a method reads a property of the type that offers it, under a signature that the
platform leaves open. -/
def isOpenAccessor (pool : PlatformPool) (entry : TypeDecl × CallableDecl) : Bool :=
  entry.2.overrideKey ∉ pool.overrideKeys && provider.isAccessor settings entry.1 entry.2

variable {provider settings} {type : TypeDecl}

theorem members_withoutBridges_of_platform (ofPlatform : settings.isPlatform type = true) :
    (provider.withoutBridges settings).members type = provider.members type := by
  have same : (provider.withoutBridges settings).membersOf type = provider.membersOf type :=
    if_pos ofPlatform
  rw [members, members, same]

theorem membersOf_withoutBridges_of_own (own : settings.isPlatform type = false) :
    (provider.withoutBridges settings).membersOf type =
      (provider.membersOf type).filter fun member => !member.isBridge :=
  if_neg (Bool.eq_false_iff.mp own)

/-- A bridge is no field. -/
theorem instanceFields_withoutBridges (own : settings.isPlatform type = false) :
    (provider.withoutBridges settings).instanceFields type = provider.instanceFields type := by
  have fields : ((provider.membersOf type).filter fun member => !member.isBridge).filterMap
      Declaration.field? = ((provider.membersOf type).filterMap Declaration.field?).filter
        fun _ => true :=
    filterMap_filter_eq (by rintro (_ | _ | _ | _) _ ⟨⟩; rfl) _
  rw [List.filter_eq_self.mpr fun _ _ => rfl] at fields
  rw [instanceFields, instanceFields, members, members, membersOf_withoutBridges_of_own own]
  exact congrArg (List.filter _) fields

theorem instanceMethods_withoutBridges (own : settings.isPlatform type = false) :
    (provider.withoutBridges settings).instanceMethods type =
      (provider.instanceMethods type).filter fun method => !method.isSynthetic := by
  have methods : ((provider.membersOf type).filter fun member => !member.isBridge).filterMap
      Declaration.method? = ((provider.membersOf type).filterMap Declaration.method?).filter
        fun method => !method.isSynthetic :=
    filterMap_filter_eq (by rintro (_ | _ | _ | _) _ ⟨⟩; rfl) _
  rw [instanceMethods, instanceMethods, members, members, membersOf_withoutBridges_of_own own,
    filter_filter_comm]
  exact congrArg (List.filter _) methods

/-- What the platform's members are called does not change. -/
theorem platformPool_withoutBridges (order : List TypeDecl) :
    (provider.withoutBridges settings).platformPool settings order =
      provider.platformPool settings order := by
  have same : (order.filter settings.isPlatform).map (provider.withoutBridges settings).members =
      (order.filter settings.isPlatform).map provider.members :=
    List.map_congr_left fun type member =>
      members_withoutBridges_of_platform (List.mem_filter.mp member).2
  rw [platformPool, platformPool, same]

theorem not_isPlatform_of_mem_ownTypes {order : List TypeDecl}
    (own : type ∈ ownTypes settings order) : settings.isPlatform type = false := by
  simpa using (List.mem_filter.mp own).2

/-- **Of the methods that claim their signatures, those that are no bridges** are the ones that
claim them among the methods without bridges, as far as no bridge claims the signature first. -/
theorem claimed_withoutBridges (provider : Provider) (settings : Settings)
    (order : List TypeDecl) :
    ((claimed CallableDecl.overrideKey provider.instanceMethods (ownTypes settings order)).filter
      fun entry => !entry.2.isSynthetic) =
        (claimed CallableDecl.overrideKey (provider.withoutBridges settings).instanceMethods
          (ownTypes settings order)).filter fun entry =>
            !provider.bridgeClaims settings order entry.2.overrideKey := by
  have methods : declaredOn (provider.withoutBridges settings).instanceMethods
      (ownTypes settings order) =
        (declaredOn provider.instanceMethods (ownTypes settings order)).filter
          fun entry => !entry.2.isSynthetic :=
    (declaredOn_congr fun type own =>
      instanceMethods_withoutBridges (not_isPlatform_of_mem_ownTypes own)).trans
        (filter_declaredOn _ _).symm
  rw [claimed, claimed, filter_firstOfEach_eq, methods]
  refine List.filter_congr fun entry _ => ?_
  rw [bridgeClaims]
  cases List.find? _ _ <;> rfl

/-- An accessor is no bridge. -/
theorem isOpenAccessor_and_not_isSynthetic (pool : PlatformPool)
    (entry : TypeDecl × CallableDecl) :
    (provider.isOpenAccessor settings pool entry && !entry.2.isSynthetic) =
      provider.isOpenAccessor settings pool entry := by
  rw [isOpenAccessor, isAccessor]
  cases entry.2.isSynthetic <;> simp

theorem isSynthetic_of_mem_gathered {order : List TypeDecl} {getter : CallableDecl}
    (member : getter ∈ (provider.gathered settings order).2) : getter.isSynthetic = false := by
  obtain ⟨entry, reads, rfl⟩ := List.mem_map.mp member
  have accessor : provider.isOpenAccessor settings (provider.platformPool settings order) entry =
      true := (List.mem_filter.mp reads).2
  rw [← isOpenAccessor_and_not_isSynthetic, Bool.and_eq_true] at accessor
  simpa using accessor.2

/-- **What is gathered with and without bridges**: the same fields, and of the accessors those whose
signature no bridge claims. -/
theorem gathered_withoutBridges (provider : Provider) (settings : Settings)
    (order : List TypeDecl) :
    provider.gathered settings order =
      (((provider.withoutBridges settings).gathered settings order).1,
        ((provider.withoutBridges settings).gathered settings order).2.filter fun getter =>
          !provider.bridgeClaims settings order getter.overrideKey) := by
  have fields : claimed FieldDecl.name (provider.withoutBridges settings).instanceFields
      (ownTypes settings order) =
        claimed FieldDecl.name provider.instanceFields (ownTypes settings order) :=
    claimed_congr fun type own =>
      instanceFields_withoutBridges (not_isPlatform_of_mem_ownTypes own)
  have pool := @platformPool_withoutBridges provider settings order
  refine Prod.ext ?_ ?_
  · rw [gathered, gathered, fields, pool]
  · calc
      (provider.gathered settings order).2 =
          ((((claimed CallableDecl.overrideKey provider.instanceMethods
            (ownTypes settings order)).filter fun entry => !entry.2.isSynthetic).filter
              (provider.isOpenAccessor settings (provider.platformPool settings order))).map
                (·.2)) := by
        rw [List.filter_filter, funext (isOpenAccessor_and_not_isSynthetic _)]
        rfl
      _ = ((((claimed CallableDecl.overrideKey (provider.withoutBridges settings).instanceMethods
            (ownTypes settings order)).filter
              (provider.isOpenAccessor settings (provider.platformPool settings order))).map
                (·.2)).filter fun getter =>
                  !provider.bridgeClaims settings order getter.overrideKey) := by
        rw [claimed_withoutBridges, filter_filter_comm, List.filter_map]
        rfl
      _ = _ := by
        rw [gathered, pool]
        rfl

/-- **The accessors of a type are those that it has without bridges, but for the ones whose
signature a bridge claims.** None is a bridge, and the fields are the same. So deleting the bridges
changes nothing exactly if none of them claims the signature of an accessor. -/
theorem membersAlong_withoutBridges {root : TypeDecl} {order : List TypeDecl}
    (walked : (provider.ancestry root).result = .ok order) :
    ∃ fields getters shown,
      (provider.membersAlong settings root).result = .ok (fields, getters) ∧
      ((provider.withoutBridges settings).membersAlong settings root).result =
        .ok (fields, shown) ∧
      (∀ getter ∈ getters, getter.isSynthetic = false) ∧
      getters = shown.filter (fun getter =>
        !provider.bridgeClaims settings order getter.overrideKey) ∧
      (getters = shown ↔ ∀ getter ∈ shown,
        provider.bridgeClaims settings order getter.overrideKey = false) := by
  have gathers : (provider.membersAlong settings root).result =
      .ok (provider.gathered settings order) := by
    rw [result_membersAlong, walked]
    rfl
  have gathersWithout : ((provider.withoutBridges settings).membersAlong settings root).result =
      .ok ((provider.withoutBridges settings).gathered settings order) := by
    rw [result_membersAlong, withoutBridges, ancestry_withMembers, walked]
    rfl
  have both := gathered_withoutBridges provider settings order
  refine ⟨(provider.gathered settings order).1, (provider.gathered settings order).2,
    ((provider.withoutBridges settings).gathered settings order).2, gathers, ?_,
    fun getter => isSynthetic_of_mem_gathered, ?_, ?_⟩
  · rw [gathersWithout, both]
  · rw [both]
  · rw [both]
    exact List.filter_eq_self.trans (forall₂_congr fun _ _ => by rw [Bool.not_eq_true'])

/-- A tag whose bridge stands behind the accessor that it calls, and a label with one in front of
its accessor and another one to an accessor that it inherits. -/
def labels : Catalog :=
  [TypeSpec.mk
      { name := "Text"
        base := .absent
        methods := [{ name := "getText", returns := .ofName stringName }] }
      [],
    .mk
      { name := "Tag"
        base := .is (.ofName "Text")
        methods :=
          [{ name := "getValue", returns := .ofName stringName },
            { name := "getValue"
              keywords := [.modifier .synthetic]
              returns := .ofName objectName }] }
      [],
    .mk
      { name := "Label"
        base := .is (.ofName "Text")
        methods :=
          [{ name := "getValue"
             keywords := [.modifier .synthetic]
             returns := .ofName objectName },
            { name := "getValue", returns := .ofName stringName },
            { name := "getText"
              keywords := [.modifier .synthetic]
              returns := .ofName stringName }] }
      []].foldl (fun catalog spec => (catalog.declare spec).2) .empty

/-- The bridge of the tag claims nothing: the accessors are those that it has without it. -/
theorem membersAlong_withoutBridges_tag :
    ∃ root order fields getters, labels.findByName? "Tag" = some root ∧
      (labels.provider.ancestry root).result = .ok order ∧
      (labels.provider.membersAlong {} root).result = .ok (fields, getters) ∧
      ((labels.provider.withoutBridges {}).membersAlong {} root).result = .ok (fields, getters) ∧
      (∀ getter ∈ getters, getter.isSynthetic = false) ∧
      getters.map (·.key.text) = ["Tag.getValue()", "Text.getText()"] := by
  obtain ⟨root, found⟩ : ∃ root, labels.findByName? "Tag" = some root :=
    Option.isSome_iff_exists.mp (by decide)
  have reported : ∀ root ∈ labels.findByName? "Tag",
      (labels.provider.ancestry root).result.toOption.map (fun order =>
        ((labels.provider.withoutBridges {}).membersAlong {} root).result.toOption.map
          fun members => (members.2.map (·.key.text),
            members.2.all fun getter =>
              !labels.provider.bridgeClaims {} order getter.overrideKey)) =
          some (some (["Tag.getValue()", "Text.getText()"], true)) := by decide
  obtain ⟨order, walked, outcome⟩ := Attempt.exists_eq_ok_of_shown (reported root found)
  obtain ⟨fields, getters, shown, gathers, without, noBridge, -, same⟩ :=
    @membersAlong_withoutBridges _ {} _ _ walked
  rw [without] at outcome
  obtain ⟨texts, free⟩ := Prod.mk.inj (Option.some.inj outcome)
  obtain rfl : getters = shown := same.mpr (by simpa using free)
  exact ⟨root, order, fields, getters, found, walked, gathers, without, noBridge, texts⟩

/-- **A bridge hides an accessor of its own type that stands behind it, and an inherited one**: the
label has no accessors, and without its bridges it has two. -/
theorem membersAlong_hidden_by_bridge :
    ∃ root, labels.findByName? "Label" = some root ∧
      (labels.provider.membersAlong {} root).result.toOption.map (fun members => members.2) =
        some [] ∧
      ((labels.provider.withoutBridges {}).membersAlong {} root).result.toOption.map
        (fun members => members.2.map (·.key.text)) =
          some ["Label.getValue()", "Text.getText()"] := by
  obtain ⟨root, found⟩ : ∃ root, labels.findByName? "Label" = some root :=
    Option.isSome_iff_exists.mp (by decide)
  have shown : ∀ root ∈ labels.findByName? "Label",
      (labels.provider.membersAlong {} root).result.toOption.map (fun members => members.2) =
        some [] ∧
      ((labels.provider.withoutBridges {}).membersAlong {} root).result.toOption.map
        (fun members => members.2.map (·.key.text)) =
          some ["Label.getValue()", "Text.getText()"] := by decide
  exact ⟨root, found, shown root found⟩

end Provider

end ValueAnatomy
