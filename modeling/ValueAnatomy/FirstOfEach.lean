/-
**The first of each key.**

`firstOfEach key items` keeps an item exactly if no item before it has the same key. It is how a
declaration in a subtype stands before the ones it takes the place of.

`repeatsOfEach key items` are the others.

* `mem_firstOfEach_iff`, `mem_firstOfEach_iff_find?`: what is kept;
* `firstOfEach_nodup`: no two kept items share a key;
* `exists_mem_firstOfEach`: every key is kept by one item;
* `map_firstOfEach`: a map that keeps the keys keeps what is kept;
* `repeatsOfEach_eq_nil_iff`: there are no others exactly if all keys differ.
-/

namespace ValueAnatomy

variable {α κ : Type} [DecidableEq κ]

/-- The items that stand before every other one of their key, in their order. -/
def firstOfEach (key : α → κ) : List α → List α
  | [] => []
  | item :: rest => item :: (firstOfEach key rest).filter fun other => key other != key item

/-- The items that stand behind another one of their key, or whose key is among those seen. -/
def repeatsBehind (key : α → κ) : List κ → List α → List α
  | _, [] => []
  | seen, item :: rest =>
    if key item ∈ seen then item :: repeatsBehind key seen rest
    else repeatsBehind key (key item :: seen) rest

/-- The items that stand behind another one of their key, in their order. -/
def repeatsOfEach (key : α → κ) (items : List α) : List α :=
  repeatsBehind key [] items

/-- Whatever is kept was there. -/
theorem mem_of_mem_firstOfEach {key : α → κ} {items : List α} {item : α}
    (kept : item ∈ firstOfEach key items) : item ∈ items := by
  induction items with
  | nil => simp [firstOfEach] at kept
  | cons head rest ih =>
    rcases List.mem_cons.mp kept with rfl | later
    · exact List.mem_cons_self
    · exact List.mem_cons_of_mem _ (ih (List.mem_filter.mp later).1)

/-- No two kept items share a key. -/
theorem firstOfEach_nodup (key : α → κ) (items : List α) :
    ((firstOfEach key items).map key).Nodup := by
  induction items with
  | nil => simp [firstOfEach]
  | cons head rest ih =>
    rw [firstOfEach, List.map_cons, List.nodup_cons]
    refine ⟨?_, ih.sublist (List.filter_sublist.map key)⟩
    simp

/-- Every key that is there is kept by some item. -/
theorem exists_mem_firstOfEach {key : α → κ} {items : List α} {item : α} (there : item ∈ items) :
    ∃ kept ∈ firstOfEach key items, key kept = key item := by
  induction items with
  | nil => simp at there
  | cons head rest ih =>
    by_cases same : key head = key item
    · exact ⟨head, List.mem_cons_self, same⟩
    · rcases List.mem_cons.mp there with rfl | later
      · exact absurd rfl same
      · obtain ⟨kept, member, equal⟩ := ih later
        refine ⟨kept, List.mem_cons_of_mem _ (List.mem_filter.mpr ⟨member, ?_⟩), equal⟩
        simp [equal, Ne.symm same]

theorem filter_filter_comm (holds fits : α → Bool) (items : List α) :
    (items.filter holds).filter fits = (items.filter fits).filter holds := by
  rw [List.filter_filter, List.filter_filter]
  exact List.filter_congr fun _ _ => Bool.and_comm _ _

/-- What is chosen by the key alone is chosen before or after, to the same end. -/
theorem filter_firstOfEach (key : α → κ) (chosen : κ → Bool) (items : List α) :
    (firstOfEach key items).filter (fun item => chosen (key item)) =
      firstOfEach key (items.filter fun item => chosen (key item)) := by
  induction items with
  | nil => rfl
  | cons head rest ih =>
    let choose (item : α) := chosen (key item)
    by_cases holds : choose head = true
    · rw [firstOfEach, List.filter_cons_of_pos holds, List.filter_cons_of_pos holds, firstOfEach,
        ← ih, filter_filter_comm]
    · rw [firstOfEach, List.filter_cons_of_neg holds, List.filter_cons_of_neg holds, ← ih,
        List.filter_filter]
      refine List.filter_congr fun item _ => ?_
      by_cases same : key item = key head
      · have refused : choose item = false :=
          (congrArg chosen same).trans (Bool.eq_false_iff.mpr holds)
        rw [refused, Bool.false_and]
        exact refused.symm
      · rw [bne_iff_ne.mpr same, Bool.and_true]

/-- An item is kept exactly if it stands somewhere behind no other item of its key. -/
theorem mem_firstOfEach_iff {key : α → κ} {items : List α} {item : α} :
    item ∈ firstOfEach key items ↔
      ∃ before after, items = before ++ item :: after ∧ ∀ other ∈ before, key other ≠ key item := by
  induction items with
  | nil => simp [firstOfEach]
  | cons head rest ih =>
    constructor
    · intro kept
      rcases List.mem_cons.mp kept with rfl | later
      · exact ⟨[], rest, rfl, by simp⟩
      · obtain ⟨member, apart⟩ := List.mem_filter.mp later
        obtain ⟨before, after, rfl, fresh⟩ := ih.mp member
        refine ⟨head :: before, after, rfl, fun other place => ?_⟩
        rcases List.mem_cons.mp place with rfl | place
        · exact Ne.symm (by simpa using apart)
        · exact fresh other place
    · rintro ⟨before, after, split, fresh⟩
      cases before with
      | nil =>
        obtain ⟨rfl, rfl⟩ := List.cons.inj split
        exact List.mem_cons_self
      | cons first before =>
        obtain ⟨rfl, rfl⟩ := List.cons.inj split
        refine List.mem_cons_of_mem _ (List.mem_filter.mpr ⟨ih.mpr ⟨before, after, rfl, ?_⟩, ?_⟩)
        · exact fun other place => fresh other (List.mem_cons_of_mem _ place)
        · simpa using Ne.symm (fresh head List.mem_cons_self)

/-- An item is kept of its key exactly if it is the first one found of that key. -/
theorem mem_firstOfEach_iff_find? {key : α → κ} {items : List α} {item : α} :
    item ∈ firstOfEach key items ↔
      items.find? (fun other => key other == key item) = some item := by
  simp [mem_firstOfEach_iff, List.find?_eq_some_iff_append]

/-- What a map makes of the items is kept as they are, if the keys are those of what it makes. -/
theorem map_firstOfEach {β : Type} (key : β → κ) (map : α → β) (items : List α) :
    (firstOfEach (fun item => key (map item)) items).map map = firstOfEach key (items.map map) := by
  induction items with
  | nil => rfl
  | cons head rest ih =>
    rw [firstOfEach, List.map_cons, List.map_cons, firstOfEach, ← ih, List.filter_map]
    rfl

theorem repeatsBehind_eq_nil_iff {key : α → κ} {seen : List κ} {items : List α} :
    repeatsBehind key seen items = [] ↔
      (items.map key).Nodup ∧ ∀ item ∈ items, key item ∉ seen := by
  induction items generalizing seen with
  | nil => simp [repeatsBehind]
  | cons head rest ih =>
    rw [repeatsBehind]
    split
    · rename_i known
      simp [known]
    · rename_i fresh
      rw [ih]
      simp only [List.map_cons, List.nodup_cons, List.mem_cons, not_or, List.mem_map,
        not_exists, not_and]
      constructor
      · rintro ⟨distinct, apart⟩
        refine ⟨⟨fun item member => (apart item member).1, distinct⟩, ?_⟩
        rintro item (rfl | member)
        · exact fresh
        · exact (apart item member).2
      · rintro ⟨⟨apart, distinct⟩, unseen⟩
        exact ⟨distinct, fun item member => ⟨apart item member, unseen item (.inr member)⟩⟩

/-- No item stands behind another one of its key exactly if all keys differ. -/
theorem repeatsOfEach_eq_nil_iff {key : α → κ} {items : List α} :
    repeatsOfEach key items = [] ↔ (items.map key).Nodup := by
  rw [repeatsOfEach, repeatsBehind_eq_nil_iff]
  simp

end ValueAnatomy
