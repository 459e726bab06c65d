import OpenAppsec.Library.ArrayEdits

/-!
# The first item of a kind

Edits of the item that a search finds, and what other searches find after
them.
-/

namespace ArrayEdits

variable {α β : Type*} {kind other : α → Bool} {items : List α}

variable {edit : α → α} {item : α} {before after : List α}

/-- Change the first item of a kind. -/
def editFirst (kind : α → Bool) (edit : α → α) : List α → List α
  | [] => []
  | item :: items =>
      if kind item then edit item :: items
      else item :: editFirst kind edit items

/-- Change the first item of a kind, or add one at the end. -/
def editFirstOrAdd (kind : α → Bool) (edit : α → α) (new : α)
    (items : List α) : List α :=
  if items.any kind then editFirst kind edit items else items ++ [new]

theorem editFirst_of_absent (absent : items.any kind = false) :
    editFirst kind edit items = items := by
  induction items with
  | nil => rfl
  | cons item items induction =>
      obtain ⟨differs, absent⟩ := Bool.or_eq_false_iff.mp absent
      rw [editFirst, differs, if_neg nofun, induction absent]

variable (first : FirstAt kind items before item after)

include first

theorem FirstAt.editFirst_eq :
    editFirst kind edit items = before ++ edit item :: after := by
  obtain ⟨rfl, ofKind, unlike⟩ := first
  induction before with
  | nil => rw [List.nil_append, editFirst, if_pos ofKind, List.nil_append]
  | cons head before induction =>
      have differs := unlike head List.mem_cons_self
      rw [List.cons_append, editFirst, if_neg (by simp [differs]),
        induction fun other member =>
          unlike other (List.mem_cons_of_mem _ member)]
      rfl

theorem FirstAt.any :
    items.any kind = true :=
  List.any_eq_true.mpr ⟨item, by simp [first.split], first.ofKind⟩

theorem FirstAt.eraseP :
    items.eraseP kind = before ++ after := by
  rw [first.split, List.eraseP_append_right _ fun other member => by
      simp [first.none other member],
    List.eraseP_cons_of_pos first.ofKind]

omit first

theorem any_eq_isSome_findIdx? :
    items.any kind = (items.findIdx? kind).isSome := by
  rw [List.findIdx?_isSome]

theorem find?_of_findIdx?_none (absent : items.findIdx? kind = none) :
    items.find? kind = none := by
  rw [List.findIdx?_eq_none_iff] at absent
  exact List.find?_eq_none.mpr fun item member => by
    simp [absent item member]

/-- An edit that has no effect on the first item. -/
theorem editFirst_of_fixed
    (fixed : ∀ item, items.find? kind = some item → edit item = item) :
    editFirst kind edit items = items := by
  induction items with
  | nil => rfl
  | cons item items induction =>
      rw [editFirst]
      split
      · rename_i ofKind
        rw [fixed item (List.find?_cons_of_pos ofKind)]
      · rename_i differs
        rw [induction fun later found => fixed later (by
          rw [List.find?_cons_of_neg differs]
          exact found)]

/-- An edit that leaves a look at the items as it is. -/
theorem getElem?_editFirst {look : α → β}
    (keeps : ∀ item, look (edit item) = look item) (index : Nat) :
    (editFirst kind edit items)[index]?.map look = items[index]?.map look := by
  induction items generalizing index with
  | nil => rfl
  | cons item items induction =>
      rw [editFirst]
      split
      · cases index with
        | zero => exact congrArg some (keeps item)
        | succ index => rfl
      · cases index with
        | zero => rfl
        | succ index => exact induction index

theorem length_editFirst :
    (editFirst kind edit items).length = items.length := by
  induction items with
  | nil => rfl
  | cons item items induction =>
      rw [editFirst]
      split
      · rfl
      · rw [List.length_cons, induction, List.length_cons]

theorem countP_editFirst
    (keeps : ∀ item, kind item = true → other (edit item) = other item) :
    (editFirst kind edit items).countP other = items.countP other := by
  induction items with
  | nil => rfl
  | cons item items induction =>
      rw [editFirst]
      split
      · rename_i ofKind
        rw [List.countP_cons, List.countP_cons, keeps item ofKind]
      · rw [List.countP_cons, List.countP_cons, induction]

theorem any_editFirst
    (keeps : ∀ item, kind item = true → other (edit item) = other item) :
    (editFirst kind edit items).any other = items.any other := by
  induction items with
  | nil => rfl
  | cons item items induction =>
      rw [editFirst]
      split
      · rename_i ofKind
        rw [List.any_cons, List.any_cons, keeps item ofKind]
      · rw [List.any_cons, List.any_cons, induction]

theorem find?_editFirst
    (keeps : ∀ item, kind item = true → kind (edit item) = kind item) :
    (editFirst kind edit items).find? kind = (items.find? kind).map edit := by
  induction items with
  | nil => rfl
  | cons item items induction =>
      rw [editFirst, List.find?_cons]
      cases ofKind : kind item with
      | true =>
          rw [if_pos rfl, List.find?_cons, keeps item ofKind, ofKind]
          rfl
      | false =>
          rw [if_neg nofun, List.find?_cons, ofKind]
          exact induction

theorem editFirst_editFirst {first second : α → α}
    (keeps : ∀ item, kind (first item) = kind item) :
    editFirst kind second (editFirst kind first items) =
      editFirst kind (fun item => second (first item)) items := by
  induction items with
  | nil => rfl
  | cons item items induction =>
      rw [editFirst, editFirst]
      cases ofKind : kind item with
      | true => rw [if_pos rfl, if_pos rfl, editFirst, keeps, if_pos ofKind]
      | false =>
          rw [if_neg nofun, if_neg nofun, editFirst, ofKind, if_neg nofun,
            induction]

/-- Two lists agree in where the first item of a kind stands, and in what is
seen of it. -/
structure SameFirst (kind : α → Bool) (look : α → β) (old new : List α) :
    Prop where
  place : new.findIdx? kind = old.findIdx? kind
  seen : (new.find? kind).map look = (old.find? kind).map look

namespace SameFirst

variable {look : α → β} {old new : List α}

theorem refl (items : List α) : SameFirst kind look items items :=
  ⟨rfl, rfl⟩

theorem trans {next : List α} (first : SameFirst kind look old new)
    (second : SameFirst kind look new next) : SameFirst kind look old next :=
  ⟨second.place.trans first.place, second.seen.trans first.seen⟩

theorem any (same : SameFirst kind look old new) :
    new.any kind = old.any kind := by
  rw [any_eq_isSome_findIdx?, any_eq_isSome_findIdx?, same.place]

/-- An item that keeps its kind and looks the same may be edited. -/
theorem of_editFirst
    (keeps : ∀ item, other item = true → kind (edit item) = kind item ∧
      (kind item = true → look (edit item) = look item)) :
    SameFirst kind look items (editFirst other edit items) := by
  induction items with
  | nil => exact refl []
  | cons item items induction =>
      rw [editFirst]
      split
      · rename_i ofOther
        obtain ⟨sameKind, sameLook⟩ := keeps item ofOther
        constructor
        · rw [List.findIdx?_cons, List.findIdx?_cons, sameKind]
        · rw [List.find?_cons, List.find?_cons, sameKind]
          cases ofKind : kind item with
          | true => exact congrArg some (sameLook ofKind)
          | false => rfl
      · constructor
        · rw [List.findIdx?_cons, List.findIdx?_cons, induction.place]
        · rw [List.find?_cons, List.find?_cons]
          cases kind item with
          | true => rfl
          | false => exact induction.seen

theorem of_append (differs : kind item = false) :
    SameFirst kind look items (items ++ [item]) := by
  constructor
  · rw [List.findIdx?_append]
    cases found : items.findIdx? kind with
    | some index => rfl
    | none => simp [differs]
  · rw [List.find?_append]
    cases found : items.find? kind with
    | some item => rfl
    | none => simp [differs]

theorem of_editFirstOrAdd
    (keeps : ∀ item, other item = true → kind (edit item) = kind item ∧
      (kind item = true → look (edit item) = look item))
    (differs : kind item = false) :
    SameFirst kind look items (editFirstOrAdd other edit item items) := by
  rw [editFirstOrAdd]
  split
  · exact of_editFirst keeps
  · exact of_append differs

theorem exists_first (same : SameFirst kind look old new) {index : Nat}
    (place : old.findIdx? kind = some index)
    (found : old.find? kind = some item) :
    ∃ before current after, FirstAt kind new before current after ∧
      before.length = index ∧ look current = look item := by
  obtain ⟨before, current, after, first, length⟩ :=
    exists_firstAt (same.place.trans place)
  have seen := same.seen
  rw [first.find?, found] at seen
  exact ⟨before, current, after, first, length, Option.some.inj seen⟩

end SameFirst

theorem isSome_mapM_iff {f : α → Option β} :
    (items.mapM f).isSome = true ↔ ∀ item ∈ items, (f item).isSome = true := by
  induction items with
  | nil => simp
  | cons item items induction =>
      rw [List.mapM_cons, List.forall_mem_cons, ← induction]
      cases f item with
      | none => simp
      | some value => cases items.mapM f <;> simp

include first in
/-- Taking out the first item takes out all of its kind exactly if there is no
other one. -/
theorem FirstAt.eraseIdx_eq_filter_iff :
    items.eraseIdx before.length = items.filter (fun item => !kind item) ↔
      items.countP kind ≤ 1 := by
  have kept : before.filter (fun item => !kind item) = before :=
    List.filter_eq_self.mpr fun item member => by
      simp [first.none item member]
  have filtered : items.filter (fun item => !kind item) =
      before ++ after.filter fun item => !kind item := by
    rw [first.split, List.filter_append, kept,
      List.filter_cons_of_neg (by simp [first.ofKind])]
  rw [first.eraseIdx, filtered, List.append_cancel_left_eq, eq_comm,
    List.filter_eq_self, first.countP]
  simp [List.countP_eq_zero]

theorem eraseP_eq_filter (few : items.countP kind ≤ 1) :
    items.eraseP kind = items.filter fun item => !kind item := by
  cases found : items.findIdx? kind with
  | some index =>
      obtain ⟨before, item, after, first, _⟩ := exists_firstAt found
      rw [first.eraseP, ← first.eraseIdx]
      exact first.eraseIdx_eq_filter_iff.mpr few
  | none =>
      have absent := List.findIdx?_eq_none_iff.mp found
      rw [List.eraseP_of_forall_not fun item member => by
        simp [absent item member]]
      exact (List.filter_eq_self.mpr fun item member => by
        simp [absent item member]).symm

/-- Taking one item out leaves at most one item less. -/
theorem countP_le_one_of_eraseP {old new : List α}
    (length : old.length = new.length)
    (same : old.eraseP kind = new.filter fun item => !kind item) :
    new.countP kind ≤ 1 := by
  have split := List.length_eq_countP_add_countP kind (l := new)
  have filtered : (new.filter fun item => !kind item).length =
      new.countP fun item => decide (¬kind item = true) := by
    rw [← List.countP_eq_length_filter]
    apply List.countP_congr
    intro item _
    simp
  have most : old.length ≤ (old.eraseP kind).length + 1 := by
    rw [List.length_eraseP]
    split <;> omega
  rw [same, filtered] at most
  omega

end ArrayEdits
