import Mathlib.Data.List.Forall2

/-!
# Traversals that can fail

A list is traversed with a function that can fail, from the first item on. Either there is a value for
each item, in their order, or the traversal stops at the first item without one.
-/

namespace ScanSchema

variable {α β γ ε : Type} {items : List α} {values : List β}

/-- A traversal that never fails gives a value for each item. -/
theorem mapM_eq_ok_map {f : α → Except ε β} {g : α → β} (h : ∀ item ∈ items, f item = .ok (g item)) :
    items.mapM f = .ok (items.map g) := by
  induction items with
  | nil => rfl
  | cons item rest ih =>
    rw [List.mapM_cons, h item List.mem_cons_self,
      ih fun other hother => h other (List.mem_cons_of_mem _ hother)]
    rfl

/-- A traversal that succeeds gives the values of the items in their order. -/
theorem forall₂_of_mapM_eq_ok {f : α → Except ε β} (h : items.mapM f = .ok values) :
    List.Forall₂ (fun item value => f item = .ok value) items values := by
  induction items generalizing values with
  | nil =>
    cases h
    exact List.Forall₂.nil
  | cons item rest ih =>
    rw [List.mapM_cons] at h
    cases hitem : f item with
    | error error =>
      rw [hitem] at h
      cases h
    | ok value =>
      cases hrest : rest.mapM f with
      | error error =>
        rw [hitem, hrest] at h
        cases h
      | ok others =>
        rw [hitem, hrest] at h
        cases h
        exact List.Forall₂.cons hitem (ih hrest)

/-- What each item is related to is there. -/
theorem exists_of_forall₂ {R : α → β → Prop} (h : List.Forall₂ R items values) :
    ∀ item ∈ items, ∃ value, R item value := by
  induction h with
  | nil => simp
  | @cons first value rest others hfirst _ ih =>
    intro item hitem
    rcases List.mem_cons.mp hitem with rfl | hitem
    · exact ⟨value, hfirst⟩
    · exact ih item hitem

/-- A traversal that fails stops at the first item that does. -/
theorem exists_of_mapM_eq_error {f : α → Except ε β} {error : ε} (h : items.mapM f = .error error) :
    ∃ earlier item later, items = earlier ++ item :: later ∧
      (∀ other ∈ earlier, ∃ value, f other = .ok value) ∧ f item = .error error := by
  induction items with
  | nil => cases h
  | cons item rest ih =>
    rw [List.mapM_cons] at h
    cases hitem : f item with
    | error found =>
      rw [hitem] at h
      cases h
      exact ⟨[], item, rest, rfl, by simp, hitem⟩
    | ok value =>
      cases hrest : rest.mapM f with
      | error found =>
        rw [hitem, hrest] at h
        cases h
        obtain ⟨earlier, stop, later, rfl, hearlier, hstop⟩ := ih hrest
        refine ⟨item :: earlier, stop, later, rfl, fun other hother => ?_, hstop⟩
        rcases List.mem_cons.mp hother with rfl | hother
        · exact ⟨value, hitem⟩
        · exact hearlier other hother
      | ok others =>
        rw [hitem, hrest] at h
        cases h

/-- A traversal whose values are changed afterwards has its list of values changed. -/
theorem mapM_map_values {f : α → Except ε β} {g : β → γ} :
    (items.mapM fun item => (f item).map g) = (items.mapM f).map (List.map g) := by
  induction items with
  | nil => rfl
  | cons item rest ih =>
    rw [List.mapM_cons, List.mapM_cons, ih]
    cases f item with
    | error error => rfl
    | ok value =>
      cases rest.mapM f with
      | error error => rfl
      | ok others => rfl

/-- A traversal that gives nothing as soon as an item does, and one that gives an error instead. -/
theorem mapM_elim {g : α → Option β} {error : ε} :
    (items.mapM fun item => (g item).elim (Except.error error) .ok) =
      (items.mapM g).elim (.error error) .ok := by
  induction items with
  | nil => rfl
  | cons item rest ih =>
    rw [List.mapM_cons, List.mapM_cons, ih]
    cases g item with
    | none => rfl
    | some value => cases rest.mapM g <;> rfl

/-- A traversal gives nothing exactly if some item does. -/
theorem mapM_eq_none_iff {g : α → Option β} :
    items.mapM g = none ↔ ∃ item ∈ items, g item = none := by
  induction items with
  | nil => simp
  | cons item rest ih =>
    rw [List.mapM_cons, List.exists_mem_cons_iff, ← ih]
    cases g item with
    | none => simp
    | some value => cases rest.mapM g <;> simp

end ScanSchema
