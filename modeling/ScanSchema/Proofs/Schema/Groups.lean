import Mathlib.Data.List.Chain
import Mathlib.Data.List.Induction
import ScanSchema.Proofs.Schema.Precedence

/-!
# Groups and the orders they agree with

Groups are built up by calls that add an item to the open group or close it. An order of all added
items agrees with a group if it puts the items of the group as they occur there first. Only
neighbours of a closed group are kept, and the calls end in one list of items and one list of edges.
Still nothing is lost: an order goes along the neighbours of a group exactly if it agrees with the
group. So the orders that go along all edges are those that agree with every closed group.
-/

namespace ScanSchema

namespace Precedence

/-- A call by which groups are built up. -/
inductive Call (α : Type) where
  /-- Add an item to the open group. -/
  | add (item : α)
  /-- Close the open group. -/
  | flush
  deriving DecidableEq, Repr

/-- The item that a call adds. -/
def Call.item? {α : Type} : Call α → Option α
  | .add item => some item
  | .flush => none

/-- All items that are added, in the order of the calls. -/
def added {α : Type} (calls : List (Call α)) : List α := calls.filterMap Call.item?

/-- The groups that are closed, each with its items in the order of the calls. Those in `opened` are
in the open group already. -/
def closedGroups {α : Type} (opened : List α) : List (Call α) → List (List α)
  | [] => []
  | .add item :: rest => closedGroups (opened ++ [item]) rest
  | .flush :: rest => opened :: closedGroups [] rest

variable {α : Type} [DecidableEq α] {calls : List (Call α)} {order group : List α}

/-- Carry out a call. -/
def perform (precedence : Precedence α) : Call α → Precedence α
  | .add item => precedence.add item
  | .flush => precedence.flush

/-- What calls end in. -/
def play (calls : List (Call α)) : Precedence α := calls.foldl perform {}

section Playing

/-- The calls collect the items that they add, and the neighbours in the groups that they close. -/
theorem foldl_perform (precedence : Precedence α) (opened : List α)
    (h : precedence.group = opened.foldl pushNew []) :
    (calls.foldl perform precedence).items = (added calls).foldl pushNew precedence.items ∧
      (calls.foldl perform precedence).edges =
        precedence.edges ++ (closedGroups opened calls).flatMap neighbours := by
  induction calls generalizing precedence opened with
  | nil => exact ⟨rfl, (List.append_nil _).symm⟩
  | cons call rest ih =>
    cases call with
    | add item =>
      refine ih (precedence.add item) (opened ++ [item]) ?_
      rw [List.foldl_append, ← h]
      rfl
    | flush =>
      obtain ⟨hitems, hedges⟩ := ih precedence.flush [] rfl
      refine ⟨hitems, hedges.trans ?_⟩
      rw [flush, h, closedGroups, List.flatMap_cons, List.append_assoc]
      rfl

/-- The items are those that were added, in the order of their first appearance. -/
theorem items_play (calls : List (Call α)) : (play calls).items = (added calls).foldl pushNew [] :=
  (foldl_perform {} [] rfl).1

/-- The edges are those between neighbours in closed groups. -/
theorem edges_play (calls : List (Call α)) :
    (play calls).edges = (closedGroups [] calls).flatMap neighbours :=
  (foldl_perform {} [] rfl).2

/-- No item is kept twice. -/
theorem nodup_items_play (calls : List (Call α)) : (play calls).items.Nodup := by
  rw [items_play]
  exact nodup_foldl_pushNew List.nodup_nil

/-- The items are those that were added. -/
theorem mem_items_play {item : α} : item ∈ (play calls).items ↔ item ∈ added calls := by
  rw [items_play, mem_foldl_pushNew, or_iff_right List.not_mem_nil]

omit [DecidableEq α] in
/-- The items of a closed group were in the open group already, or were added. -/
theorem mem_of_mem_closedGroups {opened : List α} (h : group ∈ closedGroups opened calls) :
    ∀ item ∈ group, item ∈ opened ∨ item ∈ added calls := by
  induction calls generalizing opened with
  | nil => cases h
  | cons call rest ih =>
    intro item hitem
    cases call with
    | add next =>
      have hlater := ih h item hitem
      rw [List.mem_append, List.mem_singleton, or_assoc] at hlater
      exact hlater.imp_right List.mem_cons.mpr
    | flush =>
      rcases List.mem_cons.mp h with rfl | hlater
      · exact .inl hitem
      · exact .inr ((ih hlater item hitem).resolve_left List.not_mem_nil)

omit [DecidableEq α] in
/-- The items of a closed group were added. -/
theorem mem_added_of_mem_closedGroups (h : group ∈ closedGroups [] calls) :
    ∀ item ∈ group, item ∈ added calls := fun item hitem =>
  (mem_of_mem_closedGroups h item hitem).resolve_left List.not_mem_nil

/-- An edge leads from one added item to another. -/
theorem mem_items_of_mem_edges_play {edge : α × α} (h : edge ∈ (play calls).edges) :
    edge.1 ∈ (play calls).items ∧ edge.2 ∈ (play calls).items := by
  rw [edges_play, List.mem_flatMap] at h
  obtain ⟨group, hgroup, hedge⟩ := h
  obtain ⟨hfirst, hsecond⟩ := mem_of_mem_neighbours hedge
  have hadded := mem_added_of_mem_closedGroups hgroup
  exact ⟨mem_items_play.mpr (hadded _ hfirst), mem_items_play.mpr (hadded _ hsecond)⟩

end Playing

section Agreeing

/-- An order puts the items of a group as they occur there first. -/
def Agrees (order group : List α) : Prop :=
  ∀ x ∈ group, ∀ y ∈ group, group.idxOf x < group.idxOf y → order.idxOf x < order.idxOf y

/-- An order of all items that calls add, each of them once, that agrees with every group that they
close. -/
structure Arrangement (calls : List (Call α)) (order : List α) : Prop where
  /-- No item comes twice. -/
  nodup : order.Nodup
  /-- The items are those that are added. -/
  mem_iff : ∀ item, item ∈ order ↔ item ∈ added calls
  /-- The order agrees with every closed group. -/
  agrees : ∀ group ∈ closedGroups [] calls, Agrees order group

/-- In an order without repeats, standing in front is coming first. -/
theorem pair_sublist_iff {x y : α} (hnodup : order.Nodup) (hy : y ∈ order) :
    [x, y].Sublist order ↔ order.idxOf x < order.idxOf y := by
  induction order with
  | nil => cases hy
  | cons first rest ih =>
    obtain ⟨hfirst, hrest⟩ := List.nodup_cons.mp hnodup
    rw [List.cons_sublist_cons', List.singleton_sublist]
    rcases List.mem_cons.mp hy with rfl | hy
    · -- Nothing stands in front of the first item.
      have hnot : ¬[x, y].Sublist rest := fun h => hfirst (h.subset (by simp))
      simp [hnot, hfirst]
    · have hne : first ≠ y := fun h => hfirst (h ▸ hy)
      rw [ih hrest hy, List.idxOf_cons_ne _ hne]
      by_cases hx : first = x
      · subst hx
        simp [hy]
      · rw [List.idxOf_cons_ne _ hx]
        simp [Ne.symm hx]

omit [DecidableEq α] in
/-- A relation that holds between all neighbours is a chain. -/
theorem forall_mem_zip_tail_iff {R : α → α → Prop} {items : List α} :
    (∀ edge ∈ items.zip items.tail, R edge.1 edge.2) ↔ items.IsChain R := by
  induction items with
  | nil => simp
  | cons first rest ih =>
    cases rest with
    | nil => simp
    | cons second rest =>
      simp only [List.tail_cons, List.zip_cons_cons, List.forall_mem_cons, List.isChain_cons_cons]
      exact and_congr_right fun _ => ih

/-- The items of a group are related in the order in which they are collected exactly if they are in
the order in which they occur first. -/
theorem pairwise_foldl_pushNew_iff {R : α → α → Prop} :
    (group.foldl pushNew []).Pairwise R ↔
      ∀ x ∈ group, ∀ y ∈ group, group.idxOf x < group.idxOf y → R x y := by
  induction group using List.reverseRecOn with
  | nil => simp
  | append_singleton group item ih =>
    have hmem : ∀ x, x ∈ group.foldl pushNew [] ↔ x ∈ group := fun x =>
      mem_foldl_pushNew.trans (or_iff_right List.not_mem_nil)
    have hidx : ∀ x ∈ group, (group ++ [item]).idxOf x = group.idxOf x := fun x hx => by
      rw [List.idxOf_append, if_pos hx]
    rw [List.foldl_append, List.foldl_cons, List.foldl_nil, pushNew]
    split
    next hold =>
      -- An item that comes again changes nothing.
      have hsame : ∀ x, x ∈ group ++ [item] ↔ x ∈ group := by grind
      rw [ih]
      refine ⟨fun h x hx y hy => ?_, fun h x hx y hy => ?_⟩
      · rw [hsame] at hx hy
        rw [hidx x hx, hidx y hy]
        exact h x hx y hy
      · have hxy := h x ((hsame x).mpr hx) y ((hsame y).mpr hy)
        rwa [hidx x hx, hidx y hy] at hxy
    next hnew =>
      -- A new item comes behind all others, in the list and in the group.
      rw [hmem] at hnew
      have hlast : (group ++ [item]).idxOf item = group.length := by
        rw [List.idxOf_append, if_neg hnew]
        simp
      rw [List.pairwise_append, ih]
      grind

/-- The neighbours in a group are enough to tell whether an order agrees with the group. -/
theorem respects_neighbours_iff (hnodup : order.Nodup) (hgroup : ∀ item ∈ group, item ∈ order) :
    Respects order (neighbours group) ↔ Agrees order group := by
  have htrans : Trans (fun x y => order.idxOf x < order.idxOf y)
      (fun x y => order.idxOf x < order.idxOf y) fun x y => order.idxOf x < order.idxOf y :=
    ⟨Nat.lt_trans⟩
  calc Respects order (neighbours group)
      ↔ ∀ edge ∈ neighbours group, order.idxOf edge.1 < order.idxOf edge.2 :=
        forall₂_congr fun edge hedge =>
          pair_sublist_iff hnodup (hgroup _ (mem_of_mem_neighbours hedge).2)
    _ ↔ (group.foldl pushNew []).IsChain fun x y => order.idxOf x < order.idxOf y :=
        forall_mem_zip_tail_iff (R := fun x y => order.idxOf x < order.idxOf y)
    _ ↔ (group.foldl pushNew []).Pairwise fun x y => order.idxOf x < order.idxOf y :=
        List.isChain_iff_pairwise
    _ ↔ Agrees order group := pairwise_foldl_pushNew_iff

/-- The orders that agree with all closed groups are those of the items that go along all edges. -/
theorem arrangement_iff :
    Arrangement calls order ↔ order.Perm (play calls).items ∧ Respects order (play calls).edges := by
  have hedges : Respects order (play calls).edges ↔
      ∀ group ∈ closedGroups [] calls, Respects order (neighbours group) := by
    simp only [Respects, edges_play, List.mem_flatMap]
    exact ⟨fun h group hgroup edge hedge => h edge ⟨group, hgroup, hedge⟩,
      fun h edge ⟨group, hgroup, hedge⟩ => h group hgroup edge hedge⟩
  rw [hedges]
  constructor
  · rintro ⟨hnodup, hmem, hagrees⟩
    refine ⟨(List.perm_ext_iff_of_nodup hnodup (nodup_items_play calls)).mpr fun item => ?_, ?_⟩
    · rw [hmem, mem_items_play]
    · intro group hgroup
      refine (respects_neighbours_iff hnodup fun item hitem => ?_).mpr (hagrees group hgroup)
      exact (hmem item).mpr (mem_added_of_mem_closedGroups hgroup item hitem)
  · rintro ⟨hperm, hrespects⟩
    have hnodup := hperm.nodup_iff.mpr (nodup_items_play calls)
    have hmem : ∀ item, item ∈ order ↔ item ∈ added calls := fun item =>
      hperm.mem_iff.trans mem_items_play
    refine ⟨hnodup, hmem, fun group hgroup => ?_⟩
    refine (respects_neighbours_iff hnodup fun item hitem => ?_).mp (hrespects group hgroup)
    exact (hmem item).mpr (mem_added_of_mem_closedGroups hgroup item hitem)

/-- There is a result exactly if there is an arrangement. -/
theorem isSome_result_play_iff :
    (play calls).result.isSome ↔ ∃ order, Arrangement calls order := by
  simp only [arrangement_iff]
  exact isSome_arrange_iff (nodup_items_play calls) fun _ => mem_items_of_mem_edges_play

-- Any two of these groups agree on an order, but not all three.
example : (play [.add 'a', .add 'b', .flush, .add 'b', .add 'c', .flush, .add 'c', .add 'a',
    .flush]).result = none := by cbv

/-- The result is an order that agrees with all closed groups. -/
theorem arrangement_of_result (h : order ∈ (play calls).result) : Arrangement calls order := by
  have harranges := arranges_arrange (play calls).items (play calls).edges
  exact arrangement_iff.mpr ⟨harranges.perm order h,
    harranges.respects (fun _ => mem_items_of_mem_edges_play) order h⟩

end Agreeing

end Precedence

end ScanSchema
