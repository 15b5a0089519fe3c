import ScanSchema.Schema.Unify

/-!
# When groups agree on an order

Items are arranged by taking the first one that no pending item precedes, again and again. What comes
out holds every item once, and the first item of every edge stands in front of the second. And this
never gets stuck without need: if there is any such order, its first item that is still pending is
one that could be taken, and the order stays right when another is taken in its place. So there is a
result exactly if there is an order, and that depends on nothing but which items and which edges
there are. The names of the alternatives of a nonterminal are ordered in this way.
-/

namespace ScanSchema

namespace Precedence

variable {α : Type} [DecidableEq α] {pending items names order : List α} {edges : List (α × α)}
  {result : Option (List α)}

section Arranging

/-- How pending items are arranged along edges: the first free item is taken until none is left or
none is free. -/
inductive Arranges : List α → List (α × α) → Option (List α) → Prop
  /-- No item is left. -/
  | done (edges : List (α × α)) : Arranges [] edges (some [])
  /-- Some item precedes each of those that are left. -/
  | stuck {pending : List α} {edges : List (α × α)} (hne : pending ≠ [])
      (hstuck : (pending.find? fun item => edges.all fun edge => edge.2 ≠ item) = none) :
      Arranges pending edges none
  /-- The first item that none precedes is taken away with its edges. -/
  | take {pending : List α} {edges : List (α × α)} {first : α} {result : Option (List α)}
      (hfirst : (pending.find? fun item => edges.all fun edge => edge.2 ≠ item) = some first)
      (hrest : Arranges (pending.erase first) (edges.filter fun edge => edge.1 ≠ first) result) :
      Arranges pending edges (result.map (first :: ·))

/-- Without items there is only the empty arrangement. -/
theorem arrange_nil (edges : List (α × α)) : arrange [] edges = some [] := by
  rw [arrange, if_pos rfl]

/-- Items cannot be arranged if all of them wait for others. -/
theorem arrange_of_find?_eq_none (hne : pending ≠ [])
    (hstuck : (pending.find? fun item => edges.all fun edge => edge.2 ≠ item) = none) :
    arrange pending edges = none := by
  rw [arrange, if_neg hne]
  split
  next => rfl
  next hfirst => cases hstuck.symm.trans hfirst

/-- The first item that waits for none comes first, and what waited for it does so no longer. -/
theorem arrange_of_find?_eq_some {first : α}
    (hfirst : (pending.find? fun item => edges.all fun edge => edge.2 ≠ item) = some first) :
    arrange pending edges =
      (arrange (pending.erase first) (edges.filter fun edge => edge.1 ≠ first)).map (first :: ·) := by
  have hne : pending ≠ [] := List.ne_nil_of_mem (List.mem_of_find?_eq_some hfirst)
  rw [arrange, if_neg hne]
  split
  next hstuck => cases hfirst.symm.trans hstuck
  next hother =>
    cases hfirst.symm.trans hother
    rfl

/-- Items are arranged in this way; the cases are those of the recursion. -/
theorem arranges_arrange (pending : List α) (edges : List (α × α)) :
    Arranges pending edges (arrange pending edges) := by
  by_cases hnil : pending = []
  · rw [hnil, arrange_nil]
    exact Arranges.done edges
  cases hfirst : pending.find? fun item => edges.all fun edge => edge.2 ≠ item with
  | none =>
    rw [arrange_of_find?_eq_none hnil hfirst]
    exact Arranges.stuck hnil hfirst
  | some first =>
    have hmem := List.mem_of_find?_eq_some hfirst
    have hpos := List.length_pos_of_mem hmem
    have hless : (pending.erase first).length < pending.length := by
      rw [List.length_erase_of_mem hmem]
      omega
    rw [arrange_of_find?_eq_some hfirst]
    exact Arranges.take hfirst (arranges_arrange _ _)
termination_by pending.length

/-- An item that is taken has no edge in front of it. -/
theorem snd_ne_of_find? {first : α}
    (h : (pending.find? fun item => edges.all fun edge => edge.2 ≠ item) = some first) :
    ∀ edge ∈ edges, edge.2 ≠ first := by
  have hall : (edges.all fun edge => edge.2 ≠ first) = true :=
    List.find?_some (p := fun item => edges.all fun edge => edge.2 ≠ item) h
  exact fun edge hedge => of_decide_eq_true (List.all_eq_true.mp hall edge hedge)

/-- An arrangement holds the pending items. -/
theorem Arranges.perm (h : Arranges pending edges result) : ∀ order ∈ result, order.Perm pending := by
  induction h with
  | done edges =>
    rintro order ⟨⟩
    exact List.Perm.nil
  | stuck => rintro order ⟨⟩
  | take hfirst _ ih =>
    intro order horder
    obtain ⟨rest, hrest, rfl⟩ := Option.map_eq_some_iff.mp horder
    exact ((ih rest hrest).cons _).trans
      (List.perm_cons_erase (List.mem_of_find?_eq_some hfirst)).symm

/-- The first item of every edge stands in front of the second. -/
def Respects (order : List α) (edges : List (α × α)) : Prop :=
  ∀ edge ∈ edges, [edge.1, edge.2].Sublist order

/-- An arrangement goes along the edges among the pending items. -/
theorem Arranges.respects (h : Arranges pending edges result)
    (hends : ∀ edge ∈ edges, edge.1 ∈ pending ∧ edge.2 ∈ pending) :
    ∀ order ∈ result, Respects order edges := by
  induction h with
  | done edges => exact fun order _ edge hedge => absurd (hends edge hedge).1 List.not_mem_nil
  | stuck => rintro order ⟨⟩
  | @take pending edges first result hfirst hrest ih =>
    have hfree := snd_ne_of_find? hfirst
    have hsecond : ∀ edge ∈ edges, edge.2 ∈ pending.erase first := fun edge hedge =>
      (List.mem_erase_of_ne (hfree edge hedge)).mpr (hends edge hedge).2
    intro order horder edge hedge
    obtain ⟨rest, hmem, rfl⟩ := Option.map_eq_some_iff.mp horder
    by_cases hstart : edge.1 = first
    · have hbehind : edge.2 ∈ rest := (hrest.perm rest hmem).mem_iff.mpr (hsecond edge hedge)
      rw [hstart]
      exact (List.singleton_sublist.mpr hbehind).cons_cons first
    · refine (ih (fun other hother => ?_) rest hmem edge ?_).cons first
      · obtain ⟨hother, hne⟩ := List.mem_filter.mp hother
        exact ⟨(List.mem_erase_of_ne (of_decide_eq_true hne)).mpr (hends other hother).1,
          hsecond other hother⟩
      · exact List.mem_filter.mpr ⟨hedge, decide_eq_true hstart⟩

omit [DecidableEq α] in
/-- The first item of an order without repeats has nothing in front of it. -/
theorem Respects.snd_ne {first : α} (h : Respects (first :: order) edges)
    (hnodup : (first :: order).Nodup) : ∀ edge ∈ edges, edge.2 ≠ first := by
  rintro edge hedge rfl
  have hnot : edge.2 ∉ order := (List.nodup_cons.mp hnodup).1
  rcases List.sublist_cons_iff.mp (h edge hedge) with hlater | ⟨rest, heq, hrest⟩
  · exact hnot (hlater.subset (by simp))
  · obtain ⟨-, rfl⟩ := List.cons.inj heq
    exact hnot (List.singleton_sublist.mp hrest)

/-- When an item that no edge leads to is taken away, the rest of an order goes along the edges that
are left. -/
theorem Respects.erase {first : α} (h : Respects order edges)
    (hfree : ∀ edge ∈ edges, edge.2 ≠ first) :
    Respects (order.erase first) (edges.filter fun edge => edge.1 ≠ first) := by
  intro edge hedge
  obtain ⟨hedge, hstart⟩ := List.mem_filter.mp hedge
  -- Neither end of the edge is the item that is taken away.
  have hnot : first ∉ [edge.1, edge.2] := by
    simpa using ⟨Ne.symm (of_decide_eq_true hstart), Ne.symm (hfree edge hedge)⟩
  have hkept := (h edge hedge).erase first
  rwa [List.erase_of_not_mem hnot] at hkept

/-- If some order goes along all edges, arranging does not get stuck. -/
theorem Arranges.isSome (h : Arranges pending edges result) (hnodup : pending.Nodup)
    (hperm : order.Perm pending) (hrespects : Respects order edges) : result.isSome := by
  induction h generalizing order with
  | done => rfl
  | stuck hne hstuck =>
    -- The first item of the order could have been taken.
    cases order with
    | nil => exact absurd hperm.nil_eq.symm hne
    | cons first rest =>
      have hfree := hrespects.snd_ne (hperm.nodup_iff.mpr hnodup)
      have hmem := hperm.mem_iff.mp List.mem_cons_self
      refine absurd ?_ (List.find?_eq_none.mp hstuck first hmem)
      exact List.all_eq_true.mpr fun edge hedge => decide_eq_true (hfree edge hedge)
  | @take pending edges first result hfirst _ ih =>
    have hfree := snd_ne_of_find? hfirst
    rw [Option.isSome_map]
    exact ih (hnodup.erase first) (hperm.erase first) (hrespects.erase hfree)

/-- There is an arrangement exactly if some order goes along all edges. -/
theorem isSome_arrange_iff (hnodup : pending.Nodup)
    (hends : ∀ edge ∈ edges, edge.1 ∈ pending ∧ edge.2 ∈ pending) :
    (arrange pending edges).isSome ↔ ∃ order : List α, order.Perm pending ∧ Respects order edges := by
  have harranges := arranges_arrange pending edges
  constructor
  · intro h
    obtain ⟨order, horder⟩ := Option.isSome_iff_exists.mp h
    exact ⟨order, harranges.perm order horder, harranges.respects hends order horder⟩
  · rintro ⟨order, hperm, hrespects⟩
    exact harranges.isSome hnodup hperm hrespects

/-- Whether there is an arrangement depends on which items and which edges there are. -/
theorem isSome_arrange_congr {pending' : List α} {edges' : List (α × α)} (hnodup : pending.Nodup)
    (hnodup' : pending'.Nodup) (hends : ∀ edge ∈ edges, edge.1 ∈ pending ∧ edge.2 ∈ pending)
    (hmem : ∀ item, item ∈ pending ↔ item ∈ pending')
    (hedge : ∀ edge, edge ∈ edges ↔ edge ∈ edges') :
    (arrange pending edges).isSome = (arrange pending' edges').isSome := by
  have hends' : ∀ edge ∈ edges', edge.1 ∈ pending' ∧ edge.2 ∈ pending' := by
    intro edge h
    rw [← hmem, ← hmem]
    exact hends edge ((hedge edge).mpr h)
  have hperm : pending.Perm pending' := (List.perm_ext_iff_of_nodup hnodup hnodup').mpr hmem
  rw [Bool.eq_iff_iff, isSome_arrange_iff hnodup hends, isSome_arrange_iff hnodup' hends']
  refine exists_congr fun order => and_congr ?_ (forall_congr' fun edge => by rw [hedge])
  exact ⟨fun h => h.trans hperm, fun h => h.trans hperm.symm⟩

end Arranging

section Groups

/-- Pushing an item adds it, if it is new, and takes none away. -/
theorem mem_pushNew {item x : α} : x ∈ pushNew items item ↔ x ∈ items ∨ x = item := by
  unfold pushNew
  split
  next hmem =>
    constructor
    · exact Or.inl
    · rintro (h | rfl)
      · exact h
      · exact hmem
  next => simp

/-- Pushing an item never makes a repeat. -/
theorem nodup_pushNew (item : α) (h : items.Nodup) : (pushNew items item).Nodup := by
  unfold pushNew
  split
  · exact h
  next hnew =>
    refine List.nodup_append.mpr ⟨h, by simp, fun x hx y hy heq => hnew ?_⟩
    rwa [← List.mem_singleton.mp hy, ← heq]

/-- Pushing some names adds these and takes none away. -/
theorem mem_foldl_pushNew {x : α} : x ∈ names.foldl pushNew items ↔ x ∈ items ∨ x ∈ names := by
  induction names generalizing items with
  | nil => simp
  | cons name rest ih => rw [List.foldl_cons, ih, mem_pushNew, List.mem_cons, or_assoc]

/-- Pushing several names never makes a repeat either. -/
theorem nodup_foldl_pushNew (h : items.Nodup) : (names.foldl pushNew items).Nodup := by
  induction names generalizing items with
  | nil => exact h
  | cons name rest ih => exact ih (nodup_pushNew name h)

/-- The neighbours in the group that some items are collected to. -/
def neighbours (names : List α) : List (α × α) :=
  (names.foldl pushNew []).zip (names.foldl pushNew []).tail

/-- Neighbours in a group are items of it. -/
theorem mem_of_mem_neighbours {edge : α × α} (h : edge ∈ neighbours names) :
    edge.1 ∈ names ∧ edge.2 ∈ names := by
  obtain ⟨hfirst, hsecond⟩ := List.of_mem_zip h
  have hmem : ∀ x ∈ names.foldl pushNew [], x ∈ names := fun x hx =>
    (mem_foldl_pushNew.mp hx).resolve_left List.not_mem_nil
  exact ⟨hmem _ hfirst, hmem _ (List.mem_of_mem_tail hsecond)⟩

/-- Names that are added in turn are pushed both to the items and to the open group. -/
theorem foldl_add (precedence : Precedence α) (names : List α) :
    names.foldl add precedence =
      { precedence with
        items := names.foldl pushNew precedence.items
        group := names.foldl pushNew precedence.group } := by
  induction names generalizing precedence with
  | nil => rfl
  | cons name rest ih => exact ih (precedence.add name)

end Groups

end Precedence

namespace Unify

open Precedence

variable {alternatives : List (List Field)}

/-- The given names of some fields. -/
def givenNames (fields : List Field) : List String := fields.filterMap Field.givenName?

/-- The names of an alternative become one closed group. -/
theorem addNames_eq (order : Precedence String) (fields : List Field) :
    addNames order fields = ((givenNames fields).foldl add order).flush := by
  unfold addNames givenNames
  congr 1
  induction fields generalizing order with
  | nil => rfl
  | cons field rest ih =>
    rw [List.foldl_cons, ih]
    cases hname : field.givenName? with
    | none => rw [List.filterMap_cons_none hname]; rfl
    | some name => rw [List.filterMap_cons_some hname]; rfl

/-- Each alternative has closed its group, so all names are pushed and all neighbours within an alternative
are joined by an edge. -/
theorem foldl_addNames (order : Precedence String) (h : order.group = []) :
    alternatives.foldl addNames order =
      { items := (alternatives.flatMap givenNames).foldl pushNew order.items
        edges := order.edges ++ alternatives.flatMap fun fields => neighbours (givenNames fields)
        group := [] } := by
  induction alternatives generalizing order with
  | nil =>
    obtain ⟨items, edges, group⟩ := order
    cases h
    simp
  | cons fields rest ih =>
    have hfirst : addNames order fields =
        { items := (givenNames fields).foldl pushNew order.items
          edges := order.edges ++ neighbours (givenNames fields)
          group := [] } := by
      rw [addNames_eq, foldl_add, h]
      rfl
    rw [List.foldl_cons, hfirst, ih _ rfl, List.flatMap_cons, List.flatMap_cons, List.foldl_append,
      List.append_assoc]

/-- The names of all alternatives, and the neighbours in each of them. -/
theorem nameOrder_eq (alternatives : List (List Field)) :
    nameOrder alternatives =
      { items := (alternatives.flatMap givenNames).foldl pushNew []
        edges := alternatives.flatMap fun fields => neighbours (givenNames fields)
        group := [] } := foldl_addNames {} rfl

/-- The names to be ordered are the given names of the alternatives. -/
theorem mem_items_nameOrder {name : String} :
    name ∈ (nameOrder alternatives).items ↔ ∃ fields ∈ alternatives, name ∈ givenNames fields := by
  rw [nameOrder_eq, mem_foldl_pushNew, or_iff_right List.not_mem_nil, List.mem_flatMap]

/-- They are ordered by their neighbourhood in the alternatives. -/
theorem mem_edges_nameOrder {edge : String × String} :
    edge ∈ (nameOrder alternatives).edges ↔
      ∃ fields ∈ alternatives, edge ∈ neighbours (givenNames fields) := by
  rw [nameOrder_eq, List.mem_flatMap]

/-- No name is ordered twice. -/
theorem nodup_items_nameOrder (alternatives : List (List Field)) :
    (nameOrder alternatives).items.Nodup := by
  rw [nameOrder_eq]
  exact nodup_foldl_pushNew List.nodup_nil

/-- Edges join names that are to be ordered. -/
theorem mem_items_of_mem_edges {edge : String × String}
    (h : edge ∈ (nameOrder alternatives).edges) :
    edge.1 ∈ (nameOrder alternatives).items ∧ edge.2 ∈ (nameOrder alternatives).items := by
  obtain ⟨fields, hfields, hedge⟩ := mem_edges_nameOrder.mp h
  obtain ⟨hfirst, hsecond⟩ := mem_of_mem_neighbours hedge
  exact ⟨mem_items_nameOrder.mpr ⟨fields, hfields, hfirst⟩,
    mem_items_nameOrder.mpr ⟨fields, hfields, hsecond⟩⟩

/-- Whether the names can be ordered does not depend on the order of the alternatives. -/
theorem isSome_result_nameOrder_perm {others : List (List Field)} (h : alternatives.Perm others) :
    (nameOrder alternatives).result.isSome = (nameOrder others).result.isSome := by
  refine isSome_arrange_congr (nodup_items_nameOrder _) (nodup_items_nameOrder _)
    (fun edge hedge => mem_items_of_mem_edges hedge) (fun name => ?_) fun edge => ?_
  · simp only [mem_items_nameOrder, h.mem_iff]
  · simp only [mem_edges_nameOrder, h.mem_iff]

end Unify

end ScanSchema
