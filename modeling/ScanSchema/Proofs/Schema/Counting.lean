import Mathlib.Logic.Function.Basic
import ScanSchema.Proofs.Loops
import ScanSchema.Proofs.Schema.Groups
import ScanSchema.Proofs.Schema.Slots

/-!
# Arranging with counters

Whether an item is free need not be looked up in the edges: a counter for each item can say from how
many items that are not placed yet an edge leads to it. The counters are set once and lowered
whenever an item is placed, and nothing in the loop that does this keeps them from being lowered
below zero, or says that the loop comes to an end. But a counter always is the number that it stands
for, so it is lowered for an edge that it still counts. The loop has the result after one turn more
than there are items at most.
-/

namespace ScanSchema

namespace Precedence

/-- A counter was to be lowered below zero. -/
structure Underflow (α : Type) where
  /-- The item whose counter it is. -/
  item : α
  deriving DecidableEq, Repr

/-- How far the loop has come. -/
structure Tally (α : Type) where
  /-- The counter of each item. -/
  counts : α → Nat
  /-- The items that are placed, in their order. -/
  placed : List α

variable {α : Type} [DecidableEq α] {items placed : List α} {edges : List (α × α)}
  {counts : α → Nat} {next item source : α} {precedence : Precedence α} {tally : Tally α}

section Body

/-- The items that some edge leads from, each of them once. -/
def sources (edges : List (α × α)) : List α := (edges.map (·.1)).eraseDups

/-- The items that the edges from one item lead to, each of them once. -/
def targets (edges : List (α × α)) (source : α) : List α :=
  ((edges.filter fun edge => edge.1 = source).map (·.2)).eraseDups

/-- Raise the counter of an item. -/
def raise (counts : α → Nat) (item : α) : α → Nat := Function.update counts item (counts item + 1)

/-- Lower the counter of an item. -/
def lower (counts : α → Nat) (item : α) : Except (Underflow α) (α → Nat) :=
  if counts item = 0 then .error ⟨item⟩ else .ok (Function.update counts item (counts item - 1))

/-- The counters at the beginning: each is raised for every edge that leads to its item. -/
def initialCounts (edges : List (α × α)) : α → Nat :=
  (sources edges).foldl (fun counts source => (targets edges source).foldl raise counts) fun _ => 0

/-- A turn of the loop. The first item that is not placed and has its counter at zero is placed, and
the counters of the items that its edges lead to are lowered. -/
def countBody (precedence : Precedence α) (tally : Tally α) :
    Tally α ⊕ Except (Underflow α) (Option (List α)) :=
  if tally.placed.length < precedence.items.length then
    match precedence.items.find? fun item => item ∉ tally.placed ∧ tally.counts item = 0 with
    | none => .inr (.ok none)
    | some next =>
      match (targets precedence.edges next).foldlM lower tally.counts with
      | .error underflow => .inr (.error underflow)
      | .ok counts => .inl ⟨counts, tally.placed ++ [next]⟩
  else .inr (.ok (some tally.placed))

end Body

section Waiting

/-- The sources are the items in front of edges. -/
theorem mem_sources : source ∈ sources edges ↔ ∃ item, (source, item) ∈ edges := by
  simp [sources]

/-- Each source is listed once. -/
theorem nodup_sources (edges : List (α × α)) : (sources edges).Nodup := nodup_eraseDups _

/-- The targets of an item are those behind its edges. -/
theorem mem_targets : item ∈ targets edges source ↔ (source, item) ∈ edges := by
  simp [targets]

/-- Each target is listed once, however many edges lead to it. -/
theorem nodup_targets (edges : List (α × α)) (source : α) : (targets edges source).Nodup :=
  nodup_eraseDups _

/-- From how many items that are not placed an edge leads to an item. -/
def waiting (edges : List (α × α)) (placed : List α) (item : α) : Nat :=
  (sources edges).countP fun source => source ∉ placed ∧ item ∈ targets edges source

/-- An item waits for none exactly if no edge from an item that is not placed leads to it. -/
theorem waiting_eq_zero_iff :
    waiting edges placed item = 0 ↔
      ∀ edge ∈ edges.filter fun edge => edge.1 ∉ placed, edge.2 ≠ item := by
  simp only [waiting, List.countP_eq_zero, mem_sources, mem_targets, decide_eq_true_eq,
    List.mem_filter]
  constructor
  · rintro h ⟨source, _⟩ ⟨hedge, hsource⟩ rfl
    exact h source ⟨_, hedge⟩ ⟨hsource, hedge⟩
  · rintro h source - ⟨hsource, hedge⟩
    exact h (source, item) ⟨hedge, hsource⟩ rfl

/-- Once an item is placed, those that its edges lead to wait for one item less. -/
theorem waiting_eq_add (hnew : next ∉ placed) :
    waiting edges placed item =
      waiting edges (placed ++ [next]) item + if item ∈ targets edges next then 1 else 0 := by
  split
  next htarget =>
    have hsource : next ∈ sources edges := mem_sources.mpr ⟨item, mem_targets.mp htarget⟩
    have hfree : next ∉ placed ∧ item ∈ targets edges next := ⟨hnew, htarget⟩
    rw [waiting, (List.perm_cons_erase hsource).countP_eq,
      List.countP_cons_of_pos (by simpa using hfree), (nodup_sources edges).erase_eq_filter,
      List.countP_filter, waiting]
    refine congrArg (· + 1) (List.countP_congr fun source _ => ?_)
    simp only [Bool.and_eq_true, decide_eq_true_eq, bne_iff_ne, List.mem_append,
      List.mem_singleton, not_or]
    tauto
  next hnot =>
    refine List.countP_congr fun source _ => ?_
    have hother : item ∈ targets edges source → source ≠ next := fun h heq => hnot (heq ▸ h)
    simp only [decide_eq_true_eq, List.mem_append, List.mem_singleton, not_or]
    tauto

/-- Counters that are raised for some items count how often these occur. -/
theorem foldl_raise (counts : α → Nat) (items : List α) (item : α) :
    items.foldl raise counts item = counts item + items.count item := by
  induction items generalizing counts with
  | nil => rfl
  | cons first rest ih =>
    rw [List.foldl_cons, ih, List.count_cons, raise, Function.update_apply]
    grind

/-- At the beginning a counter is the number of items that its item waits for. -/
theorem initialCounts_eq (edges : List (α × α)) (item : α) :
    initialCounts edges item = waiting edges [] item := by
  have hfold : ∀ (starts : List α) (counts : α → Nat),
      starts.foldl (fun counts source => (targets edges source).foldl raise counts) counts item =
        counts item + starts.countP fun source => item ∈ targets edges source := by
    intro starts
    induction starts with
    | nil => exact fun _ => rfl
    | cons source rest ih =>
      intro counts
      rw [List.foldl_cons, ih, foldl_raise, (nodup_targets edges source).count, List.countP_cons]
      simp only [decide_eq_true_eq]
      omega
  have hcount := hfold (sources edges) fun _ => 0
  rw [initialCounts, hcount, Nat.zero_add, waiting]
  exact List.countP_congr fun source _ => by simp

/-- Counters above zero can be lowered. -/
theorem foldlM_lower (hnodup : items.Nodup) (hpos : ∀ item ∈ items, 0 < counts item) :
    items.foldlM lower counts =
      .ok fun item => if item ∈ items then counts item - 1 else counts item := by
  induction items generalizing counts with
  | nil => simp [pure, Except.pure]
  | cons first rest ih =>
    have hnot : first ∉ rest := (List.nodup_cons.mp hnodup).1
    have hlower : lower counts first = .ok (Function.update counts first (counts first - 1)) :=
      if_neg (hpos first List.mem_cons_self).ne'
    have hkept : ∀ item ∈ rest,
        Function.update counts first (counts first - 1) item = counts item := fun item hitem =>
      Function.update_of_ne (fun heq : item = first => hnot (heq ▸ hitem)) _ _
    have hstill : ∀ item ∈ rest, 0 < Function.update counts first (counts first - 1) item :=
      fun item hitem => (hkept item hitem).symm ▸ hpos item (List.mem_cons_of_mem _ hitem)
    rw [List.foldlM_cons, hlower]
    refine (ih hnodup.of_cons hstill).trans (congrArg Except.ok (funext fun item => ?_))
    rw [Function.update_apply]
    grind

end Waiting

section Loop

/-- The loop is where it should be: items are placed once, and each counter is the number of items
that its item still waits for. -/
structure Counted (precedence : Precedence α) (tally : Tally α) : Prop where
  /-- No item is placed twice. -/
  nodup : tally.placed.Nodup
  /-- Only items are placed. -/
  subset : tally.placed ⊆ precedence.items
  /-- A counter is the number that it stands for. -/
  counts_eq : ∀ item, tally.counts item = waiting precedence.edges tally.placed item

/-- The items that are not placed yet. -/
def Tally.pending (tally : Tally α) (precedence : Precedence α) : List α :=
  precedence.items.filter fun item => item ∉ tally.placed

/-- The edges from the items that are not placed yet. -/
def Tally.pendingEdges (tally : Tally α) (precedence : Precedence α) : List (α × α) :=
  precedence.edges.filter fun edge => edge.1 ∉ tally.placed

/-- The placed items with an arrangement of the others behind them, if there is one. -/
def Tally.completed (tally : Tally α) (precedence : Precedence α) : Option (List α) :=
  (arrange (tally.pending precedence) (tally.pendingEdges precedence)).map (tally.placed ++ ·)

/-- In the beginning no item is placed. -/
def begun (precedence : Precedence α) : Tally α := ⟨initialCounts precedence.edges, []⟩

/-- The counters are right in the beginning. -/
theorem counted_begun (precedence : Precedence α) : Counted precedence (begun precedence) where
  nodup := List.nodup_nil
  subset := List.nil_subset _
  counts_eq := initialCounts_eq precedence.edges

/-- Every item is placed or pending. -/
theorem Counted.length_pending (h : Counted precedence tally) (hnodup : precedence.items.Nodup) :
    tally.placed.length + (tally.pending precedence).length = precedence.items.length := by
  have hapart : (tally.placed ++ tally.pending precedence).Nodup := by
    refine List.nodup_append.mpr ⟨h.nodup, hnodup.filter _, ?_⟩
    rintro item hplaced _ hpending rfl
    exact of_decide_eq_true (List.mem_filter.mp hpending).2 hplaced
  have hall : ∀ item, item ∈ tally.placed ++ tally.pending precedence ↔ item ∈ precedence.items := by
    intro item
    have hitem : item ∈ tally.placed → item ∈ precedence.items := fun hplaced => h.subset hplaced
    rw [List.mem_append, Tally.pending, List.mem_filter, decide_eq_true_eq]
    tauto
  rw [← List.length_append, ((List.perm_ext_iff_of_nodup hapart hnodup).mpr hall).length_eq]

/-- The counters tell which pending items no pending item precedes. -/
theorem Counted.find?_eq (h : Counted precedence tally) :
    (precedence.items.find? fun item => item ∉ tally.placed ∧ tally.counts item = 0) =
      (tally.pending precedence).find? fun item =>
        (tally.pendingEdges precedence).all fun edge => edge.2 ≠ item := by
  rw [Tally.pending, List.find?_filter]
  refine congrArg (precedence.items.find? ·) (funext fun item => ?_)
  rw [Bool.eq_iff_iff, decide_eq_true_eq, decide_eq_true_eq, decide_eq_true_eq, h.counts_eq,
    waiting_eq_zero_iff, List.all_eq_true, Tally.pendingEdges]
  simp only [decide_eq_true_eq]

/-- Placing a pending item lowers no counter below zero, and each counter stays the number that it
stands for. -/
theorem Counted.place (h : Counted precedence tally) (hnext : next ∈ tally.pending precedence) :
    ∃ counts, (targets precedence.edges next).foldlM lower tally.counts = .ok counts ∧
      Counted precedence ⟨counts, tally.placed ++ [next]⟩ := by
  have hitem : next ∈ precedence.items := (List.mem_filter.mp hnext).1
  have hnew : next ∉ tally.placed := of_decide_eq_true (List.mem_filter.mp hnext).2
  have hcount : ∀ item, tally.counts item =
      waiting precedence.edges (tally.placed ++ [next]) item +
        if item ∈ targets precedence.edges next then 1 else 0 := fun item =>
    (h.counts_eq item).trans (waiting_eq_add hnew)
  have hpos : ∀ item ∈ targets precedence.edges next, 0 < tally.counts item := by
    intro item htarget
    rw [hcount, if_pos htarget]
    exact Nat.succ_pos _
  refine ⟨_, foldlM_lower (nodup_targets _ _) hpos, ?nodup, ?subset, fun item => ?counts⟩
  case nodup => exact List.nodup_append.mpr ⟨h.nodup, by simp, by grind⟩
  case subset => exact List.append_subset.mpr ⟨h.subset, by simpa using hitem⟩
  case counts =>
    by_cases htarget : item ∈ targets precedence.edges next
    · simp [hcount, htarget]
    · simp [hcount, htarget]

/-- What the arrangement ends in does not change by placing the first free item. -/
theorem completed_place (hnodup : precedence.items.Nodup)
    (hfirst : ((tally.pending precedence).find? fun item =>
      (tally.pendingEdges precedence).all fun edge => edge.2 ≠ item) = some next) :
    Tally.completed ⟨counts, tally.placed ++ [next]⟩ precedence = tally.completed precedence := by
  have hpending : Tally.pending ⟨counts, tally.placed ++ [next]⟩ precedence =
      (tally.pending precedence).erase next := by
    rw [Tally.pending, Tally.pending, List.Nodup.erase_eq_filter (hnodup.filter _), List.filter_filter]
    refine List.filter_congr fun item _ => ?_
    grind
  have hedges : Tally.pendingEdges ⟨counts, tally.placed ++ [next]⟩ precedence =
      (tally.pendingEdges precedence).filter fun edge => edge.1 ≠ next := by
    rw [Tally.pendingEdges, Tally.pendingEdges, List.filter_filter]
    refine List.filter_congr fun edge _ => ?_
    grind
  rw [Tally.completed, hpending, hedges, Tally.completed, arrange_of_find?_eq_some hfirst,
    Option.map_map]
  simp [Function.comp_def]

/-- A turn places a pending item and changes nothing about what the arrangement ends in, or it has
the arrangement. -/
theorem countBody_cases (hnodup : precedence.items.Nodup) (h : Counted precedence tally) :
    (∃ after, countBody precedence tally = .inl after ∧ Counted precedence after ∧
        after.placed.length = tally.placed.length + 1 ∧
        after.completed precedence = tally.completed precedence) ∨
      countBody precedence tally = .inr (.ok (tally.completed precedence)) := by
  have hlength := h.length_pending hnodup
  unfold countBody
  split
  next hless =>
    have hne : tally.pending precedence ≠ [] := List.ne_nil_of_length_pos (by omega)
    rw [h.find?_eq]
    cases hfirst : (tally.pending precedence).find? fun item =>
        (tally.pendingEdges precedence).all fun edge => edge.2 ≠ item with
    | none => exact .inr (by rw [Tally.completed, arrange_of_find?_eq_none hne hfirst]; rfl)
    | some next =>
      obtain ⟨counts, hlower, hcounted⟩ := h.place (List.mem_of_find?_eq_some hfirst)
      refine .inl ⟨⟨counts, tally.placed ++ [next]⟩, by simp only [hlower], hcounted, ?_, ?_⟩
      · exact List.length_append
      · exact completed_place hnodup hfirst
  next hall =>
    have hnil : tally.pending precedence = [] := List.eq_nil_of_length_eq_zero (by omega)
    rw [Tally.completed, hnil, arrange_nil, Option.map_some, List.append_nil]
    exact .inr rfl

/-- The loop never lowers a counter below zero. It ends after at most one turn more than there are
items, and it has the result then. -/
theorem loops_countBody (hnodup : precedence.items.Nodup) :
    ∃ turns ≤ precedence.items.length + 1,
      Loops (countBody precedence) (begun precedence) turns (.ok precedence.result) := by
  have hresult : (begun precedence).completed precedence = precedence.result := by
    simp [begun, Tally.completed, Tally.pending, Tally.pendingEdges, result]
  have hmeasure : ((begun precedence).pending precedence).length = precedence.items.length := by
    simp [begun, Tally.pending]
  rw [← hresult, ← hmeasure]
  refine Loops.exists_le (Counted precedence) (fun tally => (tally.pending precedence).length)
    (fun tally => Except.ok (tally.completed precedence)) ?next ?last (begun precedence)
    (counted_begun precedence)
  case next =>
    intro tally after hfit hbody
    rcases countBody_cases hnodup hfit with ⟨_, hgoes, hcounted, hlonger, hcompleted⟩ | hstops
    · cases hgoes.symm.trans hbody
      have hbefore := hfit.length_pending hnodup
      have hbehind := hcounted.length_pending hnodup
      exact ⟨hcounted, by omega, congrArg Except.ok hcompleted⟩
    · cases hstops.symm.trans hbody
  case last =>
    intro tally found hfit hbody
    rcases countBody_cases hnodup hfit with ⟨_, hgoes, -⟩ | hstops
    · cases hgoes.symm.trans hbody
    · exact (Sum.inr.inj (hstops.symm.trans hbody)).symm

end Loop

/-- Calls end in a result exactly if some order of all added items agrees with every closed group,
and the result is one. The loop with the counters has it after a bounded number of turns, and no
counter is lowered below zero. -/
theorem result_of_calls (calls : List (Call α)) :
    ((play calls).result.isSome ↔ ∃ order, Arrangement calls order) ∧
      (∀ order ∈ (play calls).result, Arrangement calls order) ∧
      ∃ turns ≤ (play calls).items.length + 1,
        Loops (countBody (play calls)) (begun (play calls)) turns (.ok (play calls).result) :=
  ⟨isSome_result_play_iff, fun _ => arrangement_of_result, loops_countBody (nodup_items_play calls)⟩

end Precedence

end ScanSchema
