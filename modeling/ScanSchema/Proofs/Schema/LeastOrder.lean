import Mathlib.Data.List.Lex
import ScanSchema.Proofs.Schema.Groups

/-!
# The order that stays closest to first appearance

When several orders agree with all closed groups, the result is the one in which the items that were
added early come early: of two orders that differ the lesser one is that with the item that was added
earlier in the first place where they differ. Pending items stand in the order in which they were
added, so the first free one among them is the least item that any order of them can begin with. Once
it is taken, the same holds of what is left. So the result is the least of all orders that agree with
the closed groups, and that tells it from all others.
-/

namespace ScanSchema

namespace Precedence

variable {α : Type} {pending order other : List α} {edges : List (α × α)} {result : Option (List α)}
  {earlier : α → α → Prop}

section Greedy

/-- In a list of items that were added one after another, the first one with a property was added
before all others that have it. -/
theorem eq_or_earlier_of_find? {free : α → Bool} {first item : α} (hsorted : pending.Pairwise earlier)
    (hfirst : pending.find? free = some first) (hmem : item ∈ pending) (hfree : free item = true) :
    first = item ∨ earlier first item := by
  induction pending with
  | nil => cases hmem
  | cons head rest ih =>
    obtain ⟨hhead, hrest⟩ := List.pairwise_cons.mp hsorted
    by_cases hfreeHead : free head = true
    · rw [List.find?_cons_of_pos hfreeHead, Option.some.injEq] at hfirst
      subst hfirst
      exact (List.mem_cons.mp hmem).imp Eq.symm (hhead item)
    · rw [List.find?_cons_of_neg hfreeHead] at hfirst
      have hlater : item ∈ rest :=
        (List.mem_cons.mp hmem).resolve_left fun heq => hfreeHead (heq ▸ hfree)
      exact ih hrest hfirst hlater

variable [DecidableEq α]

/-- An arrangement of items that were added one after another is less than every other order that
goes along the edges. -/
theorem Arranges.eq_or_lex (h : Arranges pending edges result) (hsorted : pending.Pairwise earlier)
    (hnodup : pending.Nodup) (hperm : other.Perm pending) (hrespects : Respects other edges) :
    ∀ order ∈ result, order = other ∨ List.Lex earlier order other := by
  induction h generalizing other with
  | done edges =>
    rintro order ⟨⟩
    exact .inl hperm.eq_nil.symm
  | stuck => rintro order ⟨⟩
  | @take pending edges first result hfirst _ ih =>
    intro order horder
    obtain ⟨rest, hrest, rfl⟩ := Option.map_eq_some_iff.mp horder
    have hmem : first ∈ other := hperm.mem_iff.mpr (List.mem_of_find?_eq_some hfirst)
    cases other with
    | nil => cases hmem
    | cons head tail =>
      -- The other order begins with an item that could have been taken as well.
      have hhead : head ∈ pending := hperm.mem_iff.mp List.mem_cons_self
      have hfree : (edges.all fun edge => edge.2 ≠ head) = true :=
        List.all_eq_true.mpr fun edge hedge =>
          decide_eq_true (hrespects.snd_ne (hperm.nodup_iff.mpr hnodup) edge hedge)
      rcases eq_or_earlier_of_find? hsorted hfirst hhead hfree with rfl | hless
      · have htail : tail.Perm (pending.erase first) := by
          simpa using hperm.erase first
        have halong := hrespects.erase (snd_ne_of_find? hfirst)
        rw [List.erase_cons_head] at halong
        have hlesser := ih (hsorted.sublist List.erase_sublist) (hnodup.erase first) htail halong
          rest hrest
        exact hlesser.imp (congrArg (first :: ·)) List.Lex.cons
      · exact .inr (List.Lex.rel hless)

end Greedy

section Calls

variable [DecidableEq α] {calls : List (Call α)}

/-- Whether an item was added for the first time before another one was. -/
def AddedEarlier (calls : List (Call α)) (item later : α) : Prop :=
  (added calls).idxOf item < (added calls).idxOf later

/-- Items stand in the order in which they were added first. -/
theorem pairwise_items_play (calls : List (Call α)) :
    (play calls).items.Pairwise (AddedEarlier calls) := by
  rw [items_play, pairwise_foldl_pushNew_iff]
  exact fun item _ later _ hless => hless

/-- Of two orders at most one is less than the other. -/
theorem not_lex_of_lex (h : List.Lex (AddedEarlier calls) order other) :
    ¬ List.Lex (AddedEarlier calls) other order := by
  have hasymm : Std.Asymm (AddedEarlier calls) := ⟨fun _ _ => Nat.lt_asymm⟩
  exact Std.Asymm.asymm _ _ h

/-- Calls end in an order exactly if it agrees with every closed group and every other order that
does has an item that was added later in the first place where the two differ. -/
theorem result_eq_some_iff_least (calls : List (Call α)) (order : List α) :
    (play calls).result = some order ↔
      Arrangement calls order ∧ ∀ other, Arrangement calls other → other ≠ order →
        List.Lex (AddedEarlier calls) order other := by
  have hleast : ∀ least, (play calls).result = some least → ∀ other, Arrangement calls other →
      other ≠ least → List.Lex (AddedEarlier calls) least other := by
    intro least hresult other hother hne
    obtain ⟨hperm, hrespects⟩ := arrangement_iff.mp hother
    have harranges := arranges_arrange (play calls).items (play calls).edges
    have hlesser := harranges.eq_or_lex (pairwise_items_play calls) (nodup_items_play calls) hperm
      hrespects least hresult
    exact hlesser.resolve_left (Ne.symm hne)
  constructor
  · intro hresult
    exact ⟨arrangement_of_result hresult, hleast order hresult⟩
  · rintro ⟨horder, hless⟩
    obtain ⟨least, hresult⟩ :=
      Option.isSome_iff_exists.mp (isSome_result_play_iff.mpr ⟨order, horder⟩)
    -- If the result were another order, each of the two would be less than the other.
    by_cases hsame : order = least
    · rw [hresult, hsame]
    · have hforth := hleast least hresult order horder hsame
      have hback := hless least (arrangement_of_result hresult) (Ne.symm hsame)
      exact absurd hback (not_lex_of_lex hforth)

-- The groups leave open where `c` stands, and `c` was added before `a`.
example : (play [.add 'b', .flush, .add 'c', .flush, .add 'a', .add 'b', .flush]).result =
    some ['c', 'a', 'b'] := by cbv

end Calls

end Precedence

end ScanSchema
