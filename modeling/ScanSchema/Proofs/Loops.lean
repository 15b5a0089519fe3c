/-!
# Loops that end

A loop runs a body again and again until it has the answer, and nothing in the body says that it comes
to an end. `Loops` is a loop that was run to its end, and `Loops.exists_le` bounds the number of its
turns by a measure that every turn brings down.
-/

namespace ScanSchema

/-- A loop that answers after some turns. In every turn but the last the body asks to go on. -/
inductive Loops {α β : Type} (body : α → α ⊕ β) : α → Nat → β → Prop where
  /-- The body has the answer. -/
  | last {place : α} {answer : β} (h : body place = .inr answer) : Loops body place 1 answer
  /-- The loop goes on from the next place. -/
  | next {place next : α} {turns : Nat} {answer : β} (h : body place = .inl next)
      (hrest : Loops body next turns answer) : Loops body place (turns + 1) answer

/-- A loop ends if every turn that goes on brings a measure down, and the number of its turns is at
most one more than the measure. It answers as a function of its place does that no turn changes.
Both need only hold in places that are fit for the loop. -/
theorem Loops.exists_le {α β : Type} {body : α → α ⊕ β} (Fit : α → Prop) (measure : α → Nat)
    (answer : α → β)
    (hnext : ∀ place next, Fit place → body place = .inl next →
      Fit next ∧ measure next < measure place ∧ answer next = answer place)
    (hlast : ∀ place found, Fit place → body place = .inr found → found = answer place)
    (place : α) (hfit : Fit place) :
    ∃ turns ≤ measure place + 1, Loops body place turns (answer place) := by
  cases hbody : body place with
  | inr found =>
    have hanswer := hlast place found hfit hbody
    exact ⟨1, Nat.le_add_left _ _, .last (hanswer ▸ hbody)⟩
  | inl next =>
    obtain ⟨hfits, hless, hanswer⟩ := hnext place next hfit hbody
    obtain ⟨turns, hturns, hloops⟩ := exists_le Fit measure answer hnext hlast next hfits
    rw [hanswer] at hloops
    exact ⟨turns + 1, by omega, .next hbody hloops⟩
termination_by measure place

end ScanSchema
