import ScanSchema.Proofs.Schema.Findings

/-!
# Jobs and their collections

Joining phrases and merging alternatives only add to the end of the collection that they are handed,
and never look at what it holds. So it is all the same to a job whose collection that is. Some jobs
may be run one after another with one collection that they share. They may as well be run apart, each
with a collection of its own and in whatever order, if what they found is put together in the order
of the jobs afterwards: the phrases, the findings and their dump are the same.
-/

namespace ScanSchema

namespace Diagnostics

/-- An empty collection adds nothing to another. -/
theorem extend_empty (diagnostics : Diagnostics) : diagnostics.extend ∅ = diagnostics :=
  congrArg Diagnostics.mk (List.append_nil _)

/-- Findings can be collected apart first. -/
theorem reportAll_eq_extend (diagnostics : Diagnostics) (found : List Diagnostic) :
    diagnostics.reportAll found = diagnostics.extend ((∅ : Diagnostics).reportAll found) := rfl

end Diagnostics

namespace Unify

section Appending

/-- Whether an operation adds findings to the end of any collection, and neither they nor the rest of
its answer depend on the collection. -/
def Appends {α : Type} (operation : Diagnostics → α × Diagnostics) : Prop :=
  ∀ diagnostics, operation diagnostics = ((operation ∅).1, diagnostics.extend (operation ∅).2)

/-- An operation that reports the same findings to every collection appends them. -/
theorem appends_of_reportAll {α : Type} {operation : Diagnostics → α × Diagnostics} {value : α}
    {found : List Diagnostic}
    (h : ∀ diagnostics, operation diagnostics = (value, diagnostics.reportAll found)) :
    Appends operation := by
  intro diagnostics
  rw [h, h, ← Diagnostics.reportAll_eq_extend]

/-- Joining appends its findings. -/
theorem appends_concat (phrases : List Phrase) (anchor : Span) : Appends (concat phrases anchor) :=
  appends_of_reportAll fun diagnostics => concat_eq phrases anchor diagnostics

/-- The phrase of a merge and what is logged of it do not depend on the collection. -/
theorem phrase_log_merge_congr (name : String) (phrases : List Phrase) (anchor : Span)
    (diagnostics others : Diagnostics) :
    (merge name phrases anchor diagnostics).phrase = (merge name phrases anchor others).phrase ∧
      (merge name phrases anchor diagnostics).log = (merge name phrases anchor others).log := by
  unfold merge
  split
  · exact ⟨rfl, rfl⟩
  split
  · unfold mergeSingle
    cases Field.merge? (some name) (phrases.flatMap (·.fields)) <;> exact ⟨rfl, rfl⟩
  · rw [mergeGeneral_eq, mergeGeneral_eq]
    split
    · have hpassed := fst_verify_congr anchor (early phrases anchor diagnostics) ⟨united phrases⟩
        (early phrases anchor others)
      exact ⟨hpassed, by simp only [hpassed]⟩
    · exact ⟨rfl, rfl⟩

/-- A merge is the one with an empty collection, with what that finds behind what is there. -/
theorem merge_eq_extend (name : String) (phrases : List Phrase) (anchor : Span)
    (diagnostics : Diagnostics) :
    merge name phrases anchor diagnostics =
      ⟨(merge name phrases anchor ∅).phrase,
        diagnostics.extend (merge name phrases anchor ∅).diagnostics,
        (merge name phrases anchor ∅).log⟩ := by
  obtain ⟨hphrase, hlog⟩ := phrase_log_merge_congr name phrases anchor diagnostics ∅
  have hfound : (merge name phrases anchor diagnostics).diagnostics =
      diagnostics.extend (merge name phrases anchor ∅).diagnostics := by
    rw [diagnostics_merge, diagnostics_merge, ← Diagnostics.reportAll_eq_extend]
  rw [← hphrase, ← hlog, ← hfound]

end Appending

/-- Something to unify: the phrases of a sequence, or those of all alternatives of a nonterminal. -/
inductive Job where
  /-- Join the phrases of consecutive symbols. -/
  | join (phrases : List Phrase) (anchor : Span)
  /-- Unify the phrases of all alternatives of the nonterminal `name`. -/
  | unify (name : String) (phrases : List Phrase) (anchor : Span)
  deriving DecidableEq, Repr

namespace Job

variable {jobs : List Job} {order ran : List Nat}

/-- Run a job with a collection. -/
def run : Job → Diagnostics → Phrase × Diagnostics
  | .join phrases anchor, diagnostics => concat phrases anchor diagnostics
  | .unify name phrases anchor, diagnostics =>
    let merged := merge name phrases anchor diagnostics
    (merged.phrase, merged.diagnostics)

/-- Run jobs one after another with one collection. -/
def runShared : List Job → Diagnostics → List Phrase × Diagnostics
  | [], diagnostics => ([], diagnostics)
  | job :: rest, diagnostics =>
    let (phrase, found) := job.run diagnostics
    let (phrases, all) := runShared rest found
    (phrase :: phrases, all)

/-- Run the job in some place with a collection of its own, and put its answer into that place. -/
def runAt (jobs : List Job) (answers : List (Option (Phrase × Diagnostics))) (place : Nat) :
    List (Option (Phrase × Diagnostics)) :=
  match jobs[place]? with
  | some job => answers.set place (some (job.run ∅))
  | none => answers

/-- Run the jobs in some places, in that order. At first no place has an answer. -/
def runApart (jobs : List Job) (order : List Nat) : List (Option (Phrase × Diagnostics)) :=
  order.foldl (runAt jobs) (List.replicate jobs.length none)

/-- Put answers together in the order of their places, behind a collection. There is nothing to put
together if an answer is missing. -/
def gather : List (Option (Phrase × Diagnostics)) → Diagnostics → Option (List Phrase × Diagnostics)
  | [], diagnostics => some ([], diagnostics)
  | none :: _, _ => none
  | some (phrase, found) :: rest, diagnostics => do
    let (phrases, all) ← gather rest (diagnostics.extend found)
    return (phrase :: phrases, all)

section Running

/-- Every job appends its findings. -/
theorem appends_run (job : Job) : Appends job.run := by
  cases job with
  | join phrases anchor => exact appends_concat phrases anchor
  | unify name phrases anchor =>
    intro diagnostics
    simp only [run]
    rw [merge_eq_extend name phrases anchor diagnostics]

/-- With a shared collection every job has its own phrase, and the findings of all jobs are added in
their order. -/
theorem runShared_eq (jobs : List Job) (diagnostics : Diagnostics) :
    runShared jobs diagnostics =
      (jobs.map fun job => (job.run ∅).1,
        diagnostics.reportAll (jobs.flatMap fun job => (job.run ∅).2.entries)) := by
  induction jobs generalizing diagnostics with
  | nil => exact congrArg (Prod.mk []) diagnostics.extend_empty.symm
  | cons job rest ih =>
    simp only [runShared, appends_run job diagnostics, ih, List.map_cons, List.flatMap_cons]
    rw [Diagnostics.extend, Diagnostics.reportAll_reportAll]

/-- The answers that are there once the jobs in some places have run. -/
def answered (jobs : List Job) (ran : List Nat) : List (Option (Phrase × Diagnostics)) :=
  jobs.mapIdx fun place job => if place ∈ ran then some (job.run ∅) else none

/-- Before any job has run there is no answer. -/
theorem answered_nil (jobs : List Job) : answered jobs [] = List.replicate jobs.length none := by
  refine List.ext_getElem? fun place => ?_
  simp only [answered, List.getElem?_mapIdx, List.getElem?_replicate]
  by_cases hplace : place < jobs.length <;> simp [hplace]

/-- A job adds its own answer and leaves those of the others alone. -/
theorem runAt_answered (jobs : List Job) (ran : List Nat) (place : Nat) :
    runAt jobs (answered jobs ran) place = answered jobs (ran ++ [place]) := by
  refine List.ext_getElem? fun other => ?_
  unfold runAt
  cases hjob : jobs[place]? with
  | none =>
    -- There is no job in this place, so there is none whose answer could be new.
    simp only [answered, List.getElem?_mapIdx]
    cases hother : jobs[other]? with
    | none => rfl
    | some job =>
      have hne : other ≠ place := fun heq => by
        rw [heq, hjob] at hother
        cases hother
      simp [hne]
  | some job =>
    have hlength : place < (answered jobs ran).length := by
      rw [answered, List.length_mapIdx]
      exact (List.getElem?_eq_some_iff.mp hjob).1
    by_cases heq : place = other
    · subst heq
      rw [List.getElem?_set_self hlength]
      simp [answered, hjob]
    · simp [List.getElem?_set_ne heq, answered, Ne.symm heq]

/-- Running some jobs more gives their answers as well. -/
theorem foldl_runAt_answered (jobs : List Job) (order ran : List Nat) :
    order.foldl (runAt jobs) (answered jobs ran) = answered jobs (ran ++ order) := by
  induction order generalizing ran with
  | nil => rw [List.foldl_nil, List.append_nil]
  | cons place rest ih =>
    rw [List.foldl_cons, runAt_answered, ih, List.append_assoc]
    rfl

/-- Once every job has run, every place has its answer, whatever the order was. -/
theorem runApart_of_perm (h : order.Perm (List.range jobs.length)) :
    runApart jobs order = jobs.map fun job => some (job.run ∅) := by
  rw [runApart, ← answered_nil, foldl_runAt_answered, List.nil_append]
  refine List.ext_getElem (by simp [answered]) fun place hplace _ => ?_
  have hran : place ∈ order := by simpa [h.mem_iff, answered] using hplace
  simp [answered, hran]

/-- Answers of jobs that ran apart are put together to those of a shared run. -/
theorem gather_map_run (jobs : List Job) (diagnostics : Diagnostics) :
    gather (jobs.map fun job => some (job.run ∅)) diagnostics =
      some (runShared jobs diagnostics) := by
  induction jobs generalizing diagnostics with
  | nil => rfl
  | cons job rest ih =>
    simp only [List.map_cons, gather, ih, runShared, appends_run job diagnostics]
    rfl

/-- Joining and merging only add to their collection, and never look at it: with any collection they
answer as with an empty one, and what they find there comes behind what was in the collection.

So jobs may be run apart in any order, each with a collection of its own. What they answer, put
together in the order of the jobs, is what they answer one after another with a collection that they
share, the phrases as well as the findings; and the dump has the lines of all jobs in their order. -/
theorem gather_runApart (jobs : List Job) (order : List Nat) (diagnostics : Diagnostics)
    (h : order.Perm (List.range jobs.length)) :
    (∀ phrases anchor (collected : Diagnostics),
        concat phrases anchor collected =
          ((concat phrases anchor ∅).1, collected.extend (concat phrases anchor ∅).2)) ∧
      (∀ name phrases anchor (collected : Diagnostics),
        merge name phrases anchor collected =
          ⟨(merge name phrases anchor ∅).phrase,
            collected.extend (merge name phrases anchor ∅).diagnostics,
            (merge name phrases anchor ∅).log⟩) ∧
      gather (runApart jobs order) diagnostics = some (runShared jobs diagnostics) ∧
      (runShared jobs diagnostics).2.dump =
        "\n".intercalate ((diagnostics.entries ++
          jobs.flatMap fun job => (job.run ∅).2.entries).map Diagnostic.toLine) := by
  refine ⟨appends_concat, merge_eq_extend, ?_, ?_⟩
  · rw [runApart_of_perm h, gather_map_run]
  · rw [runShared_eq]
    rfl

/-- Three merges: one without findings, one whose types collide, and one whose alternatives disagree
on the order of names. -/
def merges : List Job :=
  [.unify "Ok" [.single "A", .single "B"] ⟨0, 5, by decide⟩,
    .unify "Clash" [⟨[.ofTypes (some "x") (.single "T") false]⟩, .single "T"] ⟨0, 7, by decide⟩,
    .unify "Order"
      [⟨[.ofTypes (some "a") (.single "A") false, .ofTypes (some "b") (.single "B") false]⟩,
        ⟨[.ofTypes (some "b") (.single "B") false, .ofTypes (some "a") (.single "A") false]⟩]
      ⟨0, 9, by decide⟩]

/-- Though the last of these merges runs first, what it finds comes last. -/
theorem gather_runApart_merges :
    [2, 0, 1].Perm (List.range merges.length) ∧
      (runShared merges ∅).1.map Phrase.toText = ["A|B", "", "a=A b=B"] ∧
      (runShared merges ∅).2.kinds = [.namedUnnamedCollision, .inconsistentFieldOrder] ∧
      gather (runApart merges [2, 0, 1]) ∅ = some (runShared merges ∅) := by
  have h : [2, 0, 1].Perm (List.range merges.length) := by decide
  obtain ⟨-, -, hgather, -⟩ := gather_runApart merges [2, 0, 1] ∅ h
  exact ⟨h, by decide +kernel, by decide +kernel, hgather⟩

end Running

end Job

end Unify

end ScanSchema
