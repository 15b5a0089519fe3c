import ScanSchema.Proofs.Schema.Groups
import ScanSchema.Proofs.Schema.Reports

/-!
# When names are in conflict

The given names of all alternatives are in conflict if they cannot be put into one order. In each
alternative only the first field of each signature counts, and its names stand in the order in which
they occur there first. A merge reports a conflict, once, exactly if there is no order of all names
that agrees with every alternative: names that are in no field that counts may stand anywhere, so they
neither make a conflict nor hide one. The report is all that comes of it. A merge in which the order
of names is judged in any other way has the same answer.
-/

namespace ScanSchema

open Precedence

/-- An order of all given names that agrees with every alternative. -/
structure OrdersNames (phrases : List Phrase) (order : List String) : Prop where
  /-- No name comes twice. -/
  nodup : order.Nodup
  /-- The names are those that are given to some field. -/
  mem_iff : ∀ name, name ∈ order ↔
    ∃ phrase ∈ phrases, ∃ field ∈ phrase.fields, field.givenName? = some name
  /-- The order agrees with the names of the fields that count in an alternative. -/
  agrees : ∀ phrase ∈ phrases, Agrees order (Unify.givenNames (Unify.firstFields phrase.fields))

namespace Unify

variable {phrases : List Phrase} {order items : List String}

section Orders

/-- All given names. -/
def allNames (phrases : List Phrase) : List String :=
  phrases.flatMap fun phrase => givenNames phrase.fields

/-- The names are those given to any field of the alternatives. -/
theorem mem_allNames {name : String} : name ∈ allNames phrases ↔
    ∃ phrase ∈ phrases, ∃ field ∈ phrase.fields, field.givenName? = some name := by
  simp only [allNames, givenNames, List.mem_flatMap, List.mem_filterMap]

/-- The names of the fields that count are among all names. -/
theorem mem_allNames_of_mem_firstFields {phrase : Phrase} {name : String} (hphrase : phrase ∈ phrases)
    (h : name ∈ givenNames (firstFields phrase.fields)) : name ∈ allNames phrases := by
  have hname : name ∈ givenNames phrase.fields :=
    ((sublist_firstFields phrase.fields).filterMap _).subset h
  exact List.mem_flatMap.mpr ⟨phrase, hphrase, hname⟩

/-- A name that is ordered is given in some alternative. -/
theorem mem_items_nameOrder_kept {name : String} (h : name ∈ (nameOrder (kept phrases)).items) :
    name ∈ allNames phrases := by
  rw [mem_items_nameOrder, kept_eq] at h
  obtain ⟨fields, hfields, hname⟩ := h
  obtain ⟨phrase, hphrase, rfl⟩ := List.mem_map.mp hfields
  exact mem_allNames_of_mem_firstFields hphrase hname

/-- An order of all names goes along the neighbours in the alternatives exactly if it agrees with every
alternative. -/
theorem respects_nameOrder_iff (hnodup : order.Nodup)
    (hmem : ∀ name, name ∈ order ↔ name ∈ allNames phrases) :
    Respects order (nameOrder (kept phrases)).edges ↔
      ∀ phrase ∈ phrases, Agrees order (givenNames (firstFields phrase.fields)) := by
  have hphrase : ∀ phrase ∈ phrases,
      (Respects order (neighbours (givenNames (firstFields phrase.fields))) ↔
        Agrees order (givenNames (firstFields phrase.fields))) := fun phrase hphrase =>
    respects_neighbours_iff hnodup fun name hname =>
      (hmem name).mpr (mem_allNames_of_mem_firstFields hphrase hname)
  rw [← forall₂_congr hphrase, nameOrder_eq, kept_eq]
  simp only [Respects, List.mem_flatMap, List.mem_map]
  constructor
  · exact fun h phrase hphrase edge hedge => h edge ⟨_, ⟨phrase, hphrase, rfl⟩, hedge⟩
  · rintro h edge ⟨_, ⟨phrase, hphrase, rfl⟩, hedge⟩
    exact h phrase hphrase edge hedge

/-- Collecting more names puts them behind those that are there. -/
theorem sublist_foldl_pushNew (names : List String) : items.Sublist (names.foldl pushNew items) := by
  induction names generalizing items with
  | nil => exact List.Sublist.refl _
  | cons name rest ih =>
    have hfirst : items.Sublist (pushNew items name) := by
      unfold pushNew
      split
      · exact List.Sublist.refl _
      · exact List.sublist_append_left _ _
    exact hfirst.trans ih

/-- There is an order of the names of the fields that count exactly if there is one of all names. -/
theorem isSome_result_nameOrder_iff :
    (nameOrder (kept phrases)).result.isSome ↔ ∃ order, OrdersNames phrases order := by
  have hends : ∀ edge ∈ (nameOrder (kept phrases)).edges,
      edge.1 ∈ (nameOrder (kept phrases)).items ∧ edge.2 ∈ (nameOrder (kept phrases)).items :=
    fun edge hedge => mem_items_of_mem_edges hedge
  have hnodupItems := nodup_items_nameOrder (kept phrases)
  rw [result, isSome_arrange_iff hnodupItems hends]
  constructor
  · rintro ⟨order, hperm, hrespects⟩
    -- Names of dropped fields are put behind the order.
    have hnodup : ((allNames phrases).foldl pushNew order).Nodup :=
      nodup_foldl_pushNew (hperm.nodup_iff.mpr hnodupItems)
    have hmem : ∀ name, name ∈ (allNames phrases).foldl pushNew order ↔ name ∈ allNames phrases := by
      intro name
      have hitem : name ∈ order → name ∈ allNames phrases := fun horder =>
        mem_items_nameOrder_kept (hperm.mem_iff.mp horder)
      rw [mem_foldl_pushNew, or_iff_right_of_imp hitem]
    refine ⟨_, hnodup, fun name => (hmem name).trans mem_allNames, ?_⟩
    refine (respects_nameOrder_iff hnodup hmem).mp fun edge hedge => ?_
    exact (hrespects edge hedge).trans (sublist_foldl_pushNew _)
  · rintro ⟨order, hnodup, hmem, hagrees⟩
    have hall : ∀ name, name ∈ order ↔ name ∈ allNames phrases := fun name =>
      (hmem name).trans mem_allNames.symm
    have hrespects := (respects_nameOrder_iff hnodup hall).mpr hagrees
    -- Names of dropped fields are left out of the order.
    refine ⟨order.filter (· ∈ (nameOrder (kept phrases)).items), ?_, fun edge hedge => ?_⟩
    · refine (List.perm_ext_iff_of_nodup (hnodup.filter _) hnodupItems).mpr fun name => ?_
      rw [List.mem_filter, decide_eq_true_iff, and_iff_right_of_imp]
      exact fun hitem => (hall name).mpr (mem_items_nameOrder_kept hitem)
    · obtain ⟨hfirst, hsecond⟩ := hends edge hedge
      have hkept := (hrespects edge hedge).filter (· ∈ (nameOrder (kept phrases)).items)
      simpa [hfirst, hsecond] using hkept

/-- Names of alternatives of at most one field each are never in conflict. -/
theorem exists_ordersNames_of_length_le_one
    (h : ∀ phrase ∈ phrases, phrase.fields.length ≤ 1) : ∃ order, OrdersNames phrases order := by
  have hmem : ∀ name, name ∈ (allNames phrases).foldl pushNew [] ↔ name ∈ allNames phrases :=
    fun name => mem_foldl_pushNew.trans (or_iff_right List.not_mem_nil)
  refine ⟨(allNames phrases).foldl pushNew [], nodup_foldl_pushNew List.nodup_nil,
    fun name => (hmem name).trans mem_allNames, fun phrase hphrase x hx y hy hless => ?_⟩
  have hlength : (givenNames (firstFields phrase.fields)).length ≤ 1 :=
    (List.length_filterMap_le _ _).trans
      ((sublist_firstFields phrase.fields).length_le.trans (h phrase hphrase))
  have hplace := List.idxOf_lt_length_iff.mpr hy
  omega

end Orders

section Checking

/-- A merge of alternatives of any form in which it is judged by `inConflict` whether the names that
count are in conflict. -/
def mergeGeneralChecking (inConflict : List (List Field) → Bool) (name : String)
    (phrases : List Phrase) (anchor : Span) (diagnostics : Diagnostics) : Merged :=
  let repeated := diagnostics.reportAll ((repeats phrases).map (duplicate anchor))
  let ordered :=
    if inConflict (kept phrases) then repeated.report (.ofKind .inconsistentFieldOrder anchor)
    else repeated
  if (broken phrases).isEmpty then
    let (phrase, verified) := verify ⟨united phrases⟩ anchor ordered
    ⟨phrase, verified, [⟨.debug, name ++ ": " ++ phrase.toText⟩]⟩
  else
    ⟨.empty, ordered.reportAll ((broken phrases).map (incompatible anchor)),
      [⟨.debug, name ++ ": unmergeable fields, schema collapsed"⟩]⟩

/-- A merge in which it is judged by `inConflict` whether the names that count are in conflict. -/
def mergeChecking (inConflict : List (List Field) → Bool) (name : String) (phrases : List Phrase)
    (anchor : Span) (diagnostics : Diagnostics) : Merged :=
  if phrases = [] then ⟨.empty, diagnostics, []⟩
  else if phrases.all Phrase.isSingleElement then
    mergeSingle name (phrases.flatMap (·.fields)) anchor diagnostics
  else mergeGeneralChecking inConflict name phrases anchor diagnostics

/-- A merge judges by whether the names can be ordered. -/
theorem merge_eq_mergeChecking (name : String) (phrases : List Phrase) (anchor : Span)
    (diagnostics : Diagnostics) :
    merge name phrases anchor diagnostics =
      mergeChecking (fun alternatives => (nameOrder alternatives).result.isNone) name phrases anchor
        diagnostics := rfl

/-- The answer does not depend on how conflicts are judged. -/
theorem phrase_mergeChecking_congr (inConflict other : List (List Field) → Bool) (name : String)
    (phrases : List Phrase) (anchor : Span) (diagnostics : Diagnostics) :
    (mergeChecking inConflict name phrases anchor diagnostics).phrase =
      (mergeChecking other name phrases anchor diagnostics).phrase := by
  unfold mergeChecking
  split
  · rfl
  split
  · rfl
  unfold mergeGeneralChecking
  cases (broken phrases).isEmpty with
  | true => exact fst_verify_congr anchor _ _ _
  | false => rfl

end Checking

section Reporting

variable (anchor : Span)

/-- In general a conflict is reported once if the names cannot be ordered, and otherwise it is not. -/
theorem length_orderFindings (phrases : List Phrase) :
    (orderFindings anchor phrases).length ≤ 1 ∧
      (0 < (orderFindings anchor phrases).length ↔ ¬ ∃ order, OrdersNames phrases order) := by
  rw [← isSome_result_nameOrder_iff, orderFindings]
  cases (nameOrder (kept phrases)).result with
  | none => simp
  | some order => simp

/-- Nothing is lost where alternatives of one field each are merged without a look at the order of
their names. -/
theorem ite_orderFindings (phrases : List Phrase) :
    (if phrases.all Phrase.isSingleElement then [] else orderFindings anchor phrases) =
      orderFindings anchor phrases := by
  split
  next hall =>
    have hone : ∀ phrase ∈ phrases, phrase.fields.length ≤ 1 := fun phrase hphrase => by
      obtain ⟨field, hfield⟩ :=
        exists_fields_eq_of_isSingleElement (List.all_eq_true.mp hall phrase hphrase)
      rw [hfield]
      exact Nat.le_refl 1
    have hsome := isSome_result_nameOrder_iff.mpr (exists_ordersNames_of_length_le_one hone)
    obtain ⟨order, hresult⟩ := Option.isSome_iff_exists.mp hsome
    rw [orderFindings, hresult]
    rfl
  next => rfl

end Reporting

end Unify

/-- Of all that a merge reports only the conflicts are counted as such. -/
theorem Merged.Report.count_conflicts {merged : Merged} {phrases : List Phrase} {anchor : Span}
    {diagnostics : Diagnostics} (report : merged.Report phrases anchor diagnostics) :
    merged.diagnostics.count .inconsistentFieldOrder =
      diagnostics.count .inconsistentFieldOrder + report.conflicts.length := by
  have hnone : ∀ findings : List Diagnostic,
      (∀ finding ∈ findings, finding.kind ≠ .inconsistentFieldOrder) →
        (findings.map (·.kind)).count .inconsistentFieldOrder = 0 := fun findings h =>
    List.count_eq_zero.mpr fun hmem => by
      obtain ⟨finding, hfinding, hkind⟩ := List.mem_map.mp hmem
      exact h finding hfinding hkind
  have hrepeated := hnone report.repeated fun finding hfinding => by
    rw [report.kind_repeated finding hfinding]
    exact DiagnosticKind.noConfusion
  have hmisfits := hnone report.misfits fun finding hfinding => by
    rw [report.kind_misfits finding hfinding]
    exact DiagnosticKind.noConfusion
  have hcollisions := hnone report.collisions fun finding hfinding => by
    rcases report.kind_collisions finding hfinding with hkind | hkind
    · rw [hkind]
      exact DiagnosticKind.noConfusion
    · rw [hkind]
      exact DiagnosticKind.noConfusion
  have hconflicts : (report.conflicts.map (·.kind)).count .inconsistentFieldOrder =
      report.conflicts.length := by
    rw [List.count_eq_length.mpr, List.length_map]
    intro kind hkind
    obtain ⟨finding, hfinding, rfl⟩ := List.mem_map.mp hkind
    exact (report.kind_conflicts finding hfinding).symm
  rw [Diagnostics.count, Diagnostics.count, Diagnostics.kinds, Diagnostics.kinds, report.entries_eq]
  simp only [List.map_append, List.count_append, hrepeated, hmisfits, hcollisions, hconflicts]
  omega

/-- A merge reports a conflict in the order of names at most once, and does so exactly if no order of
all given names agrees with every alternative. Its answer is the same however conflicts are judged. -/
theorem Merged.count_inconsistentFieldOrder (name : String) (phrases : List Phrase) (anchor : Span)
    (diagnostics : Diagnostics) :
    (merge name phrases anchor diagnostics).diagnostics.count .inconsistentFieldOrder ≤
        diagnostics.count .inconsistentFieldOrder + 1 ∧
      (diagnostics.count .inconsistentFieldOrder <
          (merge name phrases anchor diagnostics).diagnostics.count .inconsistentFieldOrder ↔
        ¬ ∃ order, OrdersNames phrases order) ∧
      ∀ inConflict, (Unify.mergeChecking inConflict name phrases anchor diagnostics).phrase =
        (merge name phrases anchor diagnostics).phrase := by
  obtain ⟨report, hreport⟩ := Unify.exists_report name phrases anchor diagnostics
  rw [Unify.ite_orderFindings] at hreport
  have hcount := report.count_conflicts
  obtain ⟨honce, hconflict⟩ := Unify.length_orderFindings anchor phrases
  rw [← hreport] at honce hconflict
  refine ⟨by omega, ?_, fun inConflict => ?_⟩
  · rw [← hconflict]
    omega
  · rw [Unify.merge_eq_mergeChecking]
    exact Unify.phrase_mergeChecking_congr inConflict _ name phrases anchor diagnostics

end ScanSchema
