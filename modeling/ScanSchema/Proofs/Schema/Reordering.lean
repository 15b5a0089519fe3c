import ScanSchema.Proofs.Schema.Collision
import ScanSchema.Proofs.Schema.Precedence

/-!
# Alternatives in another order

A merge answers alike for the same alternatives in any order. Its fields may come in another order,
and a field without a given name may be called after another occurrence or take its mapping from
another one, but everything else that is known of the fields stays. So do the numbers of findings,
where only the first collision is reported and it may be of either kind. The reasons are the same all
along the way: repeats are a matter of one alternative, what orders names is which names and
neighbours there are, a slot is a set of fields whose occurrences either all fit together or do not,
and verification looks at all pairs of fields.
-/

namespace ScanSchema

/-- Two optional values have the same image if they are there together and agree then. -/
theorem map_eq_map_of_isSome {α β : Type} {f : α → β} {a b : Option α} (hsome : a.isSome = b.isSome)
    (h : ∀ x ∈ a, ∀ y ∈ b, f x = f y) : a.map f = b.map f := by
  cases a with
  | none =>
    cases b with
    | none => rfl
    | some y => cases hsome
  | some x =>
    cases b with
    | none => cases hsome
    | some y => exact congrArg some (h x rfl y rfl)

/-- Of two permutations both are empty or neither is. -/
theorem eq_nil_iff_of_perm {α : Type} {items others : List α} (h : items.Perm others) :
    items = [] ↔ others = [] := by
  rw [← List.length_eq_zero_iff, h.length_eq, List.length_eq_zero_iff]

namespace Field

/-- What is known of a field, apart from a name derived from types and from the mapping. -/
structure Description where
  /-- The key of the slot. -/
  signature : Signature
  /-- The given name, if there is one. -/
  givenName? : Option String
  /-- The types. -/
  types : List String
  /-- Whether the field may be merged with others. -/
  isMergeable : Bool
  /-- Whether the slot may be empty. -/
  isNullable : Bool
  /-- Whether the slot holds a list. -/
  isList : Bool
  deriving DecidableEq, Repr

/-- The description of a field. -/
def description (field : Field) : Description where
  signature := field.signature
  givenName? := field.givenName?
  types := field.types.names
  isMergeable := field.isMergeable
  isNullable := field.isNullable
  isList := field.isList

variable {count : Nat} {field other : Field} {fields occurrences others : List Field}
  {name : Option String}

/-- A description tells whether a name was given. -/
theorem isSome_givenName?_description (field : Field) :
    field.description.givenName?.isSome = field.isNamed := by
  change field.givenName?.isSome = field.isNamed
  unfold givenName?
  cases field.isNamed <;> rfl

/-- Fields that unite the same occurrences have the same description. -/
theorem Unites.description_eq (h : field.Unites count occurrences)
    (hother : other.Unites count others) (hperm : occurrences.Perm others)
    (hne : occurrences ≠ []) : field.description = other.description := by
  obtain ⟨occurrence, hmem⟩ := List.exists_mem_of_ne_nil _ hne
  have hmem' : occurrence ∈ others := hperm.mem_iff.mp hmem
  have hname : field.givenName? = other.givenName? :=
    (h.givenName?_eq _ hmem).symm.trans (hother.givenName?_eq _ hmem')
  have htypes : field.types = other.types := TypeSet.ext_mem fun type => by
    simp only [h.mem_types_iff, hother.mem_types_iff, hperm.mem_iff]
  have hmergeable : field.isMergeable = other.isMergeable := Bool.eq_iff_iff.mpr <| by
    simp only [h.isMergeable_iff, hother.isMergeable_iff, hperm.mem_iff]
  have hnullable : field.isNullable = other.isNullable := Bool.eq_iff_iff.mpr <| by
    simp only [h.isNullable_iff, hother.isNullable_iff, hperm.mem_iff, hperm.length_eq]
  have hlist : field.isList = other.isList :=
    (h.isList_eq _ hmem).symm.trans (hother.isList_eq _ hmem')
  unfold description signature
  rw [hname, htypes, hmergeable, hnullable, hlist]

/-- Whether there are fields and all fit together does not depend on their order. -/
theorem ne_nil_and_allCompatible_perm (h : fields.Perm others) :
    fields ≠ [] ∧ AllCompatible fields ↔ others ≠ [] ∧ AllCompatible others := by
  simp only [AllCompatible, h.mem_iff, ne_eq, eq_nil_iff_of_perm h]

/-- So fields can be merged in every order or in none. -/
theorem isSome_merge?_perm (h : fields.Perm others) :
    (merge? name fields).isSome = (merge? name others).isSome := by
  rw [Bool.eq_iff_iff, isSome_merge?_iff, isSome_merge?_iff, ne_nil_and_allCompatible_perm h]

/-- Merging occurrences in another order answers with the same description. -/
theorem map_description_merge?_perm (h : fields.Perm others) :
    (merge? name fields).map description = (merge? name others).map description := by
  refine map_eq_map_of_isSome (isSome_merge?_perm h) fun field hfield other hother => ?_
  have hunites := unites_of_merge? hfield
  rw [h.length_eq] at hunites
  exact hunites.description_eq (unites_of_merge? hother) h
    (isSome_merge?_iff.mp (Option.isSome_of_mem hfield)).1

end Field

namespace Unify

variable {count : Nat} {phrases others : List Phrase} {fields fields' : List Field}

section Slots

/-- Uniting the occurrences of a slot in another order answers with the same description. -/
theorem map_description_composite?_perm (h : fields.Perm fields') :
    (composite? count fields).map Field.description =
      (composite? count fields').map Field.description := by
  have hsome : ∀ fields, (composite? count fields).isSome = (unifyBucket? fields).isSome := fun _ =>
    Option.isSome_map
  refine map_eq_map_of_isSome ?_ fun field hfield other hother => ?_
  · rw [hsome, hsome, Bool.eq_iff_iff, isSome_unifyBucket?_iff, isSome_unifyBucket?_iff,
      Field.ne_nil_and_allCompatible_perm h]
  · have hne : fields ≠ [] := by
      refine (isSome_unifyBucket?_iff.mp ?_).1
      rw [← hsome]
      exact Option.isSome_of_mem hfield
    exact (unites_of_composite? hfield).description_eq (unites_of_composite? hother) h hne

/-- What becomes of the slot of a signature. -/
def unitedDescription? (count : Nat) (fields : List Field) (signature : Signature) :
    Option Field.Description :=
  (composite? count (slotOf fields signature)).map Field.description

/-- What becomes of a slot does not depend on the order of the fields. -/
theorem unitedDescription?_perm (h : fields.Perm fields') :
    unitedDescription? count fields = unitedDescription? count fields' :=
  funext fun _ => map_description_composite?_perm (h.filter _)

/-- There are the same slots. -/
theorem perm_slotSignatures (h : fields.Perm fields') :
    (slotSignatures fields).Perm (slotSignatures fields') := by
  refine (List.perm_ext_iff_of_nodup (nodup_slotSignatures _) (nodup_slotSignatures _)).mpr ?_
  intro signature
  simp only [mem_slotSignatures, h.mem_iff]

/-- Alternatives keep their fields in whatever order they come. -/
theorem perm_kept (h : phrases.Perm others) : (kept phrases).Perm (kept others) :=
  (h.map _).map _

/-- And they drop the same ones. -/
theorem perm_repeats (h : phrases.Perm others) : (repeats phrases).Perm (repeats others) :=
  (h.map _).flatMap_right _

/-- The united fields are described slot by slot. -/
theorem map_description_united (phrases : List Phrase) :
    (united phrases).map Field.description =
      (slotSignatures (kept phrases).flatten).filterMap
        (unitedDescription? phrases.length (kept phrases).flatten) := by
  rw [united, slots, buckets_eq_map, List.filterMap_map, List.map_filterMap]
  rfl

/-- The broken slots are those of whose signatures nothing becomes. -/
theorem length_broken (phrases : List Phrase) :
    (broken phrases).length =
      (slotSignatures (kept phrases).flatten).countP fun signature =>
        (unitedDescription? phrases.length (kept phrases).flatten signature).isNone := by
  rw [broken, slots, buckets_eq_map, ← List.countP_eq_length_filter, List.countP_map]
  refine List.countP_congr fun signature _ => ?_
  rw [unitedDescription?, Option.isNone_map]
  rfl

/-- The united fields have the same descriptions in some order. -/
theorem perm_united (h : phrases.Perm others) :
    ((united phrases).map Field.description).Perm ((united others).map Field.description) := by
  have hfields := (perm_kept h).flatten
  rw [map_description_united, map_description_united, unitedDescription?_perm hfields, h.length_eq]
  exact (perm_slotSignatures hfields).filterMap _

/-- Equally many slots are broken in any order of the alternatives. -/
theorem length_broken_perm (h : phrases.Perm others) :
    (broken phrases).length = (broken others).length := by
  have hfields := (perm_kept h).flatten
  rw [length_broken, length_broken, unitedDescription?_perm hfields, h.length_eq]
  exact (perm_slotSignatures hfields).countP_eq _

end Slots

section Verification

/-- Verification lets two fields pass next to each other. -/
def Apart (field other : Field.Description) : Prop :=
  (field.givenName?.isSome = true → other.givenName?.isSome = false →
    ∀ type ∈ field.types, type ∉ other.types) ∧
  (field.givenName?.isSome = false → other.givenName?.isSome = false →
    ∀ type ∈ field.types, type ∈ other.types → field.signature = other.signature)

/-- Verification finds nothing exactly if it lets all pairs of fields pass. -/
theorem collision?_eq_none_iff_apart :
    collision? fields = none ↔ ∀ field ∈ fields.map Field.description,
      ∀ other ∈ fields.map Field.description, Apart field other := by
  rw [collision?_eq_none_iff]
  simp only [List.forall_mem_map, Apart, Field.isSome_givenName?_description]
  constructor
  · rintro ⟨hnamed, hunnamed⟩ field hfield other hother
    exact ⟨hnamed field hfield other hother, hunnamed field hfield other hother⟩
  · intro h
    exact ⟨fun field hfield other hother => (h field hfield other hother).1,
      fun field hfield other hother => (h field hfield other hother).2⟩

/-- Whether fields collide does not depend on their order, nor on derived names and mappings. -/
theorem collision?_eq_none_perm
    (h : (fields.map Field.description).Perm (fields'.map Field.description)) :
    collision? fields = none ↔ collision? fields' = none := by
  simp only [collision?_eq_none_iff_apart, h.mem_iff]

end Verification

end Unify

section Findings

/-- The kind, with both kinds of collisions taken for one. -/
def DiagnosticKind.joined : DiagnosticKind → DiagnosticKind
  | .unnamedTypeCollision => .namedUnnamedCollision
  | kind => kind

/-- The kinds of the findings, with both kinds of collisions taken for one. -/
def Diagnostics.joinedKinds (diagnostics : Diagnostics) : List DiagnosticKind :=
  diagnostics.kinds.map DiagnosticKind.joined

namespace Diagnostics

variable (diagnostics : Diagnostics)

/-- The kinds of new findings come behind the others. -/
theorem joinedKinds_reportAll (found : List Diagnostic) :
    (diagnostics.reportAll found).joinedKinds =
      diagnostics.joinedKinds ++ found.map fun finding => finding.kind.joined := by
  rw [joinedKinds, kinds, entries_reportAll, List.map_append, List.map_append,
    List.map_map (l := found)]
  rfl

/-- Every kind but the collisions is counted as it is. -/
theorem count_joinedKinds {kind : DiagnosticKind} (hnamed : kind ≠ .namedUnnamedCollision)
    (hunnamed : kind ≠ .unnamedTypeCollision) :
    diagnostics.joinedKinds.count kind = diagnostics.count kind := by
  rw [joinedKinds, count, List.count_eq_countP, List.count_eq_countP, List.countP_map]
  refine List.countP_congr fun found _ => ?_
  cases found <;> simp [DiagnosticKind.joined, hnamed.symm, hunnamed.symm]

/-- Both kinds of collisions are counted together. -/
theorem count_joinedKinds_collision :
    diagnostics.joinedKinds.count .namedUnnamedCollision =
      diagnostics.count .namedUnnamedCollision + diagnostics.count .unnamedTypeCollision := by
  rw [joinedKinds, count, count]
  induction diagnostics.kinds with
  | nil => rfl
  | cons found rest ih =>
    rw [List.map_cons, List.count_cons, List.count_cons, List.count_cons, ih]
    cases found <;> simp [DiagnosticKind.joined] <;> omega

end Diagnostics

namespace Unify

/-- The kinds of findings that a merge adds in general: one finding for each repeat, one for a
conflict of names, and one for each broken slot or, if there is none, for the collision. -/
def addedKinds (phrases : List Phrase) : List DiagnosticKind :=
  List.replicate (repeats phrases).length .duplicateSignature ++
    (if (nameOrder (kept phrases)).result.isSome then [] else [.inconsistentFieldOrder]) ++
    if broken phrases = [] then
      if collision? (united phrases) = none then [] else [.namedUnnamedCollision]
    else List.replicate (broken phrases).length .incompatibleFields

/-- A repeat is no collision, so its kind stays. -/
theorem duplicate_joined (anchor : Span) (field : Field) :
    (duplicate anchor field).kind.joined = .duplicateSignature := rfl

/-- So does that of a broken slot. -/
theorem incompatible_joined (anchor : Span) (fields : List Field) :
    (incompatible anchor fields).kind.joined = .incompatibleFields := rfl

/-- Findings of one kind, as many as there are items. -/
theorem map_joined_map {α : Type} {report : α → Diagnostic} {kind : DiagnosticKind}
    (h : ∀ item, (report item).kind.joined = kind) (items : List α) :
    ((items.map report).map fun finding => finding.kind.joined) =
      List.replicate items.length kind := by
  rw [List.map_map, ← List.map_const']
  exact List.map_congr_left fun item _ => h item

/-- Before slots are united there is one finding for each repeat and one for a conflict of names. -/
theorem joined_earlyFindings (anchor : Span) (phrases : List Phrase) :
    ((earlyFindings anchor phrases).map fun finding => finding.kind.joined) =
      List.replicate (repeats phrases).length .duplicateSignature ++
        if (nameOrder (kept phrases)).result.isSome then [] else [.inconsistentFieldOrder] := by
  rw [earlyFindings, List.map_append, map_joined_map (duplicate_joined anchor)]
  cases (nameOrder (kept phrases)).result <;> rfl

/-- A merge adds these kinds in general. -/
theorem joinedKinds_mergeGeneral (name : String) (phrases : List Phrase) (anchor : Span)
    (diagnostics : Diagnostics) :
    (mergeGeneral name phrases anchor diagnostics).diagnostics.joinedKinds =
      diagnostics.joinedKinds ++ addedKinds phrases := by
  unfold addedKinds
  rw [← joined_earlyFindings anchor, ← List.append_assoc]
  by_cases hbroken : broken phrases = []
  · rw [(mergeGeneral_of_broken_eq_nil name anchor diagnostics hbroken).2, snd_verify, if_pos hbroken,
      early, Diagnostics.joinedKinds_reportAll, Diagnostics.joinedKinds_reportAll]
    cases collision? (united phrases) with
    | none => rfl
    | some found => cases found <;> rfl
  · rw [(mergeGeneral_of_broken name anchor diagnostics hbroken).2, if_neg hbroken, early,
      Diagnostics.joinedKinds_reportAll, Diagnostics.joinedKinds_reportAll,
      map_joined_map (incompatible_joined anchor)]

/-- Whether a slot is broken does not depend on the order of the alternatives. -/
theorem broken_eq_nil_perm {phrases others : List Phrase} (h : phrases.Perm others) :
    broken phrases = [] ↔ broken others = [] := by
  rw [← List.length_eq_zero_iff, length_broken_perm h, List.length_eq_zero_iff]

/-- So the same kinds of findings are added. -/
theorem addedKinds_perm {phrases others : List Phrase} (h : phrases.Perm others) :
    addedKinds phrases = addedKinds others := by
  unfold addedKinds
  simp only [broken_eq_nil_perm h, collision?_eq_none_perm (perm_united h), (perm_repeats h).length_eq,
    isSome_result_nameOrder_perm (perm_kept h), length_broken_perm h]

end Unify

end Findings

/-- Two answers of a merge have the same fields up to order, derived names and mappings, and equally
many findings, where both kinds of collisions are counted together. -/
structure Merged.Alike (merged other : Merged) : Prop where
  /-- The fields have the same descriptions, each of them as often. -/
  fields_perm : (merged.phrase.fields.map Field.description).Perm
    (other.phrase.fields.map Field.description)
  /-- There are equally many findings of every kind but collisions. -/
  count_eq : ∀ kind, kind ≠ .namedUnnamedCollision → kind ≠ .unnamedTypeCollision →
    merged.diagnostics.count kind = other.diagnostics.count kind
  /-- There are equally many collisions. -/
  collisions_eq :
    merged.diagnostics.count .namedUnnamedCollision +
        merged.diagnostics.count .unnamedTypeCollision =
      other.diagnostics.count .namedUnnamedCollision +
        other.diagnostics.count .unnamedTypeCollision

namespace Unify

variable {phrases others : List Phrase} {fields fields' : List Field} (name : String)
  (anchor : Span) (diagnostics : Diagnostics)

/-- With the same kinds, and so with the same numbers of them, two answers are alike. -/
theorem alike_of_joinedKinds_eq {merged other : Merged}
    (hfields : (merged.phrase.fields.map Field.description).Perm
      (other.phrase.fields.map Field.description))
    (hkinds : merged.diagnostics.joinedKinds = other.diagnostics.joinedKinds) :
    merged.Alike other where
  fields_perm := hfields
  count_eq kind hnamed hunnamed := by
    rw [← Diagnostics.count_joinedKinds _ hnamed hunnamed, hkinds,
      Diagnostics.count_joinedKinds _ hnamed hunnamed]
  collisions_eq := by
    rw [← Diagnostics.count_joinedKinds_collision, hkinds, Diagnostics.count_joinedKinds_collision]

/-- Alternatives of one field each: the fields may come in another order. -/
theorem alike_mergeSingle_perm (h : fields.Perm fields') :
    (mergeSingle name fields anchor diagnostics).Alike
      (mergeSingle name fields' anchor diagnostics) := by
  have hphrase : ∀ fields, (mergeSingle name fields anchor diagnostics).phrase.fields.map
      Field.description = ((Field.merge? (some name) fields).map Field.description).toList := by
    intro fields
    unfold mergeSingle
    cases Field.merge? (some name) fields <;> rfl
  have hkinds : ∀ fields, (mergeSingle name fields anchor diagnostics).diagnostics.joinedKinds =
      diagnostics.joinedKinds ++
        if ((Field.merge? (some name) fields).map Field.description).isSome then []
        else [.incompatibleFields] := by
    intro fields
    unfold mergeSingle
    cases Field.merge? (some name) fields with
    | none => exact diagnostics.joinedKinds_reportAll [incompatible anchor fields]
    | some field => exact (List.append_nil _).symm
  apply alike_of_joinedKinds_eq
  · rw [hphrase, hphrase, Field.map_description_merge?_perm h]
  · rw [hkinds, hkinds, Field.map_description_merge?_perm h]

/-- Alternatives of any form may come in another order. -/
theorem alike_mergeGeneral_perm (h : phrases.Perm others) :
    (mergeGeneral name phrases anchor diagnostics).Alike
      (mergeGeneral name others anchor diagnostics) := by
  have hunited := perm_united h
  apply alike_of_joinedKinds_eq
  · simp only [phrase_mergeGeneral_eq, broken_eq_nil_perm h, collision?_eq_none_perm hunited]
    split
    · exact hunited
    · exact List.Perm.refl _
  · rw [joinedKinds_mergeGeneral, joinedKinds_mergeGeneral, addedKinds_perm h]

end Unify

/-- A merge answers alike for the same alternatives in any order. -/
theorem Merged.alike_merge_of_perm (name : String) (anchor : Span) (diagnostics : Diagnostics)
    {phrases others : List Phrase} (h : phrases.Perm others) :
    (merge name phrases anchor diagnostics).Alike (merge name others anchor diagnostics) := by
  have hnil := eq_nil_iff_of_perm h
  have hsingle : phrases.all Phrase.isSingleElement = others.all Phrase.isSingleElement :=
    h.all_eq
  unfold merge
  simp only [hnil, hsingle]
  split
  · exact ⟨List.Perm.refl _, fun _ _ _ => rfl, rfl⟩
  split
  · exact Unify.alike_mergeSingle_perm name anchor diagnostics (h.flatMap_right _)
  · exact Unify.alike_mergeGeneral_perm name anchor diagnostics h

/-- Three alternatives of a declaration: a name and a kind, the same two the other way round, and
neither of them. -/
def Phrase.declarations : List Phrase :=
  [⟨[.ofTypes (some "name") (.single "Id") false, .ofTypes (some "kind") (.single "Word") false]⟩,
    ⟨[.ofTypes (some "kind") (.single "Word") false, .ofTypes (some "name") (.single "Id") false]⟩,
    ⟨[.unnamed "Rest"]⟩]

/-- These alternatives disagree on the order of names, from behind as from the front, and have the
same fields both times. -/
theorem Merged.alike_merge_of_perm_declarations :
    Phrase.declarations.Perm Phrase.declarations.reverse ∧
      (merge "Decl" Phrase.declarations ⟨4, 9, by decide⟩ ∅).phrase.toText =
        "name=Id? kind=Word? Rest?" ∧
      (merge "Decl" Phrase.declarations.reverse ⟨4, 9, by decide⟩ ∅).phrase.toText =
        "Rest? kind=Word? name=Id?" ∧
      (merge "Decl" Phrase.declarations ⟨4, 9, by decide⟩ ∅).diagnostics.kinds =
        [.inconsistentFieldOrder] ∧
      (merge "Decl" Phrase.declarations ⟨4, 9, by decide⟩ ∅).Alike
        (merge "Decl" Phrase.declarations.reverse ⟨4, 9, by decide⟩ ∅) := by
  have h : Phrase.declarations.Perm Phrase.declarations.reverse := (List.reverse_perm _).symm
  exact ⟨h, by decide +kernel, by decide +kernel, by decide +kernel,
    Merged.alike_merge_of_perm _ _ _ h⟩

end ScanSchema
