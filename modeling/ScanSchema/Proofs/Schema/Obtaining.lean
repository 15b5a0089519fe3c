import Mathlib.Data.Set.List
import ScanSchema.Proofs.Schema.KeptPhrases

/-!
# Fields that can be obtained

A kept field is obtained by making it of types, by the operations that replace a part of it, by merging,
and by joining and merging phrases, in any composition. Each of these does to kept fields what it does to
fields. So every field that can be obtained is kept for some field, and its signature still belongs to its
types and its name. Where such fields are merged, there are types to make a field of.
-/

namespace ScanSchema

namespace StoredField

section Obtaining

/-- Fields that come of making, replacing parts, merging, and joining and merging phrases, in any
composition. -/
inductive Obtainable : StoredField → Prop
  | ofList {name : Option String} {types : List String} {isMergeable : Bool} {field : StoredField}
      (hfield : ofList name types isMergeable = .ok field) : Obtainable field
  | unnamed {type : String} {field : StoredField} (hfield : unnamed type = .ok field) :
      Obtainable field
  | named {name : String} {types : List String} {field : StoredField}
      (hfield : named name types = .ok field) : Obtainable field
  | withMapping {field : StoredField} (mapping : Mapping) (h : Obtainable field) :
      Obtainable (field.withMapping mapping)
  | makeNullable {field : StoredField} (h : Obtainable field) : Obtainable field.makeNullable
  | makeList {field : StoredField} (h : Obtainable field) : Obtainable field.makeList
  | merged {name : Option String} {fields : List StoredField} {field : StoredField}
      (h : ∀ occurrence ∈ fields, Obtainable occurrence)
      (hfield : merge? name fields = .ok (some field)) : Obtainable field
  | joined {anchor : Span} {diagnostics : Diagnostics} {phrases : List (List StoredField)}
      {field : StoredField} (h : ∀ phrase ∈ phrases, ∀ part ∈ phrase, Obtainable part)
      (hfield : field ∈ (concat anchor diagnostics phrases).1) : Obtainable field
  | unified {anchor : Span} {diagnostics : Diagnostics} {name : String}
      {phrases : List (List StoredField)} {answer : Answer} {field : StoredField}
      (h : ∀ phrase ∈ phrases, ∀ part ∈ phrase, Obtainable part)
      (hanswer : merge anchor diagnostics name phrases = .ok answer) (hfield : field ∈ answer.1) :
      Obtainable field

variable {field : StoredField} {fields : List StoredField} {phrases : List (List StoredField)}

/-- Fields that are kept of some field each are kept of a list of fields. -/
theorem exists_map_stored (h : ∀ field ∈ fields, ∃ original : Field, original.stored = field) :
    ∃ originals : List Field, originals.map Field.stored = fields :=
  (Set.range_list_map Field.stored).ge h

/-- Phrases of such fields are kept of phrases. -/
theorem exists_map_phrase_stored
    (h : ∀ phrase ∈ phrases, ∀ field ∈ phrase, ∃ original : Field, original.stored = field) :
    ∃ originals : List Phrase, originals.map Phrase.stored = phrases := by
  refine (Set.range_list_map Phrase.stored).ge fun phrase hphrase => ?_
  obtain ⟨originals, rfl⟩ := exists_map_stored (h phrase hphrase)
  exact ⟨⟨originals⟩, rfl⟩

/-- A field that is made of types is kept of the field of these types. -/
theorem exists_stored_of_ofList {name : Option String} {types : List String} {isMergeable : Bool}
    (h : ofList name types isMergeable = .ok field) :
    ∃ original : Field, original.stored = field := by
  rw [ofList_eq] at h
  cases hmade : Field.ofList name types isMergeable with
  | error misuse =>
    rw [hmade] at h
    cases h
  | ok original =>
    rw [hmade] at h
    exact ⟨original, Except.ok.inj h⟩

/-- Every field that can be obtained is kept for some field. -/
theorem exists_stored_of_obtainable (h : Obtainable field) :
    ∃ original : Field, original.stored = field := by
  induction h with
  | ofList hfield => exact exists_stored_of_ofList hfield
  | unnamed hfield => exact exists_stored_of_ofList hfield
  | named hfield => exact exists_stored_of_ofList hfield
  | withMapping mapping _ ih =>
    obtain ⟨original, rfl⟩ := ih
    exact ⟨original.withMapping mapping, rfl⟩
  | makeNullable _ ih =>
    obtain ⟨original, rfl⟩ := ih
    exact ⟨original.makeNullable, rfl⟩
  | makeList _ ih =>
    obtain ⟨original, rfl⟩ := ih
    exact ⟨original.makeList, rfl⟩
  | merged _ hfield ih =>
    obtain ⟨originals, rfl⟩ := exists_map_stored ih
    rw [merge?_map_stored] at hfield
    obtain ⟨original, -, hstored⟩ := Option.map_eq_some_iff.mp (Except.ok.inj hfield)
    exact ⟨original, hstored⟩
  | joined _ hfield ih =>
    obtain ⟨originals, rfl⟩ := exists_map_phrase_stored ih
    rw [concat_map_stored] at hfield
    obtain ⟨original, -, hstored⟩ := List.mem_map.mp hfield
    exact ⟨original, hstored⟩
  | unified _ hanswer hfield ih =>
    obtain ⟨originals, rfl⟩ := exists_map_phrase_stored ih
    rw [merge_map_stored] at hanswer
    rw [← Except.ok.inj hanswer] at hfield
    obtain ⟨original, -, hstored⟩ := List.mem_map.mp hfield
    exact ⟨original, hstored⟩

/-- A field without a given name can be obtained under any derived name: it is made and then merged
alone. -/
theorem obtainable_of_derived (name : String) (types : TypeSet) (isMergeable : Bool) :
    Obtainable (Field.stored ⟨name, false, types, isMergeable, false, false, none⟩) := by
  have hmade : Obtainable (Field.ofTypes none types isMergeable).stored :=
    .ofList (ofList_of_sortedApart_eq (sortedApart_names types) none isMergeable)
  have hmerged : merge? (some name) [(Field.ofTypes none types isMergeable).stored] =
      .ok (some (Field.stored ⟨name, false, types, isMergeable, false, false, none⟩)) := by
    cases isMergeable with
    | true => exact merge?_map_stored (some name) [Field.ofTypes none types true]
    | false => exact merge?_map_stored (some name) [Field.ofTypes none types false]
  refine .merged (fun occurrence hoccurrence => ?_) hmerged
  rw [List.mem_singleton.mp hoccurrence]
  exact hmade

/-- Every field that is kept can be obtained: one without flags and mapping can, and it is then
completed. -/
theorem obtainable_stored (original : Field) : Obtainable original.stored := by
  obtain ⟨name, isNamed, types, isMergeable, isNullable, isList, mapping⟩ := original
  have hplain : Obtainable
      (Field.stored ⟨name, isNamed, types, isMergeable, false, false, none⟩) := by
    cases isNamed with
    | true =>
      exact .ofList (ofList_of_sortedApart_eq (sortedApart_names types) (some name) isMergeable)
    | false => exact obtainable_of_derived name types isMergeable
  have hnullable : Obtainable
      (Field.stored ⟨name, isNamed, types, isMergeable, isNullable, false, none⟩) := by
    cases isNullable with
    | true => exact hplain.makeNullable
    | false => exact hplain
  have hlist : Obtainable
      (Field.stored ⟨name, isNamed, types, isMergeable, isNullable, isList, none⟩) := by
    cases isList with
    | true => exact hnullable.makeList
    | false => exact hnullable
  cases mapping with
  | none => exact hlist
  | some mapping => exact hlist.withMapping mapping

/-- The fields that can be obtained are just the well-formed ones. -/
theorem obtainable_iff_wellFormed : Obtainable field ↔ field.WellFormed := by
  rw [wellFormed_iff]
  refine ⟨exists_stored_of_obtainable, ?_⟩
  rintro ⟨original, rfl⟩
  exact obtainable_stored original

/-- Fields that can be obtained have types, in ascending order without repeats, and the signature of their
given name and types. So merging them does not fail for want of types, but answers as merging does for the
fields that they are kept for. -/
theorem wellFormed_of_obtainable (name : Option String) (h : ∀ field ∈ fields, Obtainable field) :
    (∀ field ∈ fields, field.types ≠ [] ∧ field.types.Pairwise (· < ·) ∧
      field.signature = signatureOf field.givenName? field.types) ∧
      ∃ originals : List Field, originals.map Field.stored = fields ∧
        merge? name fields = .ok ((Field.merge? name originals).map Field.stored) := by
  constructor
  · intro field hfield
    have hformed := obtainable_iff_wellFormed.mp (h field hfield)
    exact ⟨hformed.types_ne_nil, hformed.ascending, hformed.signature_eq⟩
  · obtain ⟨originals, rfl⟩ :=
      exists_map_stored fun field hfield => exists_stored_of_obtainable (h field hfield)
    exact ⟨originals, rfl, merge?_map_stored name originals⟩

/-- The body of a loop, which is an expression or a statement. -/
def loopBody : StoredField :=
  ⟨"body", true, ["Expr", "Stmt"], false, false, false, none, ⟨"body=Expr|Stmt"⟩⟩

/-- A body that is a block and may be missing. -/
def blockBody : StoredField := ⟨"body", true, ["Block"], false, true, false, none, ⟨"body=Block"⟩⟩

/-- Both bodies can be obtained, and so can what they are joined to. Its fields are merged to one of three
types. -/
theorem wellFormed_of_obtainable_bodies :
    (∀ field ∈ (concat default ∅ [[loopBody], [blockBody]]).1, Obtainable field) ∧
      (∀ field ∈ (concat default ∅ [[loopBody], [blockBody]]).1,
        field.types ≠ [] ∧ field.types.Pairwise (· < ·) ∧
          field.signature = signatureOf field.givenName? field.types) ∧
      (concat default ∅ [[loopBody], [blockBody]]).1 = [loopBody, blockBody] ∧
      merge? none [loopBody, blockBody] = .ok (some
        ⟨"body", true, ["Block", "Expr", "Stmt"], false, true, false, none,
          ⟨"body=Block|Expr|Stmt"⟩⟩) := by
  have hloop : named "body" ["Stmt", "Expr", "Stmt"] = .ok loopBody := by
    rw [named, ofList_eq]
    decide
  have hblock : named "body" ["Block"] = .ok { blockBody with isNullable := false } := by
    rw [named, ofList_eq]
    decide
  have hfirst : ∀ part ∈ [loopBody], Obtainable part :=
    List.forall_mem_singleton.mpr (.named hloop)
  have hsecond : ∀ part ∈ [blockBody], Obtainable part :=
    List.forall_mem_singleton.mpr (Obtainable.named hblock).makeNullable
  have hparts : ∀ phrase ∈ [[loopBody], [blockBody]], ∀ part ∈ phrase, Obtainable part :=
    List.forall_mem_cons.mpr ⟨hfirst, List.forall_mem_singleton.mpr hsecond⟩
  have hjoined : ∀ field ∈ (concat default ∅ [[loopBody], [blockBody]]).1, Obtainable field :=
    fun _ hfield => .joined hparts hfield
  refine ⟨hjoined, (wellFormed_of_obtainable none hjoined).1, by decide, ?_⟩
  have hmerged := merge?_map_stored none
    [⟨"body", true, ⟨["Expr", "Stmt"], by decide, by decide⟩, false, false, false, none⟩,
      ⟨"body", true, ⟨["Block"], by decide, by decide⟩, false, true, false, none⟩]
  exact hmerged

/-- Without types, a field is not merged. -/
example : merge? none [{ blockBody with types := [] }] = .error .fieldWithoutTypes := by
  decide +kernel

end Obtaining

end StoredField

end ScanSchema
