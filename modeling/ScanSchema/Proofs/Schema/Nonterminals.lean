import Mathlib.Data.List.Infix
import ScanSchema.Proofs.Schema.Alternatives
import ScanSchema.Proofs.Schema.KeptPhrases

/-!
# Nonterminals without schemas

A nonterminal has a schema unless one of its fields has no types or a part of its rule has no span, and
the first of these decides. A list of nonterminals has schemas, one for each and in their order, unless
one of them has none; the first such one is named. Parts of a rule can only lack a span if offsets cannot
count the bytes of the rule.

Nothing else goes wrong. Two more operations are promised something: a field is made of at least one type,
and the first field is taken of a phrase that has one. `Checked` is unification with every promise looked
at where the operation is called, for fields with plain lists of types. It is shown to be unification as it
is: fields without types are refused before a field is made of them, the types of occurrences that are
merged are there because each occurrence has some, and the first field is only taken of phrases of one
field.
-/

namespace ScanSchema

open Schema (Joins Joining leftHandSide rightHandSide pieceSpan? textInFront alternativeText)

/-- A schema as it is kept. -/
structure StoredSchema where
  /-- The name of the nonterminal. -/
  name : String
  /-- Its fields. -/
  fields : List StoredField
  /-- The nonterminal written out as a rule. -/
  rule : String
  /-- What is wrong with the nonterminal. -/
  diagnostics : Diagnostics
  deriving DecidableEq, Repr

/-- The schema as it is kept. -/
def Schema.stored (schema : Schema) : StoredSchema where
  name := schema.name
  fields := schema.phrase.stored
  rule := schema.rule
  diagnostics := schema.diagnostics

namespace Checked

/-- The field that a specification describes; one without types is refused. -/
def field (nonterminal : String) (spec : FieldSpec) : Except Setback StoredField :=
  if spec.types = [] then .error (.refused ⟨nonterminal⟩)
  else do
    let made ← (StoredField.ofList spec.name spec.types
      (spec.isMergeable.getD spec.name.isNone)).mapError Setback.misused
    let flagged := if spec.isNullable then made.makeNullable else made
    let listed := if spec.isList then flagged.makeList else flagged
    return (spec.mapping.map listed.withMapping).getD listed

/-- The text of an alternative: its fields with blanks between them. -/
def alternativeText (fields : List StoredField) : String :=
  " ".intercalate (fields.map StoredField.toText)

/-- The right-hand side of a rule. -/
def rightHandSide (alternatives : List (List StoredField)) : String :=
  Schema.separator.intercalate (alternatives.map alternativeText)

/-- Concatenate alternatives in turn, the first of which stands at byte `offset` of the rule. -/
def concatAll (nonterminal : String) (offset : Nat) (diagnostics : Diagnostics) :
    List (List FieldSpec) →
      Except Setback (List (List StoredField) × List (List StoredField) × Diagnostics)
  | [] => .ok ([], [], diagnostics)
  | specs :: rest => do
    let fields ← specs.mapM (field nonterminal)
    let stop := offset + (alternativeText fields).utf8ByteSize
    let anchor ← Schema.spanBetween offset stop
    let (phrase, found) := StoredField.concat anchor diagnostics (fields.map fun field => [field])
    let (alternatives, phrases, all) ←
      concatAll nonterminal (stop + Schema.separator.utf8ByteSize) found rest
    return (fields :: alternatives, phrase :: phrases, all)

/-- The schema of a nonterminal. -/
def schema (nonterminal : Nonterminal) : Except Setback StoredSchema := do
  let left := leftHandSide nonterminal.name
  let (alternatives, phrases, found) ←
    concatAll nonterminal.name left.utf8ByteSize ∅ nonterminal.alternatives
  let right := rightHandSide alternatives
  let anchor ← Schema.spanBetween left.utf8ByteSize (left.utf8ByteSize + right.utf8ByteSize)
  let (fields, diagnostics, _) ←
    (StoredField.merge anchor found nonterminal.name phrases).mapError Setback.misused
  return { name := nonterminal.name, fields, rule := left ++ right, diagnostics }

/-- The schemas of some nonterminals. -/
def schemas (nonterminals : List Nonterminal) : Except Setback (List StoredSchema) :=
  nonterminals.mapM schema

section Keeping

/-- A field is kept as it is specified; without types, it is refused. -/
theorem field_eq (nonterminal : String) (spec : FieldSpec) :
    field nonterminal spec =
      (spec.toField?.elim (Except.error (Setback.refused ⟨nonterminal⟩)) Except.ok).map Field.stored := by
  unfold field FieldSpec.toField?
  split
  next hnil => rw [TypeSet.ofList?_eq_none_iff.mpr hnil, Option.map_none, Option.elim_none]; rfl
  next hne =>
    obtain ⟨types, htypes⟩ := Option.ne_none_iff_exists'.mp (mt TypeSet.ofList?_eq_none_iff.mp hne)
    rw [StoredField.ofList_eq, Field.ofList, htypes]
    obtain ⟨_, _, _, isNullable, isList, mapping⟩ := spec
    cases isNullable <;> cases isList <;> cases mapping <;> rfl

/-- The fields of an alternative are kept as they are made. -/
theorem mapM_field_eq (nonterminal : String) (specs : List FieldSpec) :
    specs.mapM (field nonterminal) =
      (Schema.fieldsOf nonterminal specs).map (List.map Field.stored) := by
  rw [funext (field_eq nonterminal), mapM_map_values, mapM_elim, Schema.fieldsOf, FieldSpec.toFields?]
  cases specs.mapM FieldSpec.toField? with
  | none => rfl
  | some fields => rfl

/-- Fields are written as they are kept. -/
theorem alternativeText_map_stored (fields : List Field) :
    alternativeText (fields.map Field.stored) = Schema.alternativeText fields :=
  congrArg _ (StoredField.map_toText_stored ⟨fields⟩)

/-- Alternatives are written as they are kept. -/
theorem rightHandSide_map_stored (alternatives : List (List Field)) :
    rightHandSide (alternatives.map (List.map Field.stored)) = Schema.rightHandSide alternatives := by
  rw [rightHandSide, List.map_map, Schema.rightHandSide]
  exact congrArg _ (List.map_congr_left fun fields _ => alternativeText_map_stored fields)

/-- Kept alternatives are joined to what is kept of the joined ones. -/
theorem concatAll_eq (nonterminal : String) (offset : Nat) (diagnostics : Diagnostics)
    (specs : List (List FieldSpec)) :
    concatAll nonterminal offset diagnostics specs =
      (Schema.concatAll nonterminal offset diagnostics specs).map fun (alternatives, phrases, all) =>
        (alternatives.map (List.map Field.stored), phrases.map Phrase.stored, all) := by
  induction specs generalizing offset diagnostics with
  | nil => rfl
  | cons specs rest ih =>
    rw [concatAll, Schema.concatAll, mapM_field_eq]
    cases Schema.fieldsOf nonterminal specs with
    | error setback => rfl
    | ok fields =>
      have hsymbols : (fields.map Field.stored).map (fun field => [field]) =
          (fields.map fun field => (⟨[field]⟩ : Phrase)).map Phrase.stored := by
        rw [List.map_map, List.map_map]
        rfl
      simp only [Except.map, bind, Except.bind, alternativeText_map_stored, hsymbols,
        StoredField.concat_map_stored, ih]
      cases Schema.spanBetween offset (offset + (Schema.alternativeText fields).utf8ByteSize) with
      | error setback => rfl
      | ok anchor =>
        dsimp only
        cases Schema.concatAll nonterminal _ _ rest with
        | error setback => rfl
        | ok all => rfl

/-- The schema of a nonterminal is kept as it is found. -/
theorem schema_eq (nonterminal : Nonterminal) :
    schema nonterminal = (Schema.ofNonterminal nonterminal).map Schema.stored := by
  unfold schema Schema.ofNonterminal
  simp only [concatAll_eq]
  cases Schema.concatAll nonterminal.name _ ∅ nonterminal.alternatives with
  | error setback => rfl
  | ok all =>
    obtain ⟨alternatives, phrases, found⟩ := all
    simp only [Except.map, bind, Except.bind, rightHandSide_map_stored,
      StoredField.merge_map_stored]
    cases Schema.spanBetween _ _ with
    | error setback => rfl
    | ok anchor => rfl

/-- Every promise but that of spans is kept, so unification comes to the same without looking. -/
theorem schemas_eq (nonterminals : List Nonterminal) :
    schemas nonterminals = (Schema.ofNonterminals nonterminals).map (List.map Schema.stored) := by
  rw [schemas, funext schema_eq, mapM_map_values, Schema.ofNonterminals]

end Keeping

end Checked

namespace Nonterminal

/-- Some field of the nonterminal has no types. -/
def LacksTypes (nonterminal : Nonterminal) : Prop :=
  ∃ specs ∈ nonterminal.alternatives, ∃ spec ∈ specs, spec.types = []

/-- Offsets can count the bytes of the rule, up to any alternative, as far as fields have types. -/
def Short (nonterminal : Nonterminal) : Prop :=
  ∀ front ∈ nonterminal.alternatives.inits, ∀ alternatives ∈ front.mapM FieldSpec.toFields?,
    (leftHandSide nonterminal.name ++ rightHandSide alternatives).utf8ByteSize < Span.offsetLimit

/-- All fields of the nonterminal have types, and there is a span for each alternative and one for the
whole right-hand side. -/
def Fits (nonterminal : Nonterminal) : Prop :=
  ∃ alternatives anchors anchor,
    Joins (leftHandSide nonterminal.name) nonterminal.alternatives alternatives anchors ∧
      pieceSpan? (leftHandSide nonterminal.name) (rightHandSide alternatives) = some anchor

/-- What a nonterminal without a schema fails by. Alternatives in front of the one where it fails have
types and spans. -/
inductive Fails (nonterminal : Nonterminal) : Setback → Prop
  /-- A field of an alternative has no types. -/
  | lacksTypes {earlier later : List (List FieldSpec)} {lacking : List FieldSpec}
      {alternatives : List (List Field)} {anchors : List Span}
      (parts : nonterminal.alternatives = earlier ++ lacking :: later)
      (joins : Joins (leftHandSide nonterminal.name) earlier alternatives anchors)
      (lacks : ∃ spec ∈ lacking, spec.types = []) : Fails nonterminal (.refused ⟨nonterminal.name⟩)
  /-- The words for the ends of an alternative are the wrong way round. -/
  | reversed {earlier later : List (List FieldSpec)} {long : List FieldSpec} {fields : List Field}
      {alternatives : List (List Field)} {anchors : List Span}
      (parts : nonterminal.alternatives = earlier ++ long :: later)
      (joins : Joins (leftHandSide nonterminal.name) earlier alternatives anchors)
      (typed : FieldSpec.toFields? long = some fields)
      (reversed : pieceSpan? (leftHandSide nonterminal.name ++ textInFront alternatives)
        (alternativeText fields) = none) : Fails nonterminal (.misused .reversedSpan)
  /-- The words for the ends of the right-hand side are the wrong way round. -/
  | reversedRight {alternatives : List (List Field)} {anchors : List Span}
      (joins : Joins (leftHandSide nonterminal.name) nonterminal.alternatives alternatives anchors)
      (reversed : pieceSpan? (leftHandSide nonterminal.name) (rightHandSide alternatives) = none) :
      Fails nonterminal (.misused .reversedSpan)

end Nonterminal

namespace FieldSpec

/-- An alternative has no fields exactly if one of them lacks types. -/
theorem toFields?_eq_none_iff {specs : List FieldSpec} :
    toFields? specs = none ↔ ∃ spec ∈ specs, spec.types = [] := by
  simp only [toFields?, mapM_eq_none_iff, toField?, Option.map_eq_none_iff,
    TypeSet.ofList?_eq_none_iff]

end FieldSpec

namespace Nonterminal

variable {nonterminal : Nonterminal} {setback : Setback}

/-- The alternatives of a nonterminal have fields exactly if no field lacks types. -/
theorem mapM_toFields?_eq_none_iff :
    nonterminal.alternatives.mapM FieldSpec.toFields? = none ↔ nonterminal.LacksTypes := by
  simp only [mapM_eq_none_iff, FieldSpec.toFields?_eq_none_iff, LacksTypes]

/-- No field lacks types in a nonterminal that fits. -/
theorem Fits.not_lacksTypes (h : nonterminal.Fits) : ¬ nonterminal.LacksTypes := by
  obtain ⟨alternatives, anchors, anchor, joins, -⟩ := h
  rw [← mapM_toFields?_eq_none_iff, joins.fields_eq]
  exact Option.some_ne_none alternatives

/-- A nonterminal lacks types if one of its alternatives does. -/
theorem lacksTypes_of_parts {earlier later : List (List FieldSpec)} {lacking : List FieldSpec}
    (parts : nonterminal.alternatives = earlier ++ lacking :: later)
    (lacks : ∃ spec ∈ lacking, spec.types = []) : nonterminal.LacksTypes := by
  refine ⟨lacking, ?_, lacks⟩
  rw [parts]
  exact List.mem_append_right earlier List.mem_cons_self

/-- A nonterminal whose rule is short fails by a field that lacks types. -/
theorem Fails.refused_of_short (h : nonterminal.Fails setback) (hshort : nonterminal.Short) :
    setback = .refused ⟨nonterminal.name⟩ ∧ nonterminal.LacksTypes := by
  cases h with
  | lacksTypes parts _ lacks => exact ⟨rfl, lacksTypes_of_parts parts lacks⟩
  | @reversed earlier later long fields alternatives _ parts joins typed reversed =>
    -- The rule is written up to the end of the alternative, and is too long there.
    have hprefix : earlier ++ [long] <+: nonterminal.alternatives :=
      ⟨later, by rw [parts, List.append_assoc, List.singleton_append]⟩
    have htyped : (earlier ++ [long]).mapM FieldSpec.toFields? = some (alternatives ++ [fields]) := by
      rw [List.mapM_append, joins.fields_eq, List.mapM_cons, typed]
      rfl
    have hlast : (alternatives ++ [fields])[alternatives.length]? = some fields :=
      List.getElem?_concat_length
    obtain ⟨back, hback⟩ := Schema.exists_rightHandSide_eq hlast
    have hlimit := hshort _ ((List.mem_inits _ _).mpr hprefix) _ htyped
    have hlong := Schema.offsetLimit_le_of_pieceSpan? reversed
    rw [hback, List.take_left] at hlimit
    simp only [String.utf8ByteSize_append] at hlimit hlong
    omega
  | @reversedRight alternatives _ joins reversed =>
    have hlimit := hshort _ ((List.mem_inits _ _).mpr List.prefix_rfl) _ joins.fields_eq
    have hlong := Schema.offsetLimit_le_of_pieceSpan? reversed
    omega

end Nonterminal

namespace Schema

variable {nonterminal : Nonterminal}

/-- The schema of a nonterminal whose alternatives have the spans `anchors` in the rule, and whose
right-hand side has the span `anchor`. -/
def unified (name : String) (alternatives : List (List Field)) (anchors : List Span) (anchor : Span) :
    Schema :=
  let found := List.zipWith Unify.concatFindings anchors alternatives
  let merged := merge name (alternatives.map Unify.joined) anchor
    (Diagnostics.reportAll ∅ found.flatten)
  { name, phrase := merged.phrase, rule := leftHandSide name ++ rightHandSide alternatives,
    diagnostics := merged.diagnostics }

/-- A nonterminal is unified, or it fails. -/
theorem ofNonterminal_cases (nonterminal : Nonterminal) :
    (∃ alternatives anchors anchor,
      ofNonterminal nonterminal = .ok (unified nonterminal.name alternatives anchors anchor) ∧
        Joins (leftHandSide nonterminal.name) nonterminal.alternatives alternatives anchors ∧
        pieceSpan? (leftHandSide nonterminal.name) (rightHandSide alternatives) = some anchor) ∨
    ∃ setback, ofNonterminal nonterminal = .error setback ∧ nonterminal.Fails setback := by
  have hjoining := joining_concatAll nonterminal.name (leftHandSide nonterminal.name) ∅
    nonterminal.alternatives
  unfold ofNonterminal
  dsimp only
  generalize concatAll nonterminal.name _ ∅ nonterminal.alternatives = result at hjoining ⊢
  cases hjoining with
  | @joined alternatives anchors joins =>
    simp only [bind, Except.bind, spanBetween_eq]
    cases hspan : pieceSpan? (leftHandSide nonterminal.name) (rightHandSide alternatives) with
    | none => exact .inr ⟨_, rfl, .reversedRight joins hspan⟩
    | some anchor => exact .inl ⟨alternatives, anchors, anchor, rfl, joins, hspan⟩
  | refused parts joins lacks =>
    exact .inr ⟨_, rfl, .lacksTypes parts joins (FieldSpec.toFields?_eq_none_iff.mp lacks)⟩
  | reversed parts joins typed reversed =>
    exact .inr ⟨_, rfl, .reversed parts joins typed reversed⟩

/-- A nonterminal with a schema has types and spans, and the schema is made of them. -/
theorem exists_of_ofNonterminal {schema : Schema} (h : ofNonterminal nonterminal = .ok schema) :
    ∃ alternatives anchors anchor,
      schema = unified nonterminal.name alternatives anchors anchor ∧
        Joins (leftHandSide nonterminal.name) nonterminal.alternatives alternatives anchors ∧
        pieceSpan? (leftHandSide nonterminal.name) (rightHandSide alternatives) = some anchor := by
  obtain ⟨alternatives, anchors, anchor, hschema, hjoins⟩ | ⟨setback, hsetback, -⟩ :=
    ofNonterminal_cases nonterminal
  · cases hschema.symm.trans h
    exact ⟨alternatives, anchors, anchor, rfl, hjoins⟩
  · cases hsetback.symm.trans h

/-- A nonterminal with a schema fits, and the schema has its name. -/
theorem fits_of_ofNonterminal {schema : Schema} (h : ofNonterminal nonterminal = .ok schema) :
    nonterminal.Fits ∧ schema.name = nonterminal.name := by
  obtain ⟨alternatives, anchors, anchor, rfl, hfits⟩ := exists_of_ofNonterminal h
  exact ⟨⟨alternatives, anchors, anchor, hfits⟩, rfl⟩

/-- How the schemas of some nonterminals come out. -/
inductive Outcome (nonterminals : List Nonterminal) : Except Setback (List Schema) → Prop
  /-- Every nonterminal fits and has its schema. -/
  | unified {schemas : List Schema} (fits : ∀ nonterminal ∈ nonterminals, nonterminal.Fits)
      (each : List.Forall₂ (fun nonterminal schema => ofNonterminal nonterminal = .ok schema ∧
        schema.name = nonterminal.name) nonterminals schemas) : Outcome nonterminals (.ok schemas)
  /-- The first nonterminal that does not fit fails. -/
  | stopped {earlier later : List Nonterminal} {nonterminal : Nonterminal} {setback : Setback}
      (parts : nonterminals = earlier ++ nonterminal :: later)
      (fits : ∀ other ∈ earlier, other.Fits) (fails : nonterminal.Fails setback) :
      Outcome nonterminals (.error setback)

/-- Nonterminals come out in one of these ways. -/
theorem outcome_ofNonterminals (nonterminals : List Nonterminal) :
    Outcome nonterminals (ofNonterminals nonterminals) := by
  cases hresult : ofNonterminals nonterminals with
  | ok schemas =>
    have heach := forall₂_of_mapM_eq_ok hresult
    refine .unified (fun nonterminal hmem => ?_) (heach.imp fun nonterminal schema hschema =>
      ⟨hschema, (fits_of_ofNonterminal hschema).2⟩)
    obtain ⟨schema, hschema⟩ := exists_of_forall₂ heach nonterminal hmem
    exact (fits_of_ofNonterminal hschema).1
  | error setback =>
    obtain ⟨earlier, nonterminal, later, hparts, hearlier, hstop⟩ := exists_of_mapM_eq_error hresult
    refine .stopped hparts (fun other hother => ?_) ?_
    · obtain ⟨schema, hschema⟩ := hearlier other hother
      exact (fits_of_ofNonterminal hschema).1
    · obtain ⟨_, _, _, hschema, -⟩ | ⟨found, hfound, hfails⟩ := ofNonterminal_cases nonterminal
      · cases hschema.symm.trans hstop
      · cases hfound.symm.trans hstop
        exact hfails

/-- A misuse that ends unification is a span whose ends are the wrong way round. -/
theorem eq_reversedSpan_of_ofNonterminals {nonterminals : List Nonterminal} {misuse : Misuse}
    (h : ofNonterminals nonterminals = .error (.misused misuse)) : misuse = .reversedSpan := by
  have houtcome := outcome_ofNonterminals nonterminals
  rw [h] at houtcome
  cases houtcome with
  | stopped _ _ fails =>
    cases fails with
    | reversed => rfl
    | reversedRight => rfl

/-- If all rules are short, nonterminals are only refused, and only for fields that lack types. -/
theorem refused_iff_of_short {nonterminals : List Nonterminal}
    (hshort : ∀ nonterminal ∈ nonterminals, nonterminal.Short) :
    (∀ misuse, ofNonterminals nonterminals ≠ .error (.misused misuse)) ∧
      ((∃ error, ofNonterminals nonterminals = .error (.refused error)) ↔
        ∃ nonterminal ∈ nonterminals, nonterminal.LacksTypes) := by
  have houtcome := outcome_ofNonterminals nonterminals
  generalize ofNonterminals nonterminals = result at houtcome ⊢
  cases houtcome with
  | unified fits _ =>
    refine ⟨fun _ h => (nomatch h), iff_of_false (fun ⟨_, h⟩ => (nomatch h)) ?_⟩
    rintro ⟨nonterminal, hmem, hlacks⟩
    exact (fits nonterminal hmem).not_lacksTypes hlacks
  | @stopped earlier later nonterminal setback parts _ fails =>
    have hmem : nonterminal ∈ nonterminals := by
      rw [parts]
      exact List.mem_append_right earlier List.mem_cons_self
    obtain ⟨rfl, hlacks⟩ := fails.refused_of_short (hshort nonterminal hmem)
    exact ⟨fun _ h => (nomatch h), iff_of_true ⟨_, rfl⟩ ⟨nonterminal, hmem, hlacks⟩⟩

/-- If nonterminals are refused, the first one with a field that lacks types is named. -/
theorem exists_first_of_refused {nonterminals : List Nonterminal} {error : EmptyTypes}
    (h : ofNonterminals nonterminals = .error (.refused error)) :
    ∃ earlier nonterminal later, nonterminals = earlier ++ nonterminal :: later ∧
      (∀ other ∈ earlier, ¬ other.LacksTypes) ∧ nonterminal.LacksTypes ∧
        error = ⟨nonterminal.name⟩ := by
  have houtcome := outcome_ofNonterminals nonterminals
  rw [h] at houtcome
  cases houtcome with
  | @stopped earlier later nonterminal _ parts fits fails =>
    have hearlier : ∀ other ∈ earlier, ¬ other.LacksTypes := fun other hother =>
      (fits other hother).not_lacksTypes
    cases fails with
    | lacksTypes inside _ lacks =>
      exact ⟨earlier, nonterminal, later, parts, hearlier,
        Nonterminal.lacksTypes_of_parts inside lacks, rfl⟩

/-- Nonterminals have schemas, one for each and under its name, unless one of them fails, and the first
one to fail decides how: by a field that lacks types, or by a span whose ends are the wrong way round. If
it is by the types, no nonterminal in front of it lacks any. If all rules are short, it is by the types,
and that is so whenever a field lacks them. No other promise is ever broken. -/
theorem ofNonterminals_refuses (nonterminals : List Nonterminal) :
    Outcome nonterminals (ofNonterminals nonterminals) ∧
      (∀ error, ofNonterminals nonterminals = .error (.refused error) →
        ∃ earlier nonterminal later, nonterminals = earlier ++ nonterminal :: later ∧
          (∀ other ∈ earlier, ¬ other.LacksTypes) ∧ nonterminal.LacksTypes ∧
            error = ⟨nonterminal.name⟩) ∧
      ((∀ nonterminal ∈ nonterminals, nonterminal.Short) →
        (∀ misuse, ofNonterminals nonterminals ≠ .error (.misused misuse)) ∧
          ((∃ error, ofNonterminals nonterminals = .error (.refused error)) ↔
            ∃ nonterminal ∈ nonterminals, nonterminal.LacksTypes)) ∧
      Checked.schemas nonterminals = (ofNonterminals nonterminals).map (List.map Schema.stored) ∧
      ∀ misuse, Checked.schemas nonterminals = .error (.misused misuse) → misuse = .reversedSpan := by
  refine ⟨outcome_ofNonterminals nonterminals, fun _ => exists_first_of_refused, refused_iff_of_short,
    Checked.schemas_eq nonterminals, fun misuse hmisuse => ?_⟩
  rw [Checked.schemas_eq] at hmisuse
  cases hresult : ofNonterminals nonterminals with
  | ok schemas =>
    rw [hresult] at hmisuse
    cases hmisuse
  | error setback =>
    rw [hresult] at hmisuse
    cases hmisuse
    exact eq_reversedSpan_of_ofNonterminals hresult

/-- A sum of numbers, and a list without types for what it holds. -/
def sumAndList : List Nonterminal :=
  [⟨"Sum", [[{ types := ["Number"] }, { types := ["Sum"] }], [{ types := ["Number"] }]]⟩,
    ⟨"List", [[], [{ types := ["List"] }, { types := [] }]]⟩]

/-- Both rules are short, and the list is refused. -/
theorem ofNonterminals_refuses_list :
    (∀ nonterminal ∈ sumAndList, nonterminal.Short) ∧
      Outcome sumAndList (.error (.refused ⟨"List"⟩)) ∧
      ofNonterminals sumAndList = .error (.refused ⟨"List"⟩) ∧
      ∃ nonterminal ∈ sumAndList, nonterminal.LacksTypes := by
  have hshort : ∀ nonterminal ∈ sumAndList, nonterminal.Short := by
    unfold Nonterminal.Short
    decide +kernel
  have hresult : ofNonterminals sumAndList = .error (.refused ⟨"List"⟩) := by decide +kernel
  obtain ⟨houtcome, -, hrefused, -⟩ := ofNonterminals_refuses sumAndList
  rw [hresult] at houtcome
  exact ⟨hshort, houtcome, hresult, (hrefused hshort).2.mp ⟨_, hresult⟩⟩

/-- A nonterminal with one alternative, which is one letter. -/
def letter (name : String) : Nonterminal := ⟨name, [[{ types := ["A"] }]]⟩

/-- No field of it lacks types. -/
theorem not_lacksTypes_letter (name : String) : ¬ (letter name).LacksTypes := by
  rw [← Nonterminal.mapM_toFields?_eq_none_iff]
  exact Option.some_ne_none _

/-- With a name of six bytes less than the limit the alternative starts at the last offset that is a word,
and the word for its end is zero. -/
theorem ofNonterminals_letter {name : String} (h : name.utf8ByteSize = Span.offsetLimit - 6) :
    ofNonterminals [letter name] = .error (.misused .reversedSpan) := by
  have hfields : FieldSpec.toFields? [{ types := ["A"] }] = some [Field.unnamed "A"] := rfl
  have hleft : (leftHandSide name).utf8ByteSize = Span.offsetLimit - 1 := by
    rw [leftHandSide, String.utf8ByteSize_append, h]
    rfl
  have hpiece : (alternativeText [Field.unnamed "A"]).utf8ByteSize = 1 := by decide +kernel
  have hspan : pieceSpan? (leftHandSide name) (alternativeText [Field.unnamed "A"]) = none := by
    rw [pieceSpan?, hleft, hpiece, Span.ofOffsets?_eq_none_iff]
    decide
  have hall := @concatAll_cons_of_reversed name _ _ _ ∅ [] hfields hspan
  rw [ofNonterminals, List.mapM_cons, ofNonterminal]
  dsimp only [letter]
  rw [hall]
  rfl

/-- So there is no schema for it, although no field lacks types. -/
theorem reversed_of_long_name :
    let name := String.ofList (List.replicate (Span.offsetLimit - 6) 'N')
    ¬ (letter name).LacksTypes ∧
      ofNonterminals [letter name] = .error (.misused .reversedSpan) := by
  refine ⟨not_lacksTypes_letter _, ofNonterminals_letter ?_⟩
  rw [Text.utf8ByteSize_ofList, Text.byteLength_replicate]
  rfl

end Schema

end ScanSchema
