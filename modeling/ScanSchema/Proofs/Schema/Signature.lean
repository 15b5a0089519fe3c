import ScanSchema.Schema.Field

/-!
# When signatures tell slots apart

A signature is one text: the given name with an equals sign behind it, if there is one, and the
types with bars between them. Two fields of one slot always have the same signature. The converse
depends on what names and types look like, for a bar or an equals sign may also stand inside of them.
Here the pairs of fields are described for which the text is misread, and shown to be the only ones:
either the same given name is followed by types that differ but have the same pieces between bars, or
the given name of one field reaches into the types of the other. Types without bars and equals signs
are never misread, whatever the names.
-/

namespace ScanSchema

namespace TypeSet

variable {types others : TypeSet}

/-- The pieces between the bars of the written form. A type with a bar in it has several. -/
def pieces (types : TypeSet) : List (List Char) :=
  types.names.flatMap fun name => name.toList.splitOn '|'

/-- Cutting a joined text at its bars gives the pieces of all parts, one part after the other. -/
theorem splitOn_intercalate_bar {parts : List (List Char)} (h : parts ≠ []) :
    (['|'].intercalate parts).splitOn '|' = parts.flatMap (·.splitOn '|') := by
  induction parts with
  | nil => exact absurd rfl h
  | cons first rest ih =>
    cases rest with
    | nil => simp
    | cons second rest =>
      have hcut : ['|'].intercalate (first :: second :: rest) =
          first ++ '|' :: ['|'].intercalate (second :: rest) := by simp
      rw [hcut, List.splitOn_append_cons_self, ih (List.cons_ne_nil _ _)]
      rfl

/-- The types are written with bars between them. -/
theorem toList_toText (types : TypeSet) :
    types.toText.toList = ['|'].intercalate (types.names.map String.toList) := by
  rw [toText, String.toList_intercalate]
  rfl

/-- The written form falls apart into its pieces at the bars. -/
theorem splitOn_toText (types : TypeSet) : types.toText.toList.splitOn '|' = types.pieces := by
  have hne : types.names.map String.toList ≠ [] := by simpa using types.names_ne_nil
  rw [toList_toText, splitOn_intercalate_bar hne, pieces, List.flatMap_map]

/-- Sets are written alike exactly if they have the same pieces. -/
theorem toText_eq_iff : types.toText = others.toText ↔ types.pieces = others.pieces := by
  constructor
  · intro h
    rw [← splitOn_toText, ← splitOn_toText, h]
  · intro h
    have hjoined : ['|'].intercalate (types.toText.toList.splitOn '|') =
        ['|'].intercalate (others.toText.toList.splitOn '|') := by
      rw [splitOn_toText, splitOn_toText, h]
    rw [List.intercalate_splitOn, List.intercalate_splitOn] at hjoined
    exact String.toList_inj.mp hjoined

/-- Types without bars are their own pieces. -/
theorem flatMap_splitOn_of_bar_not_mem {names : List String}
    (h : ∀ name ∈ names, '|' ∉ name.toList) :
    (names.flatMap fun name => name.toList.splitOn '|') = names.map String.toList := by
  induction names with
  | nil => rfl
  | cons first rest ih =>
    rw [List.flatMap_cons, List.splitOn_eq_singleton (h first List.mem_cons_self),
      ih fun name hname => h name (List.mem_cons_of_mem _ hname)]
    rfl

/-- Sets of types without bars are equal if they have the same pieces. -/
theorem eq_of_pieces_eq (h : ∀ name ∈ types.names, '|' ∉ name.toList)
    (hothers : ∀ name ∈ others.names, '|' ∉ name.toList) (hpieces : types.pieces = others.pieces) :
    types = others := by
  rw [pieces, pieces, flatMap_splitOn_of_bar_not_mem h,
    flatMap_splitOn_of_bar_not_mem hothers] at hpieces
  exact ext_names ((List.map_inj_right fun _ _ => String.toList_inj.mp).mp hpieces)

/-- A character of a joined text is a bar or comes from one of its parts. -/
theorem eq_bar_or_mem_of_mem_intercalate {c : Char} {parts : List (List Char)}
    (h : c ∈ ['|'].intercalate parts) : c = '|' ∨ ∃ part ∈ parts, c ∈ part := by
  induction parts with
  | nil => simp at h
  | cons first rest ih =>
    cases rest with
    | nil => exact Or.inr ⟨first, List.mem_cons_self, by simpa using h⟩
    | cons second rest =>
      rw [List.intercalate_cons_cons, List.mem_append, List.mem_append, List.mem_singleton] at h
      rcases h with (hfirst | hbar) | hrest
      · exact Or.inr ⟨first, List.mem_cons_self, hfirst⟩
      · exact Or.inl hbar
      · rcases ih hrest with hbar | ⟨part, hpart, hc⟩
        · exact Or.inl hbar
        · exact Or.inr ⟨part, List.mem_cons_of_mem _ hpart, hc⟩

end TypeSet

namespace Field

variable {field other : Field}

/-- What stands in front of the types in a signature: a given name and an equals sign. -/
def lead (field : Field) : String := (field.givenName?.map (· ++ "=")).getD ""

/-- A signature is written as its lead and the types behind it. -/
theorem text_signature (field : Field) :
    field.signature.text = field.lead ++ field.types.toText := by
  unfold signature signatureOf lead
  cases field.givenName? with
  | none => simp
  | some name => simp

/-- A given name leads, and an equals sign follows. -/
theorem lead_of_givenName?_eq_some {name : String} (h : field.givenName? = some name) :
    field.lead = name ++ "=" := by
  rw [lead, h]
  rfl

/-- Without a given name nothing leads. -/
theorem lead_of_givenName?_eq_none (h : field.givenName? = none) : field.lead = "" := by
  rw [lead, h]
  rfl

/-- The lead tells what name was given, if any. -/
theorem lead_eq_iff : field.lead = other.lead ↔ field.givenName? = other.givenName? := by
  constructor
  · intro h
    cases hfield : field.givenName? with
    | none =>
      cases hother : other.givenName? with
      | none => rfl
      | some name =>
        rw [lead_of_givenName?_eq_none hfield, lead_of_givenName?_eq_some hother] at h
        simp at h
    | some name =>
      cases hother : other.givenName? with
      | none =>
        rw [lead_of_givenName?_eq_some hfield, lead_of_givenName?_eq_none hother] at h
        simp at h
      | some name' =>
        rw [lead_of_givenName?_eq_some hfield, lead_of_givenName?_eq_some hother] at h
        simpa using h
  · intro h
    rw [lead, lead, h]

/-- Two fields describe one slot: both have the same given name or both have none, and they admit
the same types. -/
structure SameSlot (field other : Field) : Prop where
  /-- Both names are given, or neither. -/
  isNamed_eq : field.isNamed = other.isNamed
  /-- Given names are equal. -/
  name_eq : field.isNamed = true → field.name = other.name
  /-- The types are the same. -/
  mem_types_iff : ∀ type, type ∈ field.types.names ↔ type ∈ other.types.names

/-- Two fields have the same given name, or none, if both are named or not and the names agree. -/
theorem givenName?_eq_iff : field.givenName? = other.givenName? ↔
    field.isNamed = other.isNamed ∧ (field.isNamed = true → field.name = other.name) := by
  unfold givenName?
  cases field.isNamed <;> cases other.isNamed <;> simp

/-- A slot is a given name, or none, and a set of types. -/
theorem sameSlot_iff :
    field.SameSlot other ↔ field.givenName? = other.givenName? ∧ field.types = other.types := by
  rw [givenName?_eq_iff]
  constructor
  · rintro ⟨hnamed, hname, htypes⟩
    exact ⟨⟨hnamed, hname⟩, TypeSet.ext_mem htypes⟩
  · rintro ⟨⟨hnamed, hname⟩, htypes⟩
    exact ⟨hnamed, hname, fun type => by rw [htypes]⟩

/-- The types differ and are written alike, as a bar inside a type passes for one between two. -/
def BlurredByBar (field other : Field) : Prop :=
  field.givenName? = other.givenName? ∧ field.types ≠ other.types ∧
    field.types.pieces = other.types.pieces

/-- The given name of `other` is written like the lead of `field` and some of its types, as an
equals sign inside a type passes for the one behind a name. -/
def ReachedBy (field other : Field) : Prop :=
  ∃ text, other.givenName? = some (field.lead ++ text) ∧
    field.types.toText = text ++ "=" ++ other.types.toText

/-- Two fields of different slots that are written alike. -/
def Blurred (field other : Field) : Prop :=
  field.BlurredByBar other ∨ field.ReachedBy other ∨ other.ReachedBy field

/-- Signatures are told apart by how they are written. -/
theorem signature_eq_iff_text_eq : field.signature = other.signature ↔
    field.lead ++ field.types.toText = other.lead ++ other.types.toText := by
  rw [← text_signature, ← text_signature]
  constructor
  · exact congrArg Signature.text
  · intro h
    cases hfield : field.signature
    cases hother : other.signature
    rw [hfield, hother] at h
    exact congrArg Signature.mk h

/-- A field that is reached by the name of another has a shorter lead. -/
theorem ReachedBy.givenName?_ne (h : field.ReachedBy other) :
    field.givenName? ≠ other.givenName? := by
  obtain ⟨text, hname, -⟩ := h
  intro heq
  have hlead : field.lead = (field.lead ++ text) ++ "=" :=
    lead_of_givenName?_eq_some (heq.trans hname)
  have hlength := congrArg String.length hlead
  simp only [String.length_append] at hlength
  have hone : "=".length = 1 := rfl
  omega

/-- A field that is reached by the types of another has its signature. -/
theorem ReachedBy.signature_eq (h : field.ReachedBy other) :
    field.signature = other.signature := by
  obtain ⟨text, hname, htypes⟩ := h
  rw [signature_eq_iff_text_eq, lead_of_givenName?_eq_some hname, htypes]
  simp only [String.append_assoc]

/-- If the lead of `other` goes on where that of `field` ends, and the texts are equal, then the name
of `other` reaches into the types of `field`. -/
theorem reachedBy_of_lead {between : List Char} (hne : between ≠ [])
    (hlead : other.lead.toList = field.lead.toList ++ between)
    (htypes : field.types.toText.toList = between ++ other.types.toText.toList) :
    field.ReachedBy other := by
  obtain ⟨text, last, rfl⟩ := (List.eq_nil_or_concat between).resolve_left hne
  rw [List.concat_eq_append] at hlead htypes
  cases hname : other.givenName? with
  | none =>
    rw [lead_of_givenName?_eq_none hname] at hlead
    simp at hlead
  | some name =>
    -- The lead of `other` ends in its equals sign, so this is the last character in between.
    rw [lead_of_givenName?_eq_some hname, String.toList_append, ← List.append_assoc] at hlead
    obtain ⟨hfront, hlast⟩ := List.append_inj' hlead rfl
    have htext : (String.ofList text).toList = text := String.toList_ofList
    refine ⟨String.ofList text, ?_, ?_⟩
    · rw [hname, Option.some_inj, ← String.toList_inj, hfront, String.toList_append, htext]
    · rw [← String.toList_inj, htypes, ← hlast, String.toList_append, String.toList_append, htext]

/-- With equal names in front, only bars can blur. -/
theorem signature_eq_iff_of_givenName?_eq (h : field.givenName? = other.givenName?) :
    field.signature = other.signature ↔ field.SameSlot other ∨ field.BlurredByBar other := by
  rw [signature_eq_iff_text_eq, lead_eq_iff.mpr h, String.append_right_inj, TypeSet.toText_eq_iff,
    sameSlot_iff]
  constructor
  · intro hpieces
    by_cases htypes : field.types = other.types
    · exact Or.inl ⟨h, htypes⟩
    · exact Or.inr ⟨h, htypes, hpieces⟩
  · rintro (⟨-, htypes⟩ | ⟨-, -, hpieces⟩)
    · rw [htypes]
    · exact hpieces

/-- With different names, equal signatures mean that one name reaches into the other's types. -/
theorem signature_eq_iff_of_givenName?_ne (h : field.givenName? ≠ other.givenName?) :
    field.signature = other.signature ↔ field.ReachedBy other ∨ other.ReachedBy field := by
  have hlead : field.lead ≠ other.lead := fun heq => h (lead_eq_iff.mp heq)
  constructor
  · intro hsignature
    have htext := congrArg String.toList (signature_eq_iff_text_eq.mp hsignature)
    rw [String.toList_append, String.toList_append, List.append_eq_append_iff] at htext
    rcases htext with ⟨between, hother, htypes⟩ | ⟨between, hfield, htypes⟩
    · refine Or.inl (reachedBy_of_lead ?_ hother htypes)
      rintro rfl
      exact hlead (String.toList_inj.mp (by simpa using hother.symm))
    · refine Or.inr (reachedBy_of_lead ?_ hfield htypes)
      rintro rfl
      exact hlead (String.toList_inj.mp (by simpa using hfield))
  · rintro (hreached | hreached)
    · exact hreached.signature_eq
    · exact hreached.signature_eq.symm

/-- Fields of one slot are no blurred ones. -/
theorem not_blurred_of_sameSlot (h : field.SameSlot other) : ¬ field.Blurred other := by
  obtain ⟨hname, htypes⟩ := sameSlot_iff.mp h
  rintro (hbar | hreached | hreached)
  · exact hbar.2.1 htypes
  · exact hreached.givenName?_ne hname
  · exact hreached.givenName?_ne hname.symm

/-- Signatures are equal for fields of one slot, and else only for those that are written alike. -/
theorem signature_eq_iff :
    field.signature = other.signature ↔ field.SameSlot other ∨ field.Blurred other := by
  by_cases hname : field.givenName? = other.givenName?
  · have hreached : ¬(field.ReachedBy other ∨ other.ReachedBy field) := by
      rintro (h | h)
      · exact h.givenName?_ne hname
      · exact h.givenName?_ne hname.symm
    rw [signature_eq_iff_of_givenName?_eq hname, Blurred, or_iff_left hreached]
  · have hsame : ¬(field.SameSlot other ∨ field.BlurredByBar other) := by
      rintro (h | h)
      · exact hname (sameSlot_iff.mp h).1
      · exact hname h.1
    rw [signature_eq_iff_of_givenName?_ne hname, Blurred, ← or_assoc, or_iff_right hsame]

/-- A field whose types contain neither bars nor equals signs. -/
def Plain (field : Field) : Prop :=
  ∀ type ∈ field.types.names, '|' ∉ type.toList ∧ '=' ∉ type.toList

/-- No name is reached by types without equals signs. -/
theorem Plain.not_reachedBy (h : field.Plain) : ¬ field.ReachedBy other := by
  rintro ⟨text, -, htypes⟩
  have hmem : '=' ∈ field.types.toText.toList := by
    rw [htypes]
    simp
  rw [TypeSet.toList_toText] at hmem
  rcases TypeSet.eq_bar_or_mem_of_mem_intercalate hmem with hbar | ⟨part, hpart, hsign⟩
  · exact absurd hbar (by decide)
  · obtain ⟨type, htype, rfl⟩ := List.mem_map.mp hpart
    exact (h type htype).2 hsign

/-- Two plain fields are never blurred. -/
theorem Plain.not_blurred (h : field.Plain) (hother : other.Plain) : ¬ field.Blurred other := by
  rintro (⟨-, hne, hpieces⟩ | hreached | hreached)
  · exact hne (TypeSet.eq_of_pieces_eq (fun type htype => (h type htype).1)
      (fun type htype => (hother type htype).1) hpieces)
  · exact h.not_reachedBy hreached
  · exact hother.not_reachedBy hreached

/-- For plain types a signature is the key of its slot, whatever the names are. -/
theorem Plain.signature_eq_iff_sameSlot (h : field.Plain) (hother : other.Plain) :
    field.signature = other.signature ↔ field.SameSlot other := by
  rw [signature_eq_iff, or_iff_left (h.not_blurred hother)]

/-- A signature is the key of its slot exactly for the pairs of fields that are not blurred. -/
theorem signature_eq_iff_sameSlot_iff (field other : Field) :
    (field.signature = other.signature ↔ field.SameSlot other) ↔ ¬ field.Blurred other := by
  rw [signature_eq_iff]
  constructor
  · intro h hblurred
    exact not_blurred_of_sameSlot (h.mp (Or.inr hblurred)) hblurred
  · intro h
    exact or_iff_left h

/-- Fields of three slots with two signatures: a type with an equals sign in it is written like a
name and a type, and a type with a bar in it like two types. -/
theorem signatures_of_different_slots :
    ∃ unnamed named bar two : Field,
      Field.ofList none ["a=B"] true = .ok unnamed ∧ Field.ofList (some "a") ["B"] false = .ok named ∧
      Field.ofList none ["A|B"] true = .ok bar ∧ Field.ofList none ["A", "B"] true = .ok two ∧
      (unnamed.signature = named.signature ∧ ¬ unnamed.SameSlot named) ∧
      bar.signature = two.signature ∧ ¬ bar.SameSlot two := by
  refine ⟨_, _, _, _, rfl, rfl, rfl, rfl, ?_⟩
  simp only [sameSlot_iff]
  decide +kernel

end Field

end ScanSchema
