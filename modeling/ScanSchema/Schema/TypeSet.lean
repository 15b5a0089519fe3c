/-!
# Sets of types

The types that a field admits are a set of names, never empty, kept in ascending order without
repeats. So two sets with the same members are equal, and the first name can stand for the set.
-/

namespace ScanSchema

/-- Insert a name into an ascending list, unless it is there already. -/
def insertName (name : String) : List String → List String
  | [] => [name]
  | first :: rest =>
    if name < first then name :: first :: rest
    else if name = first then first :: rest
    else first :: insertName name rest

/-- Every name of the list and no other, in ascending order. -/
def sortNames (names : List String) : List String := names.foldr insertName []

/-- Inserting adds one name and takes none away. -/
theorem mem_insertName {name x : String} {names : List String} :
    x ∈ insertName name names ↔ x = name ∨ x ∈ names := by
  induction names with
  | nil => simp [insertName]
  | cons first rest ih =>
    unfold insertName
    split
    · simp
    · split
      next heq =>
        subst heq
        simp
      next => simp only [List.mem_cons, ih, or_left_comm]

/-- The sorted names are the names in the list. -/
theorem mem_sortNames {x : String} {names : List String} : x ∈ sortNames names ↔ x ∈ names := by
  induction names with
  | nil => simp [sortNames]
  | cons name rest ih =>
    have hfold : sortNames (name :: rest) = insertName name (sortNames rest) := rfl
    rw [hfold, mem_insertName, ih, List.mem_cons]

/-- Two names that are not equal are in one order or the other. -/
theorem lt_of_not_lt_of_ne {a b : String} (hlt : ¬a < b) (hne : a ≠ b) : b < a := by
  have hle : b ≤ a := String.not_lt.mp hlt
  exact Decidable.by_contra fun h => hne (String.le_antisymm (String.not_lt.mp h) hle)

/-- Inserting keeps names in ascending order, without repeats. -/
theorem pairwise_insertName {name : String} {names : List String}
    (h : names.Pairwise (· < ·)) : (insertName name names).Pairwise (· < ·) := by
  induction names with
  | nil => simp [insertName]
  | cons first rest ih =>
    obtain ⟨hfirst, hrest⟩ := List.pairwise_cons.mp h
    unfold insertName
    split
    next hlt =>
      refine List.pairwise_cons.mpr ⟨fun x hx => ?_, h⟩
      rcases List.mem_cons.mp hx with rfl | hx
      · exact hlt
      · exact String.lt_trans hlt (hfirst x hx)
    next hlt =>
      split
      · exact h
      next hne =>
        refine List.pairwise_cons.mpr ⟨fun x hx => ?_, ih hrest⟩
        rcases mem_insertName.mp hx with rfl | hx
        · exact lt_of_not_lt_of_ne hlt hne
        · exact hfirst x hx

/-- Sorted names ascend, without repeats. -/
theorem pairwise_sortNames (names : List String) : (sortNames names).Pairwise (· < ·) := by
  induction names with
  | nil => exact List.Pairwise.nil
  | cons name rest ih => exact pairwise_insertName ih

/-- Ascending lists with the same members are equal. -/
theorem eq_of_pairwise_of_mem_iff {a b : List String} (ha : a.Pairwise (· < ·))
    (hb : b.Pairwise (· < ·)) (h : ∀ x, x ∈ a ↔ x ∈ b) : a = b := by
  induction a generalizing b with
  | nil =>
    cases b with
    | nil => rfl
    | cons y b => exact absurd ((h y).mpr List.mem_cons_self) List.not_mem_nil
  | cons x a ih =>
    cases b with
    | nil => exact absurd ((h x).mp List.mem_cons_self) List.not_mem_nil
    | cons y b =>
      obtain ⟨hxa, hrestA⟩ := List.pairwise_cons.mp ha
      obtain ⟨hyb, hrestB⟩ := List.pairwise_cons.mp hb
      have hxy : x = y := by
        rcases List.mem_cons.mp ((h x).mp List.mem_cons_self) with hx | hx
        · exact hx
        rcases List.mem_cons.mp ((h y).mpr List.mem_cons_self) with hy | hy
        · exact hy.symm
        exact absurd (String.lt_trans (hyb x hx) (hxa y hy)) (String.lt_irrefl y)
      subst hxy
      refine congrArg (x :: ·) (ih hrestA hrestB fun z => ⟨fun hz => ?_, fun hz => ?_⟩)
      · rcases List.mem_cons.mp ((h z).mp (List.mem_cons_of_mem _ hz)) with rfl | hz'
        · exact absurd (hxa z hz) (String.lt_irrefl z)
        · exact hz'
      · rcases List.mem_cons.mp ((h z).mpr (List.mem_cons_of_mem _ hz)) with rfl | hz'
        · exact absurd (hyb z hz) (String.lt_irrefl z)
        · exact hz'

/-- A set of type names that is not empty. -/
structure TypeSet where
  /-- The names. -/
  names : List String
  /-- There is a name. -/
  names_ne_nil : names ≠ []
  /-- The names are in ascending order without repeats. -/
  ascending : names.Pairwise (· < ·)
  deriving DecidableEq, Repr

namespace TypeSet

/-- The set of some names, if there are any. -/
def ofList? (names : List String) : Option TypeSet :=
  if h : names = [] then none
  else
    some ⟨sortNames names, fun hnil => by
      obtain ⟨x, hx⟩ := List.exists_mem_of_ne_nil names h
      exact absurd (hnil ▸ mem_sortNames.mpr hx) List.not_mem_nil, pairwise_sortNames names⟩

/-- The set of one name. -/
def single (name : String) : TypeSet := ⟨[name], by simp, by simp⟩

instance : Inhabited TypeSet := ⟨single ""⟩

/-- The first name of the set. -/
def first (types : TypeSet) : String := types.names.head types.names_ne_nil

/-- All names of two sets. -/
def union (types others : TypeSet) : TypeSet where
  names := types.names.foldr insertName others.names
  names_ne_nil := by
    intro hnil
    cases h : types.names with
    | nil => exact types.names_ne_nil h
    | cons x rest =>
      have hmem : x ∈ types.names.foldr insertName others.names := by
        rw [h, List.foldr_cons]
        exact mem_insertName.mpr (Or.inl rfl)
      exact absurd (hnil ▸ hmem) List.not_mem_nil
  ascending := by
    induction types.names with
    | nil => exact others.ascending
    | cons x rest ih => exact pairwise_insertName ih

/-- The names with a bar between any two. -/
def toText (types : TypeSet) : String := "|".intercalate types.names

/-- A set is given by its names. -/
theorem ext_names {types others : TypeSet} (h : types.names = others.names) : types = others := by
  cases types
  cases others
  cases h
  rfl

/-- Sets with the same members are equal. -/
theorem ext_mem {types others : TypeSet} (h : ∀ x, x ∈ types.names ↔ x ∈ others.names) :
    types = others :=
  ext_names (eq_of_pairwise_of_mem_iff types.ascending others.ascending h)

/-- The union has the names of both sets. -/
theorem mem_union {types others : TypeSet} {x : String} :
    x ∈ (types.union others).names ↔ x ∈ types.names ∨ x ∈ others.names := by
  have hfold : ∀ a b : List String, x ∈ a.foldr insertName b ↔ x ∈ a ∨ x ∈ b := by
    intro a b
    induction a with
    | nil => simp
    | cons y a ih => rw [List.foldr_cons, mem_insertName, ih, List.mem_cons, or_assoc]
  exact hfold types.names others.names

end TypeSet

end ScanSchema
