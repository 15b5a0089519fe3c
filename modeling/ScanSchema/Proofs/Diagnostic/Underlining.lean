import ScanSchema.Diagnostic.Excerpt
import ScanSchema.Proofs.Scan.ActionCode

/-!
# Which bytes an excerpt underlines

An excerpt can be drawn if both ends of what it underlines lie between characters of the source.
The span of an invalid text is that of its characters, but the span of a token that the end of the
input leaves unfinished is empty and stands where the token begins. It is widened by one byte, which
is a whole character only if the token begins with a character of one byte. So whether all that is
underlined for listings is made of whole characters depends on the table: `Table.LeavesWideToken` is
the exception, and the only one. The table for action code is none of the exceptions.
-/

namespace ScanSchema

namespace Text

variable {bytes : Nat} {c : Char} {chars rest : List Char}

/-- The first bytes of a text are whole characters. -/
def EndsBetween (bytes : Nat) (chars : List Char) : Prop :=
  ∃ front, front <+: chars ∧ byteLength front = bytes

/-- No bytes at all are whole characters. -/
theorem endsBetween_zero (chars : List Char) : EndsBetween 0 chars :=
  ⟨[], List.nil_prefix, rfl⟩

/-- The bytes of a front are whole characters. -/
theorem endsBetween_byteLength (front back : List Char) :
    EndsBetween (byteLength front) (front ++ back) := ⟨front, List.prefix_append front back, rfl⟩

/-- Bytes that are not none contain the first character as a whole, if they are whole characters. -/
theorem endsBetween_cons_iff (h : bytes ≠ 0) :
    EndsBetween bytes (c :: rest) ↔
      c.utf8Size ≤ bytes ∧ EndsBetween (bytes - c.utf8Size) rest := by
  constructor
  · rintro ⟨front, hprefix, rfl⟩
    rcases List.prefix_cons_iff.mp hprefix with rfl | ⟨front, rfl, hrest⟩
    · exact absurd rfl h
    · rw [byteLength]
      exact ⟨Nat.le_add_right _ _, front, hrest, (Nat.add_sub_cancel_left ..).symm⟩
  · rintro ⟨hle, front, hprefix, hbytes⟩
    refine ⟨c :: front, List.prefix_cons_iff.mpr (.inr ⟨front, rfl, hprefix⟩), ?_⟩
    rw [byteLength, hbytes, Nat.add_sub_cancel' hle]

/-- Behind whole characters, more bytes are whole characters if they are so in the rest. -/
theorem endsBetween_append_iff (front back : List Char) :
    EndsBetween (byteLength front + bytes) (front ++ back) ↔ EndsBetween bytes back := by
  induction front with
  | nil => rw [byteLength, Nat.zero_add, List.nil_append]
  | cons c front ih =>
    have hpos := c.utf8Size_pos
    have hsub : c.utf8Size + byteLength front + bytes - c.utf8Size = byteLength front + bytes := by
      omega
    rw [List.cons_append, byteLength, endsBetween_cons_iff (by omega), hsub, ih,
      and_iff_right (by omega)]

/-- The first byte of a text, if it has one, is a whole character exactly if the first character has
one byte. -/
theorem endsBetween_first_iff (chars : List Char) :
    EndsBetween (min 1 (byteLength chars)) chars ↔ ∀ c ∈ chars.head?, c.utf8Size = 1 := by
  cases chars with
  | nil => exact iff_of_true (endsBetween_zero []) fun c hc => nomatch hc
  | cons c rest =>
    have hpos := c.utf8Size_pos
    rw [byteLength, Nat.min_eq_left (by omega), endsBetween_cons_iff Nat.one_ne_zero,
      List.head?_cons]
    constructor
    · rintro ⟨hle, -⟩ first hfirst
      cases hfirst
      omega
    · intro h
      rw [h c rfl]
      exact ⟨Nat.le_refl 1, endsBetween_zero rest⟩

/-- A text is cut inside a character exactly if its first bytes are not whole characters. -/
theorem splitChar?_eq_none_iff (h : bytes ≤ byteLength chars) :
    splitChar? bytes chars = none ↔ EndsBetween bytes chars := by
  induction chars generalizing bytes with
  | nil =>
    obtain rfl : bytes = 0 := Nat.le_zero.mp h
    exact iff_of_true rfl (endsBetween_zero [])
  | cons c rest ih =>
    rw [byteLength] at h
    unfold splitChar?
    split
    next hzero => exact iff_of_true rfl (hzero ▸ endsBetween_zero _)
    next hzero =>
      rw [endsBetween_cons_iff hzero]
      split
      next hlt => exact iff_of_false (Option.some_ne_none _) fun hends => absurd hends.1 (by omega)
      next hle =>
        rw [Option.map_eq_none_iff, ih (by omega), and_iff_right (Nat.not_lt.mp hle)]

/-- The places between the characters of a text are its valid positions. -/
theorem isValid_iff_endsBetween {source : String} :
    String.Pos.Raw.IsValid source ⟨bytes⟩ ↔ EndsBetween bytes source.toList := by
  rw [String.Pos.Raw.isValid_iff_exists_append]
  constructor
  · rintro ⟨front, back, rfl, hbytes⟩
    have hsize : byteLength front.toList = bytes :=
      (byteLength_toList front).trans (congrArg String.Pos.Raw.byteIdx hbytes).symm
    rw [String.toList_append, ← hsize]
    exact endsBetween_byteLength _ _
  · rintro ⟨front, ⟨back, hchars⟩, rfl⟩
    refine ⟨String.ofList front, String.ofList back, ?_, ?_⟩
    · rw [← String.ofList_append, hchars, String.ofList_toList]
    · rw [← utf8ByteSize_ofList]
      rfl

end Text

namespace Excerpt

/-- What lies between two bytes of a source is made of whole characters. -/
structure WholeCharacters (source : String) (ends : Nat × Nat) : Prop where
  /-- The ends are in order. -/
  start_le_stop : ends.1 ≤ ends.2
  /-- They lie in the source. -/
  stop_le_size : ends.2 ≤ source.utf8ByteSize
  /-- The first is not inside a character. -/
  start_isValid : String.Pos.Raw.IsValid source ⟨ends.1⟩
  /-- Neither is the second. -/
  stop_isValid : String.Pos.Raw.IsValid source ⟨ends.2⟩

/-- The bytes to underline are in order and lie in the source. -/
theorem clamp_le (span : Span) (size : Nat) :
    (clamp span size).1 ≤ (clamp span size).2 ∧ (clamp span size).2 ≤ size := by
  unfold clamp
  dsimp only
  split <;> omega

/-- A span that is not empty and lies in the source is underlined as it is. -/
theorem clamp_of_lt {span : Span} {size : Nat} (h : span.start < span.stop)
    (hsize : span.stop ≤ size) : clamp span size = (span.start, span.stop) := by
  rw [clamp, Nat.min_eq_left hsize, Nat.min_eq_left (Nat.le_trans (Nat.le_of_lt h) hsize), if_pos h]

/-- An empty span in the source is widened by a byte, unless it stands at the end. -/
theorem clamp_of_eq {span : Span} {size : Nat} (h : span.stop = span.start)
    (hsize : span.start ≤ size) : clamp span size = (span.start, min (span.start + 1) size) := by
  rw [clamp, h, Nat.min_eq_left hsize, if_neg (Nat.lt_irrefl _)]

variable {source : String} {diagnostic : Diagnostic}

/-- An excerpt can be drawn exactly if it underlines whole characters. -/
theorem misuse?_eq_none_iff :
    misuse? source diagnostic = none ↔
      WholeCharacters source (clamp diagnostic.span source.utf8ByteSize) := by
  obtain ⟨hle, hsize⟩ := clamp_le diagnostic.span source.utf8ByteSize
  unfold misuse?
  generalize clamp diagnostic.span source.utf8ByteSize = ends at hle hsize
  obtain ⟨first, last⟩ := ends
  dsimp only at hle hsize ⊢
  have hlength := Text.byteLength_toList source
  have hlast := Text.splitChar?_eq_none_iff (hlength ▸ hsize)
  have hfirst := Text.splitChar?_eq_none_iff (hlength ▸ Nat.le_trans hle hsize)
  rw [← Text.isValid_iff_endsBetween] at hlast hfirst
  cases hcutLast : Text.splitChar? last source.toList with
  | some cut =>
    refine iff_of_false (Option.some_ne_none _) fun hwhole => ?_
    rw [hlast.mpr hwhole.stop_isValid] at hcutLast
    cases hcutLast
  | none =>
    cases hcutFirst : Text.splitChar? first source.toList with
    | some cut =>
      refine iff_of_false (Option.some_ne_none _) fun hwhole => ?_
      rw [hfirst.mpr hwhole.start_isValid] at hcutFirst
      cases hcutFirst
    | none => exact iff_of_true rfl ⟨hle, hsize, hfirst.mp hcutFirst, hlast.mp hcutLast⟩

end Excerpt

/-- All excerpts can be drawn exactly if each of them underlines whole characters. -/
theorem Diagnostics.excerpts_eq_ok_iff (diagnostics : Diagnostics) (style : Excerpt.Style)
    (source : String) (path : Option String) :
    diagnostics.excerpts style source path = .ok (diagnostics.render style source path) ↔
      ∀ diagnostic ∈ diagnostics.entries,
        Excerpt.WholeCharacters source (Excerpt.clamp diagnostic.span source.utf8ByteSize) := by
  simp only [← Excerpt.misuse?_eq_none_iff]
  rw [← List.findSome?_eq_none_iff]
  unfold excerpts
  cases diagnostics.entries.findSome? (Excerpt.misuse? source) with
  | none => exact iff_of_true rfl rfl
  | some misuse => exact iff_of_false (fun h => nomatch h) (Option.some_ne_none _)

/-- A walk along a whole text ends in the last state of the path, with its outcome for the end. -/
theorem Automaton.walk_of_reads {automaton : Automaton} {state last : Nat} {text : List Char}
    (h : automaton.Reads state text last) :
    automaton.walk state text = ⟨text, [], last, automaton.outcome last 0⟩ := by
  have hend : automaton.walk last [] = ⟨[], [], last, automaton.outcome last 0⟩ := by
    rw [walk, CharClasses.classOf_none]
  have hwalk := walk_append_eq_of_reads h hend
  rwa [List.append_nil] at hwalk

namespace Table

variable {table : Table} {mode : Fin table.modeCount} {chars before text rest : List Char}
  {location : Location} {error : LexicalError} {state last : Nat} {outcome : Outcome}

/-- The errors in some characters: about a piece that no rule matches, or about a token that the end
leaves unfinished. -/
inductive Fails (table : Table) (mode : Nat) (chars : List Char) : LexicalError → Prop where
  /-- No rule matches `text`, which stands behind `before`. -/
  | invalid {before text after : List Char} (hchars : chars = before ++ (text ++ after))
    (htext : text ≠ []) : Fails table mode chars (.invalidAt (Location.start.after before) text)
  /-- The characters behind `before` lead to a state that rejects the end. -/
  | unfinished {before text : List Char} {last : Nat} (hchars : chars = before ++ text)
    (hreads : table.Reads mode text last) (hreject : table.outcome last 0 = .reject) :
    Fails table mode chars (.unexpectedEndAt (Location.start.after before))

/-- What a walk reads and leaves is what it was given, its text is a path, and its outcome is the
one for what follows the text. -/
theorem parts_of_walk (hwalk : table.walk state chars = ⟨text, rest, last, outcome⟩) :
    text ++ rest = chars ∧ table.Reads state text last ∧
      table.outcome last (table.classes.classOf rest.head?) = outcome := by
  have hsplit := table.toAutomaton.text_append_rest_walk state chars
  have hreads := table.toAutomaton.reads_walk state chars
  have houtcome := table.toAutomaton.outcome_walk state chars
  rw [hwalk] at hsplit hreads houtcome
  exact ⟨hsplit, hreads, houtcome.symm⟩

/-- Every error in a text is of one of these kinds. -/
theorem fails_of_mem_findAll (hchars : chars = before ++ rest)
    (hlocation : location = Location.start.after before)
    (h : .error error ∈ table.findAll mode location rest) : table.Fails mode chars error := by
  unfold findAll at h
  fun_induction Table.tokenize table Listing.keepAll mode () location rest
    generalizing before with
  | case1 _ location rest text left state lexeme hwalk _ _ ih =>
    obtain ⟨rfl, -, -⟩ := parts_of_walk hwalk
    rcases List.mem_cons.mp h with hfirst | hlater
    · cases hfirst
    · rw [← List.append_assoc] at hchars
      exact ih hchars (by rw [hlocation, ← Location.after_append]) hlater
  | case2 _ _ _ _ _ _ _ _ _ hkeep => cases hkeep
  | case3 _ location rest text c left state hwalk ih =>
    obtain ⟨hsplit, -, -⟩ := parts_of_walk hwalk
    rw [← hsplit, List.append_cons] at hchars
    rcases List.mem_cons.mp h with hfirst | hlater
    · cases hfirst
      rw [hlocation]
      exact .invalid hchars (List.concat_ne_nil _ _)
    · rw [← List.append_assoc] at hchars
      exact ih hchars (by rw [hlocation, ← Location.after_append]) hlater
  | case4 _ location rest text state hwalk =>
    obtain ⟨hsplit, hreads, hreject⟩ := parts_of_walk hwalk
    rw [List.append_nil] at hsplit
    cases List.mem_singleton.mp h
    rw [hlocation]
    exact .unfinished (hsplit ▸ hchars) hreads (CharClasses.classOf_none table.classes ▸ hreject)
  | case5 => exact absurd h List.not_mem_nil
  | case6 => exact absurd h List.not_mem_nil

/-- The end of the input can leave a token unfinished that begins with a character of several bytes,
and of which an offset can count the bytes. -/
def LeavesWideToken (table : Table) (mode : Nat) : Prop :=
  ∃ c text last, 1 < Char.utf8Size c ∧ Text.byteLength (c :: text) < Span.offsetLimit ∧
    table.Reads mode (c :: text) last ∧ table.outcome last 0 = .reject

end Table

namespace LexicalError

variable {source : String} {before text after : List Char}

/-- A lexical error is reported at its span. -/
theorem span_toDiagnostic (error : LexicalError) : error.toDiagnostic.span = error.span := by
  obtain ⟨offset, line, fault⟩ := error
  cases fault <;> rfl

/-- What is underlined for an invalid text are its characters. -/
theorem wholeCharacters_invalidAt (hsource : source.toList = before ++ (text ++ after))
    (htext : text ≠ []) (hsize : source.utf8ByteSize < Span.offsetLimit) :
    Excerpt.WholeCharacters source
      (Excerpt.clamp (invalidAt (.after .start before) text).span source.utf8ByteSize) := by
  have hbytes : source.utf8ByteSize =
      Text.byteLength before + (Text.byteLength text + Text.byteLength after) := by
    rw [← Text.byteLength_append, ← Text.byteLength_append, ← hsource, Text.byteLength_toList]
  have hpos : 0 < Text.byteLength text := by
    obtain ⟨c, rest, rfl⟩ := List.exists_cons_of_ne_nil htext
    exact Nat.lt_of_lt_of_le c.utf8Size_pos (Nat.le_add_right _ _)
  have hlength : (invalidAt (.after .start before) text).text.utf8ByteSize =
      Text.byteLength text := Text.utf8ByteSize_ofList text
  have hoffset : (invalidAt (.after .start before) text).offset = Text.byteLength before :=
    Nat.zero_add _
  have hlimit : Text.byteLength before + Text.byteLength text < Span.offsetLimit := by omega
  obtain ⟨hstart, hstop⟩ := Span.ofLength_of_lt hlimit
  rw [span, hlength, hoffset, Excerpt.clamp_of_lt (by omega) (by omega), hstart, hstop]
  refine ⟨Nat.le_add_right _ _, by omega, ?_, ?_⟩
  · rw [Text.isValid_iff_endsBetween, hsource]
    exact Text.endsBetween_byteLength _ _
  · rw [Text.isValid_iff_endsBetween, hsource, ← List.append_assoc, ← Text.byteLength_append]
    exact Text.endsBetween_byteLength _ _

/-- What is underlined for an unfinished token is its first byte, if it has one. That is a whole
character unless the token begins with a character of several bytes. -/
theorem clamp_unexpectedEndAt (hsource : source.toList = before ++ text)
    (hsize : source.utf8ByteSize < Span.offsetLimit) :
    let ends := Excerpt.clamp (unexpectedEndAt (.after .start before)).span source.utf8ByteSize
    ends.1 = Text.byteLength before ∧ String.Pos.Raw.IsValid source ⟨ends.1⟩ ∧
      (String.Pos.Raw.IsValid source ⟨ends.2⟩ ↔ ∀ c ∈ text.head?, c.utf8Size = 1) := by
  have hbytes : source.utf8ByteSize = Text.byteLength before + Text.byteLength text := by
    rw [← Text.byteLength_append, ← hsource, Text.byteLength_toList]
  have hoffset : (unexpectedEndAt (.after .start before)).offset = Text.byteLength before :=
    Nat.zero_add _
  have hlength : (unexpectedEndAt (.after .start before)).text.utf8ByteSize = 0 := rfl
  have hlimit : Text.byteLength before + 0 < Span.offsetLimit := by omega
  obtain ⟨hstart, hstop⟩ := Span.ofLength_of_lt hlimit
  intro ends
  have hends : ends = (Text.byteLength before,
      min (Text.byteLength before + 1) source.utf8ByteSize) := by
    have hin : (Span.ofLength (Text.byteLength before) 0).start ≤ source.utf8ByteSize := by omega
    have hclamp := Excerpt.clamp_of_eq (hstop.trans hstart.symm) hin
    rw [hstart] at hclamp
    rw [← hclamp, ← hlength, ← hoffset]
    rfl
  rw [hends, Text.isValid_iff_endsBetween, Text.isValid_iff_endsBetween, hsource, hbytes,
    Nat.add_min_add_left, Text.endsBetween_append_iff]
  exact ⟨rfl, Text.endsBetween_byteLength _ _, Text.endsBetween_first_iff text⟩

end LexicalError

/-- What an excerpt underlines for a finding of a listing lies in the source, starts between two
characters, and stops between two characters too, unless the finding is an unexpected end and stands
in front of a character of several bytes. -/
structure Listing.Underlines (source : String) (diagnostic : Diagnostic) (ends : Nat × Nat) :
    Prop where
  /-- The ends are in order. -/
  start_le_stop : ends.1 ≤ ends.2
  /-- They lie in the source. -/
  stop_le_size : ends.2 ≤ source.utf8ByteSize
  /-- The first is not inside a character. -/
  start_isValid : String.Pos.Raw.IsValid source ⟨ends.1⟩
  /-- The second is inside a character at most in this case. -/
  stop_isValid_or : String.Pos.Raw.IsValid source ⟨ends.2⟩ ∨
    diagnostic.kind = .unexpectedEndOfInput ∧ ∃ before c rest,
      source.toList = before ++ c :: rest ∧ ends.1 = Text.byteLength before ∧ 1 < Char.utf8Size c

/-- A property of the findings of listings holds for all sources in a mode, as long as offsets can
count the bytes of the source. -/
def Table.HoldsInListings (table : Table) (mode : Fin table.modeCount)
    (property : String → Diagnostics → Prop) : Prop :=
  ∀ (source : String) (all : Bool) (listing : Listing), source.utf8ByteSize < Span.offsetLimit →
    Listing.ofSource table source mode all = .ok listing → property source listing.diagnostics

section Listings

variable {table : Table} {mode : Fin table.modeCount} {source : String}

/-- The findings of a listing are the errors in its source. -/
theorem Listing.exists_fails {all : Bool} {listing : Listing} {diagnostic : Diagnostic}
    (h : ofSource table source mode all = .ok listing)
    (hdiagnostic : diagnostic ∈ listing.diagnostics.entries) :
    ∃ error : LexicalError, error.toDiagnostic = diagnostic ∧
      table.Fails mode source.toList error := by
  have hlisting := (ofSource_eq_ok table source mode all).symm.trans h
  cases hlisting
  obtain ⟨error, herror, rfl⟩ := List.mem_map.mp hdiagnostic
  obtain ⟨finding, hfinding, hsome⟩ := List.mem_filterMap.mp herror
  cases finding with
  | token => cases hsome
  | error found =>
    cases hsome
    have hchars : source.toList = [] ++ source.toList := rfl
    exact ⟨error, rfl, Table.fails_of_mem_findAll hchars rfl hfinding⟩

/-- Errors in a source are underlined as a listing promises. -/
theorem Table.Fails.underlines {error : LexicalError} (h : table.Fails mode source.toList error)
    (hsize : source.utf8ByteSize < Span.offsetLimit) :
    Listing.Underlines source error.toDiagnostic
      (Excerpt.clamp error.toDiagnostic.span source.utf8ByteSize) := by
  obtain ⟨hle, hin⟩ := Excerpt.clamp_le error.toDiagnostic.span source.utf8ByteSize
  rw [error.span_toDiagnostic] at hle hin ⊢
  cases h with
  | invalid hsource htext =>
    have hwhole := LexicalError.wholeCharacters_invalidAt hsource htext hsize
    exact ⟨hle, hin, hwhole.start_isValid, .inl hwhole.stop_isValid⟩
  | @unfinished before text _ hsource =>
    obtain ⟨hfirst, hstart, hstop⟩ := LexicalError.clamp_unexpectedEndAt hsource hsize
    refine ⟨hle, hin, hstart, ?_⟩
    cases text with
    | nil => exact .inl (hstop.mpr fun c hc => nomatch hc)
    | cons c rest =>
      by_cases hwide : 1 < c.utf8Size
      · exact .inr ⟨rfl, before, c, rest, hsource, hfirst, hwide⟩
      · have hpos := c.utf8Size_pos
        refine .inl (hstop.mpr fun first hfirst => ?_)
        cases hfirst
        omega

/-- They are underlined as whole characters if no token that is left unfinished begins with a
character of several bytes. -/
theorem Table.Fails.wholeCharacters {error : LexicalError}
    (h : table.Fails mode source.toList error) (hsize : source.utf8ByteSize < Span.offsetLimit)
    (hnot : ¬ table.LeavesWideToken mode) :
    Excerpt.WholeCharacters source
      (Excerpt.clamp error.toDiagnostic.span source.utf8ByteSize) := by
  have hunderlines := h.underlines hsize
  rw [error.span_toDiagnostic] at hunderlines ⊢
  cases h with
  | invalid hsource htext => exact LexicalError.wholeCharacters_invalidAt hsource htext hsize
  | @unfinished before text last hsource hreads hreject =>
    obtain ⟨-, -, hstop⟩ := LexicalError.clamp_unexpectedEndAt hsource hsize
    refine ⟨hunderlines.start_le_stop, hunderlines.stop_le_size, hunderlines.start_isValid,
      hstop.mpr fun c hc => ?_⟩
    obtain ⟨rest, rfl⟩ := List.head?_eq_some_iff.mp hc
    have hpos := c.utf8Size_pos
    have hbytes : source.utf8ByteSize = Text.byteLength before + Text.byteLength (c :: rest) := by
      rw [← Text.byteLength_append, ← hsource, Text.byteLength_toList]
    refine Decidable.byContradiction fun hne => hnot ⟨c, rest, last, ?_, ?_, hreads, hreject⟩
    · omega
    · omega

/-- If a token that begins with a character of several bytes can be left unfinished, then the source
that is just this token has an end that is underlined in part of that character. -/
theorem Table.LeavesWideToken.exists_listing (h : table.LeavesWideToken mode) (all : Bool) :
    ∃ source listing, source.utf8ByteSize < Span.offsetLimit ∧
      Listing.ofSource table source mode all = .ok listing ∧
      ∃ diagnostic ∈ listing.diagnostics.entries, ¬ Excerpt.WholeCharacters source
        (Excerpt.clamp diagnostic.span source.utf8ByteSize) := by
  obtain ⟨c, text, last, hwide, hlimit, hreads, hreject⟩ := h
  have hsize : (String.ofList (c :: text)).utf8ByteSize < Span.offsetLimit :=
    Nat.lt_of_le_of_lt (Nat.le_of_eq (Text.utf8ByteSize_ofList _)) hlimit
  have hchars : (String.ofList (c :: text)).toList = [] ++ c :: text := String.toList_ofList
  have hwalk : table.walk mode (c :: text) = ⟨c :: text, [], last, .reject⟩ := by
    rw [← hreject]
    exact Automaton.walk_of_reads hreads
  have hfound : table.findAll mode .start (String.ofList (c :: text)).toList =
      [.error (.unexpectedEndAt .start)] := by
    rw [String.toList_ofList]
    exact tokenize_of_unexpectedEnd hwalk
  have hlisting := Listing.ofSource_eq_ok table (String.ofList (c :: text)) mode all
  dsimp only at hlisting
  rw [hfound] at hlisting
  refine ⟨_, _, hsize, hlisting, _, List.mem_singleton_self _, fun hwhole => ?_⟩
  obtain ⟨-, -, hstop⟩ := LexicalError.clamp_unexpectedEndAt hchars hsize
  have hnarrow := hstop.mp hwhole.stop_isValid c rfl
  omega

/-- In a mode all that is underlined for listings is made of whole characters if and only if no token
that begins with a character of several bytes can be left unfinished. -/
theorem Listing.wholeCharacters_iff (table : Table) (mode : Fin table.modeCount) :
    table.HoldsInListings mode (fun source diagnostics =>
      ∀ diagnostic ∈ diagnostics.entries, Excerpt.WholeCharacters source
        (Excerpt.clamp diagnostic.span source.utf8ByteSize)) ↔ ¬ table.LeavesWideToken mode := by
  constructor
  · intro hall hwide
    obtain ⟨source, listing, hsize, hlisting, diagnostic, hmem, hcut⟩ := hwide.exists_listing true
    exact hcut (hall source true listing hsize hlisting diagnostic hmem)
  · intro hnot source all listing hsize hlisting diagnostic hmem
    obtain ⟨error, rfl, hfails⟩ := exists_fails hlisting hmem
    exact hfails.wholeCharacters hsize hnot

end Listings

/-- What is underlined for the findings of a listing lies in the source and stops inside a
character at most for an unexpected end. In a mode of a table all that is underlined is made of
whole characters if and only if no token that begins with a character of several bytes can be left
unfinished. -/
theorem Listing.underlines_whole_characters_iff (table : Table) (mode : Fin table.modeCount) :
    table.HoldsInListings mode (fun source diagnostics =>
      ∀ diagnostic ∈ diagnostics.entries, Underlines source diagnostic
        (Excerpt.clamp diagnostic.span source.utf8ByteSize)) ∧
    (table.HoldsInListings mode (fun source diagnostics =>
      ∀ diagnostic ∈ diagnostics.entries, Excerpt.WholeCharacters source
        (Excerpt.clamp diagnostic.span source.utf8ByteSize)) ↔ ¬ table.LeavesWideToken mode) := by
  refine ⟨fun source all listing hsize hlisting diagnostic hmem => ?_,
    wholeCharacters_iff table mode⟩
  obtain ⟨error, rfl, hfails⟩ := exists_fails hlisting hmem
  exact hfails.underlines hsize

/-- All excerpts for listings can be drawn if and only if no token that begins with a character of
several bytes can be left unfinished. -/
theorem Listing.excerpts_drawn_iff (table : Table) (mode : Fin table.modeCount) :
    table.HoldsInListings mode (fun source diagnostics =>
      ∀ style path, diagnostics.excerpts style source path =
        .ok (diagnostics.render style source path)) ↔ ¬ table.LeavesWideToken mode := by
  rw [← wholeCharacters_iff]
  simp only [Diagnostics.excerpts_eq_ok_iff, Table.HoldsInListings, forall_const]

/-- In action code a path that has come to plain text does not leave it. -/
theorem Table.eq_one_of_reads_braces {state last : Nat} {text : List Char}
    (h : Table.braces.Reads state text last) (hstate : state = 1) : last = 1 := by
  have hcells : ∀ cls < 8, Table.braces.outcome 1 cls = .goto 1 ∨
      Table.braces.outcome 1 cls = .accept 3 := by decide +kernel
  induction h with
  | nil => exact hstate
  | @cons _ _ _ c _ hgoto _ ih =>
    subst hstate
    rcases hcells (ActionCode.classOf c) (Table.classOf_lt _ _) with hstays | haccept
    · cases hgoto.symm.trans hstays
      exact ih rfl
    · cases hgoto.symm.trans haccept

/-- So only literals can be left unfinished in it, and they begin with a quote, one byte. -/
theorem Table.not_leavesWideToken_braces : ¬ Table.braces.LeavesWideToken 0 := by
  rintro ⟨c, text, last, hwide, -, hreads, hreject⟩
  have hother : c ∉ ActionCode.special := by
    intro hmem
    have hall : (ActionCode.special.map Char.utf8Size).all (· ≤ 1) = true := by decide
    have hsize := of_decide_eq_true (List.all_eq_true.mp hall _ (List.mem_map_of_mem hmem))
    omega
  have hstart : Table.braces.outcome 0 (ActionCode.classOf c) = .goto 1 := by
    rw [ActionCode.classOf_of_not_mem hother]
    decide +kernel
  have hend : Table.braces.outcome 1 0 = .accept 3 := by decide +kernel
  cases hreads with
  | cons hgoto hrest =>
    cases hgoto.symm.trans hstart
    rw [Table.eq_one_of_reads_braces hrest rfl, hend] at hreject
    cases hreject

/-- The excerpts for listings of action code can always be drawn. -/
theorem Listing.excerpts_drawn_braces :
    Table.braces.HoldsInListings ⟨0, by decide⟩ fun source diagnostics =>
      ∀ style path, diagnostics.excerpts style source path =
        .ok (diagnostics.render style source path) :=
  (excerpts_drawn_iff Table.braces _).mpr Table.not_leavesWideToken_braces

/-- The definition of a table with a token that no input can finish: its start state goes on with
any character to a state that goes on for ever. -/
def Definition.endless : Definition where
  charClasses := []
  catchAll := 1
  classCount := 2
  modes := 1
  transitions := [[-2, 1], [-1, 1]]
  lexemeRules := []
  rules := [⟨"eoi", .emit⟩]

/-- It has no defect. -/
theorem Definition.defect?_endless : Definition.endless.defect? = none := by decide +kernel

/-- In that table an accented letter is an unfinished token of two bytes, of which one is to be
underlined: the excerpt cannot be drawn. -/
theorem Table.letter_cut_in_excerpt :
    ∃ table, Table.ofDefinition .endless = .ok table ∧
      let diagnostics : Diagnostics := ⟨[.ofKind .unexpectedEndOfInput .zero]⟩
      Listing.ofSource table "é" 0 false = .ok ⟨[], diagnostics⟩ ∧
        Excerpt.clamp .zero "é".utf8ByteSize = (0, 1) ∧ ¬ String.Pos.Raw.IsValid "é" ⟨1⟩ ∧
        diagnostics.excerpts .plain "é" none = .error (.insideCharacter 1 0 'é') := by
  have hmisuse : Excerpt.misuse? "é" (.ofKind .unexpectedEndOfInput .zero) =
      some (.insideCharacter 1 0 'é') := by decide +kernel
  refine ⟨_, Table.ofDefinition_of_defect?_eq_none Definition.defect?_endless, ?_⟩
  intro diagnostics
  refine ⟨?_, by decide +kernel, by decide +kernel, ?_⟩
  · refine (Listing.ofSource_eq_ok _ "é" ⟨0, by decide⟩ false).trans (congrArg Except.ok ?_)
    decide +kernel
  · rw [Diagnostics.excerpts, List.findSome?_singleton, hmisuse]

end ScanSchema
