import Mathlib.Data.List.Basic
import Mathlib.Data.List.Induction
import ScanSchema.Diagnostic.Basic

/-!
# What the message of a diagnostic says

A template is cut at its holes into pieces, and a message is the pieces with the detail between any two.
The detail is put there as it is, also if it looks like a hole or like a piece. The template of every kind
has two pieces, so a message is a text of the kind, the detail once, and another text of the kind, and the
detail can be told from it. A diagnostic is worded by a run of calls, some of which give a detail and others
a hint: the last detail alone decides on the message, whatever hints come between, and all hints stay.
-/

namespace ScanSchema

namespace DiagnosticKind

variable {detail text : List Char}

section Holes

/-- A text cut at its holes. Where there is none, it is one piece. -/
def pieces : List Char → List (List Char)
  | '\x7b' :: '\x7d' :: rest => [] :: pieces rest
  | c :: rest => (pieces rest).modifyHead (c :: ·)
  | [] => [[]]

/-- A text has at least one piece. -/
theorem pieces_ne_nil (text : List Char) : pieces text ≠ [] := by
  fun_induction pieces text with
  | case1 => exact List.cons_ne_nil _ _
  | case2 c rest _ ih => simpa using ih
  | case3 => exact List.cons_ne_nil _ _

/-- A character in front of the first part stands in front of the whole. -/
theorem intercalate_modifyHead_cons (separator : List Char) (c : Char) {parts : List (List Char)}
    (h : parts ≠ []) : separator.intercalate (parts.modifyHead (c :: ·)) =
      c :: separator.intercalate parts := by
  obtain ⟨first, others, rfl⟩ := List.exists_cons_of_ne_nil h
  cases others with
  | nil => rw [List.modifyHead_cons, List.intercalate_singleton, List.intercalate_singleton]
  | cons second others =>
    rw [List.modifyHead_cons, List.intercalate_cons_cons, List.intercalate_cons_cons]
    rfl

/-- A template that is filled is its pieces with the detail between any two. -/
theorem fill_eq_intercalate (detail text : List Char) :
    fill detail text = detail.intercalate (pieces text) := by
  fun_induction pieces text with
  | case1 rest ih =>
    obtain ⟨first, others, hpieces⟩ := List.exists_cons_of_ne_nil (pieces_ne_nil rest)
    rw [fill, ih, hpieces, List.intercalate_cons_cons, List.nil_append]
  | case2 c rest hhole ih =>
    rw [intercalate_modifyHead_cons detail c (pieces_ne_nil rest), ← ih, fill]
    exact hhole
  | case3 => rfl

/-- A text is its pieces with holes between any two. -/
theorem intercalate_pieces (text : List Char) :
    ['\x7b', '\x7d'].intercalate (pieces text) = text := by
  rw [← fill_eq_intercalate]
  fun_induction fill ['\x7b', '\x7d'] text with
  | case1 rest ih => rw [ih]; rfl
  | case2 c rest _ ih => rw [ih]
  | case3 => rfl

/-- In a template with one hole the detail stands once, and nothing is put into it. -/
theorem fill_of_pieces_eq {front back : List Char} (h : pieces text = [front, back]) :
    fill detail text = front ++ detail ++ back := by
  rw [fill_eq_intercalate, h, List.intercalate_cons_cons, List.intercalate_singleton]

end Holes

section Templates

variable (kind : DiagnosticKind)

/-- The template of every kind has one hole. -/
theorem length_pieces_template : (pieces kind.template.toList).length = 2 := by
  cases kind <;> decide +kernel

/-- The two parts of a template, in front of the hole and behind it. -/
theorem exists_pieces_template :
    ∃ front back : String, pieces kind.template.toList = [front.toList, back.toList] := by
  obtain ⟨front, back, hpieces⟩ := List.length_eq_two.mp kind.length_pieces_template
  refine ⟨String.ofList front, String.ofList back, ?_⟩
  rw [hpieces, String.toList_ofList, String.toList_ofList]

/-- A wording of two pieces has one hole between them. -/
theorem template_of_pieces_eq {front back : String}
    (h : pieces kind.template.toList = [front.toList, back.toList]) :
    kind.template = front ++ "\x7b\x7d" ++ back := by
  have htemplate : kind.template.toList = front.toList ++ ['\x7b', '\x7d'] ++ back.toList := by
    rw [← fill_of_pieces_eq h, fill_eq_intercalate, intercalate_pieces]
  rw [← String.toList_inj, htemplate, String.toList_append, String.toList_append]
  rfl

/-- A message with a detail is the template with the detail in the place of the hole. -/
theorem message_of_pieces_eq {front back : String}
    (h : pieces kind.template.toList = [front.toList, back.toList]) (detail : String) :
    kind.message (some detail) = front ++ detail ++ back := by
  have hmessage : (kind.message (some detail)).toList =
      fill detail.toList kind.template.toList := String.toList_ofList
  rw [← String.toList_inj, hmessage, fill_of_pieces_eq h, String.toList_append,
    String.toList_append]

/-- Messages of one kind differ where the details do. -/
theorem message_some_inj {detail other : String} :
    kind.message (some detail) = kind.message (some other) ↔ detail = other := by
  obtain ⟨front, back, hpieces⟩ := kind.exists_pieces_template
  rw [kind.message_of_pieces_eq hpieces, kind.message_of_pieces_eq hpieces,
    String.append_left_inj, String.append_right_inj]

end Templates

end DiagnosticKind

namespace Diagnostic

/-- A call on a diagnostic that is not reported yet. -/
inductive Call where
  /-- Word the message for a detail. -/
  | detail (text : String)
  /-- Add a hint. -/
  | hint (text : String)
  deriving DecidableEq, Repr

namespace Call

/-- The detail that a call gives. -/
def detail? : Call → Option String
  | .detail text => some text
  | .hint _ => none

/-- The hint that a call gives. -/
def hint? : Call → Option String
  | .detail _ => none
  | .hint text => some text

end Call

/-- The diagnostic after a call. -/
def perform (diagnostic : Diagnostic) : Call → Diagnostic
  | .detail text => diagnostic.withDetail text
  | .hint text => diagnostic.withHint text

/-- A diagnostic of a kind after some calls. -/
def worded (kind : DiagnosticKind) (span : Span) (calls : List Call) : Diagnostic :=
  calls.foldl perform (ofKind kind span)

/-- The detail of the last call that gives one. -/
def lastDetail? (calls : List Call) : Option String := (calls.filterMap Call.detail?).getLast?

variable {kind : DiagnosticKind} {span : Span} {calls : List Call}

/-- A new detail is the last one. -/
theorem lastDetail?_append_detail (calls : List Call) (text : String) :
    lastDetail? (calls ++ [.detail text]) = some text := by
  rw [lastDetail?, List.filterMap_append]
  exact List.getLast?_concat

/-- A hint leaves the last detail as it is. -/
theorem lastDetail?_append_hint (calls : List Call) (text : String) :
    lastDetail? (calls ++ [.hint text]) = lastDetail? calls := by
  rw [lastDetail?, lastDetail?, List.filterMap_append]
  exact congrArg List.getLast? (List.append_nil _)

/-- One more call with a detail words the message for it, whatever it was before. -/
theorem worded_append_detail (text : String) :
    worded kind span (calls ++ [.detail text]) = (worded kind span calls).withDetail text := by
  rw [worded, List.foldl_append]
  rfl

/-- One more hint leaves the message. -/
theorem worded_append_hint (text : String) :
    worded kind span (calls ++ [.hint text]) = (worded kind span calls).withHint text := by
  rw [worded, List.foldl_append]
  rfl

/-- After some calls the message is that of the last detail, and all hints are there. -/
theorem worded_eq (kind : DiagnosticKind) (span : Span) (calls : List Call) :
    worded kind span calls =
      { kind, span
        message := kind.message (lastDetail? calls)
        hints := kind.defaultHint.toList ++ calls.filterMap Call.hint? } := by
  induction calls using List.reverseRecOn with
  | nil =>
    rw [List.filterMap_nil, List.append_nil]
    rfl
  | append_singleton calls call ih =>
    cases call with
    | detail text =>
      have hhints : (calls ++ [Call.detail text]).filterMap Call.hint? =
          calls.filterMap Call.hint? := by
        rw [List.filterMap_append]
        exact List.append_nil _
      rw [worded_append_detail, ih, lastDetail?_append_detail, hhints]
      rfl
    | hint text =>
      rw [worded_append_hint, ih, lastDetail?_append_hint, List.filterMap_append,
        ← List.append_assoc]
      rfl

/-- A message with a detail is a text of the kind, the detail as it is, and another text of the kind. So it
tells the detail. A diagnostic that is reported after some calls has the message for the last detail among
them, or the message without a detail if there is none. -/
theorem detail_stands_once (kind : DiagnosticKind) :
    (∃ front back : String, kind.template = front ++ "\x7b\x7d" ++ back ∧
      ∀ detail, kind.message (some detail) = front ++ detail ++ back) ∧
    (∀ detail other, kind.message (some detail) = kind.message (some other) ↔ detail = other) ∧
    ∀ (span : Span) (calls : List Call) (diagnostics : Diagnostics),
      (diagnostics.report (worded kind span calls)).entries = diagnostics.entries ++
        [{ kind, span
           message := kind.message (lastDetail? calls)
           hints := kind.defaultHint.toList ++ calls.filterMap Call.hint? }] := by
  obtain ⟨front, back, hpieces⟩ := kind.exists_pieces_template
  have htemplate := kind.template_of_pieces_eq hpieces
  refine ⟨⟨front, back, htemplate, fun detail => ?_⟩, fun detail other => ?_, ?_⟩
  · exact kind.message_of_pieces_eq hpieces detail
  · exact kind.message_some_inj
  · intro span calls diagnostics
    rw [Diagnostics.entries_report, worded_eq]

/-- A detail that looks like a hole is put into the message like any other. -/
example : DiagnosticKind.invalidToken.message (some "`\x7b\x7d`") =
    "invalid token `\x7b\x7d`, skipped" := by decide +kernel

end Diagnostic

end ScanSchema
