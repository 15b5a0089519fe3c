import Mathlib.Algebra.Group.Nat.Defs
import ScanSchema.Json.Record
import ScanSchema.Proofs.Json.Integers
import ScanSchema.Proofs.Json.Strings

/-!
# Values laid out on lines can be read back

A reader accepts a JSON value if it takes it off its laid-out form, at any level, behind any blanks
and in front of anything that can follow a value there: a comma, a line end, or nothing. The readers
of strings, words and integers accept what is written for them. A list reader accepts an array if its
elements are accepted, and the reader of a record accepts an object whose members, one after the
other, fill a draft of the record.
-/

namespace ScanSchema.Json

/-- What can stand behind a value that is laid out on lines: nothing, a comma or a line end. -/
def EndsValue (rest : List Char) : Prop := ∀ c ∈ rest.head?, c = ',' ∨ c = '\n'

/-- Neither a comma nor a line end goes on with a number. -/
theorem EndsValue.endsNumber {rest : List Char} (h : EndsValue rest) : EndsNumber rest := by
  intro c hc
  obtain rfl | rfl := h c hc
  · decide
  · decide

/-- A value may stand at the end of the text. -/
theorem endsValue_nil : EndsValue [] := by
  intro c hc
  cases hc

/-- A comma may stand behind a value. -/
theorem endsValue_comma (rest : List Char) : EndsValue (',' :: rest) := by
  intro c hc
  cases hc
  exact .inl rfl

/-- A line end and the indentation behind it are blank. -/
theorem isBlank_of_mem_newline {level : Nat} {b : Char} (h : b ∈ newline level) :
    isBlank b = true := by
  obtain rfl | h := List.mem_cons.mp h
  · decide
  · rw [List.eq_of_mem_replicate h]
    decide

/-- A new line may begin behind a value. -/
theorem endsValue_newline (level : Nat) (rest : List Char) : EndsValue (newline level ++ rest) := by
  intro c hc
  cases hc
  exact .inr rfl

/-- An integer begins neither with a blank nor like the end of an array. -/
theorem plain_of_startsInteger {c : Char} (h : (c = '-' || c.isDigit) = true) :
    isBlank c = false ∧ c ≠ ']' := by
  have hne (d : Char) (hd : (d = '-' || d.isDigit) = false) : c ≠ d := by
    rintro rfl
    rw [hd] at h
    cases h
  exact ⟨by simp [isBlank, hne], hne ']' (by decide)⟩

/-- A value starts with a character that is neither blank nor a closing bracket. -/
theorem writePretty_eq_cons (level : Nat) (value : Json) :
    ∃ c text, writePretty level value = c :: text ∧ isBlank c = false ∧ c ≠ ']' := by
  match value with
  | .null => exact ⟨'n', "ull".toList, rfl, by decide, by decide⟩
  | .bool true => exact ⟨'t', "rue".toList, rfl, by decide, by decide⟩
  | .bool false => exact ⟨'f', "alse".toList, rfl, by decide, by decide⟩
  | .integer value =>
    obtain ⟨c, digits, hwritten, hc⟩ := exists_writeInteger_eq_cons value
    exact ⟨c, digits, hwritten, plain_of_startsInteger hc⟩
  | .string value => exact ⟨'"', _, by rw [writePretty, writeString], by decide, by decide⟩
  | .array [] => exact ⟨'[', _, by rw [writePretty], by decide, by decide⟩
  | .array (first :: others) => exact ⟨'[', _, by rw [writePretty]; simp, by decide, by decide⟩
  | .object [] => exact ⟨'\x7b', _, by rw [writePretty], by decide, by decide⟩
  | .object (first :: others) => exact ⟨'\x7b', _, by rw [writePretty]; simp, by decide, by decide⟩

namespace Reader

variable {α β : Type}

/-- A reader takes a value off its laid-out form, whatever stands around it. -/
def Accepts (reader : Reader α) (json : Json) (value : α) : Prop :=
  ∀ (level : Nat) {blanks rest : List Char}, (∀ b ∈ blanks, isBlank b = true) → EndsValue rest →
    reader.Takes (blanks ++ (writePretty level json ++ rest)) value rest

/-- What is made of a value is taken off with it. -/
theorem Takes.map {reader : Reader α} {text rest : List Char} {value : α}
    (h : reader.Takes text value rest) (f : α → β) : (reader.map f).Takes text (f value) rest := by
  obtain ⟨hlt, hread⟩ := h
  refine ⟨hlt, ?_⟩
  rw [Reader.map, hread]
  rfl

/-- What is made of an accepted value is accepted as well. -/
theorem Accepts.map {reader : Reader α} {json : Json} {value : α} (h : reader.Accepts json value)
    (f : α → β) : (reader.map f).Accepts json (f value) :=
  fun level _ _ hblanks hrest => (h level hblanks hrest).map f

/-- A string is read from its laid-out form. -/
theorem accepts_string (text : String) : string.Accepts (.string text) text := by
  intro level blanks rest hblanks hrest
  obtain ⟨left, hnext, h, hread⟩ := read_writeString hblanks text rest
  rw [writePretty]
  refine ⟨Nat.lt_trans h left.property, ?_⟩
  simp only [string, hnext, if_true, hread, bind, Except.bind, String.ofList_toList]
  rfl

/-- A word is read as its meaning. -/
theorem accepts_word {words : List (String × α)} {word : String} {value : α}
    (hvalue : words.lookup word = some value) :
    (Reader.word words).Accepts (.string word) value := by
  intro level blanks rest hblanks hrest
  obtain ⟨left, hnext, h, hread⟩ := read_writeString hblanks word rest
  rw [writePretty]
  refine ⟨Nat.lt_trans h left.property, ?_⟩
  simp only [Reader.word, hnext, if_true, hread, bind, Except.bind, meaning, String.ofList_toList,
    hvalue]
  rfl

/-- An integer of 64 bits is read if it is in the range asked for. -/
theorem accepts_integer {expected : String} {ofInt? : Int → Option α} {n : Int} {value : α}
    (hlow : -0x8000000000000000 ≤ n) (hhigh : n < 0x10000000000000000)
    (hvalue : ofInt? n = some value) : (integer expected ofInt?).Accepts (.integer n) value := by
  intro level blanks rest hblanks hrest
  obtain ⟨c, digits, hdigits, hc⟩ := exists_writeInteger_eq_cons n
  obtain ⟨hlt, hnext⟩ := next_append hblanks (plain_of_startsInteger hc).1 (digits ++ rest)
  obtain ⟨hle, hread⟩ := readNumber_writeInteger hlow hhigh hdigits hrest.endsNumber
  have hwritten : blanks ++ (writePretty level (.integer n) ++ rest) =
      blanks ++ c :: (digits ++ rest) := by
    rw [writePretty, hdigits, List.cons_append]
  rw [hwritten]
  refine ⟨Nat.lt_of_le_of_lt hle hlt, ?_⟩
  simp only [integer, hnext, hc, if_true, hread, bind, Except.bind, hvalue]
  rfl

/-- A number of eight bits is read from its laid-out form. -/
theorem accepts_uint8 (n : UInt8) : uint8.Accepts (.integer n.toNat) n := by
  have h := n.toNat_lt
  refine accepts_integer (by omega) (by omega) ?_
  rw [if_pos (by omega), Int.toNat_natCast, UInt8.ofNat_toNat]

/-- A number of 16 bits is read from its laid-out form. -/
theorem accepts_uint16 (n : UInt16) : uint16.Accepts (.integer n.toNat) n := by
  have h := n.toNat_lt
  refine accepts_integer (by omega) (by omega) ?_
  rw [if_pos (by omega), Int.toNat_natCast, UInt16.ofNat_toNat]

/-- A signed number of 32 bits is read from its laid-out form. -/
theorem accepts_int32 (n : Int32) : int32.Accepts (.integer n.toInt) n := by
  have hle := n.le_toInt
  have hlt := n.toInt_lt
  refine accepts_integer (by omega) (by omega) ?_
  rw [if_pos (by omega), Int32.ofInt_toInt]

/-- A number is read as a count if it has at most 64 bits. -/
theorem accepts_count {n : Nat} (h : n < 2 ^ 64) : count.Accepts (.integer n) n := by
  refine accepts_integer (by omega) (by omega) ?_
  rw [if_pos (by omega), Int.toNat_natCast]

/-! ### Arrays -/

/-- What is written behind an element of an array. -/
def elementsBehind (level : Nat) : List Json → List Char
  | [] => newline level ++ [']']
  | element :: others => ',' :: prettyElements level (element :: others)

/-- The first element is laid out on a line of its own, and the others follow. -/
theorem prettyElements_cons (level : Nat) (first : Json) (others : List Json) :
    prettyElements level (first :: others) =
      newline (level + 1) ++ (writePretty (level + 1) first ++ elementsBehind level others) := by
  cases others with
  | nil => simp only [prettyElements, elementsBehind, List.append_assoc]
  | cons second others => rw [prettyElements, elementsBehind, List.append_assoc]; simp

/-- What is written behind an element may stand behind a value. -/
theorem endsValue_elementsBehind (level : Nat) (elements : List Json) (rest : List Char) :
    EndsValue (elementsBehind level elements ++ rest) := by
  cases elements with
  | nil =>
    rw [elementsBehind, List.append_assoc]
    exact endsValue_newline level _
  | cons element others => exact endsValue_comma _

/-- A value does not look like the end of an array. -/
theorem next_writePretty {blanks : List Char} (hblanks : ∀ b ∈ blanks, isBlank b = true)
    (level : Nat) (value : Json) (rest : List Char) :
    ∃ c left, next (blanks ++ (writePretty level value ++ rest)) = .char c left ∧ c ≠ ']' := by
  obtain ⟨c, text, hwritten, hblank, hc⟩ := writePretty_eq_cons level value
  obtain ⟨h, hnext⟩ := next_append hblanks hblank (text ++ rest)
  rw [hwritten, List.cons_append]
  exact ⟨c, _, hnext, hc⟩

section Arrays

variable {reader : Reader α} {toJson : α → Json}

/-- An element is read from the front of the lines of an array, and does not look like its end. -/
theorem read_element {v : α} (h : reader.Accepts (toJson v) v) (level : Nat) (others : List Json)
    (rest : List Char) :
    (∃ c left, next (prettyElements level (toJson v :: others) ++ rest) = .char c left ∧ c ≠ ']') ∧
      reader.Takes (prettyElements level (toJson v :: others) ++ rest) v
        (elementsBehind level others ++ rest) := by
  have hblanks (b : Char) (hb : b ∈ newline (level + 1)) := isBlank_of_mem_newline hb
  rw [prettyElements_cons, List.append_assoc, List.append_assoc]
  exact ⟨next_writePretty hblanks (level + 1) (toJson v) _,
    h (level + 1) hblanks (endsValue_elementsBehind level others rest)⟩

/-- The elements of an array are read one by one up to the bracket. -/
theorem takes_elements {values : List α} (h : ∀ v ∈ values, reader.Accepts (toJson v) v)
    (level : Nat) (rest : List Char) :
    Reader.Takes (elements reader) (elementsBehind level (values.map toJson) ++ rest) values
      rest := by
  induction values with
  | nil =>
    have hblanks (b : Char) (hb : b ∈ newline level) := isBlank_of_mem_newline hb
    obtain ⟨hlt, hnext⟩ := next_append hblanks (by decide : isBlank ']' = false) rest
    rw [List.map_nil, elementsBehind, List.append_assoc, List.singleton_append]
    refine ⟨hlt, ?_⟩
    rw [elements, hnext]
    rfl
  | cons v values ih =>
    obtain ⟨hothers, hread⟩ := ih fun w hw => h w (List.mem_cons_of_mem v hw)
    obtain ⟨⟨c, left, hinside, hc⟩, hle, helement⟩ :=
      read_element (h v List.mem_cons_self) level (values.map toJson) rest
    obtain ⟨hlt, hnext⟩ := next_cons (by decide : isBlank ',' = false)
      (prettyElements level (toJson v :: values.map toJson) ++ rest)
    rw [List.map_cons, elementsBehind, List.cons_append]
    refine ⟨Nat.lt_trans hothers (Nat.lt_trans hle hlt), ?_⟩
    rw [elements, hnext]
    simp only [show ¬ ',' = ']' by decide, if_false, if_true, hinside, if_neg hc, helement, bind,
      Except.bind, Shorter.trans, hread]
    rfl

/-- An array is read if its elements are. -/
theorem accepts_list {values : List α} (h : ∀ v ∈ values, reader.Accepts (toJson v) v) :
    (list reader).Accepts (.array (values.map toJson)) values := by
  intro level blanks rest hblanks hrest
  cases values with
  | nil =>
    obtain ⟨hclosed, hclose⟩ := next_cons (by decide : isBlank ']' = false) rest
    obtain ⟨hlt, hnext⟩ := next_append hblanks (by decide : isBlank '[' = false) (']' :: rest)
    rw [List.map_nil, writePretty, List.cons_append, List.singleton_append]
    refine ⟨Nat.lt_trans hclosed hlt, ?_⟩
    simp only [list, hnext, if_true, hclose]
    rfl
  | cons v values =>
    obtain ⟨hothers, hread⟩ :=
      takes_elements (fun w hw => h w (List.mem_cons_of_mem v hw)) level rest
    obtain ⟨⟨c, left, hinside, hc⟩, hle, helement⟩ :=
      read_element (h v List.mem_cons_self) level (values.map toJson) rest
    obtain ⟨hlt, hnext⟩ := next_append hblanks (by decide : isBlank '[' = false)
      (prettyElements level (toJson v :: values.map toJson) ++ rest)
    rw [List.map_cons, writePretty, List.cons_append]
    · refine ⟨Nat.lt_trans hothers (Nat.lt_trans hle hlt), ?_⟩
      simp only [list, hnext, if_true, hinside, if_neg hc, helement, bind, Except.bind, hread]
      rfl
    · exact List.cons_ne_nil _ _

end Arrays

end Reader

/-! ### Objects -/

/-- What is written behind a member of an object. -/
def membersBehind (level : Nat) : List (String × Json) → List Char
  | [] => newline level ++ ['\x7d']
  | member :: others => ',' :: prettyMembers level (member :: others)

/-- The first member is laid out on a line of its own, and the others follow. -/
theorem prettyMembers_cons (level : Nat) (key : String) (first : Json)
    (others : List (String × Json)) :
    prettyMembers level ((key, first) :: others) =
      newline (level + 1) ++ (writeString key ++ ':' :: ' ' ::
        (writePretty (level + 1) first ++ membersBehind level others)) := by
  cases others with
  | nil => simp only [prettyMembers, membersBehind, List.append_assoc]
  | cons second others => rw [prettyMembers, membersBehind, List.append_assoc]; simp

/-- What is written behind a member may stand behind a value. -/
theorem endsValue_membersBehind (level : Nat) (members : List (String × Json)) (rest : List Char) :
    EndsValue (membersBehind level members ++ rest) := by
  cases members with
  | nil =>
    rw [membersBehind, List.append_assoc]
    exact endsValue_newline level _
  | cons member others => exact endsValue_comma _

namespace RecordShape

variable {δ α : Type}

/-- Some members, one after the other, take a draft of a record to another: each is a field that was
not found before, and its reader accepts the value. -/
inductive Fills (shape : RecordShape δ α) : δ → List (String × Json) → δ → Prop where
  /-- No members leave a draft as it is. -/
  | nil (draft : δ) : Fills shape draft [] draft
  /-- A member updates the draft that the others are put into. -/
  | cons {draft final : δ} {key : String} {value : Json} {members : List (String × Json)}
    {slot : Slot δ} {update : δ → δ} (hslot : shape.slots.find? (·.name == key) = some slot)
    (hunset : slot.isSet draft = false) (hvalue : slot.read.Accepts value update)
    (hmembers : Fills shape (update draft) members final) :
    Fills shape draft ((key, value) :: members) final

variable {shape : RecordShape δ α} {draft final : δ}

/-- A member whose value is read and then put into the draft. -/
theorem Fills.field {β : Type} {reader : Reader β} {put : β → δ → δ} {key name : String}
    {isOptional : Bool} {isSet : δ → Bool} {json : Json} {value : β}
    {members : List (String × Json)}
    (hslot : shape.slots.find? (·.name == key) =
      some { name, isOptional, isSet, read := reader.map put })
    (hunset : isSet draft = false) (hvalue : reader.Accepts json value)
    (hmembers : shape.Fills (put value draft) members final) :
    shape.Fills draft ((key, json) :: members) final :=
  .cons hslot hunset (hvalue.map put) hmembers

/-- A member is read from behind the opening quote of its key. -/
theorem takes_member {slot : Slot δ} {key : String} {value : Json} {update : δ → δ}
    (hslot : shape.slots.find? (·.name == key) = some slot) (hunset : slot.isSet draft = false)
    (hvalue : slot.read.Accepts value update) {level : Nat} {text rest : List Char}
    (hkey : Reader.Takes readString text key.toList
      (':' :: ' ' :: (writePretty level value ++ rest)))
    (hrest : EndsValue rest) : Reader.Takes (shape.member draft) text (update draft) rest := by
  obtain ⟨hlt, hkey⟩ := hkey
  obtain ⟨hcolon, hnext⟩ := next_cons (by decide : isBlank ':' = false)
    (' ' :: (writePretty level value ++ rest))
  have hblank : ∀ b ∈ [' '], isBlank b = true := by
    intro b hb
    rw [List.mem_singleton.mp hb]
    decide
  obtain ⟨hle, hread⟩ : slot.read.Takes (' ' :: (writePretty level value ++ rest)) update rest :=
    hvalue level hblank hrest
  refine ⟨Nat.lt_trans hle (Nat.lt_trans hcolon hlt), ?_⟩
  simp only [member, hkey, bind, Except.bind, String.ofList_toList, hslot, hunset, Reader.colon,
    hnext, if_true, hread]
  rfl

/-- A member is read from the front of the lines of an object. -/
theorem read_member {slot : Slot δ} {key : String} {value : Json} {update : δ → δ}
    (hslot : shape.slots.find? (·.name == key) = some slot) (hunset : slot.isSet draft = false)
    (hvalue : slot.read.Accepts value update) (level : Nat) (others : List (String × Json))
    (rest : List Char) :
    ∃ left, next (prettyMembers level ((key, value) :: others) ++ rest) = .char '"' left ∧
      Reader.Takes (shape.member draft) left (update draft) (membersBehind level others ++ rest) := by
  have hblanks (b : Char) (hb : b ∈ newline (level + 1)) := isBlank_of_mem_newline hb
  obtain ⟨left, hquote, hkey⟩ := read_writeString hblanks key
    (':' :: ' ' :: (writePretty (level + 1) value ++ (membersBehind level others ++ rest)))
  have hwritten : prettyMembers level ((key, value) :: others) ++ rest =
      newline (level + 1) ++ (writeString key ++ (':' :: ' ' ::
        (writePretty (level + 1) value ++ (membersBehind level others ++ rest)))) := by
    simp only [prettyMembers_cons, List.cons_append, List.append_assoc]
  rw [hwritten]
  exact ⟨left, hquote,
    takes_member hslot hunset hvalue hkey (endsValue_membersBehind level others rest)⟩

variable {record : α} {members : List (String × Json)}

/-- What follows a member is read to the end of the object. -/
theorem takes_members (hmembers : shape.Fills draft members final)
    (hfinish : shape.finish final = .ok record) (level : Nat) (rest : List Char) :
    Reader.Takes (shape.members draft) (membersBehind level members ++ rest) record rest := by
  induction hmembers with
  | nil draft =>
    have hblanks (b : Char) (hb : b ∈ newline level) := isBlank_of_mem_newline hb
    obtain ⟨hlt, hnext⟩ := next_append hblanks (by decide : isBlank '\x7d' = false) rest
    rw [membersBehind, List.append_assoc, List.singleton_append]
    refine ⟨hlt, ?_⟩
    rw [RecordShape.members, hnext]
    simp only [if_true, close, hfinish]
    rfl
  | @cons draft final key value others slot update hslot hunset hvalue hothers ih =>
    obtain ⟨left, hquote, hle, hmember⟩ := read_member hslot hunset hvalue level others rest
    obtain ⟨hothers, hread⟩ := ih hfinish
    obtain ⟨hlt, hnext⟩ := next_cons (by decide : isBlank ',' = false)
      (prettyMembers level ((key, value) :: others) ++ rest)
    rw [membersBehind, List.cons_append]
    refine ⟨Nat.lt_trans hothers (Nat.lt_trans hle (Nat.lt_trans left.property hlt)), ?_⟩
    rw [RecordShape.members, hnext]
    simp only [show ¬ ',' = '\x7d' by decide, if_false, if_true, hquote, hmember, bind, Except.bind,
      Shorter.trans, hread]
    rfl

/-- A record is read from an object whose members fill its draft. -/
theorem accepts_object (hmembers : shape.Fills shape.blank members final)
    (hfinish : shape.finish final = .ok record) : shape.reader.Accepts (.object members) record := by
  intro level blanks rest hblanks hrest
  have hbrace : ¬ '\x7b' = '[' := by decide
  cases hmembers with
  | nil =>
    obtain ⟨hclosed, hclose⟩ := next_cons (by decide : isBlank '\x7d' = false) rest
    obtain ⟨hlt, hnext⟩ := next_append hblanks (by decide : isBlank '\x7b' = false)
      ('\x7d' :: rest)
    rw [writePretty, List.cons_append, List.singleton_append]
    refine ⟨Nat.lt_trans hclosed hlt, ?_⟩
    simp only [reader, hnext, hbrace, if_false, if_true, firstMember, hclose, close, hfinish, bind,
      Except.bind]
    rfl
  | @cons _ _ key value others slot update hslot hunset hvalue hothers =>
    obtain ⟨left, hquote, hle, hmember⟩ := read_member hslot hunset hvalue level others rest
    obtain ⟨hothers, hread⟩ := takes_members hothers hfinish level rest
    obtain ⟨hlt, hnext⟩ := next_append hblanks (by decide : isBlank '\x7b' = false)
      (prettyMembers level ((key, value) :: others) ++ rest)
    rw [writePretty, List.cons_append]
    · refine ⟨Nat.lt_trans hothers (Nat.lt_trans hle (Nat.lt_trans left.property hlt)), ?_⟩
      simp only [reader, hnext, hbrace, if_false, if_true, firstMember, hquote,
        show ¬ '"' = '\x7d' by decide, hmember, bind, Except.bind, hread]
      rfl
    · exact List.cons_ne_nil _ _

end RecordShape

/-- A text with one value is read to its end. -/
theorem readDocument_pretty {α : Type} {reader : Reader α} {json : Json} {value : α}
    (h : reader.Accepts json value) : readDocument reader json.pretty = .ok value := by
  have hblanks : ∀ b ∈ ([] : List Char), isBlank b = true := fun _ hb => absurd hb List.not_mem_nil
  have htext : json.pretty.toList = writePretty 0 json := String.toList_ofList
  have htakes := h 0 hblanks endsValue_nil
  rw [List.nil_append, List.append_nil, ← htext] at htakes
  obtain ⟨hlt, hread⟩ := htakes
  rw [readDocument, hread]
  rfl

end ScanSchema.Json
