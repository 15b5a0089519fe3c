import Mathlib.Algebra.Group.Int.Defs
import ScanSchema.Proofs.Binary.Unpacking
import ScanSchema.Proofs.Table.Flattening
import ScanSchema.Table.Braces
import ScanSchema.Table.Load

/-!
# Binary tables can be read back

Every part of a definition is packed so that unpacking undoes it, and so is the definition, except
that its two counts have to fit in 64 bits. They do in the definition of a table: a row takes at
least a byte for each class, and there is a state for each mode. The header tells the length of what
it stands in front of in 32 bits, so a table whose packed definition is shorter than `2 ^ 32` bytes is
read back from its binary form.
-/

namespace ScanSchema

open Binary

/-- The packed number of an outcome's code has 32 bits. -/
theorem zigzag_toInt_lt (code : Int32) : zigzag code.toInt < 2 ^ 32 := by
  have hle : -2 ^ 31 ≤ code.toInt := code.le_toInt
  have hlt : code.toInt < 2 ^ 31 := code.toInt_lt
  cases h : code.toInt with
  | ofNat n =>
    rw [h, Int.ofNat_eq_natCast] at hlt
    rw [zigzag]
    omega
  | negSucc n =>
    rw [h] at hle
    rw [zigzag]
    omega

/-- A code is unpacked again. -/
theorem undoes_packCode : Undoes unpackCode packCode where
  ne_nil _ := packNat_ne_nil _
  unpack_pack code rest _ := by
    rw [packCode, unpackCode, unpack32_packNat (zigzag_toInt_lt code)]
    simp only [bind, Except.bind, pure, Except.pure, unzigzag_zigzag, Int32.ofInt_toInt]

/-- The number of a rule is unpacked again. -/
theorem undoes_packRuleNumber : Undoes unpackRuleNumber packRuleNumber where
  ne_nil _ := packNat_ne_nil _
  unpack_pack number rest _ := by
    rw [packRuleNumber, unpackRuleNumber, unpack16_packNat number.toNat_lt]
    simp only [bind, Except.bind, pure, Except.pure, UInt16.ofNat_toNat]

/-- An action is unpacked again. -/
theorem RuleAction.undoes_pack : Undoes RuleAction.unpack RuleAction.pack where
  ne_nil action := by cases action <;> exact packNat_ne_nil _
  unpack_pack action rest _ := by
    cases action with
    | emit =>
      rw [pack, unpack, unpack32_packNat (by decide)]
      rfl
    | skip =>
      rw [pack, unpack, unpack32_packNat (by decide)]
      rfl

/-- A rule is unpacked again. -/
theorem Rule.undoes_pack : Undoes Rule.unpack Rule.pack where
  ne_nil rule := by simp [pack, undoes_packText.ne_nil]
  unpack_pack rule rest hlen := by
    rw [pack, List.length_append] at hlen
    rw [pack, unpack, List.append_assoc, undoes_packText.unpack_pack _ _ (by omega)]
    simp only [bind, Except.bind, pure, Except.pure,
      RuleAction.undoes_pack.unpack_pack _ _ (by omega : rule.action.pack.length < 2 ^ 64)]

namespace Definition

/-- A definition comes back from its packed form if its counts have 64 bits. -/
theorem unpack_pack {definition : Definition} (hclasses : definition.classCount < 2 ^ 64)
    (hmodes : definition.modes < 2 ^ 64) (hlen : definition.pack.length < 2 ^ 64)
    (rest : List UInt8) : unpack (definition.pack ++ rest) = .ok (definition, rest) := by
  simp only [pack, List.length_append, List.length_cons] at hlen
  have hcharClasses rest := undoes_byte.list.unpack_pack definition.charClasses rest (by omega)
  have htransitions rest :=
    undoes_packCode.list.list.unpack_pack definition.transitions rest (by omega)
  have hlexemeRules rest :=
    undoes_packRuleNumber.list.unpack_pack definition.lexemeRules rest (by omega)
  have hrules rest := Rule.undoes_pack.list.unpack_pack definition.rules rest (by omega)
  simp only [pack, unpack, List.append_assoc, List.cons_append, hcharClasses, unpackByte,
    unpack64_packNat hclasses, unpack64_packNat hmodes, htransitions, hlexemeRules, hrules, bind,
    Except.bind, pure, Except.pure]

/-- There are no more states than bytes, as every row takes a byte. -/
theorem stateCount_le_length_pack (definition : Definition) :
    definition.stateCount ≤ definition.pack.length := by
  have h := undoes_packCode.list.length_le_packList definition.transitions
  simp only [pack, List.length_append, List.length_cons, stateCount] at h ⊢
  omega

/-- A row has no more codes than the packed definition has bytes. -/
theorem length_row_le_length_pack {definition : Definition} {row : List Int32}
    (hrow : row ∈ definition.transitions) : row.length ≤ definition.pack.length := by
  have h := undoes_packCode.length_le_packList row
  have hle := length_pack_le_packList (packList packCode) hrow
  simp only [pack, List.length_append, List.length_cons] at h hle ⊢
  omega

end Definition

namespace Blob

/-- A word takes four bytes. -/
theorem length_writeWord (n : Nat) : (writeWord n).length = 4 := rfl

/-- A word is read where it was written. -/
theorem readWord_append {n place : Nat} (h : n < 2 ^ 32) {front : List UInt8}
    (hfront : front.length = place) (back : List UInt8) :
    readWord (front ++ (writeWord n ++ back)) place = n := by
  have hbyte (k : Nat) (hk : k < 4) :
      (front ++ (writeWord n ++ back))[place + k]? = (writeWord n)[k]? := by
    rw [List.getElem?_append_right (by omega), hfront, Nat.add_sub_cancel_left,
      List.getElem?_append_left (by rwa [length_writeWord])]
  have hvalue : n % 0x100 + 0x100 * (n / 0x100 % 0x100) + 0x10000 * (n / 0x10000 % 0x100) +
      0x1000000 * (n / 0x1000000 % 0x100) = n := by omega
  simp only [readWord, hbyte 0 (by decide), hbyte 1 (by decide), hbyte 2 (by decide),
    hbyte 3 (by decide)]
  simpa only [writeWord, List.getElem?_cons_zero, List.getElem?_cons_succ, Option.getD_some,
    UInt8.toNat_ofNat'] using hvalue

section Header

variable (payload rest : List UInt8)

/-- The header stands in front of the payload. -/
theorem length_addHeader : (addHeader payload).length = headerSize + payload.length := by
  simp only [addHeader, List.length_append, length_writeWord, magic, headerSize, List.length_cons,
    List.length_nil]

/-- A blob begins with the mark of the format. -/
theorem take_addHeader : (addHeader payload ++ rest).take 4 = magic := rfl

/-- The payload and what follows stand behind the header. -/
theorem drop_addHeader : (addHeader payload ++ rest).drop headerSize = payload ++ rest := rfl

/-- The version is read from its place in the header. -/
theorem readWord_version : readWord (addHeader payload ++ rest) 4 = version := by
  have hversion : version < 2 ^ 32 := by decide
  have hfront : magic.length = 4 := rfl
  simpa only [addHeader, List.append_assoc] using readWord_append hversion hfront
    (writeWord (Checksum.crc32 payload).toNat ++ (writeWord payload.length ++ (payload ++ rest)))

/-- So is the checksum of the payload. -/
theorem readWord_checksum :
    readWord (addHeader payload ++ rest) 8 = (Checksum.crc32 payload).toNat := by
  have hchecksum := (Checksum.crc32 payload).toNat_lt
  have hfront : (magic ++ writeWord version).length = 8 := rfl
  simpa only [addHeader, List.append_assoc] using readWord_append hchecksum hfront
    (writeWord payload.length ++ (payload ++ rest))

/-- So is the length of the payload, if it is a word. -/
theorem readWord_size (h : payload.length < 2 ^ 32) :
    readWord (addHeader payload ++ rest) 12 = payload.length := by
  have hfront : (magic ++ writeWord version ++
      writeWord (Checksum.crc32 payload).toNat).length = 12 := rfl
  simpa only [addHeader, List.append_assoc] using readWord_append h hfront (payload ++ rest)

/-- What stands behind a header is read back, without the bytes that follow it. -/
theorem readPayload_addHeader (h : payload.length < 2 ^ 32) :
    readPayload (addHeader payload ++ rest) = .ok payload := by
  have hlong : ¬ (addHeader payload ++ rest).length < headerSize := by
    rw [List.length_append, length_addHeader]
    omega
  have htake : ((addHeader payload ++ rest).drop headerSize).take payload.length = payload := by
    rw [drop_addHeader, List.take_left]
  rw [readPayload, if_neg hlong, take_addHeader, if_neg (not_not_intro rfl), readWord_version,
    if_neg (not_not_intro rfl), readWord_checksum, readWord_size payload rest h]
  simp only [htake, Nat.lt_irrefl, if_false, UInt32.ofNat_toNat, if_true]

end Header

end Blob

/-- A definition is read back from its binary form. -/
theorem Definition.ofBlob_toBlob_of_counts_lt {definition : Definition}
    (hclasses : definition.classCount < 2 ^ 64) (hmodes : definition.modes < 2 ^ 64)
    (hlen : definition.pack.length < 2 ^ 32) : ofBlob definition.toBlob = .ok definition := by
  have hread := Blob.readPayload_addHeader definition.pack [] hlen
  have hunpack := unpack_pack hclasses hmodes (by omega) []
  rw [List.append_nil] at hread hunpack
  rw [toBlob, ofBlob, hread]
  simp only [bind, Except.bind, hunpack]
  rfl

namespace Table

/-- Each count of a table is at most the length of its packed definition: a row takes a byte or
more for each class, and there is a row for each mode. -/
theorem counts_le_length_pack (table : Table) :
    table.classCount ≤ table.toDefinition.pack.length ∧
      table.modeCount ≤ table.toDefinition.pack.length := by
  have hcells : table.cells.toList.length = table.stateCount * table.classCount := by
    rw [Array.length_toList, table.legal.cells_size]
  have hstates : table.toDefinition.stateCount = table.stateCount := length_splitRows _ _ _
  have hle := table.toDefinition.stateCount_le_length_pack
  have hmodes := table.legal.modeCount_le
  have hpos := table.legal.modeCount_pos
  refine ⟨?_, by omega⟩
  obtain ⟨row, hrow⟩ : ∃ row, row ∈ table.toDefinition.transitions :=
    List.exists_mem_of_length_pos (by rw [← Definition.stateCount]; omega)
  have hwidth : row.length = table.classCount := length_of_mem_splitRows hcells row hrow
  rw [← hwidth]
  exact Definition.length_row_le_length_pack hrow

/-- A table is read back from its binary form. -/
theorem ofBlob_toBlob (table : Table) (h : table.toDefinition.pack.length < 2 ^ 32) :
    ofBlob table.toBlob = .ok table := by
  obtain ⟨hclasses, hmodes⟩ := table.counts_le_length_pack
  have hdefinition : Definition.ofBlob table.toDefinition.toBlob = .ok table.toDefinition :=
    Definition.ofBlob_toBlob_of_counts_lt (Nat.lt_of_le_of_lt hclasses (by omega))
      (Nat.lt_of_le_of_lt hmodes (by omega)) h
  have hcheck : check table.toDefinition = .ok table := by
    rw [check, ofDefinition_toDefinition]
    rfl
  rw [toBlob, ofBlob, hdefinition]
  exact hcheck

/-- The table of braces is read back from its blob. -/
theorem ofBlob_toBlob_braces :
    braces.toDefinition.pack.length < 2 ^ 32 ∧ ofBlob braces.toBlob = .ok braces := by
  have h : braces.toDefinition.pack.length < 2 ^ 32 := by decide +kernel
  exact ⟨h, ofBlob_toBlob braces h⟩

end Table

end ScanSchema
