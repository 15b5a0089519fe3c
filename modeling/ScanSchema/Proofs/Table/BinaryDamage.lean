import ScanSchema.Proofs.Binary.Checksum
import ScanSchema.Proofs.Binary.Truncation
import ScanSchema.Proofs.Table.BinaryRoundTrip

/-!
# Damaged binary tables are refused

A binary table that was cut short is truncated, also when only its header is left. A changed byte is
noticed wherever it stands: in front of the checksum because the header is not that of a table, in
the checksum or behind the header because the checksum does not fit, and in the length because the
packed definition then is too short or is cut off. A cut can leave a checksum that fits; what is left
then cannot be unpacked, as an unpacking does not depend on what stands behind the bytes it takes.
-/

namespace ScanSchema

open Binary

/-- A code is unpacked steadily. -/
theorem steady_unpackCode : Steady unpackCode := by
  intro bytes code rest h more
  obtain ⟨⟨n, left⟩, hn, hcode⟩ := exists_of_bind_eq_ok h
  cases hcode
  rw [unpackCode, steady_unpack32 hn more]
  rfl

/-- The number of a rule is unpacked steadily. -/
theorem steady_unpackRuleNumber : Steady unpackRuleNumber := by
  intro bytes number rest h more
  obtain ⟨⟨n, left⟩, hn, hnumber⟩ := exists_of_bind_eq_ok h
  cases hnumber
  rw [unpackRuleNumber, steady_unpack16 hn more]
  rfl

/-- An action is unpacked steadily. -/
theorem RuleAction.steady_unpack : Steady RuleAction.unpack := by
  intro bytes action rest h more
  obtain ⟨⟨choice, left⟩, hchoice, haction⟩ := exists_of_bind_eq_ok h
  rw [unpack, steady_unpack32 hchoice more]
  rcases choice with _ | _ | choice
  · cases haction
    rfl
  · cases haction
    rfl
  · cases haction

/-- A rule is unpacked steadily. -/
theorem Rule.steady_unpack : Steady Rule.unpack := by
  intro bytes rule rest h more
  obtain ⟨⟨name, left⟩, hname, h⟩ := exists_of_bind_eq_ok h
  obtain ⟨⟨action, last⟩, haction, hrule⟩ := exists_of_bind_eq_ok h
  cases hrule
  rw [unpack, steady_unpackText hname more]
  dsimp only [bind, Except.bind]
  rw [RuleAction.steady_unpack haction more]
  rfl

/-- A definition is unpacked from the front of its bytes, whatever stands behind them. -/
theorem Definition.steady_unpack : Steady Definition.unpack := by
  intro bytes definition rest h more
  obtain ⟨⟨charClasses, bytes₁⟩, hcharClasses, h⟩ := exists_of_bind_eq_ok h
  obtain ⟨⟨catchAll, bytes₂⟩, hcatchAll, h⟩ := exists_of_bind_eq_ok h
  obtain ⟨⟨classCount, bytes₃⟩, hclassCount, h⟩ := exists_of_bind_eq_ok h
  obtain ⟨⟨modes, bytes₄⟩, hmodes, h⟩ := exists_of_bind_eq_ok h
  obtain ⟨⟨transitions, bytes₅⟩, htransitions, h⟩ := exists_of_bind_eq_ok h
  obtain ⟨⟨lexemeRules, bytes₆⟩, hlexemeRules, h⟩ := exists_of_bind_eq_ok h
  obtain ⟨⟨rules, bytes₇⟩, hrules, hdefinition⟩ := exists_of_bind_eq_ok h
  cases hdefinition
  simp only [unpack, steady_unpackByte.unpackList hcharClasses more, steady_unpackByte hcatchAll more,
    steady_unpack64 hclassCount more, steady_unpack64 hmodes more,
    steady_unpackCode.unpackList.unpackList htransitions more,
    steady_unpackRuleNumber.unpackList hlexemeRules more,
    Rule.steady_unpack.unpackList hrules more, bind, Except.bind, pure, Except.pure]

namespace Blob

/-- Equal words have equal bytes. -/
theorem byte_eq_of_readWord_eq {bytes other : List UInt8} {place : Nat}
    (h : readWord bytes place = readWord other place) {k : Nat} (hk : k < 4) :
    bytes[place + k]?.getD 0 = other[place + k]?.getD 0 := by
  have hbyte (k : Nat) := (bytes[place + k]?.getD 0).toNat_lt
  have hother (k : Nat) := (other[place + k]?.getD 0).toNat_lt
  have h₀ := hbyte 0
  have h₁ := hbyte 1
  have h₂ := hbyte 2
  have h₃ := hbyte 3
  have h₀' := hother 0
  have h₁' := hother 1
  have h₂' := hother 2
  have h₃' := hother 3
  simp only [readWord] at h
  apply UInt8.toNat_inj.mp
  have hcases : k = 0 ∨ k = 1 ∨ k = 2 ∨ k = 3 := by omega
  rcases hcases with rfl | rfl | rfl | rfl
  all_goals omega

/-- A word has 32 bits. -/
theorem readWord_lt (bytes : List UInt8) (place : Nat) : readWord bytes place < 2 ^ 32 := by
  have h₀ := (bytes[place + 0]?.getD 0).toNat_lt
  have h₁ := (bytes[place + 1]?.getD 0).toNat_lt
  have h₂ := (bytes[place + 2]?.getD 0).toNat_lt
  have h₃ := (bytes[place + 3]?.getD 0).toNat_lt
  simp only [readWord]
  omega

section Words

variable {bytes : List UInt8} {place spot : Nat} {byte : UInt8}

/-- A word is what it was when a byte in front of it or behind it is changed. -/
theorem readWord_set_of_outside (h : spot < place ∨ place + 4 ≤ spot) :
    readWord (bytes.set spot byte) place = readWord bytes place := by
  have hbyte (k : Nat) (hk : k < 4) : (bytes.set spot byte)[place + k]? = bytes[place + k]? :=
    List.getElem?_set_ne (by omega)
  simp only [readWord, hbyte 0 (by decide), hbyte 1 (by decide), hbyte 2 (by decide),
    hbyte 3 (by decide)]

/-- A word changes when one of its bytes does. -/
theorem readWord_set_ne (hplace : place ≤ spot) (hend : spot < place + 4) (hlen : spot < bytes.length)
    (hbyte : bytes[spot] ≠ byte) : readWord (bytes.set spot byte) place ≠ readWord bytes place := by
  intro h
  obtain ⟨k, rfl⟩ := Nat.exists_eq_add_of_le hplace
  have hsame := byte_eq_of_readWord_eq h (k := k) (by omega)
  rw [List.getElem?_set_self hlen, List.getElem?_eq_getElem hlen] at hsame
  exact hbyte hsame.symm

/-- A word is in the part of the bytes that reaches behind it. -/
theorem readWord_append_left (h : place + 4 ≤ bytes.length) (more : List UInt8) :
    readWord (bytes ++ more) place = readWord bytes place := by
  have hbyte (k : Nat) (hk : k < 4) : (bytes ++ more)[place + k]? = bytes[place + k]? :=
    List.getElem?_append_left (by omega)
  simp only [readWord, hbyte 0 (by decide), hbyte 1 (by decide), hbyte 2 (by decide),
    hbyte 3 (by decide)]

end Words

/-- Behind a magic word and a version that are right, the length decides what the payload is, and the
checksum whether it is taken. -/
theorem readPayload_of_header {bytes : List UInt8} (hlong : headerSize ≤ bytes.length)
    (hmagic : bytes.take 4 = magic) (hversion : readWord bytes 4 = version) :
    readPayload bytes =
      if ((bytes.drop headerSize).take (readWord bytes 12)).length < readWord bytes 12 then
        .error .truncated
      else if Checksum.crc32 ((bytes.drop headerSize).take (readWord bytes 12)) =
          UInt32.ofNat (readWord bytes 8) then
        .ok ((bytes.drop headerSize).take (readWord bytes 12))
      else
        .error (.checksumMismatch (UInt32.ofNat (readWord bytes 8))
          (Checksum.crc32 ((bytes.drop headerSize).take (readWord bytes 12)))) := by
  rw [readPayload, if_neg (Nat.not_lt.mpr hlong), if_neg (not_not_intro hmagic),
    if_neg (not_not_intro hversion)]

section Damage

variable {payload : List UInt8}

/-- Bytes that were cut off are missed. -/
theorem readPayload_of_prefix (h : payload.length < 2 ^ 32) {bytes : List UInt8}
    (hfront : bytes <+: addHeader payload) (hne : bytes ≠ addHeader payload) :
    readPayload bytes = .error .truncated := by
  obtain ⟨more, hmore⟩ := hfront
  have hpos : 0 < more.length := by
    refine List.length_pos_iff.mpr fun hnil => hne ?_
    rw [← hmore, hnil, List.append_nil]
  have hlength : bytes.length + more.length = headerSize + payload.length := by
    rw [← List.length_append, hmore, length_addHeader]
  by_cases hlong : headerSize ≤ bytes.length
  · have hword (place : Nat) (hplace : place + 4 ≤ headerSize) :
        readWord bytes place = readWord (addHeader payload ++ []) place := by
      rw [List.append_nil, ← hmore, readWord_append_left (Nat.le_trans hplace hlong)]
    have hmagic : bytes.take 4 = magic := by
      rw [← take_addHeader payload [], List.append_nil, ← hmore,
        List.take_append_of_le_length (Nat.le_trans (by decide) hlong)]
    have hversion := (hword 4 (by decide)).trans (readWord_version payload [])
    have hsize := (hword 12 (by decide)).trans (readWord_size payload [] h)
    have hshort : ((bytes.drop headerSize).take payload.length).length < payload.length := by
      rw [List.length_take, List.length_drop]
      omega
    rw [readPayload_of_header hlong hmagic hversion, hsize, if_pos hshort]
  · rw [readPayload, if_pos (Nat.lt_of_not_le hlong)]

/-- A changed blob is still as long as a header. -/
theorem length_set_addHeader (payload : List UInt8) (place : Nat) (byte : UInt8) :
    headerSize ≤ ((addHeader payload).set place byte).length := by
  rw [List.length_set, length_addHeader]
  exact Nat.le_add_right _ _

variable {place : Nat} {byte : UInt8}

/-- The magic word is as it was when a byte behind it is changed. -/
theorem take_set_addHeader (hplace : 4 ≤ place) :
    ((addHeader payload).set place byte).take 4 = magic := by
  rw [List.take_set_of_le hplace]
  rfl

/-- A change outside a word leaves the word as it is. -/
theorem readWord_set_addHeader {word : Nat} (hplace : place < word ∨ word + 4 ≤ place) :
    readWord ((addHeader payload).set place byte) word = readWord (addHeader payload ++ []) word := by
  rw [List.append_nil, readWord_set_of_outside hplace]

/-- A word of the header is no longer what it was when one of its bytes is changed. -/
theorem readWord_changed {word : Nat} (hplace : place < (addHeader payload).length)
    (hbyte : (addHeader payload)[place] ≠ byte) (hstart : word ≤ place) (hend : place < word + 4) :
    readWord ((addHeader payload).set place byte) word ≠ readWord (addHeader payload ++ []) word := by
  rw [List.append_nil]
  exact readWord_set_ne hstart hend hplace hbyte

/-- The packed definition is as it was when a byte of the header is changed. -/
theorem drop_set_addHeader (hplace : place < headerSize) :
    ((addHeader payload).set place byte).drop headerSize = payload := by
  rw [List.drop_set_of_lt hplace]
  rfl

/-- A changed byte in the magic word or in the version is not taken for a table. -/
theorem readPayload_of_changed_format (hplace : place < (addHeader payload).length)
    (hbyte : (addHeader payload)[place] ≠ byte) (hformat : place < 8) :
    ∃ fault, readPayload ((addHeader payload).set place byte) = .error fault := by
  have hlong := Nat.not_lt.mpr (length_set_addHeader payload place byte)
  by_cases hfirst : place < 4
  · have hmagic : ((addHeader payload).set place byte).take 4 ≠ magic := by
      intro hsame
      have hset : (((addHeader payload).set place byte).take 4)[place]? = some byte := by
        rw [List.getElem?_take_of_lt hfirst, List.getElem?_set_self hplace]
      have hold : (addHeader payload)[place]? = magic[place]? := by
        rw [← take_addHeader payload [], List.append_nil, List.getElem?_take_of_lt hfirst]
      rw [hsame, ← hold, List.getElem?_eq_getElem hplace] at hset
      exact hbyte (Option.some.inj hset)
    exact ⟨_, by rw [readPayload, if_neg hlong, if_pos hmagic]⟩
  · have hbehind : 4 ≤ place := Nat.le_of_not_lt hfirst
    have hmagic : ((addHeader payload).set place byte).take 4 = magic := take_set_addHeader hbehind
    have hversion := readWord_changed hplace hbyte hbehind hformat
    rw [readWord_version] at hversion
    exact ⟨_, by rw [readPayload, if_neg hlong, if_neg (not_not_intro hmagic), if_pos hversion]⟩

/-- What is read when a byte behind the version was changed. -/
theorem readPayload_set_addHeader (hplace : 8 ≤ place) :
    readPayload ((addHeader payload).set place byte) =
      (let changed := (addHeader payload).set place byte
      let found := (changed.drop headerSize).take (readWord changed 12)
      if found.length < readWord changed 12 then .error .truncated
      else if Checksum.crc32 found = UInt32.ofNat (readWord changed 8) then .ok found
      else .error (.checksumMismatch (UInt32.ofNat (readWord changed 8)) (Checksum.crc32 found))) := by
  have hversion : readWord ((addHeader payload).set place byte) 4 = version := by
    rw [readWord_set_addHeader (Or.inr hplace), readWord_version]
  exact readPayload_of_header (length_set_addHeader payload place byte)
    (take_set_addHeader (by omega)) hversion

/-- A changed byte in the checksum does not fit the packed definition. -/
theorem readPayload_of_changed_checksum (h : payload.length < 2 ^ 32)
    (hplace : place < (addHeader payload).length) (hbyte : (addHeader payload)[place] ≠ byte)
    (hstart : 8 ≤ place) (hend : place < 12) :
    ∃ expected, readPayload ((addHeader payload).set place byte) =
      .error (.checksumMismatch expected (Checksum.crc32 payload)) := by
  have hsize : readWord ((addHeader payload).set place byte) 12 = payload.length := by
    rw [readWord_set_addHeader (Or.inl hend), readWord_size payload [] h]
  have hchecksum : Checksum.crc32 payload ≠
      UInt32.ofNat (readWord ((addHeader payload).set place byte) 8) := by
    intro hsame
    refine readWord_changed hplace hbyte hstart hend ?_
    rw [readWord_checksum, hsame, UInt32.toNat_ofNat_of_lt' (readWord_lt _ _)]
  have hdrop : ((addHeader payload).set place byte).drop headerSize = payload :=
    drop_set_addHeader (Nat.lt_of_lt_of_le hend (by decide))
  refine ⟨UInt32.ofNat (readWord ((addHeader payload).set place byte) 8), ?_⟩
  rw [readPayload_set_addHeader hstart]
  simp only [hsize, hdrop, List.take_length, Nat.lt_irrefl, if_false, if_neg hchecksum]

/-- A changed byte in the length leaves a payload that is too short, one that does not fit the
checksum, or a part of the packed definition. -/
theorem readPayload_of_changed_size (h : payload.length < 2 ^ 32)
    (hplace : place < (addHeader payload).length) (hbyte : (addHeader payload)[place] ≠ byte)
    (hstart : 12 ≤ place) (hend : place < headerSize) :
    (∃ fault, readPayload ((addHeader payload).set place byte) = .error fault) ∨
      ∃ part, part <+: payload ∧ part ≠ payload ∧
        readPayload ((addHeader payload).set place byte) = .ok part := by
  have hsize := readWord_changed hplace hbyte hstart hend
  rw [readWord_size payload [] h] at hsize
  rw [readPayload_set_addHeader (by omega)]
  simp only [drop_set_addHeader hend]
  split
  · exact .inl ⟨_, rfl⟩
  next hlong =>
    split
    · refine .inr ⟨_, List.take_prefix _ _, fun hwhole => hlong ?_, rfl⟩
      have hlength := congrArg List.length hwhole
      rw [List.length_take] at hlength ⊢
      omega
    · exact .inl ⟨_, rfl⟩

/-- A changed byte in the packed definition does not fit the checksum. -/
theorem readPayload_of_changed_payload (h : payload.length < 2 ^ 32)
    (hplace : place < (addHeader payload).length) (hbyte : (addHeader payload)[place] ≠ byte)
    (hstart : headerSize ≤ place) :
    readPayload ((addHeader payload).set place byte) =
      .error (.checksumMismatch (Checksum.crc32 payload)
        (Checksum.crc32 (payload.set (place - headerSize) byte))) := by
  have hinside : place - headerSize < payload.length := by
    rw [length_addHeader] at hplace
    omega
  have hdrop : ((addHeader payload).set place byte).drop headerSize =
      payload.set (place - headerSize) byte := by
    rw [List.drop_set, if_neg (Nat.not_lt.mpr hstart)]
    rfl
  have hold : payload[place - headerSize] ≠ byte := by
    have hsplit : (addHeader payload)[place]? = payload[place - headerSize]? := by
      have hdropped : payload[place - headerSize]? =
          ((addHeader payload).drop headerSize)[place - headerSize]? := rfl
      rw [hdropped, List.getElem?_drop, Nat.add_sub_cancel' hstart]
    rw [List.getElem?_eq_getElem hplace, List.getElem?_eq_getElem hinside] at hsplit
    rwa [← Option.some.inj hsplit]
  have hsize : readWord ((addHeader payload).set place byte) 12 = payload.length := by
    rw [readWord_set_addHeader (Or.inr hstart), readWord_size payload [] h]
  have hword : readWord ((addHeader payload).set place byte) 8 = (Checksum.crc32 payload).toNat := by
    rw [readWord_set_addHeader (Or.inr (Nat.le_trans (by decide) hstart)), readWord_checksum]
  have htake : (payload.set (place - headerSize) byte).take payload.length =
      payload.set (place - headerSize) byte :=
    List.take_of_length_le (Nat.le_of_eq List.length_set)
  rw [readPayload_set_addHeader (Nat.le_trans (by decide) hstart)]
  simp only [hdrop, hsize, hword, htake, List.length_set, Nat.lt_irrefl, if_false,
    UInt32.ofNat_toNat, if_neg (Checksum.crc32_set_ne hinside hold)]

end Damage

end Blob

/-- A binary definition in which a byte was changed is refused. -/
theorem Definition.ofBlob_of_changed {definition : Definition}
    (hclasses : definition.classCount < 2 ^ 64) (hmodes : definition.modes < 2 ^ 64)
    (hlen : definition.pack.length < 2 ^ 32) {place : Nat} {byte : UInt8}
    (hplace : place < definition.toBlob.length) (hbyte : definition.toBlob[place] ≠ byte) :
    ∃ fault, ofBlob (definition.toBlob.set place byte) = .error fault := by
  have hfailed {fault} (h : Blob.readPayload (definition.toBlob.set place byte) = .error fault) :
      ∃ fault, ofBlob (definition.toBlob.set place byte) = .error fault :=
    ⟨fault, by rw [ofBlob, h]; rfl⟩
  by_cases hformat : place < 8
  · obtain ⟨fault, h⟩ := Blob.readPayload_of_changed_format hplace hbyte hformat
    exact hfailed h
  by_cases hchecksum : place < 12
  · obtain ⟨expected, h⟩ := Blob.readPayload_of_changed_checksum hlen hplace hbyte
      (Nat.le_of_not_lt hformat) hchecksum
    exact hfailed h
  by_cases hpayload : Blob.headerSize ≤ place
  · exact hfailed (Blob.readPayload_of_changed_payload hlen hplace hbyte hpayload)
  obtain ⟨fault, h⟩ | ⟨part, hpart, hne, h⟩ := Blob.readPayload_of_changed_size hlen hplace hbyte
    (Nat.le_of_not_lt hchecksum) (Nat.lt_of_not_le hpayload)
  · exact hfailed h
  · -- The checksum happens to fit a part of the packed definition.
    have hfull := unpack_pack hclasses hmodes (by omega) []
    rw [List.append_nil] at hfull
    obtain ⟨fault, hfault⟩ := Definition.steady_unpack.error_of_prefix hfull hpart hne
    refine ⟨.payload fault, ?_⟩
    rw [ofBlob, toBlob, h]
    simp only [bind, Except.bind, hfault]
    rfl

namespace Table

/-- A blob without a definition has no table, and for the same reason. -/
theorem ofBlob_of_error {bytes : List UInt8} {fault : BlobFault}
    (h : Definition.ofBlob bytes = .error fault) : ofBlob bytes = .error (.blob fault) := by
  rw [ofBlob, h]
  rfl

/-- A binary table is refused when it was cut short, and when one of its bytes was changed: by its
checksum when the byte is behind the header. -/
theorem ofBlob_of_damaged (table : Table) (h : table.toDefinition.pack.length < 2 ^ 32) :
    (∀ bytes, bytes <+: table.toBlob → bytes ≠ table.toBlob →
      ofBlob bytes = .error (.blob .truncated)) ∧
    ∀ place byte, ∀ hplace : place < table.toBlob.length, table.toBlob[place] ≠ byte →
      (∃ fault, ofBlob (table.toBlob.set place byte) = .error (.blob fault)) ∧
      (Blob.headerSize ≤ place → ofBlob (table.toBlob.set place byte) =
        .error (.blob (.checksumMismatch (Checksum.crc32 table.toDefinition.pack)
          (Checksum.crc32 (table.toDefinition.pack.set (place - Blob.headerSize) byte))))) := by
  obtain ⟨hclasses, hmodes⟩ := table.counts_le_length_pack
  refine ⟨fun bytes hfront hne => ofBlob_of_error ?_, fun place byte hplace hbyte => ⟨?_, ?_⟩⟩
  · rw [Definition.ofBlob, Blob.readPayload_of_prefix h hfront hne]
    rfl
  · obtain ⟨fault, hfault⟩ := Definition.ofBlob_of_changed (Nat.lt_of_le_of_lt hclasses (by omega))
      (Nat.lt_of_le_of_lt hmodes (by omega)) h hplace hbyte
    exact ⟨fault, ofBlob_of_error hfault⟩
  · intro hpayload
    refine ofBlob_of_error ?_
    rw [Definition.ofBlob, toBlob, Definition.toBlob,
      Blob.readPayload_of_changed_payload h hplace hbyte hpayload]
    rfl

/-- The table for action code, cut four bytes behind the header, with another length in the header,
and with another number of character classes. -/
theorem ofBlob_of_damaged_braces :
    braces.toDefinition.pack.length < 2 ^ 32 ∧
      (braces.toBlob.take 20 <+: braces.toBlob ∧ braces.toBlob.take 20 ≠ braces.toBlob ∧
        ofBlob (braces.toBlob.take 20) = .error (.blob .truncated)) ∧
      (∃ hplace : 12 < braces.toBlob.length, braces.toBlob[12] ≠ 0 ∧
        ∃ fault, ofBlob (braces.toBlob.set 12 0) = .error (.blob fault)) ∧
      ∃ hplace : 16 < braces.toBlob.length, braces.toBlob[16] ≠ 0 ∧ Blob.headerSize ≤ 16 ∧
        ofBlob (braces.toBlob.set 16 0) =
          .error (.blob (.checksumMismatch (Checksum.crc32 braces.toDefinition.pack)
            (Checksum.crc32 (braces.toDefinition.pack.set 0 0)))) := by
  have h : braces.toDefinition.pack.length < 2 ^ 32 := by decide +kernel
  have hcut : braces.toBlob.take 20 ≠ braces.toBlob := fun hsame =>
    absurd (congrArg List.length hsame) (by decide +kernel)
  have hsize : 12 < braces.toBlob.length := by decide +kernel
  have hsizeByte : braces.toBlob[12] ≠ 0 := by decide +kernel +revert
  have hfirst : 16 < braces.toBlob.length := by decide +kernel
  have hfirstByte : braces.toBlob[16] ≠ 0 := by decide +kernel +revert
  have hfront := List.take_prefix 20 braces.toBlob
  obtain ⟨htruncated, hchanged⟩ := ofBlob_of_damaged braces h
  exact ⟨h, ⟨hfront, hcut, htruncated _ hfront hcut⟩,
    ⟨hsize, hsizeByte, (hchanged 12 0 hsize hsizeByte).1⟩,
    ⟨hfirst, hfirstByte, by decide, (hchanged 16 0 hfirst hfirstByte).2 (by decide)⟩⟩

end Table

end ScanSchema
