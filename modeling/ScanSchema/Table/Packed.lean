import ScanSchema.Binary.Checksum
import ScanSchema.Binary.Varint
import ScanSchema.Table.Basic

/-!
# Tables as bytes

A binary table is a header of 16 bytes and the packed definition. The header holds the magic word
`TSLX`, the version of the format, the checksum and the length of the packed definition, each in
four bytes with the lowest byte first.
-/

namespace ScanSchema

open Binary

namespace RuleAction

/-- Pack an action. -/
def pack : RuleAction → List UInt8
  | .emit => packNat 0
  | .skip => packNat 1

/-- Unpack an action. -/
def unpack : Unpacker RuleAction := fun bytes => do
  let (choice, rest) ← unpack32 bytes
  match choice with
  | 0 => return (.emit, rest)
  | 1 => return (.skip, rest)
  | _ => throw .badChoice

end RuleAction

namespace Rule

/-- Pack a rule. -/
def pack (rule : Rule) : List UInt8 := packText rule.name ++ rule.action.pack

/-- Unpack a rule. -/
def unpack : Unpacker Rule := fun bytes => do
  let (name, bytes) ← unpackText bytes
  let (action, bytes) ← RuleAction.unpack bytes
  return (⟨name, action⟩, bytes)

end Rule

/-- Pack the code of an outcome. -/
def packCode (code : Int32) : List UInt8 := packNat (zigzag code.toInt)

/-- Unpack the code of an outcome. -/
def unpackCode : Unpacker Int32 := fun bytes => do
  let (n, rest) ← unpack32 bytes
  return (Int32.ofInt (unzigzag n), rest)

/-- Pack the number of a rule. -/
def packRuleNumber (number : UInt16) : List UInt8 := packNat number.toNat

/-- Unpack the number of a rule. -/
def unpackRuleNumber : Unpacker UInt16 := fun bytes => do
  let (n, rest) ← unpack16 bytes
  return (UInt16.ofNat n, rest)

namespace Definition

/-- Pack a definition: its fields in order. -/
def pack (definition : Definition) : List UInt8 :=
  packList (fun cls => [cls]) definition.charClasses ++
    definition.catchAll :: (packNat definition.classCount ++ packNat definition.modes ++
      packList (packList packCode) definition.transitions ++
      packList packRuleNumber definition.lexemeRules ++ packList Rule.pack definition.rules)

/-- Unpack a definition. -/
def unpack : Unpacker Definition := fun bytes => do
  let (charClasses, bytes) ← unpackList unpackByte bytes
  let (catchAll, bytes) ← unpackByte bytes
  let (classCount, bytes) ← unpack64 bytes
  let (modes, bytes) ← unpack64 bytes
  let (transitions, bytes) ← unpackList (unpackList unpackCode) bytes
  let (lexemeRules, bytes) ← unpackList unpackRuleNumber bytes
  let (rules, bytes) ← unpackList Rule.unpack bytes
  return ({ charClasses, catchAll, classCount, modes, transitions, lexemeRules, rules }, bytes)

end Definition

/-- What can be wrong with a binary table. -/
inductive BlobFault where
  /-- The blob ends inside the header or the packed definition. -/
  | truncated
  /-- The blob does not begin with the magic word. -/
  | badMagic
  /-- The format has another version. -/
  | unsupportedVersion (version : Nat)
  /-- The checksum in the header is not that of the packed definition. -/
  | checksumMismatch (expected found : UInt32)
  /-- The packed definition is broken. -/
  | payload (fault : PayloadFault)
  deriving DecidableEq, Repr

/-- Eight hexadecimal digits behind `0x`. -/
def hexWord (word : UInt32) : String :=
  let digits := Nat.toDigits 16 word.toNat
  "0x" ++ String.ofList (List.replicate (8 - digits.length) '0' ++ digits)

/-- The wording of each fault. -/
def BlobFault.message : BlobFault → String
  | .truncated => "table blob is truncated"
  | .badMagic => "not a scanner table (bad magic)"
  | .unsupportedVersion version => s!"unsupported table version {version}"
  | .checksumMismatch expected found =>
    "checksum mismatch: header says " ++ hexWord expected ++ ", payload is " ++ hexWord found
  | .payload fault => "binary decode error: " ++ fault.message

namespace Blob

/-- The magic word, `TSLX` in ASCII. -/
def magic : List UInt8 := [0x54, 0x53, 0x4C, 0x58]

/-- The version of the format. -/
def version : Nat := 1

/-- Number of bytes in front of the packed definition. -/
def headerSize : Nat := 16

/-- A number in four bytes, the lowest byte first. -/
def writeWord (n : Nat) : List UInt8 :=
  [UInt8.ofNat n, UInt8.ofNat (n / 0x100), UInt8.ofNat (n / 0x10000), UInt8.ofNat (n / 0x1000000)]

/-- The number in the four bytes at a place; bytes that are not there count as zero. -/
def readWord (bytes : List UInt8) (place : Nat) : Nat :=
  let byte := fun k => (bytes[place + k]?.getD 0).toNat
  byte 0 + 0x100 * byte 1 + 0x10000 * byte 2 + 0x1000000 * byte 3

/-- A packed definition behind its header. -/
def addHeader (payload : List UInt8) : List UInt8 :=
  magic ++ writeWord version ++ writeWord (Checksum.crc32 payload).toNat ++
    writeWord payload.length ++ payload

/-- The packed definition behind a header, once the header was checked against it. Bytes further
behind are dropped. -/
def readPayload (bytes : List UInt8) : Except BlobFault (List UInt8) :=
  if bytes.length < headerSize then .error .truncated
  else if bytes.take 4 ≠ magic then .error .badMagic
  else if readWord bytes 4 ≠ version then .error (.unsupportedVersion (readWord bytes 4))
  else
    let expected := UInt32.ofNat (readWord bytes 8)
    let size := readWord bytes 12
    let payload := (bytes.drop headerSize).take size
    if payload.length < size then .error .truncated
    else
      let found := Checksum.crc32 payload
      if found = expected then .ok payload else .error (.checksumMismatch expected found)

end Blob

namespace Definition

/-- The definition in a binary table. Bytes behind it are dropped. -/
def ofBlob (bytes : List UInt8) : Except BlobFault Definition := do
  let payload ← Blob.readPayload bytes
  match unpack payload with
  | .ok (definition, _) => return definition
  | .error fault => throw (.payload fault)

/-- The binary form of a definition. -/
def toBlob (definition : Definition) : List UInt8 := Blob.addHeader definition.pack

end Definition

end ScanSchema
