/-!
# The cyclic redundancy check

CRC-32 with the reflected polynomial `0xEDB88320`, the check of IEEE 802.3. The register starts with
all bits set, takes in the bytes from their low bit up, and is inverted at the end.
-/

namespace ScanSchema.Checksum

/-- The divisor, lowest power first. -/
def polynomial : UInt32 := 0xEDB88320

/-- Shift one bit out of the register. -/
def shift (register : UInt32) : UInt32 :=
  if register &&& 1 = 1 then (register >>> 1) ^^^ polynomial else register >>> 1

/-- Shift several bits out of the register. -/
def shifts : Nat → UInt32 → UInt32
  | 0, register => register
  | n + 1, register => shifts n (shift register)

/-- Take a byte into the register. -/
def step (register : UInt32) (byte : UInt8) : UInt32 := shifts 8 (register ^^^ byte.toUInt32)

/-- The checksum of some bytes. -/
def crc32 (bytes : List UInt8) : UInt32 := (bytes.foldl step 0xFFFFFFFF) ^^^ 0xFFFFFFFF

-- The check value of the standard: the checksum of the digits one to nine.
example :
    crc32 [0x31, 0x32, 0x33, 0x34, 0x35, 0x36, 0x37, 0x38, 0x39] = 0xCBF43926 := by
  decide +kernel

end ScanSchema.Checksum
