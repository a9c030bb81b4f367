/-!
# Words

The whole numbers of a fixed number of bits.
-/

namespace ChainProvision

/-- The numbers of eight bits. -/
abbrev Word8 : Type := Fin UInt8.size

/-- The numbers of sixteen bits. -/
abbrev Word16 : Type := Fin UInt16.size

/-- The numbers of 32 bits. -/
abbrev Word32 : Type := Fin UInt32.size

/-- The numbers of 64 bits. -/
abbrev Word64 : Type := Fin UInt64.size

/-- How many numbers of 128 bits there are. -/
abbrev word128Size : Nat := 340282366920938463463374607431768211456

/-- The numbers of 128 bits. -/
abbrev Word128 : Type := Fin word128Size

/-- How many numbers of 64 bits with a sign are negative. -/
abbrev signed64Half : Nat := 9223372036854775808

/-- How many numbers of 128 bits with a sign are negative. -/
abbrev signed128Half : Nat := 170141183460469231731687303715884105728

theorem Word8.size_pos : 0 < UInt8.size := Nat.succ_pos _

theorem Word16.size_pos : 0 < UInt16.size := Nat.succ_pos _

theorem Word32.size_pos : 0 < UInt32.size := Nat.succ_pos _

theorem Word64.size_pos : 0 < UInt64.size := Nat.succ_pos _

theorem Word128.size_pos : 0 < word128Size := Nat.succ_pos _

/-- The last bits of a number, as many as a word has. -/
def lastBits (limit : Nat) (pos : 0 < limit) (n : Nat) : Fin limit := ⟨n % limit, Nat.mod_lt n pos⟩

/-- The last eight bits of a number. -/
def Word8.ofNat (n : Nat) : Word8 := lastBits UInt8.size size_pos n

/-- The last sixteen bits of a number. -/
def Word16.ofNat (n : Nat) : Word16 := lastBits UInt16.size size_pos n

/-- The last 32 bits of a number. -/
def Word32.ofNat (n : Nat) : Word32 := lastBits UInt32.size size_pos n

/-- The last 64 bits of a number. -/
def Word64.ofNat (n : Nat) : Word64 := lastBits UInt64.size size_pos n

/-- The last 128 bits of a number. -/
def Word128.ofNat (n : Nat) : Word128 := lastBits word128Size size_pos n

/-- The numbers of 64 bits with a sign. -/
abbrev Signed64 : Type := { i : Int // -(signed64Half : Int) ≤ i ∧ i < (signed64Half : Int) }

/-- Zero as a number with a sign. -/
def Signed64.zero : Signed64 := ⟨0, by decide⟩

end ChainProvision
