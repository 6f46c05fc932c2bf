import HeapProbe.Memory.Word

/-! # Sparse memory

Memory is the record of what was done to it: bytes put down from an address on, and stretches taken
away. The latest change that touches an address decides whether it is mapped and to which byte.
Addresses are unbounded and may be negative.
-/

namespace HeapProbe

inductive Patch where
  | write (address : Int) (bytes : List UInt8)
  | unmap (address length : Int)
  deriving DecidableEq

/-- What a change says about one address: nothing, that it is unmapped, or its byte. -/
def Patch.effect (address : Int) : Patch → Option (Option UInt8)
  | .write start bytes =>
    if start ≤ address then bytes[(address - start).toNat]?.map some else none
  | .unmap start length =>
    if start ≤ address ∧ address < start + length then some none else none

/-- Changes to memory, the latest first. -/
structure Memory where
  patches : List Patch := []

namespace Memory

def apply (memory : Memory) (patch : Patch) : Memory := ⟨patch :: memory.patches⟩

def byteAt? (memory : Memory) (address : Int) : Option UInt8 :=
  (memory.patches.findSome? (Patch.effect address)).join

def bytesAt? (memory : Memory) (address : Int) : Nat → Option (List UInt8)
  | 0 => some []
  | count + 1 =>
    match memory.byteAt? address with
    | none => none
    | some byte => (memory.bytesAt? (address + 1) count).map (byte :: ·)

theorem length_of_bytesAt? {memory : Memory} {address : Int} {count : Nat} {bytes : List UInt8}
    (h : memory.bytesAt? address count = some bytes) : bytes.length = count := by
  induction count generalizing address bytes with
  | zero => simp [bytesAt?] at h; simp [← h]
  | succ count ih =>
    rw [bytesAt?] at h
    split at h
    · simp at h
    · obtain ⟨rest, hrest, rfl⟩ := Option.map_eq_some_iff.1 h
      simp [ih hrest]

end Memory

end HeapProbe
