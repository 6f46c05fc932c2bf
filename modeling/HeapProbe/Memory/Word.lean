/-! # Words

A word is a number laid out over a fixed count of bytes in one of two byte orders. Decoding reads
the bytes back, and every byte list is the encoding of the number it decodes to.
-/

namespace HeapProbe

inductive ByteOrder where
  | little
  | big
  deriving DecidableEq

namespace Word

/-- The number spelled by bytes, least significant first. -/
def ofBytes : List UInt8 → Nat
  | [] => 0
  | b :: rest => b.toNat + 256 * ofBytes rest

/-- The lowest `width` bytes of a number, least significant first. -/
def toBytes : Nat → Nat → List UInt8
  | 0, _ => []
  | width + 1, n => UInt8.ofNat n :: toBytes width (n / 256)

@[simp] theorem length_toBytes (width n : Nat) : (toBytes width n).length = width := by
  induction width generalizing n with
  | zero => rfl
  | succ width ih => simp [toBytes, ih]

theorem toBytes_ofBytes (bytes : List UInt8) : toBytes bytes.length (ofBytes bytes) = bytes := by
  induction bytes with
  | nil => rfl
  | cons b rest ih =>
    have hb : b.toNat < 256 := b.toNat_lt
    have hdiv : (b.toNat + 256 * ofBytes rest) / 256 = ofBytes rest := by omega
    have hbyte : UInt8.ofNat (b.toNat + 256 * ofBytes rest) = b := by
      apply UInt8.toNat_inj.mp
      rw [UInt8.toNat_ofNat']
      have : (b.toNat + 256 * ofBytes rest) % 2 ^ 8 = b.toNat := by omega
      exact this
    simp [toBytes, ofBytes, hdiv, hbyte, ih]

end Word

def ByteOrder.decode : ByteOrder → List UInt8 → Nat
  | .little, bytes => Word.ofBytes bytes
  | .big, bytes => Word.ofBytes bytes.reverse

def ByteOrder.encode : ByteOrder → Nat → Nat → List UInt8
  | .little, width, n => Word.toBytes width n
  | .big, width, n => (Word.toBytes width n).reverse

@[simp] theorem ByteOrder.length_encode (order : ByteOrder) (width n : Nat) :
    (order.encode width n).length = width := by
  cases order <;> simp [encode]

theorem ByteOrder.encode_decode (order : ByteOrder) (bytes : List UInt8) :
    order.encode bytes.length (order.decode bytes) = bytes := by
  cases order with
  | little => exact Word.toBytes_ofBytes bytes
  | big =>
    have h := Word.toBytes_ofBytes bytes.reverse
    rw [List.length_reverse] at h
    simp [decode, encode, h]

end HeapProbe
