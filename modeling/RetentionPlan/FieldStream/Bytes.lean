/-!
# Numbers and texts as bytes

Numbers stand with their most significant byte first, signed ones in two's complement.
-/
namespace RetentionPlan.FieldStream

/-- The last `width` bytes of a natural number, most significant first. -/
def bigEndian : Nat → Nat → List UInt8
  | 0, _ => []
  | width + 1, n => bigEndian width (n / 256) ++ [UInt8.ofNat (n % 256)]

/-- The natural number that bytes stand for. -/
def ofBigEndian (bytes : List UInt8) : Nat := bytes.foldl (fun n b => 256 * n + b.toNat) 0

/-- The bytes of an integer that fits `width` bytes. -/
def signedBytes? (width : Nat) (n : Int) : Option (List UInt8) :=
  let half : Int := Nat.pow 2 (8 * width - 1)
  if -half ≤ n ∧ n < half then some (bigEndian width (n % (2 * half)).toNat) else none

def ofSignedBytes (width : Nat) (bytes : List UInt8) : Int :=
  let n := ofBigEndian bytes
  if n < Nat.pow 2 (8 * width - 1) then n else n - Nat.pow 2 (8 * width)

def textBytes (s : String) : List UInt8 := s.toUTF8.toList

def textOfBytes? (bytes : List UInt8) : Option String := String.fromUTF8? bytes.toByteArray

@[simp]
theorem length_bigEndian (width n : Nat) : (bigEndian width n).length = width := by
  induction width generalizing n with
  | zero => rfl
  | succ width ih => simp [bigEndian, ih]

/-- Reading the bytes of a number that fits gives it back. -/
theorem ofBigEndian_bigEndian {width n : Nat} (h : n < Nat.pow 256 width) :
    ofBigEndian (bigEndian width n) = n := by
  induction width generalizing n with
  | zero => simp at h; simp [h, bigEndian, ofBigEndian]
  | succ width ih =>
    have h' : n / 256 < Nat.pow 256 width := by
      rw [Nat.div_lt_iff_lt_mul (by decide)]
      exact h
    have := ih h'
    simp only [bigEndian, ofBigEndian, List.foldl_append, List.foldl_cons, List.foldl_nil] at this ⊢
    rw [this, UInt8.toNat_ofNat']
    omega

end RetentionPlan.FieldStream
