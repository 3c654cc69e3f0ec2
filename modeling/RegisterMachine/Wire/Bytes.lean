/-!
# Wire — Bytes

Numbers as bytes, the least significant byte first, and the cut of a byte string at a given length.

* `ofLittleEndian_littleEndian` and `littleEndian_ofLittleEndian`: numbers below `byteLimit k` and
  strings of `k` bytes are the same thing.
* `cut?_eq_some_iff`: a cut of length `n` is the one way to write a string as `n` bytes and a rest.
-/

namespace RegisterMachine.Wire

/-- The `k` lowest bytes of a number. -/
def littleEndian : Nat → Nat → List UInt8
  | 0,     _ => []
  | k + 1, n => UInt8.ofNat n :: littleEndian k (n / 256)

/-- The number that bytes stand for. -/
def ofLittleEndian : List UInt8 → Nat
  | []      => 0
  | b :: bs => b.toNat + 256 * ofLittleEndian bs

/-- The first number for which `k` bytes are too few. -/
def byteLimit : Nat → Nat
  | 0     => 1
  | k + 1 => 256 * byteLimit k

/-- The first `n` bytes and the rest, if there are that many. -/
def cut? (n : Nat) (bs : List UInt8) : Option (List UInt8 × List UInt8) :=
  let front := bs.take n
  if front.length = n then some (front, bs.drop n) else none

@[simp] theorem length_littleEndian (k n : Nat) : (littleEndian k n).length = k := by
  induction k generalizing n with
  | zero => rfl
  | succ k ih => simp [littleEndian, ih]

example : byteLimit 4 = 4294967296 := rfl

theorem ofLittleEndian_lt (bs : List UInt8) : ofLittleEndian bs < byteLimit bs.length := by
  induction bs with
  | nil => simp [ofLittleEndian, byteLimit]
  | cons b bs ih =>
    have := b.toNat_lt
    simp only [ofLittleEndian, List.length_cons, byteLimit]
    omega

theorem ofLittleEndian_littleEndian {k n : Nat} (h : n < byteLimit k) :
    ofLittleEndian (littleEndian k n) = n := by
  induction k generalizing n with
  | zero =>
    have : n = 0 := by simpa [byteLimit] using h
    simp [littleEndian, ofLittleEndian, this]
  | succ k ih =>
    have hq : n / 256 < byteLimit k := Nat.div_lt_of_lt_mul h
    simp only [littleEndian, ofLittleEndian, ih hq, UInt8.toNat_ofNat']
    omega

theorem littleEndian_ofLittleEndian (bs : List UInt8) :
    littleEndian bs.length (ofLittleEndian bs) = bs := by
  induction bs with
  | nil => rfl
  | cons b bs ih =>
    have hb := b.toNat_lt
    have hq : (b.toNat + 256 * ofLittleEndian bs) / 256 = ofLittleEndian bs := by omega
    have hr : UInt8.ofNat (b.toNat + 256 * ofLittleEndian bs) = b := by
      apply UInt8.toNat.inj
      simp only [UInt8.toNat_ofNat']
      omega
    simp only [List.length_cons, ofLittleEndian, littleEndian, hq, hr, ih]

theorem cut?_eq_some_iff {n : Nat} {bs front rest : List UInt8} :
    cut? n bs = some (front, rest) ↔ bs = front ++ rest ∧ front.length = n := by
  simp only [cut?]
  constructor
  · intro h
    split at h
    · next hn =>
      simp only [Option.some.injEq, Prod.mk.injEq] at h
      obtain ⟨rfl, rfl⟩ := h
      exact ⟨(List.take_append_drop n bs).symm, hn⟩
    · simp at h
  · rintro ⟨rfl, rfl⟩
    simp

theorem cut?_eq_none_iff {n : Nat} {bs : List UInt8} : cut? n bs = none ↔ bs.length < n := by
  simp only [cut?, List.length_take]
  split
  · simp only [reduceCtorEq, false_iff]
    omega
  · simp only [true_iff]
    omega

end RegisterMachine.Wire
