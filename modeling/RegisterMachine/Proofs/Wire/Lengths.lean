import RegisterMachine.Wire.Shape

/-!
# Proofs — Wire — Lengths

A text is written with the number of its bytes in front of it, and a list with the number of its
values.  `Shape.lengths` lists these numbers for a whole value, in the order in which they are
written; they are all that a reader checks before it trusts what follows, and the first of them
that is over the limit is where reading stops.

* `lengths_le_length_encode`: in a shape whose lists hold no values without bytes, no length is
  greater than the number of bytes that the value is written in.  So a value that fits in
  `maxLength` bytes has no length over the limit, however its texts and lists are nested.
-/

namespace RegisterMachine.Wire

namespace Shape

/-- The lengths in front of the texts and lists of a value, in the order in which they are
written. -/
def lengths : (s : Shape) → s.Value → List Nat
  | byte,       _      => []
  | word,       _      => []
  | long,       _      => []
  | signed,     _      => []
  | size,       _      => []
  | text,       x      => [x.utf8ByteSize]
  | unit,       _      => []
  | list s,     xs     => xs.length :: xs.flatMap fun x => lengths s x
  | pair s t,   (x, y) => lengths s x ++ lengths t y
  | choice s _, .inl x => lengths s x
  | choice _ t, .inr y => lengths t y

/-- No length of the value is over the limit. -/
def InLimit (s : Shape) (v : s.Value) : Prop :=
  ∀ n ∈ s.lengths v, n ≤ maxLength

instance (s : Shape) (v : s.Value) : Decidable (s.InLimit v) :=
  inferInstanceAs (Decidable (∀ n ∈ s.lengths v, n ≤ maxLength))

/-- The first length that is over the limit. -/
def overlong? (s : Shape) (v : s.Value) : Option Nat :=
  (s.lengths v).find? fun n => decide (maxLength < n)

/-- The fewest bytes that a value of the shape is written in. -/
def least : Shape → Nat
  | byte       => 1
  | word       => 4
  | long       => 8
  | signed     => 8
  | size       => 8
  | text       => 8
  | unit       => 0
  | list _     => 8
  | pair s t   => s.least + t.least
  | choice s t => 1 + min s.least t.least

/-- What a list of the shape holds is written in at least one byte. -/
def Dense : Shape → Prop
  | list s     => 0 < s.least ∧ s.Dense
  | pair s t   => s.Dense ∧ t.Dense
  | choice s t => s.Dense ∧ t.Dense
  | _          => True

/-! ### The limit, part by part -/

theorem inLimit_of_lengths_eq_nil {s : Shape} {v : s.Value} (h : s.lengths v = []) :
    s.InLimit v :=
  fun _ hn => absurd (h ▸ hn) List.not_mem_nil

theorem inLimit_text {x : String} : text.InLimit x ↔ x.utf8ByteSize ≤ maxLength :=
  List.forall_mem_singleton

theorem inLimit_list {s : Shape} {xs : List s.Value} :
    (list s).InLimit xs ↔ xs.length ≤ maxLength ∧ ∀ x ∈ xs, s.InLimit x := by
  rw [InLimit, lengths, List.forall_mem_cons, List.forall_mem_flatMap]
  rfl

theorem inLimit_pair {s t : Shape} {x : s.Value} {y : t.Value} :
    (pair s t).InLimit (x, y) ↔ s.InLimit x ∧ t.InLimit y :=
  List.forall_mem_append

theorem overlong?_eq_none_iff {s : Shape} {v : s.Value} :
    s.overlong? v = none ↔ s.InLimit v := by
  rw [overlong?, List.find?_eq_none]
  exact forall₂_congr fun n _ => by rw [decide_eq_true_eq, Nat.not_lt]

theorem exists_overlong? {s : Shape} {v : s.Value} (h : ¬ s.InLimit v) :
    ∃ n, s.overlong? v = some n :=
  Option.ne_none_iff_exists'.mp fun hnone => h (overlong?_eq_none_iff.mp hnone)

theorem overlong?_eq_some {s : Shape} {v : s.Value} {n : Nat} (h : s.overlong? v = some n) :
    n ∈ s.lengths v ∧ maxLength < n := by
  rw [overlong?] at h
  have hover := List.find?_some h
  exact ⟨List.mem_of_find?_eq_some h, of_decide_eq_true hover⟩

theorem overlong?_pair {s t : Shape} {x : s.Value} {y : t.Value} :
    (pair s t).overlong? (x, y) = (s.overlong? x).or (t.overlong? y) :=
  List.find?_append

theorem overlong?_list {s : Shape} {xs : List s.Value} :
    (list s).overlong? xs =
      if maxLength < xs.length then some xs.length else xs.findSome? s.overlong? := by
  rw [overlong?, lengths, List.find?_cons, List.find?_flatMap]
  split <;> rename_i h
  · rw [if_pos (of_decide_eq_true h)]
  · rw [if_neg (of_decide_eq_false h)]
    rfl

/-! ### Bytes and lengths -/

theorem length_encode_text (x : String) : (text.encode x).length = 8 + x.utf8ByteSize := by
  simp only [encode, List.length_append, length_littleEndian, Array.length_toList]
  rfl

theorem length_encode_list (s : Shape) (xs : List s.Value) :
    ((list s).encode xs).length = 8 + (xs.flatMap s.encode).length := by
  rw [encode, List.length_append, length_littleEndian]

theorem least_le_length_encode : ∀ (s : Shape) (v : s.Value), s.least ≤ (s.encode v).length
  | byte,       _      => Nat.le_refl _
  | word,       _      => Nat.le_of_eq (length_littleEndian 4 _).symm
  | long,       _      => Nat.le_of_eq (length_littleEndian 8 _).symm
  | signed,     _      => Nat.le_of_eq (length_littleEndian 8 _).symm
  | size,       _      => Nat.le_of_eq (length_littleEndian 8 _).symm
  | text,       x      => length_encode_text x ▸ Nat.le_add_right 8 _
  | unit,       _      => Nat.le_refl _
  | list s,     xs     => length_encode_list s xs ▸ Nat.le_add_right 8 _
  | pair s t,   (x, y) => by
      rw [encode, List.length_append]
      exact Nat.add_le_add (least_le_length_encode s x) (least_le_length_encode t y)
  | choice s t, .inl x => by
      rw [encode, List.length_cons, Nat.add_comm]
      exact Nat.add_le_add_left
        (Nat.le_trans (Nat.min_le_left _ _) (least_le_length_encode s x)) 1
  | choice s t, .inr y => by
      rw [encode, List.length_cons, Nat.add_comm]
      exact Nat.add_le_add_left
        (Nat.le_trans (Nat.min_le_right _ _) (least_le_length_encode t y)) 1

/-- A list of values that each take a byte has no more values than bytes. -/
theorem length_le_length_flatMap_encode {s : Shape} (hs : 0 < s.least) (xs : List s.Value) :
    xs.length ≤ (xs.flatMap s.encode).length := by
  induction xs with
  | nil => exact Nat.le_refl 0
  | cons x xs ih =>
      rw [List.length_cons, List.flatMap_cons, List.length_append, Nat.add_comm]
      exact Nat.add_le_add (Nat.lt_of_lt_of_le hs (least_le_length_encode s x)) ih

theorem length_encode_le_of_mem {s : Shape} {x : s.Value} {xs : List s.Value} (hx : x ∈ xs) :
    (s.encode x).length ≤ (xs.flatMap s.encode).length :=
  (List.sublist_flatten_of_mem (List.mem_map_of_mem hx)).length_le

/-- **Lengths are bounded by bytes.**  Each length of a value is at most the number of bytes that
the value is written in. -/
theorem lengths_le_length_encode :
    ∀ (s : Shape), s.Dense → ∀ (v : s.Value), ∀ n ∈ s.lengths v, n ≤ (s.encode v).length
  | text, _, x, n, hn => by
      obtain rfl := List.mem_singleton.mp hn
      exact length_encode_text x ▸ Nat.le_add_left _ 8
  | list s, hd, xs, n, hn => by
      rw [length_encode_list]
      rcases List.mem_cons.mp hn with rfl | hn
      · exact Nat.le_add_left_of_le (length_le_length_flatMap_encode hd.1 xs)
      · obtain ⟨x, hx, hn⟩ := List.mem_flatMap.mp hn
        have hle := lengths_le_length_encode s hd.2 x n hn
        exact Nat.le_add_left_of_le (Nat.le_trans hle (length_encode_le_of_mem hx))
  | pair s t, hd, (x, y), n, hn => by
      rw [encode, List.length_append]
      rcases List.mem_append.mp hn with hn | hn
      · exact Nat.le_add_right_of_le (lengths_le_length_encode s hd.1 x n hn)
      · exact Nat.le_add_left_of_le (lengths_le_length_encode t hd.2 y n hn)
  | choice s _, hd, .inl x, n, hn =>
      Nat.le_succ_of_le (lengths_le_length_encode s hd.1 x n hn)
  | choice _ t, hd, .inr y, n, hn =>
      Nat.le_succ_of_le (lengths_le_length_encode t hd.2 y n hn)

/-- A value that is written in at most `maxLength` bytes has no length over the limit. -/
theorem inLimit_of_length_encode_le {s : Shape} (hd : s.Dense) {v : s.Value}
    (h : (s.encode v).length ≤ maxLength) : s.InLimit v :=
  fun n hn => Nat.le_trans (lengths_le_length_encode s hd v n hn) h

end Shape

namespace Format

variable {α : Type} (f : Format α)

/-- The lengths in front of the texts and lists of a value, in the order in which they are
written. -/
def lengths (a : α) : List Nat :=
  f.shape.lengths (f.toValue a)

/-- No length of the value is over the limit. -/
def InLimit (a : α) : Prop :=
  f.shape.InLimit (f.toValue a)

instance (a : α) : Decidable (f.InLimit a) :=
  inferInstanceAs (Decidable (f.shape.InLimit (f.toValue a)))

/-- The first length that is over the limit. -/
def overlong? (a : α) : Option Nat :=
  f.shape.overlong? (f.toValue a)

end Format

end RegisterMachine.Wire
