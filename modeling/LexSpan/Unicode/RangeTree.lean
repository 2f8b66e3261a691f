/-!
# Sets of code points

The characters of a Unicode property come as a table of ascending ranges. `RangeTree.ofRanges` turns
such a table into a balanced search tree. Main statement: a number is in the tree exactly if it is
in one of the ranges (`contains_ofRanges`).
-/

namespace LexSpan

/-- A set of numbers, as a search tree over ranges that include both ends. -/
inductive RangeTree where
  | empty
  | node (low : RangeTree) (first last : Nat) (high : RangeTree)

namespace RangeTree

/-- Whether `n` lies in one of the ranges. -/
def contains (n : Nat) : RangeTree → Bool
  | empty => false
  | node low first last high =>
    if n < first then low.contains n else if last < n then high.contains n else true

/-- Fills a tree of the given height from the front of a table, and returns what it left over. -/
def fill : Nat → List (Nat × Nat) → RangeTree × List (Nat × Nat)
  | 0, ranges => (empty, ranges)
  | height + 1, ranges =>
    match fill height ranges with
    | (low, []) => (low, [])
    | (low, (first, last) :: ranges) =>
      let (high, ranges) := fill height ranges
      (node low first last high, ranges)

/-- The search tree over a table of ascending ranges. The height allowed is ample: a tree grows no
higher than it takes to hold the table. -/
def ofRanges (ranges : List (Nat × Nat)) : RangeTree := (fill ranges.length ranges).1

/-- The number of ranges in a full tree of the given height. -/
def capacity : Nat → Nat
  | 0 => 0
  | height + 1 => capacity height + (1 + capacity height)

/-- The ranges of a tree, in ascending order. -/
def toRanges : RangeTree → List (Nat × Nat)
  | empty => []
  | node low first last high => low.toRanges ++ (first, last) :: high.toRanges

/-- Whether each range of a table is well-formed and lies above the one before it. -/
def ascendingFrom : Nat → List (Nat × Nat) → Bool
  | _, [] => true
  | least, (first, last) :: ranges =>
    least ≤ first && first ≤ last && ascendingFrom (last + 1) ranges

theorem le_capacity (height : Nat) : height ≤ capacity height := by
  induction height with
  | zero => exact Nat.le_refl 0
  | succ height ih => rw [capacity]; omega

/-- A tree takes the front of the table, and leaves something only if it is full. -/
theorem toRanges_fill (height : Nat) (ranges : List (Nat × Nat)) :
    (fill height ranges).1.toRanges = ranges.take (capacity height) ∧
      (fill height ranges).2 = ranges.drop (capacity height) := by
  induction height generalizing ranges with
  | zero => simp [fill, toRanges, capacity]
  | succ height ih =>
    obtain ⟨hlow, hrest⟩ := ih ranges
    rw [fill]
    rcases h : fill height ranges with ⟨low, _ | ⟨⟨first, last⟩, rest⟩⟩
    · rw [h] at hlow hrest
      have hlen : ranges.length ≤ capacity height := by simpa using hrest
      simp only at hlow ⊢
      rw [hlow, capacity, List.take_of_length_le hlen, List.take_of_length_le (by omega),
        List.drop_of_length_le (by omega)]
      simp
    · rw [h] at hlow hrest
      obtain ⟨hhigh, hrest'⟩ := ih rest
      simp only at hlow hrest ⊢
      rw [toRanges, hlow, hhigh, hrest', capacity, List.take_add, ← List.drop_drop, ← hrest]
      simp [Nat.add_comm 1]

theorem toRanges_ofRanges (ranges : List (Nat × Nat)) : (ofRanges ranges).toRanges = ranges := by
  rw [ofRanges, (toRanges_fill _ _).1]
  exact List.take_of_length_le (le_capacity _)

theorem ascendingFrom_append {least : Nat} {as bs : List (Nat × Nat)} {first last : Nat}
    (h : ascendingFrom least (as ++ (first, last) :: bs) = true) :
    ascendingFrom least as = true ∧ (∀ r ∈ as, r.2 < first) ∧ first ≤ last ∧
      ascendingFrom (last + 1) bs = true ∧ least ≤ first := by
  induction as generalizing least with
  | nil => simp_all [ascendingFrom]
  | cons a as ih =>
    simp only [List.cons_append, ascendingFrom, Bool.and_eq_true, decide_eq_true_eq] at h
    obtain ⟨⟨h₁, h₂⟩, h₃⟩ := h
    obtain ⟨i₁, i₂, i₃, i₄, i₅⟩ := ih h₃
    refine ⟨by simp [ascendingFrom, h₁, h₂, i₁], ?_, i₃, i₄, by omega⟩
    intro r hr
    rcases List.mem_cons.1 hr with rfl | hr
    · omega
    · exact i₂ r hr

theorem le_of_ascendingFrom {least : Nat} {ranges : List (Nat × Nat)}
    (h : ascendingFrom least ranges = true) : ∀ r ∈ ranges, least ≤ r.1 := by
  induction ranges generalizing least with
  | nil => simp
  | cons a ranges ih =>
    simp only [ascendingFrom, Bool.and_eq_true, decide_eq_true_eq] at h
    intro r hr
    rcases List.mem_cons.1 hr with rfl | hr
    · exact h.1.1
    · have := ih h.2 r hr; omega

theorem contains_iff {least : Nat} {tree : RangeTree}
    (h : ascendingFrom least tree.toRanges = true) (n : Nat) :
    tree.contains n = true ↔ ∃ r ∈ tree.toRanges, r.1 ≤ n ∧ n ≤ r.2 := by
  induction tree generalizing least with
  | empty => simp [contains, toRanges]
  | node low first last high ihl ihh =>
    obtain ⟨hl, hlt, hle, hh, -⟩ := ascendingFrom_append h
    have hge := le_of_ascendingFrom hh
    simp only [contains, toRanges, List.mem_append, List.mem_cons]
    split
    · rw [ihl hl]
      constructor
      · rintro ⟨r, hr, h⟩; exact ⟨r, .inl hr, h⟩
      · rintro ⟨r, hr | rfl | hr, h₁, h₂⟩
        · exact ⟨r, hr, h₁, h₂⟩
        · simp at h₁; omega
        · have := hge r hr; omega
    · split
      · rw [ihh hh]
        constructor
        · rintro ⟨r, hr, h⟩; exact ⟨r, .inr (.inr hr), h⟩
        · rintro ⟨r, hr | rfl | hr, h₁, h₂⟩
          · have := hlt r hr; omega
          · simp at h₂; omega
          · exact ⟨r, hr, h₁, h₂⟩
      · simp only [true_iff]
        exact ⟨(first, last), .inr (.inl rfl), by simp; omega, by simp; omega⟩

/-- The tree over an ascending table holds the numbers of its ranges and no others. -/
theorem contains_ofRanges {ranges : List (Nat × Nat)} (h : ascendingFrom 0 ranges = true)
    (n : Nat) : (ofRanges ranges).contains n = true ↔ ∃ r ∈ ranges, r.1 ≤ n ∧ n ≤ r.2 := by
  have htree : ascendingFrom 0 (ofRanges ranges).toRanges = true := by rwa [toRanges_ofRanges]
  have := contains_iff htree n
  rwa [toRanges_ofRanges] at this

end RangeTree

end LexSpan
