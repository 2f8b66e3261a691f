/-!
# Texts measured in UTF-8 bytes

A text is a list of characters, and every offset into it counts bytes of its UTF-8 form. This
module measures texts (`length`), cuts them by bytes (`take`, `drop`), tells the offsets that fall
between two characters from those inside one (`isBoundary`) and searches for a byte (`index?`).

Main statements: a cut loses nothing (`take_append_drop`); cutting where a part ends gives that part
(`take_length_append`, `drop_length_append`); the offsets between characters are the lengths of the
leading parts (`isBoundary_iff`); the search answers as a search of all the bytes
(`index?_eq_idxOf?`).
-/

namespace LexSpan.Utf8

/-- The number of bytes of a text. -/
def length (cs : List Char) : Nat := cs.foldr (fun c n => c.utf8Size + n) 0

/-- The bytes of a text. -/
def bytes (cs : List Char) : List UInt8 := cs.flatMap String.utf8EncodeChar

/-- The first `n` bytes of a text, or all if there are fewer. -/
def firstBytes (n : Nat) (cs : List Char) : List UInt8 := (bytes (cs.take n)).take n

/-- How many leading characters lie wholly within the first `n` bytes, counted on from `count`. -/
def fittingFrom (count n : Nat) : List Char → Nat
  | [] => count
  | c :: cs => if c.utf8Size ≤ n then fittingFrom (count + 1) (n - c.utf8Size) cs else count

/-- How many leading characters lie wholly within the first `n` bytes. -/
def fitting (n : Nat) (cs : List Char) : Nat := fittingFrom 0 n cs

/-- The characters that lie wholly within the first `n` bytes. -/
def take (n : Nat) (cs : List Char) : List Char := cs.take (fitting n cs)

/-- What `take` leaves. -/
def drop (n : Nat) (cs : List Char) : List Char := cs.drop (fitting n cs)

/-- Whether offset `n` lies in the text or at its end, and not inside a character. -/
def isBoundary (n : Nat) (cs : List Char) : Bool := length (take n cs) == n

/-- The offset of the first byte `b`, counted on from `offset`. -/
def indexFrom? (b : UInt8) (offset : Nat) : List Char → Option Nat
  | [] => none
  | c :: cs =>
    match (String.utf8EncodeChar c).idxOf? b with
    | some i => some (offset + i)
    | none => indexFrom? b (offset + c.utf8Size) cs

/-- The offset of the first byte `b` of a text. -/
def index? (b : UInt8) (cs : List Char) : Option Nat := indexFrom? b 0 cs

@[simp] theorem length_nil : length [] = 0 := rfl

@[simp] theorem length_cons (c : Char) (cs : List Char) :
    length (c :: cs) = c.utf8Size + length cs := rfl

@[simp] theorem length_append (as bs : List Char) : length (as ++ bs) = length as + length bs := by
  induction as with
  | nil => simp
  | cons a as ih => rw [List.cons_append, length_cons, length_cons, ih, Nat.add_assoc]

/-- Only the empty text has no bytes. -/
@[simp] theorem length_eq_zero {cs : List Char} : length cs = 0 ↔ cs = [] := by
  cases cs with
  | nil => simp
  | cons c cs => have := c.utf8Size_pos; simp; omega

/-- Every character has a byte of its own. -/
theorem length_le_length (cs : List Char) : cs.length ≤ length cs := by
  induction cs with
  | nil => simp
  | cons c cs ih => have := c.utf8Size_pos; simp; omega

theorem bytes_append (as bs : List Char) : bytes (as ++ bs) = bytes as ++ bytes bs := by
  simp [bytes]

theorem length_bytes (cs : List Char) : (bytes cs).length = length cs := by
  induction cs with
  | nil => rfl
  | cons c cs ih =>
    simp only [bytes, List.flatMap_cons, List.length_append] at ih ⊢
    rw [ih, String.length_utf8EncodeChar, length_cons]

/-- No character is shorter than a byte, so `n` characters hold the first `n` bytes. -/
theorem firstBytes_eq (n : Nat) (cs : List Char) : firstBytes n cs = (bytes cs).take n := by
  conv => rhs; rw [← List.take_append_drop n cs, bytes_append]
  by_cases h : n ≤ cs.length
  · have := length_le_length (cs.take n)
    rw [List.length_take_of_le h] at this
    rw [firstBytes, List.take_append_of_le_length (by rwa [length_bytes])]
  · rw [List.drop_of_length_le (by omega), firstBytes]
    simp [bytes]

/-- The size of a string is the length of its characters. -/
theorem utf8ByteSize_eq (s : String) : s.utf8ByteSize = length s.toList := by
  rw [← length_bytes]
  conv => lhs; rw [← String.ofList_toList (s := s)]
  simp [String.utf8ByteSize, String.ofList, List.utf8Encode, bytes]

theorem fittingFrom_eq (count n : Nat) (cs : List Char) :
    fittingFrom count n cs = count + fitting n cs := by
  induction cs generalizing count n with
  | nil => rfl
  | cons c cs ih =>
    by_cases h : c.utf8Size ≤ n
    · simp only [fitting, fittingFrom, h, if_true]
      rw [ih, ih (0 + 1)]
      omega
    · simp [fitting, fittingFrom, h]

theorem take_append_drop (n : Nat) (cs : List Char) : take n cs ++ drop n cs = cs :=
  List.take_append_drop _ _

/-- The bytes of a part hold its characters and no more. -/
theorem fitting_length_append (as bs : List Char) : fitting (length as) (as ++ bs) = as.length := by
  induction as with
  | nil =>
    cases bs with
    | nil => rfl
    | cons b bs => have := b.utf8Size_pos; simp [fitting, fittingFrom]; omega
  | cons a as ih =>
    rw [fitting, List.cons_append, fittingFrom, if_pos (by simp), fittingFrom_eq, length_cons,
      Nat.add_sub_cancel_left, ih, List.length_cons, Nat.zero_add, Nat.add_comm]

@[simp] theorem take_length_append (as bs : List Char) : take (length as) (as ++ bs) = as := by
  rw [take, fitting_length_append, List.take_left]

@[simp] theorem drop_length_append (as bs : List Char) : drop (length as) (as ++ bs) = bs := by
  rw [drop, fitting_length_append, List.drop_left]

/-- The offsets between characters are the lengths of the leading parts. -/
theorem isBoundary_iff {n : Nat} {cs : List Char} :
    isBoundary n cs = true ↔ ∃ as bs, cs = as ++ bs ∧ length as = n := by
  constructor
  · intro h
    exact ⟨take n cs, drop n cs, (take_append_drop n cs).symm, by simpa [isBoundary] using h⟩
  · rintro ⟨as, bs, rfl, rfl⟩
    simp [isBoundary]

theorem indexFrom?_eq (b : UInt8) (offset : Nat) (cs : List Char) :
    indexFrom? b offset cs = ((bytes cs).idxOf? b).map (offset + ·) := by
  induction cs generalizing offset with
  | nil => simp [indexFrom?, bytes]
  | cons c cs ih =>
    have hb : bytes (c :: cs) = String.utf8EncodeChar c ++ bytes cs := by simp [bytes]
    simp only [indexFrom?, hb, List.idxOf?, List.findIdx?_append]
    cases (String.utf8EncodeChar c).findIdx? (· == b) with
    | some i => simp
    | none =>
      simp only [ih, ← String.length_utf8EncodeChar, List.idxOf?]
      cases (bytes cs).findIdx? (· == b) with
      | none => simp
      | some i => simp; omega

/-- The search answers as a search of all the bytes does. -/
theorem index?_eq_idxOf? (b : UInt8) (cs : List Char) : index? b cs = (bytes cs).idxOf? b := by
  simp [index?, indexFrom?_eq]

end LexSpan.Utf8
