import LexSpan.Proofs.Consumption
import LexSpan.Proofs.Munch

/-!
# Runs of characters, taken as far as they go

A read of a run takes the longest text at the head of what is left whose characters all satisfy its
predicate (`isLongest_takeWhile`, `readRun_eq_taking`); what stands behind it does not go on with such
a character, so a second read finds nothing. A read of one character and a run takes the character and
then the run (`readOneThenRun_eq_taking`).
-/

namespace LexSpan

/-- The longest text with a property at the head of a text. -/
structure IsLongest (property : List Char → Prop) (cs w : List Char) : Prop where
  holds : property w
  head : w <+: cs
  longest : ∀ v, property v → v <+: cs → v.length ≤ w.length

/-- Whether all characters of a text satisfy `p`. -/
def Within (p : Char → Bool) (w : List Char) : Prop := ∀ c ∈ w, p c = true

theorem isLongest_takeWhile (p : Char → Bool) (cs : List Char) :
    IsLongest (Within p) cs (cs.takeWhile p) where
  holds := mem_takeWhile
  head := List.takeWhile_prefix p
  longest := by
    rintro v hv ⟨bs, rfl⟩
    rw [List.takeWhile_append_of_pos hv, List.length_append]
    exact Nat.le_add_right _ _

theorem head?_any_iff {p : Char → Bool} {cs : List Char} : cs.head?.any p = true ↔
    ∃ ch bs, cs = ch :: bs ∧ p ch = true := by
  constructor
  · intro h
    obtain ⟨ch, hch, hp⟩ := (Option.any_eq_true ..).1 h
    obtain ⟨bs, hcs⟩ := List.head?_eq_some_iff.1 hch
    exact ⟨ch, bs, hcs, hp⟩
  · rintro ⟨ch, bs, rfl, hp⟩
    exact hp

namespace Cursor

/-- What it comes to to take the text `w`: its token, unless it is empty, and the cursor behind it. -/
def taking (c : Cursor) (w : List Char) : Option Token × Cursor :=
  (if w = [] then none
    else some ⟨String.ofList w, c.position, (advanceBy w.length c).position⟩, advanceBy w.length c)

variable {c : Cursor} {ch : Char} {cs w bs : List Char} {p first others : Char → Bool}

theorem taking_nil (c : Cursor) : c.taking [] = (none, c) := rfl

theorem taking_eq_some_iff {token : Token} {later : Cursor} : c.taking w = (some token, later) ↔
    w ≠ [] ∧ token = ⟨String.ofList w, c.position, later.position⟩ ∧
      later = advanceBy w.length c := by
  rw [taking]
  by_cases hw : w = []
  · rw [if_pos hw]
    exact ⟨nofun, fun h => absurd hw h.1⟩
  · rw [if_neg hw]
    constructor
    · rintro ⟨⟩
      exact ⟨hw, rfl, rfl⟩
    · rintro ⟨-, rfl, rfl⟩
      rfl

theorem stopsBefore_rest_iff : StopsBefore p c.rest ↔ c.current.any p = false := by
  rw [Option.any_eq_false]
  rfl

theorem read_eq_taking (hv : c.Valid) (hc : c.rest = w ++ bs) {shape : Shape}
    (he : shape.extent? c.rest = some (Utf8.length w)) : c.read shape = .ok (c.taking w) := by
  have hne : w ≠ [] := by
    rintro rfl
    exact absurd (Shape.pos_of_extent? he) (Nat.lt_irrefl 0)
  rw [read_eq_some hv hc he, taking, if_neg hne]

theorem readRun_eq_taking (hv : c.Valid) (p : Char → Bool) :
    c.read (.run p) = .ok (c.taking (c.rest.takeWhile p)) := by
  by_cases h : c.rest.takeWhile p = []
  · rw [h, taking_nil]
    exact read_eq_none (if_pos h)
  · exact read_eq_taking hv List.takeWhile_append_dropWhile.symm (if_neg h)

theorem readOneThenRun_eq_taking (hv : c.Valid) (hc : c.rest = ch :: cs) (hch : first ch = true) :
    c.read (.oneThenRun first others) = .ok (c.taking (ch :: cs.takeWhile others)) := by
  have hsplit : c.rest = (ch :: cs.takeWhile others) ++ cs.dropWhile others := by
    rw [hc, List.cons_append, List.takeWhile_append_dropWhile]
  refine read_eq_taking hv hsplit ?_
  rw [hc]
  exact if_pos hch

theorem readOneThenRun_eq_none (h : c.current.any first = false) :
    c.read (.oneThenRun first others) = .ok (none, c) := by
  refine read_eq_none ?_
  rcases hc : c.rest with _ | ⟨ch, cs⟩
  · rfl
  · rw [current, hc, List.head?_cons, Option.any_some] at h
    exact if_neg (Bool.eq_false_iff.1 h)

/-- Behind a run no character goes on with it. -/
theorem stopsBefore_advanceBy_takeWhile (p : Char → Bool) (c : Cursor) :
    StopsBefore p (advanceBy (c.rest.takeWhile p).length c).rest := by
  rw [rest_advanceBy List.takeWhile_append_dropWhile.symm]
  exact .dropWhile p c.rest

theorem readRun_of_stopsBefore (h : StopsBefore p c.rest) : c.read (.run p) = .ok (none, c) :=
  read_eq_none (if_pos h.takeWhile_eq_nil)

theorem exists_readRun_iff (hv : c.Valid) :
    (∃ token later, c.read (.run p) = .ok (some token, later)) ↔ c.current.any p = true := by
  constructor
  · rintro ⟨token, later, hread⟩
    rw [← Bool.not_eq_false, ← stopsBefore_rest_iff]
    intro hstop
    rw [readRun_of_stopsBefore hstop] at hread
    cases hread
  · intro h
    obtain ⟨ch, cs, hc, hp⟩ := head?_any_iff.1 h
    have hne : c.rest.takeWhile p ≠ [] := by
      rw [hc, List.takeWhile_cons_of_pos hp]
      exact List.cons_ne_nil _ _
    exact ⟨_, _, (readRun_eq_taking hv p).trans (congrArg _ (taking_eq_some_iff.2 ⟨hne, rfl, rfl⟩))⟩

/-- Asking the same of the first character as of the others asks for a run. -/
theorem readOneThenRun_self (hv : c.Valid) (p : Char → Bool) :
    c.read (.oneThenRun p p) = c.read (.run p) := by
  rcases hc : c.rest with _ | ⟨ch, cs⟩
  · rw [readOneThenRun_eq_none (by rw [current, hc]; rfl), read_eq_none (by rw [hc]; rfl)]
  · cases hch : p ch with
    | true =>
      rw [readOneThenRun_eq_taking hv hc hch, readRun_eq_taking hv, hc,
        List.takeWhile_cons_of_pos hch]
    | false =>
      have hany : c.current.any p = false := by rw [current, hc]; exact hch
      rw [readOneThenRun_eq_none hany, readRun_of_stopsBefore (stopsBefore_rest_iff.2 hany)]

end Cursor

end LexSpan
