import LexSpan.Proofs.Consumption
import LexSpan.Proofs.Head

/-!
# Where a move to an offset lands

A cursor can move to the offsets that lie ahead of it, in the text and between two characters
(`Cursor.Admits`). These are the offsets behind the leading parts of what is left
(`Admits.exists_append`), so the move passes such a part and stops at its end: no step on the way
reaches the offset before the last one does (`offset_advanceBy_lt`).

Main statement (`advanceTo_lands`): every other offset is refused, and to one of these the cursor makes
as many steps as there are characters in between. Moves in two parts are moves at once, wherever the
first of them stops, and so are slices.
-/

namespace LexSpan

namespace Cursor

/-- Whether an offset lies ahead of a cursor, in the text and between two characters. -/
structure Admits (c : Cursor) (target : Nat) : Prop where
  offset_le : c.offset ≤ target
  le_size : target ≤ c.text.utf8ByteSize
  isBoundary : Utf8.isBoundary target c.text.toList = true

variable {c : Cursor} {target : Nat} {as bs : List Char}

/-- An offset ahead lies between two characters of the text exactly if it lies between two of those
that are left. -/
theorem Valid.isBoundary_iff (hv : c.Valid) (hle : c.offset ≤ target) :
    Utf8.isBoundary target c.text.toList = true ↔
      Utf8.isBoundary (target - c.offset) c.rest = true := by
  obtain ⟨passed, htext, hoffset⟩ := hv
  rw [Utf8.isBoundary_iff, Utf8.isBoundary_iff, htext]
  constructor
  · rintro ⟨as, bs, hsplit, hlength⟩
    rcases List.append_eq_append_iff.1 hsplit with ⟨gap, rfl, hrest⟩ | ⟨gap, rfl, rfl⟩
    · exact ⟨gap, bs, hrest, by rw [← hlength, hoffset, Utf8.length_append]; omega⟩
    · -- the part ends no later than the cursor, so what it lacks up to there has no bytes
      rw [Utf8.length_append] at hoffset
      have hgap : gap = [] := Utf8.length_eq_zero.1 (by omega)
      subst hgap
      exact ⟨[], c.rest, rfl, by rw [Utf8.length_nil] at *; omega⟩
  · rintro ⟨as, bs, hrest, hlength⟩
    refine ⟨passed ++ as, bs, by rw [hrest, List.append_assoc], ?_⟩
    rw [Utf8.length_append, hlength, ← hoffset]
    omega

/-- What lies between a cursor and an offset that it can move to. -/
theorem Admits.exists_append (h : c.Admits target) (hv : c.Valid) :
    ∃ as bs, c.rest = as ++ bs ∧ target = c.offset + Utf8.length as := by
  obtain ⟨as, bs, hc, hlength⟩ := Utf8.isBoundary_iff.1 ((hv.isBoundary_iff h.offset_le).1 h.isBoundary)
  have hle := h.offset_le
  exact ⟨as, bs, hc, by omega⟩

theorem not_admits_iff : ¬ c.Admits target ↔ target < c.offset ∨ c.text.utf8ByteSize < target ∨
    Utf8.isBoundary target c.text.toList = false := by
  have hiff : c.Admits target ↔ c.offset ≤ target ∧ target ≤ c.text.utf8ByteSize ∧
      Utf8.isBoundary target c.text.toList = true :=
    ⟨fun h => ⟨h.offset_le, h.le_size, h.isBoundary⟩, fun h => ⟨h.1, h.2.1, h.2.2⟩⟩
  rw [hiff, Classical.not_and_iff_not_or_not, Classical.not_and_iff_not_or_not, Nat.not_le,
    Nat.not_le, Bool.not_eq_true]

/-- Exactly the offsets that a cursor does not admit are refused. -/
theorem exists_fault_iff (hv : c.Valid) :
    (∃ fault, c.advanceTo target = .error fault) ↔ ¬ c.Admits target := by
  constructor
  · rintro ⟨fault, hfault⟩ hadmits
    obtain ⟨as, bs, hc, rfl⟩ := hadmits.exists_append hv
    rw [advanceTo_append hv hc] at hfault
    cases hfault
  · intro h
    rw [advanceTo]
    split
    · exact ⟨_, rfl⟩
    · next hinside =>
      rw [not_or, Nat.not_lt, Nat.not_lt] at hinside
      rw [if_neg fun hb => h ⟨hinside.1, hinside.2, (hv.isBoundary_iff hinside.1).2 hb⟩]
      exact ⟨_, rfl⟩

/-- A head moves as its cursor does, and refuses what the cursor refuses. -/
theorem advanceTo_head_eq (hv : c.Valid) (target : Nat) :
    c.head.advanceTo target = ((c.advanceTo target).map head).mapError .fault := by
  by_cases h : c.Admits target
  · obtain ⟨as, bs, hc, rfl⟩ := h.exists_append hv
    have hto := advanceTo_append hv hc
    rw [advanceTo_head hv hto, hto]
    rfl
  · rw [Head.advanceTo, advanceTo, offset_head, text_head]
    split
    · rfl
    · next hinside =>
      rw [not_or, Nat.not_lt, Nat.not_lt] at hinside
      have hb : ¬ Utf8.isBoundary target c.text.toList = true := fun hb =>
        h ⟨hinside.1, hinside.2, hb⟩
      rw [if_neg hb, if_neg (mt (hv.isBoundary_iff hinside.1).2 hb)]
      rfl

/-- Before the last step the cursor is short of where it lands. -/
theorem offset_advanceBy_lt (hc : c.rest = as ++ bs) {k : Nat} (hk : k < as.length) :
    (advanceBy k c).offset < c.offset + Utf8.length as := by
  have hsplit : c.rest = as.take k ++ (as.drop k ++ bs) := by
    rw [← List.append_assoc, List.take_append_drop, hc]
  have hlength : Utf8.length (as.take k) + Utf8.length (as.drop k) = Utf8.length as := by
    rw [← Utf8.length_append, List.take_append_drop]
  have hdrop : as.drop k ≠ [] := mt List.drop_eq_nil_iff.1 (Nat.not_le.2 hk)
  have hpos := Nat.pos_of_ne_zero (mt Utf8.length_eq_zero.1 hdrop)
  have hoffset := offset_advanceBy hsplit
  rw [List.length_take_of_le (Nat.le_of_lt hk)] at hoffset
  omega

/-- A slice depends on nothing but the text. -/
theorem slice_advanceBy (n : Nat) (c : Cursor) (start stop : Nat) :
    (advanceBy n c).slice start stop = c.slice start stop := by
  rw [slice, slice, text_advanceBy]

theorem exists_advanceTo_advanceTo (hv : c.Valid) {a b : Nat} (ha : c.Admits a) (hb : c.Admits b)
    (hle : a ≤ b) : ∃ middle later, c.advanceTo a = .ok middle ∧ middle.advanceTo b = .ok later ∧
      c.advanceTo b = .ok later ∧ ∃ s t, c.slice c.offset a = .ok s ∧ c.slice a b = .ok t ∧
        c.slice c.offset b = .ok (s ++ t) := by
  obtain ⟨as, bs, hc, rfl⟩ := ha.exists_append hv
  have hmiddle := hv.advanceBy as.length
  have hoffset := offset_advanceBy hc
  have hadmits : (advanceBy as.length c).Admits b :=
    ⟨by rw [hoffset]; exact hle, by rw [text_advanceBy]; exact hb.le_size,
      by rw [text_advanceBy]; exact hb.isBoundary⟩
  obtain ⟨as', bs', hrest, rfl⟩ := hadmits.exists_append hmiddle
  have hwhole : c.rest = (as ++ as') ++ bs' := by
    rw [hc, ← rest_advanceBy hc, hrest, List.append_assoc]
  have hsum : (advanceBy as.length c).offset + Utf8.length as' =
      c.offset + Utf8.length (as ++ as') := by
    rw [hoffset, Utf8.length_append, Nat.add_assoc]
  refine ⟨_, _, advanceTo_append hv hc, advanceTo_append hmiddle hrest, ?_, _, String.ofList as',
    slice_append hv hc, ?_, ?_⟩
  · rw [hsum, advanceTo_append hv hwhole, List.length_append, advanceBy_add]
  · rw [← hoffset, ← slice_advanceBy as.length, slice_append hmiddle hrest]
  · rw [hsum, slice_append hv hwhole, String.ofList_append]

end Cursor

/-- A session moves to an offset as its cursor does, if the counters hold over what lies in between. -/
theorem Session.operate_advanceTo {s : Session} {as bs : List Char} (hv : s.cursor.Valid)
    (hc : s.cursor.rest = as ++ bs) :
    s.operate (.advanceTo (s.cursor.offset + Utf8.length as)) =
      if s.cursor.countersFit as.length then
        .ok (.done, { s with cursor := Cursor.advanceBy as.length s.cursor })
      else .error .countersExhausted := by
  have hreach : (Operation.advanceTo (s.cursor.offset + Utf8.length as)).reach s.cursor =
      as.length := by
    rw [Operation.reach, Nat.add_sub_cancel_left, hc, Utf8.fitting_length_append]
  rw [operate, hreach, Operation.run, Cursor.advanceTo_append hv hc]
  rfl

theorem advanceTo_lands {text : String} {c : Cursor} (h : Reachable text c) :
    (∀ o, c.head.advanceTo o = ((c.advanceTo o).map Cursor.head).mapError .fault ∧
      ((∃ fault, c.advanceTo o = .error fault) ↔
        o < c.offset ∨ text.utf8ByteSize < o ∨ Utf8.isBoundary o text.toList = false)) ∧
    (∀ o, c.Admits o → ∃ passed, c.slice c.offset o = .ok passed ∧
      c.advanceTo o = .ok (Cursor.advanceBy passed.length c) ∧
      (Cursor.advanceBy passed.length c).offset = o ∧
      (∀ k < passed.length, (Cursor.advanceBy k c).offset < o) ∧
      ∀ s : Session, s.cursor = c → s.operate (.advanceTo o) =
        if c.countersFit passed.length then
          .ok (.done, { s with cursor := Cursor.advanceBy passed.length c })
        else .error .countersExhausted) ∧
    ∀ a b, c.Admits a → c.Admits b → a ≤ b →
      ∃ middle later, c.advanceTo a = .ok middle ∧ middle.advanceTo b = .ok later ∧
        c.advanceTo b = .ok later ∧ ∃ s t, c.slice c.offset a = .ok s ∧ c.slice a b = .ok t ∧
          c.slice c.offset b = .ok (s ++ t) := by
  have hv := h.valid
  obtain rfl := h.text_eq
  refine ⟨fun o => ⟨Cursor.advanceTo_head_eq hv o, ?_⟩, fun o ho => ?_,
    fun a b => Cursor.exists_advanceTo_advanceTo hv⟩
  · rw [Cursor.exists_fault_iff hv, Cursor.not_admits_iff]
  · obtain ⟨as, bs, hc, rfl⟩ := ho.exists_append hv
    refine ⟨String.ofList as, Cursor.slice_append hv hc, ?_⟩
    rw [String.length_ofList]
    refine ⟨Cursor.advanceTo_append hv hc, Cursor.offset_advanceBy hc,
      fun k => Cursor.offset_advanceBy_lt hc, ?_⟩
    rintro s rfl
    exact Session.operate_advanceTo hv hc

/-- From behind a letter of two bytes to a place between a carriage return and its line feed, where
the line does not break yet, and on from there. -/
theorem advanceTo_lands_within_pair :
    ∃ c, Reachable "aé\r\nb" c ∧ c.position = ⟨3, 8, 5⟩ ∧
      (∃ fault, c.advanceTo 2 = .error fault) ∧
      (∃ passed, c.slice 3 6 = .ok passed ∧ passed = "\r\nb" ∧
        c.advanceTo 6 = .ok (Cursor.advanceBy passed.length c) ∧
        Session.operate (.advanceTo 6) { cursor := c } =
          .ok (.done, { cursor := Cursor.advanceBy passed.length c })) ∧
      ∃ middle later, c.advanceTo 4 = .ok middle ∧ middle.advanceTo 5 = .ok later ∧
        c.advanceTo 5 = .ok later ∧ middle.position = ⟨4, 8, 6⟩ ∧ later.position = ⟨5, 9, 1⟩ := by
  have hreset : (Operation.reset ⟨3, 8, 5⟩).run (.start "aé\r\nb") =
      .ok (.done, ⟨"aé\r\nb", ['\r', '\n', 'b'], ⟨3, 8, 5⟩⟩) := rfl
  have hreach := Reachable.run .start hreset
  obtain ⟨hrefused, hlands, htwice⟩ := advanceTo_lands hreach
  refine ⟨_, hreach, rfl, (hrefused 2).2.2 (.inl (by decide)), ?_, ?_⟩
  · obtain ⟨passed, hslice, hto, -, -, hoperate⟩ := hlands 6 ⟨by decide, by decide, by decide⟩
    have hpassed := Cursor.slice_append hreach.valid (show _ = ['\r', '\n', 'b'] ++ [] from rfl)
    cases hslice.symm.trans hpassed
    exact ⟨_, hslice, rfl, hto, (hoperate _ rfl).trans (if_pos (by decide))⟩
  · obtain ⟨middle, later, hmiddle, hlater, hwhole, -⟩ :=
      htwice 4 5 ⟨by decide, by decide, by decide⟩ ⟨by decide, by decide, by decide⟩ (by decide)
    have hfirst := Cursor.advanceTo_append hreach.valid (show _ = ['\r'] ++ ['\n', 'b'] from rfl)
    have hsecond := Cursor.advanceTo_append hreach.valid (show _ = ['\r', '\n'] ++ ['b'] from rfl)
    cases hmiddle.symm.trans hfirst
    cases hwhole.symm.trans hsecond
    exact ⟨_, _, hmiddle, hlater, hwhole, rfl, rfl⟩

end LexSpan
