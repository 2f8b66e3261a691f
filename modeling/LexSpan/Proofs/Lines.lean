import LexSpan.Program
import LexSpan.Proofs.FirstChar
import LexSpan.Proofs.Unescaping

/-!
# Lines and pieces

A text whose lines each end with a line feed is taken apart into them by `lines?`, and a text with
separators into what stands between them by `pieces`. What was put together from texts without the
separator is found again (`pieces_append`, `lines?_joinLines`). Numbers, places, names of kinds and
quoted texts hold no control character of ASCII (`Plain`), so none of them holds a line feed or a
tab.
-/

namespace LexSpan

/-- The lines of a text in which a line feed ends every line, the last one included. -/
def lines? (text : String) : Option (List String) :=
  let parts := pieces '\n' text
  if parts.getLast? = some "" then some parts.dropLast else none

/-- Whether a text holds no control character of ASCII. -/
def Plain (text : String) : Prop := ∀ c ∈ text.toList, 0x20 ≤ c.toNat

instance (text : String) : Decidable (Plain text) :=
  List.decidableBAll (fun c : Char => 0x20 ≤ c.toNat) text.toList

/-! ## Pieces -/

variable {separator : Char} {as bs : List Char}

theorem cut_cons_self (separator : Char) (cs : List Char) :
    cut separator (separator :: cs) = ([], (cut separator cs).1 :: (cut separator cs).2) := by
  rw [cut]
  exact if_pos rfl

theorem cut_cons_of_ne {c : Char} (cs : List Char) (h : separator ≠ c) :
    cut separator (c :: cs) = (c :: (cut separator cs).1, (cut separator cs).2) := by
  rw [cut]
  exact if_neg (Ne.symm h)

theorem cut_of_not_mem (h : separator ∉ as) : cut separator as = (as, []) := by
  induction as with
  | nil => rfl
  | cons a as ih =>
    rw [List.mem_cons, not_or] at h
    rw [cut_cons_of_ne as h.1, ih h.2]

theorem cut_append (h : separator ∉ as) : cut separator (as ++ separator :: bs) =
    (as, (cut separator bs).1 :: (cut separator bs).2) := by
  induction as with
  | nil => exact cut_cons_self separator bs
  | cons a as ih =>
    rw [List.mem_cons, not_or] at h
    rw [List.cons_append, cut_cons_of_ne _ h.1, ih h.2]

theorem pieces_eq (separator : Char) (text : String) : pieces separator text =
    String.ofList (cut separator text.toList).1 ::
      (cut separator text.toList).2.map String.ofList := rfl

theorem pieces_of_not_mem {text : String} (h : separator ∉ text.toList) :
    pieces separator text = [text] := by
  rw [pieces_eq, cut_of_not_mem h, String.ofList_toList, List.map_nil]

/-- A piece, its separator, and the pieces behind it. -/
theorem pieces_append {piece mark rest : String} (hmark : mark.toList = [separator])
    (h : separator ∉ piece.toList) :
    pieces separator (piece ++ mark ++ rest) = piece :: pieces separator rest := by
  have htext : (piece ++ mark ++ rest).toList = piece.toList ++ separator :: rest.toList := by
    rw [String.toList_append, String.toList_append, hmark, List.append_assoc, List.singleton_append]
  rw [pieces_eq, htext, cut_append h, List.map_cons, String.ofList_toList, pieces_eq]

/-! ## Plain texts -/

theorem Plain.append {s t : String} (hs : Plain s) (ht : Plain t) : Plain (s ++ t) := by
  rw [Plain, String.toList_append]
  exact List.forall_mem_append.2 ⟨hs, ht⟩

theorem Plain.not_mem {text : String} (h : Plain text) {c : Char} (hc : c.toNat < 0x20) :
    c ∉ text.toList := fun hmem => by
  have := h c hmem
  omega

theorem isDecimalDigit_of_mem_toString {n : Nat} {c : Char} (h : c ∈ (toString n).toList) :
    isDecimalDigit c = true := by
  rw [Nat.toString_eq_repr, Nat.toList_repr] at h
  exact Nat.isDigit_of_mem_toDigits (by decide) (by decide) h

theorem plain_toString (n : Nat) : Plain (toString n) := by
  intro c hc
  have := (isDecimalDigit_iff.1 (isDecimalDigit_of_mem_toString hc)).1
  omega

theorem plain_render (p : Position) : Plain p.render := by
  have hcolon : Plain ":" := by decide
  exact ((plain_toString p.line).append hcolon).append (plain_toString p.column)

theorem plain_name (k : Kind) : Plain k.name := by cases k <;> decide

theorem plain_quote (text : String) : Plain (quote text) := fun _ => le_of_mem_quote

/-! ## Lines -/

theorem pieces_joinLines {lines : List String} (h : ∀ line ∈ lines, '\n' ∉ line.toList) :
    pieces '\n' (joinLines lines) = lines ++ [""] := by
  induction lines with
  | nil => rfl
  | cons line lines ih =>
    rw [List.forall_mem_cons] at h
    rw [joinLines, List.map_cons, String.join_cons, pieces_append rfl h.1, List.cons_append]
    exact congrArg (line :: ·) (ih h.2)

/-- Lines that were joined are found again. -/
theorem lines?_joinLines {lines : List String} (h : ∀ line ∈ lines, '\n' ∉ line.toList) :
    lines? (joinLines lines) = some lines := by
  rw [lines?, pieces_joinLines h, List.getLast?_concat, if_pos rfl, List.dropLast_concat]

end LexSpan
