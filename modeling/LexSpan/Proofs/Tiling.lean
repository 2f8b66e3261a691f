import LexSpan.Proofs.LexingRun
import LexSpan.Proofs.Reachable

/-!
# The lexemes tile the text

Main statement (`tokenize_tiles`): splitting a text comes to an end, and the lexemes it gives, none
of them empty, follow each other from the first position to the end of the text, with no gap in
offset, line or column; their texts put together are the text. It rests on what a run does
(`Reads.tiles`, `Reads.rest_eq`) and on the progress of each step (`Cursor.next_progress`).
-/

namespace LexSpan

variable {c last : Cursor} {text : String} {lexemes : List Lexeme}

theorem Kind.IsText.ne_nil {k : Kind} {w : List Char} (h : k.IsText w) : w ≠ [] := by
  obtain ⟨c, cs, rfl, -⟩ := h.opens
  exact List.cons_ne_nil c cs

/-- Before the end a step fails at a quote or takes at least one character, whatever the character
is. -/
theorem Cursor.next_progress (hv : c.Valid) (h : c.atEnd = false) :
    (∃ (q : Quote) (e : LexError), c.current = some q.char ∧
      c.next Kind.order = .error (.malformed e)) ∨
    ∃ lexeme later, c.next Kind.order = .ok (some (lexeme, later)) ∧ lexeme.text ≠ "" ∧
      c.rest = lexeme.text.toList ++ later.rest ∧ c.offset < later.offset := by
  rcases next_cases hv with ⟨hnil, -⟩ | ⟨k, w, bs, hc, ht, -, hnext⟩ |
    ⟨q, body, e, hc, -, -, hnext⟩
  · rw [atEnd, hnil] at h
    cases h
  · refine .inr ⟨_, _, hnext, ?_, ?_, ?_⟩
    · exact fun htext => ht.ne_nil (by simpa [lexeme] using congrArg String.toList htext)
    · rw [rest_advanceBy hc, hc]
      exact congrArg (· ++ bs) String.toList_ofList.symm
    · have hpos := Nat.pos_of_ne_zero (mt Utf8.length_eq_zero.1 ht.ne_nil)
      rw [offset_advanceBy hc]
      omega
  · exact .inl ⟨q, e, by rw [current, hc, List.head?_cons], hnext⟩

theorem Reads.not_isEmpty (h : Reads c lexemes last) (hv : c.Valid) :
    ∀ lexeme ∈ lexemes, lexeme.text ≠ "" ∧ lexeme.isEmpty = false := by
  intro lexeme hmem
  have hne : lexeme.text ≠ "" := fun htext =>
    (h.isText hv lexeme hmem).ne_nil (by rw [htext]; rfl)
  refine ⟨hne, ?_⟩
  have hpos := Shape.utf8ByteSize_pos hne
  rw [Token.isEmpty, h.length_eq hv lexeme hmem]
  exact decide_eq_false (by omega)

theorem Reads.offset_eq (h : Reads (.start text) lexemes last) (hend : last.rest = []) :
    last.position.offset = text.utf8ByteSize := by
  have hrest := h.rest_eq (Cursor.valid_start text)
  show last.offset = _
  rw [h.eq_advanceBy (Cursor.valid_start text), Cursor.offset_advanceBy hrest, Utf8.utf8ByteSize_eq,
    ← h.charsOf_eq hend]
  exact Nat.zero_add _

theorem join_texts (lexemes : List Lexeme) :
    String.join (lexemes.map (·.text)) = String.ofList (charsOf lexemes) := by
  rw [← String.toList_inj, String.toList_join, String.toList_ofList, charsOf, List.flatMap_map]

theorem tokenize_tiles (text : String) :
    (∀ lexemes, tokenize text = .ok lexemes →
      (∃ last, Reads (.start text) lexemes last ∧ last.next Kind.order = .ok none) ∧
      (∃ stop, Tiles ⟨0, 1, 1⟩ lexemes stop ∧ stop.offset = text.utf8ByteSize) ∧
      (∀ lexeme ∈ lexemes, lexeme.text ≠ "" ∧ lexeme.isEmpty = false) ∧
      String.join (lexemes.map (·.text)) = text) ∧
    tokenize "" = .ok [] ∧
    ∀ c, Reachable text c → c.atEnd = false →
      (∃ (q : Quote) (e : LexError), c.current = some q.char ∧
        c.next Kind.order = .error (.malformed e)) ∨
      ∃ lexeme later, c.next Kind.order = .ok (some (lexeme, later)) ∧ lexeme.text ≠ "" ∧
        c.rest = lexeme.text.toList ++ later.rest ∧ c.offset < later.offset := by
  refine ⟨fun lexemes h => ?_, ?_, fun c hc => Cursor.next_progress hc.valid⟩
  · obtain ⟨last, hreads, hend⟩ := tokenize_eq_ok_iff.1 h
    refine ⟨⟨last, hreads, Cursor.next_of_atEnd hend⟩, ⟨last.position, ?_, hreads.offset_eq hend⟩,
      hreads.not_isEmpty (Cursor.valid_start text), ?_⟩
    · exact hreads.tiles (Cursor.valid_start text)
    · rw [join_texts, hreads.charsOf_eq hend, String.ofList_toList]
  · exact tokenize_eq_ok_iff.2 ⟨_, .refl _, rfl⟩

theorem exists_ok_of_toOption {ε α β : Type} {x : Except ε α} {f : α → β} {b : β}
    (h : x.toOption.map f = some b) : ∃ a, x = .ok a ∧ f a = b := by
  cases x with
  | error => cases h
  | ok a => exact ⟨a, rfl, Option.some.inj h⟩

/-- A letter of two bytes, a blank, and a line break of two characters. -/
theorem tokenize_tiles_crlf :
    (∃ lexemes stop, tokenize "é \r\n" = .ok lexemes ∧
      lexemes.map (·.text) = ["é", " ", "\r\n"] ∧ Tiles ⟨0, 1, 1⟩ lexemes stop ∧ stop.offset = 5) ∧
    ∃ lexeme later, (Cursor.start "é \r\n").next Kind.order = .ok (some (lexeme, later)) ∧
      0 < later.offset := by
  have htexts : (tokenize "é \r\n").toOption.map (·.map (·.text)) = some ["é", " ", "\r\n"] := by
    decide +kernel
  obtain ⟨lexemes, htokens, hmap⟩ := exists_ok_of_toOption htexts
  constructor
  · obtain ⟨stop, htiles, hstop⟩ := ((tokenize_tiles _).1 lexemes htokens).2.1
    exact ⟨lexemes, stop, htokens, hmap, htiles, hstop⟩
  · rcases (tokenize_tiles "é \r\n").2.2 _ .start rfl with
      ⟨q, e, hquote, -⟩ | ⟨lexeme, later, h, -, -, hlt⟩
    · have hletter : (Cursor.start "é \r\n").current = some 'é' := rfl
      rw [hletter] at hquote
      cases q <;> exact absurd hquote (by decide)
    · exact ⟨lexeme, later, h, hlt⟩

end LexSpan
