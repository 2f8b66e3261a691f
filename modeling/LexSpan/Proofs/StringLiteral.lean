import LexSpan.Proofs.AsciiSearch
import LexSpan.Quoted

/-!
# The grammar of string literals

A string literal (`IsLiteral`) is a quote, items, and the same quote again. An item (`Item`) is a
character other than the quote and the backslash, or a legal escape (`Escape`).

The walk through a body decides this grammar: `exists_items` says where items can end, and
`endOfBody_eq_ok_iff`, `endOfBody_eq_unterminated_iff` and `endOfBody_eq_invalidEscape_iff` what the
walk answers in each case. The search for the closing quote only adds that a body without another
quote is unterminated (`extentAfter_eq`). So `extent` takes exactly the literals (`extent_eq_ok_iff`),
and a text has at most one of them at its head (`IsLiteral.eq_of_append_eq`).
-/

namespace LexSpan

namespace Quote

theorem char_lt (q : Quote) : q.char.toNat < 128 := by cases q <;> decide

theorem char_ne_backslash (q : Quote) : q.char ≠ '\\' := by cases q <;> decide

@[simp] theorem utf8Size_char (q : Quote) : q.char.utf8Size = 1 := Utf8.utf8Size_of_ascii q.char_lt

@[simp] theorem ofChar?_char (q : Quote) : ofChar? q.char = some q := by cases q <;> decide

theorem ofChar?_eq_some_iff {c : Char} {q : Quote} : ofChar? c = some q ↔ c = q.char := by
  constructor
  · intro h
    simp only [ofChar?] at h
    split at h
    · next hc => cases h; exact hc
    · split at h
      · next hc => cases h; exact hc
      · cases h
  · rintro rfl
    exact ofChar?_char q

theorem eq_of_char_eq {q q' : Quote} (h : q.char = q'.char) : q = q' :=
  Option.some.inj (by rw [← ofChar?_char q, h, ofChar?_char])

end Quote

namespace Quoted

/-- The legal escapes: a backslash followed by one of ten characters, by `u` and four hexadecimal
digits, or by `x` and two. -/
inductive Escape : List Char → Prop
  | short {c : Char} (hc : c ∈ ['0', '\'', '"', '\\', 'b', 'f', 'n', 'r', 't', 'v']) :
    Escape ['\\', c]
  | unicode {digits : List Char} (hn : digits.length = 4)
    (hd : ∀ d ∈ digits, isHexDigit d = true) : Escape ('\\' :: 'u' :: digits)
  | byte {digits : List Char} (hn : digits.length = 2)
    (hd : ∀ d ∈ digits, isHexDigit d = true) : Escape ('\\' :: 'x' :: digits)

/-- What may stand between two quotes `q`. -/
inductive Item (q : Quote) : List Char → Prop
  | plain {c : Char} (hq : c ≠ q.char) (hb : c ≠ '\\') : Item q [c]
  | escape {w : List Char} (h : Escape w) : Item q w

/-- Any number of items, one after the other. -/
inductive Items (q : Quote) : List Char → Prop
  | nil : Items q []
  | cons {item items : List Char} (h : Item q item) (hs : Items q items) : Items q (item ++ items)

/-- A quote, items, and the quote again. -/
def IsLiteral (q : Quote) (w : List Char) : Prop :=
  ∃ items, Items q items ∧ w = q.char :: (items ++ [q.char])

/-- A backslash at the head of `cs` that begins no legal escape. -/
def BadEscape (cs : List Char) : Prop :=
  cs.head? = some '\\' ∧ ∀ w, w <+: cs → ¬ Escape w

/-- A body goes on with a bad escape behind `items`. -/
def BadEscapeAfter (q : Quote) (items body : List Char) : Prop :=
  Items q items ∧ ∃ rest, body = items ++ rest ∧ BadEscape rest

variable {q : Quote}

/-! ## Escapes -/

theorem lt_of_isHexDigit {c : Char} (h : isHexDigit c = true) : c.toNat < 128 := by
  have hle : ∀ a b : Char, a ≤ b → a.toNat ≤ b.toNat := fun a b hab => hab
  simp only [isHexDigit, Char.isDigit, Bool.or_eq_true, Bool.and_eq_true, decide_eq_true_eq] at h
  rcases h with (h | h) | h
  · exact Nat.lt_of_le_of_lt h.2 (by decide)
  · exact Nat.lt_of_le_of_lt (hle _ _ h.2) (by decide)
  · exact Nat.lt_of_le_of_lt (hle _ _ h.2) (by decide)

theorem Escape.ascii {w : List Char} (h : Escape w) : ∀ c ∈ w, c.toNat < 128 := by
  have hshort : ['0', '\'', '"', '\\', 'b', 'f', 'n', 'r', 't', 'v'].all (·.toNat < 128) = true := by
    decide
  cases h with
  | short hc =>
    have hlt := of_decide_eq_true (List.all_eq_true.1 hshort _ hc)
    exact List.forall_mem_cons.2 ⟨by decide, List.forall_mem_singleton.2 hlt⟩
  | unicode _ hd | byte _ hd =>
    exact List.forall_mem_cons.2 ⟨by decide, List.forall_mem_cons.2
      ⟨by decide, fun d hmem => lt_of_isHexDigit (hd d hmem)⟩⟩

theorem escapeLength?_append {w : List Char} (h : Escape ('\\' :: w)) (cs : List Char) :
    escapeLength? (w ++ cs) = some w.length := by
  cases h with
  | short hc =>
    have hn : hexDigits? _ = some 0 := if_pos (List.contains_iff_mem.2 hc)
    simp [escapeLength?, hn]
  | unicode hn hd =>
    simp [escapeLength?, show hexDigits? 'u' = some 4 by decide, ← hn]
    exact hd
  | byte hn hd =>
    simp [escapeLength?, show hexDigits? 'x' = some 2 by decide, ← hn]
    exact hd

theorem escape_of_escapeLength? {cs : List Char} {n : Nat} (h : escapeLength? cs = some n) :
    n ≤ cs.length ∧ Escape ('\\' :: cs.take n) := by
  rcases cs with _ | ⟨c, cs⟩
  · simp [escapeLength?] at h
  · simp only [escapeLength?] at h
    split at h
    · cases h
    · next m hm =>
      simp only [Option.ite_none_right_eq_some, Option.some.injEq, List.all_eq_true] at h
      obtain ⟨⟨hlen, hd⟩, rfl⟩ := h
      rw [List.take_succ_cons]
      refine ⟨?_, ?_⟩
      · rw [List.length_take] at hlen
        rw [List.length_cons]
        omega
      simp only [hexDigits?] at hm
      split at hm
      · next hc =>
        cases hm
        exact .short (List.contains_iff_mem.1 hc)
      · split at hm
        · next hc =>
          cases hm
          exact hc ▸ .unicode hlen hd
        · split at hm
          · next hc =>
            cases hm
            exact hc ▸ .byte hlen hd
          · cases hm

/-! ## The walk through a body -/

theorem endOfBody_item {item : List Char} (h : Item q item) (n : Nat) (cs : List Char) :
    endOfBody q n (item ++ cs) = endOfBody q (n + Utf8.length item) cs := by
  cases h with
  | plain hq hb =>
    rw [List.singleton_append, endOfBody, if_neg hq, if_neg hb]
    rfl
  | escape h =>
    have hlen := Utf8.length_of_ascii h.ascii
    obtain ⟨w, rfl⟩ : ∃ w, item = '\\' :: w := by cases h <;> exact ⟨_, rfl⟩
    rw [List.cons_append, endOfBody, if_neg (Ne.symm q.char_ne_backslash), if_pos rfl,
      escapeLength?_append h, hlen, List.length_cons]
    simp only [List.drop_left]
    rw [Nat.add_assoc, Nat.add_comm 1]

theorem endOfBody_items {items : List Char} (h : Items q items) (n : Nat) (cs : List Char) :
    endOfBody q n (items ++ cs) = endOfBody q (n + Utf8.length items) cs := by
  induction h generalizing n with
  | nil => rfl
  | cons h _ ih => rw [List.append_assoc, endOfBody_item h, ih, Utf8.length_append, Nat.add_assoc]

theorem endOfBody_close (n : Nat) (cs : List Char) :
    endOfBody q n (q.char :: cs) = .ok (n + 1) := by
  rw [endOfBody, if_pos rfl]

/-- A backslash in front of a character that goes on with no escape is a bad escape. -/
theorem badEscape_of_hexDigits?_eq_none {c : Char} (h : hexDigits? c = none) (cs : List Char) :
    BadEscape ('\\' :: c :: cs) := by
  refine ⟨rfl, fun w ⟨bs, hw⟩ hescape => ?_⟩
  obtain ⟨w, rfl⟩ : ∃ v, w = '\\' :: v := by cases hescape <;> exact ⟨_, rfl⟩
  have hcs : w ++ bs = c :: cs := (List.cons_eq_cons.1 hw).2
  have hlength := escapeLength?_append hescape bs
  rw [hcs, escapeLength?, h] at hlength
  cases hlength

/-- Behind the backslash of a bad escape no escape is measured. -/
theorem BadEscape.escapeLength?_eq_none {cs : List Char} (h : BadEscape ('\\' :: cs)) :
    escapeLength? cs = none := by
  refine Option.eq_none_iff_forall_ne_some.2 fun n hn => ?_
  have hprefix : '\\' :: cs.take n <+: '\\' :: cs :=
    List.cons_prefix_cons.2 ⟨rfl, List.take_prefix n cs⟩
  exact h.2 _ hprefix (escape_of_escapeLength? hn).2

theorem endOfBody_badEscape {cs : List Char} (h : BadEscape cs) (n : Nat) :
    endOfBody q n cs = .error (.invalidEscape n) := by
  obtain ⟨cs, rfl⟩ := List.head?_eq_some_iff.1 h.1
  rw [endOfBody, if_neg (Ne.symm q.char_ne_backslash), if_pos rfl, h.escapeLength?_eq_none]

/-- Items go on to the end of the text, to the next quote, or to a bad escape. -/
theorem exists_items (q : Quote) (cs : List Char) :
    ∃ items rest, Items q items ∧ cs = items ++ rest ∧
      (rest = [] ∨ (∃ bs, rest = q.char :: bs) ∨ BadEscape rest) := by
  -- strong induction, since an escape takes more than one character
  induction hn : cs.length using Nat.strongRecOn generalizing cs with
  | ind n ih =>
    have step : ∀ item bs, Item q item → item ≠ [] → cs = item ++ bs → ∃ items rest,
        Items q items ∧ cs = items ++ rest ∧
          (rest = [] ∨ (∃ bs, rest = q.char :: bs) ∨ BadEscape rest) := by
      intro item bs hitem hne hcs
      have hpos := List.length_pos_iff.2 hne
      have hlen : bs.length < n := by
        rw [← hn, hcs, List.length_append]
        omega
      obtain ⟨items, rest, hitems, hbs, hrest⟩ := ih _ hlen bs rfl
      exact ⟨item ++ items, rest, .cons hitem hitems, by rw [hcs, hbs, List.append_assoc], hrest⟩
    rcases cs with _ | ⟨c, cs⟩
    · exact ⟨[], [], .nil, rfl, .inl rfl⟩
    by_cases hq : c = q.char
    · exact ⟨[], c :: cs, .nil, rfl, .inr (.inl ⟨cs, by rw [hq]⟩)⟩
    by_cases hb : c = '\\'
    · by_cases hescape : ∃ w, w <+: c :: cs ∧ Escape w
      · obtain ⟨w, ⟨bs, hw⟩, hescape⟩ := hescape
        refine step w bs (.escape hescape) ?_ hw.symm
        rintro rfl
        cases hescape
      · exact ⟨[], c :: cs, .nil, rfl, .inr (.inr ⟨by rw [hb]; rfl, fun w hw h => hescape ⟨w, hw, h⟩⟩)⟩
    · exact step [c] cs (.plain hq hb) (List.cons_ne_nil c []) rfl

/-- The three answers of the walk, each with where the items of the body end. -/
theorem endOfBody_cases (q : Quote) (n : Nat) (cs : List Char) :
    ∃ items rest, Items q items ∧ cs = items ++ rest ∧
      (rest = [] ∧ endOfBody q n cs = .error .unterminated ∨
        (∃ bs, rest = q.char :: bs) ∧ endOfBody q n cs = .ok (n + Utf8.length items + 1) ∨
        BadEscape rest ∧ endOfBody q n cs = .error (.invalidEscape (n + Utf8.length items))) := by
  obtain ⟨items, rest, hitems, rfl, hrest⟩ := exists_items q cs
  refine ⟨items, rest, hitems, rfl, ?_⟩
  rw [endOfBody_items hitems]
  rcases hrest with rfl | ⟨bs, rfl⟩ | hbad
  · exact .inl ⟨rfl, by rw [endOfBody]⟩
  · exact .inr (.inl ⟨⟨bs, rfl⟩, endOfBody_close _ bs⟩)
  · exact .inr (.inr ⟨hbad, endOfBody_badEscape hbad _⟩)

theorem endOfBody_eq_ok_iff {n m : Nat} {cs : List Char} :
    endOfBody q n cs = .ok m ↔
      ∃ items bs, Items q items ∧ cs = items ++ q.char :: bs ∧ m = n + Utf8.length items + 1 := by
  constructor
  · intro h
    obtain ⟨items, rest, hitems, rfl, ⟨-, he⟩ | ⟨⟨bs, rfl⟩, he⟩ | ⟨-, he⟩⟩ :=
      endOfBody_cases q n cs <;> rw [h] at he <;> cases he
    exact ⟨items, bs, hitems, rfl, rfl⟩
  · rintro ⟨items, bs, hitems, rfl, rfl⟩
    rw [endOfBody_items hitems, endOfBody_close]

theorem endOfBody_eq_unterminated_iff {n : Nat} {cs : List Char} :
    endOfBody q n cs = .error .unterminated ↔ Items q cs := by
  constructor
  · intro h
    obtain ⟨items, rest, hitems, rfl, ⟨rfl, he⟩ | ⟨-, he⟩ | ⟨-, he⟩⟩ :=
      endOfBody_cases q n cs <;> rw [h] at he <;> cases he
    rwa [List.append_nil]
  · intro h
    rw [← List.append_nil cs, endOfBody_items h, endOfBody]

theorem endOfBody_eq_invalidEscape_iff {n m : Nat} {cs : List Char} :
    endOfBody q n cs = .error (.invalidEscape m) ↔
      ∃ items, BadEscapeAfter q items cs ∧ m = n + Utf8.length items := by
  constructor
  · intro h
    obtain ⟨items, rest, hitems, hcs, ⟨-, he⟩ | ⟨-, he⟩ | ⟨hbad, he⟩⟩ :=
      endOfBody_cases q n cs <;> rw [h] at he <;> cases he
    exact ⟨items, ⟨hitems, rest, hcs, hbad⟩, rfl⟩
  · rintro ⟨items, ⟨hitems, rest, rfl, hbad⟩, rfl⟩
    rw [endOfBody_items hitems, endOfBody_badEscape hbad]

/-- The items in front of a bad escape are determined by the body. -/
theorem BadEscapeAfter.eq {items items' body : List Char} (h : BadEscapeAfter q items body)
    (h' : BadEscapeAfter q items' body) : items = items' := by
  have he := endOfBody_eq_invalidEscape_iff.2 ⟨items, h, (Nat.zero_add _).symm⟩
  have he' := endOfBody_eq_invalidEscape_iff.2 ⟨items', h', (Nat.zero_add _).symm⟩
  rw [he, Except.error.injEq, Defect.invalidEscape.injEq] at he'
  obtain ⟨-, rest, hbody, -⟩ := h
  obtain ⟨-, rest', hbody', -⟩ := h'
  rw [← Utf8.take_length_append items rest, ← hbody, he', hbody', Utf8.take_length_append]

/-! ## The search for the closing quote -/

theorem items_of_plain {cs : List Char} (hq : q.char ∉ cs) (hb : '\\' ∉ cs) : Items q cs := by
  induction cs with
  | nil => exact .nil
  | cons c cs ih =>
    rw [List.mem_cons, not_or] at hq hb
    exact .cons (.plain (Ne.symm hq.1) (Ne.symm hb.1)) (ih hq.2 hb.2)

/-- The search for the closing quote agrees with the walk wherever there is another quote: without
a backslash before it the body ends there. -/
theorem extentAfter_eq (q : Quote) (body : List Char) :
    extentAfter q body =
      if q.char ∈ body then endOfBody q 1 body else .error .unterminated := by
  split
  · next hmem =>
    obtain ⟨as, bs, rfl, has⟩ := List.eq_append_cons_of_mem hmem
    have hclose : Utf8.index? q.byte (as ++ q.char :: bs) = some (Utf8.length as) :=
      Utf8.index?_append_cons q.char_lt has
    have hbackslash : backslashByte ∈ Utf8.firstBytes (Utf8.length as) (as ++ q.char :: bs) ↔
        '\\' ∈ as := Utf8.mem_firstBytes_iff (by decide)
    by_cases hb : '\\' ∈ as
    · exact extent_of_backslash hclose (hbackslash.2 hb)
    · rw [extent_of_plain hclose (mt hbackslash.1 hb), endOfBody_items (items_of_plain has hb),
        endOfBody_close, Nat.add_comm 1]
  · next hmem =>
    have hclose : Utf8.index? q.byte body = none := (Utf8.index?_eq_none_iff q.char_lt).2 hmem
    rw [extentAfter, hclose]

/-! ## Literals -/

theorem extentAfter_eq_ok_iff {n : Nat} {body : List Char} :
    extentAfter q body = .ok n ↔
      ∃ items bs, Items q items ∧ body = items ++ q.char :: bs ∧ n = 1 + Utf8.length items + 1 := by
  rw [extentAfter_eq]
  split
  · exact endOfBody_eq_ok_iff
  · next hmem =>
    constructor
    · intro h
      cases h
    · rintro ⟨items, bs, -, rfl, -⟩
      exact absurd (List.mem_append_right _ List.mem_cons_self) hmem

theorem IsLiteral.length_eq {items : List Char} :
    Utf8.length (q.char :: (items ++ [q.char])) = 1 + Utf8.length items + 1 := by
  simp [Nat.add_assoc]

/-- The literals are what is taken. -/
theorem extent_eq_ok_iff {allowed : Option Quote} {cs : List Char} {n : Nat} :
    extent allowed cs = .ok n ↔ ∃ q w bs, (allowed = none ∨ allowed = some q) ∧ IsLiteral q w ∧
      cs = w ++ bs ∧ n = Utf8.length w := by
  constructor
  · intro h
    rcases cs with _ | ⟨c, body⟩
    · cases h
    rw [extent] at h
    split at h
    · cases h
    · next q hc =>
      split at h
      · next ha =>
        obtain ⟨items, bs, hitems, rfl, rfl⟩ := extentAfter_eq_ok_iff.1 h
        refine ⟨q, q.char :: (items ++ [q.char]), bs, ha, ⟨items, hitems, rfl⟩, ?_,
          IsLiteral.length_eq.symm⟩
        rw [Quote.ofChar?_eq_some_iff.1 hc, List.cons_append, List.append_assoc,
          List.singleton_append]
      · cases h
  · rintro ⟨q, _, bs, ha, ⟨items, hitems, rfl⟩, rfl, rfl⟩
    rw [List.cons_append, extent, Quote.ofChar?_char]
    simp only [ha, if_true]
    refine extentAfter_eq_ok_iff.2 ⟨items, bs, hitems, ?_, IsLiteral.length_eq⟩
    rw [List.append_assoc, List.singleton_append]

/-- What is wrong where a quote opens no literal. -/
theorem extentAfter_of_no_literal {body : List Char}
    (hno : ∀ w, w <+: q.char :: body → ¬ IsLiteral q w) :
    (∃ items, q.char ∈ body ∧ BadEscapeAfter q items body ∧
      extentAfter q body = .error (.invalidEscape (1 + Utf8.length items))) ∨
    ¬ (q.char ∈ body ∧ ∃ items, BadEscapeAfter q items body) ∧
      extentAfter q body = .error .unterminated := by
  rw [extentAfter_eq]
  by_cases hmem : q.char ∈ body
  · rw [if_pos hmem]
    obtain ⟨items, rest, hitems, hbody, ⟨-, he⟩ | ⟨⟨bs, rfl⟩, -⟩ | ⟨hbad, he⟩⟩ :=
      endOfBody_cases q 1 body
    · refine .inr ⟨fun ⟨_, items', hbad⟩ => ?_, he⟩
      rw [endOfBody_eq_invalidEscape_iff.2 ⟨items', hbad, rfl⟩] at he
      cases he
    · refine absurd ⟨items, hitems, rfl⟩ (hno (q.char :: (items ++ [q.char])) ⟨bs, ?_⟩)
      rw [hbody, List.cons_append, List.append_assoc, List.singleton_append]
    · exact .inl ⟨items, hmem, ⟨hitems, rest, hbody, hbad⟩, he⟩
  · exact .inr ⟨fun h => hmem h.1, if_neg hmem⟩

/-- No literal goes on where another one ends. -/
theorem IsLiteral.eq_of_append_eq {q' : Quote} {w w' bs bs' : List Char} (h : IsLiteral q w)
    (h' : IsLiteral q' w') (heq : w ++ bs = w' ++ bs') : w = w' := by
  have he : extent none (w ++ bs) = .ok (Utf8.length w) :=
    extent_eq_ok_iff.2 ⟨q, w, bs, .inl rfl, h, rfl, rfl⟩
  have he' : extent none (w' ++ bs') = .ok (Utf8.length w') :=
    extent_eq_ok_iff.2 ⟨q', w', bs', .inl rfl, h', rfl, rfl⟩
  rw [heq, he', Except.ok.injEq] at he
  rw [← Utf8.take_length_append w bs, heq, ← he, Utf8.take_length_append]

end Quoted

end LexSpan
