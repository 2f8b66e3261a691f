import LexSpan.Proofs.Head

/-!
# Reads that check what they rest on

Reads and skips of a head, made of its checked moves alone. A quoted string is looked for in the bytes
behind the opening quote, and the head jumps behind the closing one or walks there.

Main statements (`read_head`, `skip_head`): the head of a valid cursor reads what the cursor reads, and
nothing is refused on the way. So every place that a read takes for granted is there: the bytes behind
a quote, the ends of a literal and of a string, the position that it goes back to.
-/

namespace LexSpan

open Quoted

namespace Head

/-- Whether the current character is `ch`. -/
def matchesChar (h : Head) (ch : Char) : Bool := h.current == some ch

/-- Passes a run of characters, and says whether the offset has grown. -/
def skip (p : Char → Bool) (h : Head) : Except Violation (Bool × Head) := do
  let later ← h.advanceWhile (·.current.any p)
  .ok (decide (h.offset < later.offset), later)

/-- Ends a read with the token up to a later head. -/
def finish (h later : Head) : Except Violation (Option Token × Head) := do
  let token ← h.tokenTo later
  .ok (some token, later)

/-- Moves on over a literal that is known to be there. -/
def takeBytes (n : Nat) (h : Head) : Except Violation (Option Token × Head) := do
  let later ← h.advanceTo (h.offset + n)
  h.finish later

/-- Reads a literal that is not empty, if what is left fits it. -/
def readLiteral (fits : List Char → Bool) (text : String) (h : Head) :
    Except Violation (Option Token × Head) :=
  if text = "" then .ok (none, h)
  else do
    let rest ← h.restAt h.offset
    if fits rest.toList then h.takeBytes text.utf8ByteSize else .ok (none, h)

/-- Passes the fraction behind the digits of a number, if there is one. -/
def passFraction (h : Head) : Except Violation Head :=
  if h.matchesChar '.' then do
    let point ← h.advance
    let (found, later) ← point.skip isDecimalDigit
    if found then .ok later else later.reset h.position
  else .ok h

/-- Reads digits, and the fraction behind them. -/
def readNumber (h : Head) : Except Violation (Option Token × Head) := do
  let (found, whole) ← h.skip isDecimalDigit
  if found then do
    let later ← whole.passFraction
    h.finish later
  else .ok (none, whole)

/-- Passes `n` hexadecimal digits, and says whether there were so many. -/
def passHexDigits : Nat → Head → Except Violation (Bool × Head)
  | 0, h => .ok (true, h)
  | n + 1, h =>
    if h.current.any isHexDigit then do
      let later ← h.advance
      passHexDigits n later
    else .ok (false, h)

/-- Passes what follows the backslash of an escape, and says whether it is a legal one. -/
def passEscape (h : Head) : Except Violation (Bool × Head) :=
  match h.current.bind hexDigits? with
  | none => .ok (false, h)
  | some n => do
    let later ← h.advance
    passHexDigits n later

theorem left_le_of_advance {h later : Head} (hadvance : h.advance = .ok later) :
    later.left ≤ h.left := by
  cases hcurrent : h.current with
  | none =>
    simp only [advance, hcurrent] at hadvance
    cases hadvance
    exact Nat.le_refl _
  | some ch => exact Nat.le_of_lt (left_lt_of_advance (by rw [hcurrent]; rfl) hadvance)

theorem left_le_of_passHexDigits {n : Nat} {h : Head} {result : Bool × Head}
    (hpass : passHexDigits n h = .ok result) : result.2.left ≤ h.left := by
  induction n generalizing h with
  | zero =>
    cases hpass
    exact Nat.le_refl _
  | succ n ih =>
    rw [passHexDigits] at hpass
    split at hpass
    · obtain ⟨later, hadvance, hpass⟩ := exists_of_bind_eq_ok hpass
      exact Nat.le_trans (ih hpass) (left_le_of_advance hadvance)
    · cases hpass
      exact Nat.le_refl _

theorem left_le_of_passEscape {h : Head} {result : Bool × Head} (hpass : h.passEscape = .ok result) :
    result.2.left ≤ h.left := by
  rw [passEscape] at hpass
  split at hpass
  · cases hpass
    exact Nat.le_refl _
  · obtain ⟨later, hadvance, hpass⟩ := exists_of_bind_eq_ok hpass
    exact Nat.le_trans (left_le_of_passHexDigits hpass) (left_le_of_advance hadvance)

/-- Passes the body of a string, and its closing quote if it has one. -/
def walkBody (quote : Quote) (h : Head) : Except Violation (Except QuoteFailure Unit × Head) :=
  match hcurrent : h.current with
  | none => .ok (.error .unterminated, h)
  | some ch =>
    match hadvance : h.advance with
    | .error v => .error v
    | .ok next =>
      have hlt : next.left < h.left := left_lt_of_advance (by rw [hcurrent]; rfl) hadvance
      if ch = quote.char then .ok (.ok (), next)
      else if ch = '\\' then
        match hescape : next.passEscape with
        | .error v => .error v
        | .ok (true, later) =>
          have : later.left ≤ next.left := left_le_of_passEscape hescape
          later.walkBody quote
        | .ok (false, later) => .ok (.error (.invalidEscape h.position), later)
      else next.walkBody quote
termination_by h.left

theorem walkBody_of_none {quote : Quote} {h : Head} (hcurrent : h.current = none) :
    h.walkBody quote = .ok (.error .unterminated, h) := by
  rw [walkBody]
  split
  · rfl
  · next h' =>
    rw [hcurrent] at h'
    cases h'

theorem walkBody_of_advance {quote : Quote} {h next : Head} {ch : Char}
    (hcurrent : h.current = some ch) (hadvance : h.advance = .ok next) :
    h.walkBody quote =
      if ch = quote.char then .ok (.ok (), next)
      else if ch = '\\' then
        match next.passEscape with
        | .error v => .error v
        | .ok (true, later) => later.walkBody quote
        | .ok (false, later) => .ok (.error (.invalidEscape h.position), later)
      else next.walkBody quote := by
  rw [walkBody]
  split
  · next h' =>
    rw [hcurrent] at h'
    cases h'
  · next h' =>
    rw [hcurrent] at h'
    cases h'
    split
    · next h' =>
      rw [hadvance] at h'
      cases h'
    · next h' =>
      rw [hadvance] at h'
      cases h'
      refine ite_congr rfl (fun _ => rfl) fun _ => ite_congr rfl (fun _ => ?_) fun _ => rfl
      split <;> simp_all

/-- Reads the quoted string under a head by walking through it, and goes back to the opening quote if
there is none. -/
def walkQuoted (quote : Quote) (h : Head) : Except Violation (Except QuoteFailure Token × Head) := do
  let body ← h.advance
  match ← body.walkBody quote with
  | (.ok (), later) => do
    let token ← h.tokenTo later
    .ok (.ok token, later)
  | (.error failure, later) => do
    let back ← later.reset h.position
    .ok (.error failure, back)

/-- Finds the string opened by `quote` under a head, by its bytes first. -/
def scanAfter (quote : Quote) (h : Head) : Except Violation (Except QuoteFailure Token × Head) := do
  let body ← h.bytesAt (h.offset + 1)
  match body.idxOf? quote.byte with
  | none => .ok (.error .unterminated, h)
  | some close =>
    if body.length < close then .error (.bytesOutside close body.length)
    else if backslashByte ∈ body.take close then h.walkQuoted quote
    else do
      let later ← h.advanceTo (h.offset + 1 + close + 1)
      let token ← h.tokenTo later
      .ok (.ok token, later)

/-- Finds the quoted string under a head. -/
def scanQuoted (allowed : Option Quote) (h : Head) :
    Except Violation (Except QuoteFailure Token × Head) :=
  match h.current.bind Quote.ofChar? with
  | none => .ok (.error .noOpeningQuote, h)
  | some quote =>
    if allowed = none ∨ allowed = some quote then h.scanAfter quote
    else .ok (.error .noOpeningQuote, h)

/-- Reads a token of the given shape. -/
def read (h : Head) : Shape → Except Violation (Option Token × Head)
  | .run p => do
    let (found, later) ← h.skip p
    if found then h.finish later else .ok (none, later)
  | .oneThenRun first others =>
    if h.current.any first then do
      let next ← h.advance
      let later ← next.advanceWhile (·.current.any others)
      h.finish later
    else .ok (none, h)
  | .decimal => h.readNumber
  | .char ch =>
    if h.matchesChar ch then do
      let later ← h.advance
      h.finish later
    else .ok (none, h)
  | .literal text => h.readLiteral (startsWith text.toList) text
  | .literalIgnoringCase text => h.readLiteral (startsWithIgnoringCase text.toList) text
  | .quoted allowed => do
    let (found, later) ← h.scanQuoted allowed
    .ok (found.toOption, later)

end Head

namespace Cursor

variable {c d : Cursor} {q : Quote} {body : List Char} {found : Except QuoteFailure Token}

@[simp] theorem matchesChar_head (c : Cursor) (ch : Char) :
    c.head.matchesChar ch = c.matchesChar ch := rfl

theorem skip_head (hv : c.Valid) (p : Char → Bool) :
    c.head.skip p = .ok ((c.skipStepwise p).1, (c.skipStepwise p).2.head) := by
  rw [Head.skip, passWhile_head hv]
  rfl

theorem finish_head (hv : c.Valid) (h : c.Ahead d) :
    c.head.finish d.head = .ok (some (c.tokenTo d), d.head) := by
  rw [Head.finish, tokenTo_head hv h]
  rfl

theorem takeBytes_head (hv : c.Valid) {n : Nat} {token : Option Token}
    (h : c.takeBytes n = .ok (token, d)) : c.head.takeBytes n = .ok (token, d.head) := by
  obtain ⟨later, hlater, he⟩ := Operation.exists_of_map_eq_ok h
  cases he
  rw [Head.takeBytes, offset_head, advanceTo_head hv hlater]
  exact finish_head hv (.of_advanceTo hlater)

theorem readLiteral_head (hv : c.Valid) (fits : List Char → Bool) {text : String}
    {token : Option Token}
    (h : (if text ≠ "" ∧ fits c.rest = true then c.takeBytes text.utf8ByteSize
      else .ok (none, c)) = .ok (token, d)) :
    c.head.readLiteral fits text = .ok (token, d.head) := by
  rw [Head.readLiteral, offset_head, restAt_head hv rfl]
  by_cases htext : text = ""
  · rw [if_neg fun hfits => hfits.1 htext] at h
    cases h
    exact if_pos htext
  · rw [if_neg htext, ok_bind, remaining, String.toList_ofList]
    by_cases hfits : fits c.rest = true
    · rw [if_pos ⟨htext, hfits⟩] at h
      rw [if_pos hfits]
      exact takeBytes_head hv h
    · rw [if_neg fun hboth => hfits hboth.2] at h
      cases h
      exact if_neg hfits

/-! ## Numbers -/

theorem passFraction_head (hv : c.Valid) (h : c.passFraction = .ok d) :
    c.head.passFraction = .ok d.head := by
  rw [passFraction] at h
  rw [Head.passFraction, matchesChar_head]
  by_cases hpoint : c.matchesChar '.' = true
  · rw [if_pos hpoint] at h
    rw [if_pos hpoint, advance_head hv, ok_bind, skip_head hv.advance, ok_bind]
    cases hskip : c.advance.skipStepwise isDecimalDigit with
    | mk found later =>
      rw [hskip] at h
      cases found with
      | true =>
        cases h
        rfl
      | false => exact reset_head h
  · rw [if_neg hpoint] at h
    cases h
    exact if_neg hpoint

theorem ahead_skipStepwise (p : Char → Bool) (c : Cursor) : c.Ahead (c.skipStepwise p).2 := by
  rw [skipStepwise_eq]
  exact .advanceBy _ c

theorem Ahead.of_passFraction (hv : c.Valid) (h : c.passFraction = .ok d) : c.Ahead d := by
  obtain ⟨as, bs, -, -, hpass⟩ := passFraction_eq hv
  rw [hpass] at h
  cases h
  exact .advanceBy _ c

theorem readNumber_head (hv : c.Valid) {token : Option Token}
    (h : c.readNumber = .ok (token, d)) : c.head.readNumber = .ok (token, d.head) := by
  rw [readNumber] at h
  rw [Head.readNumber, skip_head hv]
  have hahead := ahead_skipStepwise isDecimalDigit c
  cases hskip : c.skipStepwise isDecimalDigit with
  | mk found whole =>
    rw [hskip] at h hahead
    cases found with
    | true =>
      obtain ⟨later, hfraction, he⟩ := Operation.exists_of_map_eq_ok h
      cases he
      have hwhole := hahead.valid hv
      rw [ok_bind]
      simp only [if_pos]
      rw [passFraction_head hwhole hfraction]
      exact finish_head hv (hahead.trans (.of_passFraction hwhole hfraction))
    | false =>
      cases h
      rfl

/-! ## Quoted strings -/

theorem passHexDigits_head (hv : c.Valid) (n : Nat) :
    c.head.passHexDigits n = .ok ((c.passHexDigits n).1, (c.passHexDigits n).2.head) := by
  induction n generalizing c with
  | zero => rfl
  | succ n ih =>
    rw [Head.passHexDigits, passHexDigits, current_head]
    by_cases hdigit : c.current.any isHexDigit = true
    · rw [if_pos hdigit, if_pos hdigit, advance_head hv]
      exact ih hv.advance
    · rw [if_neg hdigit, if_neg hdigit]

theorem passEscape_head (hv : c.Valid) :
    c.head.passEscape = .ok (c.passEscape.1, c.passEscape.2.head) := by
  rw [Head.passEscape, passEscape, current_head]
  cases c.current.bind hexDigits? with
  | none => rfl
  | some n =>
    simp only [advance_head hv]
    exact passHexDigits_head hv.advance n

theorem ahead_walkBody (q : Quote) (c : Cursor) : c.Ahead (walkBody q c).2 := by
  fun_induction walkBody q c with
  | case1 c _ => exact .refl c
  | case2 c _ _ => exact .advance c
  | case3 c _ _ _ _ _ ih => exact (Ahead.advance c).trans ((ahead_passEscape c.advance).trans ih)
  | case4 c _ _ _ _ _ => exact (Ahead.advance c).trans (ahead_passEscape c.advance)
  | case5 c _ _ _ ih => exact (Ahead.advance c).trans ih

theorem exists_current (h : ¬ c.atEnd = true) :
    ∃ ch, c.current = some ch ∧ ∀ ch', c.matchesChar ch' = true ↔ ch = ch' := by
  cases hc : c.rest with
  | nil => exact absurd (by rw [atEnd, hc]; rfl) h
  | cons ch cs => exact ⟨ch, by rw [current, hc, List.head?_cons], matchesChar_of_rest hc⟩

theorem walkBody_head (hv : c.Valid) (q : Quote) :
    c.head.walkBody q = .ok ((c.walkBody q).1, (c.walkBody q).2.head) := by
  -- one case for each way of the walk, and in all but the first the head moves on before it looks
  fun_induction walkBody q c with
  | case1 c hend =>
    have hcurrent : c.current = none := Option.not_isSome_iff_eq_none.1 (by
      rw [isSome_current, hend]
      exact Bool.false_ne_true)
    exact Head.walkBody_of_none hcurrent
  | case2 c hend hquote =>
    obtain ⟨ch, hcurrent, hmatch⟩ := exists_current hend
    rw [Head.walkBody_of_advance hcurrent (advance_head hv), if_pos ((hmatch _).1 hquote)]
  | case3 c hend hquote hbackslash escape hlegal ih =>
    obtain ⟨ch, hcurrent, hmatch⟩ := exists_current hend
    rw [Head.walkBody_of_advance hcurrent (advance_head hv), if_neg (mt (hmatch _).2 hquote),
      if_pos ((hmatch _).1 hbackslash), passEscape_head hv.advance]
    have hlater := (ahead_passEscape c.advance).valid hv.advance
    rw [← ih hlater, show c.advance.passEscape.1 = true from hlegal]
  | case4 c hend hquote hbackslash escape hillegal =>
    obtain ⟨ch, hcurrent, hmatch⟩ := exists_current hend
    rw [Head.walkBody_of_advance hcurrent (advance_head hv), if_neg (mt (hmatch _).2 hquote),
      if_pos ((hmatch _).1 hbackslash), passEscape_head hv.advance,
      show c.advance.passEscape.1 = false from Bool.eq_false_iff.2 hillegal]
    rfl
  | case5 c hend hquote hbackslash ih =>
    obtain ⟨ch, hcurrent, hmatch⟩ := exists_current hend
    rw [Head.walkBody_of_advance hcurrent (advance_head hv), if_neg (mt (hmatch _).2 hquote),
      if_neg (mt (hmatch _).2 hbackslash), ih hv.advance]

theorem walkQuoted_head (hv : c.Valid) (h : c.walkQuoted q = .ok (found, d)) :
    c.head.walkQuoted q = .ok (found, d.head) := by
  rw [walkQuoted] at h
  rw [Head.walkQuoted, advance_head hv, ok_bind, walkBody_head hv.advance, ok_bind]
  have hahead := (Ahead.advance c).trans (ahead_walkBody q c.advance)
  split at h
  · next later hwalk =>
    rw [hwalk] at hahead ⊢
    cases h
    simp only [tokenTo_head hv hahead, ok_bind]
  · next failure later hwalk =>
    rw [hwalk]
    obtain ⟨back, hback, he⟩ := Operation.exists_of_map_eq_ok h
    cases he
    simp only [position_head, reset_head hback, ok_bind]

theorem scanAfter_head (hv : c.Valid) (hc : c.rest = q.char :: body)
    (h : c.scanAfter q body = .ok (found, d)) : c.head.scanAfter q = .ok (found, d.head) := by
  have hbytes := bytesAt_head hv hc
  rw [Quote.utf8Size_char] at hbytes
  rw [scanAfter, Utf8.index?_eq_idxOf?] at h
  rw [Head.scanAfter, offset_head, hbytes, ok_bind]
  cases hclose : (Utf8.bytes body).idxOf? q.byte with
  | none =>
    rw [hclose] at h
    cases h
    rfl
  | some close =>
    rw [hclose] at h
    -- what is found is among the bytes, so those before it can be cut off
    obtain ⟨hlt, -⟩ := List.findIdx?_eq_some_iff_getElem.1 hclose
    simp only [Utf8.firstBytes_eq] at h
    simp only
    rw [if_neg (by omega)]
    by_cases hescape : backslashByte ∈ (Utf8.bytes body).take close
    · rw [if_pos hescape] at h ⊢
      exact walkQuoted_head hv h
    · rw [if_neg hescape] at h ⊢
      obtain ⟨later, hlater, he⟩ := Operation.exists_of_map_eq_ok h
      cases he
      rw [advanceTo_head hv hlater, ok_bind, tokenTo_head hv (.of_advanceTo hlater), ok_bind]

theorem scanQuoted_head (hv : c.Valid) {allowed : Option Quote}
    (h : c.scanQuoted allowed = .ok (found, d)) :
    c.head.scanQuoted allowed = .ok (found, d.head) := by
  rw [scanQuoted] at h
  rw [Head.scanQuoted, current_head, current]
  cases hc : c.rest with
  | nil =>
    rw [hc] at h
    cases h
    rfl
  | cons ch body =>
    rw [hc] at h
    simp only [List.head?_cons, Option.bind_some] at h ⊢
    cases hquote : Quote.ofChar? ch with
    | none =>
      rw [hquote] at h
      cases h
      rfl
    | some quote =>
      rw [hquote] at h
      simp only at h ⊢
      by_cases ha : allowed = none ∨ allowed = some quote
      · rw [if_pos ha] at h ⊢
        exact scanAfter_head hv (Quote.ofChar?_eq_some_iff.1 hquote ▸ hc) h
      · rw [if_neg ha] at h ⊢
        cases h
        rfl

/-! ## All shapes -/

theorem readRun_head (hv : c.Valid) {p : Char → Bool} {token : Option Token}
    (h : c.readStepwise (.run p) = .ok (token, d)) : c.head.read (.run p) = .ok (token, d.head) := by
  have hahead := ahead_skipStepwise p c
  rw [readStepwise] at h
  rw [Head.read, skip_head hv]
  cases hskip : c.skipStepwise p with
  | mk found later =>
    rw [hskip] at h hahead
    cases h
    cases found with
    | true => exact finish_head hv hahead
    | false => rfl

theorem readOneThenRun_head (hv : c.Valid) {first others : Char → Bool} {token : Option Token}
    (h : c.readStepwise (.oneThenRun first others) = .ok (token, d)) :
    c.head.read (.oneThenRun first others) = .ok (token, d.head) := by
  rw [readStepwise] at h
  rw [Head.read, current_head]
  by_cases hfirst : c.current.any first = true
  · rw [if_pos hfirst] at h ⊢
    cases h
    rw [advance_head hv, ok_bind, passWhile_head hv.advance]
    refine finish_head hv ((Ahead.advance c).trans ?_)
    rw [passWhile_eq]
    exact .advanceBy _ _
  · rw [if_neg hfirst] at h ⊢
    cases h
    rfl

theorem readChar_head (hv : c.Valid) {ch : Char} {token : Option Token}
    (h : c.readStepwise (.char ch) = .ok (token, d)) :
    c.head.read (.char ch) = .ok (token, d.head) := by
  rw [readStepwise] at h
  rw [Head.read, matchesChar_head]
  by_cases hmatch : c.matchesChar ch = true
  · rw [if_pos hmatch] at h ⊢
    cases h
    rw [advance_head hv]
    exact finish_head hv (.advance c)
  · rw [if_neg hmatch] at h ⊢
    cases h
    rfl

theorem readQuoted_head (hv : c.Valid) {allowed : Option Quote} {token : Option Token}
    (h : c.readStepwise (.quoted allowed) = .ok (token, d)) :
    c.head.read (.quoted allowed) = .ok (token, d.head) := by
  obtain ⟨⟨found, later⟩, hscan, he⟩ := Operation.exists_of_map_eq_ok h
  cases he
  rw [Head.read, scanQuoted_head hv hscan]
  rfl

theorem readStepwise_head (hv : c.Valid) {shape : Shape} {token : Option Token}
    (h : c.readStepwise shape = .ok (token, d)) : c.head.read shape = .ok (token, d.head) := by
  cases shape with
  | run p => exact readRun_head hv h
  | oneThenRun first others => exact readOneThenRun_head hv h
  | decimal => exact readNumber_head hv h
  | char ch => exact readChar_head hv h
  | literal text => exact readLiteral_head hv _ h
  | literalIgnoringCase text => exact readLiteral_head hv _ h
  | quoted allowed => exact readQuoted_head hv h

/-- The head of a cursor reads what the cursor reads. -/
theorem read_head (hv : c.Valid) (shape : Shape) : ∃ token later,
    c.read shape = .ok (token, later) ∧ c.head.read shape = .ok (token, later.head) := by
  obtain ⟨token, later, hread⟩ : ∃ token later, c.read shape = .ok (token, later) := by
    rcases read_cases hv shape with hread | ⟨as, bs, -, -, hread⟩
    · exact ⟨_, _, hread⟩
    · exact ⟨_, _, hread⟩
  exact ⟨token, later, hread, readStepwise_head hv ((readStepwise_eq_read hv shape).trans hread)⟩

end Cursor

end LexSpan
