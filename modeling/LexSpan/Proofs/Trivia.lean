import LexSpan.Proofs.Listing
import LexSpan.Proofs.LoggedRuns

/-!
# Lexemes without trivia

Leaving out white space and new lines takes nothing else away. Main statement (`trivia_left_out`): a
text is split without them exactly if it is split with them, and else fails with the same error; what
is kept are the other lexemes as they were, and around them stand only blanks (`BlankAround`). On the
command line, `check` counts the lines that `tokens` prints; a file that fails is reported in the same
words by every command; and the listing without trivia is the listing without its lines about them
(`withoutTrivia?`).

That only blanks are left out goes by induction over a run of the lexer, with the blanks behind the
last lexeme that was kept as what it carries along (`Reads.blankAround`).
-/

namespace LexSpan

/-- Between two offsets of a text stand only blanks. -/
def BlankFrom (text : String) (start stop : Nat) : Prop :=
  ∃ gap, (Cursor.start text).slice start stop = .ok gap ∧
    ∀ c ∈ gap.toList, isWhiteSpaceOrNewLine c = true

/-- Only blanks stand in front of the first lexeme, from an offset on, between one lexeme and the next,
and behind the last one to the end of the text. -/
def BlankAround (text : String) (offset : Nat) : List Lexeme → Prop
  | [] => BlankFrom text offset text.utf8ByteSize
  | lexeme :: lexemes =>
    BlankFrom text offset lexeme.start.offset ∧ BlankAround text lexeme.stop.offset lexemes

/-- Whether a line of a listing is about white space or new lines. -/
def isTriviaLine (line : String) : Bool :=
  match pieces '\t' line with
  | [_, kind, _] => kind = "whitespace" || kind = "newline"
  | _ => false

/-- A listing without its lines about white space and new lines. -/
def withoutTrivia? (listing : String) : Option String :=
  (lines? listing).map fun lines => joinLines (lines.filter fun line => !isTriviaLine line)

/-- Why a file fails: it cannot be read, or its text cannot be split. -/
inductive FailsFor (read : String → Except ReadError String) (file : String) : String → Prop
  | unreadable {e : ReadError} (hread : read file = .error e) : FailsFor read file e.message
  | malformed {text : String} {e : LexError} (hread : read file = .ok text)
    (htokens : tokenize text = .error (.malformed e)) : FailsFor read file e.message

/-- Whether a reason for a failure reads as the report on a text that can be split. -/
def ReadsAsCount (reason : String) : Prop := ∃ n : Nat, reason = "ok (" ++ toString n ++ " tokens)"

variable {c d last : Cursor} {lexemes : List Lexeme} {text : String} {blanks bs : List Char}

/-! ## Gaps -/

theorem Kind.IsText.blank {k : Kind} {w : List Char} (h : k.IsText w) (hk : k.isTrivia = true) :
    ∀ ch ∈ w, isWhiteSpaceOrNewLine ch = true := by
  cases k with
  | whiteSpace => exact fun ch hch => by rw [isWhiteSpaceOrNewLine, h.2 ch hch, Bool.or_true]
  | newLine => exact fun ch hch => by rw [isWhiteSpaceOrNewLine, h.2 ch hch, Bool.true_or]
  | _ => cases hk

theorem blankFrom_of_rest (hv : d.Valid) (htext : d.text = text) (hd : d.rest = blanks ++ bs)
    (hblanks : ∀ ch ∈ blanks, isWhiteSpaceOrNewLine ch = true) :
    BlankFrom text d.offset (d.offset + Utf8.length blanks) := by
  have hslice := Cursor.slice_append hv hd
  rw [Cursor.slice, htext] at hslice
  exact ⟨String.ofList blanks, hslice, by rwa [String.toList_ofList]⟩

/-- The run goes on behind blanks that follow `d`. -/
theorem Reads.blankAround (h : Reads c lexemes last) (hend : last.rest = []) (hv : d.Valid)
    (htext : d.text = text) (hd : d.rest = blanks ++ c.rest)
    (hc : c = Cursor.advanceBy blanks.length d)
    (hblanks : ∀ ch ∈ blanks, isWhiteSpaceOrNewLine ch = true) :
    BlankAround text d.offset (lexemes.filter fun lexeme => !lexeme.kind.isTrivia) := by
  induction h generalizing d blanks with
  | refl c =>
    have hsize := hv.utf8ByteSize_eq
    rw [hd, hend, List.append_nil, htext] at hsize
    rw [List.filter_nil, BlankAround, hsize]
    exact blankFrom_of_rest hv htext hd hblanks
  | @step c later _ lexeme lexemes hnext _ ih =>
    have hvc : c.Valid := hc ▸ hv.advanceBy _
    obtain ⟨bs, hw, ht, -, hlexeme, hlater⟩ := Cursor.lexeme_of_next hvc hnext
    have hrest : later.rest = bs := by rw [hlater, Cursor.rest_advanceBy hw]
    -- Trivia join the blanks behind `d`; any other lexeme ends the gap, and the next one is empty.
    by_cases hk : lexeme.kind.isTrivia = true
    · rw [List.filter_cons_of_neg (by simp [hk])]
      have hmore : d.rest = (blanks ++ lexeme.text.toList) ++ later.rest := by
        rw [hd, hw, hrest, List.append_assoc]
      refine ih hend hv htext hmore ?_ (List.forall_mem_append.2 ⟨hblanks, ht.blank hk⟩)
      rw [hlater, hc, List.length_append, Cursor.advanceBy_add]
    · have hstart : lexeme.start.offset = d.offset + Utf8.length blanks := by
        rw [hlexeme, ← Cursor.offset_advanceBy hd, ← hc]
        rfl
      have hstop : lexeme.stop.offset = later.offset := by
        rw [hlexeme, hlater]
        rfl
      have htext' : later.text = text := by
        rw [hlater, Cursor.text_advanceBy, hc, Cursor.text_advanceBy, htext]
      have hvlater : later.Valid := hlater ▸ hvc.advanceBy _
      rw [List.filter_cons_of_pos (by simpa using hk), BlankAround, hstart, hstop]
      exact ⟨blankFrom_of_rest hv htext hd hblanks,
        ih hend hvlater htext' rfl rfl (List.forall_mem_nil _)⟩

/-- Leaving lexemes out happens behind the splitting. -/
theorem tokenize_filter (h : tokenize text = .ok lexemes) (options : Options) :
    tokenize text options = .ok (lexemes.filter options.keeps) := by
  obtain ⟨last, hreads, hend⟩ := tokenize_eq_ok_iff.1 h
  exact tokenize_of_atEnd hreads hend

/-! ## Listings -/

theorem isTriviaLine_render (lexeme : Lexeme) :
    isTriviaLine lexeme.render = lexeme.kind.isTrivia := by
  simp only [isTriviaLine, pieces_render]
  cases lexeme.kind <;> decide

theorem withoutTrivia?_listing (lexemes : List Lexeme) :
    withoutTrivia? (joinLines (lexemes.map Lexeme.render)) =
      some (joinLines ((lexemes.filter fun lexeme => !lexeme.kind.isTrivia).map Lexeme.render)) := by
  simp only [withoutTrivia?, lines?_listing, Option.map_some, List.filter_map, Function.comp_def,
    isTriviaLine_render]

/-! ## Files -/

variable {read : String → Except ReadError String} {file reason : String} {words : List String}

theorem run_check_of_ok (h : Invocation.ofWords words = .run .check [file])
    (hread : read file = .ok text) (hok : tokenize text = .ok lexemes) :
    Program.run read none words =
      ⟨0, "", file ++ ": ok (" ++ toString lexemes.length ++ " tokens)" ++ "\n"⟩ := by
  rw [run_eq_outcome h]
  simp [Progress.visit, hread, Command.options, hok, Progress.say, Progress.outcome]

/-- A count begins with a letter that no reason of the program's own begins with. -/
theorem not_readsAsCount_of_head? (h : reason.toList.head? ≠ some 'o') : ¬ ReadsAsCount reason := by
  rintro ⟨n, rfl⟩
  refine h ?_
  rw [String.toList_append, String.toList_append]
  rfl

theorem ReadError.not_readsAsCount {e : ReadError}
    (h : ∀ reason, e = .other reason → ¬ ReadsAsCount reason) : ¬ ReadsAsCount e.message := by
  cases e with
  | other reason => exact h reason rfl
  | _ => exact not_readsAsCount_of_head? (by decide)

theorem LexError.not_readsAsCount (e : LexError) : ¬ ReadsAsCount e.message := by
  refine not_readsAsCount_of_head? ?_
  rcases e with ⟨_ | _, p⟩ <;>
    simp [message, Malformation.message, String.toList_append]

theorem FailsFor.not_readsAsCount (h : FailsFor read file reason)
    (hown : ∀ reason, read file = .error (.other reason) → ¬ ReadsAsCount reason) :
    ¬ ReadsAsCount reason := by
  cases h with
  | unreadable hread => exact ReadError.not_readsAsCount fun reason he => hown reason (he ▸ hread)
  | malformed _ _ => exact LexError.not_readsAsCount _

/-- A file fails unless its text can be split. -/
theorem exists_failsFor (hno : ¬ ∃ text lexemes, read file = .ok text ∧ tokenize text = .ok lexemes) :
    ∃ reason, FailsFor read file reason := by
  cases hread : read file with
  | error e => exact ⟨_, .unreadable hread⟩
  | ok text =>
    cases htokens : tokenize text with
    | ok lexemes => exact absurd ⟨text, lexemes, hread, htokens⟩ hno
    | error stop =>
      obtain ⟨e, rfl⟩ := exists_malformed htokens
      exact ⟨_, .malformed hread htokens⟩

/-- A file that fails is reported in the same words by every command. -/
theorem FailsFor.run_eq {command : Command} (hfails : FailsFor read file reason)
    (h : Invocation.ofWords words = .run command [file]) :
    Program.run read none words = ⟨1, "", file ++ ": " ++ reason ++ "\n"⟩ := by
  cases hfails with
  | unreadable hread => exact run_of_unreadable h hread
  | malformed hread htokens => exact run_of_malformed h hread htokens

theorem toString_eq_iff {m n : Nat} : toString m = toString n ↔ m = n := by
  refine ⟨fun h => ?_, congrArg toString⟩
  have hdigits : Nat.toDigits 10 m = Nat.toDigits 10 n := by
    rw [← Nat.toList_repr, ← Nat.toList_repr]
    exact congrArg String.toList h
  rw [← Nat.ofDigitChars_toDigits (b := 10) (n := m) (by decide) (by decide), hdigits,
    Nat.ofDigitChars_toDigits (by decide) (by decide)]

/-- Different counts are reported differently. -/
theorem count_eq_iff {file : String} {m n : Nat} :
    file ++ ": ok (" ++ toString m ++ " tokens)" ++ "\n" =
      file ++ ": ok (" ++ toString n ++ " tokens)\n" ↔ m = n := by
  have hend : " tokens)".toList ++ "\n".toList = " tokens)\n".toList := rfl
  rw [← String.toList_inj]
  simp only [String.toList_append, List.append_assoc, hend, List.append_cancel_left_eq,
    List.append_cancel_right_eq]
  rw [String.toList_inj, toString_eq_iff]

/-- A reason is not taken for a count. -/
theorem ne_of_not_readsAsCount (h : ¬ ReadsAsCount reason) (file : String) (n : Nat) :
    file ++ ": " ++ reason ++ "\n" ≠ file ++ ": ok (" ++ toString n ++ " tokens)\n" := by
  have hstart : ": ok (".toList = ": ".toList ++ "ok (".toList := rfl
  have hend : " tokens)\n".toList = " tokens)".toList ++ "\n".toList := rfl
  rw [Ne, ← String.toList_inj]
  simp only [String.toList_append, hstart, hend, ← List.append_assoc, List.append_cancel_right_eq]
  simp only [List.append_assoc, List.append_cancel_left_eq]
  intro heq
  refine h ⟨n, ?_⟩
  rw [← String.toList_inj, heq, String.toList_append, String.toList_append, List.append_assoc]

theorem trivia_left_out :
    (∀ text,
      (∀ options, (splitNoting none options [] ⟨[], false⟩ (.start text)).1 = tokenize text options) ∧
      (∀ stop, tokenize text ⟨false⟩ = .error stop ↔ tokenize text = .error stop) ∧
      ∀ all, tokenize text = .ok all → ∃ kept, tokenize text ⟨false⟩ = .ok kept ∧
        kept = all.filter (fun lexeme => !lexeme.kind.isTrivia) ∧ BlankAround text 0 kept) ∧
    (∀ (read : String → Except ReadError String) file checking listing leaving,
      Invocation.ofWords checking = .run .check [file] →
      Invocation.ofWords listing = .run (.tokens ⟨true⟩) [file] →
      Invocation.ofWords leaving = .run (.tokens ⟨false⟩) [file] →
      -- a count can be told from a failure, if the system gives no reason that reads as a count
      ((∀ reason, read file = .error (.other reason) → ¬ ReadsAsCount reason) →
        ∀ n : Nat, (Program.run read none checking).messages =
            file ++ ": ok (" ++ toString n ++ " tokens)\n" ↔
          (lines? (Program.run read none listing).output).map List.length = some n ∧
            (Program.run read none listing).code = 0) ∧
      ((¬ ∃ text all, read file = .ok text ∧ tokenize text = .ok all) →
        ∃ reason, FailsFor read file reason ∧ ∀ words ∈ [checking, listing, leaving],
          Program.run read none words = ⟨1, "", file ++ ": " ++ reason ++ "\n"⟩) ∧
      withoutTrivia? (Program.run read none listing).output =
        some (Program.run read none leaving).output) ∧
    ∀ (tree : FileTree) file, (∀ text, tree.read file = .ok text ↔ tree.Holds file text) ∧
      ∀ reason, tree.read file ≠ .error (.other reason) := by
  have hkeep : ∀ {text all}, tokenize text = .ok all →
      tokenize text ⟨false⟩ = .ok (all.filter fun lexeme => !lexeme.kind.isTrivia) :=
    fun h => tokenize_filter h ⟨false⟩
  refine ⟨fun text => ⟨fun options => ?_, fun stop => ?_, fun all h => ⟨_, hkeep h, rfl, ?_⟩⟩,
    fun read file checking listing leaving hcheck hlist hleave => ?_,
    fun tree file => ⟨fun text => FileTree.read_eq_ok_iff, fun reason => FileTree.read_ne_other⟩⟩
  · rw [splitNoting_start]
  · rw [tokenize_eq_error_iff, tokenize_eq_error_iff]
  · obtain ⟨last, hreads, hend⟩ := tokenize_eq_ok_iff.1 h
    exact hreads.blankAround hend (Cursor.valid_start text) rfl rfl rfl (List.forall_mem_nil _)
  by_cases hgood : ∃ text all, read file = .ok text ∧ tokenize text = .ok all
  · obtain ⟨text, all, hread, hok⟩ := hgood
    rw [run_check_of_ok hcheck hread hok, run_tokens_of_ok hlist hread hok,
      run_tokens_of_ok hleave hread (hkeep hok), withoutTrivia?_listing]
    refine ⟨fun _ n => ?_, fun hno => absurd ⟨text, all, hread, hok⟩ hno, rfl⟩
    rw [lines?_listing, Option.map_some, List.length_map, Option.some.injEq, count_eq_iff]
    exact (and_iff_left rfl).symm
  · obtain ⟨reason, hfails⟩ := exists_failsFor hgood
    rw [hfails.run_eq hcheck, hfails.run_eq hlist, hfails.run_eq hleave]
    refine ⟨fun hown n => iff_of_false ?_ ?_, fun _ => ⟨reason, hfails, fun words hwords => ?_⟩, rfl⟩
    · exact ne_of_not_readsAsCount (hfails.not_readsAsCount hown) file n
    · rintro ⟨-, hcode⟩
      cases hcode
    · simp only [List.mem_cons, List.not_mem_nil, or_false] at hwords
      rcases hwords with rfl | rfl | rfl
      · exact hfails.run_eq hcheck
      · exact hfails.run_eq hlist
      · exact hfails.run_eq hleave

/-- The kept lexemes, the count, the listings and the failure of two files. -/
theorem trivia_left_out_mixed_files :
    (∃ kept, tokenize "x 1" ⟨false⟩ = .ok kept ∧ BlankAround "x 1" 0 kept) ∧
    (Program.run mixedTree.read none ["check", "a"]).messages = "a: ok (3 tokens)\n" ∧
    withoutTrivia? (Program.run mixedTree.read none ["tokens", "a"]).output =
      some "1:1\tidentifier\t\"x\"\n1:3\tnumber\t\"1\"\n" ∧
    ∃ reason, FailsFor mixedTree.read "b" reason ∧
      ∀ words ∈ [["check", "b"], ["tokens", "b"], ["tokens", "--no-trivia", "b"]],
        Program.run mixedTree.read none words = ⟨1, "", "b: " ++ reason ++ "\n"⟩ := by
  obtain ⟨hsplit, hfiles, htree⟩ := trivia_left_out
  obtain ⟨all, hall⟩ : ∃ all, tokenize "x 1" = .ok all := exists_tokenize_ok_iff.2 (by decide +kernel)
  obtain ⟨kept, hkept, -, hblank⟩ := (hsplit "x 1").2.2 all hall
  obtain ⟨hcount, -, hlisting⟩ := hfiles mixedTree.read "a" ["check", "a"] ["tokens", "a"]
    ["tokens", "--no-trivia", "a"] (by decide +kernel) (by decide +kernel) (by decide +kernel)
  obtain ⟨-, hfails, -⟩ := hfiles mixedTree.read "b" ["check", "b"] ["tokens", "b"]
    ["tokens", "--no-trivia", "b"] (by decide +kernel) (by decide +kernel) (by decide +kernel)
  have hown : ∀ reason, mixedTree.read "a" = .error (.other reason) → ¬ ReadsAsCount reason :=
    fun reason hother => absurd hother ((htree mixedTree "a").2 reason)
  refine ⟨⟨kept, hkept, hblank⟩, (hcount hown 3).2 (by decide +kernel),
    hlisting.trans (by decide +kernel), hfails ?_⟩
  rintro ⟨text, lexemes, htext, htokens⟩
  have hread : mixedTree.read "b" = .ok "x'" := by decide +kernel
  obtain rfl := Except.ok.inj (htext.symm.trans hread)
  exact absurd (exists_tokenize_ok_iff.1 ⟨lexemes, htokens⟩) (by decide +kernel)

end LexSpan
