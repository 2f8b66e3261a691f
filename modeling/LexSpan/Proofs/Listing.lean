import LexSpan.Proofs.FileRuns
import LexSpan.Proofs.Lines
import LexSpan.Proofs.Tiling

/-!
# Listings of lexemes

What the program prints of a file that can be split is a listing: a line per lexeme, with its place,
its kind and its quoted text. A listing can be read back, by its form alone: `lines?` takes it apart
at the line feeds, `Entry.ofLine?` a line at its tabs, and `contentOf?` puts the texts together.

Main statement (`run_tokens_lossless`): the listing of a file has a line for each lexeme, with two tabs
between the three fields, and the texts read back from it are the content of the file; so two files
with different contents have different listings. No field of a line can hold a line feed or a tab of
its own, as none holds a control character (`Plain`).
-/

namespace LexSpan

/-- What a line of a listing says. -/
structure Entry where
  place : String
  kind : String
  text : String
deriving DecidableEq

/-- Takes a line of a listing apart, and reads its quoted text back. -/
def Entry.ofLine? (line : String) : Option Entry :=
  match pieces '\t' line with
  | [place, kind, quoted] => (unquote quoted).map fun text => ⟨place, kind, text⟩
  | _ => none

/-- The texts of all lines of a listing, put together. -/
def contentOf? (listing : String) : Option String := do
  let entries ← (← lines? listing).mapM Entry.ofLine?
  some (String.join (entries.map (·.text)))

/-- What the line of a lexeme says. -/
def Lexeme.entry (lexeme : Lexeme) : Entry := ⟨lexeme.start.render, lexeme.kind.name, lexeme.text⟩

/-! ## Lines and their fields -/

theorem pieces_render (lexeme : Lexeme) : pieces '\t' lexeme.render =
    [lexeme.start.render, lexeme.kind.name, quote lexeme.text] := by
  have hrender : lexeme.render = lexeme.start.render ++ "\t" ++
      (lexeme.kind.name ++ "\t" ++ quote lexeme.text) := by
    rw [Lexeme.render, String.append_assoc, String.append_assoc, String.append_assoc,
      String.append_assoc, String.append_assoc]
  have htab : '\t'.toNat < 0x20 := by decide
  rw [hrender, pieces_append rfl ((plain_render _).not_mem htab),
    pieces_append rfl ((plain_name _).not_mem htab),
    pieces_of_not_mem ((plain_quote _).not_mem htab)]

theorem newline_not_mem_render (lexeme : Lexeme) : '\n' ∉ lexeme.render.toList := by
  have hfeed : '\n'.toNat < 0x20 := by decide
  have hplace := (plain_render lexeme.start).not_mem hfeed
  have hname := (plain_name lexeme.kind).not_mem hfeed
  have hquote := (plain_quote lexeme.text).not_mem hfeed
  simp [Lexeme.render, hplace, hname, hquote]

theorem ofLine?_render (lexeme : Lexeme) : Entry.ofLine? lexeme.render = some lexeme.entry := by
  simp only [Entry.ofLine?, pieces_render, unquote_quote, Option.map_some]
  rfl

theorem lines?_listing (lexemes : List Lexeme) :
    lines? (joinLines (lexemes.map Lexeme.render)) = some (lexemes.map Lexeme.render) :=
  lines?_joinLines (List.forall_mem_map.2 fun lexeme _ => newline_not_mem_render lexeme)

theorem mapM_ofLine? (lexemes : List Lexeme) :
    (lexemes.map Lexeme.render).mapM Entry.ofLine? = some (lexemes.map Lexeme.entry) := by
  induction lexemes with
  | nil => rfl
  | cons lexeme lexemes ih =>
    rw [List.map_cons, List.mapM_cons, ofLine?_render, ih]
    rfl

/-- A listing is read back to the texts of its lexemes. -/
theorem contentOf?_listing (lexemes : List Lexeme) :
    contentOf? (joinLines (lexemes.map Lexeme.render)) =
      some (String.join (lexemes.map (·.text))) := by
  simp only [contentOf?, lines?_listing, Option.bind_eq_bind, Option.bind_some, mapM_ofLine?,
    List.map_map]
  rfl

/-! ## The run over one file -/

variable {read : String → Except ReadError String} {words : List String} {file text : String}
  {lexemes : List Lexeme} {options : Options}

/-- A file that can be split is listed, and nothing else is written. -/
theorem run_tokens_of_ok (h : Invocation.ofWords words = .run (.tokens options) [file])
    (hread : read file = .ok text) (hok : tokenize text options = .ok lexemes) :
    Program.run read none words = ⟨0, joinLines (lexemes.map Lexeme.render), ""⟩ := by
  have hvisit : Progress.visit read (.tokens options) {} file =
      lexemes.foldl (fun p lexeme => p.print lexeme.render) {} := by
    simp only [Progress.visit, hread, Command.options, hok]
  rw [run_eq_outcome h, List.foldl_cons, List.foldl_nil, hvisit, Progress.foldl_print,
    Progress.empty_andThen]
  simp [Progress.outcome, Progress.ofReport, Report.output, Report.messages, Report.written,
    List.filter_map, List.filterMap_map, Function.comp_def, Remark.output?, Remark.isWritten,
    Remark.message?, joinLines]

theorem run_tokens_lossless :
    (∀ (tree : FileTree) filter words file text lexemes,
      Invocation.ofWords words = .run (.tokens {}) [file] → tree.Holds file text →
      tokenize text = .ok lexemes →
      lines? (Program.run tree.read filter words).output = some (lexemes.map Lexeme.render) ∧
      (∀ lexeme ∈ lexemes,
        pieces '\t' lexeme.render =
          [toString lexeme.start.line ++ ":" ++ toString lexeme.start.column, lexeme.kind.name,
            quote lexeme.text] ∧
        unquote (quote lexeme.text) = some lexeme.text) ∧
      contentOf? (Program.run tree.read filter words).output = some text) ∧
    ∀ (tree tree' : FileTree) filter filter' words words' file file' text text' lexemes lexemes',
      Invocation.ofWords words = .run (.tokens {}) [file] → tree.Holds file text →
      tokenize text = .ok lexemes →
      Invocation.ofWords words' = .run (.tokens {}) [file'] → tree'.Holds file' text' →
      tokenize text' = .ok lexemes' → text ≠ text' →
      (Program.run tree.read filter words).output ≠ (Program.run tree'.read filter' words').output := by
  have hcontent : ∀ {tree : FileTree} filter {words file text lexemes},
      Invocation.ofWords words = .run (.tokens {}) [file] → tree.Holds file text →
      tokenize text = .ok lexemes →
      (Program.run tree.read filter words).output = joinLines (lexemes.map Lexeme.render) ∧
        contentOf? (Program.run tree.read filter words).output = some text := by
    intro tree filter words file text lexemes h hholds hok
    have houtput : (Program.run tree.read filter words).output =
        joinLines (lexemes.map Lexeme.render) := by
      rw [(Program.run_filter tree.read filter none words).2,
        run_tokens_of_ok h (FileTree.read_eq_ok_iff.2 hholds) hok]
    obtain ⟨last, hreads, hend⟩ := tokenize_eq_ok_iff.1 hok
    refine ⟨houtput, ?_⟩
    rw [houtput, contentOf?_listing, join_texts, hreads.charsOf_eq hend, String.ofList_toList]
  refine ⟨fun tree filter words file text lexemes h hholds hok => ?_,
    fun tree tree' filter filter' words words' file file' text text' lexemes lexemes' h hholds hok
      h' hholds' hok' hne heq => ?_⟩
  · obtain ⟨houtput, hback⟩ := hcontent filter h hholds hok
    refine ⟨?_, fun lexeme _ => ⟨pieces_render lexeme, unquote_quote lexeme.text⟩, hback⟩
    rw [houtput, lines?_listing]
  · have hback := (hcontent filter h hholds hok).2
    rw [heq, (hcontent filter' h' hholds' hok').2] at hback
    exact hne (Option.some.inj hback).symm

/-- A file that spells an escape, with a tab and a line break behind it, and one that holds the
character that the escape would stand for. -/
def spelledTree : FileTree :=
  .ofPaths [("a", .file "\\u\x7b41\x7d\t'\n'".toUTF8), ("b", .file "A".toUTF8)]

/-- The listing of a text that spells an escape is read back to the spelling. -/
theorem run_tokens_lossless_spelled_escape :
    (lines? (Program.run spelledTree.read none ["tokens", "a"]).output =
        some ["1:1\tsymbol\t\"\\\\\"", "1:2\tidentifier\t\"u\"", "1:3\tsymbol\t\"\x7b\"",
          "1:4\tnumber\t\"41\"", "1:6\tsymbol\t\"\x7d\"", "1:7\twhitespace\t\"\\t\"",
          "1:8\tstring\t\"'\\n'\""] ∧
      contentOf? (Program.run spelledTree.read none ["tokens", "a"]).output =
        some "\\u\x7b41\x7d\t'\n'") ∧
    (Program.run spelledTree.read none ["tokens", "a"]).output ≠
      (Program.run spelledTree.read none ["tokens", "b"]).output := by
  obtain ⟨hlist, hdiffer⟩ := run_tokens_lossless
  have ha : spelledTree.Holds "a" "\\u\x7b41\x7d\t'\n'" :=
    FileTree.read_eq_ok_iff.1 (by decide +kernel)
  have hb : spelledTree.Holds "b" "A" := FileTree.read_eq_ok_iff.1 (by decide +kernel)
  obtain ⟨as, has⟩ : ∃ as, tokenize "\\u\x7b41\x7d\t'\n'" = .ok as :=
    exists_tokenize_ok_iff.2 (by decide +kernel)
  obtain ⟨bs, hbs⟩ : ∃ bs, tokenize "A" = .ok bs := exists_tokenize_ok_iff.2 (by decide +kernel)
  have hwords : Invocation.ofWords ["tokens", "a"] = .run (.tokens {}) ["a"] := by decide +kernel
  have hwords' : Invocation.ofWords ["tokens", "b"] = .run (.tokens {}) ["b"] := by decide +kernel
  refine ⟨⟨?_, (hlist _ none _ _ _ _ hwords ha has).2.2⟩,
    hdiffer _ _ _ _ _ _ _ _ _ _ _ _ hwords ha has hwords' hb hbs (by decide)⟩
  rw [(hlist _ none _ _ _ _ hwords ha has).1]
  have htokens : (tokenize "\\u\x7b41\x7d\t'\n'").toOption.map (·.map Lexeme.render) =
      some ["1:1\tsymbol\t\"\\\\\"", "1:2\tidentifier\t\"u\"", "1:3\tsymbol\t\"\x7b\"",
        "1:4\tnumber\t\"41\"", "1:6\tsymbol\t\"\x7d\"", "1:7\twhitespace\t\"\\t\"",
        "1:8\tstring\t\"'\\n'\""] := by decide +kernel
  rw [has] at htokens
  exact htokens

end LexSpan
