import PluginKit.Proofs.Toml.Document
import PluginKit.Probe.SettingsText

/-!
# `PluginKit.Proofs.Probe.SettingsText`: written settings are read back

* `sections`: settings as the sections of a document.
* `spells_writeChars`: what is written spells these sections.
* `ofTable?_sections`: the settings of their table.
* `read_write`: written settings are read back as they were.
-/

set_option autoImplicit false

namespace PluginKit

namespace Probe

open Toml (Spells Value Solid Bare Writes valueUpTo value)
open Toml.Document (Section pairs tableOf)

namespace Settings

/-! ### Values -/

/-- A written text is read as that text at any depth of arrays, where no quote follows it. -/
theorem valueUpTo_writeText (depth : Nat) (s : String) {rest : List Char}
    (hrest : Toml.Text.NoQuote rest) :
    valueUpTo depth (writeText s ++ rest) = some (.text s, rest) := by
  have hread := Toml.valueUpTo_text depth s.toList hrest
  rwa [String.ofList_toList] at hread

/-- Texts as elements of an array: a comma and the end are both no quotes. -/
theorem writes_writeText (depth : Nat) : Writes (valueUpTo depth) writeText Toml.Value.text where
  solid s := Toml.Text.solid_write s.toList
  not_end s := by
    obtain ⟨q, body, hwrite, hq⟩ := Toml.Text.write_eq_cons s.toList
    unfold writeText
    rw [hwrite]
    intro hend
    obtain rfl := Option.some.inj hend
    exact absurd hq (by decide)
  comma s rest := valueUpTo_writeText depth s (Toml.Text.noQuote_cons (c := ',') (by decide) rest)
  last s rest := valueUpTo_writeText depth s (Toml.Text.noQuote_cons (c := ']') (by decide) rest)

theorem value_array (s : List Char) :
    value ('[' :: s)
      = (Toml.items (valueUpTo 78) (s.length + 1) s).map fun a => (.array a.1, a.2) := rfl

/-- A list of texts is read back in each of the three ways in which it is written. -/
theorem value_writeTexts (texts : List String) (rest : List Char) :
    value (writeTexts texts ++ rest) = some (.array (texts.map .text), rest) := by
  -- Lists are written in three ways: empty, on one line, and on a line for each text.
  match texts with
  | [] => exact (value_array _).trans (congrArg (Option.map _) (Toml.items_end _ rfl))
  | [s] =>
      have hwrite : writeTexts [s] ++ rest = '[' :: (writeText s ++ ']' :: rest) := by
        simp [writeTexts]
      rw [hwrite, value_array, Toml.items_single (writes_writeText 78)]
      rfl
  | s :: t :: more =>
      have hwrite : writeTexts (s :: t :: more) ++ rest
          = '[' :: '\n' ::
            (Toml.lines writeText "    ".toList (s :: t :: more) ++ ']' :: rest) := by
        simp [writeTexts, Toml.lines]
      have hlength := Toml.length_le_lines writeText "    ".toList (s :: t :: more)
      have hblanks : "    ".toList.all Toml.Text.isSpace = true := by decide
      rw [hwrite, value_array,
        Toml.items_lines (writes_writeText 78) (List.all_eq_true.mp hblanks)]
      · rfl
      · simp only [List.length_cons, List.length_append] at hlength ⊢
        omega

theorem solid_writeTexts (texts : List String) : Solid (writeTexts texts) := by
  have hbracket : ∃ body, writeTexts texts = '[' :: body := by
    match texts with
    | [] => exact ⟨_, rfl⟩
    | [s] => exact ⟨_, rfl⟩
    | s :: t :: more => exact ⟨_, rfl⟩
  obtain ⟨body, hbody⟩ := hbracket
  rw [hbody]
  exact Solid.cons (by decide) body

/-! ### Lines -/

/-- A line with a text under a key. -/
theorem spells_text (key : String) (h : Bare key) (s : String) :
    Spells (writeLine key (writeText s)) (pairs [(key, .text s)]) :=
  Spells.pair h (Toml.Text.solid_write s.toList) fun rest =>
    valueUpTo_writeText _ s (Toml.Text.noQuote_cons (c := '\n') (by decide) rest)

/-- A line, or several, with a list of texts under a key. -/
theorem spells_texts (key : String) (h : Bare key) (texts : List String) :
    Spells (writeLine key (writeTexts texts)) (pairs [(key, .array (texts.map .text))]) :=
  Spells.pair h (solid_writeTexts texts) fun rest => value_writeTexts texts ('\n' :: rest)

theorem spells_boolean (key : String) (h : Bare key) (b : Bool) :
    Spells (writeLine key (Toml.writeBoolean b)) (pairs [(key, .boolean b)]) :=
  Spells.pair h (Toml.solid_writeBoolean b) fun rest => by
    have hend : ∀ c ∈ ('\n' :: rest).head?, Toml.Scalar.isWordChar c = false ∧ c ≠ ' ' := by
      intro c hc
      obtain rfl := Option.some.inj hc
      decide
    exact Toml.valueUpTo_boolean _ b hend

/-- The entry of a text that is given. -/
def optional (key : String) (text : Option String) : Toml.Table :=
  text.toList.map fun s => (key, .text s)

/-- A text that may be missing is written as a line or as nothing, and either says the same as its
entries. -/
theorem spells_option (key : String) (h : Bare key) (text : Option String) :
    Spells (writeOption key text) (pairs (optional key text)) := by
  cases text with
  | none => exact Spells.nil
  | some s => exact spells_text key h s

/-- A header and the lines below it, as one section. -/
theorem spells_section (name : String) (h : Bare name) {body : List Char} {entries : Toml.Table}
    (hbody : Spells body (pairs entries)) :
    Spells (writeHeader name ++ body) (Section.statements (name, entries)) :=
  (Spells.header h).append hbody

/-! ### Sections -/

/-- The entries of the first section. -/
def headers (s : Settings) : Toml.Table :=
  optional "collectd_path" s.collectdPath ++
    [("collectd_54", .boolean s.collectd54), ("search_roots", .array (s.searchRoots.map .text))]

/-- Settings as the sections of a document, in the order in which they are written. Optional texts
that are not given have no entry. -/
def sections (s : Settings) : List Section :=
  [("headers", s.headers), ("abi", optional "version" s.version),
   ("output", [("format", .text s.format.name)]), ("logging", [("level", .text s.level)])]

theorem spells_headers (s : Settings) :
    Spells (writeHeader "headers" ++ (writeOption "collectd_path" s.collectdPath ++
        (writeLine "collectd_54" (Toml.writeBoolean s.collectd54) ++
          writeLine "search_roots" (writeTexts s.searchRoots))))
      (Section.statements ("headers", s.headers)) := by
  have hpath := spells_option "collectd_path" ⟨by decide, by decide⟩ s.collectdPath
  have h54 := spells_boolean "collectd_54" ⟨by decide, by decide⟩ s.collectd54
  have hroots := spells_texts "search_roots" ⟨by decide, by decide⟩ s.searchRoots
  apply spells_section "headers" ⟨by decide, by decide⟩
  simpa [pairs, headers] using hpath.append (h54.append hroots)

/-- What is written spells the four sections, with an empty line between them. All that the document
reader has to say about it is in `Spells`. -/
theorem spells_writeChars (s : Settings) :
    Spells s.writeChars (s.sections.flatMap Section.statements) := by
  have habi := spells_section "abi" ⟨by decide, by decide⟩
    (spells_option "version" ⟨by decide, by decide⟩ s.version)
  have houtput := spells_section "output" ⟨by decide, by decide⟩
    (spells_text "format" ⟨by decide, by decide⟩ s.format.name)
  have hlogging := spells_section "logging" ⟨by decide, by decide⟩
    (spells_text "level" ⟨by decide, by decide⟩ s.level)
  have hall := s.spells_headers.append (Spells.newline.append (habi.append
    (Spells.newline.append (houtput.append (Spells.newline.append hlogging)))))
  simpa [writeChars, sections, Toml.writeBoolean] using hall

/-- Section names are different, as a name that comes twice is refused by the reader. -/
theorem nodup_sections (s : Settings) : (s.sections.map Prod.fst).Nodup := by
  show ["headers", "abi", "output", "logging"].Nodup
  decide

/-- So are the keys inside of each section. -/
theorem nodup_keys (s : Settings) : ∀ e ∈ s.sections, (e.2.map Prod.fst).Nodup := by
  intro e he
  simp only [sections, List.mem_cons, List.not_mem_nil, or_false] at he
  rcases he with rfl | rfl | rfl | rfl
  · unfold headers
    cases s.collectdPath with
    | none =>
        show ["collectd_54", "search_roots"].Nodup
        decide
    | some path =>
        show ["collectd_path", "collectd_54", "search_roots"].Nodup
        decide
  · cases s.version with
    | none => exact List.nodup_nil
    | some version => exact List.pairwise_singleton _ _
  · exact List.pairwise_singleton _ _
  · exact List.pairwise_singleton _ _

/-! ### Reading back -/

theorem mapM_text? (texts : List String) :
    (texts.map Toml.Value.text).mapM text? = some texts := by
  induction texts with
  | nil => rfl
  | cons s texts ih =>
      rw [List.map_cons, List.mapM_cons, ih]
      rfl

/-- The name of a format is read as that format. -/
theorem ofName?_name (f : Format) : Format.ofName? f.name = some f := by
  cases f with
  | text => rfl
  | json => rfl
  | cflags => rfl

/-- An entry that is not there is read as an absent text. The hypothesis keeps an entry of the same
name out of what comes behind. -/
theorem field?_optional (key : String) (text : Option String) (more : Toml.Table)
    (h : more.lookup key = none) :
    field? (fun v => (text? v).map some) none ((optional key text ++ more).lookup key)
      = some text := by
  cases text with
  | none =>
      show field? _ _ (more.lookup key) = _
      rw [h]
      rfl
  | some s =>
      show field? _ _ (List.lookup key ((key, .text s) :: more)) = _
      rw [List.lookup_cons_self]
      rfl

/-- The table of the sections has all settings in it. No default steps in but for texts that were
not given, and these are absent by default. -/
theorem ofTable?_sections (s : Settings) : ofTable? (tableOf s.sections) = some s := by
  have hpath : field? (fun v => (text? v).map some) none (s.headers.lookup "collectd_path")
      = some s.collectdPath := field?_optional "collectd_path" s.collectdPath _ rfl
  -- Only the path may be missing in front of these keys, so both cases are looked up.
  have h54 : field? boolean? initial.collectd54 (s.headers.lookup "collectd_54")
      = some s.collectd54 := by
    unfold headers
    cases s.collectdPath with
    | none => rfl
    | some path => rfl
  have hroots : field? texts? initial.searchRoots (s.headers.lookup "search_roots")
      = some s.searchRoots := by
    have hlookup : s.headers.lookup "search_roots"
        = some (.array (s.searchRoots.map .text)) := by
      unfold headers
      cases s.collectdPath with
      | none => rfl
      | some path => rfl
    rw [hlookup]
    exact mapM_text? s.searchRoots
  have hversion : field? (fun v => (text? v).map some) none
      ((optional "version" s.version).lookup "version") = some s.version := by
    have hentry := field?_optional "version" s.version [] rfl
    rwa [List.append_nil] at hentry
  have hfields : ofTable? (tableOf s.sections) = (do
      return {
        collectdPath := ← field? (fun v => (text? v).map some) none (s.headers.lookup "collectd_path")
        collectd54 := ← field? boolean? initial.collectd54 (s.headers.lookup "collectd_54")
        searchRoots := ← field? texts? initial.searchRoots (s.headers.lookup "search_roots")
        version := ← field? (fun v => (text? v).map some) none
          ((optional "version" s.version).lookup "version")
        format := ← Format.ofName? s.format.name
        level := s.level }) := rfl
  rw [hfields, hpath, h54, hroots, hversion, ofName?_name]
  rfl

/-- Written settings are read back as they were, whatever texts they hold: quotes, line breaks,
backslashes and control characters included. -/
theorem read_write (s : Settings) : read s.write = some s := by
  have hdocument : Toml.Document.read s.write = some (tableOf s.sections) := by
    apply Toml.Document.read_of_spells s.spells_writeChars
    · exact fun h => absurd (Option.some.inj h) (by decide)
    · exact s.nodup_sections
    · exact s.nodup_keys
  unfold read
  rw [hdocument]
  exact s.ofTable?_sections

end Settings

end Probe

end PluginKit
