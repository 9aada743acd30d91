import PluginKit.Proofs.Path
import PluginKit.Proofs.Probe.Visit
import PluginKit.Proofs.Text.CharClass

/-!
# `PluginKit.Proofs.Probe.CompilerFlags`: what a build reads from the flags

Flags for a compiler are printed on one line, with a space between them and without quotes. A build
splits the line into words, and where a directory has white space in it, it gets more words than
there are flags. A directory has it from the path to the sources.

What counts as white space is not the same for a shell and for a program that goes by Unicode, and
what is said here holds for both (`Blanks`).

* `Blanks.words`: the words of a text.
* `Blanks.words_intercalate_eq_iff`: when texts are the words of their line.
* `Blanks.solid_join_iff`: white space in a path below another.
* `Resolution.needed`: the flags that a build needs.
* `Resolution.words_cflags_eq_iff`: when the words are these flags.
* `Resolution.words_cflags_spaced`: a directory in two words.
-/

set_option autoImplicit false

namespace PluginKit

namespace Probe

open Header (Lookup Flags Layout)

/-- Whether a character is printable ASCII and not the space. -/
def isVisible (c : Char) : Bool := '!' ≤ c && c ≤ '~'

/-- A reading of white space: the space belongs to it, and what is visible does not. Shells and
programs differ in the rest, and nothing below depends on it. -/
structure Blanks where
  isBlank : Char → Bool
  space : isBlank ' ' = true
  visible : ∀ c, isVisible c = true → isBlank c = false

namespace Blanks

/-- White space as Unicode has it. -/
def unicode : Blanks where
  isBlank := Text.isBlank
  space := by decide
  visible c hc := by
    rw [isVisible, Bool.and_eq_true, decide_eq_true_eq, decide_eq_true_eq] at hc
    have hlow : 33 ≤ c.toNat := hc.1
    have hhigh : c.toNat ≤ 126 := hc.2
    simp only [Text.isBlank, Text.inRanges, Text.blankRanges, List.any_cons, List.any_nil,
      Bool.or_false, Bool.or_eq_false_iff, Bool.and_eq_false_iff, decide_eq_false_iff_not]
    omega

/-- White space as a shell has it, unless it is told otherwise. -/
def shell : Blanks where
  isBlank c := c == ' ' || c == '\t' || c == '\n'
  space := by decide
  visible c hc := by
    rw [Bool.or_eq_false_iff, Bool.or_eq_false_iff, beq_eq_false_iff_ne, beq_eq_false_iff_ne,
      beq_eq_false_iff_ne]
    refine ⟨⟨?_, ?_⟩, ?_⟩ <;> rintro rfl <;> exact absurd hc (by decide)

variable (blanks : Blanks)

/-- The words of a text: what stands between its white space. White space in a row does not make
empty words. -/
def words (text : String) : List String :=
  ((text.toList.splitOnP blanks.isBlank).filter (· ≠ [])).map String.ofList

/-- A text without white space. -/
def Solid (text : String) : Prop := ∀ c ∈ text.toList, blanks.isBlank c = false

theorem solid_of_visible {text : String} (h : text.toList.all isVisible = true) :
    blanks.Solid text := fun c hc => blanks.visible c (List.all_eq_true.mp h c hc)

theorem solid_append_iff {a b : String} :
    blanks.Solid (a ++ b) ↔ blanks.Solid a ∧ blanks.Solid b := by
  unfold Solid
  rw [String.toList_append]
  exact List.forall_mem_append

/-! ### Words -/

/-- White space between two texts keeps their words apart. All else about words follows from
this. -/
theorem words_append_space (a b : String) :
    blanks.words (a ++ " " ++ b) = blanks.words a ++ blanks.words b := by
  have hchars : (a ++ " " ++ b).toList = a.toList ++ ' ' :: b.toList := by simp
  unfold words
  rw [hchars, List.splitOnP_append_cons _ _ blanks.space, List.filter_append, List.map_append]

/-- The words of a line are those of the texts that it was made from. -/
theorem words_intercalate (texts : List String) :
    blanks.words (" ".intercalate texts) = texts.flatMap blanks.words := by
  induction texts with
  | nil => rfl
  | cons text rest ih =>
      cases rest with
      | nil => rw [String.intercalate_singleton, List.flatMap_singleton]
      | cons next rest =>
          rw [String.intercalate_cons_cons, words_append_space, ih]
          exact List.flatMap_cons.symm

/-- A text without white space is one word, if it has a character. -/
theorem words_of_solid {text : String} (hne : text ≠ "") (h : blanks.Solid text) :
    blanks.words text = [text] := by
  unfold words
  rw [List.splitOnP_eq_singleton h, List.filter_cons_of_pos, List.filter_nil, List.map_singleton,
    String.ofList_toList]
  exact decide_eq_true (mt String.toList_eq_nil_iff.mp hne)

/-- A word has no white space, so a text with white space is no word of any line. -/
theorem solid_of_mem_words {text word : String} (h : word ∈ blanks.words text) :
    blanks.Solid word := by
  obtain ⟨part, hpart, rfl⟩ := List.mem_map.mp h
  unfold Solid
  rw [String.toList_ofList]
  exact Text.not_of_mem_splitOnP (List.mem_of_mem_filter hpart)

/-- Texts are the words of their line if they have no white space, and not otherwise. Without the
hypothesis an empty text would be lost from the words. -/
theorem words_intercalate_eq_iff {texts : List String} (hne : ∀ text ∈ texts, text ≠ "") :
    blanks.words (" ".intercalate texts) = texts ↔ ∀ text ∈ texts, blanks.Solid text := by
  refine ⟨fun heq text htext => blanks.solid_of_mem_words (heq.symm ▸ htext), fun hsolid => ?_⟩
  -- each text is its own word, so the words of the line are the texts
  have hwords : ∀ text ∈ texts, blanks.words text = [text] :=
    fun text htext => blanks.words_of_solid (hne text htext) (hsolid text htext)
  rw [words_intercalate, List.flatMap_congr hwords, List.flatMap_singleton']

/-! ### Directories -/

/-- A relative path without white space adds none to the path that it is put behind. -/
theorem solid_join_iff {root part : String} (hrelative : Path.isAbsolute part = false)
    (hpart : blanks.Solid part) : blanks.Solid (Path.join root part) ↔ blanks.Solid root := by
  obtain ⟨slash, hslash, hjoin⟩ := Path.exists_join_eq root hrelative
  have hsolid : blanks.Solid slash := by
    rcases hslash with rfl | rfl
    · exact blanks.solid_of_visible (by decide)
    · exact blanks.solid_of_visible (by decide)
  rw [hjoin, solid_append_iff, solid_append_iff]
  exact ⟨fun h => h.1.1, fun h => ⟨⟨h, hsolid⟩, hpart⟩⟩

/-- The directories of a layout have white space if the path to the sources has. Only a layout that
is chosen by such a path has directories. -/
theorem solid_includeDirs_iff (flags : Flags) :
    (∀ dir ∈ flags.layout.includeDirs flags, blanks.Solid dir) ↔
      ∀ path, flags.collectdPath = some path → blanks.Solid path := by
  have hsrc : blanks.Solid "src" := blanks.solid_of_visible (by decide)
  have hdaemon : blanks.Solid "daemon" := blanks.solid_of_visible (by decide)
  cases hpath : flags.collectdPath with
  | none =>
      have hdirs : flags.layout.includeDirs flags = [] := by
        unfold Layout.includeDirs Flags.layout
        rw [hpath]
        cases flags.collectd54 <;> rfl
      rw [hdirs]
      exact iff_of_true (List.forall_mem_nil _) nofun
  | some root =>
      have hdirs : flags.layout.includeDirs flags
          = [Path.join root "src", Path.join (Path.join root "src") "daemon"] := by
        unfold Layout.includeDirs Flags.layout
        rw [hpath]
        rfl
      rw [hdirs, List.forall_mem_cons, List.forall_mem_singleton,
        solid_join_iff blanks (by decide) hdaemon, solid_join_iff blanks (by decide) hsrc, and_self]
      exact ⟨fun h path heq => Option.some.inj heq ▸ h, fun h => h root rfl⟩

end Blanks

/-! ### Flags -/

namespace Resolution

variable {blanks : Blanks} {flags : Flags} {settings : Settings} {overrides : Overrides}
  {lookup : Lookup} {resolution : Resolution}

/-- The flags that a build needs: the one that selects the layout, and one for each directory of the
layout. They are a list, and so have no need of quotes. -/
def needed (flags : Flags) : List String :=
  (flags.layout.define?.map fun d => "-D" ++ d).toList ++
    (flags.layout.includeDirs flags).map fun d => "-I" ++ d

/-- What is printed is made from these flags. -/
theorem flags_eq_needed (h : Resolution.resolve flags settings overrides lookup = .ok resolution) :
    resolution.flags = needed flags := by
  obtain ⟨hlayout, hdirs⟩ := resolve_ok_layout h
  rw [Resolution.flags, define?, hlayout, hdirs]
  rfl

theorem ne_empty_of_mem_needed {flag : String} (h : flag ∈ needed flags) : flag ≠ "" := by
  -- the directory may be empty, the option before it is not
  have hoption : ∃ option rest, flag = option ++ rest ∧ option ≠ "" := by
    rcases List.mem_append.mp h with hdefine | hdir
    · obtain ⟨name, -, rfl⟩ := Option.map_eq_some_iff.mp (Option.mem_toList.mp hdefine)
      exact ⟨"-D", name, rfl, by decide⟩
    · obtain ⟨dir, -, rfl⟩ := List.mem_map.mp hdir
      exact ⟨"-I", dir, rfl, by decide⟩
  obtain ⟨option, rest, rfl, hne⟩ := hoption
  exact fun hempty => hne (String.append_eq_empty_iff.mp hempty).1

/-- Only the path to the sources brings white space into the flags. -/
theorem solid_needed_iff :
    (∀ flag ∈ needed flags, blanks.Solid flag) ↔
      ∀ path, flags.collectdPath = some path → blanks.Solid path := by
  have hdefine : ∀ flag ∈ (flags.layout.define?.map fun d => "-D" ++ d).toList,
      blanks.Solid flag := by
    cases flags.layout with
    | sourceTree => exact List.forall_mem_singleton.mpr (blanks.solid_of_visible (by decide))
    | core54 => exact List.forall_mem_singleton.mpr (blanks.solid_of_visible (by decide))
    | packaged => exact List.forall_mem_nil _
  have hoption : blanks.Solid "-I" := blanks.solid_of_visible (by decide)
  rw [needed, List.forall_mem_append, List.forall_mem_map, ← blanks.solid_includeDirs_iff]
  simp only [Blanks.solid_append_iff, hoption, true_and]
  exact and_iff_right hdefine

/-- The line of flags is read as the words of its flags one after the other. These are the flags
themselves if the path to the sources has no white space, and only then. -/
theorem words_cflags_eq_iff
    (h : Resolution.resolve (layeredFlags (Flags.ofLookup lookup) settings overrides) settings
      overrides lookup = .ok resolution) (blanks : Blanks) :
    let flags := layeredFlags (Flags.ofLookup lookup) settings overrides
    blanks.words (resolution.render .cflags) = (needed flags).flatMap blanks.words ∧
    (blanks.words (resolution.render .cflags) = needed flags ↔
      ∀ path, flags.collectdPath = some path → ∀ c ∈ path.toList, blanks.isBlank c = false) := by
  intro flags
  have hrender : resolution.render .cflags = " ".intercalate (needed flags) := by
    rw [render, cflags, flags_eq_needed h]
  rw [hrender]
  refine ⟨blanks.words_intercalate _, ?_⟩
  exact (blanks.words_intercalate_eq_iff fun _ => ne_empty_of_mem_needed).trans solid_needed_iff

/-- Both directories of a source checkout are single words, for a shell as by Unicode. -/
theorem words_cflags_eq_iff_plain :
    let lookup : Lookup := fun key => if key = "COLLECTD_PATH" then some "/opt/collectd" else none
    let words := ["-DCOLLECTD_PATH", "-I/opt/collectd/src", "-I/opt/collectd/src/daemon"]
    ∃ resolution,
      Resolution.resolve (layeredFlags (Flags.ofLookup lookup) .initial ⟨none, false, none⟩)
        .initial ⟨none, false, none⟩ lookup = .ok resolution ∧
      Blanks.shell.words (resolution.render .cflags) = words ∧
      Blanks.unicode.words (resolution.render .cflags) = words := by
  intro lookup words
  let flags := layeredFlags (Flags.ofLookup lookup) .initial ⟨none, false, none⟩
  let dirs := ["/opt/collectd/src", "/opt/collectd/src/daemon"]
  have hresolve : Resolution.resolve flags .initial ⟨none, false, none⟩ lookup
      = .ok ⟨.sourceTree, .v57, false, dirs⟩ := by
    decide +kernel
  have hneeded : needed flags = words := by decide +kernel
  have hsolid (blanks : Blanks) :
      ∀ path, flags.collectdPath = some path → ∀ c ∈ path.toList, blanks.isBlank c = false := by
    intro path hpath
    obtain rfl : "/opt/collectd" = path := Option.some.inj hpath
    exact blanks.solid_of_visible (by decide)
  exact ⟨_, hresolve, ((words_cflags_eq_iff hresolve .shell).2.mpr (hsolid _)).trans hneeded,
    ((words_cflags_eq_iff hresolve .unicode).2.mpr (hsolid _)).trans hneeded⟩

/-- A path with a space in it makes five words out of three flags for a shell, and the words are not
the flags for anyone. -/
theorem words_cflags_spaced :
    let flags : Flags := layeredFlags (Flags.ofLookup fun _ => none) .initial
      ⟨some "/opt/my src", false, none⟩
    ∃ resolution,
      Resolution.resolve flags .initial ⟨some "/opt/my src", false, none⟩ (fun _ => none)
        = .ok resolution ∧
      needed flags = ["-DCOLLECTD_PATH", "-I/opt/my src/src", "-I/opt/my src/src/daemon"] ∧
      Blanks.shell.words (resolution.render .cflags)
        = ["-DCOLLECTD_PATH", "-I/opt/my", "src/src", "-I/opt/my", "src/src/daemon"] ∧
      ∀ blanks : Blanks, blanks.words (resolution.render .cflags) ≠ needed flags := by
  intro flags
  let dirs := ["/opt/my src/src", "/opt/my src/src/daemon"]
  have hresolve : Resolution.resolve flags .initial ⟨some "/opt/my src", false, none⟩
      (fun _ => none) = .ok ⟨.sourceTree, .v57, false, dirs⟩ := by
    decide +kernel
  have hneeded : needed flags
      = ["-DCOLLECTD_PATH", "-I/opt/my src/src", "-I/opt/my src/src/daemon"] := by
    decide +kernel
  refine ⟨_, hresolve, hneeded, by decide +kernel, fun blanks hwords => ?_⟩
  -- a flag with a space in it is no word, whatever else counts as white space
  have hword : "-I/opt/my src/src" ∈ needed flags := by
    rw [hneeded]
    decide
  rw [← hwords] at hword
  have hspace : blanks.isBlank ' ' = false := blanks.solid_of_mem_words hword ' ' (by decide)
  rw [blanks.space] at hspace
  cases hspace

end Resolution

end Probe

end PluginKit
