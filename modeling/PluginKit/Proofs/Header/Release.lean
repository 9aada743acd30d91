import PluginKit.Header.Version
import PluginKit.Proofs.Number.Word
import PluginKit.Proofs.Text.CharClass
import PluginKit.Proofs.Text.Trim

/-!
# `PluginKit.Proofs.Header.Release`: the releases that a text can name

A text names a release by two numbers with a dot between them. White space around them does not count,
and neither does what is behind a second dot. `NamesRelease` is that grammar, said without the reader
that trims a text, splits it and reads two parts. A text names at most one release, and it has a
generation if this is a release of 5 from 5.4 on.

Each generation lasts from its first minor number up to the first one of the next generation. So a
later release never goes back to the records of an older one.

* `ReleaseText`, `NamesRelease`: the grammar.
* `namesRelease_iff`, `NamesRelease.unique`, `namesRelease_written`: texts and releases.
* `Covers`, `covers_iff_newest`: the releases of a generation.
* `parse_eq_some_iff`: the generation of a text.
* `parse_accepts_supported_releases`: which texts have one, and how it grows with the release.
-/

set_option autoImplicit false

namespace PluginKit

namespace Header

namespace Version

open Text (Stripped)
open Word (Numeral)

variable {text : String} {cs : List Char} {major minor : Nat}

/-! ### Texts of a release -/

/-- The texts of release `major.minor`: the two numbers, and anything behind a second dot. -/
inductive ReleaseText (major minor : Nat) : List Char → Prop where
  | short {m n : List Char} : Numeral major m → Numeral minor n →
      ReleaseText major minor (m ++ '.' :: n)
  | long {m n : List Char} (rest : List Char) : Numeral major m → Numeral minor n →
      ReleaseText major minor (m ++ '.' :: (n ++ '.' :: rest))

/-- A text that names release `major.minor`. White space around the release does not count, and both
numbers fit 32 bits. Nothing of the reader occurs in it. -/
structure NamesRelease (text : String) (major minor : Nat) : Prop where
  spelled : ∃ core, Stripped text.toList core ∧ ReleaseText major minor core
  major_lt : major < UInt32.size
  minor_lt : minor < UInt32.size

/-- A number has digits and a sign, so the first dot of a release ends its first number. -/
theorem dot_notMem_of_numeral {n : Nat} (h : Numeral n cs) : '.' ∉ cs := by
  intro hdot
  rcases h.mem hdot with hplus | hdigit
  · exact absurd hplus (by decide)
  · exact absurd hdigit (by decide)

/-- Neither number has a dot in it, so a split at the dots finds them in front. What is behind a
second dot may be anything, more dots included. -/
theorem releaseText_iff : ReleaseText major minor cs ↔
    ∃ m n rest, cs.splitOn '.' = m :: n :: rest ∧ Numeral major m ∧ Numeral minor n := by
  constructor
  · rintro (⟨hm, hn⟩ | ⟨rest, hm, hn⟩)
    · refine ⟨_, _, [], ?_, hm, hn⟩
      rw [List.splitOn_append_cons_self_of_not_mem (dot_notMem_of_numeral hm),
        List.splitOn_eq_singleton (dot_notMem_of_numeral hn)]
    · refine ⟨_, _, rest.splitOn '.', ?_, hm, hn⟩
      rw [List.splitOn_append_cons_self_of_not_mem (dot_notMem_of_numeral hm),
        List.splitOn_append_cons_self_of_not_mem (dot_notMem_of_numeral hn)]
  · rintro ⟨m, n, rest, hsplit, hm, hn⟩
    -- the parts make up the text again, and a third one shows that there was a second dot
    have hjoin : ['.'].intercalate (m :: n :: rest) = cs := by
      rw [← hsplit]
      exact List.intercalate_splitOn '.'
    rw [← hjoin, List.intercalate_cons_cons, List.append_assoc]
    cases rest with
    | nil =>
        rw [List.intercalate_singleton]
        exact .short hm hn
    | cons part parts =>
        rw [List.intercalate_cons_cons, List.append_assoc]
        exact .long _ hm hn

/-- A text names a release if the two numbers can be read from it. This is the reader up to the
generation, and all that is used of it below. -/
theorem namesRelease_iff : NamesRelease text major minor ↔
    ∃ m n rest, (Text.trimChars text.toList).splitOn '.' = m :: n :: rest ∧
      Word.readUpTo? (UInt32.size - 1) m = some major ∧
      Word.readUpTo? (UInt32.size - 1) n = some minor := by
  have hfits (k : Nat) : k ≤ UInt32.size - 1 ↔ k < UInt32.size :=
    Nat.le_sub_one_iff_lt (Nat.zero_lt_succ _)
  simp only [Word.readUpTo?_eq_some_iff, hfits]
  constructor
  · rintro ⟨⟨core, hcore, hspelled⟩, hmajor, hminor⟩
    obtain ⟨m, n, rest, hsplit, hm, hn⟩ := releaseText_iff.mp hspelled
    rw [Text.trimChars_eq_iff.mpr hcore]
    exact ⟨m, n, rest, hsplit, ⟨hm, hmajor⟩, hn, hminor⟩
  · rintro ⟨m, n, rest, hsplit, ⟨hm, hmajor⟩, hn, hminor⟩
    have hspelled := releaseText_iff.mpr ⟨m, n, rest, hsplit, hm, hn⟩
    exact ⟨⟨_, Text.trimChars_eq_iff.mp rfl, hspelled⟩, hmajor, hminor⟩

/-- A text names one release at most, since a spelling has one number. -/
theorem NamesRelease.unique {major' minor' : Nat} (h : NamesRelease text major minor)
    (h' : NamesRelease text major' minor') : major = major' ∧ minor = minor' := by
  obtain ⟨m, n, rest, hsplit, hmajor, hminor⟩ := namesRelease_iff.mp h
  obtain ⟨m', n', rest', hsplit', hmajor', hminor'⟩ := namesRelease_iff.mp h'
  rw [hsplit] at hsplit'
  obtain ⟨rfl, hrest⟩ := List.cons.inj hsplit'
  obtain ⟨rfl, -⟩ := List.cons.inj hrest
  exact ⟨Option.some.inj (hmajor.symm.trans hmajor'), Option.some.inj (hminor.symm.trans hminor')⟩

/-- Every release has a text: its numbers as they are written, with a dot between them. -/
theorem namesRelease_written (hmajor : major < UInt32.size) (hminor : minor < UInt32.size) :
    NamesRelease (toString major ++ "." ++ toString minor) major minor where
  spelled := by
    have hchars : (toString major ++ "." ++ toString minor).toList
        = Nat.toDigits 10 major ++ '.' :: Nat.toDigits 10 minor := by
      simp
    have hdot : Text.isBlank '.' = false := by decide
    have hbehind := Text.IsField.cons hdot (Text.isField_toDigits minor).solid
    have hsolid := ((Text.isField_toDigits major).append hbehind.solid).solid
    rw [hchars]
    exact ⟨_, Text.stripped_of_solid hsolid,
      .short (Word.numeral_toDigits major) (Word.numeral_toDigits minor)⟩
  major_lt := hmajor
  minor_lt := hminor

/-! ### Releases of a generation -/

/-- The minor numbers of release 5 that a generation is for. -/
def Covers : Version → Nat → Prop
  | .v54, minor => minor = 4
  | .v55, minor => minor = 5 ∨ minor = 6
  | .v57, minor => 7 ≤ minor

/-- The minor number of the release that a generation begins with. Generations are compared by
it. -/
def first : Version → Nat
  | .v54 => 4
  | .v55 => 5
  | .v57 => 7

variable {v w : Version}

/-- The table of generations, as a relation: only releases of 5 are in it, and none before 5.4. -/
theorem ofRelease_eq_some_iff : ofRelease major minor = some v ↔ major = 5 ∧ v.Covers minor := by
  cases v <;> grind [ofRelease, Covers]

/-- A generation is for the releases for which it is the newest that has begun. So the table has no
gap and no overlap, and grows with the release. -/
theorem covers_iff_newest :
    v.Covers minor ↔ v.first ≤ minor ∧ ∀ w : Version, w.first ≤ minor → w.first ≤ v.first := by
  -- three first releases are all there are to compare with
  have hall : (∀ w : Version, w.first ≤ minor → w.first ≤ v.first) ↔
      (4 ≤ minor → 4 ≤ v.first) ∧ (5 ≤ minor → 5 ≤ v.first) ∧ (7 ≤ minor → 7 ≤ v.first) := by
    refine ⟨fun h => ⟨h .v54, h .v55, h .v57⟩, fun h w => ?_⟩
    cases w with
    | v54 => exact h.1
    | v55 => exact h.2.1
    | v57 => exact h.2.2
  rw [hall]
  cases v <;> simp only [Covers, first] <;> omega

/-- From 5.4 on every release has a generation, however late it is. -/
theorem exists_covers_iff : (∃ v : Version, v.Covers minor) ↔ 4 ≤ minor := by
  constructor
  · rintro ⟨v, hv⟩
    cases v <;> simp only [Covers] at hv <;> omega
  · intro h
    rcases (by omega : minor = 4 ∨ (minor = 5 ∨ minor = 6) ∨ 7 ≤ minor) with h4 | h5 | h7
    · exact ⟨.v54, h4⟩
    · exact ⟨.v55, h5⟩
    · exact ⟨.v57, h7⟩

/-- A generation that has begun has begun for every later release, so the newest one there is not
older. -/
theorem Covers.first_le {laterMinor : Nat} (hv : v.Covers minor) (hw : w.Covers laterMinor)
    (h : minor ≤ laterMinor) : v.first ≤ w.first := by
  have hbegun : v.first ≤ minor := (covers_iff_newest.mp hv).1
  exact (covers_iff_newest.mp hw).2 v (hbegun.trans h)

/-! ### Generations of texts -/

/-- A text has a generation if it names a release of it. The reader's steps are taken one by one. -/
theorem parse_eq_some_iff :
    parse text = some v ↔ ∃ minor, NamesRelease text 5 minor ∧ v.Covers minor := by
  have hsplit : (Text.trimChars text.toList).splitOnP (· = '.')
      = (Text.trimChars text.toList).splitOn '.' := rfl
  simp only [namesRelease_iff]
  unfold parse
  rw [hsplit]
  constructor
  · intro h
    split at h
    next m n rest hparts =>
      obtain ⟨major, hmajor, h⟩ := Option.bind_eq_some_iff.mp h
      obtain ⟨minor, hminor, h⟩ := Option.bind_eq_some_iff.mp h
      obtain ⟨rfl, hcovers⟩ := ofRelease_eq_some_iff.mp h
      exact ⟨minor, ⟨m, n, rest, hparts, hmajor, hminor⟩, hcovers⟩
    next => cases h
  · rintro ⟨minor, ⟨m, n, rest, hparts, hmajor, hminor⟩, hcovers⟩
    have hrelease : ofRelease 5 minor = some v := ofRelease_eq_some_iff.mpr ⟨rfl, hcovers⟩
    rw [hparts]
    exact Option.bind_eq_some_iff.mpr
      ⟨5, hmajor, Option.bind_eq_some_iff.mpr ⟨minor, hminor, hrelease⟩⟩

/-- A number that is missing, signed twice or past 32 bits names no release. An empty tail does. -/
example : parse "5." = none ∧ parse "5.++4" = none ∧ parse "5.4294967296" = none ∧
    parse "5.4." = some .v54 := by decide

theorem parse_isSome_iff :
    (parse text).isSome ↔ ∃ minor, NamesRelease text 5 minor ∧ 4 ≤ minor := by
  simp only [Option.isSome_iff_exists, parse_eq_some_iff, ← exists_covers_iff]
  constructor
  · rintro ⟨v, minor, hnamed, hcovers⟩
    exact ⟨minor, hnamed, v, hcovers⟩
  · rintro ⟨minor, hnamed, v, hcovers⟩
    exact ⟨v, minor, hnamed, hcovers⟩

/-- A text has a generation exactly if it names a release from 5.4 on. 5.4 is alone in its
generation, 5.5 and 5.6 share one, and from 5.7 on there is one for all. A text of a later release
is accepted too, and never with an older generation. -/
theorem parse_accepts_supported_releases (text : String) :
    ((parse text).isSome ↔ ∃ minor, NamesRelease text 5 minor ∧ 4 ≤ minor) ∧
    (∀ minor, NamesRelease text 5 minor →
      (minor = 4 → parse text = some .v54) ∧
      (minor = 5 ∨ minor = 6 → parse text = some .v55) ∧
      (7 ≤ minor → parse text = some .v57)) ∧
    ∀ later minor laterMinor v, NamesRelease text 5 minor → parse text = some v →
      NamesRelease later 5 laterMinor → minor ≤ laterMinor →
      ∃ w, parse later = some w ∧ v.first ≤ w.first := by
  have hof {minor : Nat} (hnamed : NamesRelease text 5 minor) (v : Version) (h : v.Covers minor) :
      parse text = some v := parse_eq_some_iff.mpr ⟨minor, hnamed, h⟩
  refine ⟨parse_isSome_iff, fun minor hnamed => ⟨hof hnamed .v54, hof hnamed .v55, hof hnamed .v57⟩,
    fun later minor laterMinor v hnamed hv hlater hle => ?_⟩
  -- the release that gave the generation is the one that the text names
  have hcovers : v.Covers minor := by
    obtain ⟨named, hnamed', hcovers⟩ := parse_eq_some_iff.mp hv
    rwa [(hnamed.unique hnamed').2]
  have hbegun : 4 ≤ minor := exists_covers_iff.mp ⟨v, hcovers⟩
  obtain ⟨w, hw⟩ := exists_covers_iff.mpr (hbegun.trans hle)
  exact ⟨w, parse_eq_some_iff.mpr ⟨laterMinor, hlater, hw⟩, hcovers.first_le hw hle⟩

/-- A sign, zeros, white space and a tail make no difference to release 5.6. Release 5.12 is later,
by its number and not by its first digit. -/
theorem parse_accepts_supported_releases_padded :
    NamesRelease "\t+5.006.rc 1\n" 5 6 ∧ NamesRelease "5.12" 5 12 ∧
      parse "\t+5.006.rc 1\n" = some .v55 ∧ ∃ w, parse "5.12" = some w ∧ v55.first ≤ w.first := by
  have hmajor : Numeral 5 ['+', '5'] := .plus (Word.digits_of_all (by decide) rfl)
  have hminor : Numeral 6 ['0', '0', '6'] := .plain (Word.digits_of_all (by decide) rfl)
  have hspelled := ReleaseText.long ['r', 'c', ' ', '1'] hmajor hminor
  have hstripped : Stripped "\t+5.006.rc 1\n".toList
      (['+', '5'] ++ '.' :: (['0', '0', '6'] ++ '.' :: ['r', 'c', ' ', '1'])) := by
    refine ⟨⟨['\t'], ['\n'], by decide, ?_, ?_⟩, ?_, ?_⟩
    · exact List.forall_mem_singleton.mpr (by decide)
    · exact List.forall_mem_singleton.mpr (by decide)
    · rintro c ⟨⟩
      decide
    · rintro c ⟨⟩
      decide
  have hsmall : 5 < UInt32.size ∧ 6 < UInt32.size ∧ 12 < UInt32.size := by decide +kernel
  have hpadded : NamesRelease "\t+5.006.rc 1\n" 5 6 :=
    ⟨⟨_, hstripped, hspelled⟩, hsmall.1, hsmall.2.1⟩
  have hlater : NamesRelease "5.12" 5 12 := namesRelease_written hsmall.1 hsmall.2.2
  have hv : parse "\t+5.006.rc 1\n" = some .v55 :=
    ((parse_accepts_supported_releases _).2.1 6 hpadded).2.1 (.inr rfl)
  exact ⟨hpadded, hlater, hv,
    (parse_accepts_supported_releases _).2.2 "5.12" 6 12 .v55 hpadded hv hlater (by decide)⟩

end Version

end Header

end PluginKit
