import Mathlib.Tactic.SplitIfs
import PluginKit.Toml.Text

/-!
# `PluginKit.Proofs.Toml.Text`: written texts are read back

Four forms of a text, one reader each. The forms with one quote on each side end at the first quote
that stands for itself, so the writer leaves none inside. The forms with three quotes end at the
first three in a row, and up to two quotes after them still belong to the text; so the writer
leaves at most two in a row, and a text may end in them.

* `Escapes`, `Escapes.reads`: what an escape is.
* `basic_escapeText`, `literal_append`, `basicLines_escapeText`, `literalLines_append`: the readers
  between the quotes.
* `of_form_literal`, `of_form_literalLines`: what the writer sees to before it uses single quotes.
* `NoQuote`, `read_write`: a written text is read back wherever no quote follows it, and what
  follows it is left.
-/

set_option autoImplicit false

namespace PluginKit

namespace Toml

namespace Text

/-! ### Escapes -/

/-- The numbers of ASCII are read back from their four digits. There are few enough to go through
them all, and no others have to be escaped. -/
theorem number?_hexDigits : ∀ n < 0x80,
    (hexDigits n).length = 4 ∧ Hex.number? 0 (hexDigits n) = some n := by
  decide

/-- A character that is not plain is a control character of ASCII. -/
theorem toNat_lt_of_not_isPlain {c : Char} (h : isPlain c = false) : c.toNat < 0x80 := by
  unfold isPlain at h
  simp only [Bool.or_eq_false_iff, Bool.and_eq_false_iff, decide_eq_false_iff_not,
    bne_eq_false_iff_eq] at h
  omega

/-- An escape is a backslash and something that is read as the character. The letter after the
backslash is no blank, so the backslash does not stand at the end of a line and swallows nothing. -/
structure Escapes (c : Char) (e : List Char) : Prop where
  lead : ∃ letter more, e = '\\' :: letter :: more ∧ isSpace letter = false ∧ letter ≠ '\n' ∧
    letter ≠ '\r'
  reads : ∀ rest, escape (e.tail ++ rest) = some (c, rest)

/-- Escapes of one letter are read back by computation; only their letter has to be looked at. -/
theorem escapes_letter {c letter : Char}
    (hletter : isSpace letter = false ∧ letter ≠ '\n' ∧ letter ≠ '\r')
    (h : ∀ rest, escape (letter :: rest) = some (c, rest)) : Escapes c ['\\', letter] :=
  ⟨⟨letter, [], rfl, hletter⟩, h⟩

/-- Escapes by number, for the characters of ASCII that have no letter. -/
theorem escapes_hexDigits {c : Char} (h : c.toNat < 0x80) :
    Escapes c ('\\' :: 'u' :: hexDigits c.toNat) := by
  refine ⟨⟨'u', _, rfl, by decide, by decide, by decide⟩, fun rest => ?_⟩
  obtain ⟨hlength, hnumber⟩ := number?_hexDigits c.toNat h
  have hscalar : Hex.scalar? c.toNat = some c := by
    unfold Hex.scalar?
    have hvalid : c.toNat.isValidChar := c.valid
    rw [Char.ofNat_toNat, if_pos hvalid]
  show Hex.codePoint? 4 (hexDigits c.toNat ++ rest) = some (c, rest)
  unfold Hex.codePoint?
  rw [List.take_left' hlength, List.drop_left' hlength, if_pos hlength, hnumber]
  show (Hex.scalar? c.toNat).bind (fun d => some (d, rest)) = some (c, rest)
  rw [hscalar]
  rfl

/-- Whatever the writer escapes, it escapes so that the character is read back. -/
theorem escapes_of_escaped? {lines : Bool} {c : Char} {e : List Char}
    (h : escaped? lines c = some e) : Escapes c e := by
  unfold escaped? at h
  split_ifs at h with hc hc hc hlines hc hc hc hplain
  all_goals obtain rfl := Option.some.inj h
  rotate_left 6
  · exact escapes_hexDigits (toNat_lt_of_not_isPlain (by simpa using hplain))
  -- the others are escapes by one letter
  all_goals
    subst hc
    exact escapes_letter (by decide) fun _ => rfl

/-- What stands for itself between double quotes: the line break where lines may break, and plain
characters without another meaning. A carriage return never does, as one before a line break is part
of the break. -/
theorem isPlain_of_escaped?_eq_none {lines : Bool} {c : Char} (h : escaped? lines c = none) :
    c = '\n' ∧ lines = true ∨ isPlain c = true ∧ c ≠ '\\' ∧ c ≠ '\n' ∧ c ≠ '\r' := by
  unfold escaped? at h
  split_ifs at h with hbs htab hnl hlines hff hcr hback hplain
  · exact .inl ⟨hnl, hlines⟩
  · exact .inr ⟨hplain, hback, hnl, hcr⟩

/-! ### One line -/

/-- What a reader makes of a character before the text that it reads next. With it the readers have
equations that can be chained. -/
def before (c : Char) (t : List Char × List Char) : List Char × List Char := (c :: t.1, t.2)

theorem bind_before (c : Char) (text : Option (List Char × List Char)) :
    (text.bind fun t => some (c :: t.1, t.2)) = text.map (before c) := by
  cases text with
  | none => rfl
  | some t => rfl

/-- A character with no meaning of its own is taken as it is. It may be a quote of the other
kind. -/
theorem basic_plain {c : Char} (hquote : c ≠ '"') (hback : c ≠ '\\') (hplain : isPlain c = true)
    (fuel : Nat) (s : List Char) :
    basic (fuel + 1) (c :: s) = (basic fuel s).map (before c) := by
  rw [basic, if_pos hplain]
  · exact bind_before c (basic fuel s)
  · exact hquote
  · exact hback

/-- An escape is taken as its character, whatever comes next. -/
theorem basic_escape {c : Char} {e : List Char} (h : Escapes c e) (fuel : Nat) (s : List Char) :
    basic (fuel + 1) (e ++ s) = (basic fuel s).map (before c) := by
  obtain ⟨⟨letter, more, rfl, -⟩, hreads⟩ := h
  have hread : escape (letter :: more ++ s) = some (c, s) := hreads s
  show (escape (letter :: more ++ s)).bind _ = _
  rw [hread]
  exact bind_before c (basic fuel s)

/-- How a character other than the quote is written between double quotes. The quote is left out
because how it is written depends on the quotes before it. -/
def written (lines : Bool) (c : Char) : List Char := (escaped? lines c).getD [c]

/-- A character other than the quote is written for itself, and after it quotes are counted anew. -/
theorem escapeText_other (lines : Bool) (most quotes : Nat) {c : Char} (h : c ≠ '"')
    (cs : List Char) :
    escapeText lines most quotes (c :: cs) = written lines c ++ escapeText lines most most cs := by
  rw [escapeText.eq_def]
  unfold written
  simp only [if_neg h]
  cases escaped? lines c with
  | some e => rfl
  | none => rfl

theorem written_length_pos (lines : Bool) (c : Char) : 0 < (written lines c).length := by
  unfold written
  cases hescaped : escaped? lines c with
  | none => exact Nat.one_pos
  | some e =>
      obtain ⟨letter, more, rfl, -⟩ := (escapes_of_escaped? hescaped).lead
      exact Nat.succ_pos _

theorem escapes_quote : Escapes '"' ['\\', '"'] := escapes_letter (by decide) fun _ => rfl

/-- A character is read back from what is written for it on one line. -/
theorem basic_written {c : Char} (hquote : c ≠ '"') (fuel : Nat) (s : List Char) :
    basic (fuel + 1) (written false c ++ s) = (basic fuel s).map (before c) := by
  unfold written
  cases hescaped : escaped? false c with
  | some e => exact basic_escape (escapes_of_escaped? hescaped) fuel s
  | none =>
      rcases isPlain_of_escaped?_eq_none hescaped with ⟨-, hlines⟩ | ⟨hplain, hback, -⟩
      · exact absurd hlines (by decide)
      · exact basic_plain hquote hback hplain fuel s

/-- Between single double quotes every quote is escaped, so the first one that is not ends the
text. -/
theorem basic_escapeText (s rest : List Char) (fuel : Nat)
    (hfuel : (escapeText false 0 0 s).length < fuel) :
    basic fuel (escapeText false 0 0 s ++ '"' :: rest) = some (s, rest) := by
  induction s generalizing fuel with
  | nil =>
      obtain ⟨fuel, rfl⟩ := Nat.exists_eq_add_of_lt hfuel
      rfl
  | cons c cs ih =>
      obtain ⟨fuel, rfl⟩ : ∃ f, fuel = f + 1 := Nat.exists_eq_succ_of_ne_zero (by omega)
      -- On one line no quote may stand without an escape, so a quote is always written as two.
      by_cases hquote : c = '"'
      · subst hquote
        have hchunk : escapeText false 0 0 ('"' :: cs)
            = ['\\', '"'] ++ escapeText false 0 0 cs := rfl
        rw [hchunk, List.length_append, List.length_cons] at hfuel
        rw [hchunk, List.append_assoc, basic_escape escapes_quote, ih fuel (by omega)]
        rfl
      · have hpos := written_length_pos false c
        rw [escapeText_other false 0 0 hquote, List.length_append] at hfuel
        rw [escapeText_other false 0 0 hquote, List.append_assoc, basic_written hquote,
          ih fuel (by omega)]
        rfl

/-- Between single quotes every character stands for itself. There are no escapes, so a text with a
quote or a control character cannot be written in this form. -/
theorem literal_append {s : List Char} (hs : ∀ c ∈ s, isPlain c = true ∧ c ≠ '\'')
    (rest : List Char) : literal (s ++ '\'' :: rest) = some (s, rest) := by
  induction s with
  | nil => rfl
  | cons c cs ih =>
      obtain ⟨⟨hplain, hquote⟩, hcs⟩ := List.forall_mem_cons.mp hs
      rw [List.cons_append, literal, if_pos hplain, ih hcs]
      · rfl
      · exact hquote

/-! ### Several lines -/

theorem newline?_cons {c : Char} (hfeed : c ≠ '\n') (hreturn : c ≠ '\r') (s : List Char) :
    newline? (c :: s) = none := by
  unfold newline?
  split
  · rename_i h
    exact absurd (List.cons.inj h).1 hfeed
  · rename_i h
    exact absurd (List.cons.inj h).1 hreturn
  · rfl

theorem ne_return_of_isPlain {c : Char} (h : isPlain c = true) : c ≠ '\r' := by
  rintro rfl
  exact absurd h (by decide)

/-- A backslash leaves out line breaks only if one follows it on its line, so this reader finds
nothing to leave out before a letter. -/
theorem skipLines_eq_none {s : List Char} (h : newline? (s.dropWhile isSpace) = none) (fuel : Nat) :
    skipLines fuel s = none := by
  cases fuel with
  | zero => rfl
  | succ fuel =>
      unfold skipLines
      rw [h]

/-- The quotes that still belong to a text, where no other comes right after them: none, one or two
before the three that close it. -/
theorem closing_replicate {q : Char} {rest : List Char} (h : rest.head? ≠ some q) :
    closing q rest = ([], rest) ∧ closing q (q :: rest) = ([q], rest) ∧
      closing q (q :: q :: rest) = ([q, q], rest) := by
  cases rest with
  | nil => simp [closing]
  | cons a rest =>
      have ha : a ≠ q := fun e => h (congrArg some e)
      cases rest with
      | nil => simp [closing, ha]
      | cons b rest => simp [closing, ha]

/-- A character between three double quotes that has no meaning: no backslash, and no quote that
starts three in a row. A quote with fewer behind it stands for itself. -/
theorem basicLines_plain {c : Char} {s : List Char}
    (hquotes : c = '"' → ∀ rest, s ≠ '"' :: '"' :: rest) (hback : c ≠ '\\')
    (hfeed : c ≠ '\n') (hplain : isPlain c = true) (fuel : Nat) :
    basicLines (fuel + 1) (c :: s) = (basicLines fuel s).map (before c) := by
  rw [basicLines, newline?_cons hfeed (ne_return_of_isPlain hplain)]
  · show (if isPlain c = true then _ else _) = _
    rw [if_pos hplain]
    exact bind_before c (basicLines fuel s)
  · intro rest hc
    exact hquotes hc rest
  · exact hback

theorem basicLines_newline (fuel : Nat) (s : List Char) :
    basicLines (fuel + 1) ('\n' :: s) = (basicLines fuel s).map (before '\n') :=
  bind_before '\n' (basicLines fuel s)

/-- Escapes mean the same on several lines as on one. -/
theorem basicLines_escape {c : Char} {e : List Char} (h : Escapes c e) (fuel : Nat)
    (s : List Char) : basicLines (fuel + 1) (e ++ s) = (basicLines fuel s).map (before c) := by
  obtain ⟨⟨letter, more, rfl, hspace, hfeed, hreturn⟩, hreads⟩ := h
  have hread : escape (letter :: more ++ s) = some (c, s) := hreads s
  have hline : newline? ((letter :: more ++ s).dropWhile isSpace) = none := by
    rw [List.cons_append, List.dropWhile_cons_of_neg (by simpa using hspace)]
    exact newline?_cons hfeed hreturn _
  rw [List.cons_append, basicLines, skipLines_eq_none hline]
  show (escape (letter :: more ++ s)).bind _ = _
  rw [hread]
  exact bind_before c (basicLines fuel s)

/-- A character is read back from what is written for it on several lines, where a line break stands
for itself. -/
theorem basicLines_written {c : Char} (hquote : c ≠ '"') (fuel : Nat) (s : List Char) :
    basicLines (fuel + 1) (written true c ++ s) = (basicLines fuel s).map (before c) := by
  unfold written
  cases hescaped : escaped? true c with
  | some e => exact basicLines_escape (escapes_of_escaped? hescaped) fuel s
  | none =>
      rcases isPlain_of_escaped?_eq_none hescaped with ⟨rfl, -⟩ | ⟨hplain, hback, hfeed, -⟩
      · exact basicLines_newline fuel s
      · exact basicLines_plain (fun hc => absurd hc hquote) hback hfeed hplain fuel

/-- What is written for a character starts with a backslash or with the character. A carriage return
is escaped, so nothing that is written starts with one. -/
theorem eq_of_mem_head?_written {lines : Bool} {c d : Char} {s : List Char}
    (h : d ∈ (written lines c ++ s).head?) : d = '\\' ∨ d = c ∧ c ≠ '\r' := by
  unfold written at h
  cases hescaped : escaped? lines c with
  | none =>
      rw [hescaped] at h
      obtain rfl := Option.some.inj h
      rcases isPlain_of_escaped?_eq_none hescaped with ⟨rfl, -⟩ | ⟨-, -, -, hreturn⟩
      · exact .inr ⟨rfl, by decide⟩
      · exact .inr ⟨rfl, hreturn⟩
  | some e =>
      obtain ⟨letter, more, rfl, -⟩ := (escapes_of_escaped? hescaped).lead
      rw [hescaped] at h
      exact .inl (Option.some.inj h).symm

/-- Only a quote is written with a quote first, so other characters interrupt a row of quotes. -/
theorem head?_written {lines : Bool} {c : Char} (h : c ≠ '"') (s : List Char) :
    (written lines c ++ s).head? ≠ some '"' := by
  intro hhead
  rcases eq_of_mem_head?_written hhead with hback | ⟨hc, -⟩
  · exact absurd hback (by decide)
  · exact h hc.symm

/-- Three closing quotes with what follows them. It opens a text as well. -/
def closed (q : Char) (rest : List Char) : List Char := q :: q :: q :: rest

/-- Where two quotes come right after one that stands for itself, the text ends with them: in at
most as many quotes as may still stand there. Three in a row inside the text cannot be, as the
writer has escaped one of them. -/
theorem quotes_of_escapeText {quotes : Nat} (hquotes : quotes ≤ 1) {cs rest s : List Char}
    (h : escapeText true 2 quotes cs ++ closed '"' rest = '"' :: '"' :: s) :
    cs = [] ∨ cs = ['"'] ∧ quotes = 1 := by
  -- a text goes on with a quote only if one may stand there
  have hlead : ∀ (n : Nat) (d : Char) (ds : List Char), n ≤ 1 →
      (escapeText true 2 n (d :: ds) ++ closed '"' rest).head? = some '"' → d = '"' ∧ n = 1 := by
    intro n d ds hn hhead
    by_cases hd : d = '"'
    · refine ⟨hd, ?_⟩
      subst hd
      cases n with
      | zero => exact absurd (Option.some.inj hhead) (by decide)
      | succ n => omega
    · rw [escapeText_other true 2 n hd, List.append_assoc] at hhead
      exact absurd hhead (head?_written hd _)
  cases cs with
  | nil => exact .inl rfl
  | cons d ds =>
      obtain ⟨rfl, rfl⟩ := hlead quotes d ds hquotes (congrArg List.head? h)
      have htail : escapeText true 2 0 ds ++ closed '"' rest = '"' :: s := (List.cons.inj h).2
      cases ds with
      | nil => exact .inr ⟨rfl, rfl⟩
      | cons d ds =>
          obtain ⟨-, hzero⟩ := hlead 0 d ds (by omega) (congrArg List.head? htail)
          exact absurd hzero (by decide)

/-- Between three double quotes a quote is escaped after two others. `quotes` says how many more may
stand, as the writer counts them; the induction needs it for every count. -/
theorem basicLines_escapeText (s : List Char) {rest : List Char} (hrest : rest.head? ≠ some '"')
    (quotes : Nat) (hquotes : quotes ≤ 2) (fuel : Nat)
    (hfuel : (escapeText true 2 quotes s).length < fuel) :
    basicLines fuel (escapeText true 2 quotes s ++ closed '"' rest) = some (s, rest) := by
  have hclosing := closing_replicate hrest
  induction s generalizing quotes fuel with
  | nil =>
      obtain ⟨fuel, rfl⟩ := Nat.exists_eq_add_of_lt hfuel
      exact congrArg some hclosing.1
  | cons c cs ih =>
      obtain ⟨fuel, rfl⟩ : ∃ f, fuel = f + 1 := Nat.exists_eq_succ_of_ne_zero (by omega)
      by_cases hquote : c = '"'
      · subst hquote
        cases quotes with
        | zero =>
            have hchunk : escapeText true 2 0 ('"' :: cs)
                = ['\\', '"'] ++ escapeText true 2 2 cs := rfl
            rw [hchunk, List.length_append, List.length_cons] at hfuel
            rw [hchunk, List.append_assoc, basicLines_escape escapes_quote,
              ih 2 (by omega) fuel (by omega)]
            rfl
        | succ quotes =>
            have hchunk : escapeText true 2 (quotes + 1) ('"' :: cs)
                = '"' :: escapeText true 2 quotes cs := rfl
            rw [hchunk, List.length_cons] at hfuel
            rw [hchunk, List.cons_append]
            by_cases hend : cs = [] ∨ cs = ['"'] ∧ quotes = 1
            · -- the text ends here, in one quote or two
              rcases hend with rfl | ⟨rfl, rfl⟩
              · exact congrArg some hclosing.2.1
              · exact congrArg some hclosing.2.2
            · have hgoes : ∀ s, escapeText true 2 quotes cs ++ closed '"' rest
                  ≠ '"' :: '"' :: s := by
                intro s h
                exact hend (quotes_of_escapeText (by omega) h)
              rw [basicLines_plain (fun _ => hgoes) (by decide) (by decide) (by decide),
                ih quotes (by omega) fuel (by omega)]
              rfl
      · have hpos := written_length_pos true c
        rw [escapeText_other true 2 quotes hquote, List.length_append] at hfuel
        rw [escapeText_other true 2 quotes hquote, List.append_assoc, basicLines_written hquote,
          ih 2 (by omega) fuel (by omega)]
        rfl

/-- A text without three of a character in a row, anywhere in it. It may end in two. -/
def Sparse (q : Char) (s : List Char) : Prop := ∀ t, ¬ (q :: q :: q :: t) <:+ s

theorem Sparse.tail {q c : Char} {cs : List Char} (h : Sparse q (c :: cs)) : Sparse q cs :=
  fun t ht => h t (ht.trans (List.suffix_cons c cs))

/-- A character between three single quotes, where it is no quote that starts three in a row. -/
theorem literalLines_plain {c : Char} {s : List Char}
    (hquotes : c = '\'' → ∀ rest, s ≠ '\'' :: '\'' :: rest)
    (hplain : isPlain c = true ∨ c = '\n') (fuel : Nat) :
    literalLines (fuel + 1) (c :: s) = (literalLines fuel s).map (before c) := by
  by_cases hfeed : c = '\n'
  · subst hfeed
    exact bind_before '\n' (literalLines fuel s)
  · have hc := hplain.resolve_right hfeed
    rw [literalLines, newline?_cons hfeed (ne_return_of_isPlain hc)]
    · show (if isPlain c = true then _ else _) = _
      rw [if_pos hc]
      exact bind_before c (literalLines fuel s)
    · intro rest hq
      exact hquotes hq rest

/-- Where two quotes come right after a quote of a sparse text, the text ends with them: they are
closing quotes, with at most one of the text before. -/
theorem quotes_of_sparse {q : Char} {cs rest s : List Char} (hsparse : Sparse q (q :: cs))
    (h : cs ++ closed q rest = q :: q :: s) : cs = [] ∨ cs = [q] := by
  cases cs with
  | nil => exact .inl rfl
  | cons d ds =>
      obtain ⟨rfl, hds⟩ := List.cons.inj h
      cases ds with
      | nil => exact .inr rfl
      | cons e es =>
          obtain ⟨rfl, -⟩ := List.cons.inj hds
          exact absurd (List.suffix_refl _) (hsparse es)

/-- Between three single quotes every character stands for itself, line breaks included. The text
must not have three quotes in a row, as there are no escapes. -/
theorem literalLines_append {s : List Char} (hs : ∀ c ∈ s, isPlain c = true ∨ c = '\n')
    (hsparse : Sparse '\'' s) {rest : List Char} (hrest : rest.head? ≠ some '\'') (fuel : Nat)
    (hfuel : s.length < fuel) :
    literalLines fuel (s ++ closed '\'' rest) = some (s, rest) := by
  have hclosing := closing_replicate hrest
  induction s generalizing fuel with
  | nil =>
      obtain ⟨fuel, rfl⟩ := Nat.exists_eq_add_of_lt hfuel
      exact congrArg some hclosing.1
  | cons c cs ih =>
      obtain ⟨hc, hcs⟩ := List.forall_mem_cons.mp hs
      obtain ⟨fuel, rfl⟩ : ∃ f, fuel = f + 1 := Nat.exists_eq_succ_of_ne_zero (by omega)
      rw [List.length_cons] at hfuel
      -- Up to two quotes may stand right before the closing ones and still belong to the text.
      by_cases hend : c = '\'' ∧ (cs = [] ∨ cs = ['\''])
      · obtain ⟨rfl, rfl | rfl⟩ := hend
        · exact congrArg some hclosing.2.1
        · exact congrArg some hclosing.2.2
      · have hgoes : c = '\'' → ∀ s, cs ++ closed '\'' rest ≠ '\'' :: '\'' :: s := by
          rintro rfl s h
          exact hend ⟨rfl, quotes_of_sparse hsparse h⟩
        rw [List.cons_append, literalLines_plain hgoes hc, ih hcs hsparse.tail fuel (by omega)]
        rfl

/-! ### The choice of a form -/

theorem le_longestRun (q : Char) (here longest : Nat) (s : List Char) :
    longest ≤ longestRun q here longest s := by
  induction s generalizing here longest with
  | nil => exact Nat.le_refl _
  | cons c cs ih =>
      unfold longestRun
      split
      · exact Nat.le_trans (Nat.le_max_left _ _) (ih _ _)
      · exact ih _ _

/-- A row of a character that has been seen counts, even if the text ends in it. -/
theorem succ_le_longestRun (q : Char) (here longest : Nat) (cs : List Char) :
    here + 1 ≤ longestRun q here longest (q :: cs) := by
  unfold longestRun
  rw [if_pos rfl]
  exact Nat.le_trans (Nat.le_max_right _ _) (le_longestRun _ _ _ _)

/-- The longest row of a text is at least as long as that of what is left of it, with some counts so
far. That is enough for inductions, as the counts do not matter to them. -/
theorem exists_longestRun_le (q c : Char) (here longest : Nat) (cs : List Char) :
    ∃ h l, longestRun q h l cs ≤ longestRun q here longest (c :: cs) := by
  rw [longestRun]
  split
  · exact ⟨_, _, Nat.le_refl _⟩
  · exact ⟨_, _, Nat.le_refl _⟩

/-- A character with no row is not in the text. -/
theorem notMem_of_longestRun {q : Char} {here longest : Nat} {s : List Char}
    (h : longestRun q here longest s = 0) : q ∉ s := by
  induction s generalizing here longest with
  | nil => exact List.not_mem_nil
  | cons c cs ih =>
      intro hmem
      rcases List.mem_cons.mp hmem with rfl | hmem
      · have := succ_le_longestRun q here longest cs
        omega
      · obtain ⟨here, longest, hle⟩ := exists_longestRun_le q c here longest cs
        exact ih (Nat.le_zero.mp (h ▸ hle)) hmem

/-- What the writer measures to choose a form is what the reader of that form needs. -/
theorem sparse_of_longestRun {q : Char} {here longest : Nat} {s : List Char}
    (h : longestRun q here longest s ≤ 2) : Sparse q s := by
  induction s generalizing here longest with
  | nil =>
      intro t ht
      exact absurd (List.suffix_nil.mp ht) (List.cons_ne_nil _ _)
  | cons c cs ih =>
      intro t ht
      rcases List.suffix_cons_iff.mp ht with heq | hsuffix
      · obtain ⟨rfl, rfl⟩ := List.cons.inj heq
        have hthree : 3 ≤ longestRun q here longest (q :: q :: q :: t) := by
          rw [longestRun, if_pos rfl, longestRun, if_pos rfl]
          exact Nat.le_trans (by omega) (succ_le_longestRun q (here + 1 + 1) _ t)
        omega
      · obtain ⟨here, longest, hle⟩ := exists_longestRun_le q c here longest cs
        exact ih (Nat.le_trans hle h) t hsuffix

theorem isPlain_of_any_eq_false {s : List Char} (h : s.any needsEscape = false) :
    ∀ c ∈ s, isPlain c = true ∨ c = '\n' := by
  intro c hc
  have hescape := List.any_eq_false.mp h c hc
  unfold needsEscape at hescape
  cases hplain : isPlain c with
  | true => exact .inl rfl
  | false => exact .inr (by simpa [hplain] using hescape)

/-- The writer uses one single quote only where nothing has to be escaped and no such quote is
inside. -/
theorem of_form_literal {s : List Char} (h : form s = .literal) :
    ∀ c ∈ s, isPlain c = true ∧ c ≠ '\'' := by
  unfold form at h
  simp only at h
  split_ifs at h with hbasic hliteral
  simp only [Bool.and_eq_true, Bool.not_eq_true', beq_iff_eq] at hliteral
  obtain ⟨⟨hescapes, hsingle⟩, hbreaks⟩ := hliteral
  have hnewline : '\n' ∉ s := by simpa using hbreaks
  intro c hc
  constructor
  · exact (isPlain_of_any_eq_false hescapes c hc).resolve_right fun h => hnewline (h ▸ hc)
  · exact fun h => notMem_of_longestRun hsingle (h ▸ hc)

/-- The writer uses three single quotes only where nothing has to be escaped and no three are in a
row. -/
theorem of_form_literalLines {s : List Char} (h : form s = .literalLines) :
    (∀ c ∈ s, isPlain c = true ∨ c = '\n') ∧ Sparse '\'' s := by
  unfold form at h
  simp only at h
  split_ifs at h with hbasic hliteral hlines hliteralLines
  simp only [Bool.and_eq_true, Bool.not_eq_true', decide_eq_true_eq] at hliteralLines
  exact ⟨isPlain_of_any_eq_false hliteralLines.1, sparse_of_longestRun hliteralLines.2⟩

/-- The line break that the writer puts first is the one that the reader leaves out. A text without
line breaks gets none, and does not start with one. Without the writer's, a text that starts with a
line break would lose it. -/
theorem skipNewline_opening {s body : List Char}
    (h : ∀ c ∈ body.head?, c = '\n' ∧ '\n' ∈ s ∨ c ≠ '\n' ∧ c ≠ '\r') :
    skipNewline (opening s ++ body) = body := by
  unfold opening
  by_cases hs : '\n' ∈ s
  · rw [if_pos (by simpa using hs)]
    rfl
  · rw [if_neg (by simpa using hs)]
    cases body with
    | nil => rfl
    | cons c body =>
        rcases h c rfl with ⟨-, hmem⟩ | ⟨hfeed, hreturn⟩
        · exact absurd hmem hs
        · unfold skipNewline
          rw [List.nil_append, newline?_cons hfeed hreturn]
          rfl

/-- A text that does not go on with a quote, which would count as one of those that close it. In a
document a line break, a comma or a bracket follows. -/
def NoQuote (rest : List Char) : Prop := rest.head? ≠ some '"' ∧ rest.head? ≠ some '\''

theorem noQuote_cons {c : Char} (h : c ≠ '"' ∧ c ≠ '\'') (rest : List Char) : NoQuote (c :: rest) :=
  ⟨fun heq => h.1 (Option.some.inj heq), fun heq => h.2 (Option.some.inj heq)⟩

/-- A text that starts with one quote is read on one line. Two quotes are an empty text, and three
start the other form, so what follows an empty text matters. -/
theorem read_of_line {s : List Char} (hdouble : ∀ rest, s ≠ closed '"' rest)
    (hsingle : ∀ rest, s ≠ closed '\'' rest) : read s = readLine s := by
  unfold read
  split
  · exact absurd rfl (hdouble _)
  · exact absurd rfl (hsingle _)
  · rfl

/-- The form with one double quote. An empty text is written as two quotes, and a third one behind
it would start the other form. -/
theorem read_basic (s : List Char) {rest : List Char} (hrest : rest.head? ≠ some '"') :
    read ('"' :: (escapeText false 0 0 s ++ '"' :: rest)) = some (s, rest) := by
  rw [read_of_line]
  · exact basic_escapeText s rest _ (by simp only [List.length_append, List.length_cons]; omega)
  · -- the quote is followed by another one only in an empty text, and then not by a third
    intro other h
    have htail := (List.cons.inj h).2
    cases s with
    | nil => exact hrest (congrArg List.head? (List.cons.inj htail).2)
    | cons c cs =>
        by_cases hquote : c = '"'
        · subst hquote
          exact absurd (List.cons.inj htail).1 (by decide)
        · rw [escapeText_other false 0 0 hquote, List.append_assoc] at htail
          exact head?_written hquote _ (congrArg List.head? htail)
  · intro other h
    exact absurd (List.cons.inj h).1 (by decide)

/-- The form with one single quote, likewise. -/
theorem read_literal {s : List Char} (hs : ∀ c ∈ s, isPlain c = true ∧ c ≠ '\'')
    {rest : List Char} (hrest : rest.head? ≠ some '\'') :
    read ('\'' :: (s ++ '\'' :: rest)) = some (s, rest) := by
  rw [read_of_line]
  · exact literal_append hs rest
  · intro other h
    exact absurd (List.cons.inj h).1 (by decide)
  · intro other h
    have htail := (List.cons.inj h).2
    cases s with
    | nil => exact hrest (congrArg List.head? (List.cons.inj htail).2)
    | cons c cs => exact (hs c List.mem_cons_self).2 (List.cons.inj htail).1

/-- The form with three double quotes: opened, read and closed. -/
theorem read_basicLines (s : List Char) {rest : List Char} (hrest : rest.head? ≠ some '"') :
    read (closed '"' (opening s ++ (escapeText true 2 2 s ++ closed '"' rest)))
      = some (s, rest) := by
  -- The reader drops one line break after the opening quotes. A text that starts with one has a
  -- second in front of it, as `opening` puts one before every text with line breaks.
  have hskip : skipNewline (opening s ++ (escapeText true 2 2 s ++ closed '"' rest))
      = escapeText true 2 2 s ++ closed '"' rest := by
    apply skipNewline_opening
    intro d hd
    cases s with
    | nil =>
        obtain rfl := Option.some.inj hd
        exact .inr (by decide)
    | cons c cs =>
        by_cases hquote : c = '"'
        · subst hquote
          obtain rfl := Option.some.inj hd
          exact .inr (by decide)
        · rw [escapeText_other true 2 2 hquote, List.append_assoc] at hd
          rcases eq_of_mem_head?_written hd with rfl | ⟨rfl, hreturn⟩
          · exact .inr (by decide)
          · by_cases hfeed : d = '\n'
            · exact .inl ⟨hfeed, hfeed ▸ List.mem_cons_self⟩
            · exact .inr ⟨hfeed, hreturn⟩
  show basicLines _ (skipNewline _) = _
  rw [hskip]
  exact basicLines_escapeText s hrest 2 (Nat.le_refl _) _
    (by simp only [closed, List.length_append, List.length_cons]; omega)

/-- The form with three single quotes: opened, read and closed. -/
theorem read_literalLines {s : List Char} (hs : ∀ c ∈ s, isPlain c = true ∨ c = '\n')
    (hsparse : Sparse '\'' s) {rest : List Char} (hrest : rest.head? ≠ some '\'') :
    read (closed '\'' (opening s ++ (s ++ closed '\'' rest))) = some (s, rest) := by
  have hskip : skipNewline (opening s ++ (s ++ closed '\'' rest)) = s ++ closed '\'' rest := by
    apply skipNewline_opening
    intro d hd
    cases s with
    | nil =>
        obtain rfl := Option.some.inj hd
        exact .inr (by decide)
    | cons c cs =>
        obtain rfl := Option.some.inj hd
        by_cases hfeed : c = '\n'
        · exact .inl ⟨hfeed, hfeed ▸ List.mem_cons_self⟩
        · have hplain := (hs c List.mem_cons_self).resolve_right hfeed
          exact .inr ⟨hfeed, ne_return_of_isPlain hplain⟩
  show literalLines _ (skipNewline _) = _
  rw [hskip]
  exact literalLines_append hs hsparse hrest _
    (by simp only [closed, List.length_append, List.length_cons]; omega)

/-- A written text is read back, whatever does not look like more of its closing quotes follows.
The writer chooses among four forms, and each choice gives the reader of its form what that one
needs. -/
theorem read_write (s : List Char) {rest : List Char} (hrest : NoQuote rest) :
    read (write s ++ rest) = some (s, rest) := by
  unfold write
  cases hform : form s with
  | basic =>
      have hread := read_basic s hrest.1
      simpa using hread
  | literal =>
      have hread := read_literal (of_form_literal hform) hrest.2
      simpa using hread
  | basicLines =>
      have hread := read_basicLines s hrest.1
      simpa [closed] using hread
  | literalLines =>
      have hread := read_literalLines (of_form_literalLines hform).1 (of_form_literalLines hform).2
        hrest.2
      simpa [closed] using hread

end Text

end Toml

end PluginKit
