import PluginKit.Proofs.Metadata
import PluginKit.Proofs.Toml.Text
import PluginKit.Toml.Document

/-!
# `PluginKit.Proofs.Toml.Document`: documents line by line

A plain document is a row of sections, each a header and lines with a value under a key. Its text is
put together from pieces, and each piece is read for itself: `Spells` says that a reader which comes
to the piece takes its statements and goes on after it. The statements of sections with different
names and keys make the table that the sections are.

* `Solid`: what neither a blank, a comment nor a line break starts.
* `Bare.read_append`, `valueUpTo_text`, `valueUpTo_boolean`, `items_lines`: the parts of a line.
* `Spells.append`, `Spells.line`: pieces of a document, and `Spells.readAll` for the whole of it.
* `ofStatements?_sections`: the table of a row of sections.
-/

set_option autoImplicit false

namespace PluginKit

namespace Toml

/-! ### Blanks and line breaks -/

/-- A text that starts with something to read: no blank, no comment, no line break. Whatever skips
ahead stops here, which is all that the readers need to know of what comes next. -/
def Solid (s : List Char) : Prop :=
  ∃ c rest, s = c :: rest ∧ Text.isSpace c = false ∧ c ≠ '#' ∧ c ≠ '\n' ∧ c ≠ '\r'

namespace Solid

variable {s : List Char}

theorem cons {c : Char} (h : Text.isSpace c = false ∧ c ≠ '#' ∧ c ≠ '\n' ∧ c ≠ '\r')
    (rest : List Char) : Solid (c :: rest) :=
  ⟨c, rest, rfl, h⟩

/-- What starts with something to read does so with whatever follows it. -/
theorem append (h : Solid s) (rest : List Char) : Solid (s ++ rest) := by
  obtain ⟨c, more, rfl, hc⟩ := h
  exact ⟨c, more ++ rest, rfl, hc⟩

theorem ne_nil (h : Solid s) : s ≠ [] := by
  obtain ⟨c, rest, rfl, -⟩ := h
  exact List.cons_ne_nil c rest

theorem skipBlanks_eq (h : Solid s) : skipBlanks s = s := by
  obtain ⟨c, rest, rfl, hspace, -⟩ := h
  exact List.dropWhile_cons_of_neg (by simp [hspace])

/-- Blanks before something to read are skipped, and nothing more. -/
theorem skipBlanks_append (h : Solid s) {blanks : List Char}
    (hblanks : ∀ c ∈ blanks, Text.isSpace c = true) : skipBlanks (blanks ++ s) = s := by
  unfold skipBlanks
  rw [List.dropWhile_append_of_pos hblanks]
  exact h.skipBlanks_eq

theorem skipComment_eq (h : Solid s) : skipComment s = s := by
  obtain ⟨c, rest, rfl, -, hcomment, -⟩ := h
  unfold skipComment
  split
  · rename_i heq
    exact absurd (List.cons.inj heq).1 hcomment
  · rfl

theorem newline?_eq (h : Solid s) : Text.newline? s = none := by
  obtain ⟨c, rest, rfl, -, -, hfeed, hreturn⟩ := h
  exact Text.newline?_cons hfeed hreturn rest

/-- No line ends where something is left to read. -/
theorem endLine?_eq (h : Solid s) : endLine? s = none := by
  unfold endLine?
  rw [h.skipBlanks_eq, h.skipComment_eq]
  obtain ⟨c, rest, rfl, -⟩ := id h
  exact h.newline?_eq

/-- Blanks before something to read are skipped, and no line. The fuel does not matter, as there is
no line to spend it on. -/
theorem skipLines_append (h : Solid s) {blanks : List Char}
    (hblanks : ∀ c ∈ blanks, Text.isSpace c = true) (fuel : Nat) :
    skipLines fuel (blanks ++ s) = s := by
  cases fuel with
  | zero => exact h.skipBlanks_append hblanks
  | succ fuel =>
      unfold skipLines
      rw [h.skipBlanks_append hblanks, h.skipComment_eq, h.newline?_eq]

theorem skipLines_eq (h : Solid s) (fuel : Nat) : skipLines fuel s = s :=
  have hnone : ∀ c ∈ ([] : List Char), Text.isSpace c = true := nofun
  h.skipLines_append hnone fuel

end Solid

/-- A line break is skipped at the price of one unit of fuel. -/
theorem skipLines_newline (fuel : Nat) (s : List Char) :
    skipLines (fuel + 1) ('\n' :: s) = skipLines fuel s := rfl

theorem endLine?_newline (s : List Char) : endLine? ('\n' :: s) = some s := rfl

/-! ### Keys -/

/-- A row of characters of a class ends where a character of another class stands. Keys and words
are read as such rows. -/
theorem span_append {p : Char → Bool} {word rest : List Char} (hword : ∀ c ∈ word, p c = true)
    (hrest : ∀ c ∈ rest.head?, p c = false) :
    (word ++ rest).takeWhile p = word ∧ (word ++ rest).dropWhile p = rest := by
  rw [List.takeWhile_append_of_pos hword, List.dropWhile_append_of_pos hword]
  cases rest with
  | nil => exact ⟨List.append_nil word, rfl⟩
  | cons c cs => simp [hrest c rfl]

/-- A key that is written without quotes. All keys that are written here are such keys; a key with
other characters in it would have to be quoted. -/
structure Bare (key : String) : Prop where
  ne_nil : key.toList ≠ []
  chars : key.toList.all isKeyChar = true

/-- The characters of such keys have no other meaning in a document, so a statement that starts with
one is neither a header, a comment nor a quoted key. -/
theorem not_special_of_isKeyChar {c : Char} (h : isKeyChar c = true) :
    c ≠ '"' ∧ c ≠ '\'' ∧ c ≠ '[' ∧ c ≠ '#' ∧ c ≠ '\n' ∧ c ≠ '\r' ∧ Text.isSpace c = false := by
  have hspace : Text.isSpace c = false := by
    unfold Text.isSpace
    rw [Bool.or_eq_false_iff, beq_eq_false_iff_ne, beq_eq_false_iff_ne]
    constructor
    all_goals
      rintro rfl
      exact absurd h (by decide)
  refine ⟨?_, ?_, ?_, ?_, ?_, ?_, hspace⟩
  all_goals
    rintro rfl
    exact absurd h (by decide)

namespace Bare

variable {key : String}

theorem exists_cons (h : Bare key) : ∃ c cs, key.toList = c :: cs ∧ isKeyChar c = true := by
  obtain ⟨c, cs, hkey⟩ := List.exists_cons_of_ne_nil h.ne_nil
  exact ⟨c, cs, hkey, List.all_eq_true.mp h.chars c (by rw [hkey]; exact List.mem_cons_self)⟩

theorem solid (h : Bare key) : Solid key.toList := by
  obtain ⟨c, cs, hkey, hc⟩ := h.exists_cons
  obtain ⟨-, -, -, hcomment, hfeed, hreturn, hspace⟩ := not_special_of_isKeyChar hc
  exact ⟨c, cs, hkey, hspace, hcomment, hfeed, hreturn⟩

/-- A key without quotes goes on as far as its characters do. The equals sign and the bracket that
follow keys are none of them. -/
theorem simpleKey_append (h : Bare key) {rest : List Char}
    (hrest : ∀ c ∈ rest.head?, isKeyChar c = false) :
    simpleKey (key.toList ++ rest) = some (key, rest) := by
  obtain ⟨htake, hdrop⟩ := span_append (List.all_eq_true.mp h.chars) hrest
  obtain ⟨c, cs, hkey, hc⟩ := h.exists_cons
  obtain ⟨hdouble, hsingle, -⟩ := not_special_of_isKeyChar hc
  rw [simpleKey, htake, hdrop, String.ofList_toList, if_neg (by simp [hkey])]
  · intro more heq
    rw [hkey] at heq
    exact hdouble (List.cons.inj heq).1
  · intro more heq
    rw [hkey] at heq
    exact hsingle (List.cons.inj heq).1

/-- A key without quotes and dots, up to what stands after the blanks behind it. A dot there would
make it the first part of a longer key. -/
theorem read_append (h : Bare key) {rest : List Char}
    (hrest : ∀ c ∈ rest.head?, isKeyChar c = false)
    (hdot : ∀ more, skipBlanks rest ≠ '.' :: more) :
    Key.read (key.toList ++ rest) = some (⟨[], key⟩, skipBlanks rest) := by
  have hkey : simpleKey (skipBlanks (key.toList ++ rest)) = some (key, rest) := by
    rw [(h.solid.append rest).skipBlanks_eq, h.simpleKey_append hrest]
  show Key.readUpTo (78 + 1) (key.toList ++ rest) = _
  unfold Key.readUpTo
  rw [hkey]
  -- no dot follows, so the key ends with its first part
  simp only [Option.bind_eq_bind, Option.bind_some]
  rfl

end Bare

/-! ### Values -/

/-- What is no array and no table is read alike at any depth, since only these count one level
down. -/
theorem valueUpTo_eq_plainValue {c : Char} (h : c ≠ '[' ∧ c ≠ '\x7b') (s : List Char)
    (depth : Nat) : valueUpTo depth (c :: s) = plainValue (c :: s) := by
  cases depth with
  | zero => rfl
  | succ depth =>
      rw [valueUpTo]
      · intro rest heq
        exact h.1 (List.cons.inj heq).1
      · intro rest heq
        exact h.2 (List.cons.inj heq).1

/-- A written text starts with a quote. -/
theorem Text.write_eq_cons (s : List Char) :
    ∃ q body, Text.write s = q :: body ∧ (q = '"' ∨ q = '\'') := by
  unfold Text.write
  cases Text.form s with
  | basic => exact ⟨'"', _, rfl, .inl rfl⟩
  | literal => exact ⟨'\'', _, rfl, .inr rfl⟩
  | basicLines => exact ⟨'"', _, rfl, .inl rfl⟩
  | literalLines => exact ⟨'\'', _, rfl, .inr rfl⟩

/-- A written text is something to read, even if the text is empty. -/
theorem Text.solid_write (s : List Char) : Solid (Text.write s) := by
  obtain ⟨q, body, hwrite, hq⟩ := Text.write_eq_cons s
  rw [hwrite]
  rcases hq with rfl | rfl
  · exact Solid.cons (by decide) body
  · exact Solid.cons (by decide) body

theorem valueUpTo_quoted (depth : Nat) {q : Char} (hq : q = '"' ∨ q = '\'') (s : List Char) :
    valueUpTo depth (q :: s)
      = (Text.read (q :: s)).map fun t => (.text (String.ofList t.1), t.2) := by
  rcases hq with rfl | rfl
  · exact valueUpTo_eq_plainValue (by decide) s depth
  · exact valueUpTo_eq_plainValue (by decide) s depth

/-- A written text is a value, and what follows it is left, unless it would count as one of its
closing quotes. -/
theorem valueUpTo_text (depth : Nat) (s : List Char) {rest : List Char}
    (hrest : Text.NoQuote rest) :
    valueUpTo depth (Text.write s ++ rest) = some (.text (String.ofList s), rest) := by
  have hread := Text.read_write s hrest
  obtain ⟨q, body, hwrite, hq⟩ := Text.write_eq_cons s
  rw [hwrite, List.cons_append] at hread ⊢
  rw [valueUpTo_quoted depth hq, hread]
  rfl

/-- A word ends where neither one of its characters nor a blank stands. A blank might belong to a
date with a time behind it. -/
theorem Scalar.read_append {word rest : List Char}
    (hword : ∀ c ∈ word, Scalar.isWordChar c = true)
    (hrest : ∀ c ∈ rest.head?, Scalar.isWordChar c = false ∧ c ≠ ' ') :
    Scalar.read (word ++ rest) = (Scalar.ofWord? word).map (·, rest) := by
  obtain ⟨htake, hdrop⟩ := span_append hword fun c hc => (hrest c hc).1
  have hspan : Scalar.word (word ++ rest) = (word, rest) := by
    unfold Scalar.word
    simp only [htake, hdrop]
    split
    · exact absurd rfl (hrest ' ' rfl).2
    · rfl
  unfold Scalar.read
  rw [hspan]

/-- How a truth value is written. -/
def writeBoolean (b : Bool) : List Char := (if b then "true" else "false").toList

theorem solid_writeBoolean (b : Bool) : Solid (writeBoolean b) := by
  cases b with
  | true => exact Solid.cons (c := 't') (by decide) ['r', 'u', 'e']
  | false => exact Solid.cons (c := 'f') (by decide) ['a', 'l', 's', 'e']

/-- A truth value is written as a word and read back as itself. -/
theorem valueUpTo_boolean (depth : Nat) (b : Bool) {rest : List Char}
    (hrest : ∀ c ∈ rest.head?, Scalar.isWordChar c = false ∧ c ≠ ' ') :
    valueUpTo depth (writeBoolean b ++ rest) = some (.boolean b, rest) := by
  cases b with
  | true =>
      have hword : ['t', 'r', 'u', 'e'].all Scalar.isWordChar = true := by decide
      have hread := Scalar.read_append (List.all_eq_true.mp hword) hrest
      exact (valueUpTo_eq_plainValue (by decide) _ depth).trans hread
  | false =>
      have hword : ['f', 'a', 'l', 's', 'e'].all Scalar.isWordChar = true := by decide
      have hread := Scalar.read_append (List.all_eq_true.mp hword) hrest
      exact (valueUpTo_eq_plainValue (by decide) _ depth).trans hread

/-! ### Arrays -/

/-- How the elements of an array are written, and what is read from them: none looks like the end of
the array, and each is read back before a comma or the end. What the elements are is left open. -/
structure Writes {α : Type} (read : List Char → Option (Value × List Char))
    (write : α → List Char) (v : α → Value) : Prop where
  solid : ∀ a, Solid (write a)
  not_end : ∀ a, (write a).head? ≠ some ']'
  comma : ∀ a rest, read (write a ++ ',' :: rest) = some (v a, ',' :: rest)
  last : ∀ a rest, read (write a ++ ']' :: rest) = some (v a, ']' :: rest)

section
variable {α : Type} {read : List Char → Option (Value × List Char)} {write : α → List Char}
  {v : α → Value}

theorem Writes.not_end_append (h : Writes read write v) (a : α) (s rest : List Char) :
    write a ++ s ≠ ']' :: rest := by
  obtain ⟨c, body, hwrite, -⟩ := h.solid a
  have hend := h.not_end a
  rw [hwrite] at hend ⊢
  intro heq
  exact hend (congrArg some (List.cons.inj heq).1)

/-- An array ends at its bracket, after whatever lines and blanks there are. This is also how an
array ends whose last element has a comma. -/
theorem items_end (fuel : Nat) {s rest : List Char} (hskip : skipLines s.length s = ']' :: rest) :
    items read (fuel + 1) s = some ([], rest) := by
  unfold items
  rw [hskip]
  rfl

/-- An array that does not end here goes on with an element, and after that with a comma or its end.
Everything else about arrays is said with this equation and `items_end`. -/
theorem items_of_element (fuel : Nat) {s t : List Char} (hskip : skipLines s.length s = t)
    (hend : ∀ rest, t ≠ ']' :: rest) :
    items read (fuel + 1) s = (read t).bind fun e =>
      match skipLines e.2.length e.2 with
      | ']' :: rest => some ([e.1], rest)
      | ',' :: rest => (items read fuel rest).bind fun more => some (e.1 :: more.1, more.2)
      | _ => none := by
  rw [items, hskip]
  split
  · exact absurd rfl (hend _)
  · rfl

/-- An element with a comma behind it. The rest is an array again, which may be empty. -/
theorem items_cons (h : Writes read write v) (fuel : Nat) (a : α) {s rest : List Char}
    (hskip : skipLines s.length s = write a ++ ',' :: rest) :
    items read (fuel + 1) s = (items read fuel rest).map fun more => (v a :: more.1, more.2) := by
  have hcomma : skipLines (',' :: rest).length (',' :: rest) = ',' :: rest :=
    (Solid.cons (by decide) rest).skipLines_eq _
  rw [items_of_element fuel hskip (h.not_end_append a _), h.comma, Option.bind_some]
  simp only [hcomma]
  cases items read fuel rest with
  | none => rfl
  | some more => rfl

/-- The only element, without a comma. -/
theorem items_single (h : Writes read write v) (fuel : Nat) (a : α) (rest : List Char) :
    items read (fuel + 1) (write a ++ ']' :: rest) = some ([v a], rest) := by
  have hlast : skipLines (']' :: rest).length (']' :: rest) = ']' :: rest :=
    (Solid.cons (by decide) rest).skipLines_eq _
  rw [items_of_element fuel (((h.solid a).append _).skipLines_eq _) (h.not_end_append a _), h.last,
    Option.bind_some]
  simp only [hlast]

/-- Elements on lines of their own, each after some blanks and before a comma. -/
def lines (write : α → List Char) (blanks : List Char) (as : List α) : List Char :=
  as.flatMap fun a => blanks ++ write a ++ [',', '\n']

/-- Every element has a character, so the length of the text is fuel enough. -/
theorem length_le_lines (write : α → List Char) (blanks : List Char) (as : List α) :
    as.length ≤ (lines write blanks as).length := by
  induction as with
  | nil => exact Nat.le_refl _
  | cons a as ih =>
      unfold lines at ih ⊢
      simp only [List.flatMap_cons, List.length_append, List.length_cons]
      omega

/-- Elements on lines of their own are read back, with a comma after the last one as well. -/
theorem items_lines (h : Writes read write v) {blanks : List Char}
    (hblanks : ∀ c ∈ blanks, Text.isSpace c = true) (as : List α) (rest : List Char) (fuel : Nat)
    (hfuel : as.length < fuel) :
    items read fuel ('\n' :: (lines write blanks as ++ ']' :: rest)) = some (as.map v, rest) := by
  -- On the elements. Each takes one unit of fuel, and skips the line break and blanks before it.
  induction as generalizing fuel with
  | nil =>
      obtain ⟨fuel, rfl⟩ := Nat.exists_eq_add_of_lt hfuel
      exact items_end _ ((Solid.cons (by decide) rest).skipLines_eq _)
  | cons a as ih =>
      obtain ⟨fuel, rfl⟩ : ∃ f, fuel = f + 1 := Nat.exists_eq_succ_of_ne_zero (by omega)
      rw [List.length_cons] at hfuel
      have hline : lines write blanks (a :: as) ++ ']' :: rest
          = blanks ++ (write a ++ ',' :: '\n' :: (lines write blanks as ++ ']' :: rest)) := by
        simp [lines]
      have hskip : skipLines ('\n' :: (lines write blanks (a :: as) ++ ']' :: rest)).length
          ('\n' :: (lines write blanks (a :: as) ++ ']' :: rest))
            = write a ++ ',' :: '\n' :: (lines write blanks as ++ ']' :: rest) := by
        rw [List.length_cons, skipLines_newline, hline]
        exact ((h.solid a).append _).skipLines_append hblanks _
      rw [items_cons h fuel a hskip, ih fuel (by omega)]
      rfl

end

/-! ### Statements -/

namespace Statement

/-- A header with a name of one part. -/
theorem read_header {name : String} (h : Bare name) (rest : List Char) :
    read ('[' :: (name.toList ++ ']' :: rest)) = some (.header ⟨[], name⟩, rest) := by
  have hkey : Key.read (name.toList ++ ']' :: rest) = some (⟨[], name⟩, ']' :: rest) :=
    h.read_append (by simp; decide) fun more heq => absurd (List.cons.inj heq).1 (by decide)
  obtain ⟨c, cs, hname, hc⟩ := h.exists_cons
  have hbracket := (not_special_of_isKeyChar hc).2.2.1
  rw [read]
  · rw [hkey]
    rfl
  · intro more heq
    rw [hname] at heq
    exact hbracket (List.cons.inj heq).1

/-- A value under a key of one part. That the value can be read is taken as a hypothesis, so this is
about lines and not about kinds of values. -/
theorem read_pair {key : String} (h : Bare key) {text rest : List Char} {v : Value}
    (htext : Solid text) (hvalue : value (text ++ rest) = some (v, rest)) :
    read (key.toList ++ ' ' :: '=' :: ' ' :: (text ++ rest)) = some (.pair ⟨[], key⟩ v, rest) := by
  have hkey : Key.read (key.toList ++ ' ' :: '=' :: ' ' :: (text ++ rest))
      = some (⟨[], key⟩, '=' :: ' ' :: (text ++ rest)) :=
    h.read_append (by simp; decide) fun more heq => absurd (List.cons.inj heq).1 (by decide)
  have hblank : ∀ c ∈ [' '], Text.isSpace c = true := List.forall_mem_singleton.mpr rfl
  have hskip : skipBlanks (' ' :: (text ++ rest)) = text ++ rest :=
    (htext.append rest).skipBlanks_append hblank
  obtain ⟨c, cs, hname, hc⟩ := h.exists_cons
  have hbracket := (not_special_of_isKeyChar hc).2.2.1
  -- A statement is a header only if it starts with a bracket, which no bare key does.
  rw [read]
  · rw [hkey]
    show (value (skipBlanks (' ' :: (text ++ rest)))).bind _ = _
    rw [hskip, hvalue]
    rfl
  · intro more heq
    rw [hname] at heq
    exact hbracket (List.cons.inj heq).1
  · intro more heq
    rw [hname] at heq
    exact hbracket (List.cons.inj heq).1

end Statement

/-! ### Pieces of a document -/

/-- What a piece of a document says: a reader that comes to it takes some statements and goes on
with what follows, and still has fuel for it. It is said for everything that may follow, so pieces
can be put together. -/
def Spells (text : List Char) (statements : List Statement) : Prop :=
  ∀ rest fuel, (text ++ rest).length < fuel → ∃ left, rest.length < left ∧
    Statement.readAll fuel (text ++ rest) = (Statement.readAll left rest).map (statements ++ ·)

namespace Spells

theorem nil : Spells [] [] := by
  intro rest fuel hfuel
  refine ⟨fuel, hfuel, ?_⟩
  cases hread : Statement.readAll fuel rest with
  | none => simp [hread]
  | some statements => simp [hread]

/-- Pieces one after the other: statements are taken in the order of the pieces, and the fuel that
the first one leaves is enough for the second. -/
theorem append {text more : List Char} {statements others : List Statement}
    (h : Spells text statements) (hmore : Spells more others) :
    Spells (text ++ more) (statements ++ others) := by
  intro rest fuel hfuel
  rw [List.append_assoc] at hfuel ⊢
  obtain ⟨mid, hmid, hfirst⟩ := h (more ++ rest) fuel hfuel
  obtain ⟨left, hleft, hsecond⟩ := hmore rest mid hmid
  refine ⟨left, hleft, ?_⟩
  rw [hfirst, hsecond, Option.map_map]
  congr 1
  funext last
  exact (List.append_assoc _ _ _).symm

/-- A line with nothing on it takes no statement. -/
theorem newline : Spells ['\n'] [] := by
  intro rest fuel hfuel
  obtain ⟨fuel, rfl⟩ : ∃ f, fuel = f + 1 := Nat.exists_eq_succ_of_ne_zero (by omega)
  refine ⟨fuel, by simpa using hfuel, ?_⟩
  show Statement.readAll fuel rest = _
  cases hread : Statement.readAll fuel rest with
  | none => rfl
  | some statements => rfl

/-- A line with a statement on it. The line break behind it is left by the statement's reader and
taken here, as no statement may follow on the same line. -/
theorem line {text : List Char} {statement : Statement} (htext : Solid text)
    (hread : ∀ rest, Statement.read (text ++ '\n' :: rest) = some (statement, '\n' :: rest)) :
    Spells (text ++ ['\n']) [statement] := by
  intro rest fuel hfuel
  obtain ⟨fuel, rfl⟩ : ∃ f, fuel = f + 1 := Nat.exists_eq_succ_of_ne_zero (by omega)
  have hsolid : Solid (text ++ '\n' :: rest) := htext.append _
  refine ⟨fuel, by simp at hfuel; omega, ?_⟩
  rw [List.append_assoc, List.singleton_append, Statement.readAll, hsolid.skipBlanks_eq]
  split
  · rename_i hnil
    exact absurd hnil hsolid.ne_nil
  · simp only [hsolid.endLine?_eq, hread rest, endLine?_newline, Option.bind_eq_bind,
      Option.bind_some]
    cases Statement.readAll fuel rest with
    | none => rfl
    | some statements => rfl

theorem header {name : String} (h : Bare name) :
    Spells ('[' :: name.toList ++ [']', '\n']) [.header ⟨[], name⟩] := by
  have hline : Spells (('[' :: name.toList ++ [']']) ++ ['\n']) [.header ⟨[], name⟩] := by
    apply line
    · exact Solid.cons (by decide) _
    · intro rest
      have hread := Statement.read_header h ('\n' :: rest)
      simpa using hread
  simpa using hline

theorem pair {key : String} (h : Bare key) {text : List Char} {v : Value} (htext : Solid text)
    (hvalue : ∀ rest, value (text ++ '\n' :: rest) = some (v, '\n' :: rest)) :
    Spells (key.toList ++ [' ', '=', ' '] ++ text ++ ['\n']) [.pair ⟨[], key⟩ v] := by
  apply line
  · rw [List.append_assoc]
    exact h.solid.append _
  · intro rest
    have hread := Statement.read_pair h htext (hvalue rest)
    simpa using hread

/-- The text of a whole document gives its statements, with the fuel that its length is. -/
theorem readAll {text : List Char} {statements : List Statement} (h : Spells text statements) :
    Statement.readAll (text.length + 1) text = some statements := by
  obtain ⟨left, hleft, hread⟩ := h [] (text.length + 1) (by simp)
  obtain ⟨left, rfl⟩ : ∃ f, left = f + 1 := Nat.exists_eq_succ_of_ne_zero (by omega)
  rw [List.append_nil] at hread
  rw [hread]
  show some (statements ++ []) = _
  rw [List.append_nil]

end Spells

/-! ### Sections -/

namespace Document

/-- A section: its name, and the values under its keys. -/
abbrev Section := String × Table

/-- The lines of some entries, one for each, in their order. -/
def pairs (entries : Table) : List Statement := entries.map fun e => .pair ⟨[], e.1⟩ e.2

def Section.statements (s : Section) : List Statement := .header ⟨[], s.1⟩ :: pairs s.2

/-- The table that a row of sections is: each name has the table of the section's entries. -/
def tableOf (sections : List Section) : Table :=
  sections.map fun s => (s.1, .table .header s.2)

/-- Looking up the entry that stands last, under a new key. -/
theorem lookup_concat {t : Table} {name : String} (h : name ∉ t.map Prod.fst) (v : Value) :
    (t ++ [(name, v)]).lookup name = some v := by
  rw [List.lookup_append, Metadata.lookup_eq_none_iff.mpr h, List.lookup_cons_self]
  rfl

/-- Replacing the entry that stands last, under a new key. Values of a section go into its table by
replacing that table. -/
theorem replace_concat {t : Table} {name : String} (h : name ∉ t.map Prod.fst) (v w : Value) :
    Table.replace (t ++ [(name, v)]) name w = t ++ [(name, w)] := by
  have hothers : ∀ e ∈ t, (if e.1 = name then (name, w) else e) = e := by
    intro e he
    have hne : e.1 ≠ name := fun heq => h (heq ▸ List.mem_map_of_mem he)
    exact if_neg hne
  unfold Table.replace
  rw [List.map_append, List.map_congr_left hothers, List.map_id', List.map_singleton, if_pos rfl]

/-- A header with a new name opens an empty table at the end, and the lines after it go there. -/
theorem step_header {t : Table} {name : String} (h : name ∉ t.map Prod.fst)
    (standing : List String) :
    step ⟨t, standing⟩ (.header ⟨[], name⟩) = some ⟨t ++ [(name, .table .header [])], [name]⟩ := by
  have hlookup : t.lookup name = none := Metadata.lookup_eq_none_iff.mpr h
  show (Table.open? t [] name).map _ = _
  unfold Table.open? Table.descend?
  rw [hlookup]
  rfl

/-- A value under a new key goes to the end of the section that stands last. A key that the section
has already would be refused. -/
theorem step_pair {t entries : Table} {name key : String} (h : name ∉ t.map Prod.fst)
    (hkey : key ∉ entries.map Prod.fst) (v : Value) :
    step ⟨t ++ [(name, .table .header entries)], [name]⟩ (.pair ⟨[], key⟩ v)
      = some ⟨t ++ [(name, .table .header (entries ++ [(key, v)]))], [name]⟩ := by
  have hinsert : Table.insert? entries [] key v = some (entries ++ [(key, v)]) := by
    unfold Table.insert? Table.descend?
    rw [Metadata.lookup_eq_none_iff.mpr hkey]
    simp
  show (Table.insertBelow? _ [name] [] key v).map _ = _
  unfold Table.insertBelow? Table.descend?
  rw [lookup_concat h]
  show ((Table.insert? entries [] key v).map _).map _ = _
  rw [hinsert]
  show some (Document.mk (Table.replace _ _ _) _) = _
  rw [replace_concat h]

/-- The values of a section go into its table one after the other. -/
theorem foldlM_pairs {t : Table} {name : String} (h : name ∉ t.map Prod.fst) (entries more : Table)
    (hkeys : ((entries ++ more).map Prod.fst).Nodup) :
    (pairs more).foldlM step ⟨t ++ [(name, .table .header entries)], [name]⟩
      = some ⟨t ++ [(name, .table .header (entries ++ more))], [name]⟩ := by
  induction more generalizing entries with
  | nil => rw [List.append_nil]; rfl
  | cons e more ih =>
      have hnew : e.1 ∉ entries.map Prod.fst := by
        rw [List.map_append, List.map_cons] at hkeys
        exact fun hmem => (List.nodup_append.mp hkeys).2.2 _ hmem _ List.mem_cons_self rfl
      have hpairs : pairs (e :: more) = .pair ⟨[], e.1⟩ e.2 :: pairs more := rfl
      rw [hpairs, List.foldlM_cons, step_pair h hnew]
      have hassoc : entries ++ e :: more = (entries ++ [e]) ++ more := by simp
      rw [hassoc] at hkeys ⊢
      exact ih (entries ++ [e]) hkeys

/-- One section from its header to its last line, wherever the document stood before. -/
theorem foldlM_section {t : Table} {s : Section} (h : s.1 ∉ t.map Prod.fst)
    (hkeys : (s.2.map Prod.fst).Nodup) (standing : List String) :
    s.statements.foldlM step ⟨t, standing⟩
      = some ⟨t ++ [(s.1, .table .header s.2)], [s.1]⟩ := by
  unfold Section.statements
  rw [List.foldlM_cons, step_header h]
  exact foldlM_pairs h [] s.2 hkeys

/-- All sections, by induction: each finds the ones before it in the table, and is none of them. -/
theorem foldlM_sections (sections : List Section) (t : Table) (standing : List String)
    (hnames : (t.map Prod.fst ++ sections.map Prod.fst).Nodup)
    (hkeys : ∀ s ∈ sections, (s.2.map Prod.fst).Nodup) :
    ∃ last, (sections.flatMap Section.statements).foldlM step ⟨t, standing⟩
      = some ⟨t ++ tableOf sections, last⟩ := by
  induction sections generalizing t standing with
  | nil => exact ⟨standing, by simp [tableOf]⟩
  | cons s sections ih =>
      obtain ⟨hfirst, hrest⟩ := List.forall_mem_cons.mp hkeys
      have hnew : s.1 ∉ t.map Prod.fst := fun hmem =>
        (List.nodup_append.mp hnames).2.2 _ hmem _ List.mem_cons_self rfl
      obtain ⟨last, hlast⟩ :=
        ih (t ++ [(s.1, .table .header s.2)]) [s.1] (by simpa using hnames) hrest
      refine ⟨last, ?_⟩
      rw [List.flatMap_cons, List.foldlM_append, foldlM_section hnew hfirst]
      show (sections.flatMap Section.statements).foldlM step _ = _
      rw [hlast]
      simp [tableOf]

/-- Sections with different names and different keys in each give the table that they are. This is
where the reader's demand that nothing is defined twice is met. -/
theorem ofStatements?_sections (sections : List Section)
    (hnames : (sections.map Prod.fst).Nodup) (hkeys : ∀ s ∈ sections, (s.2.map Prod.fst).Nodup) :
    ofStatements? (sections.flatMap Section.statements) = some (tableOf sections) := by
  obtain ⟨last, hlast⟩ := foldlM_sections sections [] [] (by simpa using hnames) hkeys
  unfold ofStatements? empty
  rw [hlast]
  rfl

/-- A document that spells such sections is read as their table. A byte order mark at its start
would be dropped, so the text must not start with one. -/
theorem read_of_spells {text : List Char} {sections : List Section}
    (h : Spells text (sections.flatMap Section.statements)) (hmark : text.head? ≠ some '\uFEFF')
    (hnames : (sections.map Prod.fst).Nodup) (hkeys : ∀ s ∈ sections, (s.2.map Prod.fst).Nodup) :
    read (String.ofList text) = some (tableOf sections) := by
  have hskip : skipMark text = text := by
    unfold skipMark
    split
    · exact absurd rfl hmark
    · rfl
  unfold read
  rw [String.toList_ofList, hskip]
  show (Statement.readAll (text.length + 1) text).bind ofStatements? = _
  rw [h.readAll]
  exact ofStatements?_sections sections hnames hkeys

end Document

end Toml

end PluginKit
