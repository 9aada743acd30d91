/-!
# `PluginKit.Proofs.Text.Lines`: what the lines of a text list

A text can list items, one on each line behind a fixed lead. `linesAfter` reads the items of one
lead and passes over all other lines. A line break is where the lines before it end and those after
it begin, and that is all there is to know of how a text is put together from lines.

* `linesAfter`: the items on the lines with a lead; `laterLinesAfter`: those behind the first line.
* `linesAfter_append_break`: a text with a line break, in parts.
* `linesAfter_items`: what was listed is read.
-/

set_option autoImplicit false

namespace PluginKit

namespace Text

/-- What follows the lead on a line that has it. -/
def after? (lead : String) (line : List Char) : Option String :=
  if lead.toList.isPrefixOf line then some (String.ofList (line.drop lead.toList.length)) else none

/-- What follows the lead on the lines that have it. It reads a text as a person does who looks for
lines of one kind. -/
def linesAfter (lead text : String) : List String :=
  (text.toList.splitOn '\n').filterMap (after? lead)

/-- The same for the lines behind the first. A text that is printed where one line was meant brings
them along: its first line ends the line that was begun, and the others stand alone. -/
def laterLinesAfter (lead text : String) : List String :=
  (text.toList.splitOn '\n').tail.filterMap (after? lead)

variable {lead : String}

/-- A line that was made of the lead and an item lists that item. -/
theorem after?_append (lead item : String) : after? lead (lead ++ item).toList = some item := by
  simp [after?]

/-- There is nothing on no lines, unless the lead is empty and so on every line. -/
theorem linesAfter_empty (h : lead ≠ "") : linesAfter lead "" = [] := by
  have hlead : lead.toList.isPrefixOf [] = false := by
    cases hchars : lead.toList with
    | nil => exact absurd (String.toList_eq_nil_iff.mp hchars) h
    | cons => rfl
  simp [linesAfter, after?, hlead]

/-- Whether two texts differ in their first characters. -/
def startsApart (a b : String) : Bool :=
  match a.toList, b.toList with
  | c :: _, d :: _ => c != d
  | _, _ => false

/-- A line that starts otherwise than the lead does not have it. -/
theorem after?_of_startsApart {head : String} (h : startsApart lead head) (line : String) :
    after? lead (head ++ line).toList = none := by
  unfold startsApart at h
  split at h
  · rename_i c _ d _ hlead hhead
    have hne : c ≠ d := by simpa using h
    simp [after?, hlead, hhead, hne]
  · cases h

/-- The lines of a text before a line break, and those after it. All else about lines follows from
this. -/
theorem linesAfter_append_break (first rest : String) :
    linesAfter lead (first ++ "\n" ++ rest) = linesAfter lead first ++ linesAfter lead rest := by
  have hbreak : (first ++ "\n" ++ rest).toList = first.toList ++ '\n' :: rest.toList := by simp
  simp only [linesAfter, hbreak, List.splitOn_eq_splitOnP]
  rw [List.splitOnP_append_cons _ _ (by decide), List.filterMap_append]

/-- A text without a line break is one line. -/
theorem linesAfter_of_notMem {line : String} (h : '\n' ∉ line.toList) :
    linesAfter lead line = (after? lead line.toList).toList := by
  rw [linesAfter, List.splitOn_eq_singleton h]
  cases hafter : after? lead line.toList <;> simp [hafter]

/-- A line with another beginning lists nothing. It must be one line: what it brings along behind a
line break could list something. -/
theorem linesAfter_other {head line : String} (h : startsApart lead head)
    (hline : '\n' ∉ (head ++ line).toList) (rest : String) :
    linesAfter lead (head ++ line ++ "\n" ++ rest) = linesAfter lead rest := by
  rw [linesAfter_append_break, linesAfter_of_notMem hline, after?_of_startsApart h]
  rfl

/-- A text without a line break has no later lines. -/
theorem laterLinesAfter_of_notMem {text : String} (h : '\n' ∉ text.toList) :
    laterLinesAfter lead text = [] := by
  rw [laterLinesAfter, List.splitOn_eq_singleton h]
  rfl

/-- Behind the first line break stand the later lines. -/
theorem laterLinesAfter_append_break {first : String} (h : '\n' ∉ first.toList) (rest : String) :
    laterLinesAfter lead (first ++ "\n" ++ rest) = linesAfter lead rest := by
  have hbreak : (first ++ "\n" ++ rest).toList = first.toList ++ '\n' :: rest.toList := by simp
  have hfirst : first.toList.splitOnP (· == '\n') = [first.toList] := by
    rw [← List.splitOn_eq_splitOnP, List.splitOn_eq_singleton h]
  simp only [laterLinesAfter, linesAfter, hbreak, List.splitOn_eq_splitOnP]
  rw [List.splitOnP_append_cons _ _ (by decide), hfirst]
  rfl

/-- A text with a line break, cut at the first one. -/
theorem exists_eq_append_break {text : String} (h : '\n' ∈ text.toList) :
    ∃ first rest : String, '\n' ∉ first.toList ∧ text = first ++ "\n" ++ rest := by
  obtain ⟨first, rest, htext, hfirst⟩ := List.eq_append_cons_of_mem h
  refine ⟨String.ofList first, String.ofList rest, by simpa using hfirst, ?_⟩
  apply String.toList_injective
  simp [htext]

/-- A text behind a beginning that differs from the lead: whatever the text is, only its later lines
can list anything. -/
theorem linesAfter_behind {head : String} (h : startsApart lead head) (hhead : '\n' ∉ head.toList)
    (text rest : String) :
    linesAfter lead (head ++ text ++ "\n" ++ rest)
      = laterLinesAfter lead text ++ linesAfter lead rest := by
  by_cases hbreak : '\n' ∈ text.toList
  · -- the first line of the text ends the line that the head begins
    obtain ⟨first, later, hfirst, rfl⟩ := exists_eq_append_break hbreak
    have hline : '\n' ∉ (head ++ first).toList := by simp [hhead, hfirst]
    rw [laterLinesAfter_append_break hfirst, ← linesAfter_append_break]
    have hcut := linesAfter_other h hline (later ++ "\n" ++ rest)
    simpa only [String.append_assoc] using hcut
  · have hline : '\n' ∉ (head ++ text).toList := by simp [hhead, hbreak]
    rw [linesAfter_other h hline, laterLinesAfter_of_notMem hbreak]
    rfl

/-- The items that are listed line by line are read, in their order. -/
theorem linesAfter_items (hlead : '\n' ∉ lead.toList) (rest : String) {items : List String}
    (hitems : ∀ item ∈ items, '\n' ∉ item.toList) :
    linesAfter lead (String.join (items.map fun item => lead ++ item ++ "\n") ++ rest)
      = items ++ linesAfter lead rest := by
  induction items with
  | nil => simp
  | cons item others ih =>
      obtain ⟨hitem, hothers⟩ := List.forall_mem_cons.mp hitems
      have hline : '\n' ∉ (lead ++ item).toList := by simp [hlead, hitem]
      rw [List.map_cons, String.join_cons, String.append_assoc, linesAfter_append_break,
        linesAfter_of_notMem hline, after?_append, ih hothers]
      rfl

end Text

end PluginKit
