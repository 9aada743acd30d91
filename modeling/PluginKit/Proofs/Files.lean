import PluginKit.Files
import PluginKit.Proofs.Metadata

/-!
# `PluginKit.Proofs.Files`: what is written to a file is read from it

A path may go up and down before it comes to its file. Writing the file changes what is under its
names and nothing else; and a path to a file goes through directories only, so it does not pass the
file before its end and leads there as before.

A tree keeps its nodes in a list, where the first one with a row of names counts. Writing takes all
nodes with the names of the file away and puts the new one last, so there is exactly one afterwards.

* `look_put`: what is under some names after a text was put under others.
* `walk_put`: a path that leads to a file, or to where one can be, still leads there.
* `read_of_write`: what was written is read.
-/

set_option autoImplicit false

namespace PluginKit

namespace FileTree

/-- The nodes with one row of names can be taken away without any other being missed. `FileTree.put`
begins with this, and here is why it changes nothing elsewhere. -/
theorem lookup_filter_of_ne {names other : List String} (h : other ≠ names)
    (nodes : List (List String × Option String)) :
    (nodes.filter fun n => n.1 ≠ names).lookup other = nodes.lookup other := by
  induction nodes with
  | nil => rfl
  | cons n nodes ih =>
      by_cases hn : n.1 = names
      · have hskip : other ≠ n.1 := fun heq => h (heq.trans hn)
        rw [List.filter_cons_of_neg (by simpa using hn), ih, Metadata.lookup_cons_of_ne hskip]
      · rw [List.filter_cons_of_pos (by simpa using hn), List.lookup_cons, List.lookup_cons, ih]

/-- What is under some names after a text was put under others: the text under its own names, and
what there was under all others. The top has no names and is always a directory, so nothing can be
put there. -/
theorem look_put (t : FileTree) {names : List String} (hnames : names ≠ []) (text : String)
    (other : List String) :
    (t.put names (some text)).look other
      = if other = names then .file names text else t.look other := by
  -- What was there under the path is filtered out first, else it would be found before the text.
  have hothers : (t.nodes.filter fun n => n.1 ≠ names).lookup names = none := by
    rw [Metadata.lookup_eq_none_iff]
    intro hmem
    obtain ⟨n, hn, hname⟩ := List.mem_map.mp hmem
    simpa [hname] using (List.mem_filter.mp hn).2
  have hlookup : (t.put names (some text)).nodes.lookup other
      = if other = names then some (some text) else t.nodes.lookup other := by
    show ((t.nodes.filter fun n => n.1 ≠ names) ++ [(names, some text)]).lookup other = _
    rw [List.lookup_append]
    by_cases hother : other = names
    · subst hother
      rw [hothers, List.lookup_cons_self, if_pos rfl]
      rfl
    · rw [lookup_filter_of_ne hother, Metadata.lookup_cons_of_ne hother, if_neg hother]
      exact Option.or_none
  unfold look
  rw [hlookup]
  by_cases hother : other = names
  · subst hother
    rw [if_pos rfl, if_pos rfl, if_neg (by simpa using hnames)]
  · rw [if_neg hother, if_neg hother]

/-- What is under a row of names is a directory, a file or nothing, and it is known by these names.
`look` never ends in an error; errors come from going on behind a file or behind nothing. -/
theorem look_cases (t : FileTree) (names : List String) :
    t.look names = .directory names ∨ (∃ text, t.look names = .file names text) ∨
      t.look names = .free names := by
  unfold look
  split
  · rename_i h
    exact .inl (by rw [List.isEmpty_iff.mp h])
  · split
    · exact .inl rfl
    · rename_i text _
      exact .inr (.inl ⟨text, rfl⟩)
    · exact .inr (.inr rfl)

/-- Where a path ends that a file can be written to: at a file, or where there is nothing. -/
def Target.IsPlace (names : List String) : Target → Prop
  | .file ns _ => ns = names
  | .free ns => ns = names
  | _ => False

/-- A path goes on only from directories. So a walk that ends at a place and has come to a file, or
to nothing, has no parts left and is at that place already. -/
theorem walk_place {t : FileTree} {target : Target} {parts names place : List String}
    (htarget : target.IsPlace place) (h : (t.walk target parts).IsPlace names) :
    parts = [] ∧ place = names := by
  cases target with
  | directory dir => exact absurd htarget id
  | error e => exact absurd htarget id
  | file ns text =>
      cases parts with
      | nil => exact ⟨rfl, htarget.symm.trans h⟩
      | cons part rest => exact absurd h id
  | free ns =>
      cases parts with
      | nil => exact ⟨rfl, htarget.symm.trans h⟩
      | cons part rest => exact absurd h id

/-- A path to a place leads to the text that is put there. On the way it passes directories, none of
which is the place. -/
theorem walk_put (t : FileTree) (names : List String) (text : String) (parts dir : List String)
    (h : (t.walk (.directory dir) parts).IsPlace names) :
    (names ≠ [] ∧ (t.look names).IsPlace names) ∧
      (t.put names (some text)).walk (.directory dir) parts = .file names text := by
  -- the walk stands in a directory as long as parts are left, so the induction is on the parts
  induction parts generalizing dir with
  | nil => exact absurd h id
  | cons part rest ih =>
      rw [walk] at h ⊢
      -- an empty part and a dot stay, two dots go up, and any other part goes down
      by_cases hstep : (!Path.isStep part) = true
      · rw [if_pos hstep] at h ⊢
        exact ih dir h
      · rw [if_neg hstep] at h ⊢
        by_cases hup : part = ".."
        · rw [if_pos hup] at h ⊢
          exact ih dir.dropLast h
        · rw [if_neg hup] at h ⊢
          -- where the walk ends, whether there was a file before or nothing
          have hend : (t.look (dir ++ [part])).IsPlace (dir ++ [part]) →
              (names ≠ [] ∧ (t.look names).IsPlace names) ∧
                (t.put names (some text)).walk
                  ((t.put names (some text)).look (dir ++ [part])) rest = .file names text := by
            intro hplace
            obtain ⟨rfl, rfl⟩ := walk_place hplace h
            have hnames : dir ++ [part] ≠ [] := by simp
            refine ⟨⟨hnames, hplace⟩, ?_⟩
            rw [look_put t hnames, if_pos rfl]
            rfl
          rcases t.look_cases (dir ++ [part]) with hlook | ⟨old, hlook⟩ | hlook
          · -- a directory is passed: it is not the place, and the text that is put changes it not
            rw [hlook] at h
            obtain ⟨hplace, hwalk⟩ := ih (dir ++ [part]) h
            have hother : dir ++ [part] ≠ names := by
              rintro rfl
              rw [hlook] at hplace
              exact hplace.2
            refine ⟨hplace, ?_⟩
            rw [look_put t hplace.1, if_neg hother, hlook]
            exact hwalk
          · exact hend (by rw [hlook]; rfl)
          · exact hend (by rw [hlook]; rfl)

/-- A path that does not end in a slash has none to lose. Only such a path can be written to, so
writing and reading resolve the same path. -/
theorem withoutSlash_eq {path : String} (h : path.toList.getLast? ≠ some '/') :
    withoutSlash path = path := by
  unfold withoutSlash
  split
  · rfl
  · have hdrop : path.toList.reverse.dropWhile (· == '/') = path.toList.reverse := by
      rw [← List.head?_reverse] at h
      cases hrev : path.toList.reverse with
      | nil => rfl
      | cons c cs =>
          rw [hrev] at h
          have hc : c ≠ '/' := fun heq => h (congrArg some heq)
          exact List.dropWhile_cons_of_neg (by simpa using hc)
    rw [hdrop, List.reverse_reverse, String.ofList_toList]

/-- The same from the top, for a path as it is given. An empty path leads nowhere, and an absolute
one only to the root, which is a directory; what is left is the walk. -/
theorem resolve_put {t : FileTree} {path : String} {names : List String}
    (h : (t.resolve path).IsPlace names) (text : String) :
    (t.put names (some text)).resolve path = .file names text := by
  unfold resolve at h ⊢
  split at h
  · exact absurd h id
  · rename_i hempty
    rw [if_neg hempty]
    split at h
    · split at h
      · exact absurd h id
      · exact absurd h id
    · rename_i habsolute
      rw [if_neg habsolute]
      exact (walk_put t names text _ [] h).2

/-- What was written is read, by the path that it was written to. Writing succeeds only at a file or
where there is nothing, and both are places that the path still leads to. -/
theorem read_of_write {t after : FileTree} {path text : String}
    (h : t.write path text = .ok after) : after.read path = .ok text := by
  have hput : ∃ names, (t.resolve path).IsPlace names ∧ after = t.put names (some text) := by
    unfold write at h
    by_cases hslash : path.toList.getLast? = some '/'
    · -- with a slash at its end a path is for a directory, and every way through is an error
      have hbeq : (path.toList.getLast? == some '/') = true := by simpa using hslash
      rw [hbeq] at h
      split at h
      all_goals exact absurd h (by simp)
    · have hbeq : (path.toList.getLast? == some '/') = false := by simpa using hslash
      rw [withoutSlash_eq hslash, hbeq] at h
      split at h
      · exact absurd h (by simp)
      · exact absurd h (by simp)
      · rename_i names old hresolve
        exact ⟨names, by rw [hresolve]; rfl, (Except.ok.inj h).symm⟩
      · rename_i names hresolve
        exact ⟨names, by rw [hresolve]; rfl, (Except.ok.inj h).symm⟩
  obtain ⟨names, hplace, rfl⟩ := hput
  unfold read
  rw [resolve_put hplace]

end FileTree

end PluginKit
