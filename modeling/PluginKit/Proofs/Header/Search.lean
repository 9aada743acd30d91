import PluginKit.Header.Layout
import PluginKit.Proofs.Steps

/-!
# `PluginKit.Proofs.Header.Search`: which paths a search for headers looks at

A header is looked for below one root after another, and the search goes on to the next header when
it is found. So a search asks about the paths in the order of the headers and, for each of them, of
the roots; it stops at the first header that is nowhere. `noting` is a file system that writes down
what it is asked.

* `candidates`, `home?`: where a header may be, and where it is found.
* `locateIn_run`, `locateAll_run`: the answer and the questions of a search.
* `Earliest`: the path below the first root that has a header.
* `found_eq_ok_iff`, `exists_found_eq_ok_iff`, `found_eq_error_iff`: the answer, by the roots.
-/

set_option autoImplicit false

namespace PluginKit

namespace Header.Layout

/-- Answers by what is there, and notes every path that it is asked about. What is there does not
change while a search goes on. -/
def noting (isFile : String → Bool) (path : String) : StateM (List String) Bool := do
  modify (· ++ [path])
  return isFile path

/-- The paths that a header may have, in the order of the roots. -/
def candidates (roots : List String) (header : String) : List String :=
  roots.map (Path.join · header)

/-- The path under the first root that has the header. -/
def home? (isFile : String → Bool) (roots : List String) (header : String) : Option String :=
  (candidates roots header).find? isFile

/-- Whether no root has the header. -/
def isMissing (isFile : String → Bool) (roots : List String) (header : String) : Bool :=
  (home? isFile roots header).isNone

variable {isFile : String → Bool} {roots : List String}

/-- A question adds its path to those before and gets the answer of what is there. -/
theorem noting_run (path : String) (asked : List String) :
    (noting isFile path).run asked = (isFile path, asked ++ [path]) := rfl

/-- The search for one header asks about its paths up to the first that is a file. Roots behind the
one that has it are not asked about. -/
theorem locateIn_run (header : String) (roots asked : List String) :
    (locateIn (noting isFile) header roots).run asked
      = (home? isFile roots header, asked ++ upToFirst isFile (candidates roots header)) := by
  induction roots generalizing asked with
  | nil =>
      simp only [locateIn, home?, candidates, List.map_nil, upToFirst_nil, List.append_nil]
      rfl
  | cons root rest ih =>
      rw [locateIn, StateT.run_bind, noting_run]
      show (if isFile (Path.join root header) then pure (some (Path.join root header))
        else locateIn (noting isFile) header rest : StateM (List String) _).run _ = _
      have hsplit : candidates (root :: rest) header
          = Path.join root header :: candidates rest header := rfl
      -- the path below this root has been asked for, whatever the answer
      cases hfile : isFile (Path.join root header) with
      | true =>
          rw [if_pos rfl, home?, hsplit, List.find?_cons_of_pos hfile, upToFirst_cons_of_pos hfile]
          rfl
      | false =>
          have hskip : ¬ isFile (Path.join root header) = true := by simp [hfile]
          rw [if_neg (by decide), ih, home?, home?, hsplit, List.find?_cons_of_neg hskip,
            upToFirst_cons_of_neg hfile, List.append_assoc]
          rfl

/-- What comes of a search: the first header that no root has, or a path for every header. It is
said without the search, as a lookup in all roots. -/
def found (isFile : String → Bool) (roots headers : List String) : Except Missing (List String) :=
  match headers.find? (isMissing isFile roots) with
  | some header => .error ⟨header, roots⟩
  | none => .ok (headers.filterMap (home? isFile roots))

/-- Behind a header that is found the search goes on. -/
theorem found_cons_of_some {header hit : String} (hhome : home? isFile roots header = some hit)
    (rest : List String) :
    found isFile roots (header :: rest) = (hit :: ·) <$> found isFile roots rest := by
  have hskip : ¬ isMissing isFile roots header = true := by simp [isMissing, hhome]
  rw [found, found, List.find?_cons_of_neg hskip, List.filterMap_cons_some hhome]
  cases rest.find? (isMissing isFile roots) <;> rfl

/-- A header that is nowhere ends the search. -/
theorem found_cons_of_none {header : String} (hhome : home? isFile roots header = none)
    (rest : List String) : found isFile roots (header :: rest) = .error ⟨header, roots⟩ := by
  have hmissing : isMissing isFile roots header = true := by simp [isMissing, hhome]
  rw [found, List.find?_cons_of_pos hmissing]

/-- A search asks for the headers in their order, up to the first that no root has. The induction is
on the headers, from whatever was asked before. -/
theorem locateAll_run (headers asked : List String) :
    (locateAll (noting isFile) roots headers).run asked
      = (found isFile roots headers,
        asked ++ (upToFirst (isMissing isFile roots) headers).flatMap fun header =>
          upToFirst isFile (candidates roots header)) := by
  induction headers generalizing asked with
  | nil =>
      simp only [locateAll, found, upToFirst_nil, List.flatMap_nil, List.append_nil]
      rfl
  | cons header rest ih =>
      rw [locateAll, StateT.run_bind, locateIn_run]
      cases hhome : home? isFile roots header with
      | none =>
          have hmissing : isMissing isFile roots header = true := by simp [isMissing, hhome]
          rw [found_cons_of_none hhome, upToFirst_cons_of_pos hmissing, List.flatMap_singleton]
          rfl
      | some hit =>
          have hthere : isMissing isFile roots header = false := by simp [isMissing, hhome]
          rw [found_cons_of_some hhome, upToFirst_cons_of_neg hthere, List.flatMap_cons,
            ← List.append_assoc]
          -- the rest of the search starts from what has been asked for this header
          show ((hit :: ·) <$> ((locateAll (noting isFile) roots rest).run _).1,
            ((locateAll (noting isFile) roots rest).run _).2) = _
          rw [ih]

/-! ### The first root wins -/

/-- The path of a header below the earliest root that has it. A later root may have it as well. -/
def Earliest (isFile : String → Bool) (roots : List String) (header path : String) : Prop :=
  ∃ before root after, roots = before ++ root :: after ∧ path = Path.join root header ∧
    isFile path = true ∧ ∀ earlier ∈ before, isFile (Path.join earlier header) = false

/-- The first hit among the paths of a header is the one below the earliest root. -/
theorem home?_eq_some_iff {header path : String} :
    home? isFile roots header = some path ↔ Earliest isFile roots header path := by
  unfold home? candidates
  rw [List.find?_map, Option.map_eq_some_iff]
  simp only [List.find?_eq_some_iff_append, Function.comp_apply, Bool.not_eq_true']
  constructor
  · rintro ⟨root, ⟨hfile, before, after, hroots, hbefore⟩, rfl⟩
    exact ⟨before, root, after, hroots, rfl, hfile, hbefore⟩
  · rintro ⟨before, root, after, hroots, rfl, hfile, hbefore⟩
    exact ⟨root, ⟨hfile, before, after, hroots, hbefore⟩, rfl⟩

/-- A header is missing if no root has it. -/
theorem isMissing_eq_true_iff {header : String} :
    isMissing isFile roots header = true ↔
      ∀ root ∈ roots, isFile (Path.join root header) = false := by
  simp [isMissing, home?, candidates]

theorem isMissing_eq_false_iff {header : String} :
    isMissing isFile roots header = false ↔
      ∃ root ∈ roots, isFile (Path.join root header) = true := by
  simp [isMissing, home?, candidates]

/-- A search succeeds with the earliest path of every header. -/
theorem found_eq_ok_iff {headers paths : List String} :
    found isFile roots headers = .ok paths ↔
      List.Forall₂ (Earliest isFile roots) headers paths := by
  -- On the headers, as the search goes: the first that is nowhere ends it.
  induction headers generalizing paths with
  | nil =>
      rw [List.forall₂_nil_left_iff, eq_comm]
      exact ⟨Except.ok.inj, congrArg Except.ok⟩
  | cons header rest ih =>
      rw [List.forall₂_cons_left_iff]
      simp only [← home?_eq_some_iff]
      cases hhome : home? isFile roots header with
      | none =>
          rw [found_cons_of_none hhome]
          exact ⟨nofun, nofun⟩
      | some hit =>
          rw [found_cons_of_some hhome]
          constructor
          · intro h
            obtain ⟨others, hothers, rfl⟩ := map_eq_ok h
            exact ⟨hit, others, rfl, ih.mp hothers, rfl⟩
          · rintro ⟨path, others, hpath, hothers, rfl⟩
            obtain rfl := Option.some.inj hpath
            rw [ih.mpr hothers]
            rfl

/-- A search that succeeds is one for headers that are all somewhere. -/
theorem exists_found_eq_ok_iff {headers : List String} :
    (∃ paths, found isFile roots headers = .ok paths) ↔
      ∀ header ∈ headers, ∃ root ∈ roots, isFile (Path.join root header) = true := by
  simp only [← isMissing_eq_false_iff]
  unfold found
  cases hfind : headers.find? (isMissing isFile roots) with
  | none => simpa using List.find?_eq_none.mp hfind
  | some header =>
      refine iff_of_false (fun ⟨_, h⟩ => nomatch h) fun hthere => ?_
      have hmissing := List.find?_some hfind
      rw [hthere header (List.mem_of_find?_eq_some hfind)] at hmissing
      cases hmissing

/-- A search that fails names the first header that is nowhere, and all roots. Headers behind it may
be missing, too, and are not named. -/
theorem found_eq_error_iff {headers : List String} {missing : Missing} :
    found isFile roots headers = .error missing ↔ missing.searched = roots ∧
      ∃ before after, headers = before ++ missing.header :: after ∧
        (∀ root ∈ roots, isFile (Path.join root missing.header) = false) ∧
        ∀ header ∈ before, ∃ root ∈ roots, isFile (Path.join root header) = true := by
  -- The search stops at the first header that is nowhere, and `find?` says what is before it.
  have hfirst : found isFile roots headers = .error missing ↔
      missing.searched = roots ∧ headers.find? (isMissing isFile roots) = some missing.header := by
    unfold found
    cases headers.find? (isMissing isFile roots) with
    | none => simp
    | some header =>
        obtain ⟨name, searched⟩ := missing
        simp [and_comm, eq_comm]
  simp only [hfirst, List.find?_eq_some_iff_append, isMissing_eq_true_iff, Bool.not_eq_true',
    isMissing_eq_false_iff]
  refine and_congr_right fun _ => ?_
  constructor
  · rintro ⟨hnowhere, before, after, hheaders, hbefore⟩
    exact ⟨before, after, hheaders, hnowhere, hbefore⟩
  · rintro ⟨before, after, hheaders, hnowhere, hbefore⟩
    exact ⟨hnowhere, before, after, hheaders, hbefore⟩

end Header.Layout

end PluginKit
