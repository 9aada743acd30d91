import PluginKit.Proofs.Graphite.Line
import PluginKit.Proofs.ValueList.Rates

/-!
# `PluginKit.Proofs.Graphite.Paths`: a source keeps its path

Whether the name of a source is a component of its path depends on how many sources the list has.
They are counted after rates have taken the place of values and before what cannot be stored is left
out, and rates neither add a source nor rename one. A path therefore comes from the prefix, from what
identifies the list, and from the names of its sources, and two payloads that have these in common
have the same path for the same source, with whatever values and rates, and at whatever time.

* `linesOf`, `lineOf`, `Charts`: a payload read by the places of its sources.
* `sourceComponents`, `sourcePaths`: the paths of a list, without its values.
* `names_available`: rates keep the names.
* `payloads_share_paths`: two payloads for lists with the same names.
-/

set_option autoImplicit false

namespace PluginKit

namespace Graphite

open Text (isBlank)

/-! ### Reading by places -/

/-- The lines of a payload, without the newlines that end them. What is behind the last newline is
no line, and it is empty. -/
def linesOf (payload : String) : List (List Char) := (payload.toList.splitOn '\n').dropLast

/-- The line for the source at a place: the one behind the lines of the sources before it, each of
which has one if its value can be stored. -/
def lineOf (reports : List Report) (payload : String) (place : Nat) : Option (List Char) :=
  (linesOf payload)[(reports.take place).countP fun r => storable r.value]?

/-- A payload has one line for each report that can be stored and no other, and the first field of a
line is the path at the place of its report. The paths are given for all places, so that two
payloads can be compared of which different lines are left out. -/
structure Charts (paths : List (List Char)) (time : Nat) (reports : List Report)
    (payload : String) : Prop where
  lines : (linesOf payload).length = reports.countP fun r => storable r.value
  places : paths.length = reports.length
  line : ∀ (place : Nat) (r : Report), reports[place]? = some r → storable r.value = true →
    ∃ path text, paths[place]? = some path ∧ lineOf reports payload place = some text ∧
      text.splitOnP isBlank = [path, r.value.text.toList, (toString time).toList]

/-- What ends at newlines comes apart at them, with an empty piece at the end. -/
theorem splitOn_flatMap_newline {lines : List (List Char)} (h : ∀ line ∈ lines, '\n' ∉ line) :
    (lines.flatMap (· ++ ['\n'])).splitOn '\n' = lines ++ [[]] := by
  induction lines with
  | nil => rfl
  | cons line rest ih =>
      obtain ⟨hline, hrest⟩ := List.forall_mem_cons.mp h
      have hsolid : ∀ c ∈ line, (c == '\n') = false := by
        intro c hc
        simpa using fun heq : c = '\n' => hline (heq ▸ hc)
      rw [List.flatMap_cons, List.append_assoc, List.singleton_append, List.splitOn_eq_splitOnP,
        List.splitOnP_append_cons_of_forall_mem hsolid _ (by decide), ← List.splitOn_eq_splitOnP,
        ih hrest, List.cons_append]

/-- An element that a filter keeps comes behind those that it has kept before. -/
theorem getElem?_filter {α : Type} {p : α → Bool} {l : List α} {i : Nat} {a : α}
    (h : l[i]? = some a) (ha : p a = true) : (l.filter p)[(l.take i).countP p]? = some a := by
  obtain ⟨hi, rfl⟩ := List.getElem?_eq_some_iff.mp h
  have hparts : l.filter p = (l.take i).filter p ++ l[i] :: (l.drop (i + 1)).filter p := by
    rw [← List.filter_cons_of_pos ha, List.getElem_cons_drop hi, ← List.filter_append,
      List.take_append_drop]
  rw [hparts, List.countP_eq_length_filter, List.getElem?_append_right (Nat.le_refl _),
    Nat.sub_self]
  rfl

/-! ### Paths without values -/

/-- The components of the path of a source in a list that has a number of them. Values and time do
not occur in it. -/
def sourceComponents (configured : String) (id : Identity) (count : Nat) (name : String) :
    List String :=
  rootComponents configured ++ (id.components ++ if 1 < count then [sanitize name] else [])

/-- The paths of the sources of a list, place by place, whether or not a source has a line. -/
def sourcePaths (configured : String) (id : Identity) (names : List String) : List (List Char) :=
  names.map fun name => (".".intercalate (sourceComponents configured id names.length name)).toList

/-- The components of a report's path depend on its name alone. -/
theorem components_eq_sourceComponents (configured : String) (id : Identity) (count : Nat)
    (r : Report) :
    components configured id (1 < count) r = sourceComponents configured id count r.name := by
  simp [components, sourceComponents]

/-- The paths come apart at their dots into their components, as those of reports do. -/
theorem splitOn_sourcePaths (configured : String) (id : Identity) (reports : List Report) :
    (sourcePaths configured id (reports.map Report.name)).map (·.splitOn '.')
      = reports.map fun r =>
          (sourceComponents configured id reports.length r.name).map String.toList := by
  unfold sourcePaths
  rw [List.map_map, List.map_map, List.length_map]
  apply List.map_congr_left
  intro r _
  have hsplit := splitOn_reportPath configured id (1 < reports.length) r
  rwa [reportPath_eq, components_eq_sourceComponents] at hsplit

/-! ### Payloads -/

variable {abi : Abi}

/-- The lines of a payload are those of the reports that can be stored, in their order. -/
theorem linesOf_payload (configured : String) (l : ValueList) (reports : List Report) :
    linesOf (payload configured l reports)
      = (reports.filter fun r => storable r.value).map fun r =>
          (lineText (pathRoot configured) (Identity.ofList l) (1 < reports.length) l.time
            r).toList := by
  unfold linesOf payload
  rw [formatLines_toList, splitOn_flatMap_newline, List.dropLast_concat]
  intro line hline
  obtain ⟨r, -, rfl⟩ := List.mem_map.mp hline
  exact (prints_lineText configured (Identity.ofList l) _ l.time r).oneLine

/-- A line has the path of its report, the value and the time, as its three fields. -/
theorem fields_lineText (configured : String) (id : Identity) (several : Bool) (time : Instant)
    (r : Report) :
    (lineText (pathRoot configured) id several time r).toList.splitOnP isBlank
      = [(".".intercalate (components configured id several r)).toList, r.value.text.toList,
          (toString (seconds time)).toList] := by
  obtain ⟨path, hpath, hfields⟩ := (prints_lineText configured id several time r).fields
  -- only one path comes apart into these components
  have hwhole : path = (".".intercalate (components configured id several r)).toList := by
    rw [String.toList_intercalate, ← hpath]
    exact (List.intercalate_splitOn '.').symm
  rw [hfields, hwhole]

/-- A payload has the paths that come from the prefix, the list and the names. -/
theorem charts_payload (configured : String) (l : ValueList) (reports : List Report) :
    Charts (sourcePaths configured (Identity.ofList l) (reports.map Report.name)) (seconds l.time)
      reports (payload configured l reports) where
  lines := by
    rw [linesOf_payload, List.length_map, List.countP_eq_length_filter]
  places := by
    unfold sourcePaths
    rw [List.length_map, List.length_map]
  line := by
    intro place r hr hstored
    refine ⟨_, _, ?_, ?_,
      fields_lineText configured (Identity.ofList l) (1 < reports.length) l.time r⟩
    · unfold sourcePaths
      rw [List.getElem?_map, List.getElem?_map, hr, List.length_map,
        components_eq_sourceComponents]
      rfl
    · unfold lineOf
      rw [linesOf_payload, List.getElem?_map, getElem?_filter hr hstored]
      rfl

/-- Values and rates have the same names, place by place. Rates are as many as the values, whatever
the daemon's cache holds. -/
theorem names_available {set : DataSet abi} {list : RawList abi} {l : ValueList}
    (decoded : ValueList.ofRaw set list = .ok l) {storeRates : Bool} {d : Daemon abi}
    {reports : List Report}
    (available : (if storeRates then l.rates d else some l.values) = some reports) :
    reports.map Report.name = l.values.map Report.name := by
  cases storeRates with
  | false => rw [← Option.some.inj available]
  | true =>
      -- a decoded list has as many rates as values, and each rate has the name of its value
      have hroom := ValueList.length_values_le_declared (ValueList.ofRaw_eq_ok_iff.mp decoded)
      obtain ⟨hlength, hplace⟩ := ValueList.rates_at available hroom
      apply List.ext_getElem?
      intro i
      rw [List.getElem?_map, List.getElem?_map]
      cases hr : l.values[i]? with
      | none =>
          have hpast := List.getElem?_eq_none_iff.mp hr
          rw [List.getElem?_eq_none (hlength ▸ hpast)]
      | some r =>
          obtain ⟨r', hr', hreplaces⟩ := hplace i r hr
          rw [hr']
          exact congrArg some hreplaces.name

/-- Two decoded lists with the same host, plugin, type and instances and the same names, under one
prefix. Whatever their values and times are and whether values or rates are stored, what is sent for
them has the same path for the source at a place in every payload that has a line for it. The
components of that path are those of the prefix, of the list and of the name, and which other values
can be stored has no part in them. -/
theorem payloads_share_paths {set set' : DataSet abi} {list list' : RawList abi} {l l' : ValueList}
    (decoded : ValueList.ofRaw set list = .ok l) (decoded' : ValueList.ofRaw set' list' = .ok l')
    (identity : Identity.ofList l = Identity.ofList l')
    (names : l.values.map Report.name = l'.values.map Report.name)
    (configured : String) (storeRates storeRates' : Bool) (index index' : Nat)
    (w w' : World abi Nodes) {reports reports' : List Report}
    (available : (if storeRates then l.rates w.daemon else some l.values) = some reports)
    (available' : (if storeRates' then l'.rates w'.daemon else some l'.values) = some reports') :
    ((writeList index (pathRoot configured) storeRates l).run.run w
        = (if (payload configured l reports).isEmpty then pure ()
          else send index (payload configured l reports) : Code abi Nodes Unit).run.run w ∧
      (writeList index' (pathRoot configured) storeRates' l').run.run w'
        = (if (payload configured l' reports').isEmpty then pure ()
          else send index' (payload configured l' reports') : Code abi Nodes Unit).run.run w') ∧
    ∃ paths : List (List Char),
      Charts paths (seconds l.time) reports (payload configured l reports) ∧
      Charts paths (seconds l'.time) reports' (payload configured l' reports') ∧
      paths.map (·.splitOn '.') = l.values.map fun r =>
        (sourceComponents configured (Identity.ofList l) l.values.length r.name).map
          String.toList := by
  -- Paths depend on the identity and on the names; rates replace values only.
  have hnames := names_available decoded available
  have hnames' : reports'.map Report.name = l.values.map Report.name :=
    (names_available decoded' available').trans names.symm
  refine ⟨⟨writeList_run available index (pathRoot configured),
    writeList_run available' index' (pathRoot configured)⟩,
    sourcePaths configured (Identity.ofList l) (l.values.map Report.name), ?_, ?_,
    splitOn_sourcePaths configured (Identity.ofList l) l.values⟩
  · rw [← hnames]
    exact charts_payload configured l reports
  · rw [identity, ← hnames']
    exact charts_payload configured l' reports'

/-- The second value of the list is a number by now, and its first has a rate. -/
def settledRaw : RawList .current :=
  { spoofedRaw with values := some [9, 0x4000000000000000], time := 1546168536915328000 }

def settled : ValueList :=
  { spoofed with
    values :=
      [⟨"read.all", .derive 9, Double.zero, Double.zero⟩,
        ⟨"busy", .gauge ⟨0x4000000000000000⟩, Double.zero, Double.zero⟩]
    time := Ticks.toInstant 1546168536915328000 }

/-- The rates of `settled`, where the cache has 1.5 for its first value. -/
def settledRates : List Report :=
  [⟨"read.all", .gauge ⟨0x3FF8000000000000⟩, Double.zero, Double.zero⟩,
    ⟨"busy", .gauge ⟨0x4000000000000000⟩, Double.zero, Double.zero⟩]

/-- The first payload has one line and the second has two, and `read.all` keeps its name in its
path. -/
theorem payloads_share_paths_settled :
    (spoofed.values.countP (fun r => storable r.value) = 1 ∧
      settledRates.countP (fun r => storable r.value) = 2) ∧
    ∃ paths : List (List Char),
      Charts paths 1439981652 spoofed.values (payload "live" spoofed spoofed.values) ∧
      Charts paths (seconds settled.time) settledRates (payload "live" settled settledRates) ∧
      paths.map (·.splitOn '.') =
        [["live", "web-1-fake-1-2", "disk-c:-d", "ops", "read-all"].map String.toList,
          ["live", "web-1-fake-1-2", "disk-c:-d", "ops", "busy"].map String.toList] := by
  have decoded : ValueList.ofRaw spoofedSet spoofedRaw = .ok spoofed := rfl
  have decoded' : ValueList.ofRaw spoofedSet settledRaw = .ok settled := rfl
  have hshared := payloads_share_paths decoded decoded' rfl rfl "live" false true 0 0
    ⟨Daemon.initial, Diagnostics.initial, []⟩ ⟨ValueList.sparse, Diagnostics.initial, []⟩ rfl rfl
  refine ⟨⟨by decide, by decide⟩, ?_⟩
  exact hshared.2

end Graphite

end PluginKit
