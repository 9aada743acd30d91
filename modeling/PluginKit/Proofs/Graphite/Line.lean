import PluginKit.Graphite.Plugin
import PluginKit.Proofs.Text.CharClass
import PluginKit.Proofs.Time
import PluginKit.Proofs.ValueList.Received

/-!
# `PluginKit.Proofs.Graphite.Line`: text from elsewhere stays in its place

Whatever host, plugin, type, instance or name a list comes with, and whatever prefix is configured,
the payload reads back as the lines that were meant: one for each value that can be stored, three
fields on each, and the host, the plugin and the type at the same places of every path. Every text
becomes a component without dots and blanks (`Part`), and what is put together from such parts with
dots, blanks and newlines comes apart at exactly those.

* `Part`, `part_sanitize`, `part_component`: texts after cleaning.
* `components`, `reportPath_eq`, `splitOn_reportPath`: a path is its components between dots.
* `line_eq`, `formatLines_toList`: a payload is its lines, each ended by a newline.
* `payload`, `Readable`, `writeList_readable`: what is sent for a list.
-/

set_option autoImplicit false

namespace PluginKit

namespace Graphite

open Text (IsField isBlank)

/-! ### Components -/

/-- A component of a path: no character ends the component or the field. A component may be empty,
as that of an empty host is. -/
def Part (cs : List Char) : Prop := ∀ c ∈ cs, c ≠ '.' ∧ isBlank c = false

theorem Part.append {cs more : List Char} (h : Part cs) (hmore : Part more) : Part (cs ++ more) :=
  fun c hc => (List.mem_append.mp hc).elim (h c) (hmore c)

/-- The one fact about cleaning that everything below uses: whatever the character was, what is put
in its place is neither a dot nor blank. -/
theorem sanitizeChar_spec (c : Char) : sanitizeChar c ≠ '.' ∧ isBlank (sanitizeChar c) = false := by
  unfold sanitizeChar
  split
  · exact ⟨by decide, by decide⟩
  · rename_i h
    rw [not_or, not_or] at h
    exact ⟨h.1, by simpa using h.2.1⟩

theorem part_sanitize (s : String) : Part (sanitize s).toList := by
  unfold sanitize
  rw [String.toList_ofList]
  intro c hc
  obtain ⟨original, -, rfl⟩ := List.mem_map.mp hc
  exact sanitizeChar_spec original

/-- The name and the instance of a plugin or a type make one component, with a hyphen between them
that a reader does not split at. -/
theorem part_component (name : String) (inst : Option String) :
    Part (component name inst).toList := by
  cases inst with
  | none => exact part_sanitize name
  | some i =>
      show Part (sanitize name ++ "-" ++ sanitize i).toList
      rw [String.toList_append, String.toList_append]
      have hdash : Part "-".toList := by
        intro c hc
        have hc : c = '-' := by simpa using hc
        exact hc ▸ ⟨by decide, by decide⟩
      exact ((part_sanitize name).append hdash).append (part_sanitize i)

/-- The parts of the configured prefix that are not empty. Dots in a prefix are meant to separate,
so a prefix may have any number of components, and dots at its ends or in a row add none. -/
def segments (configured : String) : List (List Char) :=
  (configured.toList.splitOn '.').filter (· ≠ [])

def rootComponents (configured : String) : List String :=
  (segments configured).map fun part => sanitize (String.ofList part)

def Identity.components (id : Identity) : List String :=
  [sanitize id.host, component id.plugin id.pluginInstance, component id.type id.typeInstance]

/-- The components of a report's path: those of the prefix, the host, the plugin and the type, and
the name of the report where the list has several. A list with one report leaves the name out, so
its paths are one component shorter. -/
def components (configured : String) (id : Identity) (several : Bool) (r : Report) :
    List String :=
  rootComponents configured ++ (id.components ++ if several then [sanitize r.name] else [])

/-- Every component is a part, whatever it was before it was cleaned. Nothing is assumed of the
texts. -/
theorem part_of_mem_components {configured : String} {id : Identity} {several : Bool} {r : Report}
    {text : String} (h : text ∈ components configured id several r) : Part text.toList := by
  unfold components rootComponents Identity.components at h
  rcases List.mem_append.mp h with hroot | hrest
  · obtain ⟨part, -, rfl⟩ := List.mem_map.mp hroot
    exact part_sanitize _
  · rcases List.mem_append.mp hrest with hid | hname
    · simp only [List.mem_cons, List.not_mem_nil, or_false] at hid
      rcases hid with rfl | rfl | rfl
      · exact part_sanitize id.host
      · exact part_component id.plugin id.pluginInstance
      · exact part_component id.type id.typeInstance
    · cases several with
      | false => exact absurd hname List.not_mem_nil
      | true =>
          rw [List.mem_singleton.mp hname]
          exact part_sanitize r.name

theorem components_ne_nil (configured : String) (id : Identity) (several : Bool) (r : Report) :
    components configured id several r ≠ [] := by
  simp [components, Identity.components]

/-- The number of components depends on the prefix and on whether there are several reports, and on
none of the texts: that is what makes places of a path mean something. -/
theorem length_components (configured : String) (id : Identity) (several : Bool) (r : Report) :
    (components configured id several r).length
      = (segments configured).length + if several then 4 else 3 := by
  cases several <;> simp [components, rootComponents, Identity.components]

/-- Cleaning a prefix cleans its parts and puts one dot between them. -/
theorem sanitizePath_eq (configured : String) :
    sanitizePath configured = ".".intercalate (rootComponents configured) := by
  rfl

/-- The root is the prefix's components, each with a dot behind it. -/
theorem pathRoot_append (configured : String) {tail : List String} (htail : tail ≠ []) :
    pathRoot configured ++ ".".intercalate tail
      = ".".intercalate (rootComponents configured ++ tail) := by
  unfold pathRoot
  dsimp only
  rw [sanitizePath_eq]
  have hfilled : ∀ text ∈ rootComponents configured, text ≠ "" := by
    intro text htext
    obtain ⟨part, hpart, rfl⟩ := List.mem_map.mp htext
    have hne : part ≠ [] := by simpa using (List.mem_filter.mp hpart).2
    simp [sanitize, hne]
  cases hroot : rootComponents configured with
  | nil =>
      -- an empty prefix leaves no dot in front of the host
      simp
  | cons first rest =>
      have hfirst : first ≠ "" := hfilled first (hroot ▸ List.mem_cons_self)
      have hsome : (".".intercalate (first :: rest)).isEmpty = false := by
        cases rest <;> simp [hfirst]
      rw [hsome, String.intercalate_append_of_ne_nil (List.cons_ne_nil first rest) htail]
      rfl

/-- A path is its components with dots between them. The code puts it together in two ways, with and
without the report's name, and keeps the dot behind the prefix with the prefix. -/
theorem reportPath_eq (configured : String) (id : Identity) (several : Bool) (r : Report) :
    reportPath (pathRoot configured) id several r
      = ".".intercalate (components configured id several r) := by
  unfold components
  rw [← pathRoot_append configured (by simp [Identity.components])]
  unfold reportPath Identity.path Identity.components
  cases several <;> simp [String.append_assoc]

/-- A path comes apart at its dots into its components, as no component has a dot in it. -/
theorem splitOn_reportPath (configured : String) (id : Identity) (several : Bool) (r : Report) :
    (reportPath (pathRoot configured) id several r).toList.splitOn '.'
      = (components configured id several r).map String.toList := by
  rw [reportPath_eq, String.toList_intercalate]
  show (['.'].intercalate _).splitOn '.' = _
  apply List.splitOn_intercalate
  · intro part hpart hdot
    obtain ⟨text, htext, rfl⟩ := List.mem_map.mp hpart
    exact (part_of_mem_components htext '.' hdot).1 rfl
  · simpa using components_ne_nil configured id several r

/-- Dots between parts bring in no blanks. -/
theorem isBlank_of_mem_intercalate {parts : List (List Char)}
    (h : ∀ part ∈ parts, ∀ c ∈ part, isBlank c = false) :
    ∀ c ∈ ['.'].intercalate parts, isBlank c = false := by
  have hdot : isBlank '.' = false := by decide
  -- On the parts as `intercalate` takes them: a dot comes only between two of them.
  induction parts with
  | nil => exact nofun
  | cons first rest ih =>
      have hfirst := h first List.mem_cons_self
      cases rest with
      | nil =>
          rw [List.intercalate_singleton]
          exact hfirst
      | cons second rest =>
          have hrest := ih fun part hpart => h part (List.mem_cons_of_mem first hpart)
          rw [List.intercalate_cons_cons]
          intro c hc
          rcases List.mem_append.mp hc with hhead | htail
          · rcases List.mem_append.mp hhead with hc | hc
            · exact hfirst c hc
            · rw [List.mem_singleton.mp hc]
              exact hdot
          · exact hrest c htail

/-- A path is one field: it has a character, if only a dot, and no blank one. -/
theorem isField_reportPath (configured : String) (id : Identity) (several : Bool) (r : Report) :
    IsField (reportPath (pathRoot configured) id several r).toList where
  filled := by
    intro hempty
    -- an empty path would have one component, and there are at least three
    have hsplit := splitOn_reportPath configured id several r
    have hlength := congrArg List.length hsplit
    rw [hempty, List.length_map, length_components] at hlength
    cases several <;> simp at hlength
  solid := by
    rw [reportPath_eq, String.toList_intercalate]
    apply isBlank_of_mem_intercalate
    intro part hpart c hc
    obtain ⟨text, htext, rfl⟩ := List.mem_map.mp hpart
    exact (part_of_mem_components htext c hc).2

/-! ### Lines -/

/-- Graphite stores every value but a gauge that is not finite. A list with such a gauge loses its
line and keeps the others. -/
def storable : Value → Bool
  | .gauge x => x.isFinite
  | _ => true

/-- The text of a value, in one equation over all kinds. -/
theorem valueText_eq (v : Value) : valueText v = if storable v then some v.text else none := by
  cases v <;> rfl

/-- A line without the newline that ends it: path, value and time with a blank between them. -/
def lineText (root : String) (id : Identity) (several : Bool) (time : Instant) (r : Report) :
    String :=
  reportPath root id several r ++ " " ++ r.value.text ++ " " ++ toString (seconds time)

/-- A report has its line unless its value cannot be stored, in which case it has none, not an empty
one. -/
theorem line_eq (root : String) (id : Identity) (several : Bool) (time : Instant) (r : Report) :
    line root id several time r
      = if storable r.value then some (lineText root id several time r ++ "\n") else none := by
  unfold line
  rw [valueText_eq]
  split <;> rfl

/-- A payload is its lines, each with a newline behind it. Whether paths have the report's name is
decided by the number of all reports, with those that are left out. -/
theorem formatLines_toList (root : String) (id : Identity) (reports : List Report)
    (time : Instant) :
    (formatLines root id reports time).toList
      = ((reports.filter fun r => storable r.value).map fun r =>
          (lineText root id (1 < reports.length) time r).toList).flatMap (· ++ ['\n']) := by
  unfold formatLines
  rw [String.toList_join]
  generalize decide (1 < reports.length) = several
  induction reports with
  | nil => rfl
  | cons r rest ih =>
      rw [List.filterMap_cons, line_eq]
      by_cases hr : storable r.value = true
      · simp [hr, ih]
      · simp [hr, ih]

/-- What a reader finds on the line of a report: a path of the given components, the value as it is
displayed, and the time, and none of the three empty. The reader splits at white space of any kind,
and not only at the blanks that the line was put together with. -/
structure Prints (parts : List String) (time : Nat) (r : Report) (text : List Char) : Prop where
  oneLine : '\n' ∉ text
  fields : ∃ path, path.splitOn '.' = parts.map String.toList ∧
    text.splitOnP isBlank = [path, r.value.text.toList, (toString time).toList]
  filled : [] ∉ text.splitOnP isBlank

/-- The line of a report reads as it was meant, for all texts in it and under any prefix. -/
theorem prints_lineText (configured : String) (id : Identity) (several : Bool) (time : Instant)
    (r : Report) :
    Prints (components configured id several r) (seconds time) r
      (lineText (pathRoot configured) id several time r).toList := by
  have hpath := isField_reportPath configured id several r
  have hvalue := r.value.isField_text
  have htime := Text.isField_nat (seconds time)
  have htext : (lineText (pathRoot configured) id several time r).toList
      = (reportPath (pathRoot configured) id several r).toList ++ ' ' ::
        (r.value.text.toList ++ ' ' :: (toString (seconds time)).toList) := by
    unfold lineText
    simp only [String.toList_append, List.append_assoc]
    rfl
  -- Path, value and time are fields, so the only blanks of a line are the two between them.
  have hfields := Text.splitOnP_three hpath hvalue htime
  rw [htext]
  constructor
  case oneLine =>
    have hnewline : isBlank '\n' = true := by decide
    intro h
    simp only [List.mem_append, List.mem_cons] at h
    rcases h with h | h | h | h | h
    · simp [hpath.solid _ h] at hnewline
    · exact absurd h (by decide)
    · simp [hvalue.solid _ h] at hnewline
    · exact absurd h (by decide)
    · simp [htime.solid _ h] at hnewline
  case fields => exact ⟨_, splitOn_reportPath configured id several r, hfields⟩
  case filled =>
    rw [hfields]
    simp only [List.mem_cons, List.not_mem_nil, or_false, not_or]
    exact ⟨Ne.symm hpath.filled, Ne.symm hvalue.filled, Ne.symm htime.filled⟩

/-! ### What is sent -/

variable {abi : Abi}

/-- Whole seconds are the high bits of ticks. The nanoseconds below them were rounded, but never up
to a second more. -/
theorem seconds_toInstant (t : Ticks) : seconds (Ticks.toInstant t) = (t >>> 30).toNat := by
  unfold seconds Ticks.toInstant
  rw [Int.toNat_natCast]
  exact Ticks.toNanos_div t

/-- Code that goes on after code that returned. -/
theorem run_bind_of_ok {σ α β : Type} {code : Code abi σ α} {w after : World abi σ} {a : α}
    (h : code.run.run w = (.ok a, after)) (next : α → Code abi σ β) :
    (code >>= next).run.run w = (next a).run.run after := by
  rw [ExceptT.run_bind, StateT.run_bind, h]
  rfl

/-- Writing a list sends its lines at once, and nothing when there are none: an empty payload is not
sent. Where rates are stored, they have to be available. -/
theorem writeList_run {l : ValueList} {storeRates : Bool} {w : World abi Nodes}
    {reports : List Report}
    (available : (if storeRates then l.rates w.daemon else some l.values) = some reports)
    (index : Nat) (root : String) :
    (writeList index root storeRates l).run.run w
      = (if (formatLines root (Identity.ofList l) reports l.time).isEmpty then pure ()
        else send index (formatLines root (Identity.ofList l) reports l.time)
          : Code abi Nodes Unit).run.run w := by
  cases storeRates with
  | false =>
      cases Option.some.inj available
      rfl
  | true =>
      have hrates : l.rates w.daemon = some reports := available
      have hcode : (Code.rates l : Code abi Nodes (List Report)).run.run w = (.ok reports, w) := by
        unfold Code.rates
        have hget : (get : Code abi Nodes (World abi Nodes)).run.run w = (.ok w, w) := rfl
        rw [run_bind_of_ok hget, hrates]
        rfl
      exact run_bind_of_ok hcode _

/-- A payload reads as one line for each report that can be stored, in the order of the reports,
with the components of the prefix, the host, the plugin and the type in their places. No line of the
payload is left over. -/
def Readable (configured : String) (id : Identity) (time : Nat) (reports : List Report)
    (payload : String) : Prop :=
  ∃ lines : List (List Char), payload.toList = lines.flatMap (· ++ ['\n']) ∧
    List.Forall₂ (fun r => Prints (components configured id (1 < reports.length) r) time r)
      (reports.filter fun r => storable r.value) lines

/-- What a node under a configured prefix sends for a list. -/
def payload (configured : String) (l : ValueList) (reports : List Report) : String :=
  formatLines (pathRoot configured) (Identity.ofList l) reports l.time

/-- What is sent for a decoded list is readable, with whatever texts and values and under whatever
prefix. Its time is the whole seconds of the daemon's, and each of its paths has the components of
the prefix and three more, or four where there are several reports. -/
theorem writeList_readable {set : DataSet abi} {list : RawList abi} {l : ValueList}
    (decoded : ValueList.ofRaw set list = .ok l) (configured : String) (storeRates : Bool)
    (index : Nat) (w : World abi Nodes) {reports : List Report}
    (available : (if storeRates then l.rates w.daemon else some l.values) = some reports) :
    (writeList index (pathRoot configured) storeRates l).run.run w
      = (if (payload configured l reports).isEmpty then pure ()
        else send index (payload configured l reports) : Code abi Nodes Unit).run.run w ∧
    Readable configured (Identity.ofList l) (list.time >>> 30).toNat reports
      (payload configured l reports) ∧
    l.time.nanos / 10 ^ 9 = (list.time >>> 30).toNat ∧
    ∀ r, (components configured (Identity.ofList l) (1 < reports.length) r).length
      = (segments configured).length + if 1 < reports.length then 4 else 3 := by
  -- The line shows whole seconds, and those are the high bits of the list's own ticks.
  have htime : l.time = Ticks.toInstant list.time := ValueList.time_ofRaw decoded
  have hseconds : seconds l.time = (list.time >>> 30).toNat := by
    rw [htime, seconds_toInstant]
  refine ⟨writeList_run available index (pathRoot configured), ⟨_,
    formatLines_toList (pathRoot configured) (Identity.ofList l) reports l.time, ?_⟩, ?_, ?_⟩
  · rw [List.forall₂_map_right_iff, List.forall₂_same, ← hseconds]
    intro r _
    exact prints_lineText configured (Identity.ofList l) _ l.time r
  · rw [← hseconds]
    unfold seconds
    have hepoch : 0 ≤ l.time.nanos := by
      rw [htime]
      exact Int.natCast_nonneg _
    omega
  · intro r
    rw [length_components]
    simp

/-- A list whose texts hold dots, blanks and newlines, with a value that is no number. -/
def spoofedRaw : RawList .current where
  values := some [7, 0x7FF8000000000000]
  count := 2
  time := 1546168526406004689
  interval := 0
  host := TextField.ofBytes _ (Utf8.encode "web.1\nfake 1 2")
  plugin := TextField.ofBytes _ (Utf8.encode "disk")
  pluginInstance := TextField.ofBytes _ (Utf8.encode "c:\td")
  type := TextField.ofBytes _ (Utf8.encode "ops")
  typeInstance := TextField.ofBytes _ []
  metadata := none

def spoofedSet : DataSet .current where
  sources := some
    [⟨TextField.ofBytes _ (Utf8.encode "read.all"), 2, Double.zero, Double.zero⟩,
      ⟨TextField.ofBytes _ (Utf8.encode "busy"), 1, Double.zero, Double.zero⟩]
  count := 2

def spoofed : ValueList where
  values :=
    [⟨"read.all", .derive 7, Double.zero, Double.zero⟩,
      ⟨"busy", .gauge ⟨0x7FF8000000000000⟩, Double.zero, Double.zero⟩]
  plugin := "disk"
  pluginInstance := some "c:\td"
  type := "ops"
  typeInstance := none
  host := "web.1\nfake 1 2"
  time := ⟨1439981652801860766⟩
  interval := ⟨0⟩
  metadata := []
  declared := 2

/-- Under a prefix of two parts its one line has a path of six components. -/
theorem writeList_readable_spoofed :
    (writeList 0 (pathRoot ".live..eu west") false spoofed).run.run
        (⟨Daemon.initial, Diagnostics.initial, []⟩ : World .current Nodes)
      = (if (payload ".live..eu west" spoofed spoofed.values).isEmpty then pure ()
        else send 0 (payload ".live..eu west" spoofed spoofed.values)
          : Code .current Nodes Unit).run.run ⟨Daemon.initial, Diagnostics.initial, []⟩ ∧
    Readable ".live..eu west" (Identity.ofList spoofed) 1439981652 spoofed.values
      (payload ".live..eu west" spoofed spoofed.values) ∧
    (1439981652801860766 : Int) / 10 ^ 9 = 1439981652 ∧
    ∀ r, (components ".live..eu west" (Identity.ofList spoofed) true r).length = 6 :=
  writeList_readable (show ValueList.ofRaw spoofedSet spoofedRaw = .ok spoofed from rfl)
    ".live..eu west" false 0 ⟨Daemon.initial, Diagnostics.initial, []⟩ rfl

end Graphite

end PluginKit
