import Mathlib.Data.List.Nodup
import PluginKit.Proofs.Time
import PluginKit.Proofs.ValueList.Received
import PluginKit.Proofs.ValueList.Submission

/-!
# `PluginKit.Proofs.ValueList.RoundTrip`: what is submitted is what is received

A report is built by a sequence of calls, dispatched as a raw list and decoded by whoever receives
it. Three facts join up: the last call for a part decides that part (`build_eq_lastSet`), a dispatched
list is the raw form of an acceptable report (`dispatched_eq`), and decoding undoes that raw form
(`ofRaw_toRaw`). A receiver therefore gets exactly what was set last.

The daemon's clock has 34 bits of seconds, so points and spans of time come back when they lie
before `2 ^ 34` seconds.

* `lastSet`, `build_eq_lastSet`: the last call wins.
* `ofRaw_toRaw`: the decoder undoes the encoders.
* `Returned`, `ofRaw_build`: the two ends of the way.
-/

set_option autoImplicit false

namespace PluginKit

namespace Submission

/-! ### The last call wins -/

namespace Setting

/-- The values, if the call is the one for them. The functions below do the same for the other
parts. -/
def values? : Setting → Option (List Value)
  | .values vs => some vs
  | _ => none

def pluginInstance? : Setting → Option String
  | .pluginInstance name => some name
  | _ => none

def typeInstance? : Setting → Option String
  | .typeInstance name => some name
  | _ => none

def host? : Setting → Option String
  | .host name => some name
  | _ => none

def time? : Setting → Option Instant
  | .time t => some t
  | _ => none

def interval? : Setting → Option Duration
  | .interval i => some i
  | _ => none

/-- The value that a call gives to one key. -/
def annotation? (key : String) : Setting → Option MetaValue
  | .metadata k value => if k = key then some value else none
  | _ => none

end Setting

/-- What the last call for a part sets it to. -/
def lastSet {α : Type} (part : Setting → Option α) (settings : List Setting) : Option α :=
  (settings.filterMap part).getLast?

/-- A part that each call either sets or leaves alone ends up as the last call set it. All parts of
a report are such parts, so this is the only induction on calls but for the annotations. -/
theorem foldl_set {α : Type} (part : Setting → Option α) (field : Submission → Option α)
    (hset : ∀ s x, field (set s x) = (part x).or (field s)) (settings : List Setting)
    (s : Submission) : field (settings.foldl set s) = (lastSet part settings).or (field s) := by
  induction settings generalizing s with
  | nil => rfl
  | cons x rest ih =>
      rw [List.foldl_cons, ih, hset, ← Option.or_assoc]
      unfold lastSet
      cases hx : part x with
      | none => simp [hx]
      | some value =>
          -- a later call for the part, if there is one, hides this one
          cases hrest : (rest.filterMap part).getLast? <;> simp [hx, hrest, List.getLast?_cons]

/-- What no call touches stays: the plugin and the type are given when the builder is made. -/
theorem foldl_set_of_kept {α : Type} {field : Submission → α}
    (hkept : ∀ s x, field (set s x) = field s) (settings : List Setting) (s : Submission) :
    field (settings.foldl set s) = field s := by
  induction settings generalizing s with
  | nil => rfl
  | cons x rest ih => rw [List.foldl_cons, ih, hkept]

section
variable (plugin type : String) (settings : List Setting)

/-- A part that nothing is set to at first is what the last call set it to, or is not set. -/
theorem build_eq_lastSet {α : Type} (part : Setting → Option α) (field : Submission → Option α)
    (hset : ∀ s x, field (set s x) = (part x).or (field s))
    (hnew : field (named plugin type) = none) :
    field (build plugin type settings) = lastSet part settings := by
  unfold build
  rw [foldl_set part field hset, hnew, Option.or_none]

/-- The plugin is given when the builder is made, and no call changes it. -/
theorem build_plugin : (build plugin type settings).plugin = plugin :=
  foldl_set_of_kept (fun _ x => by cases x <;> rfl) settings _

/-- Nor does any call change the type. -/
theorem build_type : (build plugin type settings).type = type :=
  foldl_set_of_kept (fun _ x => by cases x <;> rfl) settings _

/-- Values are replaced and not collected; without a call for them there are none. -/
theorem build_values :
    (build plugin type settings).values = (lastSet Setting.values? settings).getD [] := by
  have hfold := foldl_set Setting.values? (fun s => some s.values)
    (fun _ x => by cases x <;> rfl) settings (named plugin type)
  unfold build
  cases hlast : lastSet Setting.values? settings with
  | none =>
      rw [hlast] at hfold
      exact Option.some.inj hfold
  | some values =>
      rw [hlast] at hfold
      exact Option.some.inj hfold

/-- The instance of the plugin is the last one set, and so it is with the four parts after it. -/
theorem build_pluginInstance :
    (build plugin type settings).pluginInstance = lastSet Setting.pluginInstance? settings :=
  build_eq_lastSet _ _ _ Setting.pluginInstance? (·.pluginInstance)
    (fun _ x => by cases x <;> rfl) rfl

theorem build_typeInstance :
    (build plugin type settings).typeInstance = lastSet Setting.typeInstance? settings :=
  build_eq_lastSet _ _ _ Setting.typeInstance? (·.typeInstance)
    (fun _ x => by cases x <;> rfl) rfl

theorem build_host : (build plugin type settings).host = lastSet Setting.host? settings :=
  build_eq_lastSet _ _ _ Setting.host? (·.host) (fun _ x => by cases x <;> rfl) rfl

theorem build_time : (build plugin type settings).time = lastSet Setting.time? settings :=
  build_eq_lastSet _ _ _ Setting.time? (·.time) (fun _ x => by cases x <;> rfl) rfl

theorem build_interval :
    (build plugin type settings).interval = lastSet Setting.interval? settings :=
  build_eq_lastSet _ _ _ Setting.interval? (·.interval) (fun _ x => by cases x <;> rfl) rfl

/-- An annotation is decided by the last call for its key. Calls for other keys do not matter,
although all annotations are one part of the report. -/
theorem build_metadata (key : String) :
    (build plugin type settings).metadata.lookup key
      = lastSet (Setting.annotation? key) settings := by
  refine build_eq_lastSet _ _ _ (Setting.annotation? key) (·.metadata.lookup key)
    (fun s x => ?_) rfl
  cases x with
  | metadata k value =>
      show (Metadata.put k value s.metadata).lookup key = _
      rw [Metadata.lookup_put]
      by_cases hk : k = key <;> simp [Setting.annotation?, hk]
  | _ => rfl

/-- However often keys are set, each has one value. So the order in which annotations are added to
the daemon's table makes no difference to what it holds. -/
theorem build_nodup : ((build plugin type settings).metadata.map Prod.fst).Nodup := by
  have hfold : ∀ s : Submission, (s.metadata.map Prod.fst).Nodup →
      ((settings.foldl set s).metadata.map Prod.fst).Nodup := by
    induction settings with
    | nil => exact fun s hs => hs
    | cons x rest ih =>
        intro s hs
        apply ih
        cases x with
        | metadata key value => exact Metadata.nodup_put hs key value
        | _ => exact hs
  exact hfold _ List.nodup_nil

end

end Submission

namespace ValueList

variable {abi : Abi}

/-- A text that was accepted for a field is read back from the field: it had room, and no zero
byte. -/
theorem readField_ofBytes {text : String} (h : Fits abi.nameLength text) (plugin field : String) :
    readField plugin field (TextField.ofBytes abi.nameLength (Utf8.encode text)) = .ok text := by
  unfold readField
  rw [TextField.decode_ofBytes_encode (Nat.le_of_lt h.1) h.zero_notMem]
  rfl

/-! ### Annotations -/

open Submission (toTable tableOf)

variable {order : List (String × MetaValue)}

/-- Different keys are different in bytes, too. -/
theorem nodup_encode_keys (h : (order.map Prod.fst).Nodup) :
    (order.map fun e => Utf8.encode e.1).Nodup := by
  have hinj : Function.Injective Utf8.encode := fun _ _ => Utf8.encode_injective
  have hmap := h.map hinj
  rwa [List.map_map] at hmap

/-- Different keys make a table with one entry for each, in the order of adding. -/
theorem entries_toTable (h : (order.map Prod.fst).Nodup) :
    (toTable order .empty).entries = order.map fun e => (Utf8.encode e.1, e.2) := by
  have hfold : (toTable order .empty).entries
      = order.foldl (fun es e => Metadata.put (Utf8.encode e.1) e.2 es) [] :=
    (List.foldl_hom Metadata.Table.entries fun _ _ => rfl).symm
  rw [hfold, Metadata.foldl_put _ _ _ _ (by simpa using nodup_encode_keys h), List.nil_append]

/-- A table that was filled from different keys has under each of them what was added. -/
theorem find?_toTable (h : (order.map Prod.fst).Nodup) {entry : String × MetaValue}
    (hentry : entry ∈ order) :
    (toTable order .empty).find? (Utf8.encode entry.1) = some entry.2 := by
  unfold Metadata.Table.find?
  rw [entries_toTable h, Metadata.lookup_eq_some_iff]
  · exact List.mem_map.mpr ⟨entry, hentry, rfl⟩
  · rw [List.map_map]
    exact nodup_encode_keys h

/-- An annotation of a dispatched list reads as it was added. A text with a zero character would end
there, so such texts have to be kept out; submission does. -/
theorem readMetaEntry_toTable (h : (order.map Prod.fst).Nodup) {entry : String × MetaValue}
    (hentry : entry ∈ order) (htext : ∀ text, entry.2 = .string text → '\x00' ∉ text.toList)
    (plugin : String) :
    readMetaEntry plugin (toTable order .empty) (Utf8.encode entry.1) = .ok entry := by
  have hfind := find?_toTable h hentry
  obtain ⟨key, value⟩ := entry
  unfold readMetaEntry
  rw [Utf8.decode_encode]
  -- the kind of the value chooses the reading, and the reading fits the kind
  cases value with
  | string text =>
      have hzero : text.toList.contains '\x00' = false := by simpa using htext text rfl
      simp only [Metadata.Table.getString, Metadata.Table.get, hfind, hzero]
      rfl
  | signed n =>
      simp only [Metadata.Table.getSigned, Metadata.Table.get, hfind]
      rfl
  | unsigned n =>
      simp only [Metadata.Table.getUnsigned, Metadata.Table.get, hfind]
      rfl
  | double x =>
      simp only [Metadata.Table.getDouble, Metadata.Table.get, hfind]
      rfl
  | boolean b =>
      simp only [Metadata.Table.getBoolean, Metadata.Table.get, hfind]
      rfl

/-- All annotations read as they were added, in the order of adding. No annotations make no table,
and no table reads as no annotations. -/
theorem readMetadata_tableOf (h : (order.map Prod.fst).Nodup)
    (htexts : ∀ entry ∈ order, ∀ text, entry.2 = .string text → '\x00' ∉ text.toList)
    (plugin : String) : readMetadata plugin (tableOf order) = .ok order := by
  cases order with
  | nil => rfl
  | cons first rest =>
      show (toTable (first :: rest) .empty).keys.mapM _ = _
      unfold Metadata.Table.keys
      rw [entries_toTable h, List.map_map, List.mapM_map]
      apply mapM_eq_ok
      rw [List.forall₂_same]
      intro entry hentry
      exact readMetaEntry_toTable h hentry (htexts entry hentry) plugin

/-! ### From report to report -/

/-- Decoding undoes the raw form of an acceptable report, for every data set that fits its values.
Names and bounds of the values are the ones of the data set, as the daemon's list has none. -/
theorem ofRaw_toRaw {s : Submission} (hs : s.Acceptable abi) (perm : order.Perm s.metadata)
    (hkeys : (s.metadata.map Prod.fst).Nodup) {set : DataSet abi}
    (hset : List.Forall₂ Describes (elements set) s.values) :
    ∃ reports, reports.map Report.value = s.values ∧
      List.Forall₂ Labels (elements set) reports ∧
      ofRaw set (s.toRaw abi (tableOf order)) = .ok {
        values := reports
        plugin := s.plugin
        pluginInstance := nonEmptyText (s.pluginInstance.getD "")
        type := s.type
        typeInstance := nonEmptyText (s.typeInstance.getD "")
        host := s.host.getD abi.defaultHost
        time := Ticks.toInstant ((s.time.map Ticks.ofInstant).getD (Ticks.ofNanos 0))
        interval := Ticks.toDuration ((s.interval.map Ticks.ofDuration).getD (Ticks.ofNanos 0))
        metadata := order
        declared := s.values.length } := by
  obtain ⟨reports, hread, hvalues, hlabels⟩ := readReports hset s.plugin
  refine ⟨reports, hvalues, hlabels, ?_⟩
  have hempty : Fits abi.nameLength "" := hs.plugin.empty
  have helements : declaredElements (s.values.length : Int) (some (s.values.map Value.bits))
      = s.values.map Value.bits :=
    List.take_of_length_le (by simp)
  have hmetadata : readMetadata s.plugin (tableOf order) = .ok order :=
    readMetadata_tableOf ((perm.map Prod.fst).nodup_iff.mpr hkeys)
      (fun entry hentry => hs.texts entry (perm.mem_iff.mp hentry)) s.plugin
  unfold elements at hread
  unfold ofRaw Submission.toRaw
  dsimp only
  -- the fields are read in this order, and every reading succeeds
  rw [readField_ofBytes hs.plugin]
  dsimp only [bind, Except.bind]
  rw [helements, hread, readField_ofBytes (Fits.getD hs.pluginInstance hempty)]
  dsimp only
  rw [readField_ofBytes hs.type, readField_ofBytes (Fits.getD hs.typeInstance hempty)]
  dsimp only
  rw [readField_ofBytes (Fits.getD hs.host abi.fits_defaultHost), hmetadata]
  rfl

end ValueList

namespace Submission

variable {abi : Abi}

/-- A list that is dispatched is the raw form of an acceptable report. So a receiver may rely on all
that was checked before. -/
theorem dispatched_eq {s : Submission} {d : Daemon abi} {order : List (String × MetaValue)}
    {list : RawList abi} (perm : order.Perm s.metadata)
    (h : (s.submitInOrder order d).2.dispatched = d.dispatched ++ [list]) :
    s.Acceptable abi ∧ list = s.toRaw abi (tableOf order) := by
  obtain ⟨store, -, heq⟩ := submitInOrder_eq order s d
  rw [heq] at h
  cases hproblems : s.problems abi order with
  | nil =>
      rw [hproblems] at h
      have hlist := List.append_cancel_left h
      exact ⟨(problems_eq_nil_iff perm).mp hproblems, (List.cons.inj hlist).1.symm⟩
  | cons e rest =>
      -- with a problem nothing was dispatched
      rw [hproblems] at h
      simp at h

/-- What a receiver has of a report that was built by `settings` and matched with `set`: of every
part the value that was set last. -/
structure Returned (plugin type : String) (settings : List Setting) (set : DataSet abi)
    (l : ValueList) : Prop where
  values : l.values.map Report.value = (lastSet Setting.values? settings).getD []
  labels : List.Forall₂ ValueList.Labels (ValueList.elements set) l.values
  plugin : l.plugin = plugin
  type : l.type = type
  pluginInstance :
    l.pluginInstance = (lastSet Setting.pluginInstance? settings).filter (· ≠ "")
  typeInstance : l.typeInstance = (lastSet Setting.typeInstance? settings).filter (· ≠ "")
  host : l.host = (lastSet Setting.host? settings).getD abi.defaultHost
  /-- The daemon's clock counts from the epoch up to `2 ^ 34` seconds after it, where its 34 bits of
  seconds end. -/
  time : ∀ t, lastSet Setting.time? settings = some t → 0 ≤ t.nanos →
    t.nanos < 2 ^ 34 * 10 ^ 9 → l.time = t
  time_unset : lastSet Setting.time? settings = none → l.time = ⟨0⟩
  interval : ∀ i, lastSet Setting.interval? settings = some i →
    i.nanos < 2 ^ 34 * 10 ^ 9 → l.interval = i
  interval_unset : lastSet Setting.interval? settings = none → l.interval = ⟨0⟩
  keys : (l.metadata.map Prod.fst).Nodup
  metadata : ∀ key value,
    (key, value) ∈ l.metadata ↔ lastSet (Setting.annotation? key) settings = some value

/-- An instance that is empty or not set is none. The daemon's list cannot tell the two apart. -/
theorem nonEmptyText_getD (text : Option String) :
    nonEmptyText (text.getD "") = text.filter (· ≠ "") := by
  cases text with
  | none => rfl
  | some t => by_cases h : t = "" <;> simp [nonEmptyText, Option.filter, h]

/-- Decoding undoes submission: whatever calls built a report, the list that is dispatched for it
decodes, and the receiver gets what was set last. -/
theorem ofRaw_build (plugin type : String) (settings : List Setting) (d : Daemon abi)
    {order : List (String × MetaValue)} {list : RawList abi} {set : DataSet abi}
    (perm : order.Perm (build plugin type settings).metadata)
    (dispatched : ((build plugin type settings).submitInOrder order d).2.dispatched
      = d.dispatched ++ [list])
    (described : List.Forall₂ ValueList.Describes (ValueList.elements set)
      ((lastSet Setting.values? settings).getD [])) :
    ∃ l, ValueList.ofRaw set list = .ok l ∧ Returned plugin type settings set l := by
  -- the list is the raw form of the report, and the report is what was set last
  obtain ⟨hs, rfl⟩ := dispatched_eq perm dispatched
  have hkeys := build_nodup plugin type settings
  rw [← build_values plugin type] at described
  obtain ⟨reports, hvalues, hlabels, hread⟩ :=
    ValueList.ofRaw_toRaw hs perm hkeys described
  refine ⟨_, hread, ?_⟩
  constructor
  case values => rw [← build_values plugin type, ← hvalues]
  case labels => exact hlabels
  case plugin => exact build_plugin plugin type settings
  case type => exact build_type plugin type settings
  case pluginInstance =>
    rw [← build_pluginInstance plugin type]
    exact nonEmptyText_getD _
  case typeInstance =>
    rw [← build_typeInstance plugin type]
    exact nonEmptyText_getD _
  case host => rw [← build_host plugin type]
  case time =>
    intro t ht hepoch hspan
    rw [← build_time plugin type] at ht
    rw [ht]
    exact Ticks.toInstant_ofInstant hepoch hspan
  case time_unset =>
    intro ht
    rw [← build_time plugin type] at ht
    rw [ht]
    rfl
  case interval =>
    intro i hi hspan
    rw [← build_interval plugin type] at hi
    rw [hi]
    exact Ticks.toDuration_ofDuration hspan
  case interval_unset =>
    intro hi
    rw [← build_interval plugin type] at hi
    rw [hi]
    rfl
  case keys => exact (perm.map Prod.fst).nodup_iff.mpr hkeys
  case metadata =>
    intro key value
    rw [← build_metadata plugin type, Metadata.lookup_eq_some_iff hkeys]
    exact perm.mem_iff

/-- Calls that set the values, the host and one annotation twice. -/
def diskSettings : List Setting :=
  [.values [.counter 1], .host "old", .metadata "unit" (.string "s"), .typeInstance "",
    .values [.gauge ⟨0x3FF8000000000000⟩, .derive (-1)], .host "disk1",
    .metadata "unit" (.boolean true), .time ⟨1439981652801860766⟩]

/-- Two data sources, for a gauge and a count that grows. -/
def diskSet : DataSet .current where
  sources := some
    [⟨TextField.ofBytes _ (Utf8.encode "used"), 1, Double.zero, Double.zero⟩,
      ⟨TextField.ofBytes _ (Utf8.encode "écrits"), 2, Double.zero, Double.zero⟩]
  count := 2

/-- The second host, the second annotation and both values come back. -/
theorem ofRaw_build_disk :
    ∃ l, ValueList.ofRaw diskSet ((build "disk" "disk_ops" diskSettings).toRaw .current
        (tableOf [("unit", .boolean true)])) = .ok l ∧
      Returned "disk" "disk_ops" diskSettings diskSet l :=
  ofRaw_build "disk" "disk_ops" diskSettings Daemon.initial
    (List.Perm.refl [("unit", MetaValue.boolean true)]) rfl
    (.cons ⟨rfl, "used", rfl⟩ (.cons ⟨rfl, "écrits", rfl⟩ .nil))

end Submission

end PluginKit
