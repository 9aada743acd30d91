import PluginKit.Proofs.ValueList.Problems

/-!
# `PluginKit.Proofs.ValueList.Rates`: rates in the place of everything but gauges

The daemon's cache gives out a buffer of its own length, and a request for rates reads a number of it
for every value of the list. What is read was given out, because a list never has more values than it
declares and the buffer has room for those that are declared. Then every value has its rate at its own
place, and only the gauges do without it.

* `Access`, `ratesNoting`: a request for rates that notes what it does with the cache.
* `Daemon.le_length_of_cachedRates`, `Daemon.getElem?_of_cachedRates`: the buffers that the cache gives
  out.
* `Replaces`, `rates_at`: what becomes of a report.
* `rates_replace_all_but_gauges`: the answer to a request for rates, and what it reads.
-/

set_option autoImplicit false

namespace PluginKit

variable {abi : Abi}

/-! ### Buffers -/

namespace Daemon

variable {d : Daemon abi} {declared : Int} {buffer : List Double}

/-- A buffer holds the rates and then zeros, so many that it has what was declared, and one number
at least. -/
theorem eq_of_cachedRates (h : d.cachedRates declared = some buffer) :
    ∃ rates, d.rates = some rates ∧
      buffer = rates ++ List.replicate (max declared.toNat 1 - rates.length) Double.zero := by
  unfold cachedRates at h
  cases hrates : d.rates with
  | none =>
      rw [hrates] at h
      cases h
  | some rates =>
      rw [hrates] at h
      dsimp only at h
      split at h
      · cases h
      · exact ⟨rates, rfl, (Option.some.inj h).symm⟩

/-- A buffer has room for every value that is declared. This is the fact on which reading as many
numbers as there are values relies. -/
theorem le_length_of_cachedRates (h : d.cachedRates declared = some buffer) :
    declared.toNat ≤ buffer.length := by
  obtain ⟨rates, -, rfl⟩ := eq_of_cachedRates h
  simp only [List.length_append, List.length_replicate]
  omega

/-- At every place of a buffer is the rate there, zero where there is none. -/
theorem getElem?_of_cachedRates (h : d.cachedRates declared = some buffer) {i : Nat}
    (hi : i < buffer.length) :
    ∃ rates, d.rates = some rates ∧ buffer[i]? = some (rates[i]?.getD Double.zero) := by
  obtain ⟨rates, hrates, rfl⟩ := eq_of_cachedRates h
  refine ⟨rates, hrates, ?_⟩
  by_cases hheld : i < rates.length
  · rw [List.getElem?_append_left hheld, List.getElem?_eq_getElem hheld]
    rfl
  · have hzeros : i - rates.length < max declared.toNat 1 - rates.length := by
      simp only [List.length_append, List.length_replicate] at hi
      omega
    rw [List.getElem?_append_right (by omega), List.getElem?_replicate, if_pos hzeros,
      List.getElem?_eq_none (by omega)]
    rfl

end Daemon

namespace ValueList

/-! ### Requests -/

/-- What a request for rates does with the cache. -/
inductive Access where
  /-- Asks for the rates of a list that declares a number of values. -/
  | asked (declared : Int)
  /-- Reads numbers from the start of a buffer that has room for `room` of them. -/
  | read (length room : Nat)
  deriving DecidableEq, Repr

/-- No number is read that the buffer does not have. -/
def Access.InBounds : Access → Prop
  | .asked _ => True
  | .read length room => length ≤ room

/-- The rates of a list, with every access noted: one number is read for each value, and they meet
place by place. -/
def ratesNoting (l : ValueList) (d : Daemon abi) : StateM (List Access) (Option (List Report)) := do
  if l.allGauges then return some l.values
  modify (· ++ [.asked l.declared])
  match d.cachedRates l.declared with
  | none => return none
  | some buffer =>
    modify (· ++ [.read l.values.length buffer.length])
    let rates := buffer.take l.values.length
    return some ((rates.zip l.values).map fun p => Report.withRate p.2 p.1)

/-- What becomes of the report at a place: a gauge stays as it is, bit by bit, and any other value
gives way to the rate at the same place of the cache, zero where the cache has fewer. -/
structure Replaces (cached : Option (List Double)) (place : Nat) (r r' : Report) : Prop where
  name : r'.name = r.name
  min : r'.min = r.min
  max : r'.max = r.max
  gauge : r.value.isGauge = true → r'.value = r.value
  other : r.value.isGauge = false → ∃ rates, cached = some rates ∧
    r'.value = .gauge (rates[place]?.getD Double.zero)

/-- A gauge that stays as it is has become what it has to. -/
theorem replaces_of_gauge {r : Report} (h : r.value.isGauge = true)
    (cached : Option (List Double)) (place : Nat) : Replaces cached place r r :=
  ⟨rfl, rfl, rfl, fun _ => rfl, fun hother => by simp [h] at hother⟩

/-- A report with the rate of its place has become what it has to, gauge or not. -/
theorem replaces_withRate (rates : List Double) (place : Nat) (r : Report) :
    Replaces (some rates) place r (Report.withRate r (rates[place]?.getD Double.zero)) := by
  unfold Report.withRate
  split
  · rename_i hgauge
    exact replaces_of_gauge hgauge (some rates) place
  · rename_i hother
    exact ⟨rfl, rfl, rfl, fun hgauge => absurd hgauge hother, fun _ => ⟨rates, rfl, rfl⟩⟩

/-! ### Answers -/

variable {l : ValueList} {d : Daemon abi}

/-- The check in front of the cache, value by value. -/
theorem allGauges_iff : l.allGauges = true ↔ ∀ r ∈ l.values, r.value.isGauge = true := by
  simp [allGauges]

/-- Gauges alone are handed back as they are. Without values it is the same. -/
theorem rates_of_allGauges (h : l.allGauges = true) : l.rates d = some l.values := by
  simp [rates, h]

/-- With another kind among them the cache is asked, and the values take its numbers place by
place. -/
theorem rates_of_not_allGauges (h : l.allGauges = false) :
    l.rates d = (d.cachedRates l.declared).map fun rates =>
      (rates.zip l.values).map fun p => Report.withRate p.2 p.1 := by
  simp [rates, h]

/-- There are no rates exactly when the cache is needed and fails. -/
theorem rates_eq_none_iff :
    l.rates d = none ↔
      (∃ r ∈ l.values, r.value.isGauge = false) ∧ d.cachedRates l.declared = none := by
  have hother : (∃ r ∈ l.values, r.value.isGauge = false) ↔ l.allGauges = false := by
    simp [allGauges]
  rw [hother]
  cases hgauges : l.allGauges with
  | true => simp [rates_of_allGauges hgauges]
  | false => simp [rates_of_not_allGauges hgauges]

/-- Noting changes nothing in the answer. Nothing is noted for gauges alone, and else the question to
the cache and what is read if it has an answer. -/
theorem ratesNoting_run (l : ValueList) (d : Daemon abi) (noted : List Access) :
    (l.ratesNoting d).run noted
      = (l.rates d, noted ++ if l.allGauges then [] else .asked l.declared ::
          ((d.cachedRates l.declared).map fun buffer =>
            Access.read l.values.length buffer.length).toList) := by
  unfold ratesNoting
  cases hgauges : l.allGauges with
  | true =>
      rw [rates_of_allGauges hgauges]
      simp
      rfl
  | false =>
      rw [rates_of_not_allGauges hgauges]
      cases hcache : d.cachedRates l.declared with
      | none =>
          simp
          rfl
      | some buffer =>
          -- what is not read stands past the values, and would not have met one
          simp [zip_take_length]
          rfl

/-- A list has no more values than it declares. It may have fewer, since values without a source are
left out, but the cache is asked for what is declared. -/
theorem length_values_le_declared {set : DataSet abi} {list : RawList abi}
    (decoded : Decodes set list l) : l.values.length ≤ l.declared.toNat := by
  rw [length_values decoded, decoded.declared]
  omega

/-- The report at every place has become what it has to, if what was read of the buffer was there. -/
theorem rates_at {reports : List Report} (hrates : l.rates d = some reports)
    (room : l.values.length ≤ l.declared.toNat) :
    reports.length = l.values.length ∧
    ∀ (i : Nat) (r : Report), l.values[i]? = some r →
      ∃ r', reports[i]? = some r' ∧ Replaces d.rates i r r' := by
  -- With gauges alone the cache is not asked; else it gives as many rates as the list declares,
  -- and `room` says that no value is without one.
  cases hgauges : l.allGauges with
  | true =>
      rw [rates_of_allGauges hgauges] at hrates
      obtain rfl := Option.some.inj hrates
      refine ⟨rfl, fun i r hr => ⟨r, hr, ?_⟩⟩
      have hgauge := allGauges_iff.mp hgauges r (List.mem_of_getElem? hr)
      exact replaces_of_gauge hgauge d.rates i
  | false =>
      rw [rates_of_not_allGauges hgauges] at hrates
      obtain ⟨buffer, hbuffer, rfl⟩ := Option.map_eq_some_iff.mp hrates
      have hroom := room.trans (Daemon.le_length_of_cachedRates hbuffer)
      constructor
      · simp only [List.length_map, List.length_zip]
        omega
      · intro i r hr
        have hi : i < l.values.length := (List.getElem?_eq_some_iff.mp hr).1
        obtain ⟨rates, hcached, hrate⟩ :=
          Daemon.getElem?_of_cachedRates hbuffer (Nat.lt_of_lt_of_le hi hroom)
        refine ⟨Report.withRate r (rates[i]?.getD Double.zero), ?_, ?_⟩
        · have hpair : (buffer.zip l.values)[i]? = some (rates[i]?.getD Double.zero, r) :=
            List.getElem?_zip_eq_some.mpr ⟨hrate, hr⟩
          rw [List.getElem?_map, hpair]
          rfl
        · rw [hcached]
          exact replaces_withRate rates i r

/-- The answer to a request for the rates of a decoded list. Where all values are gauges, or there are
none, it is the values, and the cache is not asked. It is missing exactly when there is another value
and the cache fails. Else there is one report for each value and in the same place, with the same name
and bounds; a gauge has kept its bits, and any other value is the gauge of the rate at its place. And
no more of a buffer is read than the cache has given out, however many values, sources and rates
there are. -/
theorem rates_replace_all_but_gauges {set : DataSet abi} {list : RawList abi} {l : ValueList}
    (decoded : ofRaw set list = .ok l) (d : Daemon abi) :
    ((l.ratesNoting d).run []).1 = l.rates d ∧
    ((∀ r ∈ l.values, r.value.isGauge = true) → (l.ratesNoting d).run [] = (some l.values, [])) ∧
    (l.rates d = none ↔
      (∃ r ∈ l.values, r.value.isGauge = false) ∧ d.cachedRates l.declared = none) ∧
    (∀ reports, l.rates d = some reports → reports.length = l.values.length ∧
      ∀ (i : Nat) (r : Report), l.values[i]? = some r →
        ∃ r', reports[i]? = some r' ∧ Replaces d.rates i r r') ∧
    ∀ access ∈ ((l.ratesNoting d).run []).2, access.InBounds := by
  have hroom := length_values_le_declared (ofRaw_eq_ok_iff.mp decoded)
  rw [ratesNoting_run]
  refine ⟨rfl, fun hgauges => ?_, rates_eq_none_iff, fun reports h => rates_at h hroom, ?_⟩
  · have hall := allGauges_iff.mpr hgauges
    simp [rates_of_allGauges hall, hall]
  · intro access haccess
    split at haccess
    · cases haccess
    · rcases List.mem_cons.mp haccess with rfl | hread
      · exact trivial
      · obtain ⟨buffer, hbuffer, rfl⟩ :=
          Option.map_eq_some_iff.mp (Option.mem_toList.mp hread)
        exact hroom.trans (Daemon.le_length_of_cachedRates hbuffer)

/-- Three values of one disk, of which the second is a gauge that is no number. -/
def mixedRaw : RawList .current where
  values := some [7, 0x7FF8000000000000, 9]
  count := 3
  time := 0
  interval := 0
  host := TextField.ofBytes _ []
  plugin := TextField.ofBytes _ (Utf8.encode "disk")
  pluginInstance := TextField.ofBytes _ []
  type := TextField.ofBytes _ (Utf8.encode "ops")
  typeInstance := TextField.ofBytes _ []
  metadata := none

/-- One more source than there are values. -/
def mixedSet : DataSet .current where
  sources := some [sourceOf [0x61] 2, sourceOf [0x62] 1, sourceOf [0x63] 0, sourceOf [0x64] 1]
  count := 4

def mixed : ValueList where
  values :=
    [⟨"a", .derive 7, .zero, .zero⟩, ⟨"b", .gauge ⟨0x7FF8000000000000⟩, .zero, .zero⟩,
      ⟨"c", .counter 9, .zero, .zero⟩]
  plugin := "disk"
  pluginInstance := none
  type := "ops"
  typeInstance := none
  host := ""
  time := ⟨0⟩
  interval := ⟨0⟩
  metadata := []
  declared := 3

/-- A daemon whose cache has one rate, 1.5. -/
def sparse : Daemon .current := { Daemon.initial with rates := some [⟨0x3FF8000000000000⟩] }

/-- The first value has the rate, the gauge stays, and there is a zero for the last. -/
theorem rates_replace_all_but_gauges_mixed :
    ofRaw mixedSet mixedRaw = .ok mixed ∧
    mixed.rates sparse = some
      [⟨"a", .gauge ⟨0x3FF8000000000000⟩, .zero, .zero⟩,
        ⟨"b", .gauge ⟨0x7FF8000000000000⟩, .zero, .zero⟩, ⟨"c", .gauge .zero, .zero, .zero⟩] ∧
    ((mixed.rates sparse = none ↔
        (∃ r ∈ mixed.values, r.value.isGauge = false) ∧
          sparse.cachedRates mixed.declared = none) ∧
      (∀ reports, mixed.rates sparse = some reports → reports.length = 3 ∧
        ∀ (i : Nat) (r : Report), mixed.values[i]? = some r →
          ∃ r', reports[i]? = some r' ∧ Replaces sparse.rates i r r') ∧
      ∀ access ∈ ((mixed.ratesNoting sparse).run []).2, access.InBounds) := by
  have decoded : ofRaw mixedSet mixedRaw = .ok mixed := rfl
  exact ⟨decoded, rfl, (rates_replace_all_but_gauges decoded sparse).2.2⟩

end ValueList

end PluginKit
