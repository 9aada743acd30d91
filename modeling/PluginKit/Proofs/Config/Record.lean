import Mathlib.Data.List.Nodup
import Mathlib.Data.List.Perm.Basic
import PluginKit.Config.Decode
import PluginKit.Proofs.Metadata
import PluginKit.Proofs.Steps

/-!
# `PluginKit.Proofs.Config.Record`: when a block is a record

A record reads its block key by key and keeps what it has read so far, since no two keys may stand for
one field. What a key adds does not depend on what came before it (`Takes`), so the walk comes to two
conditions that know no order: every key adds something or may be skipped, and all that is added has
different names (`Reads`). The fields then find their values by name.

* `Fields.Takes`, `Fields.Reads`: what one key adds, and what all keys add.
* `step_eq_ok_iff`, `foldlM_step_eq_ok_iff_reads`: one key, and the walk over all of them.
* `decode_record_eq_ok_iff`: when a block is a record, and which one.
* `Reads.of_perm`, `complete_congr`: the order of the keys makes no difference.
-/

set_option autoImplicit false

namespace PluginKit

namespace Config

namespace Fields

/-- What a key adds to a record: the value of its field, or nothing if no field has it and that is
allowed. What was read before has no part in it. -/
inductive Takes (strict : Bool) (fields : Fields) (line : String × List Entry) :
    List (String × Datum) → Prop where
  | skipped (unknown : fields.find? line.1 = none) (lax : strict = false) :
      Takes strict fields line []
  | taken {name key : String} {d : Datum} (known : fields.find? line.1 = some (name, key))
      (fits : fields.decodeKey line.1 (.listed line.2) = .ok d) :
      Takes strict fields line [(name, d)]

/-- What all keys add together. No two of them may add under one name, which is the only thing in
which the keys of a record depend on each other. -/
structure Reads (strict : Bool) (fields : Fields) (lines : List (String × List Entry))
    (read : List (String × Datum)) : Prop where
  slots : ∃ slots, List.Forall₂ (fields.Takes strict) lines slots ∧ slots.flatten = read
  distinct : (read.map Prod.fst).Nodup

/-- One key, after those that were read. It is the body of the loop in `Schema.decode`, under a name
of its own. -/
def step (strict : Bool) (fields : Fields) (read : List (String × Datum))
    (line : String × List Entry) : Except DecodeError (List (String × Datum)) :=
  match fields.find? line.1 with
  | none => if strict then .error (Misfit.unknownField line.1 fields.keys).here else .ok read
  | some (name, key) =>
    if (read.lookup name).isSome then .error (Misfit.duplicateField key).here
    else
      match fields.decodeKey line.1 (.listed line.2) with
      | .ok d => .ok (read ++ [(name, d)])
      | .error e => .error (e.under line.1)

variable {strict : Bool} {fields : Fields}

theorem lookup_isSome_iff {read : List (String × Datum)} {name : String} :
    (read.lookup name).isSome ↔ name ∈ read.map Prod.fst := by
  rw [← not_iff_not, Option.not_isSome_iff_eq_none]
  exact Metadata.lookup_eq_none_iff

/-- A step succeeds exactly when its key adds something, or may be skipped, and adds no name that is
there already. With this the walk is a row of independent keys and one condition on the outcome. -/
theorem step_eq_ok_iff {read out : List (String × Datum)} {line : String × List Entry}
    (hdistinct : (read.map Prod.fst).Nodup) :
    fields.step strict read line = .ok out ↔
      ∃ slot, fields.Takes strict line slot ∧ out = read ++ slot ∧ (out.map Prod.fst).Nodup := by
  have hnodup : ∀ (name : String) (d : Datum), ((read ++ [(name, d)]).map Prod.fst).Nodup ↔
      name ∉ read.map Prod.fst := by
    intro name d
    simp only [List.map_append, List.map_cons, List.map_nil, List.nodup_append, hdistinct,
      List.nodup_singleton, true_and, List.mem_singleton, forall_eq]
    exact ⟨fun h hmem => h name hmem rfl, fun h _ hother heq => h (heq ▸ hother)⟩
  unfold step
  constructor
  · intro h
    split at h
    · rename_i hunknown
      cases hstrict : strict with
      | true =>
          rw [hstrict] at h
          cases h
      | false =>
          rw [hstrict] at h
          obtain rfl := Except.ok.inj h
          exact ⟨[], .skipped hunknown rfl, (List.append_nil _).symm, hdistinct⟩
    · rename_i name key hknown
      split at h
      · cases h
      · rename_i hnew
        split at h
        · rename_i d hd
          obtain rfl := Except.ok.inj h
          rw [lookup_isSome_iff] at hnew
          exact ⟨[(name, d)], .taken hknown hd, rfl, (hnodup name d).mpr hnew⟩
        · cases h
  · rintro ⟨slot, htakes, rfl, hout⟩
    -- that the names differ is what the check for a second key asks
    cases htakes with
    | skipped hunknown hlax =>
        rw [hunknown, hlax, List.append_nil]
        rfl
    | @taken name key d hknown hd =>
        have hnew : (read.lookup name).isSome = false := by
          rw [Bool.eq_false_iff, ne_eq, lookup_isSome_iff]
          exact (hnodup name d).mp hout
        rw [hknown, hd]
        dsimp only
        rw [hnew]
        rfl

/-- The walk over all keys, from whatever was read before: the induction that turns the loop into
`Takes` for each key. -/
theorem foldlM_step_eq_ok_iff {lines : List (String × List Entry)}
    {read out : List (String × Datum)} (hdistinct : (read.map Prod.fst).Nodup) :
    lines.foldlM (fields.step strict) read = .ok out ↔
      ∃ slots, List.Forall₂ (fields.Takes strict) lines slots ∧ out = read ++ slots.flatten ∧
        (out.map Prod.fst).Nodup := by
  induction lines generalizing read with
  | nil =>
      constructor
      · intro h
        obtain rfl := Except.ok.inj h
        exact ⟨[], .nil, by simp, hdistinct⟩
      · rintro ⟨slots, hslots, rfl, -⟩
        cases hslots
        simp [pure, Except.pure]
  | cons line rest ih =>
      rw [List.foldlM_cons, bind_eq_ok]
      constructor
      · rintro ⟨mid, hstep, hrest⟩
        obtain ⟨slot, htakes, rfl, hmid⟩ := (step_eq_ok_iff hdistinct).mp hstep
        obtain ⟨slots, hslots, rfl, hout⟩ := (ih hmid).mp hrest
        exact ⟨slot :: slots, .cons htakes hslots, by simp, hout⟩
      · rintro ⟨_, hslots, rfl, hout⟩
        cases hslots with
        | @cons _ slot _ slots htakes hslots =>
            have hall : read ++ (slot :: slots).flatten = read ++ slot ++ slots.flatten := by simp
            -- names that differ in the end differed on the way
            have hmid : ((read ++ slot).map Prod.fst).Nodup := by
              have hparts := hout
              rw [hall, List.map_append] at hparts
              exact (List.nodup_append.mp hparts).1
            exact ⟨read ++ slot, (step_eq_ok_iff hdistinct).mpr ⟨slot, htakes, rfl, hmid⟩,
              (ih hmid).mpr ⟨slots, hslots, hall, hout⟩⟩

/-- The walk from the start is `Reads`. -/
theorem foldlM_step_eq_ok_iff_reads {lines : List (String × List Entry)}
    {read : List (String × Datum)} :
    lines.foldlM (fields.step strict) [] = .ok read ↔ fields.Reads strict lines read := by
  have hnone : (([] : List (String × Datum)).map Prod.fst).Nodup := List.nodup_nil
  rw [foldlM_step_eq_ok_iff hnone]
  constructor
  · rintro ⟨slots, hslots, rfl, hdistinct⟩
    exact ⟨⟨slots, hslots, rfl⟩, hdistinct⟩
  · rintro ⟨⟨slots, hslots, rfl⟩, hdistinct⟩
    exact ⟨slots, hslots, rfl, hdistinct⟩

/-! ### Order -/

/-- Keys in another order add the same, in another order. So a record can be read from every order
of its keys or from none. -/
theorem Reads.of_perm {lines others : List (String × List Entry)}
    {read : List (String × Datum)} (perm : others.Perm lines) (h : fields.Reads strict lines read) :
    ∃ read', fields.Reads strict others read' ∧ read'.Perm read := by
  obtain ⟨⟨slots, hslots, rfl⟩, hdistinct⟩ := h
  -- what a key adds goes with the key
  obtain ⟨slots', hslots', hperm⟩ := List.perm_comp_forall₂ perm hslots
  have hread : slots'.flatten.Perm slots.flatten := hperm.flatten
  exact ⟨slots'.flatten, ⟨⟨slots', hslots', rfl⟩, (hread.map Prod.fst).nodup_iff.mpr hdistinct⟩,
    hread⟩

/-- The fields find their values by name, and do not see in which order those were read. -/
theorem complete_congr {read read' : List (String × Datum)}
    (h : ∀ name, read.lookup name = read'.lookup name) :
    ∀ fields : Fields, fields.complete read = fields.complete read'
  | .nil => rfl
  | .cons name key aliases default schema rest => by
      rw [complete, complete, h name, complete_congr h rest]

/-- What was read in another order completes the fields alike, as no name comes twice. -/
theorem complete_perm {read read' : List (String × Datum)} (perm : read.Perm read')
    (hdistinct : (read.map Prod.fst).Nodup) : fields.complete read = fields.complete read' :=
  complete_congr (fun name => Metadata.lookup_eq_of_perm perm hdistinct name) fields

end Fields

/-! ### Records -/

/-- Decoding a record in two parts: the walk over the keys, and what the fields make of it. -/
theorem decode_record_eq (name : String) (strict : Bool) (fields : Fields) (source : Source) :
    (Schema.record name strict fields).decode source
      = (do
        let read ← (← source.keys).foldlM (fields.step strict) []
        Datum.record <$> fields.complete read) := by
  rw [Schema.decode]
  rfl

/-- A block is a record when its keys can be read together and complete the fields. -/
theorem decode_record_eq_ok_iff {name : String} {strict : Bool} {fields : Fields} {source : Source}
    {d : Datum} :
    (Schema.record name strict fields).decode source = .ok d ↔
      ∃ lines read values, source.keys = .ok lines ∧ fields.Reads strict lines read ∧
        fields.complete read = .ok values ∧ d = .record values := by
  rw [decode_record_eq, bind_eq_ok]
  constructor
  · rintro ⟨lines, hlines, h⟩
    obtain ⟨read, hread, h⟩ := bind_eq_ok.mp h
    obtain ⟨values, hvalues, rfl⟩ := map_eq_ok h
    exact ⟨lines, read, values, hlines, Fields.foldlM_step_eq_ok_iff_reads.mp hread, hvalues, rfl⟩
  · rintro ⟨lines, read, values, hlines, hread, hvalues, rfl⟩
    have hwalk := Fields.foldlM_step_eq_ok_iff_reads.mpr hread
    refine ⟨lines, hlines, bind_eq_ok.mpr ⟨read, hwalk, ?_⟩⟩
    rw [hvalues]
    rfl

end Config

end PluginKit
