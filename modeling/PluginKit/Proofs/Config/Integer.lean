import PluginKit.Proofs.Config.FieldByField
import PluginKit.Proofs.Number.Double

/-!
# `PluginKit.Proofs.Config.Integer`: numbers where integers are expected

Configuration has doubles only. A field of an integer type takes those that are whole and in range,
where the bounds of the range are doubles too. All bounds of up to 53 bits are doubles. Of the wider
types the least value is a double and the largest is not: the nearest double is the power of two
above it, which is let through and becomes the largest value.

* `IntegerType.native`: the types of 8 to 64 bits.
* `IntegerType.exists_double_smallest`, `IntegerType.ceiling_nearest`: the bounds as doubles.
* `IntegerType.Delivers`, `IntegerType.ofDouble_eq_ok_iff`: the integer that a double becomes.
* `Fields.lone`, `decodeItems_lone`: a record of one field goes by what its key lists.
* `integer_field_exact_below_ceiling`: a field with a number under its key.
* `integer_field_past_largest`: the number past the largest of 64 bits, which is taken for it.
-/

set_option autoImplicit false

namespace PluginKit

namespace Config

namespace IntegerType

/-- The types of whole words and parts of words. -/
def native : List IntegerType :=
  [⟨true, 8⟩, ⟨true, 16⟩, ⟨true, 32⟩, ⟨true, 64⟩,
   ⟨false, 8⟩, ⟨false, 16⟩, ⟨false, 32⟩, ⟨false, 64⟩]

variable {t : IntegerType}

/-! ### Bounds as doubles

A number is compared with the bounds after these have become doubles. The definition of `ofDouble`
compares integers instead, with `smallest` and `ceiling` in the place of the bounds. The three facts
here say that this is the same: both are doubles, and `ceiling` is what rounding makes of the largest
value. -/

/-- The smallest value of each type is a power of two below zero, or zero, so it is a double. -/
theorem exists_double_smallest (ht : t ∈ native) :
    ∃ x : Double, x.value? = some (t.smallest : ℚ) := by
  simp only [← Double.toInt?_eq_some_iff]
  simp only [native, List.mem_cons, List.not_mem_nil, or_false] at ht
  rcases ht with rfl | rfl | rfl | rfl | rfl | rfl | rfl | rfl
  · exact ⟨⟨0xC060000000000000⟩, by decide⟩
  · exact ⟨⟨0xC0E0000000000000⟩, by decide⟩
  · exact ⟨⟨0xC1E0000000000000⟩, by decide⟩
  · exact ⟨⟨0xC3E0000000000000⟩, by decide⟩
  all_goals exact ⟨.zero, by decide⟩

/-- The largest value of up to 53 bits is a double, and of 64 bits the number after it is one. -/
theorem exists_double_ceiling (ht : t ∈ native) :
    ∃ x : Double, x.value? = some (t.ceiling : ℚ) := by
  simp only [← Double.toInt?_eq_some_iff]
  simp only [native, List.mem_cons, List.not_mem_nil, or_false] at ht
  rcases ht with rfl | rfl | rfl | rfl | rfl | rfl | rfl | rfl
  · exact ⟨⟨0x405FC00000000000⟩, by decide⟩
  · exact ⟨⟨0x40DFFFC000000000⟩, by decide⟩
  · exact ⟨⟨0x41DFFFFFFFC00000⟩, by decide⟩
  · exact ⟨⟨0x43E0000000000000⟩, by decide⟩
  · exact ⟨⟨0x406FE00000000000⟩, by decide⟩
  · exact ⟨⟨0x40EFFFE000000000⟩, by decide⟩
  · exact ⟨⟨0x41EFFFFFFFE00000⟩, by decide⟩
  · exact ⟨⟨0x43F0000000000000⟩, by decide⟩

/-- The largest value is its own ceiling, or it is an odd number of more than 53 bits and the
ceiling is one more. -/
theorem ceiling_cases (ht : t ∈ native) :
    t.bits ≠ 64 ∧ t.ceiling = t.largest ∨
      t.bits = 64 ∧ t.ceiling = t.largest + 1 ∧
        ∃ n : ℕ, t.largest = n ∧ n % 2 = 1 ∧ 2 ^ 53 < n := by
  simp only [native, List.mem_cons, List.not_mem_nil, or_false] at ht
  rcases ht with rfl | rfl | rfl | rfl | rfl | rfl | rfl | rfl
  case inr.inr.inr.inl => exact .inr ⟨rfl, rfl, 2 ^ 63 - 1, by decide, by decide, by decide⟩
  case inr.inr.inr.inr.inr.inr.inr =>
    exact .inr ⟨rfl, rfl, 2 ^ 64 - 1, by decide, by decide, by decide⟩
  all_goals exact .inl ⟨by decide, rfl⟩

/-- The ceiling of a type is the double that is nearest to its largest value. That is what the bound
of the code is: the largest value, made into a double by rounding. -/
theorem ceiling_nearest (ht : t ∈ native) {y : Double} {v : ℚ} (hy : y.value? = some v) :
    |(t.ceiling : ℚ) - t.largest| ≤ |v - t.largest| := by
  rcases ceiling_cases ht with ⟨-, hceiling⟩ | ⟨-, hceiling, n, hn, hodd, hlarge⟩
  · rw [hceiling, sub_self, abs_zero]
    exact abs_nonneg _
  · -- the ceiling is one away, and no double is nearer to an odd number of so many bits
    have hgap := Double.one_le_abs_sub_of_odd hy hodd hlarge
    rw [hceiling, hn]
    push_cast
    simpa using hgap

/-! ### From doubles to integers -/

/-- What a double becomes under a type: the integer that it is, if that is in range; and the largest
value of 64 bits in the place of the number after it. -/
inductive Delivers (t : IntegerType) (x : Double) : ℤ → Prop where
  | exact {n : ℤ} (value : x.value? = some (n : ℚ)) (lower : t.smallest ≤ n)
      (upper : n ≤ t.largest) : Delivers t x n
  | clipped (wide : t.bits = 64) (value : x.value? = some ((t.largest + 1 : ℤ) : ℚ)) :
      Delivers t x t.largest

/-- No type is empty, so a number that is cut down to the largest value is not below the
smallest. -/
theorem smallest_le_largest (ht : t ∈ native) : t.smallest ≤ t.largest := by
  revert t
  decide

/-- The two comparisons and the cut of the code come to `Delivers`: exact in the range, and one
number past it for the types of 64 bits. -/
theorem ofDouble_eq_ok_iff (ht : t ∈ native) {x : Double} {n : ℤ} :
    t.ofDouble x = .ok n ↔ t.Delivers x n := by
  have hbounds := smallest_le_largest ht
  unfold ofDouble
  constructor
  · intro h
    split at h
    · rename_i i hi
      rw [Double.toInt?_eq_some_iff] at hi
      split at h
      · rename_i hrange
        obtain rfl := Except.ok.inj h
        rcases le_or_gt i t.largest with hle | hgt
        · rw [min_eq_left hle]
          exact .exact hi hrange.1 hle
        · -- only the ceiling of 64 bits lies in between
          rw [min_eq_right hgt.le]
          rcases ceiling_cases ht with ⟨-, hceiling⟩ | ⟨hwide, hceiling, -⟩
          · omega
          · obtain rfl : i = t.largest + 1 := by omega
            exact .clipped hwide hi
      · cases h
    · cases h
  · intro h
    cases h with
    | exact value lower upper =>
        have hle : t.largest ≤ t.ceiling := by
          rcases ceiling_cases ht with ⟨-, hceiling⟩ | ⟨-, hceiling, -⟩ <;> omega
        rw [(Double.toInt?_eq_some_iff x n).mpr value]
        dsimp only
        rw [if_pos ⟨lower, upper.trans hle⟩, min_eq_left upper]
    | clipped wide value =>
        rw [(Double.toInt?_eq_some_iff x _).mpr value]
        dsimp only
        rcases ceiling_cases ht with ⟨hwide, -⟩ | ⟨-, hceiling, -⟩
        · exact absurd wide hwide
        · rw [if_pos ⟨by omega, hceiling.ge⟩, min_eq_right (by omega)]

/-- There is one way to refuse a double, whether it is no integer or out of range. -/
theorem ofDouble_eq_error {x : Double} {e : DecodeError} (h : t.ofDouble x = .error e) :
    e = (Misfit.notInteger x).here := by
  unfold ofDouble at h
  split at h
  · split at h
    · cases h
    · exact (Except.error.inj h).symm
  · exact (Except.error.inj h).symm

end IntegerType

/-! ### Fields -/

/-- The fields of a record that has only one. -/
def Fields.lone (field key : String) (default : Option Datum) (schema : Schema) : Fields :=
  .cons field key [] default schema .nil

section
variable {name field key : String} {strict : Bool} {default : Option Datum} {schema : Schema}

/-- A key that no field has is passed over, and is not allowed in a strict record. -/
theorem foldlM_step_skip {fields : Fields} {lines : List (String × List Entry)}
    (hunknown : ∀ line ∈ lines, fields.find? line.1 = none ∧ strict = false)
    (read : List (String × Datum)) : lines.foldlM (fields.step strict) read = .ok read := by
  induction lines with
  | nil => rfl
  | cons line rest ih =>
      obtain ⟨hfind, hlax⟩ := hunknown line List.mem_cons_self
      have hstep : fields.step strict read line = .ok read := by
        unfold Fields.step
        rw [hfind, hlax]
        rfl
      rw [List.foldlM_cons, hstep]
      exact ih fun other h => hunknown other (List.mem_cons_of_mem _ h)

/-- One line is for the field and the others are for none. -/
theorem foldlM_step_lone {before after : List (String × List Entry)} {line : String × List Entry}
    (hothers : ∀ other ∈ before ++ after, other.1 ≠ line.1 ∧ strict = false) :
    (before ++ line :: after).foldlM ((Fields.lone field line.1 default schema).step strict) []
      = match schema.decode (.listed line.2) with
        | .ok d => .ok [(field, d)]
        | .error e => .error (e.under line.1) := by
  have hunknown : ∀ other ∈ before ++ after,
      (Fields.lone field line.1 default schema).find? other.1 = none ∧ strict = false := by
    intro other h
    obtain ⟨hne, hlax⟩ := hothers other h
    refine ⟨?_, hlax⟩
    simp [Fields.lone, Fields.find?, hne]
  have hline : (Fields.lone field line.1 default schema).step strict [] line
      = match schema.decode (.listed line.2) with
        | .ok d => .ok [(field, d)]
        | .error e => .error (e.under line.1) := by
    cases h : schema.decode (.listed line.2) <;>
      simp [Fields.lone, Fields.step, Fields.find?, Fields.decodeKey, h]
  -- nothing is read before the line, and nothing is added after it
  rw [List.foldlM_append, foldlM_step_skip fun other h => hunknown other (by simp [h])]
  show (do
    let read ← (Fields.lone field line.1 default schema).step strict [] line
    after.foldlM _ read) = _
  rw [hline]
  cases schema.decode (.listed line.2) with
  | ok d => exact foldlM_step_skip (fun other h => hunknown other (by simp [h])) _
  | error e => rfl

/-- A record of one field goes by what its key lists. Other keys are passed over; a strict record
must not have any. So what holds of a schema by itself can be said of a field. -/
theorem decodeItems_lone {items : List Item} (hkey : key ∈ items.map Item.key)
    (hstrict : strict = true → ∀ item ∈ items, item.key = key) :
    (Schema.record name strict (.lone field key default schema)).decodeItems items
      = match schema.decode (.listed (listedUnder key (Item.lines items))) with
        | .ok d => .ok (.record [(field, d)])
        | .error e => .error (e.under key) := by
  have hgathers := gathers_ofItems items
  rw [← Item.keys_lines, ← hgathers.keys] at hkey
  obtain ⟨line, hline, rfl⟩ := List.mem_map.mp hkey
  obtain ⟨before, after, hsplit⟩ := List.append_of_mem hline
  have hothers : ∀ other ∈ before ++ after, other.1 ≠ line.1 ∧ strict = false := by
    have hdistinct := hgathers.distinct
    rw [hsplit, List.map_append, List.map_cons, List.nodup_middle, List.nodup_cons,
      ← List.map_append] at hdistinct
    intro other hother
    have hne : other.1 ≠ line.1 := fun heq => hdistinct.1 (heq ▸ List.mem_map_of_mem hother)
    refine ⟨hne, Bool.eq_false_iff.mpr fun h => hne ?_⟩
    -- the key of another line is the key of an item
    have hmem : other.1 ∈ items.map Item.key := by
      rw [← Item.keys_lines, ← hgathers.keys, hsplit]
      refine List.mem_map_of_mem ?_
      simp only [List.mem_append, List.mem_cons] at hother ⊢
      tauto
    obtain ⟨item, hitem, heq⟩ := List.mem_map.mp hmem
    exact heq ▸ hstrict h item hitem
  rw [Schema.decodeItems, decode_record_eq, ← hgathers.listed line hline]
  show (do
    let read ← (Block.ofItems items).foldlM
      ((Fields.lone field line.1 default schema).step strict) []
    Datum.record <$> (Fields.lone field line.1 default schema).complete read) = _
  rw [hsplit, foldlM_step_lone hothers]
  cases schema.decode (.listed line.2) with
  | ok d =>
      show Datum.record <$> (Fields.lone field line.1 default schema).complete [(field, d)] = _
      simp [Fields.lone, Fields.complete]
  | error e => rfl

/-- A number under the key of an integer field becomes the integer that it is, and is refused if it
is none or is out of range. The number after the largest value of 64 bits becomes that value. -/
theorem integer_field_exact_below_ceiling {t : IntegerType} (ht : t ∈ IntegerType.native)
    {items : List Item} {x : Double} (hlisted : listedUnder key (Item.lines items) = [.number x])
    (hstrict : strict = true → ∀ item ∈ items, item.key = key) :
    (∀ d, (Schema.record name strict (.lone field key default (.integer t))).decodeItems items
        = .ok d ↔
      ∃ n, t.Delivers x n ∧ d = .record [(field, .integer n)]) ∧
    (∀ e, (Schema.record name strict (.lone field key default (.integer t))).decodeItems items
        = .error e ↔
      (∀ n, ¬ t.Delivers x n) ∧ e = ⟨[key], .notInteger x⟩) := by
  have hkey : key ∈ items.map Item.key := by
    by_contra hmissing
    rw [listedUnder_of_missing hmissing] at hlisted
    cases hlisted
  have hfield : (Schema.integer t).decode (.listed [.number x])
      = Datum.integer <$> t.ofDouble x := by
    rw [Schema.decode]
    show (do return Datum.integer (← t.ofDouble x)) = _
    cases t.ofDouble x <;> rfl
  -- A record of one field is that field with its key put in front of an error, so only
  -- `ofDouble` is left to be looked at.
  rw [decodeItems_lone hkey hstrict, hlisted, hfield]
  cases h : t.ofDouble x with
  | ok n =>
      have hdelivers : ∀ m, t.Delivers x m ↔ n = m := by
        intro m
        rw [← IntegerType.ofDouble_eq_ok_iff ht, h]
        exact Except.ok.injEq n m ▸ Iff.rfl
      show (∀ d, Except.ok (Datum.record [(field, .integer n)]) = .ok d ↔ _) ∧
        ∀ e, Except.ok (Datum.record [(field, .integer n)]) = .error e ↔ _
      simp [hdelivers, eq_comm]
  | error e =>
      obtain rfl := IntegerType.ofDouble_eq_error h
      have hnone : ∀ n, ¬ t.Delivers x n := by
        intro n hn
        rw [(IntegerType.ofDouble_eq_ok_iff ht).mpr hn] at h
        cases h
      show (∀ d, Except.error (DecodeError.mk [key] (.notInteger x)) = .ok d ↔ _) ∧
        ∀ e, Except.error (DecodeError.mk [key] (.notInteger x)) = .error e ↔ _
      simp [hnone, eq_comm]

/-- The last double before 2^64, for a field of 64 bits without a sign and next to other keys. -/
theorem integer_field_exact_last_word :
    (∀ d, (Schema.record "Dice" false (.lone "seed" "Seed" none (.integer ⟨false, 64⟩))).decodeItems
        [⟨"Plugin", [.text "noise"], []⟩, ⟨"Seed", [.number ⟨0x43EFFFFFFFFFFFFF⟩], []⟩] = .ok d ↔
      ∃ n, IntegerType.Delivers ⟨false, 64⟩ ⟨0x43EFFFFFFFFFFFFF⟩ n ∧
        d = .record [("seed", .integer n)]) ∧
    (Schema.record "Dice" false (.lone "seed" "Seed" none (.integer ⟨false, 64⟩))).decodeItems
        [⟨"Plugin", [.text "noise"], []⟩, ⟨"Seed", [.number ⟨0x43EFFFFFFFFFFFFF⟩], []⟩]
      = .ok (.record [("seed", .integer 18446744073709549568)]) := by
  have hnative : (⟨false, 64⟩ : IntegerType) ∈ IntegerType.native := by decide
  have h := (@integer_field_exact_below_ceiling "Dice" "seed" "Seed" false none _ hnative
    [⟨"Plugin", [.text "noise"], []⟩, ⟨"Seed", [.number ⟨0x43EFFFFFFFFFFFFF⟩], []⟩] _ rfl nofun).1
  refine ⟨h, (h _).mpr ⟨18446744073709549568, .exact ?_ (by decide) (by decide), rfl⟩⟩
  exact (Double.toInt?_eq_some_iff _ _).mp (by decide)

/-- The number after the largest value of 64 bits with a sign is not in range, and is delivered as
that value. -/
theorem integer_field_past_largest :
    (Double.mk 0x43E0000000000000).value? = some (9223372036854775808 : ℚ) ∧
    IntegerType.largest ⟨true, 64⟩ = 9223372036854775807 ∧
    (Schema.record "Limits" false (.lone "value" "value" none (.integer ⟨true, 64⟩))).decodeItems
        [⟨"value", [.number ⟨0x43E0000000000000⟩], []⟩]
      = .ok (.record [("value", .integer 9223372036854775807)]) := by
  refine ⟨?_, by decide, rfl⟩
  exact_mod_cast (Double.toInt?_eq_some_iff _ 9223372036854775808).mp (by decide)

end

end Config

end PluginKit
