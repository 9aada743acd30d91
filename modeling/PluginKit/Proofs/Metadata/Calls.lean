import Mathlib.Data.List.Induction
import PluginKit.Proofs.Metadata

/-!
# `PluginKit.Proofs.Metadata.Calls`: tables are maps with typed values

What the daemon answers to a call is a matter of the calls before it: a table has the keys that were
added to it, in the order in which each was first added, and under every key the value that was added
last, and nothing that was done to another table matters. It is read as the kind that it was added as
and as no other. The count of tables that are alive is that of the tables created less those destroyed.

* `Addition.key`, `Addition.value`, `latest?`, `firstKeys`: what additions come to.
* `find?_fill`, `keys_fill`, `read_of_filled`: a table after additions.
* `additionsTo`, `created`, `destroyed`, `Alive`: what the calls before one come to.
* `expected`: the answer to a call after others.
* `Mirrors`, `Mirrors.answer`, `Mirrors.call`: the daemon's books go with the calls so far.
* `calls_answer_as_typed_maps`: all calls in a row.
-/

set_option autoImplicit false

namespace PluginKit

namespace Metadata

/-! ### What additions come to -/

namespace Addition

/-- The key that is added, without what stands behind its first zero byte. The daemon takes its keys
as texts that end there. -/
def key : Addition → Bytes
  | .text k _ | .signed k _ | .unsigned k _ | .double k _ | .boolean k _ => Terminated.bytes k

/-- The value that is added. A text becomes text, whatever its bytes. -/
def value : Addition → MetaValue
  | .text _ raw => .string (Utf8.decodeLossy (Terminated.bytes raw))
  | .signed _ n => .signed n
  | .unsigned _ n => .unsigned n
  | .double _ x => .double x
  | .boolean _ b => .boolean b

end Addition

/-- The value that was added last under a key. -/
def latest? (additions : List Addition) (key : Bytes) : Option MetaValue :=
  (additions.reverse.find? fun a => a.key = key).map Addition.value

/-- The keys in the order in which each was first added. -/
def firstKeys (additions : List Addition) : List Bytes := (additions.map Addition.key).eraseDups

/-- One more addition decides its own key and no other. -/
theorem latest?_concat (additions : List Addition) (a : Addition) (key : Bytes) :
    latest? (additions ++ [a]) key
      = if a.key = key then some a.value else latest? additions key := by
  unfold latest?
  rw [List.reverse_append, List.reverse_singleton, List.singleton_append, List.find?_cons]
  by_cases hkey : a.key = key <;> simp [hkey]

theorem mem_firstKeys {additions : List Addition} {key : Bytes} :
    key ∈ firstKeys additions ↔ ∃ a ∈ additions, a.key = key := by
  unfold firstKeys
  rw [List.mem_eraseDups, List.mem_map]

/-- A key that was added before keeps its place. -/
theorem firstKeys_concat_of_mem {additions : List Addition} {a : Addition}
    (h : a.key ∈ firstKeys additions) : firstKeys (additions ++ [a]) = firstKeys additions := by
  unfold firstKeys at h ⊢
  rw [List.map_append, List.map_singleton, eraseDups_concat, if_pos (List.mem_eraseDups.mp h),
    List.append_nil]

/-- A new key comes last. -/
theorem firstKeys_concat_of_notMem {additions : List Addition} {a : Addition}
    (h : a.key ∉ firstKeys additions) :
    firstKeys (additions ++ [a]) = firstKeys additions ++ [a.key] := by
  unfold firstKeys at h ⊢
  rw [List.map_append, List.map_singleton, eraseDups_concat, if_neg (mt List.mem_eraseDups.mpr h)]

namespace Table

variable {t : Table}

/-- The five functions that add to a table differ in the value that they add, and in nothing
else. -/
theorem apply_eq (t : Table) (a : Addition) : t.apply a = t.add a.key a.value := by
  cases a <;> rfl

/-- A table that was filled takes one more addition. The inductions on additions go this way, since
the last one decides. -/
theorem fill_concat (additions : List Addition) (a : Addition) :
    fill (additions ++ [a]) = (fill additions).add a.key a.value := by
  unfold fill
  rw [List.foldl_concat, apply_eq]

/-- Under every key is the value that was added last, with its kind: an addition may change the
kind. -/
theorem find?_fill (additions : List Addition) (key : Bytes) :
    (fill additions).find? key = latest? additions key := by
  induction additions using List.reverseRecOn with
  | nil => rfl
  | append_singleton additions a ih =>
      rw [fill_concat, latest?_concat, ← ih]
      exact lookup_put a.key key a.value (fill additions).entries

/-- The keys stand in the order in which each was first added. Adding a key again does not move
it. -/
theorem keys_fill (additions : List Addition) : (fill additions).keys = firstKeys additions := by
  induction additions using List.reverseRecOn with
  | nil => rfl
  | append_singleton additions a ih =>
      have hold : (fill additions).entries.map Prod.fst = firstKeys additions := ih
      rw [fill_concat]
      show (put a.key a.value (fill additions).entries).map Prod.fst = _
      by_cases hkey : a.key ∈ firstKeys additions
      · rw [firstKeys_concat_of_mem hkey, keys_put_of_mem (hold ▸ hkey), hold]
      · rw [firstKeys_concat_of_notMem hkey, put_of_notMem (hold ▸ hkey), List.map_append, hold]
        rfl

end Table

/-- The daemon's number for the kind that is read. -/
def Getter.code : Getter → Int
  | .string => 1
  | .signed => 2
  | .unsigned => 3
  | .double => 4
  | .boolean => 5

/-- A value is read as the kind that it has and as no other. No text in a filled table is without a
terminated form, so a text is never refused. -/
theorem Table.Filled.read {t : Table} (h : t.Filled) (key : Bytes) (getter : Getter) :
    t.read key getter =
      match t.find? key with
      | none => .error .missing
      | some v => if typeCode v = getter.code then .ok v else .error .otherKind := by
  unfold Table.read getString getSigned getUnsigned getDouble getBoolean Table.get
  cases hfound : t.find? key with
  | none => cases getter <;> rfl
  | some v =>
      cases v with
      | string text =>
          have hmem := (lookup_eq_some_iff h.distinct).mp hfound
          have hzero : '\x00' ∉ text.toList := h.texts (key, .string text) hmem text rfl
          cases getter with
          | string => simp [typeCode, Getter.code, hzero, Except.map]
          | _ => rfl
      | _ => cases getter <;> rfl

/-! ### The calls before one -/

/-- Where a call points to, if it points to a table. -/
def Call.ref? : Call → Option Ref
  | .create | .live => none
  | .destroy ref | .add ref _ | .type ref _ | .toc ref _ | .get _ ref _ => ref

/-- What a call adds to a table, if it does. -/
def Call.additionTo? (ref : Ref) : Call → Option Addition
  | .add (some r) (some a) => if r = ref then some a else none
  | _ => none

/-- Whether a call destroys a table. A missing pointer destroys none. -/
def Call.destroys : Call → Bool
  | .destroy (some _) => true
  | _ => false

section
variable (before : List Call)

/-- How many tables were created. -/
def created : Nat := before.count .create

/-- How many tables were destroyed. -/
def destroyed : Nat := before.countP Call.destroys

/-- What was added to a table. -/
def additionsTo (ref : Ref) : List Addition := before.filterMap (Call.additionTo? ref)

/-- A table that was created and not destroyed. Numbers are not used again, so a table that was
destroyed does not come back. -/
def Alive (ref : Ref) : Prop := ref < created before ∧ .destroy (some ref) ∉ before

instance (ref : Ref) : Decidable (Alive before ref) :=
  inferInstanceAs (Decidable (_ ∧ _))

/-- The answer to a getter of a kind where a value was added last under the key. A number other than
zero comes with nothing written. -/
def Getter.expected (getter : Getter) : Option MetaValue → Answer
  | none => .value (-2) none
  | some v => if typeCode v = getter.code then .value 0 (some v) else .value (-1) none

/-- The answer to a call after others. It takes from them how many tables were created and destroyed,
and what was added to the table that the call points to. -/
def expected : Call → Answer
  | .create => .table (created before)
  | .destroy _ => .nothing
  | .add (some _) (some _) => .status 0
  | .add _ _ => .status (-1)
  | .type (some ref) (some key) =>
    .status (((latest? (additionsTo before ref) (Terminated.bytes key)).map typeCode).getD 0)
  | .type _ _ => .status 0
  | .toc (some ref) true =>
    let keys := firstKeys (additionsTo before ref)
    .keys keys.length (if keys.isEmpty then none else some keys)
  | .toc _ _ => .keys (-1) none
  | .get getter (some ref) (some key) =>
    getter.expected (latest? (additionsTo before ref) (Terminated.bytes key))
  | .get _ _ _ => .value (-2) none
  | .live => .live (created before - destroyed before)

end

namespace Table

/-- What the daemon says of the kind of a key, and zero for a key that is not there. -/
theorem typeOf_fill (additions : List Addition) (key : Bytes) :
    Books.typeOf (some (fill additions)) (some key)
      = .status (((latest? additions (Terminated.bytes key)).map typeCode).getD 0) := by
  show Answer.status ((fill additions).typeOf (Terminated.bytes key)) = _
  unfold typeOf
  rw [find?_fill]
  cases latest? additions (Terminated.bytes key) <;> rfl

/-- The list of keys, which is no list at all where there are none. -/
theorem toc_fill (additions : List Addition) :
    Books.toc (some (fill additions)) true
      = .keys (firstKeys additions).length
          (if (firstKeys additions).isEmpty then none else some (firstKeys additions)) := by
  rw [← keys_fill]
  rfl

/-- A getter answers with the value if it has the getter's kind, and says otherwise whether the kind
is wrong or the key is missing. -/
theorem get_fill (additions : List Addition) (key : Bytes) (getter : Getter) :
    Books.get getter (some (fill additions)) (some key)
      = getter.expected (latest? additions (Terminated.bytes key)) := by
  unfold Books.get
  dsimp only
  rw [(filled_fill additions).read, find?_fill]
  cases latest? additions (Terminated.bytes key) with
  | none => rfl
  | some v =>
      unfold Getter.expected
      dsimp only
      by_cases hkind : typeCode v = getter.code
      · rw [if_pos hkind, if_pos hkind]
      · rw [if_neg hkind, if_neg hkind]
        rfl

end Table

/-- Calls that point to nothing but tables that are alive, so that none is destroyed twice. A
pointer to a table that is gone has no meaning, and no answer to a call with one is promised. -/
def Proper (calls : List Call) : Prop :=
  ∀ (i : Nat) (h : i < calls.length), ∀ ref ∈ calls[i].ref?, Alive (calls.take i) ref

instance (calls : List Call) : Decidable (Proper calls) :=
  inferInstanceAs (Decidable (∀ (i : Nat) (h : i < calls.length), ∀ ref ∈ calls[i].ref?, _))

/-! ### The daemon's books -/

/-- The books go with the calls so far. `known` keeps a table that is yet to be created from having
had additions, and `balance` counts without subtracting. -/
structure Mirrors (before : List Call) (b : Books) : Prop where
  next : b.store.next = created before
  known : ∀ call ∈ before, ∀ ref, call.ref? = some ref → ref < created before
  held : ∀ ref, Alive before ref →
    b.store.find? ref = some (Table.fill (additionsTo before ref))
  count : b.count = b.store.live
  balance : b.count + destroyed before = created before

/-- Before the first call there is nothing. -/
theorem mirrors_empty : Mirrors [] Books.empty where
  next := rfl
  known := fun _ h => absurd h List.not_mem_nil
  held := fun _ h => absurd h.1 (Nat.not_lt_zero _)
  count := rfl
  balance := rfl

variable {before : List Call} {b : Books}

theorem created_concat (before : List Call) (call : Call) :
    created (before ++ [call]) = created before + if call = .create then 1 else 0 := by
  unfold created
  rw [List.count_append, List.count_singleton]
  simp only [beq_iff_eq]

theorem destroyed_concat (before : List Call) (call : Call) :
    destroyed (before ++ [call]) = destroyed before + if call.destroys then 1 else 0 := by
  unfold destroyed
  rw [List.countP_append, List.countP_singleton]

theorem additionsTo_concat (before : List Call) (call : Call) (ref : Ref) :
    additionsTo (before ++ [call]) ref
      = additionsTo before ref ++ (call.additionTo? ref).toList := by
  unfold additionsTo
  rw [List.filterMap_append, List.filterMap_cons, List.filterMap_nil]
  cases call.additionTo? ref <;> rfl

theorem created_concat_of_ne {call : Call} (h : call ≠ .create) :
    created (before ++ [call]) = created before := by
  rw [created_concat, if_neg h, Nat.add_zero]

theorem additionsTo_concat_of_none {call : Call} {ref : Ref} (h : call.additionTo? ref = none) :
    additionsTo (before ++ [call]) ref = additionsTo before ref := by
  rw [additionsTo_concat, h, Option.toList_none, List.append_nil]

/-- A call that creates nothing brings nothing to life. -/
theorem Alive.of_concat {call : Call} {ref : Ref} (h : Alive (before ++ [call]) ref)
    (creates : call ≠ .create) : Alive before ref := by
  obtain ⟨hcreated, hkept⟩ := h
  rw [created_concat_of_ne creates] at hcreated
  exact ⟨hcreated, fun hmem => hkept (List.mem_append_left _ hmem)⟩

/-- A call that adds to a table points to it. -/
theorem ref?_of_additionTo? {call : Call} {ref : Ref} {a : Addition}
    (h : call.additionTo? ref = some a) : call.ref? = some ref := by
  unfold Call.additionTo? at h
  split at h
  · split at h
    · rename_i hr
      exact congrArg some hr
    · cases h
  · cases h

namespace Mirrors

/-- Nothing was added to a table that is not there yet, so a table that is created is empty. -/
theorem additionsTo_eq_nil (h : Mirrors before b) {ref : Ref} (new : created before ≤ ref) :
    additionsTo before ref = [] := by
  unfold additionsTo
  rw [List.filterMap_eq_nil_iff]
  intro call hcall
  cases hadds : call.additionTo? ref with
  | none => rfl
  | some a =>
      have hold := h.known call hcall ref (ref?_of_additionTo? hadds)
      exact absurd hold (Nat.not_lt.mpr new)

/-- Whatever a call points to was created, before it or by it. -/
theorem known_concat (h : Mirrors before b) {call : Call}
    (allowed : ∀ ref, call.ref? = some ref → Alive before ref) :
    ∀ c ∈ before ++ [call], ∀ ref, c.ref? = some ref → ref < created (before ++ [call]) := by
  intro c hc ref href
  have hlt : ref < created before := by
    rcases List.mem_append.mp hc with hold | hlast
    · exact h.known c hold ref href
    · exact (allowed ref (List.mem_singleton.mp hlast ▸ href)).1
  rw [created_concat]
  exact Nat.lt_of_lt_of_le hlt (Nat.le_add_right _ _)

/-- A call that creates, destroys and adds nothing changes nothing. Most calls are such calls. -/
theorem idle (h : Mirrors before b) {call : Call}
    (allowed : ∀ ref, call.ref? = some ref → Alive before ref)
    (creates : call ≠ .create) (destroys : call.destroys = false)
    (adds : ∀ ref, call.additionTo? ref = none) : Mirrors (before ++ [call]) b where
  next := by rw [created_concat_of_ne creates, h.next]
  known := h.known_concat allowed
  held := by
    intro ref alive
    rw [additionsTo_concat_of_none (adds ref)]
    exact h.held ref (alive.of_concat creates)
  count := h.count
  balance := by
    rw [created_concat_of_ne creates, destroyed_concat, destroys]
    exact h.balance

/-- A new table is empty and has the next number; the others are as before. -/
theorem create (h : Mirrors before b) : Mirrors (before ++ [.create]) (b.call .create).2 where
  next := by
    rw [created_concat, if_pos rfl, ← h.next]
    rfl
  known := h.known_concat nofun
  held := by
    intro ref alive
    rw [additionsTo_concat_of_none rfl]
    show b.store.create.2.find? ref = _
    by_cases hnew : ref = b.store.next
    · -- the new table is empty, and no call before can have added to it
      have hfresh : created before ≤ ref := by rw [hnew, h.next]
      rw [h.additionsTo_eq_nil hfresh, hnew]
      exact b.store.find?_create
    · obtain ⟨hcreated, hkept⟩ := alive
      rw [created_concat, if_pos rfl, ← h.next] at hcreated
      have hold : Alive before ref := by
        refine ⟨?_, fun hmem => hkept (List.mem_append_left _ hmem)⟩
        rw [← h.next]
        exact Nat.lt_of_le_of_ne (Nat.le_of_lt_succ hcreated) hnew
      rw [Store.find?_create_of_ne hnew]
      exact h.held ref hold
  count := by
    show b.count + 1 = b.store.create.2.live
    rw [Store.live_create, h.count]
  balance := by
    have hbalance := h.balance
    rw [created_concat, if_pos rfl, destroyed_concat]
    show b.count + 1 + (destroyed before + 0) = _
    omega

/-- The table that a call destroys is gone, and the others are as before. -/
theorem destroy (h : Mirrors before b) {ref : Ref} (alive : Alive before ref) :
    Mirrors (before ++ [.destroy (some ref)]) (b.call (.destroy (some ref))).2 := by
  have hallowed : ∀ r, (Call.destroy (some ref)).ref? = some r → Alive before r :=
    fun r hr => Option.some.inj hr ▸ alive
  have hcreated : created (before ++ [.destroy (some ref)]) = created before :=
    created_concat_of_ne nofun
  have hlive := Store.live_destroy (h.held ref alive)
  have hcount := h.count
  constructor
  case next =>
    rw [hcreated]
    exact h.next
  case known => exact h.known_concat hallowed
  case held =>
    intro other hother
    -- what is still alive is not what was destroyed just now
    have hne : other ≠ ref := by
      rintro rfl
      exact hother.2 (List.mem_append_right _ (List.mem_singleton.mpr rfl))
    rw [additionsTo_concat_of_none rfl]
    show (b.store.destroy ref).find? other = _
    rw [Store.find?_destroy_of_ne hne]
    exact h.held other (hother.of_concat nofun)
  case count =>
    -- the table was there, so the count does not stop at zero
    show b.count - 1 = (b.store.destroy ref).live
    omega
  case balance =>
    have hbalance := h.balance
    rw [hcreated, destroyed_concat]
    show b.count - 1 + (destroyed before + 1) = created before
    omega

/-- The table that is pointed to takes the addition, and the others are as before. -/
theorem add (h : Mirrors before b) {ref : Ref} (alive : Alive before ref) (a : Addition) :
    Mirrors (before ++ [.add (some ref) (some a)]) (b.call (.add (some ref) (some a))).2 := by
  have hallowed : ∀ r, (Call.add (some ref) (some a)).ref? = some r → Alive before r :=
    fun r hr => Option.some.inj hr ▸ alive
  have hcreated : created (before ++ [.add (some ref) (some a)]) = created before :=
    created_concat_of_ne nofun
  constructor
  case next =>
    rw [hcreated]
    exact h.next
  case known => exact h.known_concat hallowed
  -- Other tables keep what was added to them, as a call adds to the table it names only.
  case held =>
    intro other hother
    have hold := h.held other (hother.of_concat nofun)
    show (b.store.update ref fun t => t.apply a).find? other = _
    by_cases hne : other = ref
    · subst hne
      have hadds : (Call.add (some other) (some a)).additionTo? other = some a := if_pos rfl
      rw [Store.find?_update hold, additionsTo_concat, hadds, Option.toList_some,
        Table.fill_concat, Table.apply_eq]
    · have hadds : (Call.add (some ref) (some a)).additionTo? other = none := if_neg (Ne.symm hne)
      rw [Store.find?_update_of_ne hne, hold, additionsTo_concat_of_none hadds]
  case count =>
    show b.count = (b.store.update ref fun t => t.apply a).live
    rw [Store.live_update, h.count]
  case balance =>
    rw [hcreated, destroyed_concat]
    exact h.balance

/-- The books go with one more call: the step of the induction along a run. -/
theorem concat (h : Mirrors before b) (call : Call)
    (allowed : ∀ ref, call.ref? = some ref → Alive before ref) :
    Mirrors (before ++ [call]) (b.call call).2 := by
  -- A call without a table or without an addition leaves the books alone, like one that reads.
  cases call with
  | create => exact h.create
  | destroy ref =>
      cases ref with
      | none => exact h.idle allowed nofun rfl fun _ => rfl
      | some ref => exact h.destroy (allowed ref rfl)
  | add ref addition =>
      cases ref with
      | none => exact h.idle allowed nofun rfl fun _ => rfl
      | some ref =>
          cases addition with
          | none => exact h.idle allowed nofun rfl fun _ => rfl
          | some a => exact h.add (allowed ref rfl) a
  | type ref key => exact h.idle allowed nofun rfl fun _ => rfl
  | toc ref place => exact h.idle allowed nofun rfl fun _ => rfl
  | get getter ref key => exact h.idle allowed nofun rfl fun _ => rfl
  | live => exact h.idle allowed nofun rfl fun _ => rfl

/-- The answer to a call is what the calls before it come to, since it is read off books that go
with them. -/
theorem answer (h : Mirrors before b) (call : Call)
    (allowed : ∀ ref, call.ref? = some ref → Alive before ref) :
    (b.call call).1 = expected before call := by
  -- What a call reads of a table is what earlier calls have added to it.
  have htable : ∀ ref, call.ref? = some ref →
      b.table? (some ref) = some (Table.fill (additionsTo before ref)) :=
    fun ref href => h.held ref (allowed ref href)
  cases call with
  | create => exact congrArg Answer.table h.next
  | destroy ref => cases ref <;> rfl
  | add ref addition => cases ref <;> cases addition <;> rfl
  | type ref key =>
      cases ref with
      | none => rfl
      | some ref =>
          show Books.typeOf (b.table? (some ref)) key = _
          rw [htable ref rfl]
          cases key with
          | none => rfl
          | some key => exact Table.typeOf_fill (additionsTo before ref) key
  | toc ref place =>
      cases ref with
      | none => rfl
      | some ref =>
          show Books.toc (b.table? (some ref)) place = _
          rw [htable ref rfl]
          cases place with
          | false => rfl
          | true => exact Table.toc_fill (additionsTo before ref)
  | get getter ref key =>
      cases ref with
      | none => rfl
      | some ref =>
          show Books.get getter (b.table? (some ref)) key = _
          rw [htable ref rfl]
          cases key with
          | none => rfl
          | some key => exact Table.get_fill (additionsTo before ref) key getter
  | live =>
      have hbalance := h.balance
      exact congrArg Answer.live (by omega)

end Mirrors

/-! ### Calls in a row -/

/-- A run with one more call answers the calls before it as it did. -/
theorem run_concat (calls : List Call) (call : Call) :
    Books.run (calls ++ [call])
      = ((Books.run calls).1 ++ [((Books.run calls).2.call call).1],
          ((Books.run calls).2.call call).2) := by
  unfold Books.run
  rw [List.foldl_concat]

/-- A proper run without its last call is proper, and the last call points to a table that is
alive. -/
theorem Proper.of_concat {calls : List Call} {call : Call} (h : Proper (calls ++ [call])) :
    Proper calls ∧ ∀ ref, call.ref? = some ref → Alive calls ref := by
  have hlength : (calls ++ [call]).length = calls.length + 1 := List.length_append
  constructor
  · intro i hi ref href
    have halive := h i (by omega) ref
    rw [List.getElem_append_left hi, List.take_append_of_le_length (Nat.le_of_lt hi)] at halive
    exact halive href
  · intro ref href
    have halive := h calls.length (by omega) ref
    rw [List.getElem_concat_length rfl, List.take_left] at halive
    exact halive href

/-- Along a run the books go with the calls so far, and there is one answer for each. The induction is
on the last call, since an answer depends on all calls before it. -/
theorem run_mirrors (calls : List Call) (proper : Proper calls) :
    Mirrors calls (Books.run calls).2 ∧
    (Books.run calls).1.length = calls.length ∧
    ∀ i, (Books.run calls).1[i]? = calls[i]?.map (expected (calls.take i)) := by
  induction calls using List.reverseRecOn with
  | nil => exact ⟨mirrors_empty, rfl, fun _ => rfl⟩
  | append_singleton calls call ih =>
      obtain ⟨hproper, hallowed⟩ := proper.of_concat
      obtain ⟨hmirrors, hlength, hanswers⟩ := ih hproper
      rw [run_concat]
      refine ⟨hmirrors.concat call hallowed, ?_, fun i => ?_⟩
      · rw [List.length_append, List.length_append, hlength]
        rfl
      · dsimp only
        by_cases hi : i < calls.length
        · -- what comes later does not change an answer
          rw [List.getElem?_append_left (hlength ▸ hi), List.getElem?_append_left hi,
            List.take_append_of_le_length (Nat.le_of_lt hi), hanswers]
        · rw [List.getElem?_append_right (by omega), List.getElem?_append_right (by omega), hlength]
          by_cases hlast : i = calls.length
          · rw [hlast, List.take_left, Nat.sub_self, hmirrors.answer call hallowed]
            rfl
          · rw [List.getElem?_eq_none (by simp; omega), List.getElem?_eq_none (by simp; omega)]
            rfl

/-- Calls in any order on any tables, each of them alive. Every answer is what the calls before it come
to: the kinds, the values and the keys that were added to the table that is asked for, whatever was
done to the others. Afterwards as many tables are alive as were created and not destroyed, and the
daemon counts as many. Each has the keys that were added to it, once and in the order in which each
was first added, and under every key the value that was added last. -/
theorem calls_answer_as_typed_maps (calls : List Call) (proper : Proper calls) :
    (∀ i, (Books.run calls).1[i]? = calls[i]?.map (expected (calls.take i))) ∧
    (Books.run calls).2.count + destroyed calls = created calls ∧
    (Books.run calls).2.count = (Books.run calls).2.store.live ∧
    ∀ ref, Alive calls ref → ∃ t, (Books.run calls).2.store.find? ref = some t ∧
      t.keys = firstKeys (additionsTo calls ref) ∧ t.keys.Nodup ∧
      (∀ key, key ∈ t.keys ↔ ∃ a ∈ additionsTo calls ref, a.key = key) ∧
      ∀ key, t.find? key = latest? (additionsTo calls ref) key := by
  obtain ⟨hmirrors, -, hanswers⟩ := run_mirrors calls proper
  refine ⟨hanswers, hmirrors.balance, hmirrors.count, fun ref alive => ?_⟩
  refine ⟨Table.fill (additionsTo calls ref), hmirrors.held ref alive, Table.keys_fill _,
    (Table.filled_fill _).distinct, fun key => ?_, Table.find?_fill _⟩
  rw [Table.keys_fill]
  exact mem_firstKeys

/-- Two tables with one key: in the first a truth value takes the place of a number, in the second is
a text that is not well formed. -/
def twoTables : List Call :=
  [.create, .create,
    .add (some 0) (some (.signed [0x6B] (-3))),
    .add (some 1) (some (.text [0x6B, 0, 0x78] [0xFF])),
    .add (some 0) (some (.boolean [0x6B] true)),
    .get .signed (some 0) (some [0x6B]),
    .get .boolean (some 0) (some [0x6B]),
    .destroy (some 0),
    .get .string (some 1) (some [0x6B]),
    .type (some 1) (some [0x6C]),
    .get .string (some 1) (some [0x6C]),
    .toc (some 1) true,
    .live]

/-- The first table goes, and the second keeps its text. -/
theorem calls_answer_as_typed_maps_twoTables :
    Proper twoTables ∧
    (Books.run twoTables).1 =
      [.table 0, .table 1, .status 0, .status 0, .status 0, .value (-1) none,
        .value 0 (some (.boolean true)), .nothing, .value 0 (some (.string "\uFFFD")), .status 0,
        .value (-2) none, .keys 1 (some [[0x6B]]), .live 1] ∧
    (Books.run twoTables).2.count + 1 = 2 ∧
    ∀ ref, Alive twoTables ref → ∃ t, (Books.run twoTables).2.store.find? ref = some t ∧
      t.keys = firstKeys (additionsTo twoTables ref) ∧ t.keys.Nodup ∧
      (∀ key, key ∈ t.keys ↔ ∃ a ∈ additionsTo twoTables ref, a.key = key) ∧
      ∀ key, t.find? key = latest? (additionsTo twoTables ref) key := by
  have proper : Proper twoTables := by decide
  obtain ⟨-, hbalance, -, htables⟩ := calls_answer_as_typed_maps twoTables proper
  exact ⟨proper, by rfl, hbalance, htables⟩

end Metadata

end PluginKit
