import PluginKit.Proofs.Metadata
import PluginKit.Proofs.Text.Field
import PluginKit.ValueList.Submission

/-!
# `PluginKit.Proofs.ValueList.Submission`: a report is dispatched whole or not at all

Submitting is a row of checks and then one call of the daemon. `problems` lists every check that
fails, in the order in which the checks are made, and says nothing about when submitting stops.
`submitInOrder_eq` joins the two: without problems the daemon gets the list, with problems the
first of them is the answer and the daemon gets nothing. Either way the tables in the store are
those from before.

* `settled`: what a row of checks comes to.
* `Submission.Acceptable`, `Submission.problems`: when a report can be dispatched, and why not.
* `prepare_eq`, `fillTable_eq`, `submitInOrder_eq`: each function as its problems and its result.
* `submitInOrder_allOrNothing`: what a plugin can rely on.
-/

set_option autoImplicit false

namespace PluginKit

/-! ### Checks in a row -/

/-- The first problem, or the result when there is none. Each function of submitting is brought to
this form, and from there on only lists of problems have to be put together. -/
def settled {ε α : Type} (problems : List ε) (result : α) : Except ε α :=
  match problems with
  | [] => .ok result
  | e :: _ => .error e

/-- Checks that follow other checks have their problems behind the others' problems. What follows
may be looked at as if there were none before. -/
theorem settled_bind {ε α β : Type} {problems more : List ε} {a : α} {b : β}
    {next : α → Except ε β} (h : next a = settled more b) :
    (settled problems a >>= next) = settled (problems ++ more) b := by
  cases problems with
  | nil => exact h
  | cons e rest => rfl

/-- A problem that is told in another way is still the first. -/
theorem settled_mapError {ε δ α : Type} (f : ε → δ) (problems : List ε) (a : α) :
    (settled problems a).mapError f = settled (problems.map f) a := by
  cases problems <;> rfl

theorem settled_map {ε α β : Type} (f : α → β) (problems : List ε) (a : α) :
    f <$> settled problems a = settled problems (f a) := by
  cases problems <;> rfl

/-! ### Texts -/

/-- Why a text cannot stand before a zero byte, if it cannot. The error has the place of the zero
byte and the text. -/
def TextError.ofText? (s : String) : Option TextError :=
  if '\x00' ∈ s.toList then some (.zeroAt ((Utf8.encode s).idxOf 0) s) else none

/-- Why a text cannot stand in a field of `n` bytes, if it cannot. Its length counts first. -/
def TextError.ofField? (n : Nat) (s : String) : Option TextError :=
  if (Utf8.encode s).length < n then ofText? s else some (.tooLong (Utf8.encode s).length)

/-- The field has room for the text and a zero byte, and no zero byte ends the text early. Room is
counted in bytes. -/
def Fits (n : Nat) (s : String) : Prop := (Utf8.encode s).length < n ∧ '\x00' ∉ s.toList

namespace Fits

variable {n : Nat} {s : String}

theorem zero_notMem (h : Fits n s) : 0 ∉ Utf8.encode s := fun hmem =>
  h.2 ((Utf8.zero_mem_encode s).mp hmem)

/-- A field that has room for a text has room for none. -/
theorem empty (h : Fits n s) : Fits n "" :=
  ⟨Nat.lt_of_le_of_lt (Nat.zero_le _) h.1, by simp⟩

/-- A field with a default fits if what is set fits and the default does. -/
theorem getD {text : Option String} {default : String} (h : ∀ t ∈ text, Fits n t)
    (hdefault : Fits n default) : Fits n (text.getD default) := by
  cases text with
  | none => exact hdefault
  | some t => exact h t rfl

end Fits

/-- The host that stands in when none is set fits its field; the interface carries the proof. -/
theorem Abi.fits_defaultHost (abi : Abi) : Fits abi.nameLength abi.defaultHost :=
  ⟨abi.hostRoom, fun hmem => abi.hostZeroFree ((Utf8.zero_mem_encode _).mpr hmem)⟩

theorem TextError.ofText?_eq_none_iff {s : String} : ofText? s = none ↔ '\x00' ∉ s.toList := by
  simp [ofText?]

/-- A text without a problem is one that fits. -/
theorem TextError.ofField?_eq_none_iff {n : Nat} {s : String} :
    ofField? n s = none ↔ Fits n s := by
  unfold ofField? Fits
  split
  · rename_i h
    simp [ofText?_eq_none_iff, h]
  · rename_i h
    simp [h]

/-- Encoding a text that must have no zero byte, as its problem or its bytes. -/
theorem zeroFree_eq (s : String) :
    zeroFree s = settled (TextError.ofText? s).toList (Utf8.encode s) := by
  unfold zeroFree TextError.ofText?
  dsimp only
  by_cases h : '\x00' ∈ s.toList
  · -- the position is that of the first zero byte, and there is one
    have hlt : (Utf8.encode s).idxOf 0 < (Utf8.encode s).length :=
      List.idxOf_lt_length_of_mem ((Utf8.zero_mem_encode s).mpr h)
    have hfind : (Utf8.encode s).findIdx? (· = 0) = some ((Utf8.encode s).idxOf 0) := by
      rw [List.findIdx?_eq_some_iff_findIdx_eq]
      exact ⟨hlt, rfl⟩
    rw [hfind, if_pos h]
    rfl
  · have hfind : (Utf8.encode s).findIdx? (· = 0) = none := by
      rw [List.findIdx?_eq_none_iff]
      intro b hb
      exact decide_eq_false fun hzero => h ((Utf8.zero_mem_encode s).mp (hzero ▸ hb))
    rw [hfind, if_neg h]
    rfl

/-- Putting a text into a field, as its problem or the field. -/
theorem TextField.ofText_eq (n : Nat) (s : String) :
    TextField.ofText n s
      = settled (TextError.ofField? n s).toList (TextField.ofBytes n (Utf8.encode s)) := by
  unfold TextField.ofText TextError.ofField?
  by_cases h : (Utf8.encode s).length < n
  · rw [if_neg (Nat.not_le.mpr h), if_pos h, zeroFree_eq, settled_map]
  · rw [if_pos (Nat.le_of_not_lt h), if_neg h]
    rfl

namespace Submission

/-! ### What can be dispatched -/

/-- Every text that is set fits its field, the daemon can count the values, and no annotation has a
zero character in its key or text. It says nothing of the order of the checks. -/
structure Acceptable (abi : Abi) (s : Submission) : Prop where
  pluginInstance : ∀ text ∈ s.pluginInstance, Fits abi.nameLength text
  typeInstance : ∀ text ∈ s.typeInstance, Fits abi.nameLength text
  plugin : Fits abi.nameLength s.plugin
  type : Fits abi.nameLength s.type
  host : ∀ text ∈ s.host, Fits abi.nameLength text
  count : s.values.length ≤ abi.maxCount
  keys : ∀ entry ∈ s.metadata, '\x00' ∉ entry.1.toList
  texts : ∀ entry ∈ s.metadata, ∀ text, entry.2 = .string text → '\x00' ∉ text.toList

/-- The problem of a text field; a text that is not set has none. -/
def fieldProblems (abi : Abi) (name : String) : Option String → List SubmitError
  | none => []
  | some text => (TextError.ofField? abi.nameLength text).toList.map (.field name)

/-- The problem of too many values. Lists of all lengths up to the largest that the daemon can count
are allowed, the empty one included. -/
def countProblems (abi : Abi) (count : Nat) : List SubmitError :=
  if abi.maxCount < count then [.tooManyValues count] else []

/-- The problems of the list, without those of its annotations, in the order of the checks:
instances come before the names that they belong to. -/
def listProblems (abi : Abi) (s : Submission) : List SubmitError :=
  fieldProblems abi "plugin_instance" s.pluginInstance ++
    fieldProblems abi "type_instance" s.typeInstance ++
    fieldProblems abi "plugin" (some s.plugin) ++
    fieldProblems abi "type" (some s.type) ++
    fieldProblems abi "host" s.host ++
    countProblems abi s.values.length

/-- The problems of an annotation, first of its key, then of its text if it has one. -/
def annotationProblems : String × MetaValue → List SubmitError
  | (key, .string text) =>
    (TextError.ofText? key).toList.map (.field "meta key") ++
      (TextError.ofText? text).toList.map (.field "meta value")
  | (key, _) => (TextError.ofText? key).toList.map (.field "meta key")

/-- Every check that fails, in the order in which the checks are made. -/
def problems (abi : Abi) (order : List (String × MetaValue)) (s : Submission) :
    List SubmitError :=
  listProblems abi s ++ order.flatMap annotationProblems

theorem fieldProblems_eq_nil_iff {abi : Abi} {name : String} {text : Option String} :
    fieldProblems abi name text = [] ↔ ∀ t ∈ text, Fits abi.nameLength t := by
  cases text with
  | none => simp [fieldProblems]
  | some t => simp [fieldProblems, TextError.ofField?_eq_none_iff]

theorem countProblems_eq_nil_iff {abi : Abi} {count : Nat} :
    countProblems abi count = [] ↔ count ≤ abi.maxCount := by
  simp [countProblems]

/-- An annotation without problems has no zero character in its key, nor in its text if it has
one. -/
theorem annotationProblems_eq_nil_iff {entry : String × MetaValue} :
    annotationProblems entry = [] ↔
      '\x00' ∉ entry.1.toList ∧ ∀ text, entry.2 = .string text → '\x00' ∉ text.toList := by
  obtain ⟨key, value⟩ := entry
  cases value <;> simp [annotationProblems, TextError.ofText?_eq_none_iff]

/-- A report without problems is one that can be dispatched, in whatever order its annotations are
looked at. The order decides which problem is the first, and nothing else. -/
theorem problems_eq_nil_iff {abi : Abi} {order : List (String × MetaValue)} {s : Submission}
    (perm : order.Perm s.metadata) : s.problems abi order = [] ↔ s.Acceptable abi := by
  have hannotations : order.flatMap annotationProblems = [] ↔
      ∀ entry ∈ s.metadata, '\x00' ∉ entry.1.toList ∧
        ∀ text, entry.2 = .string text → '\x00' ∉ text.toList := by
    rw [List.flatMap_eq_nil_iff]
    simp only [annotationProblems_eq_nil_iff, perm.mem_iff]
  unfold problems listProblems
  simp only [List.append_eq_nil_iff, fieldProblems_eq_nil_iff, countProblems_eq_nil_iff,
    hannotations, Option.mem_def, Option.some.injEq, forall_eq']
  constructor
  · rintro ⟨⟨⟨⟨⟨⟨hplugin, htype⟩, hp⟩, ht⟩, hhost⟩, hcount⟩, hmeta⟩
    exact ⟨hplugin, htype, hp, ht, hhost, hcount, fun e he => (hmeta e he).1,
      fun e he => (hmeta e he).2⟩
  · intro h
    exact ⟨⟨⟨⟨⟨⟨h.pluginInstance, h.typeInstance⟩, h.plugin⟩, h.type⟩, h.host⟩, h.count⟩,
      fun e he => ⟨h.keys e he, h.texts e he⟩⟩

/-! ### What the functions come to -/

/-- The list that a report becomes. An instance that is not set is an empty text, a time or an
interval that is not set is zero, and a host that is not set is the daemon's default. -/
def toRaw (abi : Abi) (s : Submission) (table : Option Metadata.Table) : RawList abi where
  values := some (s.values.map Value.bits)
  count := s.values.length
  time := (s.time.map Ticks.ofInstant).getD (Ticks.ofNanos 0)
  interval := (s.interval.map Ticks.ofDuration).getD (Ticks.ofNanos 0)
  host := TextField.ofBytes abi.nameLength (Utf8.encode (s.host.getD abi.defaultHost))
  plugin := TextField.ofBytes abi.nameLength (Utf8.encode s.plugin)
  pluginInstance := TextField.ofBytes abi.nameLength (Utf8.encode (s.pluginInstance.getD ""))
  type := TextField.ofBytes abi.nameLength (Utf8.encode s.type)
  typeInstance := TextField.ofBytes abi.nameLength (Utf8.encode (s.typeInstance.getD ""))
  metadata := table

/-- The table that annotations become. Encoding and decoding of their texts cancel out. -/
def toTable (order : List (String × MetaValue)) (t : Metadata.Table) : Metadata.Table :=
  order.foldl (fun t entry => t.add (Utf8.encode entry.1) entry.2) t

/-- A text that may be missing, in its field: a missing one is an empty text, which always fits. -/
theorem fieldOf_eq (abi : Abi) (name : String) (text : Option String) :
    fieldOf abi.nameLength name text = settled (fieldProblems abi name text)
      (TextField.ofBytes abi.nameLength (Utf8.encode (text.getD ""))) := by
  cases text with
  | none => rfl
  | some t =>
      show (TextField.ofText abi.nameLength t).mapError (SubmitError.field name) = _
      rw [TextField.ofText_eq, settled_mapError]
      rfl

/-- Preparing a list is its checks and the list, without annotations as yet. -/
theorem prepare_eq (abi : Abi) (s : Submission) :
    s.prepare abi = settled (listProblems abi s) (s.toRaw abi none) := by
  obtain ⟨plugin, type, values, pluginInstance, typeInstance, host, time, interval, entries⟩ := s
  unfold prepare listProblems
  simp only [List.append_assoc]
  -- one check after the other, each with the rest of the function behind it
  rw [fieldOf_eq]
  apply settled_bind
  rw [fieldOf_eq]
  apply settled_bind
  rw [fieldOf_eq]
  apply settled_bind
  rw [fieldOf_eq]
  apply settled_bind
  cases host with
  | none =>
      -- the default host is not checked, so only the number of values is left
      show (if _ then _ else _) = settled (countProblems abi values.length) _
      unfold countProblems
      split <;> rfl
  | some name =>
      dsimp only
      rw [fieldOf_eq]
      apply settled_bind
      unfold countProblems
      split <;> rfl

/-- A table takes all annotations or stops at the first with a problem. What it has taken by then
does not matter, as the table is thrown away. -/
theorem fillTable_eq (order : List (String × MetaValue)) (t : Metadata.Table) :
    fillTable order t = settled (order.flatMap annotationProblems) (toTable order t) := by
  -- On the entries, with the table so far as a parameter. A text has two things to check, its
  -- key and itself; any other value has its key alone.
  induction order generalizing t with
  | nil => rfl
  | cons entry rest ih =>
      obtain ⟨key, value⟩ := entry
      cases value with
      | string text =>
          have hproblems : annotationProblems (key, .string text)
              = (TextError.ofText? key).toList.map (.field "meta key") ++
                (TextError.ofText? text).toList.map (.field "meta value") := rfl
          rw [List.flatMap_cons, hproblems, List.append_assoc, fillTable, zeroFree_eq,
            settled_mapError]
          apply settled_bind
          dsimp only
          rw [zeroFree_eq, settled_mapError]
          apply settled_bind
          rw [ih, Metadata.Table.addText, Utf8.decodeLossy_encode]
          rfl
      | signed | unsigned | double | boolean =>
          rw [List.flatMap_cons, fillTable, zeroFree_eq, settled_mapError]
          apply settled_bind
          exact ih _

variable {abi : Abi}

/-- A list without annotations has no table. No table is created for it, and so none is
destroyed. -/
def tableOf (order : List (String × MetaValue)) : Option Metadata.Table :=
  if order.isEmpty then none else some (toTable order .empty)

/-- Submitting as one step: the list or the first problem, and the tables from before. -/
theorem submitInOrder_eq (order : List (String × MetaValue)) (s : Submission) (d : Daemon abi) :
    ∃ store : Metadata.Store, store.tables = d.metadata.tables ∧
      s.submitInOrder order d = match s.problems abi order with
        | [] => (outcome d.dispatchStatus,
          { d with
            dispatched := d.dispatched ++ [s.toRaw abi (tableOf order)]
            metadata := store })
        | e :: _ => (.error e, { d with metadata := store }) := by
  unfold submitInOrder problems
  rw [prepare_eq]
  cases hlist : listProblems abi s with
  | cons e rest => exact ⟨d.metadata, rfl, rfl⟩
  | nil =>
      rw [List.nil_append]
      dsimp only [settled]
      cases order with
      | nil => exact ⟨d.metadata, rfl, rfl⟩
      | cons entry more =>
          rw [fillTable_eq]
          cases htable : (entry :: more).flatMap annotationProblems with
          | cons e rest =>
              -- the table goes although it was never handed over
              exact ⟨_, d.metadata.tables_destroy_create, rfl⟩
          | nil =>
              -- the daemon reads the table while the list is dispatched, then the table goes
              dsimp only [settled, Daemon.dispatch, List.isEmpty_cons]
              rw [Metadata.Store.find?_update d.metadata.find?_create]
              refine ⟨_, ?_, rfl⟩
              rw [Metadata.Store.tables_destroy_update, d.metadata.tables_destroy_create]

/-- What a plugin can rely on when it submits `s` to `d` with its annotations in some `order`: the
daemon is called once or not at all, the answer says which and why, and no table is left behind. -/
structure AllOrNothing (s : Submission) (order : List (String × MetaValue)) (d : Daemon abi)
    (answer : Except SubmitError Unit) (after : Daemon abi) : Prop where
  /-- The daemon is given one list, in which every text ends at a zero byte. -/
  dispatched : s.Acceptable abi → ∃ list, after.dispatched = d.dispatched ++ [list] ∧
    ∀ field ∈ [list.host, list.plugin, list.pluginInstance, list.type, list.typeInstance],
      0 ∈ field.bytes
  withheld : ¬ s.Acceptable abi → after.dispatched = d.dispatched
  ok_iff : answer = .ok () ↔ s.Acceptable abi ∧ d.dispatchStatus = 0
  refused : s.Acceptable abi → d.dispatchStatus ≠ 0 →
    answer = .error (.dispatch d.dispatchStatus)
  firstProblem : ¬ s.Acceptable abi →
    ∃ e, (s.problems abi order).head? = some e ∧ answer = .error e
  live : after.metadata.live = d.metadata.live

/-- The texts of an acceptable report leave room for a zero byte, so none of them runs into what is
behind its field. -/
theorem Acceptable.zero_mem {s : Submission} (h : s.Acceptable abi)
    (table : Option Metadata.Table) :
    ∀ field ∈ [(s.toRaw abi table).host, (s.toRaw abi table).plugin,
      (s.toRaw abi table).pluginInstance, (s.toRaw abi table).type,
      (s.toRaw abi table).typeInstance], 0 ∈ field.bytes := by
  intro field hfield
  simp only [List.mem_cons, List.not_mem_nil, or_false] at hfield
  rcases hfield with rfl | rfl | rfl | rfl | rfl
  · exact TextField.zero_mem_ofBytes (Fits.getD h.host abi.fits_defaultHost).1
  · exact TextField.zero_mem_ofBytes h.plugin.1
  · exact TextField.zero_mem_ofBytes (Fits.getD h.pluginInstance h.plugin.empty).1
  · exact TextField.zero_mem_ofBytes h.type.1
  · exact TextField.zero_mem_ofBytes (Fits.getD h.typeInstance h.plugin.empty).1

/-- Submitting is all or nothing, whatever the daemon answers and in whatever order the
annotations are looked at. -/
theorem submitInOrder_allOrNothing (s : Submission) (d : Daemon abi)
    {order : List (String × MetaValue)} (perm : order.Perm s.metadata) :
    AllOrNothing s order d (s.submitInOrder order d).1 (s.submitInOrder order d).2 := by
  obtain ⟨store, hstore, heq⟩ := submitInOrder_eq order s d
  have hlive : store.live = d.metadata.live := congrArg List.length hstore
  have haccept : s.problems abi order = [] ↔ s.Acceptable abi := problems_eq_nil_iff perm
  rw [heq]
  -- The submission has settled all problems before it dispatches, so the two cases are
  -- that there is none and that there is a first.
  cases hproblems : s.problems abi order with
  | nil =>
      have hs : s.Acceptable abi := haccept.mp hproblems
      constructor
      case dispatched =>
        intro _
        exact ⟨_, rfl, hs.zero_mem _⟩
      case withheld => exact fun hnot => absurd hs hnot
      case ok_iff =>
        show outcome d.dispatchStatus = .ok () ↔ _
        unfold outcome
        split <;> simp_all
      case refused =>
        intro _ hstatus
        exact if_neg hstatus
      case firstProblem => exact fun hnot => absurd hs hnot
      case live => exact hlive
  | cons e rest =>
      have hs : ¬ s.Acceptable abi := fun hs => by simp [haccept.mpr hs] at hproblems
      constructor
      case dispatched => exact fun h => absurd h hs
      case withheld => exact fun _ => rfl
      case ok_iff => simp [hs]
      case refused => exact fun h => absurd h hs
      case firstProblem => exact fun _ => ⟨e, by rw [hproblems]; rfl, rfl⟩
      case live => exact hlive

/-- A report with two annotations, the second with a zero character in its text. -/
def annotated : Submission :=
  { named "load" "load" with metadata := [("unit", .string "s"), ("kind", .string "a\x00b")] }

/-- With the annotations looked at from the end, the faulty one is met first: nothing is
dispatched and no table is left. -/
theorem submitInOrder_annotated_reversed :
    AllOrNothing annotated annotated.metadata.reverse (Daemon.initial : Daemon .current)
      (.error (.field "meta value" (.zeroAt 1 "a\x00b")))
      (annotated.submitInOrder annotated.metadata.reverse Daemon.initial).2 :=
  submitInOrder_allOrNothing annotated Daemon.initial (List.reverse_perm annotated.metadata)

end Submission

end PluginKit
