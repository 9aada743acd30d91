import PluginKit.Config.Item
import PluginKit.Proofs.Steps
import PluginKit.Proofs.Text.Utf8

/-!
# `PluginKit.Proofs.Config.Reading`: which configuration trees can be read

The daemon's tree is read line by line, and reading stops at the first thing in it that is not what
it should be. `RawItem.pieces` lists all that has to be read, in the order of the tree, and knows
nothing of when reading stops. A tree can be read exactly when every piece can, the first piece that
cannot is to blame otherwise, and the item that comes of a tree is the same tree with its texts read.

* `RawItem.ownValues`, `RawItem.inner`, `RawItem.inductionOn`: a tree as the lines that are declared.
* `Piece`, `Piece.Readable`, `Piece.Fails`: what has to be read, and what may be wrong with it.
* `RawValue.Holds`, `RawItem.Copied`: values and lines that say the same.
* `Item.ofRaw_eq`, `Item.ofRaw_eq_ok_iff`, `Item.ofRaw_blames`: reading a line, what comes of it, and
  its problems.
* `Item.ofRaw_copies_or_blames_first`: with which item reading succeeds, when it does, and with which
  error it fails otherwise.
-/

set_option autoImplicit false

namespace PluginKit

namespace Config

open Utf8 (IsText)

/-! ### The lines of a tree -/

namespace RawItem

/-- The values that a line is declared to have. -/
def ownValues (raw : RawItem) : List RawValue := declared raw.valueCount raw.values

/-- The lines that are declared to be inside. -/
def inner (raw : RawItem) : List RawItem := declared raw.childCount raw.children

mutual

/-- What holds of a line once it holds of the lines inside it holds of every line. Lines past the
declared number are not asked for: reading never gets to them. -/
theorem inductionOn {motive : RawItem → Prop}
    (step : ∀ raw : RawItem, (∀ child ∈ raw.inner, motive child) → motive raw) :
    (raw : RawItem) → motive raw
  | ⟨_, _, _, none, _⟩ => by
      refine step _ fun child hchild => ?_
      simp [inner, declared] at hchild
  | ⟨_, _, _, some children, _⟩ => by
      refine step _ fun child hchild => ?_
      exact forall_of_step step children child (List.mem_of_mem_take hchild)

theorem forall_of_step {motive : RawItem → Prop}
    (step : ∀ raw : RawItem, (∀ child ∈ raw.inner, motive child) → motive raw) :
    (items : List RawItem) → ∀ raw ∈ items, motive raw
  | [] => fun _ hraw => absurd hraw List.not_mem_nil
  | first :: rest => fun raw hraw => by
      rcases List.mem_cons.mp hraw with heq | hlater
      · rw [heq]
        exact inductionOn step first
      · exact forall_of_step step rest raw hlater

end

end RawItem

/-! ### What has to be read -/

/-- The bytes of a text that the daemon points to, up to the zero that ends it. A missing text has
none, and so reads like an empty one. -/
def textBytes : Option (List UInt8) → List UInt8
  | none => []
  | some bytes => Terminated.bytes bytes

/-- Something in a tree that has to be read: the key of a line, or one of its values. Reading can
fail at pieces only, as numbers of values and of lines are taken as declared. -/
inductive Piece where
  | key (text : Option (List UInt8))
  | value (v : RawValue)
  deriving DecidableEq, Repr

namespace Piece

/-- A key is a text, and a value has a type that is known and is a text if its type says so. -/
def Readable : Piece → Prop
  | .key text => IsText (textBytes text)
  | .value v =>
    v.type = ValueType.text.code ∧ IsText (textBytes v.text) ∨
      v.type = ValueType.number.code ∨ v.type = ValueType.boolean.code

/-- What is wrong with a piece. The error tells a key from a text among the values, and has the type
number where that is not known. -/
inductive Fails : Piece → Error → Prop
  | key {text : Option (List UInt8)} {fault : Utf8.Fault}
      (faulty : Utf8.decode (textBytes text) = .error fault) : Fails (.key text) (.key fault)
  | text {v : RawValue} {fault : Utf8.Fault} (type : v.type = ValueType.text.code)
      (faulty : Utf8.decode (textBytes v.text) = .error fault) : Fails (.value v) (.text fault)
  | type {v : RawValue} (unknown : ∀ type : ValueType, v.type ≠ type.code) :
      Fails (.value v) (.unknownType v.type)

end Piece

mutual

/-- All that has to be read of a tree: the key, the values from left to right, and then the lines
inside from left to right. Of values and lines only the declared ones are taken. -/
def RawItem.pieces : RawItem → List Piece
  | ⟨key, values, valueCount, children, childCount⟩ =>
    .key key :: (declared valueCount values).map Piece.value ++
      RawItem.innerPieces childCount.toNat children

def RawItem.innerPieces (count : Nat) : Option (List RawItem) → List Piece
  | none => []
  | some items => RawItem.piecesOfFirst count items

def RawItem.piecesOfFirst : Nat → List RawItem → List Piece
  | 0, _ => []
  | _ + 1, [] => []
  | count + 1, item :: rest => RawItem.pieces item ++ RawItem.piecesOfFirst count rest

end

/-! ### What comes of it -/

/-- A value that says what is held, as its type is meant. A number is held bit by bit, and a boolean
by whether the daemon's number is zero. -/
inductive RawValue.Holds : RawValue → Value → Prop
  | text {v : RawValue} {s : String} (type : v.type = ValueType.text.code)
      (spelled : Utf8.encode s = textBytes v.text) : Holds v (.text s)
  | number {v : RawValue} (type : v.type = ValueType.number.code) : Holds v (.number v.number)
  | boolean {v : RawValue} {b : Bool} (type : v.type = ValueType.boolean.code)
      (truth : b = true ↔ v.boolean ≠ 0) : Holds v (.boolean b)

/-- An item that is the same tree: the same key, the same values and the same lines inside, in their
order. Texts are the same when they are spelled by the same bytes. -/
inductive RawItem.Copied : RawItem → Item → Prop
  | line {raw : RawItem} {item : Item} (key : Utf8.encode item.key = textBytes raw.key)
      (values : List.Forall₂ RawValue.Holds raw.ownValues item.values)
      (children : List.Forall₂ RawItem.Copied raw.inner item.children) : Copied raw item

/-! ### Pieces and their problems -/

theorem ValueType.ofCode?_code (type : ValueType) : ofCode? type.code = some type := by
  cases type <;> rfl

theorem ValueType.ofCode?_eq_some_iff {code : Int} {type : ValueType} :
    ofCode? code = some type ↔ code = type.code := by
  constructor
  · intro h
    unfold ofCode? at h
    split at h <;> cases h <;> rfl
  · rintro rfl
    exact ofCode?_code type

theorem ValueType.ofCode?_eq_none_iff {code : Int} :
    ofCode? code = none ↔ ∀ type : ValueType, code ≠ type.code := by
  simp only [ne_eq, ← ofCode?_eq_some_iff, Option.eq_none_iff_forall_ne_some]

/-- Reading a text is decoding its bytes. A missing text and an empty one are not told apart. -/
theorem readText_eq (text : Option (List UInt8)) : readText text = Utf8.decode (textBytes text) := by
  cases text <;> rfl

/-- Reads a key. It stands apart from `Item.ofRaw` because a key is blamed in its own way. -/
def readKey (text : Option (List UInt8)) : Except Error String :=
  match readText text with
  | .ok key => .ok key
  | .error fault => .error (.key fault)

theorem readKey_eq_ok_iff {text : Option (List UInt8)} {s : String} :
    readKey text = .ok s ↔ Utf8.encode s = textBytes text := by
  rw [← Utf8.decode_eq_ok_iff, ← readText_eq, readKey]
  cases readText text <;> simp

theorem readKey_eq_error_iff {text : Option (List UInt8)} {e : Error} :
    readKey text = .error e ↔ Piece.Fails (.key text) e := by
  constructor
  · intro h
    unfold readKey at h
    cases hread : readText text with
    | ok key =>
        rw [hread] at h
        cases h
    | error fault =>
        rw [hread] at h
        obtain rfl := Except.error.inj h
        exact .key (readText_eq text ▸ hread)
  · rintro ⟨faulty⟩
    rw [readKey, readText_eq, faulty]

/-- A value is read as what it holds. Since `Holds` leaves one choice only, reading cannot give
another value than the daemon's. -/
theorem Value.ofRaw_eq_ok_iff {v : RawValue} {w : Value} : ofRaw v = .ok w ↔ v.Holds w := by
  constructor
  -- One case for each type number with a meaning; any other number leaves nothing to hold.
  · intro h
    unfold ofRaw at h
    split at h
    next htype =>
      have htext := ValueType.ofCode?_eq_some_iff.mp htype
      split at h
      next s hread =>
        obtain rfl := Except.ok.inj h
        exact .text htext (Utf8.decode_eq_ok_iff.mp (readText_eq v.text ▸ hread))
      next => cases h
    next htype =>
      obtain rfl := Except.ok.inj h
      exact .number (ValueType.ofCode?_eq_some_iff.mp htype)
    next htype =>
      obtain rfl := Except.ok.inj h
      exact .boolean (ValueType.ofCode?_eq_some_iff.mp htype) bne_iff_ne
    next => cases h
  · intro h
    unfold ofRaw
    cases h with
    | text type spelled =>
        rw [ValueType.ofCode?_eq_some_iff.mpr type, readText_eq, Utf8.decode_eq_ok_iff.mpr spelled]
    | number type => rw [ValueType.ofCode?_eq_some_iff.mpr type]
    | @boolean b type truth =>
        have hb : (v.boolean != 0) = b := Bool.eq_iff_iff.mpr (bne_iff_ne.trans truth.symm)
        rw [ValueType.ofCode?_eq_some_iff.mpr type, hb]

/-- A value that cannot be read is a text with faulty bytes or has a type without a meaning. -/
theorem Value.ofRaw_eq_error_iff {v : RawValue} {e : Error} :
    ofRaw v = .error e ↔ Piece.Fails (.value v) e := by
  constructor
  -- Only a text can fail to be read, and only a number without a meaning is no type.
  · intro h
    unfold ofRaw at h
    split at h
    next htype =>
      split at h
      next => cases h
      next fault hread =>
        obtain rfl := Except.error.inj h
        exact .text (ValueType.ofCode?_eq_some_iff.mp htype) (readText_eq v.text ▸ hread)
    next => cases h
    next => cases h
    next htype =>
      obtain rfl := Except.error.inj h
      exact .type (ValueType.ofCode?_eq_none_iff.mp htype)
  · intro h
    unfold ofRaw
    cases h with
    | text type faulty => rw [ValueType.ofCode?_eq_some_iff.mpr type, readText_eq, faulty]
    | type unknown => rw [ValueType.ofCode?_eq_none_iff.mpr unknown]

/-- The readable values are those that hold something, so readable is not more than reading
needs. -/
theorem RawValue.exists_holds_iff {v : RawValue} :
    (∃ w, v.Holds w) ↔ (Piece.value v).Readable := by
  constructor
  · rintro ⟨w, hw⟩
    cases hw with
    | text type spelled => exact .inl ⟨type, _, spelled⟩
    | number type => exact .inr (.inl type)
    | boolean type truth => exact .inr (.inr type)
  · rintro (⟨type, s, spelled⟩ | type | type)
    · exact ⟨_, .text type spelled⟩
    · exact ⟨_, .number type⟩
    · exact ⟨_, .boolean (b := decide (v.boolean ≠ 0)) type decide_eq_true_iff⟩

namespace Piece

/-- The problem of a piece, if it has one, read off the functions that read it. So the list of
problems cannot disagree with reading about what is wrong. -/
def problem? : Piece → Option Error
  | .key text => errorOf? (readKey text)
  | .value v => errorOf? (Value.ofRaw v)

/-- The problem that reading finds is what `Fails` says is wrong, which knows nothing of reading. -/
theorem problem?_eq_some_iff {piece : Piece} {e : Error} :
    piece.problem? = some e ↔ piece.Fails e := by
  cases piece with
  | key text => exact errorOf?_eq_some_iff.trans readKey_eq_error_iff
  | value v => exact errorOf?_eq_some_iff.trans Value.ofRaw_eq_error_iff

theorem problem?_eq_none_iff {piece : Piece} : piece.problem? = none ↔ piece.Readable := by
  cases piece with
  | key text => exact errorOf?_eq_none_iff.trans (exists_congr fun _ => readKey_eq_ok_iff)
  | value v =>
      refine errorOf?_eq_none_iff.trans (Iff.trans ?_ RawValue.exists_holds_iff)
      exact exists_congr fun _ => Value.ofRaw_eq_ok_iff

end Piece

/-! ### Reading a line -/

namespace RawItem

/-- The declared lines among those that are there, as `take` has them. -/
theorem piecesOfFirst_eq (count : Nat) (items : List RawItem) :
    piecesOfFirst count items = (items.take count).flatMap pieces := by
  induction count generalizing items with
  | zero => simp [piecesOfFirst]
  | succ count ih =>
      cases items with
      | nil => rfl
      | cons item rest => rw [piecesOfFirst, ih, List.take_succ_cons, List.flatMap_cons]

theorem pieces_eq (raw : RawItem) :
    raw.pieces = .key raw.key :: raw.ownValues.map Piece.value ++ raw.inner.flatMap pieces := by
  obtain ⟨key, values, valueCount, children, childCount⟩ := raw
  rw [pieces]
  cases children with
  | none => simp [innerPieces, inner, declared, ownValues]
  | some items => simp [innerPieces, inner, declared, ownValues, piecesOfFirst_eq]

end RawItem

namespace Item

/-- The walk over the lines inside, which counts down the declared number, is a row of steps over
the first lines. -/
theorem ofRawList_eq (count : Nat) (items : List RawItem) :
    ofRawList count items = (items.take count).mapM ofRaw := by
  induction count generalizing items with
  | zero =>
      rw [ofRawList, List.take_zero]
      rfl
  | succ count ih =>
      cases items with
      | nil => rfl
      | cons item rest =>
          rw [ofRawList, List.take_succ_cons, List.mapM_cons]
          simp only [ih]

/-- A line is its key, its values and the lines inside, each read as far as it is declared. Written
as a row of steps, it is what `Blames` of each part can be put together for. -/
theorem ofRaw_eq (raw : RawItem) :
    ofRaw raw = do
      let key ← readKey raw.key
      let values ← raw.ownValues.mapM Value.ofRaw
      let children ← raw.inner.mapM ofRaw
      return ⟨key, values, children⟩ := by
  obtain ⟨key, values, valueCount, children, childCount⟩ := raw
  have hchildren : ofRawOption childCount.toNat children
      = (declared childCount children).mapM ofRaw := by
    cases children with
    | none =>
        rw [ofRawOption, declared, Option.getD_none, List.take_nil]
        rfl
    | some items =>
        rw [ofRawOption, ofRawList_eq]
        rfl
  rw [ofRaw]
  simp only [hchildren, readKey]
  cases readText key <;> rfl

/-- Reading gives the same tree, and every item that is the same tree is what reading gives. The
proof goes by the lines inside, which are copies by the hypothesis of the induction. -/
theorem ofRaw_eq_ok_iff {raw : RawItem} {item : Item} : ofRaw raw = .ok item ↔ raw.Copied item := by
  induction raw using RawItem.inductionOn generalizing item with
  | step raw ih =>
      -- the lines inside are read as what they are, so a walk over them is
      have hinner (children : List Item) :
          raw.inner.mapM ofRaw = .ok children ↔ List.Forall₂ RawItem.Copied raw.inner children := by
        rw [← forall₂_congr_of_mem fun child hchild _ => ih child hchild]
        exact ⟨forall₂_of_mapM, mapM_eq_ok⟩
      rw [ofRaw_eq]
      constructor
      · intro h
        obtain ⟨key, hkey, h⟩ := bind_eq_ok.mp h
        obtain ⟨values, hvalues, h⟩ := bind_eq_ok.mp h
        obtain ⟨children, hchildren, h⟩ := bind_eq_ok.mp h
        obtain rfl := Except.ok.inj h
        refine .line (readKey_eq_ok_iff.mp hkey) ?_ ((hinner children).mp hchildren)
        exact (forall₂_of_mapM hvalues).imp fun _ _ => Value.ofRaw_eq_ok_iff.mp
      · intro h
        obtain ⟨key, values, children⟩ := h
        obtain ⟨_, _, _⟩ := item
        rw [readKey_eq_ok_iff.mpr key, mapM_eq_ok (values.imp fun _ _ => Value.ofRaw_eq_ok_iff.mpr),
          (hinner _).mpr children]
        rfl

/-- Reading looks for the problems of the pieces in their order, and stops at the first. The lines
inside do so by the hypothesis, and the three parts of a line one after the other. -/
theorem ofRaw_blames (raw : RawItem) :
    Blames (ofRaw raw) (raw.pieces.flatMap fun piece => piece.problem?.toList) := by
  induction raw using RawItem.inductionOn with
  | step raw ih =>
      rw [ofRaw_eq, RawItem.pieces_eq, List.cons_append, List.flatMap_cons, List.flatMap_append,
        List.flatMap_map, List.flatMap_assoc]
      refine (Blames.of_errorOf? _).bind fun key _ => ?_
      refine (Blames.mapM fun v _ => Blames.of_errorOf? (Value.ofRaw v)).bind fun values _ => ?_
      rw [← List.append_nil (raw.inner.flatMap _)]
      exact (Blames.mapM ih).bind fun children _ => rfl

/-- A tree can be read exactly when every key and every text in it is one and every type is known, and
then it gives the same tree: line by line the same key, the same values and the same lines inside,
in their order. Any other tree gives the error of the first piece that cannot be read, where a line
has its key before its values, and its values before the lines inside. -/
theorem ofRaw_copies_or_blames_first (raw : RawItem) :
    (∀ item, ofRaw raw = .ok item ↔ raw.Copied item) ∧
    ((∃ item, ofRaw raw = .ok item) ↔ ∀ piece ∈ raw.pieces, piece.Readable) ∧
    ∀ e, ofRaw raw = .error e ↔ ∃ before piece after, raw.pieces = before ++ piece :: after ∧
      (∀ earlier ∈ before, earlier.Readable) ∧ piece.Fails e := by
  have hblames := ofRaw_blames raw
  rw [← List.filterMap_eq_flatMap_toList] at hblames
  refine ⟨fun item => ofRaw_eq_ok_iff, ?_, fun e => ?_⟩
  · rw [hblames.ok_iff, List.filterMap_eq_nil_iff]
    simp only [Piece.problem?_eq_none_iff]
  · rw [hblames.error_iff, List.head?_filterMap, List.findSome?_eq_some_iff]
    simp only [Piece.problem?_eq_some_iff, Piece.problem?_eq_none_iff]
    simp only [and_comm]

/-- Nothing is wrong with a missing key, nor with a value past the declared ones. -/
example :
    let inside : RawItem := ⟨some [0xc3], none, 1, none, 0⟩
    ofRaw ⟨none, some [.ofBoolean 2, .blank 7], 1, some [inside], 1⟩ = .error (.key ⟨0, none⟩) := by
  rfl

end Item

end Config

end PluginKit
