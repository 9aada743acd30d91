import Mathlib.Data.List.Forall2

/-!
# `PluginKit.Proofs.Steps`: steps that may fail, one after the other

Readers and decoders are rows of steps, each of which succeeds or ends the row with its error.

* `map_eq_ok`, `bind_eq_ok`: what a success was made from.
* `mapM_eq_ok`, `forall₂_of_mapM`: a walk over a list succeeds exactly when each of its steps does.
* `forall₂_congr_of_mem`: what is done to each element can be said in another way.
* `bind_eq_error`, `errorOf?`, `exists_of_mapM_eq_error`, `exists_of_foldlM_eq_error`: the step that a
  failure comes from.
* `exists_of_mem_right`, `exists_getElem?_right`: where a result of a walk comes from.
* `upToFirst`: how far a walk comes that stops at the first element of a kind.
* `Blames`: a row of steps and the problems that it looks for, the first of which is its error.
-/

set_option autoImplicit false

namespace PluginKit

variable {ε α β : Type}

/-- What a map makes comes from what succeeded. -/
theorem map_eq_ok {f : α → β} {x : Except ε α} {b : β} (h : f <$> x = .ok b) :
    ∃ a, x = .ok a ∧ f a = b := by
  cases x with
  | error e => cases h
  | ok a => exact ⟨a, rfl, Except.ok.inj h⟩

/-- Two steps succeed where the first does and then the second with its result. Rows of steps are
taken apart and put together with this. -/
theorem bind_eq_ok {x : Except ε α} {next : α → Except ε β} {b : β} :
    (x >>= next) = .ok b ↔ ∃ a, x = .ok a ∧ next a = .ok b := by
  cases x with
  | error e => exact ⟨nofun, fun ⟨_, h, _⟩ => nomatch h⟩
  | ok a => exact ⟨fun h => ⟨a, rfl, h⟩, fun ⟨_, h, hnext⟩ => Except.ok.inj h ▸ hnext⟩

/-- A walk on which every step succeeds succeeds with all the results, in their order. -/
theorem mapM_eq_ok {f : α → Except ε β} {as : List α} {bs : List β}
    (h : List.Forall₂ (fun a b => f a = .ok b) as bs) : as.mapM f = .ok bs := by
  induction h with
  | nil => rfl
  | cons ha _ ih =>
      rw [List.mapM_cons, ha, ih]
      rfl

/-- On a walk that succeeds every step does. So a walk is the same as its steps, as far as success
goes. -/
theorem forall₂_of_mapM {f : α → Except ε β} {as : List α} {bs : List β}
    (h : as.mapM f = .ok bs) : List.Forall₂ (fun a b => f a = .ok b) as bs := by
  induction as generalizing bs with
  | nil =>
      obtain rfl := Except.ok.inj h
      exact .nil
  | cons a as ih =>
      rw [List.mapM_cons] at h
      obtain ⟨b, hb, h⟩ := bind_eq_ok.mp h
      obtain ⟨rest, hrest, h⟩ := bind_eq_ok.mp h
      obtain rfl := Except.ok.inj h
      exact .cons hb (ih hrest)

/-- Relations that agree on the elements of a list relate it to the same lists. It is for inductions
over trees, where a hypothesis is known for the elements only. -/
theorem forall₂_congr_of_mem {R S : α → β → Prop} {as : List α} {bs : List β}
    (h : ∀ a ∈ as, ∀ b, R a b ↔ S a b) : List.Forall₂ R as bs ↔ List.Forall₂ S as bs := by
  constructor
  · intro hR
    exact ((List.forall₂_and_left as bs).mpr ⟨h, hR⟩).imp fun a b hab => (hab.1 b).mp hab.2
  · intro hS
    exact ((List.forall₂_and_left as bs).mpr ⟨h, hS⟩).imp fun a b hab => (hab.1 b).mpr hab.2

/-- Every result of a walk was made from something on it. -/
theorem exists_of_mem_right {R : α → β → Prop} {as : List α} {bs : List β}
    (h : List.Forall₂ R as bs) {b : β} (hb : b ∈ bs) : ∃ a ∈ as, R a b := by
  induction h with
  | nil => exact absurd hb List.not_mem_nil
  | cons hfirst _ ih =>
      rcases List.mem_cons.mp hb with rfl | hrest
      · exact ⟨_, List.mem_cons_self, hfirst⟩
      · obtain ⟨a, ha, hab⟩ := ih hrest
        exact ⟨a, List.mem_cons_of_mem _ ha, hab⟩

/-- What stands at a place of a walk has its result at the same place. -/
theorem exists_getElem?_right {R : α → β → Prop} {as : List α} {bs : List β}
    (h : List.Forall₂ R as bs) {i : Nat} {a : α} (ha : as[i]? = some a) :
    ∃ b, bs[i]? = some b ∧ R a b := by
  induction h generalizing i with
  | nil => cases ha
  | cons hfirst _ ih =>
      cases i with
      | zero =>
          obtain rfl := Option.some.inj ha
          exact ⟨_, rfl, hfirst⟩
      | succ i => exact ih ha

/-! ### Where a failure comes from -/

theorem map_eq_error {f : α → β} {x : Except ε α} {e : ε} : f <$> x = .error e ↔ x = .error e := by
  cases x with
  | error first =>
      exact ⟨fun h => congrArg _ (Except.error.inj h), fun h => congrArg _ (Except.error.inj h)⟩
  | ok a => exact ⟨nofun, nofun⟩

/-- Two steps fail where the first does, or the second after it. -/
theorem bind_eq_error {x : Except ε α} {next : α → Except ε β} {e : ε} :
    (x >>= next) = .error e ↔ x = .error e ∨ ∃ a, x = .ok a ∧ next a = .error e := by
  cases x with
  | error first =>
      constructor
      · intro h
        exact .inl (congrArg _ (Except.error.inj h))
      · rintro (h | ⟨_, h, -⟩)
        · exact congrArg _ (Except.error.inj h)
        · cases h
  | ok a =>
      constructor
      · intro h
        exact .inr ⟨a, rfl, h⟩
      · rintro (h | ⟨_, h, hnext⟩)
        · cases h
        · obtain rfl := Except.ok.inj h
          exact hnext

/-- The error of a step that fails. It turns a step into what may be wrong with it. -/
def errorOf? : Except ε α → Option ε
  | .ok _ => none
  | .error e => some e

theorem errorOf?_eq_some_iff {x : Except ε α} {e : ε} : errorOf? x = some e ↔ x = .error e := by
  cases x <;> simp [errorOf?]

theorem errorOf?_eq_none_iff {x : Except ε α} : errorOf? x = none ↔ ∃ a, x = .ok a := by
  cases x <;> simp [errorOf?]

/-- A walk that fails does so at one of its elements, though not every element that could fail is
reached. -/
theorem exists_of_mapM_eq_error {f : α → Except ε β} {as : List α} {e : ε}
    (h : as.mapM f = .error e) : ∃ a ∈ as, f a = .error e := by
  induction as with
  | nil => cases h
  | cons a as ih =>
      rw [List.mapM_cons] at h
      rcases bind_eq_error.mp h with hfirst | ⟨b, -, h⟩
      · exact ⟨a, List.mem_cons_self, hfirst⟩
      · rcases bind_eq_error.mp h with hrest | ⟨_, -, h⟩
        · obtain ⟨later, hlater, hfails⟩ := ih hrest
          exact ⟨later, List.mem_cons_of_mem a hlater, hfails⟩
        · cases h

/-- A walk that carries something along fails at one of its elements, with what the elements before
it have made. -/
theorem exists_of_foldlM_eq_error {f : β → α → Except ε β} {as : List α} {init : β} {e : ε}
    (h : as.foldlM f init = .error e) :
    ∃ before a after mid, as = before ++ a :: after ∧ before.foldlM f init = .ok mid ∧
      f mid a = .error e := by
  induction as generalizing init with
  | nil => cases h
  | cons a as ih =>
      rw [List.foldlM_cons] at h
      rcases bind_eq_error.mp h with hfirst | ⟨next, hnext, hrest⟩
      · exact ⟨[], a, as, init, rfl, rfl, hfirst⟩
      · obtain ⟨before, b, after, mid, rfl, hbefore, hfails⟩ := ih hrest
        refine ⟨a :: before, b, after, mid, rfl, ?_, hfails⟩
        rw [List.foldlM_cons, hnext]
        exact hbefore

/-! ### Walks that stop -/

/-- The elements up to the first that satisfies `p`, with that one. -/
def upToFirst (p : α → Bool) : List α → List α
  | [] => []
  | a :: rest => if p a then [a] else a :: upToFirst p rest

section

variable {p : α → Bool}

@[simp]
theorem upToFirst_nil : upToFirst p [] = [] := rfl

theorem upToFirst_cons_of_pos {a : α} (h : p a = true) (rest : List α) :
    upToFirst p (a :: rest) = [a] := by
  simp [upToFirst, h]

theorem upToFirst_cons_of_neg {a : α} (h : p a = false) (rest : List α) :
    upToFirst p (a :: rest) = a :: upToFirst p rest := by
  simp [upToFirst, h]

end

/-! ### Problems -/

/-- A step that looks for problems in an order: the first of them is its error, and without any it
succeeds. The list may go on with problems that the step never comes to. -/
def Blames (x : Except ε α) (problems : List ε) : Prop :=
  match x with
  | .ok _ => problems = []
  | .error e => problems.head? = some e

namespace Blames

variable {x : Except ε α} {problems more : List ε}

/-- A step succeeds exactly without problems. -/
theorem ok_iff (h : Blames x problems) : (∃ a, x = .ok a) ↔ problems = [] := by
  cases x with
  | ok a => exact iff_of_true ⟨a, rfl⟩ h
  | error e =>
      refine iff_of_false nofun fun hnil => ?_
      have hfirst : problems.head? = some e := h
      rw [hnil] at hfirst
      cases hfirst

/-- A step fails with the first problem and with no other. -/
theorem error_iff (h : Blames x problems) (e : ε) : x = .error e ↔ problems.head? = some e := by
  cases x with
  | ok a =>
      have hnil : problems = [] := h
      rw [hnil]
      exact iff_of_false nofun nofun
  | error first =>
      have hfirst : problems.head? = some first := h
      rw [hfirst]
      exact ⟨fun heq => congrArg some (Except.error.inj heq),
        fun heq => congrArg Except.error (Option.some.inj heq)⟩

/-- A step that is looked at alone has its own error for a problem. -/
theorem of_errorOf? (x : Except ε α) : Blames x (errorOf? x).toList := by
  cases x <;> exact rfl

/-- Behind a step that succeeds, the next one is looked at. Its problems come behind those of the
first, which has none then. -/
theorem bind {next : α → Except ε β} (h : Blames x problems)
    (hnext : ∀ a, x = .ok a → Blames (next a) more) : Blames (x >>= next) (problems ++ more) := by
  cases x with
  | ok a =>
      have hnil : problems = [] := h
      rw [hnil]
      exact hnext a rfl
  | error e =>
      show (problems ++ more).head? = some e
      rw [List.head?_append, show problems.head? = some e from h]
      rfl

/-- A walk has the problems of its steps, one after the other. -/
theorem mapM {f : α → Except ε β} {problems : α → List ε} {as : List α}
    (h : ∀ a ∈ as, Blames (f a) (problems a)) : Blames (as.mapM f) (as.flatMap problems) := by
  induction as with
  | nil => exact rfl
  | cons a rest ih =>
      rw [List.mapM_cons, List.flatMap_cons]
      refine (h a List.mem_cons_self).bind fun b _ => ?_
      rw [← List.append_nil (rest.flatMap problems)]
      exact (ih fun later hlater => h later (List.mem_cons_of_mem a hlater)).bind fun _ _ => rfl

end Blames

end PluginKit
