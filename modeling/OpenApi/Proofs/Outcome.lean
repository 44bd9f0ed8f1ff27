/-
Computations that may fail, one after another and one for each member of a list.

`List.mapM` stops at the first failure. That it succeeds means that each of the computations does,
and then its results stand in the order of the list. What it fails with, one of the computations
fails with; `FailsWith` says of which kind that is, and is kept by everything that computations are
put together with.
-/
import Mathlib.Data.List.Forall2

set_option autoImplicit false

namespace OpenApi

variable {ε α β : Type} {f : α → Except ε β}

/-- If two computations one after the other succeed, each of them does. -/
theorem exists_of_bind_ok {x : Except ε α} {b : β} (h : x >>= f = .ok b) :
    ∃ a, x = .ok a ∧ f a = .ok b := by
  cases x with
  | error e => cases h
  | ok a => exact ⟨a, rfl, h⟩

theorem exists_of_map_ok {x : Except ε α} {g : α → β} {b : β} (h : x.map g = .ok b) :
    ∃ a, x = .ok a ∧ g a = b := by
  cases x with
  | error e => cases h
  | ok a => exact ⟨a, rfl, Except.ok.inj h⟩

theorem mapM_cons_ok {x : α} {xs : List α} {y : β} {ys : List β} (hx : f x = .ok y)
    (hxs : xs.mapM f = .ok ys) : (x :: xs).mapM f = .ok (y :: ys) := by
  rw [List.mapM_cons, hx, hxs]
  rfl

theorem mapM_cons_error {x : α} {e : ε} (hx : f x = .error e) (xs : List α) :
    (x :: xs).mapM f = .error e := by
  rw [List.mapM_cons, hx]
  rfl

theorem mapM_cons_error_rest {x : α} {xs : List α} {y : β} {e : ε} (hx : f x = .ok y)
    (hxs : xs.mapM f = .error e) : (x :: xs).mapM f = .error e := by
  rw [List.mapM_cons, hx, hxs]
  rfl

/-- **All succeed.** The results are those of the members, in their order. -/
theorem mapM_eq_ok_iff {xs : List α} {ys : List β} :
    xs.mapM f = .ok ys ↔ List.Forall₂ (fun x y => f x = .ok y) xs ys := by
  induction xs generalizing ys with
  | nil =>
    rw [List.forall₂_nil_left_iff]
    exact ⟨fun h => (Except.ok.inj h).symm, fun h => by rw [h]; rfl⟩
  | cons x xs ih =>
    constructor
    · intro h
      cases hx : f x with
      | error e =>
        rw [mapM_cons_error hx] at h
        cases h
      | ok y =>
        cases hxs : xs.mapM f with
        | error e =>
          rw [mapM_cons_error_rest hx hxs] at h
          cases h
        | ok zs =>
          rw [mapM_cons_ok hx hxs, Except.ok.injEq] at h
          rw [← h]
          exact .cons hx (ih.mp hxs)
    · rintro (_ | ⟨hx, hxs⟩)
      exact mapM_cons_ok hx (ih.mpr hxs)

/-- If each member has a result, so has the list. -/
theorem exists_mapM_eq_ok {xs : List α} (h : ∀ x ∈ xs, ∃ y, f x = .ok y) :
    ∃ ys, xs.mapM f = .ok ys := by
  induction xs with
  | nil => exact ⟨[], rfl⟩
  | cons x xs ih =>
    obtain ⟨y, hy⟩ := h x List.mem_cons_self
    obtain ⟨ys, hys⟩ := ih fun x' hx' => h x' (List.mem_cons_of_mem _ hx')
    exact ⟨y :: ys, mapM_cons_ok hy hys⟩

/-- If the list has results, so has each member. -/
theorem exists_ok_of_mapM {xs : List α} {ys : List β} (h : xs.mapM f = .ok ys) {x : α}
    (hx : x ∈ xs) : ∃ y, f x = .ok y := by
  induction mapM_eq_ok_iff.mp h with
  | nil => cases hx
  | cons hy hrest ih =>
    rcases List.mem_cons.mp hx with rfl | hx
    · exact ⟨_, hy⟩
    · exact ih (mapM_eq_ok_iff.mpr hrest) hx

/-- If a member has no result, neither has the list. -/
theorem exists_error_of_mapM {xs : List α} {x : α} (hx : x ∈ xs) {e : ε} (he : f x = .error e) :
    ∃ e', xs.mapM f = .error e' := by
  cases hys : xs.mapM f with
  | error e' => exact ⟨e', rfl⟩
  | ok ys =>
    obtain ⟨y, hy⟩ := exists_ok_of_mapM hys hx
    rw [he] at hy
    cases hy

/-- A member of a list that goes side by side with another has its partner there. -/
theorem exists_of_mem_right {R : α → β → Prop} {xs : List α} {ys : List β}
    (h : List.Forall₂ R xs ys) {y : β} (hy : y ∈ ys) : ∃ x ∈ xs, R x y := by
  induction h with
  | nil => cases hy
  | cons hxy _ ih =>
    rcases List.mem_cons.mp hy with rfl | hy
    · exact ⟨_, List.mem_cons_self, hxy⟩
    · obtain ⟨x, hx, hxy⟩ := ih hy
      exact ⟨x, List.mem_cons_of_mem _ hx, hxy⟩

/-- If each member gives something, nothing is left out. -/
theorem forall₂_filterMap {γ : Type} {g : α → Option β} {R : β → γ → Prop} {xs : List α}
    {zs : List γ} (h : List.Forall₂ (fun x z => ∃ y, g x = some y ∧ R y z) xs zs) :
    List.Forall₂ R (xs.filterMap g) zs := by
  induction h with
  | nil => exact .nil
  | cons hxz _ ih =>
    obtain ⟨y, hy, hyz⟩ := hxz
    rw [List.filterMap_cons_some hy]
    exact .cons hyz ih

/-! ## Failures -/

/-- Whatever a computation fails with is of a kind. -/
def FailsWith (P : ε → Prop) (x : Except ε α) : Prop :=
  ∀ e, x = .error e → P e

section Failures

variable {P : ε → Prop}

theorem FailsWith.mono {Q : ε → Prop} {x : Except ε α} (hx : FailsWith P x)
    (h : ∀ e, P e → Q e) : FailsWith Q x :=
  fun e he => h e (hx e he)

theorem failsWith_ok (a : α) : FailsWith P (.ok a) := nofun

/-- A computation that fails with nothing has a result. -/
theorem FailsWith.exists_ok {x : Except ε α} (hx : FailsWith P x) (h : ∀ e, ¬ P e) :
    ∃ a, x = .ok a := by
  cases x with
  | ok a => exact ⟨a, rfl⟩
  | error e => exact absurd (hx e rfl) (h e)

theorem failsWith_bind {x : Except ε α} {f : α → Except ε β}
    (hx : FailsWith P x) (hf : ∀ a, x = .ok a → FailsWith P (f a)) : FailsWith P (x >>= f) := by
  intro e he
  cases x with
  | error e' =>
    cases he
    exact hx _ rfl
  | ok a => exact hf a rfl e he

theorem FailsWith.map {x : Except ε α} (hx : FailsWith P x) (f : α → β) :
    FailsWith P (x.map f) :=
  failsWith_bind hx fun a _ => failsWith_ok (f a)

/-- The failures of a list are those of its members. -/
theorem failsWith_mapM {xs : List α} (h : ∀ x ∈ xs, FailsWith P (f x)) :
    FailsWith P (xs.mapM f) := by
  induction xs with
  | nil => exact failsWith_ok []
  | cons x xs ih =>
    obtain ⟨hx, hxs⟩ := List.forall_mem_cons.mp h
    rw [List.mapM_cons]
    exact failsWith_bind hx fun y _ => failsWith_bind (ih hxs) fun ys _ => failsWith_ok _

theorem failsWith_foldlM {f : β → α → Except ε β} {xs : List α}
    (h : ∀ x ∈ xs, ∀ b, FailsWith P (f b x)) (b : β) : FailsWith P (xs.foldlM f b) := by
  induction xs generalizing b with
  | nil => exact failsWith_ok b
  | cons x xs ih =>
    obtain ⟨hx, hxs⟩ := List.forall_mem_cons.mp h
    rw [List.foldlM_cons]
    exact failsWith_bind (hx b) fun b' _ => ih hxs b'

/-- The failure of a part that may not be there. -/
theorem failsWith_option_mapM {x : Option α} (h : ∀ a, x = some a → FailsWith P (f a)) :
    FailsWith P (x.mapM f) := by
  cases x with
  | none => exact failsWith_ok none
  | some a =>
    rw [Option.mapM_some]
    exact (h a rfl).map some

end Failures

end OpenApi
