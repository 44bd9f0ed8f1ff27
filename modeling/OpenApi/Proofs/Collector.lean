/-
Which findings a collector takes for tagged.

The tags of a category are identities that are kept beside the list of findings. What they come to
can be told from the edits alone: an identity is in a category if and only if it was tagged with it
and the category has not been cleared since (`mem_members_iff`), so clearing a category takes out
of the list just what was tagged. What clearing does not do is look at the other categories. A
finding that has the tags of two leaves the list with the first that is cleared, and its identity
stays behind in the other (`IsDropped`), until that is cleared, too, or the finding comes back. This
is the only way in which the categories and the list part (`isListed_iff`), and it is exactly what
makes the size of a category larger than the number of its findings.

Both statements are about something that happened and was not undone since. `Since` is that pattern,
and it is unfolded once, by the last edit (`since_concat`).
-/
import Mathlib.Data.Set.Card
import OpenApi.Collector

set_option autoImplicit false

namespace OpenApi.Collector

/-! ## Histories -/

/-- What can be done to a collector. -/
inductive Edit where
  | add (f : Finding) (category : Option Category)
  | clearAll
  | clearCategory (category : Category)

def apply (c : Collector) : Edit → Collector
  | .add f category => c.add f category
  | .clearAll => c.clearAll
  | .clearCategory category => c.clearCategory category

def applyAll (c : Collector) (edits : List Edit) : Collector := edits.foldl apply c

theorem applyAll_concat (c : Collector) (edits : List Edit) (e : Edit) :
    c.applyAll (edits ++ [e]) = (c.applyAll edits).apply e :=
  List.foldl_append

namespace Edit

/-- An edit puts a finding of this identity into the list. -/
def Adds (id : Nat) : Edit → Prop
  | add f _ => f.identity = id
  | _ => False

/-- An edit tags an identity with a category. -/
def Tags (category : Category) (id : Nat) : Edit → Prop
  | add f (some c) => c = category ∧ f.identity = id
  | _ => False

/-- An edit takes all tags of a category away. -/
def Clears (category : Category) : Edit → Prop
  | add _ _ => False
  | clearAll => True
  | clearCategory c => c = category

end Edit

/-- Among some edits, something happened, and each edit behind it was of a kind. Whether it happened
may depend on the edits before it. -/
def Since (happened : List Edit → Edit → Prop) (kept : Edit → Prop) (edits : List Edit) : Prop :=
  ∃ before e after, edits = before ++ e :: after ∧ happened before e ∧ ∀ later ∈ after, kept later

/-- An identity was tagged with a category, which has not been cleared since. -/
def IsTagged (edits : List Edit) (category : Category) (id : Nat) : Prop :=
  Since (fun _ e => e.Tags category id) (fun e => ¬ e.Clears category) edits

/-- A finding was taken out of the list by clearing a category other than this one, which it was
tagged with as well, and has not been added since. -/
def IsDropped (edits : List Edit) (category : Category) (id : Nat) : Prop :=
  Since (fun before e => ∃ other, other ≠ category ∧ e = .clearCategory other
    ∧ IsTagged before other id) (fun e => ¬ e.Adds id) edits

/-- A finding of this identity is in the list. -/
def IsListed (c : Collector) (id : Nat) : Prop := ∃ f ∈ c.findings, f.identity = id

section Since

variable {happened : List Edit → Edit → Prop} {kept : Edit → Prop}

theorem not_since_nil : ¬ Since happened kept [] := by
  rintro ⟨before, e, after, heq, -⟩
  cases before <;> cases heq

/-- It happened right now, or before, and then the last edit is of the kind. -/
theorem since_concat (edits : List Edit) (e : Edit) :
    Since happened kept (edits ++ [e])
      ↔ happened edits e ∨ Since happened kept edits ∧ kept e := by
  constructor
  · rintro ⟨before, e', after, heq, hhappened, hkept⟩
    rcases after.eq_nil_or_concat' with rfl | ⟨after, last, rfl⟩
    · obtain ⟨rfl, hlast⟩ := List.append_inj' heq rfl
      cases hlast
      exact .inl hhappened
    · rw [← List.cons_append, ← List.append_assoc] at heq
      obtain ⟨rfl, hlast⟩ := List.append_inj' heq rfl
      cases hlast
      refine .inr ⟨⟨before, e', after, rfl, hhappened, fun later hlater => ?_⟩, ?_⟩
      · exact hkept later (List.mem_append_left _ hlater)
      · exact hkept e (List.mem_append_right _ List.mem_cons_self)
  · rintro (hhappened | ⟨⟨before, e', after, rfl, hhappened, hkept⟩, hlast⟩)
    · exact ⟨edits, e, [], rfl, hhappened, List.forall_mem_nil _⟩
    · refine ⟨before, e', after ++ [e], by simp, hhappened, fun later hlater => ?_⟩
      rcases List.mem_append.mp hlater with hlater | hlater
      · exact hkept later hlater
      · rw [List.mem_singleton.mp hlater]
        exact hlast

theorem isTagged_concat (edits : List Edit) (e : Edit) (category : Category) (id : Nat) :
    IsTagged (edits ++ [e]) category id
      ↔ e.Tags category id ∨ IsTagged edits category id ∧ ¬ e.Clears category :=
  since_concat edits e

/-- What happened is an edit. -/
theorem Since.exists_mem {edits : List Edit} (h : Since happened kept edits) :
    ∃ before e, happened before e ∧ e ∈ edits ∧ before <+: edits := by
  obtain ⟨before, e, after, rfl, hhappened, -⟩ := h
  exact ⟨before, e, hhappened, by simp, List.prefix_append _ _⟩

end Since

/-! ## Tags -/

theorem mem_tag_iff {members : Category → List Nat} {category c : Category} {identity id : Nat} :
    id ∈ tag members category identity c ↔ category = c ∧ identity = id ∨ id ∈ members c := by
  rw [tag]
  by_cases hc : c = category
  · subst hc
    rw [if_pos rfl]
    split
    · rename_i hthere
      have hmem : identity ∈ members c := List.contains_iff_mem.mp hthere
      constructor
      · exact .inr
      · rintro (⟨-, rfl⟩ | h)
        · exact hmem
        · exact h
    · rw [List.mem_append, List.mem_singleton, or_comm, eq_comm]
      simp
  · rw [if_neg hc]
    simp [Ne.symm hc]

theorem nodup_tag {members : Category → List Nat} (h : ∀ c, (members c).Nodup)
    (category : Category) (identity : Nat) (c : Category) :
    (tag members category identity c).Nodup := by
  rw [tag]
  split
  · split
    · exact h c
    · rename_i hnew
      have hfresh : identity ∉ members c := fun hmem => hnew (List.contains_iff_mem.mpr hmem)
      rw [List.nodup_append_comm, List.singleton_append, List.nodup_cons]
      exact ⟨hfresh, h c⟩
  · exact h c

/-- What one edit does to the tags of a category. -/
theorem mem_members_apply_iff {c : Collector} {e : Edit} {category : Category} {id : Nat} :
    id ∈ (c.apply e).members category
      ↔ e.Tags category id ∨ id ∈ c.members category ∧ ¬ e.Clears category := by
  cases e with
  | clearAll => simp [apply, clearAll, empty, Edit.Tags, Edit.Clears]
  | clearCategory other =>
    show id ∈ (if category = other then [] else c.members category) ↔ _
    by_cases hother : category = other
    · simp [hother, Edit.Tags, Edit.Clears]
    · simp [hother, Ne.symm hother, Edit.Tags, Edit.Clears]
  | add f tagged =>
    cases tagged with
    | none => simp [apply, add, Edit.Tags, Edit.Clears]
    | some other =>
      show id ∈ tag c.members other f.identity category ↔ _
      rw [mem_tag_iff]
      simp [Edit.Tags, Edit.Clears]

theorem nodup_members_apply {c : Collector} (h : ∀ category, (c.members category).Nodup)
    (e : Edit) (category : Category) : ((c.apply e).members category).Nodup := by
  cases e with
  | clearAll => exact List.nodup_nil
  | clearCategory other =>
    show (if category = other then [] else c.members category).Nodup
    split
    · exact List.nodup_nil
    · exact h category
  | add f tagged =>
    cases tagged with
    | none => exact h category
    | some other => exact nodup_tag h other f.identity category

variable (edits : List Edit)

/-- **The tags are those of the history.** -/
theorem mem_members_iff (category : Category) (id : Nat) :
    id ∈ (empty.applyAll edits).members category ↔ IsTagged edits category id := by
  induction edits using List.reverseRecOn with
  | nil => exact ⟨fun h => absurd h List.not_mem_nil, fun h => absurd h not_since_nil⟩
  | append_singleton edits e ih =>
    rw [applyAll_concat, mem_members_apply_iff, ih, isTagged_concat]

theorem nodup_members (category : Category) :
    ((empty.applyAll edits).members category).Nodup := by
  induction edits using List.reverseRecOn generalizing category with
  | nil => exact List.nodup_nil
  | append_singleton edits e ih =>
    rw [applyAll_concat]
    exact nodup_members_apply ih e category

instance (category : Category) (id : Nat) : Decidable (IsTagged edits category id) :=
  decidable_of_iff _ (mem_members_iff edits category id)

/-! ## The list -/

/-- What one edit does to the list: it may bring a finding in, or take it out with a tag. -/
theorem isListed_apply_iff {c : Collector} {e : Edit} {id : Nat} :
    (c.apply e).IsListed id
      ↔ e.Adds id ∨ c.IsListed id ∧ e ≠ .clearAll
        ∧ ∀ category, e = .clearCategory category → id ∉ c.members category := by
  cases e with
  | clearAll => simp [apply, clearAll, empty, IsListed, Edit.Adds]
  | add f tagged =>
    simp only [apply, add, IsListed, Edit.Adds, List.mem_append, List.mem_singleton]
    constructor
    · rintro ⟨g, hg | rfl, hid⟩
      · exact .inr ⟨⟨g, hg, hid⟩, nofun, nofun⟩
      · exact .inl hid
    · rintro (hid | ⟨⟨g, hg, hid⟩, -⟩)
      · exact ⟨f, .inr rfl, hid⟩
      · exact ⟨g, .inl hg, hid⟩
  | clearCategory category =>
    simp only [apply, clearCategory, IsListed, Edit.Adds, List.mem_filter]
    constructor
    · rintro ⟨g, ⟨hg, hkept⟩, rfl⟩
      refine .inr ⟨⟨g, hg, rfl⟩, nofun, ?_⟩
      rintro _ ⟨⟩
      simpa using hkept
    · rintro (hno | ⟨⟨g, hg, rfl⟩, -, hkept⟩)
      · exact hno.elim
      · exact ⟨g, ⟨hg, by simpa using hkept category rfl⟩, rfl⟩

/-- **What is tagged is listed, unless another category took it.** The induction is on the history:
the edits that change one side for an identity that stays tagged are adding it, and clearing another
category that it is in. -/
theorem isListed_iff {category : Category} {id : Nat} (h : IsTagged edits category id) :
    (empty.applyAll edits).IsListed id ↔ ¬ IsDropped edits category id := by
  induction edits using List.reverseRecOn with
  | nil => exact absurd h not_since_nil
  | append_singleton edits e ih =>
    rw [applyAll_concat, isListed_apply_iff, IsDropped, since_concat, not_or, not_and_or, not_not]
    rcases (isTagged_concat edits e category id).mp h with htags | ⟨htagged, hkept⟩
    · -- the edit that tags a finding adds it
      obtain ⟨f, rfl⟩ : ∃ f, e = .add f (some category) := by
        rcases e with ⟨f, _ | other⟩ | _ | _
        · cases htags
        · exact ⟨f, by rw [htags.1]⟩
        · cases htags
        · cases htags
      have hadds : Edit.Adds id (.add f (some category)) := htags.2
      simp [hadds]
    · have hlisted := ih htagged
      rw [hlisted]
      cases e with
      | clearAll => exact absurd trivial hkept
      | add f tagged => simp [IsDropped, or_comm]
      | clearCategory other =>
        have hother : other ≠ category := hkept
        simp [hother, mem_members_iff, Edit.Adds, IsDropped, and_comm]

/-- What has one category only is never dropped by another. -/
theorem IsDropped.exists_tags {edits : List Edit} {category : Category} {id : Nat}
    (h : IsDropped edits category id) :
    ∃ other, other ≠ category ∧ ∃ e ∈ edits, e.Tags other id := by
  obtain ⟨before, -, ⟨other, hother, -, htagged⟩, -, hbefore⟩ := h.exists_mem
  obtain ⟨-, e, htags, he, -⟩ := htagged.exists_mem
  exact ⟨other, hother, e, hbefore.subset he, htags⟩

/-! ## Sizes -/

theorem ncard_mem_list {l : List Nat} (h : l.Nodup) : {id | id ∈ l}.ncard = l.length := by
  rw [← List.coe_toFinset, Set.ncard_coe_finset, List.toFinset_card_of_nodup h]

/-- The size of a category is the number of its findings in the list if and only if all it holds is
listed. -/
theorem categorySize_eq_iff (category : Category) :
    (empty.applyAll edits).categorySize category
        = {id | (empty.applyAll edits).IsListed id ∧ IsTagged edits category id}.ncard
      ↔ ∀ id, IsTagged edits category id → (empty.applyAll edits).IsListed id := by
  -- A category counts its identities, listed or not. As they are finitely many, the listed ones are
  -- as many only if they are all.
  have hmembers : {id | id ∈ (empty.applyAll edits).members category}
      = {id | IsTagged edits category id} :=
    Set.ext (mem_members_iff edits category)
  have hfinite : {id | IsTagged edits category id}.Finite := by
    rw [← hmembers]
    exact List.finite_toSet _
  have hsize : (empty.applyAll edits).categorySize category
      = {id | IsTagged edits category id}.ncard := by
    rw [← hmembers, ncard_mem_list (nodup_members edits category), categorySize]
  have hsub : {id | (empty.applyAll edits).IsListed id ∧ IsTagged edits category id}
      ⊆ {id | IsTagged edits category id} := fun id hid => hid.2
  rw [hsize]
  constructor
  · intro heq id hid
    have hall := Set.eq_of_subset_of_ncard_le hsub heq.le hfinite
    have hmem : id ∈ {id | IsTagged edits category id} := hid
    rw [← hall] at hmem
    exact hmem.1
  · intro hlisted
    exact congrArg Set.ncard (Set.Subset.antisymm (fun id hid => ⟨hlisted id hid, hid⟩) hsub)

/-- **Categories and list keep step, unless a finding is cleared by its other category.** After any
edits of a collector that was empty,

* a category holds the identities that were tagged with it since it was last cleared;
* of these, just those are no longer in the list that were taken out by clearing another category
  and have not come back;
* so the size of the category is the number of its findings in the list if and only if there are no
  such identities, and there are none where no finding has the tags of two categories;
* clearing the category takes out what was tagged with it, keeps the rest in order, leaves the
  category empty and the others as they are. -/
theorem categories_keep_step_unless_dropped (category : Category) :
    (∀ id, id ∈ (empty.applyAll edits).members category ↔ IsTagged edits category id)
      ∧ (∀ id, IsTagged edits category id →
          ((empty.applyAll edits).IsListed id ↔ ¬ IsDropped edits category id))
      ∧ ((empty.applyAll edits).categorySize category
            = {id | (empty.applyAll edits).IsListed id ∧ IsTagged edits category id}.ncard
          ↔ ∀ id, IsTagged edits category id → ¬ IsDropped edits category id)
      ∧ (∀ id, IsDropped edits category id →
          ∃ other, other ≠ category ∧ ∃ e ∈ edits, e.Tags other id)
      ∧ (empty.applyAll (edits ++ [.clearCategory category])).findings
          = (empty.applyAll edits).findings.filter (¬ IsTagged edits category ·.identity)
      ∧ (empty.applyAll (edits ++ [.clearCategory category])).categorySize category = 0
      ∧ ∀ other, other ≠ category →
          (empty.applyAll (edits ++ [.clearCategory category])).members other
            = (empty.applyAll edits).members other := by
  refine ⟨mem_members_iff edits category, fun id => isListed_iff edits, ?_,
    fun id => IsDropped.exists_tags, ?_, ?_, ?_⟩
  · rw [categorySize_eq_iff]
    exact forall₂_congr fun id hid => isListed_iff edits hid
  · rw [applyAll_concat]
    show List.filter _ _ = _
    refine List.filter_congr fun f _ => ?_
    simp [← mem_members_iff]
  · rw [applyAll_concat]
    show (if category = category then [] else _).length = 0
    rw [if_pos rfl, List.length_nil]
  · intro other hother
    rw [applyAll_concat]
    exact if_neg hother

/-- A finding with two tags is gone when one category is cleared, and the other still counts it. -/
example (f : Finding) :
    (empty.applyAll [.add f (some .ast), .add f (some .grammar), .clearCategory .ast]).size = 0
      ∧ (empty.applyAll [.add f (some .ast), .add f (some .grammar),
          .clearCategory .ast]).categorySize .grammar = 1 := by
  simp [applyAll, apply, add, tag, empty, clearCategory, size, categorySize]

end OpenApi.Collector
