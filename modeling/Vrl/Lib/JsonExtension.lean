import Mathlib.Data.List.Forall2
import Vrl.Lib.JsonValue

/-!
# Vrl.Lib.JsonExtension

Objects that get new members.

A format says which names it knows, and how the value of a known member may change
(`Schema`). One value extends another when every known member is there as before, or changed
that way, and everything else that was there still is (`Extends`). Adding members whose names
are not known is such a change (**`extends_append`**), and what depends on the known members
alone does not see it (**`Extends.read_eq`**).
-/

namespace JsonValue

/-- A way in which a value may change. -/
abbrev Change := JsonValue → JsonValue → Prop

/-- The names that a format knows, and the changes that it allows to their values. -/
abbrev Schema := List (String × Change)

/-- Every value may stay as it is. -/
def Schema.AllowsSame (schema : Schema) : Prop := ∀ entry ∈ schema, ∀ v, entry.2 v v

/-- Known members whose values stay. -/
def fixed (names : List String) : Schema := names.map fun name => (name, Eq)

/-- The second value is the first one, but for new members with unknown names. -/
def Extends (schema : Schema) : Change
  | .obj ms, .obj ms' => ∀ key, match schema.lookup key with
      | some change => Option.Rel change (ms.lookup key) (ms'.lookup key)
      | none => ∀ v ∈ ms.lookup key, ms'.lookup key = some v
  | v, v' => v = v'

/-- The elements of a list, each changed in the same way. -/
def EachExtends (change : Change) : Change
  | .arr vs, .arr vs' => List.Forall₂ change vs vs'
  | v, v' => v = v'

/-- No member is added to an object. -/
def NothingAdded : Change
  | .obj ms, .obj ms' => ∀ key, (ms'.lookup key).isSome = true → (ms.lookup key).isSome = true
  | _, _ => True

/-- The member of an object. -/
def member (key : String) : JsonValue → JsonValue
  | .obj ms => getOrNull ms key
  | _ => .null

variable {schema : Schema} {ms ms' : List (String × JsonValue)}

theorem lookup_fixed {names : List String} {key : String} (hkey : key ∈ names) :
    (fixed names).lookup key = some Eq := by
  induction names with
  | nil => cases hkey
  | cons name names ih =>
      rw [fixed, List.map_cons, List.lookup_cons]
      by_cases hname : key = name
      · rw [hname, beq_self_eq_true]
      · rw [beq_false_of_ne hname]
        exact ih ((List.mem_cons.mp hkey).resolve_left hname)

theorem Schema.AllowsSame.of_lookup (h : schema.AllowsSame) {key : String} {change : Change}
    (hkey : schema.lookup key = some change) (v : JsonValue) : change v v := by
  obtain ⟨_, _, hsplit, _⟩ := List.lookup_eq_some_iff.mp hkey
  exact h (key, change) (by rw [hsplit]; simp) v

theorem allowsSame_fixed (names : List String) : (fixed names).AllowsSame := by
  intro entry hentry v
  obtain ⟨name, -, rfl⟩ := List.mem_map.mp hentry
  rfl

/-- A known member is there as before, or changed as it may. -/
theorem Extends.lookup_rel (h : Extends schema (.obj ms) (.obj ms')) {key : String}
    {change : Change} (hkey : schema.lookup key = some change) :
    Option.Rel change (ms.lookup key) (ms'.lookup key) := by
  have hrel := h key
  rw [hkey] at hrel
  exact hrel

theorem Extends.lookup_eq (h : Extends schema (.obj ms) (.obj ms')) {key : String}
    (hkey : schema.lookup key = some Eq) : ms'.lookup key = ms.lookup key := by
  have hrel := h.lookup_rel hkey
  generalize ms.lookup key = before, ms'.lookup key = after at hrel
  cases hrel with
  | none => rfl
  | some heq => rw [heq]

/-- A change that keeps `null` covers the members that are not there. -/
theorem Extends.getOrNull_rel (h : Extends schema (.obj ms) (.obj ms')) (key : String)
    {change : Change} (hkey : schema.lookup key = some change) (hnull : change .null .null) :
    change (getOrNull ms key) (getOrNull ms' key) := by
  have hrel := h.lookup_rel hkey
  unfold getOrNull
  generalize ms.lookup key = before, ms'.lookup key = after at hrel
  cases hrel with
  | none => exact hnull
  | some hchange => exact hchange

/-- An object stays an object. -/
theorem Extends.exists_obj {v' : JsonValue} (h : Extends schema (.obj ms) v') :
    ∃ ms', v' = .obj ms' := by
  cases v' with
  | obj ms' => exact ⟨ms', rfl⟩
  | _ => cases h

/-- What is no object stays as it is. -/
theorem Extends.eq_of_not_obj {v v' : JsonValue} (h : Extends schema v v')
    (hv : ∀ ms, v ≠ .obj ms) : v' = v := by
  cases v with
  | obj ms => exact absurd rfl (hv ms)
  | _ => exact h.symm

/-- A member that is there stays there. -/
theorem Extends.lookup_isSome (h : Extends schema (.obj ms) (.obj ms')) {key : String}
    (hkey : (ms.lookup key).isSome = true) : (ms'.lookup key).isSome = true := by
  cases hchange : schema.lookup key with
  | some change =>
      have hrel := h.lookup_rel hchange
      generalize ms.lookup key = before, ms'.lookup key = after at hrel hkey
      cases hrel with
      | none => exact hkey
      | some _ => rfl
  | none =>
      have hkept := h key
      rw [hchange] at hkept
      obtain ⟨v, hv⟩ := Option.isSome_iff_exists.mp hkey
      rw [hkept v hv]
      rfl

/-- An object without members gets none. -/
def StaysEmpty : Change := fun v v' => v = .obj [] → v' = .obj []

/-- Only an empty object can turn truthy. -/
theorem Extends.truthy_eq {v v' : JsonValue} (h : Extends schema v v') (hempty : StaysEmpty v v') :
    v'.truthy = v.truthy := by
  cases v with
  | obj ms =>
      obtain ⟨ms', rfl⟩ := h.exists_obj
      cases ms with
      | nil => rw [hempty rfl]
      | cons m ms =>
          have hsome := h.lookup_isSome (show ((m :: ms).lookup m.1).isSome = true by simp)
          cases ms' with
          | nil => cases hsome
          | cons m' ms' => rfl
  | _ => rw [h.eq_of_not_obj fun _ hobj => by cases hobj]

/-- Where nothing is added, an empty object stays empty. -/
theorem Extends.staysEmpty {v v' : JsonValue} (h : Extends schema v v')
    (hadded : NothingAdded v v') : StaysEmpty v v' := by
  intro hv
  subst hv
  obtain ⟨ms', rfl⟩ := h.exists_obj
  cases ms' with
  | nil => rfl
  | cons m' ms' => cases hadded m'.1 (by simp)

/-- What is read from an object is read from the members with these names. -/
def DependsOn {α : Type} (names : List String) (read : JsonValue → α) : Prop :=
  ∀ ms ms' : List (String × JsonValue), (∀ key ∈ names, ms'.lookup key = ms.lookup key) →
    read (.obj ms') = read (.obj ms)

/-- **What depends on known members alone does not see new ones.** -/
theorem Extends.read_eq {α : Type} {names : List String} {read : JsonValue → α}
    (hread : DependsOn names read) {v v' : JsonValue} (h : Extends (fixed names) v v') :
    read v' = read v := by
  cases v with
  | obj ms =>
      obtain ⟨ms', rfl⟩ := h.exists_obj
      exact hread ms ms' fun key hkey => h.lookup_eq (lookup_fixed hkey)
  | _ => rw [h.eq_of_not_obj fun _ hobj => by cases hobj]

theorem Extends.refl (hschema : schema.AllowsSame) (v : JsonValue) : Extends schema v v := by
  cases v with
  | obj ms =>
      intro key
      cases hkey : schema.lookup key with
      | none => exact fun v hv => hv
      | some change =>
          show Option.Rel change (ms.lookup key) (ms.lookup key)
          cases ms.lookup key with
          | none => exact .none
          | some v => exact .some (hschema.of_lookup hkey v)
  | _ => rfl

/-- **Members with unknown names can be added.** -/
theorem extends_append (hschema : schema.AllowsSame) (ms : List (String × JsonValue))
    {extra : List (String × JsonValue)}
    (hextra : ∀ m ∈ extra, schema.lookup m.1 = none) :
    Extends schema (.obj ms) (.obj (ms ++ extra)) := by
  intro key
  rw [List.lookup_append]
  cases hkey : schema.lookup key with
  | none =>
      intro v hv
      rw [Option.mem_def.mp hv, Option.some_or]
  | some change =>
      -- the name is known, so the new members do not have it
      have hnone : extra.lookup key = none := by
        rw [List.lookup_eq_none_iff]
        intro m hm
        have hne : key ≠ m.1 := by
          intro heq
          rw [heq, hextra m hm] at hkey
          cases hkey
        simpa using hne
      show Option.Rel change (ms.lookup key) ((ms.lookup key).or (extra.lookup key))
      rw [hnone, Option.or_none]
      cases ms.lookup key with
      | none => exact .none
      | some v => exact .some (hschema.of_lookup hkey v)

/-- **A known member can change as its name allows.** -/
theorem extends_member (hschema : schema.AllowsSame) (ms : List (String × JsonValue))
    {name : String} {change : Change}
    (hname : schema.lookup name = some change) {v w : JsonValue} (hchange : change v w) :
    Extends schema (.obj (ms ++ [(name, v)])) (.obj (ms ++ [(name, w)])) := by
  intro key
  rw [List.lookup_append, List.lookup_append]
  by_cases hkey : key = name
  · subst hkey
    rw [hname]
    show Option.Rel change ((ms.lookup key).or ([(key, v)].lookup key))
      ((ms.lookup key).or ([(key, w)].lookup key))
    cases ms.lookup key with
    | some u => exact .some (hschema.of_lookup hname u)
    | none =>
        simp only [Option.none_or, List.lookup_cons, beq_self_eq_true]
        exact .some hchange
  · have hother : ∀ u : JsonValue, [(name, u)].lookup key = none := by
      intro u
      rw [List.lookup_cons, beq_false_of_ne hkey]
      rfl
    rw [hother, hother, Option.or_none]
    exact Extends.refl hschema (.obj ms) key

end JsonValue
