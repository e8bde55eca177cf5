import Vrl.Lib.PyStd

/-!
# Vrl.Lib.Pydantic

Validation of models in the manner of pydantic.

All fields are validated, in their order. What a validator refuses with a
`ValueError` is collected, and reported when the fields are done; any other
exception goes through at once. Members that are no field are refused.
-/

namespace Pydantic

/-- `ValidationError`. -/
def invalid {α : Type} (message : String) : Except PyError α := .error ⟨.validationError, message⟩

/-- The exceptions that are collected. -/
def isCollected (e : PyError) : Bool := e.kind = .valueError || e.kind = .validationError

/-- The result of a field: the value of its member, validated. -/
def field {α : Type} (members : List (String × PyVal)) (key : String)
    (validate : PyVal → Except PyError α) : Except PyError α :=
  match members.lookup key with
  | some value => validate value
  | none => invalid "Field required"

theorem field_of_lookup {α : Type} {members : List (String × PyVal)} {key : String}
    {validate : PyVal → Except PyError α} {value : PyVal} (h : members.lookup key = some value) :
    field members key validate = validate value := by
  rw [field, h]

/-- The result of a field with a default. -/
def fieldOr {α : Type} (members : List (String × PyVal)) (key : String) (default : α)
    (validate : PyVal → Except PyError α) : Except PyError α :=
  match members.lookup key with
  | some value => validate value
  | none => .ok default

/-- The error of a field. -/
def errorOf {α : Type} : Except PyError α → Option PyError
  | .ok _ => none
  | .error e => some e

/-- The members that are no field: `extra="forbid"`. -/
def extraErrors (members : List (String × PyVal)) (fields : List String) :
    List (String × Option PyError) :=
  (members.filter fun m => !fields.contains m.1).map fun m =>
    (m.1, some ⟨.validationError, "Extra inputs are not permitted"⟩)

/-- The first exception that is not collected, or else all the errors of the fields. -/
def collect (results : List (String × Option PyError)) : Except PyError Unit :=
  match results.findSome? fun r => r.2.filter fun e => !isCollected e with
  | some e => .error e
  | none =>
      match results.filterMap fun r => r.2.map fun e => r.1 ++ ": " ++ e.message with
      | [] => .ok ()
      | messages => invalid ("\n".intercalate messages)

/-- Without errors there is nothing to report. -/
theorem collect_of_none {results : List (String × Option PyError)}
    (h : ∀ result ∈ results, result.2 = none) : collect results = .ok () := by
  have hfirst : (results.findSome? fun r => r.2.filter fun e => !isCollected e) = none := by
    rw [List.findSome?_eq_none_iff]
    intro result hresult
    rw [h result hresult, Option.filter_none]
  have hmessages : (results.filterMap fun r => r.2.map fun e => r.1 ++ ": " ++ e.message) = [] := by
    rw [List.filterMap_eq_nil_iff]
    intro result hresult
    rw [h result hresult, Option.map_none]
  rw [collect, hfirst, hmessages]

/-- Nothing is reported exactly if no field has an error. -/
theorem collect_eq_ok_iff {results : List (String × Option PyError)} :
    collect results = .ok () ↔ ∀ result ∈ results, result.2 = none := by
  refine ⟨fun h result hresult => ?_, collect_of_none⟩
  rw [collect] at h
  split at h
  · cases h
  · split at h
    · next hmessages =>
        rw [List.filterMap_eq_nil_iff] at hmessages
        exact Option.map_eq_none_iff.mp (hmessages result hresult)
    · cases h

/-- A field without an error has a value. -/
theorem errorOf_eq_none_iff {α : Type} {x : Except PyError α} :
    errorOf x = none ↔ ∃ a, x = .ok a := by
  cases x with
  | error e => simp [errorOf]
  | ok a => simp [errorOf]

/-! ### Types -/

/-- `str`. -/
def strField : PyVal → Except PyError String
  | .str s => .ok s
  | _ => invalid "Input should be a valid string"

/-- `int`. -/
def intField (std : PyStd) (value : PyVal) : Except PyError Int :=
  match std.parseInt value with
  | some i => .ok i
  | none => invalid "Input should be a valid integer"

/-- A `Literal` of one text. -/
def literalField (expected : String) : PyVal → Except PyError Unit
  | .str s => if s = expected then .ok () else invalid ("Input should be '" ++ expected ++ "'")
  | _ => invalid ("Input should be '" ++ expected ++ "'")

/-- The texts of a list. -/
def strItems : List PyVal → Except PyError (List String)
  | [] => .ok []
  | item :: items => do
      let s ← strField item
      let rest ← strItems items
      return s :: rest

/-- `list[str]`. -/
def strListField : PyVal → Except PyError (List String)
  | .list items => strItems items
  | _ => invalid "Input should be a valid list"

/-- The texts of a dictionary. -/
def strMembers : List (String × PyVal) → Except PyError (List (String × String))
  | [] => .ok []
  | (key, value) :: members => do
      let s ← strField value
      let rest ← strMembers members
      return (key, s) :: rest

/-- `dict[str, str]`. -/
def strDictField : PyVal → Except PyError (List (String × String))
  | .dict members => strMembers members
  | _ => invalid "Input should be a valid dictionary"

/-! ### Values that are valid -/

/-- A list of texts as a value. -/
def ofStrings (texts : List String) : PyVal := .list (texts.map .str)

/-- A dictionary of texts as a value. -/
def ofStringDict (members : List (String × String)) : PyVal :=
  .dict (members.map fun m => (m.1, .str m.2))

@[simp] theorem strListField_ofStrings (texts : List String) :
    strListField (ofStrings texts) = .ok texts := by
  rw [ofStrings, strListField]
  induction texts with
  | nil => rfl
  | cons s texts ih =>
      rw [List.map_cons, strItems, strField, ih]
      rfl

@[simp] theorem strDictField_ofStringDict (members : List (String × String)) :
    strDictField (ofStringDict members) = .ok members := by
  rw [ofStringDict, strDictField]
  induction members with
  | nil => rfl
  | cons m members ih =>
      rw [List.map_cons, strMembers, strField, ih]
      rfl

/-! ### Nothing but refusals -/

/-- All that can be raised is a `ValidationError`. -/
def OnlyInvalid {α : Type} (x : Except PyError α) : Prop :=
  ∀ e, x = .error e → e.kind = .validationError

section OnlyInvalid

variable {α β : Type}

theorem onlyInvalid_ok (a : α) : OnlyInvalid (.ok a : Except PyError α) := by
  intro e h
  cases h

theorem onlyInvalid_invalid (message : String) : OnlyInvalid (invalid message : Except PyError α) := by
  intro e h
  cases h
  rfl

theorem OnlyInvalid.bind {x : Except PyError α} {f : α → Except PyError β} (hx : OnlyInvalid x)
    (hf : ∀ a, OnlyInvalid (f a)) : OnlyInvalid (x >>= f) := by
  cases x with
  | error e =>
      intro e' h
      cases h
      exact hx e rfl
  | ok a => exact hf a

theorem OnlyInvalid.dite {c : Prop} [Decidable c] {x : c → Except PyError α}
    {y : ¬ c → Except PyError α} (hx : ∀ h, OnlyInvalid (x h)) (hy : ∀ h, OnlyInvalid (y h)) :
    OnlyInvalid (if h : c then x h else y h) := by
  split
  · exact hx _
  · exact hy _

theorem OnlyInvalid.of_bind {x : Except PyError α} {f : α → Except PyError β}
    (h : OnlyInvalid (x >>= f)) : OnlyInvalid x := by
  intro e he
  rw [he] at h
  exact h e rfl

theorem onlyInvalid_field {members : List (String × PyVal)} {key : String}
    {validate : PyVal → Except PyError α} (h : ∀ value, OnlyInvalid (validate value)) :
    OnlyInvalid (field members key validate) := by
  rw [field]
  split
  · exact h _
  · exact onlyInvalid_invalid _

/-- A result whose error, if any, is a refusal. -/
def Refuses (result : String × Option PyError) : Prop :=
  ∀ e, result.2 = some e → e.kind = .validationError

/-- What validation reports is a refusal exactly if all errors of the fields are collected. -/
theorem onlyInvalid_collect_iff {results : List (String × Option PyError)} :
    OnlyInvalid (collect results) ↔
      ∀ result ∈ results, ∀ e, result.2 = some e → isCollected e = true := by
  rw [collect]
  split
  · next e hfirst =>
      obtain ⟨result, hresult, he⟩ := List.exists_of_findSome?_eq_some hfirst
      rw [Option.filter_eq_some_iff, Bool.not_eq_true'] at he
      constructor
      · intro h
        have hcollected : isCollected e = true := by
          rw [isCollected, h e rfl]
          rfl
        rw [hcollected] at he
        cases he.2
      · intro h
        rw [h result hresult e he.1] at he
        cases he.2
  · next hfirst =>
      rw [List.findSome?_eq_none_iff] at hfirst
      refine iff_of_true ?_ fun result hresult e he => ?_
      · split
        · exact onlyInvalid_ok ()
        · exact onlyInvalid_invalid _
      · have hfilter := hfirst result hresult
        rw [he, Option.filter_eq_none_iff] at hfilter
        exact eq_true_of_ne_false fun hkind => hfilter e rfl (by rw [hkind]; rfl)

theorem refuses_extraErrors (members : List (String × PyVal)) (fields : List String) :
    ∀ result ∈ extraErrors members fields, Refuses result := by
  intro result hresult
  obtain ⟨m, -, rfl⟩ := List.mem_map.mp hresult
  intro e he
  cases he
  rfl

theorem onlyInvalid_intField (std : PyStd) (value : PyVal) : OnlyInvalid (intField std value) := by
  rw [intField]
  split
  · exact onlyInvalid_ok _
  · exact onlyInvalid_invalid _

/-- All that can be raised is collected. -/
def OnlyCollected (x : Except PyError α) : Prop := ∀ e, x = .error e → isCollected e = true

theorem onlyCollected_ok (a : α) : OnlyCollected (.ok a : Except PyError α) := by
  intro e h
  cases h

theorem OnlyInvalid.onlyCollected {x : Except PyError α} (h : OnlyInvalid x) : OnlyCollected x := by
  intro e he
  rw [isCollected, h e he]
  rfl

theorem onlyCollected_error_iff {e : PyError} :
    OnlyCollected (.error e : Except PyError α) ↔ isCollected e = true := by
  refine ⟨fun h => h e rfl, fun h e' he => ?_⟩
  cases he
  exact h

/-- What a field with a value raises is what is raised for the value. -/
theorem onlyCollected_field_iff {members : List (String × PyVal)} {key : String}
    {validate : PyVal → Except PyError α} :
    OnlyCollected (field members key validate) ↔
      ∀ value, members.lookup key = some value → OnlyCollected (validate value) := by
  rw [field]
  split
  · next value hvalue => simp [hvalue]
  · next hnone => simp [hnone, (onlyInvalid_invalid _).onlyCollected]

theorem onlyCollected_iff_errorOf {x : Except PyError α} :
    OnlyCollected x ↔ ∀ e, errorOf x = some e → isCollected e = true := by
  cases x with
  | error e => simp [OnlyCollected, errorOf]
  | ok a => simp [OnlyCollected, errorOf]

end OnlyInvalid

end Pydantic
