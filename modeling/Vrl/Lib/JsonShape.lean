import Vrl.Lib.Demands
import Vrl.Lib.PyJson

/-!
# Vrl.Lib.JsonShape

The shapes that Python's operations demand of a value that was read from JSON: a method of a
dictionary is called on a dictionary, what is looked for in a set is hashable, what is iterated
over can be.
-/

open CheckPipeline

namespace JsonValue

/-- The value is a dictionary. -/
def isDict : JsonValue → Bool
  | .obj _ => true
  | _ => false

/-- The members of a dictionary. -/
def membersOf : JsonValue → List (String × JsonValue)
  | .obj members => members
  | _ => []

/-- The value is a list. -/
def isList : JsonValue → Bool
  | .arr _ => true
  | _ => false

/-- The items of a list. -/
def itemsOf : JsonValue → List JsonValue
  | .arr items => items
  | _ => []

/-- The value can be looked for in a set. -/
def isHashable : JsonValue → Bool
  | .arr _ | .obj _ => false
  | _ => true

/-- The value is one of some texts. -/
def isOneOf (texts : List String) : JsonValue → Bool
  | .str s => texts.contains s
  | _ => false

/-- The value can be iterated over. -/
def isIterable : JsonValue → Bool
  | .arr _ | .str _ | .obj _ => true
  | _ => false

/-- What an iteration over the value gives. -/
def iterated (value : JsonValue) : List JsonValue :=
  match value.iterate with
  | .ok items => items
  | .error _ => []

/-- All keys are there. -/
def hasKeys (keys : List String) (data : List (String × JsonValue)) : Bool :=
  keys.all fun key => (data.lookup key).isSome

section Demands

variable {E : Type} {code : PyError → E} {c : E}

/-- A method of dictionaries. -/
theorem asDict_demands (hcode : ∀ message, code ⟨.attributeError, message⟩ = c)
    (value : JsonValue) (name : String) : Demands code (value.asDict name) [⟨isDict value, c⟩] := by
  cases value with
  | obj members => rfl
  | _ => exact congrArg some (hcode _)

theorem asDict_eq_membersOf {value : JsonValue} {name : String}
    {data : List (String × JsonValue)} (h : value.asDict name = .ok data) :
    data = membersOf value := by
  rw [asDict_eq_ok_iff.mp h, membersOf]

/-- A search in a set. -/
theorem isIn_demands (hcode : ∀ message, code ⟨.typeError, message⟩ = c) (texts : List String)
    (value : JsonValue) : Demands code (value.isIn texts) [⟨isHashable value, c⟩] := by
  cases value with
  | arr items => exact congrArg some (hcode _)
  | obj members => exact congrArg some (hcode _)
  | _ => rfl

theorem isIn_eq_isOneOf {texts : List String} {value : JsonValue} {found : Bool}
    (h : value.isIn texts = .ok found) : found = isOneOf texts value := by
  cases value <;> cases h <;> rfl

/-- An iteration. -/
theorem iterate_demands (hcode : ∀ message, code ⟨.typeError, message⟩ = c) (value : JsonValue) :
    Demands code value.iterate [⟨isIterable value, c⟩] := by
  cases value with
  | arr items => rfl
  | str s => rfl
  | obj members => rfl
  | _ => exact congrArg some (hcode _)

theorem iterate_eq_iterated {value : JsonValue} {items : List JsonValue}
    (h : value.iterate = .ok items) : items = iterated value := by
  rw [iterated, h]

end Demands

end JsonValue
