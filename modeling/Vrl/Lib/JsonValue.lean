import Vrl.Lib.Json

/-!
# Vrl.Lib.JsonValue

JSON values as a program holds them after reading, floats included, and the texts they
are written as.

A float is known by its literal. A `Layout` says what white space a writer sets: none, or
line breaks and indentation. The compact text of a value without floats is the one of
`Vrl.Lib.Json` (**`JsonValue.canonicalText_ofJson`**).
-/

open TextCodec

/-- A JSON value. -/
inductive JsonValue where
  | null
  | bool (b : Bool)
  | int (i : Int)
  | float (literal : String)
  | str (s : String)
  | arr (items : List JsonValue)
  | obj (members : List (String × JsonValue))

namespace JsonValue

/-! ### Reading values -/

/-- `bool(value)`. -/
def truthy : JsonValue → Bool
  | .null => false
  | .bool b => b
  | .int i => i ≠ 0
  | .float literal => literal ≠ "0.0" && literal ≠ "-0.0"
  | .str s => s ≠ ""
  | .arr items => !items.isEmpty
  | .obj members => !members.isEmpty

/-- `value is None`. -/
def isNull : JsonValue → Bool
  | .null => true
  | _ => false

@[simp] theorem isNull_null : isNull .null = true := rfl

@[simp] theorem isNull_int (i : Int) : (int i).isNull = false := rfl

@[simp] theorem isNull_str (s : String) : (str s).isNull = false := rfl

@[simp] theorem isNull_obj (members : List (String × JsonValue)) :
    (obj members).isNull = false := rfl

/-- `value == text`. -/
def isText (s : String) : JsonValue → Bool
  | .str t => t = s
  | _ => false

@[simp] theorem isText_str (s t : String) : isText s (.str t) = decide (t = s) := rfl

theorem isText_iff {s : String} {v : JsonValue} : v.isText s = true ↔ v = .str s := by
  cases v <;> simp [isText]

/-- `members.get(key)`: what is absent is `None`. -/
def getOrNull (members : List (String × JsonValue)) (key : String) : JsonValue :=
  (members.lookup key).getD .null

/-- What is read and is not `None` is a member. -/
theorem lookup_of_getOrNull {members : List (String × JsonValue)} {key : String} {v : JsonValue}
    (h : getOrNull members key = v) (hv : v.isNull = false) : members.lookup key = some v := by
  rw [getOrNull] at h
  cases hlookup : members.lookup key with
  | none =>
      rw [hlookup] at h
      cases h
      cases hv
  | some w =>
      rw [hlookup] at h
      exact congrArg some h

theorem getD_lookup {members : List (String × JsonValue)} {key : String}
    (h : (members.lookup key).isSome = true) (v : JsonValue) :
    (members.lookup key).getD v = getOrNull members key := by
  obtain ⟨w, hw⟩ := Option.isSome_iff_exists.mp h
  rw [getOrNull, hw]
  rfl

/-! ### Texts -/

/-- White space between tokens. -/
def isSpace (c : Char) : Bool := c = ' ' || c = '\t' || c = '\n' || c = '\r'

/-- The white space that a writer sets before items at a level, and after a colon. -/
structure Layout where
  lineBreak : Nat → List Char
  afterColon : List Char
  isSpace_lineBreak : ∀ level, ∀ c ∈ lineBreak level, isSpace c = true
  isSpace_afterColon : ∀ c ∈ afterColon, isSpace c = true

/-- No white space. -/
def compact : Layout where
  lineBreak _ := []
  afterColon := []
  isSpace_lineBreak _ _ hc := absurd hc List.not_mem_nil
  isSpace_afterColon _ hc := absurd hc List.not_mem_nil

/-- `indent=2`: every item on a line of its own. -/
def indented : Layout where
  lineBreak level := '\n' :: List.replicate (2 * level) ' '
  afterColon := [' ']
  isSpace_lineBreak level c hc := by
    rcases List.mem_cons.mp hc with rfl | hc
    · decide
    · rw [List.eq_of_mem_replicate hc]
      decide
  isSpace_afterColon c hc := by
    rw [List.mem_singleton.mp hc]
    decide

section Text

variable (code : StringCode) (layout : Layout)

mutual
/-- The text of a value at a level of nesting. -/
def text : Nat → JsonValue → List Char
  | _, .null => ['n', 'u', 'l', 'l']
  | _, .bool true => ['t', 'r', 'u', 'e']
  | _, .bool false => ['f', 'a', 'l', 's', 'e']
  | _, .int i => intText i
  | _, .float literal => literal.toList
  | _, .str s => code.quoted s
  | level, .arr items => '[' :: itemsText level items
  | level, .obj members => '{' :: membersText level members

/-- The items of an array and its closing bracket. -/
def itemsText : Nat → List JsonValue → List Char
  | _, [] => [']']
  | level, [v] => layout.lineBreak (level + 1) ++ (text (level + 1) v ++
      (layout.lineBreak level ++ [']']))
  | level, v :: w :: vs => layout.lineBreak (level + 1) ++ (text (level + 1) v ++
      ',' :: itemsText level (w :: vs))

/-- The members of an object and its closing brace. -/
def membersText : Nat → List (String × JsonValue) → List Char
  | _, [] => ['}']
  | level, [(k, v)] => layout.lineBreak (level + 1) ++ (code.quoted k ++ ':' ::
      (layout.afterColon ++ (text (level + 1) v ++ (layout.lineBreak level ++ ['}']))))
  | level, (k, v) :: m :: ms => layout.lineBreak (level + 1) ++ (code.quoted k ++ ':' ::
      (layout.afterColon ++ (text (level + 1) v ++ ',' :: membersText level (m :: ms))))
end

end Text

mutual
/-- The same value with the members of every object sorted. -/
def sortKeys : JsonValue → JsonValue
  | .null => .null
  | .bool b => .bool b
  | .int i => .int i
  | .float literal => .float literal
  | .str s => .str s
  | .arr items => .arr (sortKeysItems items)
  | .obj members => .obj (Json.sortMembers (sortKeysMembers members))

def sortKeysItems : List JsonValue → List JsonValue
  | [] => []
  | v :: vs => sortKeys v :: sortKeysItems vs

def sortKeysMembers : List (String × JsonValue) → List (String × JsonValue)
  | [] => []
  | (k, v) :: ms => (k, sortKeys v) :: sortKeysMembers ms
end

/-- The text in a layout, with sorted members. -/
def sortedText (code : StringCode) (layout : Layout) (v : JsonValue) : List Char :=
  text code layout 0 (sortKeys v)

/-! ### Values without floats -/

mutual
/-- A value without floats. -/
def ofJson : Json → JsonValue
  | .null => .null
  | .bool b => .bool b
  | .int i => .int i
  | .str s => .str s
  | .arr items => .arr (ofJsonItems items)
  | .obj members => .obj (ofJsonMembers members)

def ofJsonItems : List Json → List JsonValue
  | [] => []
  | v :: vs => ofJson v :: ofJsonItems vs

def ofJsonMembers : List (String × Json) → List (String × JsonValue)
  | [] => []
  | (k, v) :: ms => (k, ofJson v) :: ofJsonMembers ms
end

theorem ofJsonItems_eq_map (vs : List Json) : ofJsonItems vs = vs.map ofJson := by
  induction vs with
  | nil => rfl
  | cons v vs ih => rw [ofJsonItems, ih, List.map_cons]

theorem ofJsonMembers_eq_map (ms : List (String × Json)) :
    ofJsonMembers ms = ms.map fun m => (m.1, ofJson m.2) := by
  induction ms with
  | nil => rfl
  | cons m ms ih => rw [ofJsonMembers, ih, List.map_cons]

mutual
theorem text_ofJson (code : StringCode) : ∀ (level : Nat) (v : Json),
    text code compact level (ofJson v) = Json.text code v
  | _, .null => by rw [ofJson, text, Json.text]
  | _, .bool true => by rw [ofJson, text, Json.text]
  | _, .bool false => by rw [ofJson, text, Json.text]
  | _, .int _ => by rw [ofJson, text, Json.text]
  | _, .str _ => by rw [ofJson, text, Json.text]
  | level, .arr vs => by rw [ofJson, text, Json.text, itemsText_ofJson code level vs]
  | level, .obj ms => by rw [ofJson, text, Json.text, membersText_ofJson code level ms]

theorem itemsText_ofJson (code : StringCode) : ∀ (level : Nat) (vs : List Json),
    itemsText code compact level (ofJsonItems vs) = Json.itemsText code vs
  | _, [] => by rw [ofJsonItems, itemsText, Json.itemsText]
  | level, [v] => by
      rw [ofJsonItems, ofJsonItems, itemsText, Json.itemsText, text_ofJson code (level + 1) v]
      rfl
  | level, v :: w :: vs => by
      have htail := itemsText_ofJson code level (w :: vs)
      rw [ofJsonItems] at htail
      rw [ofJsonItems, ofJsonItems, itemsText, htail, Json.itemsText,
        text_ofJson code (level + 1) v]
      rfl

theorem membersText_ofJson (code : StringCode) : ∀ (level : Nat) (ms : List (String × Json)),
    membersText code compact level (ofJsonMembers ms) = Json.membersText code ms
  | _, [] => by rw [ofJsonMembers, membersText, Json.membersText]
  | level, [(k, v)] => by
      rw [ofJsonMembers, ofJsonMembers, membersText, Json.membersText,
        text_ofJson code (level + 1) v]
      rfl
  | level, (k, v) :: (j, w) :: ms => by
      have htail := membersText_ofJson code level ((j, w) :: ms)
      rw [ofJsonMembers] at htail
      rw [ofJsonMembers, ofJsonMembers, membersText, htail, Json.membersText,
        text_ofJson code (level + 1) v]
      rfl
end

/-- Sorting by key commutes with a change of the values. -/
theorem sortMembers_map {α β : Type} (f : α → β) (ms : List (String × α)) :
    Json.sortMembers (ms.map fun m => (m.1, f m.2)) =
      (Json.sortMembers ms).map fun m => (m.1, f m.2) := by
  symm
  exact List.map_insertionSort _ _ (fun m : String × α => (m.1, f m.2)) ms
    fun _ _ _ _ => Iff.rfl

mutual
theorem sortKeys_ofJson : ∀ v : Json, sortKeys (ofJson v) = ofJson (Json.sortKeys v)
  | .null => by rw [ofJson, sortKeys, Json.sortKeys, ofJson]
  | .bool _ => by rw [ofJson, sortKeys, Json.sortKeys, ofJson]
  | .int _ => by rw [ofJson, sortKeys, Json.sortKeys, ofJson]
  | .str _ => by rw [ofJson, sortKeys, Json.sortKeys, ofJson]
  | .arr vs => by rw [ofJson, sortKeys, Json.sortKeys, ofJson, sortKeysItems_ofJson vs]
  | .obj ms => by
      rw [ofJson, sortKeys, Json.sortKeys, ofJson, sortKeysMembers_ofJson ms,
        ofJsonMembers_eq_map, ofJsonMembers_eq_map, sortMembers_map]

theorem sortKeysItems_ofJson : ∀ vs : List Json,
    sortKeysItems (ofJsonItems vs) = ofJsonItems (Json.sortKeysItems vs)
  | [] => by rw [ofJsonItems, sortKeysItems, Json.sortKeysItems, ofJsonItems]
  | v :: vs => by
      rw [ofJsonItems, sortKeysItems, Json.sortKeysItems, ofJsonItems, sortKeys_ofJson v,
        sortKeysItems_ofJson vs]

theorem sortKeysMembers_ofJson : ∀ ms : List (String × Json),
    sortKeysMembers (ofJsonMembers ms) = ofJsonMembers (Json.sortKeysMembers ms)
  | [] => by rw [ofJsonMembers, sortKeysMembers, Json.sortKeysMembers, ofJsonMembers]
  | (k, v) :: ms => by
      rw [ofJsonMembers, sortKeysMembers, Json.sortKeysMembers, ofJsonMembers, sortKeys_ofJson v,
        sortKeysMembers_ofJson ms]
end

/-- The compact text with sorted members. -/
def canonicalText (code : StringCode) (v : JsonValue) : List Char := sortedText code compact v

theorem canonicalText_ofJson (code : StringCode) (v : Json) :
    canonicalText code (ofJson v) = Json.sortedText code v := by
  rw [canonicalText, sortedText, sortKeys_ofJson, text_ofJson, Json.sortedText]

end JsonValue
