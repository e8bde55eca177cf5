import Vrl.Lib.JsonEscape

/-!
# Vrl.Lib.JsJson

How JavaScript writes JSON: `JSON.stringify` of a string, and the order that `sort`
puts keys in.

A string is a sequence of UTF-16 code units to the language, and its order is theirs.
Keys in ASCII are in the same order by code units as by code points
(**`Json.sortKeysUtf16_eq`**).
-/

open TextCodec

/-! ### Strings -/

/-- One character of a string literal: quotes, backslashes and control characters are
escaped. -/
def stringifyEscape (c : Char) : List Char :=
  if c = '"' then ['\\', '"']
  else if c = '\\' then ['\\', '\\']
  else if c = '\n' then ['\\', 'n']
  else if c = '\r' then ['\\', 'r']
  else if c = '\t' then ['\\', 't']
  else if c = '\x08' then ['\\', 'b']
  else if c = '\x0c' then ['\\', 'f']
  else if c.toNat < 0x20 then unicodeEscape c.toNat
  else [c]

theorem asciiRead_stringifyEscape (c : Char) (r : List Char) :
    asciiRead (stringifyEscape c ++ r) = some (c, r) := by
  unfold stringifyEscape
  split_ifs with h1 h2 h3 h4 h5 h6 h7 h8
  -- the seven short escapes
  · subst h1; rfl
  · subst h2; rfl
  · subst h3; rfl
  · subst h4; rfl
  · subst h5; rfl
  · subst h6; rfl
  · subst h7; rfl
  · rw [asciiRead_unicodeEscape (by omega), joinSurrogates, if_neg (by omega), Char.ofNat_toNat]
  · exact asciiRead_of_plain h1 h2 r

/-- The escaping of `JSON.stringify`, as a string code. -/
def stringifyCode : StringCode where
  escape := stringifyEscape
  read := asciiRead
  read_escape := asciiRead_stringifyEscape
  read_quote := asciiRead_quote

/-- The UTF-16 code units of a character. -/
def utf16Units (c : Char) : List Nat :=
  if c.toNat < 0x10000 then [c.toNat]
  else [0xd800 + (c.toNat - 0x10000) / 0x400, 0xdc00 + (c.toNat - 0x10000) % 0x400]

/-- The code units of a text. -/
def utf16 (s : String) : List Nat := s.toList.flatMap utf16Units

/-- `a` does not come after `b`. -/
def Utf16Le (a b : String) : Prop := ¬ utf16 b < utf16 a

instance : DecidableRel Utf16Le := fun a b => inferInstanceAs (Decidable (¬ utf16 b < utf16 a))

theorem utf16_of_isAscii {s : String} (h : IsAscii s.toList) : utf16 s = s.toList.map Char.toNat := by
  rw [utf16]
  generalize s.toList = cs at h
  induction cs with
  | nil => rfl
  | cons c cs ih =>
      obtain ⟨hc, hcs⟩ := isAscii_cons.mp h
      have hlt : c.toNat < 128 := of_decide_eq_true hc
      rw [List.flatMap_cons, ih hcs, utf16Units, if_pos (by omega)]
      rfl

theorem utf16Le_iff {a b : String} (ha : IsAscii a.toList) (hb : IsAscii b.toList) :
    Utf16Le a b ↔ a ≤ b := by
  have hmono : ∀ {x y : String}, x < y → x.toList.map Char.toNat < y.toList.map Char.toNat :=
    fun hxy => List.map_lt (fun _ _ h => h) (String.lt_iff.mp hxy)
  rw [Utf16Le, utf16_of_isAscii ha, utf16_of_isAscii hb]
  constructor
  · intro h
    exact String.not_lt.mp fun hlt => h (hmono hlt)
  · intro h hlt
    by_cases hab : a = b
    · subst hab
      exact lt_irrefl _ hlt
    · have hab' : a < b := by
        by_contra hba
        exact hab (String.le_antisymm h (String.not_lt.mp hba))
      exact lt_asymm (hmono hab') hlt

namespace Json

/-- Members ordered by key, by code units. -/
def sortMembersUtf16 {α : Type} (ms : List (String × α)) : List (String × α) :=
  ms.insertionSort fun m n => Utf16Le m.1 n.1

theorem mem_sortMembersUtf16 {α : Type} {ms : List (String × α)} {m : String × α} :
    m ∈ sortMembersUtf16 ms ↔ m ∈ ms :=
  List.mem_insertionSort _

mutual
/-- The same value with the members of every object sorted by code units. -/
def sortKeysUtf16 : Json → Json
  | .null => .null
  | .bool b => .bool b
  | .int i => .int i
  | .str s => .str s
  | .arr items => .arr (sortKeysUtf16Items items)
  | .obj members => .obj (sortMembersUtf16 (sortKeysUtf16Members members))

def sortKeysUtf16Items : List Json → List Json
  | [] => []
  | v :: vs => sortKeysUtf16 v :: sortKeysUtf16Items vs

def sortKeysUtf16Members : List (String × Json) → List (String × Json)
  | [] => []
  | (k, v) :: ms => (k, sortKeysUtf16 v) :: sortKeysUtf16Members ms
end

mutual
theorem mem_chars_sortKeysUtf16 {c : Char} : ∀ {v : Json},
    c ∈ chars (sortKeysUtf16 v) ↔ c ∈ chars v
  | .null => by simp only [sortKeysUtf16]
  | .bool _ => by simp only [sortKeysUtf16]
  | .int _ => by simp only [sortKeysUtf16]
  | .str _ => by simp only [sortKeysUtf16]
  | .arr vs => by rw [sortKeysUtf16, chars, chars, mem_itemsChars_sortKeysUtf16]
  | .obj ms => by
      rw [sortKeysUtf16, chars, chars, ← mem_membersChars_sortKeysUtf16 ms,
        mem_membersChars, mem_membersChars]
      simp only [mem_sortMembersUtf16]

theorem mem_itemsChars_sortKeysUtf16 {c : Char} : ∀ {vs : List Json},
    c ∈ itemsChars (sortKeysUtf16Items vs) ↔ c ∈ itemsChars vs
  | [] => by simp only [sortKeysUtf16Items]
  | v :: vs => by
      rw [sortKeysUtf16Items, itemsChars, itemsChars, List.mem_append, List.mem_append,
        mem_chars_sortKeysUtf16, mem_itemsChars_sortKeysUtf16]

theorem mem_membersChars_sortKeysUtf16 {c : Char} : ∀ (ms : List (String × Json)),
    c ∈ membersChars (sortKeysUtf16Members ms) ↔ c ∈ membersChars ms
  | [] => by simp only [sortKeysUtf16Members]
  | (k, v) :: ms => by
      simp only [sortKeysUtf16Members, membersChars, List.mem_append, mem_chars_sortKeysUtf16,
        mem_membersChars_sortKeysUtf16]
end

/-! ### Keys in ASCII -/

/-- Two orders that agree on the members sort them alike. -/
theorem insertionSort_congr {α : Type} {r s : α → α → Prop} [DecidableRel r] [DecidableRel s]
    {l : List α} (h : ∀ a ∈ l, ∀ b ∈ l, r a b ↔ s a b) : l.insertionSort r = l.insertionSort s := by
  induction l with
  | nil => rfl
  | cons a l ih =>
      have htail : l.insertionSort r = l.insertionSort s :=
        ih fun x hx y hy => h x (List.mem_cons_of_mem _ hx) y (List.mem_cons_of_mem _ hy)
      rw [List.insertionSort_cons, List.insertionSort_cons, htail]
      have hall : ∀ b ∈ l.insertionSort s, r a b ↔ s a b := fun b hb =>
        h a (List.mem_cons_self ..) b (List.mem_cons_of_mem _ ((List.mem_insertionSort s).mp hb))
      generalize l.insertionSort s = sorted at hall
      induction sorted with
      | nil => rfl
      | cons b sorted ih =>
          obtain ⟨hb, hsorted⟩ := List.forall_mem_cons.mp hall
          simp only [List.orderedInsert, hb, ih hsorted]

theorem sortMembersUtf16_eq {α : Type} {ms : List (String × α)}
    (h : ∀ m ∈ ms, IsAscii m.1.toList) : sortMembersUtf16 ms = sortMembers ms :=
  insertionSort_congr fun m hm n hn => utf16Le_iff (h m hm) (h n hn)

mutual
/-- **Keys in ASCII are sorted by code units as they are by code points.** -/
theorem sortKeysUtf16_eq : ∀ {v : Json}, IsAscii (chars v) → sortKeysUtf16 v = sortKeys v
  | .null, _ => by rw [sortKeysUtf16, sortKeys]
  | .bool _, _ => by rw [sortKeysUtf16, sortKeys]
  | .int _, _ => by rw [sortKeysUtf16, sortKeys]
  | .str _, _ => by rw [sortKeysUtf16, sortKeys]
  | .arr vs, h => by
      rw [chars] at h
      rw [sortKeysUtf16, sortKeys, sortKeysUtf16Items_eq h]
  | .obj ms, h => by
      rw [chars] at h
      rw [sortKeysUtf16, sortKeys, sortKeysUtf16Members_eq h]
      refine congrArg Json.obj (sortMembersUtf16_eq fun m hm c hc => h c ?_)
      rw [← mem_membersChars_sortKeys]
      exact mem_membersChars.mpr ⟨m, hm, .inl hc⟩

theorem sortKeysUtf16Items_eq : ∀ {vs : List Json}, IsAscii (itemsChars vs) →
    sortKeysUtf16Items vs = sortKeysItems vs
  | [], _ => by rw [sortKeysUtf16Items, sortKeysItems]
  | v :: vs, h => by
      rw [itemsChars, isAscii_append] at h
      rw [sortKeysUtf16Items, sortKeysItems, sortKeysUtf16_eq h.1, sortKeysUtf16Items_eq h.2]

theorem sortKeysUtf16Members_eq : ∀ {ms : List (String × Json)}, IsAscii (membersChars ms) →
    sortKeysUtf16Members ms = sortKeysMembers ms
  | [], _ => by rw [sortKeysUtf16Members, sortKeysMembers]
  | (k, v) :: ms, h => by
      rw [membersChars, isAscii_append, isAscii_append] at h
      rw [sortKeysUtf16Members, sortKeysMembers, sortKeysUtf16_eq h.2.1,
        sortKeysUtf16Members_eq h.2.2]
end

/-- What `JSON.stringify` writes with sorted keys. -/
def stringifySorted (v : Json) : List Char := text stringifyCode (sortKeysUtf16 v)

end Json
