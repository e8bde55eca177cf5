import Vrl.Lib.Text

/-!
# Vrl.Lib.Hash

SHA-256 as programs use it: text in, hexadecimal text out.

The function is left abstract. What is known of it whatever its input, the
alphabet of the digest, is carried by the structure itself; that it does not
collide is an assumption for the theorem that needs it, never a field.
-/

open TextCodec

/-- SHA-256 of the UTF-8 bytes of a text, as lower-case hexadecimal. -/
structure Sha256 where
  hexdigest : String → String
  isLowerHex_hexdigest : ∀ s, ∀ c ∈ (hexdigest s).toList, isLowerHex c = true

theorem Sha256.isAscii_hexdigest (sha : Sha256) (s : String) :
    IsAscii (sha.hexdigest s).toList :=
  fun c hc => isAsciiChar_of_isLowerHex (sha.isLowerHex_hexdigest s c hc)

/-- A stand-in that computes: the digest of a text is its length in bytes. -/
def lengthSha : Sha256 where
  hexdigest s := String.ofList (hexFixed 64 s.utf8ByteSize)
  isLowerHex_hexdigest s := by
    rw [String.toList_ofList]
    exact hexFixed_isLowerHex 64 _

/-- The digest has the 64 digits of SHA-256. -/
def Sha256.IsFullLength (sha : Sha256) : Prop := ∀ s, (sha.hexdigest s).toList.length = 64

theorem lengthSha_isFullLength : lengthSha.IsFullLength := by
  intro s
  rw [lengthSha, String.toList_ofList, hexFixed_length]

/-! ### Collisions -/

/-- Two inputs are no collision: equal images come from equal inputs. -/
def CollisionFree {α β : Type} (f : α → β) (a b : α) : Prop := f a = f b → a = b

/-- An injective function has no collisions. -/
theorem CollisionFree.of_injective {α β : Type} {f : α → β} (h : Function.Injective f) (a b : α) :
    CollisionFree f a b :=
  fun heq => h heq

/-! ### Concatenations -/

/-- Two texts written one after the other are known from the whole once the size of
the first is. -/
theorem String.append_inj_of_size {a b a' b' : String} (h : a ++ b = a' ++ b')
    (ha : a.utf8ByteSize = a'.utf8ByteSize) : a = a' ∧ b = b' := by
  have hlist := congrArg String.toList h
  rw [String.toList_append, String.toList_append] at hlist
  -- one of the two is a prefix of the other, and the rest has size 0
  have hprefix : ∀ {x y : String} {t : List Char}, x.toList = y.toList ++ t →
      x.utf8ByteSize = y.utf8ByteSize → t = [] := by
    intro x y t hxy hsize
    have heq : x = y ++ String.ofList t := by
      rw [← String.toList_inj, String.toList_append, String.toList_ofList, hxy]
    rw [heq, String.utf8ByteSize_append] at hsize
    have hzero : (String.ofList t).utf8ByteSize = 0 := by omega
    rw [String.utf8ByteSize_eq_zero_iff] at hzero
    simpa using hzero
  obtain ⟨t, ht, hb⟩ | ⟨t, ht, hb⟩ := List.append_eq_append_iff.mp hlist
  · obtain rfl := hprefix ht ha.symm
    rw [List.append_nil] at ht
    exact ⟨(String.toList_inj.mp ht).symm, String.toList_inj.mp hb⟩
  · obtain rfl := hprefix ht ha
    rw [List.append_nil] at ht
    exact ⟨String.toList_inj.mp ht, (String.toList_inj.mp hb).symm⟩

/-- Three texts written one after the other are known from the whole once the sizes
of two of them are. -/
theorem String.append_three_inj {a b c a' b' c' : String} (h : a ++ b ++ c = a' ++ b' ++ c')
    (ha : a.utf8ByteSize = a'.utf8ByteSize) (hb : b.utf8ByteSize = b'.utf8ByteSize) :
    a = a' ∧ b = b' ∧ c = c' := by
  rw [String.append_assoc, String.append_assoc] at h
  obtain ⟨ha', hbc⟩ := String.append_inj_of_size h ha
  exact ⟨ha', String.append_inj_of_size hbc hb⟩

/-- Two texts written one after the other are known from the whole once the number of
characters of the first is. -/
theorem String.append_inj_of_length {a b a' b' : String} (h : a ++ b = a' ++ b')
    (ha : a.toList.length = a'.toList.length) : a = a' ∧ b = b' := by
  have hlist := congrArg String.toList h
  rw [String.toList_append, String.toList_append] at hlist
  obtain ⟨ha', hb'⟩ := List.append_inj hlist ha
  exact ⟨String.toList_inj.mp ha', String.toList_inj.mp hb'⟩

/-! ### Digests that are known -/

/-- Some texts with their digests, which have 64 digits each and are all different. -/
structure DigestTable where
  entries : List (String × String)
  isDigest : ∀ e ∈ entries, e.2.toList.length = 64 ∧ ∀ c ∈ e.2.toList, isLowerHex c = true
  distinct : (entries.map (·.2)).Nodup

namespace DigestTable

variable (table : DigestTable)

/-- A digest without collisions that is the right one on the texts of the table. -/
def digest (s : String) : String :=
  match table.entries.find? (·.1 = s) with
  | some entry => entry.2
  | none => String.ofList ('1' :: hexEncode s.toList)

/-- The digest is in the table, or too long to be. -/
theorem digest_cases (s : String) :
    (∃ entry ∈ table.entries, entry.1 = s ∧ table.digest s = entry.2) ∨
      table.digest s = String.ofList ('1' :: hexEncode s.toList) := by
  unfold digest
  cases hfind : table.entries.find? (·.1 = s) with
  | none => exact .inr rfl
  | some entry =>
      have hkey : entry.1 = s := by simpa using List.find?_some hfind
      exact .inl ⟨entry, List.mem_of_find?_eq_some hfind, hkey, rfl⟩

theorem digest_isLowerHex (s : String) : ∀ c ∈ (table.digest s).toList, isLowerHex c = true := by
  rcases table.digest_cases s with ⟨entry, hentry, -, hdigest⟩ | hdigest
  · rw [hdigest]
    exact (table.isDigest entry hentry).2
  · rw [hdigest, String.toList_ofList]
    exact List.forall_mem_cons.mpr ⟨by decide, hexEncode_isLowerHex _⟩

theorem digest_injective : Function.Injective table.digest := by
  intro s t h
  have hlong : ∀ entry ∈ table.entries, ∀ u : String,
      entry.2 ≠ String.ofList ('1' :: hexEncode u.toList) := by
    intro entry hentry u heq
    have hlen := (table.isDigest entry hentry).1
    rw [heq, String.toList_ofList, List.length_cons, hexEncode_length] at hlen
    omega
  rcases table.digest_cases s with ⟨e, he, hes, hs⟩ | hs
  · rcases table.digest_cases t with ⟨e', he', het, ht⟩ | ht
    · rw [hs, ht] at h
      have heq : e = e' := List.inj_on_of_nodup_map table.distinct he he' h
      rw [← hes, ← het, heq]
    · rw [hs, ht] at h
      exact absurd h (hlong e he t)
  · rcases table.digest_cases t with ⟨e', he', het, ht⟩ | ht
    · rw [hs, ht] at h
      exact absurd h.symm (hlong e' he' s)
    · rw [hs, ht] at h
      have hst := (List.cons.inj (String.ofList_injective h)).2
      exact String.toList_inj.mp (hexEncode_injective hst)

/-- The digests of the table have full length. -/
theorem digest_length {s : String} (h : s ∈ table.entries.map (·.1)) :
    (table.digest s).toList.length = 64 := by
  unfold digest
  cases hfind : table.entries.find? (·.1 = s) with
  | none =>
      obtain ⟨entry, hentry, rfl⟩ := List.mem_map.mp h
      have hnot := List.find?_eq_none.mp hfind entry hentry
      simp at hnot
  | some entry => exact (table.isDigest entry (List.mem_of_find?_eq_some hfind)).1

/-- A text that is not in the table and does not begin with a 1 is no digest. -/
theorem digest_ne {value : String} (hentries : ∀ e ∈ table.entries, e.2 ≠ value)
    (hfirst : value.toList.head? ≠ some '1') (s : String) : table.digest s ≠ value := by
  intro heq
  rcases table.digest_cases s with ⟨entry, hentry, -, hdigest⟩ | hdigest
  · exact hentries entry hentry (hdigest.symm.trans heq)
  · rw [← heq, hdigest, String.toList_ofList] at hfirst
    exact hfirst rfl

/-- SHA-256 as far as the table goes. -/
def sha : Sha256 where
  hexdigest := table.digest
  isLowerHex_hexdigest := table.digest_isLowerHex

theorem sha_injective : Function.Injective table.sha.hexdigest := table.digest_injective

/-- The digest of the table, and one of full length for every other text. -/
def paddedDigest (s : String) : String :=
  match table.entries.find? (·.1 = s) with
  | some entry => entry.2
  | none => lengthSha.hexdigest s

theorem paddedDigest_isDigest (s : String) : (table.paddedDigest s).toList.length = 64 ∧
    ∀ c ∈ (table.paddedDigest s).toList, isLowerHex c = true := by
  unfold paddedDigest
  cases hfind : table.entries.find? (·.1 = s) with
  | some entry => exact table.isDigest entry (List.mem_of_find?_eq_some hfind)
  | none => exact ⟨lengthSha_isFullLength s, lengthSha.isLowerHex_hexdigest s⟩

/-- SHA-256 as far as the table goes, with digests of full length for all texts. -/
def padded : Sha256 where
  hexdigest := table.paddedDigest
  isLowerHex_hexdigest s := (table.paddedDigest_isDigest s).2

theorem padded_isFullLength : table.padded.IsFullLength :=
  fun s => (table.paddedDigest_isDigest s).1

end DigestTable
