import Vrl.Lib.NameUuid
import Vrl.Sdk.Go.BundleIdentity
import Vrl.Sdk.Python.VerifierSpec
import Vrl.Sdk.TypeScript.Verifier

/-!
# Vrl.Sdk.IdentityAgreement

The bundle identifiers that the three SDKs derive from an integrity hash.

Python asks its library for the UUID of version 5. TypeScript writes the first digits of
the hash itself, and Go those of a SHA-256 over the name space and the hash. They are
one identifier only where both coincide with the UUID (**`identities_agree_iff`**).
-/

open TextCodec

namespace Vrl.Sdk

/-! ### Identifiers -/

/-- An integrity hash: 64 lower-case hexadecimal digits. -/
structure IntegrityHash where
  text : String
  isHexHash : Python.isHexHash text = true

namespace IntegrityHash

variable (h : IntegrityHash)

/-- The digits of the hash. -/
def digits : List Char := h.text.toList

theorem length_digits : h.digits.length = 64 :=
  of_decide_eq_true (Bool.and_eq_true_iff.mp h.isHexHash).1

theorem isLowerHex_digits : ∀ c ∈ h.digits, isLowerHex c = true :=
  List.all_eq_true.mp (Bool.and_eq_true_iff.mp h.isHexHash).2

end IntegrityHash

variable (sha1 : Sha1) (std : PyStd)

/-- The UUID of version 5 of the VRL name space and an integrity hash. -/
def specifiedUuid (h : IntegrityHash) : Uuid :=
  uuidVersion5 sha1 Python.vrlNamespaceUuid h.text

/-- The library of Python, with the UUIDs that `uuid.uuid5` computes. -/
def withUuid5 : PyStd := { std with uuid5 := uuidVersion5 sha1 }

/-- `compute_bundle_id_from_integrity`. -/
def pythonId (h : IntegrityHash) : String :=
  Python.computeBundleIdFromIntegrity (withUuid5 sha1 std) h.text

/-- `generateBundleId`. -/
def typeScriptId (h : IntegrityHash) : String := TypeScript.generateBundleId h.text

/-- `uuidv5` of the name space that the builder passes. -/
def goId (h : IntegrityHash) : Option String :=
  Go.uuidv5 std.toSha256 Go.vrlNamespace h.text

/-- The identifiers are all the UUID that is specified, and a bundle that has any of them
passes the identifier step of every verifier. -/
structure IdentitiesAgree (h : IntegrityHash) : Prop where
  python : pythonId sha1 std h = String.ofList (specifiedUuid sha1 h).text
  typeScript : typeScriptId h = String.ofList (specifiedUuid sha1 h).text
  go : goId std h = some (String.ofList (specifiedUuid sha1 h).text)
  accepted : ∀ id, id = pythonId sha1 std h ∨ id = typeScriptId h ∨ some id = goId std h →
    (∀ bundle result, bundle.bundleId = id → bundle.computation.integrityHash = h.text →
      (Python.step3BundleIdCheck (withUuid5 sha1 std) bundle result).2 = true) ∧
    (∀ bundle, bundle.bundleId = id → bundle.computation.integrityHash = h.text →
      (TypeScript.step3BundleIdCheck bundle).passed = true) ∧
    ∀ bundle result, bundle.bundleId = id → bundle.computation.integrityHash = h.text →
      (Go.step3 std.toSha256 bundle result).2 = true

/-! ### The identifier of the Python SDK -/

theorem pythonId_eq (h : IntegrityHash) :
    pythonId sha1 std h = String.ofList (hyphenated (specifiedUuid sha1 h).hex) := by
  rw [← Uuid.text_eq_hyphenated]
  rfl

/-! ### The identifier of the TypeScript SDK -/

theorem hexFixed_two {a b : Nat} (ha : a < 16) (hb : b < 16) :
    hexFixed 2 (16 * a + b) = [hexDigit a, hexDigit b] := by
  have hhi : (16 * a + b) / 16 % 16 = a := by omega
  have hlo : (16 * a + b) % 16 = b := by omega
  simp [hexFixed, hhi, hlo]

/-- The hyphen after some of the bytes. -/
def hyphenAfter (i : Nat) : List Char := if i = 3 ∨ i = 5 ∨ i = 7 ∨ i = 9 then ['-'] else []

/-- A byte that is read from two digits is written with the same two. -/
theorem appendBytes_hexBytes_cons {c d : Char} (hc : isLowerHex c = true)
    (hd : isLowerHex d = true) (i : Nat) (cs : List Char) :
    TypeScript.appendBytes i (TypeScript.hexBytes (c :: d :: cs)) =
      c :: d :: (hyphenAfter i ++ TypeScript.appendBytes (i + 1) (TypeScript.hexBytes cs)) := by
  obtain ⟨a, ha, rfl⟩ := exists_hexDigit_of_isLowerHex hc
  obtain ⟨b, hb, rfl⟩ := exists_hexDigit_of_isLowerHex hd
  rw [TypeScript.hexBytes, hexVal_toLower_hexDigit ha, hexVal_toLower_hexDigit hb]
  show hexFixed 2 (16 * a + b) ++ hyphenAfter i ++ _ = _
  rw [hexFixed_two ha hb]
  rfl

/-- A group of digits that only has a hyphen after its last byte. -/
theorem appendBytes_hexBytes_group (k i : Nat) {cs : List Char} (rest : List Char)
    (hlen : cs.length = 2 * (k + 1)) (hcs : ∀ c ∈ cs, isLowerHex c = true)
    (hinner : ∀ j < k, hyphenAfter (i + j) = []) :
    TypeScript.appendBytes i (TypeScript.hexBytes (cs ++ rest)) =
      cs ++ (hyphenAfter (i + k) ++
        TypeScript.appendBytes (i + (k + 1)) (TypeScript.hexBytes rest)) := by
  induction k generalizing i cs with
  | zero =>
      obtain ⟨c, d, rfl⟩ := List.length_eq_two.mp hlen
      simp only [List.forall_mem_cons] at hcs
      exact appendBytes_hexBytes_cons hcs.1 hcs.2.1 i rest
  | succ k ih =>
      obtain ⟨c, d, cs, rfl⟩ : ∃ c d cs', cs = c :: d :: cs' := by
        cases cs with
        | nil => cases hlen
        | cons c cs =>
            cases cs with
            | nil =>
                rw [List.length_singleton] at hlen
                omega
            | cons d cs => exact ⟨c, d, cs, rfl⟩
      simp only [List.forall_mem_cons] at hcs
      have hrest : cs.length = 2 * (k + 1) := by
        simp only [List.length_cons] at hlen
        omega
      have hinner' : ∀ j < k, hyphenAfter (i + 1 + j) = [] := by
        intro j hj
        have hnext := hinner (j + 1) (by omega)
        rwa [Nat.add_comm j 1, ← Nat.add_assoc] at hnext
      have hgroup := ih (i + 1) hrest hcs.2.2 hinner'
      have hfirst : hyphenAfter i = [] := hinner 0 (by omega)
      rw [List.cons_append, List.cons_append, appendBytes_hexBytes_cons hcs.1 hcs.2.1, hfirst,
        List.nil_append, hgroup]
      have hk : i + 1 + k = i + (k + 1) := by omega
      have hk' : i + 1 + (k + 1) = i + (k + 1 + 1) := by omega
      rw [hk, hk']
      rfl

theorem length_hexBytes_le (cs : List Char) :
    2 * (TypeScript.hexBytes cs).length ≤ cs.length := by
  fun_induction TypeScript.hexBytes cs with
  | case1 c d cs hi lo hhi hlo ih =>
      simp only [List.length_cons]
      omega
  | case2 => simp
  | case3 => simp

/-- Digits in their groups. -/
theorem digits_in_groups {digits : List Char} (hlen : digits.length = 32) :
    digits = digits.take 8 ++ ((digits.drop 8).take 4 ++ ((digits.drop 12).take 4 ++
      ((digits.drop 16).take 4 ++ ((digits.drop 20).take 12 ++ [])))) := by
  have hlast : (digits.drop 20).take 12 = digits.drop 20 :=
    List.take_of_length_le (by rw [List.length_drop, hlen])
  have hsplit : ∀ i j, (digits.drop i).take j ++ digits.drop (i + j) = digits.drop i := by
    intro i j
    rw [← List.drop_drop, List.take_append_drop]
  rw [List.append_nil, hlast, hsplit 16 4, hsplit 12 4, hsplit 8 4, List.take_append_drop]

/-- `generateBundleId` sets the hyphens of a UUID between the first 32 digits. -/
theorem typeScriptId_eq (h : IntegrityHash) :
    typeScriptId h = String.ofList (hyphenated h.digits) := by
  rw [← hyphenated_take, typeScriptId, TypeScript.generateBundleId]
  generalize hdigits : h.digits.take 32 = digits
  have hlen : digits.length = 32 := by
    rw [← hdigits, List.length_take, h.length_digits]
    rfl
  have hlower : ∀ c ∈ digits, isLowerHex c = true := by
    rw [← hdigits]
    exact fun c hc => h.isLowerHex_digits c (List.mem_of_mem_take hc)
  have hgroup : ∀ i j, ∀ c ∈ (digits.drop i).take j, isLowerHex c = true :=
    fun i j c hc => hlower c (List.mem_of_mem_drop (List.mem_of_mem_take hc))
  have hfirst : ∀ c ∈ digits.take 8, isLowerHex c = true :=
    fun c hc => hlower c (List.mem_of_mem_take hc)
  have hbytes : (TypeScript.hexBytes digits).take 16 = TypeScript.hexBytes digits := by
    refine List.take_of_length_le ?_
    have hle := length_hexBytes_le digits
    omega
  show String.ofList (TypeScript.appendBytes 0
    ((TypeScript.hexBytes (h.digits.take 32)).take 16)) = _
  rw [hdigits, hbytes]
  conv_lhs => rw [digits_in_groups hlen]
  rw [appendBytes_hexBytes_group 3 0 _ (by simp [hlen]) hfirst (by decide),
    appendBytes_hexBytes_group 1 4 _ (by simp [hlen]) (hgroup 8 4) (by decide),
    appendBytes_hexBytes_group 1 6 _ (by simp [hlen]) (hgroup 12 4) (by decide),
    appendBytes_hexBytes_group 1 8 _ (by simp [hlen]) (hgroup 16 4) (by decide),
    appendBytes_hexBytes_group 5 10 _ (by simp [hlen]) (hgroup 20 12) (by decide)]
  simp [hyphenated, hyphenAfter, TypeScript.hexBytes, TypeScript.appendBytes]

/-! ### The identifier of the Go SDK -/

/-- The digits of the name space as Go writes them before the name. -/
def goNamespaceDigits : String := String.ofList (Go.vrlNamespace.toList.filter (· != '-'))

/-- The digits of the SHA-256 that Go takes the identifier from. -/
def goDigits (h : IntegrityHash) : List Char :=
  (std.hexdigest (goNamespaceDigits ++ h.text)).toList

theorem goId_eq (h : IntegrityHash) :
    goId std h = some (String.ofList (hyphenated (goDigits std h))) := by
  have hsize : goNamespaceDigits.utf8ByteSize = 32 := by decide +kernel
  rw [goId, Go.uuidv5]
  exact if_neg (not_not_intro hsize)

/-! ### The format of an identifier -/

theorem matchesGroups_append {n m : Nat} {ns : List Nat} {group : List Char} (rest : List Char)
    (hlen : group.length = n) (hgroup : group.all isHexAnyCase = true) :
    TypeScript.matchesGroups (n :: m :: ns) (group ++ '-' :: rest) =
      TypeScript.matchesGroups (m :: ns) rest := by
  subst hlen
  simp [TypeScript.matchesGroups, hgroup]

/-- Digits in groups match the pattern that TypeScript has for UUIDs. -/
theorem uuidRegex_hyphenated {digits : List Char} (hlen : 32 ≤ digits.length)
    (hlower : ∀ c ∈ digits, isLowerHex c = true) :
    TypeScript.uuidRegex (String.ofList (hyphenated digits)) = true := by
  have hgroup : ∀ i j, ((digits.drop i).take j).all isHexAnyCase = true := by
    intro i j
    rw [List.all_eq_true]
    intro c hc
    rw [isHexAnyCase, hlower c (List.mem_of_mem_drop (List.mem_of_mem_take hc)), Bool.true_or]
  have hfirst := hgroup 0 8
  have hlength : ∀ i j, i + j ≤ 32 → ((digits.drop i).take j).length = j := by
    intro i j hij
    rw [List.length_take, List.length_drop]
    omega
  have hlengthFirst := hlength 0 8 (by decide)
  rw [List.drop_zero] at hfirst hlengthFirst
  rw [TypeScript.uuidRegex, String.toList_ofList, hyphenated,
    matchesGroups_append _ hlengthFirst hfirst,
    matchesGroups_append _ (hlength 8 4 (by decide)) (hgroup 8 4),
    matchesGroups_append _ (hlength 12 4 (by decide)) (hgroup 12 4),
    matchesGroups_append _ (hlength 16 4 (by decide)) (hgroup 16 4),
    TypeScript.matchesGroups, hlength 20 12 (by decide), hgroup 20 12]
  rfl

/-! ### Agreement -/

/-- Where the identifiers are the UUID, every verifier accepts it. -/
theorem accepted_of_eq {h : IntegrityHash}
    (htypeScript : typeScriptId h = String.ofList (specifiedUuid sha1 h).text)
    (hgo : goId std h = some (String.ofList (specifiedUuid sha1 h).text)) :
    IdentitiesAgree sha1 std h where
  python := rfl
  typeScript := htypeScript
  go := hgo
  accepted := by
    intro id hid
    obtain rfl : id = String.ofList (specifiedUuid sha1 h).text := by
      rcases hid with hid | hid | hid
      · exact hid
      · exact hid.trans htypeScript
      · exact Option.some.inj (hid.trans hgo)
    refine ⟨?_, ?_, ?_⟩
    · intro bundle result hbundle hintegrity
      have heq : Python.computeBundleIdFromIntegrity (withUuid5 sha1 std)
          bundle.computation.integrityHash = bundle.bundleId := by
        rw [hbundle, hintegrity]
        rfl
      simp [Python.step3BundleIdCheck, heq, Python.VerificationResult.accept]
    · intro bundle hbundle _
      have hregex : TypeScript.uuidRegex bundle.bundleId = true := by
        rw [hbundle, Uuid.text_eq_hyphenated]
        exact uuidRegex_hyphenated (by simp) (Uuid.hex_isLowerHex _)
      simp [TypeScript.step3BundleIdCheck, hregex]
    · intro bundle result hbundle hintegrity
      have heq : Go.uuidv5 std.toSha256 Go.vrlNamespace bundle.computation.integrityHash =
          some bundle.bundleId := by
        rw [hbundle, hintegrity]
        exact hgo
      simp [Go.step3, heq, Go.VerificationResult.accept]

/-- **The three SDKs derive the identifier that is specified exactly for the hashes that
begin with its 32 digits**, as the SHA-256 over the name space and the hash has to begin
as well. -/
theorem identities_agree_iff (h : IntegrityHash) :
    IdentitiesAgree sha1 std h ↔
      h.digits.take 32 = (specifiedUuid sha1 h).hex ∧
        (goDigits std h).take 32 = (specifiedUuid sha1 h).hex := by
  have hhex : (specifiedUuid sha1 h).hex.take 32 = (specifiedUuid sha1 h).hex :=
    List.take_of_length_le (by simp)
  have hspecified := Uuid.hex_isLowerHex (specifiedUuid sha1 h)
  have hlower : ∀ c ∈ goDigits std h, isLowerHex c = true := std.isLowerHex_hexdigest _
  have htypeScript : typeScriptId h = String.ofList (specifiedUuid sha1 h).text ↔
      h.digits.take 32 = (specifiedUuid sha1 h).hex := by
    rw [typeScriptId_eq, Uuid.text_eq_hyphenated, String.ofList_inj,
      hyphenated_inj h.isLowerHex_digits hspecified, hhex]
  have hgo : goId std h = some (String.ofList (specifiedUuid sha1 h).text) ↔
      (goDigits std h).take 32 = (specifiedUuid sha1 h).hex := by
    rw [goId_eq, Uuid.text_eq_hyphenated, Option.some_inj, String.ofList_inj,
      hyphenated_inj hlower hspecified, hhex]
  constructor
  · intro hagree
    exact ⟨htypeScript.mp hagree.typeScript, hgo.mp hagree.go⟩
  · intro ⟨hdigits, hdigest⟩
    exact accepted_of_eq sha1 std (htypeScript.mpr hdigits) (hgo.mpr hdigest)

/-- Where TypeScript's identifier is the UUID, the hash has its version among its digits. -/
theorem version_of_typeScript {h : IntegrityHash}
    (htypeScript : typeScriptId h = String.ofList (specifiedUuid sha1 h).text) :
    h.digits[12]? = some '5' := by
  have hspecified := Uuid.hex_isLowerHex (specifiedUuid sha1 h)
  rw [typeScriptId_eq, Uuid.text_eq_hyphenated, String.ofList_inj,
    hyphenated_inj h.isLowerHex_digits hspecified] at htypeScript
  have hversion : (specifiedUuid sha1 h).hex[12]? = some '5' := uuidVersion5_version ..
  have hdigit := congrArg (·[12]?) htypeScript
  simpa only [List.getElem?_take, show 12 < 32 by decide, if_true, hversion] using hdigit

/-! ### An integrity hash of zeros -/

/-- 64 zeros. -/
def zeroHash : IntegrityHash where
  text := String.ofList (List.replicate 64 '0')
  isHexHash := by
    rw [Python.isHexHash, String.toList_ofList]
    decide

theorem zeroHash_digits : zeroHash.digits = List.replicate 64 '0' := String.toList_ofList

/-- The digest of the name space and the zeros. -/
def zeroSha1 : Sha1 := ⟨fun _ => ⟨0xadd42c830a9e413bbc4245718baff429e2ba0b1c, by decide⟩⟩

/-- The digest of the text that Go hashes for the zeros. -/
def zeroDigests : DigestTable where
  entries :=
    [(goNamespaceDigits ++ zeroHash.text,
      "b5fadbb8af9a58dd6d97fb897d16ad91d293e7c501f079457344adce199cf992")]
  isDigest := by decide +kernel
  distinct := by decide +kernel

/-- The library with this digest. -/
def zeroStd : PyStd := { lengthStd with toSha256 := zeroDigests.sha }

example : String.ofList (specifiedUuid zeroSha1 zeroHash).text =
    "add42c83-0a9e-513b-bc42-45718baff429" := by
  decide +kernel

/-- TypeScript's identifier of the zeros has no version. -/
theorem zeroHash_disagrees : ¬ IdentitiesAgree zeroSha1 zeroStd zeroHash := by
  intro hagree
  have hversion := version_of_typeScript zeroSha1 hagree.typeScript
  rw [zeroHash_digits, List.getElem?_replicate_of_lt (by decide)] at hversion
  exact absurd (Option.some.inj hversion) (by decide)

end Vrl.Sdk
