import Vrl.Lib.HashChain
import Vrl.Lib.JsonMembers
import Vrl.Lib.Runs
import Vrl.Sdk.Python.CanonicalJson

/-!
# Vrl.Zk.KeyLifecycle

The log of key events (`zk/keys/lifecycle.py`): a file of JSON lines, each with the hash of the
line before it.

The lines are in a file, the hash of the last one in a variable of the module, which is set
before the line is written and lost when the process ends. A line continues the chain exactly
when the two agree (**`isHashChain_append_iff`**), so the file stays one chain along a run in
which they agree whenever a line is written and no line is written in part.
-/

open TextCodec HashChain

namespace Vrl

variable (std : PyStd)

/-! ### Writing the log -/

/-- What `_prev_hash` and `key_lifecycle.jsonl` hold. No file is an empty one. -/
structure KeyLog where
  prevHash : String
  text : List Char

namespace KeyLog

/-- `_ZERO_HASH`. -/
def zeroHash : String := String.ofList (List.replicate 64 '0')

/-- A new process, and no file. -/
def empty : KeyLog := ⟨zeroHash, []⟩

/-- `datetime.isoformat` of an instant in UTC. -/
def isoformat (utc : Nat) : String :=
  let fraction := if utc % 1000000 = 0 then [] else '.' :: decFixed 6 (utc % 1000000)
  String.ofList ((isoSeconds utc).dropLast ++ (fraction ++ ['+', '0', '0', ':', '0', '0']))

/-- How a call of `_append_event` gets on with the file. -/
inductive Write where
  /-- `mkdir` raises. -/
  | noDirectory
  /-- Opening the file or writing to it raises, and nothing has reached the file. -/
  | nothing
  /-- Writing raises when a first part of the line has reached the file. -/
  | part (left : Nat)
  | whole
  deriving DecidableEq, Repr

/-- The characters of a line that reach the file. -/
def Write.reached (line : String) : Write → List Char
  | .noDirectory | .nothing => []
  | .part left => line.toList.take (left + 1)
  | .whole => line.toList ++ ['\n']

/-- The members that the hash of a record is taken over. -/
def hashedMembers (eventType recordedAt payload : PyVal) : List (String × PyVal) :=
  [("event_type", eventType), ("recorded_at", recordedAt), ("payload", payload)]

/-- `sha256_hex(_prev_hash + canonical_json(...))`. -/
def recordHash (prevHash : String) (eventType recordedAt payload : PyVal) :
    Except PyError String := do
  return sha256Hex std
    (prevHash ++ (← canonicalJson std (.dict (hashedMembers eventType recordedAt payload))))

/-- `_append_event`: the log afterwards, and the hash that is returned unless an exception is
raised. The variable is set before the file is opened. -/
def appendEvent (log : KeyLog) (eventType : String) (payload : PyVal) (now : Nat) (write : Write) :
    KeyLog × Option String :=
  if write = .noDirectory then (log, none)
  else
    let recordedAt := .str (isoformat now)
    match recordHash std log.prevHash (.str eventType) recordedAt payload with
    | .error _ => (log, none)
    | .ok currentHash =>
        match canonicalJson std (.dict (hashedMembers (.str eventType) recordedAt payload ++
          [("prev_hash", .str log.prevHash), ("current_hash", .str currentHash)])) with
        | .error _ => ({ log with prevHash := currentHash }, none)
        | .ok line =>
            (⟨currentHash, log.text ++ write.reached line⟩,
              if write = .whole then some currentHash else none)

/-- `log_key_generation`. -/
def logKeyGeneration (log : KeyLog) (circuitHash provingKeyId verificationKeyId : String)
    (paramsK : Int) (backendVersion : String) (now : Nat) (write : Write) :
    KeyLog × Option String :=
  appendEvent std log "key_generation"
    (.dict [("circuit_hash", .str circuitHash), ("proving_key_id", .str provingKeyId),
      ("verification_key_id", .str verificationKeyId), ("params_k", .int paramsK),
      ("backend_version", .str backendVersion)]) now write

/-- `log_key_rotation`. -/
def logKeyRotation (log : KeyLog) (oldCircuitHash newCircuitHash provingKeyId verificationKeyId
    reason : String) (now : Nat) (write : Write) : KeyLog × Option String :=
  appendEvent std log "key_rotation"
    (.dict [("old_circuit_hash", .str oldCircuitHash), ("new_circuit_hash", .str newCircuitHash),
      ("proving_key_id", .str provingKeyId), ("verification_key_id", .str verificationKeyId),
      ("reason", .str reason)]) now write

/-- The process starts again: the module is loaded anew, the file is still there. -/
def restart (log : KeyLog) : KeyLog := { log with prevHash := zeroHash }

/-- What happens to a log. -/
inductive Action where
  | generation (circuitHash provingKeyId verificationKeyId : String) (paramsK : Int)
      (backendVersion : String) (now : Nat) (write : Write)
  | rotation (oldCircuitHash newCircuitHash provingKeyId verificationKeyId reason : String)
      (now : Nat) (write : Write)
  | restart

/-- One step of a run. -/
def step (log : KeyLog) : Action → KeyLog
  | .generation c p v k b now write => (logKeyGeneration std log c p v k b now write).1
  | .rotation o n p v r now write => (logKeyRotation std log o n p v r now write).1
  | .restart => log.restart

/-- A run of the log. -/
abbrev Run (trace : List (KeyLog × Action)) (log : KeyLog) : Prop :=
  Runs.Trace (fun log action log' => log' = step std log action) empty trace log

/-! ### Reading the log -/

/-- A line of the file as it is read back. -/
structure Record where
  eventType : JsonValue
  recordedAt : JsonValue
  payload : JsonValue
  prevHash : String
  currentHash : String

/-- The text as a value, if it is one. -/
def textOf? : JsonValue → Option String
  | .str s => some s
  | _ => none

variable (floats : JsonValue.FloatText)

/-- The record of a line. A line that is no JSON object, or lacks a member, has none. -/
def Record.ofLine (line : List Char) : Option Record :=
  match JsonValue.loads floats (String.ofList line) with
  | some (.obj members) => do
      let eventType ← members.lookup "event_type"
      let recordedAt ← members.lookup "recorded_at"
      let payload ← members.lookup "payload"
      let prevHash ← (← members.lookup "prev_hash") |> textOf?
      let currentHash ← (← members.lookup "current_hash") |> textOf?
      return ⟨eventType, recordedAt, payload, prevHash, currentHash⟩
  | _ => none

/-- The hash of a record recomputes from its line. -/
def Record.IsSealed (r : Record) : Prop :=
  recordHash std r.prevHash (.ofJsonValue r.eventType) (.ofJsonValue r.recordedAt)
    (.ofJsonValue r.payload) = .ok r.currentHash

/-- Records that form a chain. -/
abbrev Chained (records : List Record) : Prop :=
  Linked Record.prevHash Record.currentHash (Record.IsSealed std) zeroHash records

/-- **The lines of the file form one chain**: the first names 64 zeros, every other one the hash
of the line before it, and every hash recomputes from its line. -/
def IsHashChain (text : List Char) : Prop :=
  ∃ records, (lines text).map (Record.ofLine floats) = records.map some ∧ Chained std records

/-- The hash of the last line of the file, or 64 zeros. -/
def headOf (text : List Char) : String :=
  (((lines text).getLast?.bind (Record.ofLine floats)).map Record.currentHash).getD zeroHash

/-- No line is written in part, and a line is written only while `_prev_hash` is the hash of the
last line of the file. -/
def Write.Continues (log : KeyLog) : Write → Prop
  | .noDirectory | .nothing => True
  | .part _ => False
  | .whole => log.prevHash = headOf floats log.text

/-- How the file is written to, if it is. -/
def Action.write? : Action → Option Write
  | .generation _ _ _ _ _ _ write | .rotation _ _ _ _ _ _ write => some write
  | .restart => none

/-- The action continues the chain, or leaves the file alone. -/
def Action.Continues (log : KeyLog) (action : Action) : Prop :=
  ∀ write, action.write? = some write → write.Continues floats log

/-! ### What is written is read back -/

section RoundTrip

variable {std}

/-- A record as it is written: the members of a dictionary. -/
def recordJson (eventType recordedAt : String) (payload : Json) (prevHash currentHash : String) :
    Json :=
  .obj [("event_type", .str eventType), ("recorded_at", .str recordedAt), ("payload", payload),
    ("prev_hash", .str prevHash), ("current_hash", .str currentHash)]

theorem canonicalJson_hashedMembers (eventType recordedAt : String) (payload : Json) :
    canonicalJson std
        (.dict (hashedMembers (.str eventType) (.str recordedAt) (.ofJson payload))) =
      .ok (Sdk.Python.canonicalJson (Json.mapStrings std.nfc (.obj [("event_type", .str eventType),
        ("recorded_at", .str recordedAt), ("payload", payload)]))) := by
  rw [← server_canonicalJson]
  simp only [hashedMembers, PyVal.ofJson, PyVal.ofJsonMembers]

/-- The members that are hashed, read back and written again, give the text they gave before:
normalising and sorting change nothing the second time. -/
theorem canonicalJson_hashedMembers_reread (hnfc : ∀ s, std.nfc (std.nfc s) = std.nfc s)
    (eventType recordedAt : String) (payload : Json) :
    canonicalJson std (.dict (hashedMembers (.str (std.nfc eventType)) (.str (std.nfc recordedAt))
        (.ofJson (Json.sortKeys (Json.mapStrings std.nfc payload))))) =
      canonicalJson std
        (.dict (hashedMembers (.str eventType) (.str recordedAt) (.ofJson payload))) := by
  have hpayload : Json.sortKeys (Json.mapStrings std.nfc
      (Json.sortKeys (Json.mapStrings std.nfc payload))) =
        Json.sortKeys (Json.mapStrings std.nfc payload) := by
    rw [← Json.sortKeys_mapStrings, Json.mapStrings_mapStrings hnfc, Json.sortKeys_sortKeys]
  rw [canonicalJson_hashedMembers, canonicalJson_hashedMembers, Sdk.Python.canonicalJson,
    Sdk.Python.canonicalJson, Json.sortedText, Json.sortedText]
  simp only [Json.mapStrings, Json.mapStringsMembers, Json.sortKeys, Json.sortKeysMembers, hnfc,
    hpayload]

/-- The line of a record is read as that record, its texts normalised. -/
theorem ofLine_recordJson (floats : JsonValue.FloatText) (eventType recordedAt : String) {payload : Json}
    (hpayload : Json.KeysDistinct payload) (prevHash currentHash : String) {line : String}
    (hline : canonicalJson std (PyVal.ofJson
      (recordJson eventType recordedAt payload prevHash currentHash)) = .ok line) :
    IsPrintable line.toList ∧ Record.ofLine floats line.toList =
      some ⟨.str (std.nfc eventType), .str (std.nfc recordedAt),
        .ofJson (Json.sortKeys (Json.mapStrings std.nfc payload)),
        std.nfc prevHash, std.nfc currentHash⟩ := by
  rw [server_canonicalJson, Except.ok.injEq] at hline
  subst hline
  have hkeys : Json.KeysDistinct
      (recordJson eventType recordedAt payload prevHash currentHash) := by
    refine Json.keysDistinct_obj ?_ (by simp [Json.KeysDistinct, hpayload])
    show ["event_type", "recorded_at", "payload", "prev_hash", "current_hash"].Nodup
    decide
  refine ⟨?_, ?_⟩
  · rw [Sdk.Python.canonicalJson_toList]
    exact Json.text_isPrintable _
  -- the reader returns the sorted members, in which every key is found
  · have hwell := JsonValue.wellFormed_sortKeys
      (@JsonValue.wellFormed_ofJson floats _ (Json.keysDistinct_mapStrings std.nfc hkeys))
    have hloads := JsonValue.loads_text floats JsonValue.compact hwell
    rw [JsonValue.sortKeys_ofJson, JsonValue.text_ofJson, ← Json.sortedText,
      ← Sdk.Python.canonicalJson_toList] at hloads
    rw [Record.ofLine, hloads, recordJson, Json.mapStrings, ← JsonValue.sortKeys_ofJson,
      JsonValue.ofJson, JsonValue.sortKeys_obj, ← JsonValue.sortKeys_ofJson]
    have hnodup : ((JsonValue.ofJsonMembers (Json.mapStringsMembers std.nfc
        [("event_type", .str eventType), ("recorded_at", .str recordedAt), ("payload", payload),
          ("prev_hash", .str prevHash), ("current_hash", .str currentHash)])).map (·.1)).Nodup := by
      show ["event_type", "recorded_at", "payload", "prev_hash", "current_hash"].Nodup
      decide
    simp only [JsonValue.lookup_sorted hnodup]
    simp [Json.mapStringsMembers, JsonValue.ofJsonMembers, List.lookup_cons, Json.mapStrings,
      JsonValue.ofJson, JsonValue.sortKeys, textOf?]

/-- A line with a record that is sealed and names the hash that the module holds. -/
structure IsNext (std : PyStd) (floats : JsonValue.FloatText) (log : KeyLog) (line : String)
    (r : Record) : Prop where
  isPrintable : IsPrintable line.toList
  ofLine : Record.ofLine floats line.toList = some r
  prevHash : r.prevHash = log.prevHash
  isSealed : r.IsSealed std

/-- The hash of a sealed record is a digest. -/
theorem Record.IsSealed.exists_digest {r : Record} (h : r.IsSealed std) :
    ∃ text, r.currentHash = std.hexdigest text := by
  obtain ⟨text, -, hhash⟩ := Except.bind_eq_ok_iff.mp h
  exact ⟨_, (Except.ok.inj hhash).symm⟩

/-- **What a call of `_append_event` does**: nothing, or it sets the variable to the hash of a next
record and writes the line of that record as far as it can. -/
theorem appendEvent_cases (hnfc : ∀ s, std.nfc (std.nfc s) = std.nfc s) {log : KeyLog}
    (hlog : IsAscii log.prevHash.toList) (eventType : String) {payload : Json}
    (hpayload : Json.KeysDistinct payload) (now : Nat) (write : Write) :
    (write = .noDirectory ∧ (appendEvent std log eventType (.ofJson payload) now write).1 = log) ∨
      ∃ line r, IsNext std floats log line r ∧
        (appendEvent std log eventType (.ofJson payload) now write).1 =
          ⟨r.currentHash, log.text ++ write.reached line⟩ := by
  by_cases hdirectory : write = .noDirectory
  · refine .inl ⟨hdirectory, ?_⟩
    rw [appendEvent, if_pos hdirectory]
  · right
    obtain ⟨text, htext⟩ : ∃ text, canonicalJson std (.dict (hashedMembers (.str eventType)
        (.str (isoformat now)) (.ofJson payload))) = .ok text :=
      ⟨_, canonicalJson_hashedMembers eventType (isoformat now) payload⟩
    have hhash : recordHash std log.prevHash (.str eventType) (.str (isoformat now))
        (.ofJson payload) = .ok (sha256Hex std (log.prevHash ++ text)) := by
      rw [recordHash, htext]
      rfl
    obtain ⟨line, hline⟩ : ∃ line, canonicalJson std (PyVal.ofJson (recordJson eventType
        (isoformat now) payload log.prevHash (sha256Hex std (log.prevHash ++ text)))) = .ok line :=
      ⟨_, server_canonicalJson std _⟩
    obtain ⟨hprintable, hread⟩ := ofLine_recordJson floats eventType (isoformat now)
      hpayload _ _ hline
    have hcurrent : IsAscii (sha256Hex std (log.prevHash ++ text)).toList :=
      std.isAscii_hexdigest _
    rw [std.nfc_ascii _ hlog, std.nfc_ascii _ hcurrent] at hread
    -- the reread record is sealed although its texts were normalised: a second time changes nothing
    refine ⟨line, _, ⟨hprintable, hread, rfl, ?_⟩, ?_⟩
    · show recordHash std log.prevHash (.str (std.nfc eventType)) (.str (std.nfc (isoformat now)))
        (.ofJsonValue (.ofJson (Json.sortKeys (Json.mapStrings std.nfc payload)))) = _
      rw [PyVal.ofJsonValue_ofJson, recordHash, canonicalJson_hashedMembers_reread hnfc, htext]
      rfl
    · simp only [recordJson, PyVal.ofJson, PyVal.ofJsonMembers] at hline
      simp only [appendEvent, if_neg hdirectory, hhash, hashedMembers, List.cons_append,
        List.nil_append, hline]

end RoundTrip

/-! ### Continuing the chain -/

section Chain

variable {std floats}

/-- A file of whole lines is a chain when the records of its lines are. -/
theorem isHashChain_ofLines_iff {ls : List (List Char)} {records : List Record}
    (hprintable : ∀ line ∈ ls, IsPrintable line)
    (hread : ls.map (Record.ofLine floats) = records.map some) :
    IsHashChain std floats (ofLines ls) ↔ Chained std records := by
  have hlines := lines_ofLines fun line hline => (hprintable line hline).no_newline
  rw [IsHashChain, hlines, hread]
  constructor
  · intro ⟨records', heq, hchained⟩
    rwa [List.map_injective_iff.mpr (Option.some_injective _) heq]
  · intro hchained
    exact ⟨records, rfl, hchained⟩

theorem headOf_ofLines {ls : List (List Char)} {records : List Record}
    (hprintable : ∀ line ∈ ls, IsPrintable line)
    (hread : ls.map (Record.ofLine floats) = records.map some) :
    headOf floats (ofLines ls) = lastHash Record.currentHash zeroHash records := by
  have hlines := lines_ofLines fun line hline => (hprintable line hline).no_newline
  have hlast : ls.getLast?.bind (Record.ofLine floats) = records.getLast? := by
    have h := congrArg List.getLast? hread
    rw [List.getLast?_map, List.getLast?_map] at h
    cases hls : ls.getLast? with
    | none =>
        rw [hls] at h
        cases hrecords : records.getLast? with
        | none => rfl
        | some r =>
            rw [hrecords] at h
            cases h
    | some line =>
        rw [hls] at h
        cases hrecords : records.getLast? with
        | none =>
            rw [hrecords] at h
            cases h
        | some r =>
            rw [hrecords] at h
            exact Option.some.inj h
  rw [headOf, hlines, hlast, lastHash_eq_getLast?]

/-- The file consists of whole lines that form a chain, whatever hash the module holds. -/
structure Intact (std : PyStd) (floats : JsonValue.FloatText) (log : KeyLog) : Prop where
  isAscii_prevHash : IsAscii log.prevHash.toList
  exists_lines : ∃ ls records, log.text = ofLines ls ∧ (∀ line ∈ ls, IsPrintable line) ∧
    ls.map (Record.ofLine floats) = records.map some ∧ Chained std records

theorem Intact.isHashChain {log : KeyLog} (h : Intact std floats log) :
    IsHashChain std floats log.text := by
  obtain ⟨ls, records, htext, hprintable, hread, hchained⟩ := h.exists_lines
  rw [htext]
  exact (isHashChain_ofLines_iff hprintable hread).mpr hchained

theorem isAscii_zeroHash : IsAscii zeroHash.toList := by decide

theorem intact_empty : Intact std floats empty :=
  ⟨isAscii_zeroHash, [], [], rfl, by simp, rfl, trivial⟩

theorem Intact.restart {log : KeyLog} (h : Intact std floats log) : Intact std floats log.restart :=
  ⟨isAscii_zeroHash, h.exists_lines⟩

/-- With one more line the file still consists of whole lines. -/
theorem Intact.exists_append {log : KeyLog} (hlog : Intact std floats log) {line : String}
    {r : Record} (hr : IsNext std floats log line r) :
    ∃ ls records, log.text ++ (line.toList ++ ['\n']) = ofLines ls ∧
      (∀ line ∈ ls, IsPrintable line) ∧ ls.map (Record.ofLine floats) = records.map some ∧
      lastHash Record.currentHash zeroHash records = r.currentHash ∧
      (Chained std records ↔ log.prevHash = headOf floats log.text) := by
  obtain ⟨ls, records, htext, hprintable, hread, hchained⟩ := hlog.exists_lines
  refine ⟨ls ++ [line.toList], records ++ [r], ?_, ?_, ?_, lastHash_concat _ _ _ _, ?_⟩
  · rw [htext, ofLines_concat]
  · rw [List.forall_mem_append, List.forall_mem_singleton]
    exact ⟨hprintable, hr.isPrintable⟩
  · rw [List.map_append, List.map_append, hread, List.map_singleton, hr.ofLine]
    rfl
  · rw [htext, headOf_ofLines hprintable hread, Chained, linked_concat, hr.prevHash]
    constructor
    · intro h
      exact h.2.1
    · intro h
      exact ⟨hchained, h, hr.isSealed⟩

/-- **A line continues the chain exactly when `_prev_hash` is the hash of the line before it.** -/
theorem isHashChain_append_iff {log : KeyLog} (hlog : Intact std floats log) {line : String}
    {r : Record} (hr : IsNext std floats log line r) :
    IsHashChain std floats (log.text ++ (line.toList ++ ['\n'])) ↔
      log.prevHash = headOf floats log.text := by
  obtain ⟨ls, records, htext, hprintable, hread, -, hchained⟩ := hlog.exists_append hr
  rw [htext, isHashChain_ofLines_iff hprintable hread, hchained]

theorem headOf_append {log : KeyLog} (hlog : Intact std floats log) {line : String} {r : Record}
    (hr : IsNext std floats log line r) :
    headOf floats (log.text ++ (line.toList ++ ['\n'])) = r.currentHash := by
  obtain ⟨ls, records, htext, hprintable, hread, hlast, -⟩ := hlog.exists_append hr
  rw [htext, headOf_ofLines hprintable hread, hlast]

/-- A log that is written on in step stays intact. -/
theorem Intact.append {log : KeyLog} (hlog : Intact std floats log) {line : String} {r : Record}
    (hr : IsNext std floats log line r) {write : Write} (hwrite : write.Continues floats log) :
    Intact std floats ⟨r.currentHash, log.text ++ write.reached line⟩ := by
  have hascii : IsAscii r.currentHash.toList := by
    obtain ⟨text, htext⟩ := hr.isSealed.exists_digest
    rw [htext]
    exact std.isAscii_hexdigest text
  refine ⟨hascii, ?_⟩
  cases write with
  | noDirectory | nothing =>
      show ∃ ls records, log.text ++ [] = ofLines ls ∧ _
      rw [List.append_nil]
      exact hlog.exists_lines
  | part left => exact hwrite.elim
  | whole =>
      obtain ⟨ls, records, htext, hprintable, hread, -, hchained⟩ := hlog.exists_append hr
      exact ⟨ls, records, htext, hprintable, hread, hchained.mpr hwrite⟩

/-! ### Runs -/

/-- **What a step does**: the process starts again, or the line of a next record is written as
far as it can be, unless there is no directory for it. -/
theorem step_cases (floats : JsonValue.FloatText) (hnfc : ∀ s, std.nfc (std.nfc s) = std.nfc s)
    {log : KeyLog} (hlog : IsAscii log.prevHash.toList) (action : Action) :
    (action = .restart ∧ step std log action = log.restart) ∨
      ∃ write, action.write? = some write ∧
        ((write = .noDirectory ∧ step std log action = log) ∨
          ∃ line r, IsNext std floats log line r ∧
            step std log action = ⟨r.currentHash, log.text ++ write.reached line⟩) := by
  cases action with
  | generation c p v k b now write =>
      have hkeys : Json.KeysDistinct (.obj [("circuit_hash", .str c), ("proving_key_id", .str p),
          ("verification_key_id", .str v), ("params_k", .int k), ("backend_version", .str b)]) := by
        refine Json.keysDistinct_obj ?_ (by simp [Json.KeysDistinct])
        show ["circuit_hash", "proving_key_id", "verification_key_id", "params_k",
          "backend_version"].Nodup
        decide
      have hcases := appendEvent_cases floats hnfc hlog "key_generation" hkeys now write
      simp only [PyVal.ofJson, PyVal.ofJsonMembers] at hcases
      exact .inr ⟨write, rfl, hcases⟩
  | rotation o n p v r now write =>
      have hkeys : Json.KeysDistinct (.obj [("old_circuit_hash", .str o),
          ("new_circuit_hash", .str n), ("proving_key_id", .str p),
          ("verification_key_id", .str v), ("reason", .str r)]) := by
        refine Json.keysDistinct_obj ?_ (by simp [Json.KeysDistinct])
        show ["old_circuit_hash", "new_circuit_hash", "proving_key_id", "verification_key_id",
          "reason"].Nodup
        decide
      have hcases := appendEvent_cases floats hnfc hlog "key_rotation" hkeys now write
      simp only [PyVal.ofJson, PyVal.ofJsonMembers] at hcases
      exact .inr ⟨write, rfl, hcases⟩
  | restart => exact .inl ⟨rfl, rfl⟩

theorem Intact.step (hnfc : ∀ s, std.nfc (std.nfc s) = std.nfc s) {log : KeyLog}
    (hlog : Intact std floats log) {action : Action} (haction : action.Continues floats log) :
    Intact std floats (step std log action) := by
  obtain ⟨-, heq⟩ | ⟨write, hwrite, ⟨-, heq⟩ | ⟨line, r, hr, heq⟩⟩ :=
    step_cases floats hnfc hlog.isAscii_prevHash action
  · rw [heq]
    exact hlog.restart
  · rw [heq]
    exact hlog
  · rw [heq]
    exact hlog.append hr (haction write hwrite)

end Chain

/-- **The file stays one hash chain along a run** in which no line is written in part and every
line is written while `_prev_hash` is the hash of the last line of the file. Restarts and calls
that leave the file alone may come at any time. -/
theorem isHashChain_of_continues (floats : JsonValue.FloatText)
    (hnfc : ∀ s, std.nfc (std.nfc s) = std.nfc s) {trace : List (KeyLog × Action)} {log : KeyLog}
    (hrun : Run std trace log) (hcond : ∀ p ∈ trace, p.2.Continues floats p.1) :
    (∀ p ∈ trace, IsHashChain std floats p.1.text) ∧ IsHashChain std floats log.text := by
  have hkeep : ∀ (t : KeyLog) (action : Action) (u : KeyLog), Intact std floats t →
      u = step std t action → action.Continues floats t → Intact std floats u := by
    intro t action u ht hstep haction
    rw [hstep]
    exact ht.step hnfc haction
  obtain ⟨htrace, hlog⟩ := Runs.Trace.invariant hkeep intact_empty hrun hcond
  exact ⟨fun p hp => (htrace p hp).isHashChain, hlog.isHashChain⟩

/-! ### A process that starts again -/

section Sample

/-- The payload of the event that is written whenever the circuit is compiled. -/
def sampleGeneration (now : Nat) (write : Write) : Action :=
  .generation "4666a3f66bc600ad9f11fa871e13e32f1c0fe8ba9ad25265a449b0c983c589f1"
    "83ec18495fad36b7e2206ad0171fd3139c5d1ff513a318d1f95789d068df3ffb"
    "01a1d589a2df8a681d57d1c2761ddcb77eb7ac18be7c69e2eb17141303f7b64c" 6
    "halo2-plonk-pasta-v1" now write

/-- 01:02:03 on the first and on the second of January 2024. -/
def firstInstant : Nat := 63839664000000000 + 3723 * 1000000

def secondInstant : Nat := firstInstant + dayMicros

/-- What the event is hashed as after 64 zeros. -/
def sampleText (now : Nat) : String :=
  zeroHash ++ ((canonicalJson lengthStd (.dict (hashedMembers (.str "key_generation")
    (.str (isoformat now)) (.dict [
      ("circuit_hash", .str "4666a3f66bc600ad9f11fa871e13e32f1c0fe8ba9ad25265a449b0c983c589f1"),
      ("proving_key_id", .str "83ec18495fad36b7e2206ad0171fd3139c5d1ff513a318d1f95789d068df3ffb"),
      ("verification_key_id",
        .str "01a1d589a2df8a681d57d1c2761ddcb77eb7ac18be7c69e2eb17141303f7b64c"),
      ("params_k", .int 6), ("backend_version", .str "halo2-plonk-pasta-v1")])))).toOption).getD ""

/-- The digests of the two texts. -/
def sampleDigests : DigestTable where
  entries := [
    (sampleText firstInstant, "0fd1fdac3232af552598a3e0642fa9aee3e517214545e30734b11b95a2092b29"),
    (sampleText secondInstant, "31de593f2740df76b5a4abcbdf187dc18ce396bc8b2eec872f8250ff8e2fe9a5")]
  isDigest := by decide +kernel
  distinct := by decide +kernel

/-- The library with these digests. -/
def sampleStd : PyStd := { lengthStd with toSha256 := sampleDigests.sha }

/-- Floats as they are spelled. -/
def sampleFloats : JsonValue.FloatText := ⟨id, JsonValue.FloatText.id_id⟩

theorem sampleStd_nfc (s : String) : sampleStd.nfc (sampleStd.nfc s) = sampleStd.nfc s := rfl

theorem sampleStd_hexdigest_ne (s : String) : sampleStd.hexdigest s ≠ zeroHash :=
  sampleDigests.digest_ne (by simp [sampleDigests]; decide) (by decide) s

/-- A key is generated, the log of the next one does not get written, and the process ends. -/
theorem isHashChain_of_continues_sample :
    ∃ trace log, Run sampleStd trace log ∧
      trace.map (·.2) = [sampleGeneration firstInstant .whole,
        sampleGeneration secondInstant .nothing, .restart] ∧
      (∀ p ∈ trace, IsHashChain sampleStd sampleFloats p.1.text) ∧
      IsHashChain sampleStd sampleFloats log.text := by
  have hrun : Run sampleStd _ _ := (((Runs.Trace.nil.snoc rfl).snoc rfl).snoc rfl :
    Runs.Trace (fun log action log' => log' = step sampleStd log action) empty
      ((([] ++ [(empty, sampleGeneration firstInstant .whole)]) ++
        [(step sampleStd empty (sampleGeneration firstInstant .whole),
          sampleGeneration secondInstant .nothing)]) ++
        [(step sampleStd (step sampleStd empty (sampleGeneration firstInstant .whole))
          (sampleGeneration secondInstant .nothing), .restart)]) _)
  refine ⟨_, _, hrun, rfl, isHashChain_of_continues sampleStd sampleFloats sampleStd_nfc hrun ?_⟩
  simp only [List.nil_append, List.cons_append, List.forall_mem_cons, List.not_mem_nil,
    false_implies, implies_true, and_true]
  refine ⟨?_, ?_, ?_⟩
  · intro write hwrite
    cases hwrite
    show zeroHash = headOf sampleFloats []
    rfl
  · intro write hwrite
    cases hwrite
    trivial
  · intro write hwrite
    cases hwrite

/-- **A process that starts again starts the chain again**: the second line of the file names 64
zeros, not the hash of the first. -/
theorem restarted_log_is_no_chain :
    ∃ trace log, Run sampleStd trace log ∧
      trace.map (·.2) = [sampleGeneration firstInstant .whole, .restart,
        sampleGeneration secondInstant .whole] ∧
      ¬ IsHashChain sampleStd sampleFloats log.text := by
  have hwhole : ∀ {log : KeyLog} (now : Nat), Intact sampleStd sampleFloats log →
      ∃ line r, IsNext sampleStd sampleFloats log line r ∧
        step sampleStd log (sampleGeneration now .whole) =
          ⟨r.currentHash, log.text ++ (line.toList ++ ['\n'])⟩ := by
    intro log now hlog
    obtain ⟨hrestart, -⟩ | ⟨write, hwrite, ⟨hnone, -⟩ | hnext⟩ := step_cases sampleFloats
      sampleStd_nfc hlog.isAscii_prevHash (sampleGeneration now .whole)
    · cases hrestart
    · cases hwrite
      cases hnone
    · cases hwrite
      exact hnext
  obtain ⟨line, r, hr, hfirst⟩ := hwhole firstInstant intact_empty
  have hcontinues : Write.whole.Continues sampleFloats empty := by
    show zeroHash = headOf sampleFloats []
    rfl
  have hlog := intact_empty.append hr hcontinues
  obtain ⟨line', r', hr', hsecond⟩ := hwhole secondInstant hlog.restart
  refine ⟨_, _, ((Runs.Trace.nil.snoc hfirst.symm).snoc rfl).snoc hsecond.symm, rfl, ?_⟩
  -- the module holds 64 zeros, and the file ends with the digest of the first event
  show ¬ IsHashChain sampleStd sampleFloats (_ ++ (line'.toList ++ ['\n']))
  rw [isHashChain_append_iff hlog.restart hr']
  show zeroHash ≠ headOf sampleFloats (empty.text ++ (line.toList ++ ['\n']))
  rw [headOf_append intact_empty hr]
  obtain ⟨text, htext⟩ := hr.isSealed.exists_digest
  rw [htext]
  exact (sampleStd_hexdigest_ne text).symm

end Sample

end KeyLog

end Vrl
