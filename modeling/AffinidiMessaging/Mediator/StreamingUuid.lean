import AffinidiMessaging.Mediator.Conservation
import AffinidiMessaging.Mediator.Streaming

/-! # The uuid of a mediator in the registry

`get_hostname` takes the uuid from the configuration as it stands. A row of the registry is split at every
colon, so that with a colon in the uuid the row is written and never read.
-/

namespace AffinidiMessaging.Mediator

open Redis Text Fallible

/-- `hostname` is what the operating system answers: a name, that need not be text. -/
def getHostname (hostname : Except String (Except String String)) (hostName : String) : Except MediatorError String :=
  if "hostname://".toList.isPrefixOf hostName.toList then
    match hostname with
    | .ok (.ok name) => .ok name
    | .ok (.error e) | .error e => .error (.configError "NA" ("Couldn't get hostname. Reason: " ++ e))
  else if "string://".toList.isPrefixOf hostName.toList then .ok (String.ofList (hostName.toList.drop 9))
  else .error (.configError "NA" "Invalid hostname format!")

theorem getHostname_string (hostname : Except String (Except String String)) (u : String) :
    getHostname hostname ("string://" ++ u) = .ok u := by
  simp [getHostname, String.toList_append]

namespace DatabaseHandler

/-- The registry says what it said, whether its hash can be read or not. -/
theorem streamingIsClientLive_eq (env : Environment) (didHash : String) (force : Bool) (db : Db) :
    streamingIsClientLive env didHash force db =
      .ok ((field db .globalStreaming didHash).bind (liveRow · force)) db := by
  cases hRows : asHash (db .globalStreaming) with
  | ok rows =>
    have hRow : hget .globalStreaming didHash db = .ok (field db .globalStreaming didHash) db := by
      refine (ofKey_ok_iff _ _ _ _ _).mpr ⟨?_, rfl⟩
      simp only [hRows, ← lookup_of_asHash hRows]
      rfl
    have hQuery : attempt (query env "NA" "" (hget .globalStreaming didHash)) db =
        .ok (.ok (field db .globalStreaming didHash)) db := by
      rw [attempt, query_of_ok hRow]
    exact (bind_of_ok hQuery).trans rfl
  | error e =>
    have hRow : hget .globalStreaming didHash db = .error e db := by
      rw [hget, ofKey, hRows]
      rfl
    have hNone : field db .globalStreaming didHash = none := by
      unfold field
      split
      · rename_i fields hHash
        rw [hHash] at hRows
        cases hRows
      · rfl
    have hQuery : attempt (query env "NA" "" (hget .globalStreaming didHash)) db =
        .ok (.error (.databaseError "NA" ("" ++ env.describe e))) db := by
      rw [attempt, query_of_error hRow]
    rw [hNone]
    exact (bind_of_ok hQuery).trans rfl

/-- A row is read back unless the uuid has a colon: then it has more than two parts. -/
theorem liveRow_written {state : String} (hState : ':' ∉ state.toList) (uuid : String) (force : Bool) :
    liveRow (uuid ++ ":" ++ state) force =
      if ':' ∉ uuid.toList ∧ (state = "TRUE" ∨ force = true) then some uuid else none := by
  have hParts : splitAll ':' (uuid ++ ":" ++ state) = splitAll ':' uuid ++ [state] := by
    rw [← splitAll_of_not_mem hState]
    exact splitAll_append ':' uuid state
  unfold liveRow
  rw [hParts]
  by_cases hColon : ':' ∈ uuid.toList
  · rw [if_neg fun h => h.1 hColon]
    rcases hSplit : splitAll ':' uuid with _ | ⟨part, _ | ⟨second, _ | ⟨third, rest⟩⟩⟩
    · exact absurd hSplit (splitAll_ne_nil ':' uuid)
    · exact absurd hColon (splitAll_eq_singleton_iff.mp ⟨part, hSplit⟩)
    · rfl
    · rfl
  · rw [splitAll_of_not_mem hColon]
    simp [hColon]

/-- The client of the row is the mediator's, and live or not. -/
def Decodes (env : Environment) (didHash uuid : String) (live : Bool) (db : Db) : Prop :=
  streamingIsClientLive env didHash false db = .ok (if live then some uuid else none) db ∧
  streamingIsClientLive env didHash true db = .ok (some uuid) db

section
variable {env : Environment} {didHash uuid : String} {db db' : Db}

theorem decodes_iff {live : Bool}
    (hRow : field db .globalStreaming didHash = some (uuid ++ ":" ++ if live then "TRUE" else "FALSE")) :
    Decodes env didHash uuid live db ↔ ':' ∉ uuid.toList := by
  have hState : ':' ∉ (if live then "TRUE" else "FALSE").toList := by cases live <;> decide
  unfold Decodes
  rw [streamingIsClientLive_eq, streamingIsClientLive_eq, hRow, Option.bind_some, Option.bind_some,
    liveRow_written hState, liveRow_written hState]
  by_cases hColon : ':' ∈ uuid.toList
  · simp [hColon]
  · cases live <;> simp [hColon]

theorem row_of_hset {row : String} (h : hset .globalStreaming [(didHash, row)] db = .ok () db') :
    field db' .globalStreaming didHash = some row :=
  (field_of_hset h didHash).trans (if_pos rfl)

theorem row_of_registerClient (h : streamingRegisterClient env didHash uuid db = .ok () db') :
    field db' .globalStreaming didHash = some (uuid ++ ":FALSE") := by
  rw [streamingRegisterClient, Mediator.query_ok_iff, exec_cons_ok_iff] at h
  obtain ⟨added, -, h⟩ := h
  obtain ⟨written, hSet, h⟩ := (exec_cons_ok_iff _ _ _ _ _).mp h
  cases h
  exact row_of_hset hSet

theorem row_of_startLive (h : streamingStartLive env didHash uuid db = .ok () db') :
    field db' .globalStreaming didHash = some (uuid ++ ":" ++ "TRUE") :=
  row_of_hset ((Mediator.query_ok_iff _ _ _ _ _ _ _).mp h)

theorem row_of_stopLive (h : streamingStopLive env didHash uuid db = .ok () db') :
    field db' .globalStreaming didHash = some (uuid ++ ":" ++ "FALSE") :=
  row_of_hset ((Mediator.query_ok_iff _ _ _ _ _ _ _).mp h)

end

/-- What is registered under a configured uuid is read back exactly if the uuid has no colon. -/
theorem registered_decodes_iff {hostname : Except String (Except String String)} {hostName uuid : String}
    (_ : getHostname hostname hostName = .ok uuid) (env : Environment) (didHash : String) (db db' : Db) :
    (streamingRegisterClient env didHash uuid db = .ok () db' →
      (Decodes env didHash uuid false db' ↔ ':' ∉ uuid.toList)) ∧
    (streamingStopLive env didHash uuid db = .ok () db' →
      (Decodes env didHash uuid false db' ↔ ':' ∉ uuid.toList)) ∧
    (streamingStartLive env didHash uuid db = .ok () db' →
      (Decodes env didHash uuid true db' ↔ ':' ∉ uuid.toList)) := by
  refine ⟨fun h => decodes_iff ?_, fun h => decodes_iff ?_, fun h => decodes_iff ?_⟩
  · rw [row_of_registerClient h, String.append_assoc]
    rfl
  · exact row_of_stopLive h
  · exact row_of_startLive h

end DatabaseHandler

theorem streamable_empty : Streamable fun _ => none where
  entries := ⟨[], rfl⟩
  sessions _ := ⟨[], rfl⟩

theorem registered_decodes_m : ∃ db',
    DatabaseHandler.streamingRegisterClient sampleEnvironment "alice" "m" (fun _ => none) = .ok () db' ∧
      DatabaseHandler.Decodes sampleEnvironment "alice" "m" false db' := by
  obtain ⟨db', hRun, -⟩ := RegistryOp.run_refines sampleEnvironment "m" (.register "alice") streamable_empty
  have hUuid := getHostname_string (.error "") "m"
  obtain ⟨hRegister, -⟩ := DatabaseHandler.registered_decodes_iff hUuid sampleEnvironment "alice" (fun _ => none) db'
  exact ⟨db', hRun, (hRegister hRun).mpr (by decide)⟩

/-- With an address and a port for a uuid, a client that is live is not found. -/
theorem live_not_decoded : getHostname (.error "") "string://localhost:7037" = .ok "localhost:7037" ∧ ∃ db',
    DatabaseHandler.streamingStartLive sampleEnvironment "alice" "localhost:7037" (fun _ => none) = .ok () db' ∧
      DatabaseHandler.streamingIsClientLive sampleEnvironment "alice" true db' = .ok none db' := by
  obtain ⟨db', hRun, -⟩ :=
    RegistryOp.run_refines sampleEnvironment "localhost:7037" (.startLive "alice") streamable_empty
  refine ⟨getHostname_string (.error "") "localhost:7037", db', hRun, ?_⟩
  have hRow := DatabaseHandler.row_of_startLive hRun
  rw [DatabaseHandler.streamingIsClientLive_eq, hRow, Option.bind_some,
    DatabaseHandler.liveRow_written (by decide : ':' ∉ "TRUE".toList), if_neg fun h => h.1 (by decide)]

end AffinidiMessaging.Mediator
