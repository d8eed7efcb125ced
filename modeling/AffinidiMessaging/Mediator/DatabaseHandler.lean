import AffinidiMessaging.Mediator.Functions

/-! # The database handler

The calls the mediator makes on its store: each sends one command or one
transaction to Redis and turns a rejection into an error of the mediator.
-/

namespace AffinidiMessaging.Mediator

open Redis Text Fallible

inductive MediatorError
  | databaseError (sessionId text : String)
  | internalError (sessionId text : String)
  | parseError (sessionId subject text : String)
  | requestDataError (sessionId text : String)
  | unauthorized (sessionId text : String)
  | configError (sessionId text : String)
  | messageUnpackError (sessionId text : String)
  | messageExpired (sessionId expiry now : String)
  | sessionError (sessionId text : String)
  | messagePackError (sessionId text : String)
  | notImplemented (sessionId text : String)
  | permissionError (sessionId text : String)
deriving DecidableEq, Repr

def MediatorError.text : MediatorError → String
  | .databaseError _ text => "Database Error: " ++ text
  | .internalError _ text => text
  | .parseError _ subject text => "Couldn't parse (" ++ subject ++ "). Reason: " ++ text
  | .requestDataError _ text => "Request is invalid: " ++ text
  | .unauthorized _ text => "Unauthorized: " ++ text
  | .configError _ text => "Configuration Error: " ++ text
  | .messageUnpackError _ text => "Message unpack error: " ++ text
  | .messageExpired _ expiry now => "MessageExpired: expiry(" ++ expiry ++ ") now(" ++ now ++ ")"
  | .sessionError sessionId text => "Authorization Session (" ++ sessionId ++ ") error: " ++ text
  | .messagePackError _ text => "Message pack error: " ++ text
  | .notImplemented _ text => "Feature not implemented: " ++ text
  | .permissionError _ text => "Permission Error: " ++ text

abbrev Handler := EStateM MediatorError Db

/-- What the mediator stores is packed, or a forwarded JSON value: a text that is not empty. -/
structure PackedMessage where
  text : String
  nonempty : text ≠ ""

/-- What the handler uses of the libraries it is built on: the SHA-256 digest in hexadecimal, the
number reading of C, and the text the client prints for a rejected command. -/
structure Environment where
  digest : String → String
  digest_size : ∀ text, (digest text).utf8ByteSize = 64
  strtod : String → Option LuaNumber
  describe : RedisError → String

/-- Redis closes the connection on an argument of more than 512 MB. -/
def protoMaxBulkLen : Nat := 512 * 1024 * 1024

def fcall {α : Type} (f : List String → List String → Script α) (keys args : List String) : Script α :=
  if (keys ++ args).all (·.utf8ByteSize ≤ protoMaxBulkLen) then f keys args
  else throw (.reply "Protocol error: invalid bulk length")

structure MessageListElement where
  msgId : String := ""
  sendId : Option String := none
  receiveId : Option String := none
  size : Nat := 0
  timestamp : Nat := 0
  toAddress : Option String := none
  fromAddress : Option String := none
  msg : Option String := none
deriving DecidableEq, Repr

/-- `parse::<u64>().unwrap_or(0)`. -/
def parseU64 (s : String) : Nat :=
  let digits := match s.toList with
    | '+' :: rest => String.ofList rest
    | _ => s
  match parseNat digits with
  | some n => if n < 2 ^ 64 then n else 0
  | none => 0

/-- The elements two by two; a last one without a partner is dropped. -/
def tuples : List String → List (String × String)
  | k :: v :: rest => (k, v) :: tuples rest
  | _ => []

inductive FetchDeletePolicy
  | optimistic
  | onReceive
  | doNotDelete
deriving DecidableEq, Repr

structure FetchOptions where
  limit : Nat := 10
  startId : Option String := none
  deletePolicy : FetchDeletePolicy := .doNotDelete

structure GetMessagesResponse where
  success : List MessageListElement := []
  getErrors : List (String × String) := []
  deleteErrors : List (String × String) := []

namespace DatabaseHandler

variable (env : Environment)

/-- Send a command; its rejection is an error of the mediator. -/
def query {α : Type} (sessionId context : String) (c : Script α) : Handler α := fun db =>
  match c db with
  | .ok a db' => .ok a db'
  | .error e db' => .error (.databaseError sessionId (context ++ env.describe e)) db'

/-- The arguments of `store_message` after the key. -/
def storeArgs (message toDid : String) (fromDid : Option String) : List String :=
  [message, message.utf8ByteSize.repr, toDid, env.digest toDid] ++
    match fromDid with
    | some fromDid => [fromDid, env.digest fromDid]
    | none => ["ANONYMOUS"]

def storeMessage (time : ServerTime) (sessionId message toDid : String) (fromDid : Option String) :
    Handler String := do
  let messageHash := env.digest message
  let _ ← query env sessionId "Couldn't store message in database: "
    (fcall (Mediator.storeMessage env.strtod time) [messageHash]
      (storeArgs env message toDid fromDid))
  return messageHash

def getField (message : MessageListElement) (k v : String) : MessageListElement :=
  match k with
  | "MSG_ID" => { message with msgId := v }
  | "BYTES" => { message with size := parseU64 v }
  | "FROM" => { message with fromAddress := some v }
  | "TO" => { message with toAddress := some v }
  | "TIMESTAMP" => { message with timestamp := parseU64 v }
  | "SEND_ID" => { message with sendId := some v }
  | "RECEIVE_ID" => { message with receiveId := some v }
  | _ => message

/-- The second HINCRBY of the pipeline lacks its key, so Redis discards the transaction. -/
def updateSendStats (sentBytes : Nat) : Script Unit :=
  multi [.command (hincrby .global "SENT_BYTES" (toString (sentBytes : Int))), .malformed]

/-- GET and HGETALL in one transaction. -/
def readMessage (msgId : String) : Script (Option String × Fields) := do
  return (← get (.msg msgId), ← hgetall (.msgMeta msgId))

def listElement (msgId body : String) (metadata : Fields) : MessageListElement :=
  metadata.foldl (fun message p => getField message p.1 p.2) { msgId := msgId, msg := some body }

/-- The message goes to its sender and to its receiver only. -/
def deliver (didHash : String) (message : MessageListElement) : Handler MessageListElement :=
  if didHash = message.fromAddress.getD "" ∨ didHash = message.toAddress.getD "" then do
    let _ ← attempt (query env "INTERNAL" "Couldn't update GLOBAL SEND stats. Reason: "
      (updateSendStats message.size))
    return message
  else throw (.databaseError didHash ("Message not found for DID: " ++ didHash))

def getMessage (didHash msgId : String) : Handler MessageListElement := do
  let answer ← query env "NA" ("Couldn't get message_id(" ++ msgId ++ ") from database: ")
    (readMessage msgId)
  match answer.1 with
  | none => throw (.databaseError didHash ("Message not found for ID: " ++ msgId))
  | some body => deliver env didHash (listElement msgId body answer.2)

def deleteMessage (sessionId didHash messageHash : String) : Handler Unit := do
  let response ← query env didHash
    ("Couldn't delete message_id(" ++ messageHash ++ ") from database for DID " ++ didHash ++ ": ")
    (fcall (Mediator.deleteMessage env.strtod) [messageHash] [didHash])
  if response = "OK" then pure () else throw (.databaseError sessionId response)

def fetchedField (message : MessageListElement) (k v : String) : MessageListElement :=
  match k with
  | "MSG_ID" => { message with msgId := v }
  | "META_SEND_ID" => { message with sendId := some v }
  | "META_RECEIVE_ID" => { message with receiveId := some v }
  | "META_BYTES" => { message with size := parseU64 v }
  | "META_TIMESTAMP" => { message with timestamp := parseU64 v }
  | "META_TO" => { message with toAddress := some v }
  | "FROM_DID" => { message with fromAddress := some v }
  | "MSG" => { message with msg := some v }
  | _ => message

def fetched (subItem : List String) : MessageListElement :=
  (tuples subItem).foldl (fun message p => fetchedField message p.1 p.2) {}

def noteDelete (msgId : String) (outcome : Except MediatorError Unit)
    (messages : GetMessagesResponse) : GetMessagesResponse :=
  match outcome with
  | .ok () => messages
  | .error e => { messages with deleteErrors := messages.deleteErrors ++ [(msgId, e.text)] }

/-- One element of the answer of `fetch_messages`, deleted at once when the policy says so. -/
def fetchOne (sessionId didHash : String) (policy : FetchDeletePolicy) (subItem : List String)
    (messages : GetMessagesResponse) : Handler GetMessagesResponse :=
  let message := fetched subItem
  let succeed (messages : GetMessagesResponse) : GetMessagesResponse :=
    { messages with success := messages.success ++ [message] }
  match policy with
  | .optimistic => do
    let outcome ← attempt (deleteMessage env sessionId didHash message.msgId)
    return succeed (noteDelete message.msgId outcome messages)
  | _ => return succeed messages

def fetchAll (sessionId didHash : String) (policy : FetchDeletePolicy) :
    List (List String) → GetMessagesResponse → Handler GetMessagesResponse
  | [], messages => pure messages
  | subItem :: rest, messages => do
    let messages ← fetchOne env sessionId didHash policy subItem messages
    fetchAll sessionId didHash policy rest messages

def fetchMessages (sessionId didHash : String) (options : FetchOptions) :
    Handler GetMessagesResponse := do
  let results ← query env "NA" "Couldn't fetch_messages() from database: "
    (fcall Mediator.fetchMessages [didHash] [options.startId.getD "-", options.limit.repr])
  fetchAll env sessionId didHash options.deletePolicy results {}

end DatabaseHandler

end AffinidiMessaging.Mediator
