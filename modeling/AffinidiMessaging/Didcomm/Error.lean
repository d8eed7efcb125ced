import AffinidiMessaging.Library.Fallible

/-! # Errors and panics

A function of the crate ends with a value, with an error or with a panic. An error
carries the texts of its sources, the outermost first.
-/

namespace AffinidiMessaging.Didcomm

inductive ErrorKind
  | didNotResolved
  | didUrlNotFound
  | secretNotFound
  | malformed
  | ioError
  | invalidState
  | noCompatibleCrypto
  | unsupported
  | illegalArgument
  | tooManyCryptoOperations
deriving DecidableEq, Repr

def ErrorKind.text : ErrorKind → String
  | .didNotResolved => "DID not resolved"
  | .didUrlNotFound => "DID URL not found"
  | .secretNotFound => "Secret not found"
  | .malformed => "Malformed"
  | .ioError => "IO error"
  | .invalidState => "Invalid state"
  | .noCompatibleCrypto => "No compatible crypto"
  | .unsupported => "Unsupported crypto or method"
  | .illegalArgument => "Illegal argument"
  | .tooManyCryptoOperations => "Too many crypto operations"

structure Error where
  kind : ErrorKind
  source : List String
deriving DecidableEq, Repr

def Error.text (e : Error) : String := e.kind.text ++ ": " ++ ": ".intercalate e.source

/-- The places where the code gives up: an `unwrap` on `None` or on an error, a slice that is
out of range. -/
inductive Panic
  | publicKeyJwkMissing
  | publicKeyJwkMalformed
  | senderKeyMissing
  | senderKidMissing
  | splitOutOfRange
  | removeOutOfRange
deriving DecidableEq, Repr

inductive Fault
  | error (e : Error)
  | panic (p : Panic)
deriving DecidableEq, Repr

abbrev Result := Except Fault

def errMsg (kind : ErrorKind) (msg : String) : Fault := .error ⟨kind, [msg]⟩

/-- `map_err(|err| Error::msg(kind, format!("{}: {}", msg, err.message())))` -/
def messageOf {α : Type} (kind : ErrorKind) (msg : String) : Except String α → Result α
  | .ok a => .ok a
  | .error e => .error (errMsg kind (msg ++ ": " ++ e))

namespace Result

variable {α : Type}

/-- `kind` for the error of another crate. -/
def ofKind (kind : ErrorKind) (msg : String) : Except String α → Result α
  | .ok a => .ok a
  | .error e => .error (.error ⟨kind, [msg, e]⟩)

/-- `kind` for an error of this crate, which becomes a source of the new one. -/
def kind (kind : ErrorKind) (msg : String) : Result α → Result α
  | .error (.error e) => .error (.error ⟨kind, msg :: e.text :: e.source⟩)
  | r => r

def context (msg : String) : Result α → Result α
  | .error (.error e) => .error (.error ⟨e.kind, msg :: e.source⟩)
  | r => r

/-- A call that cannot panic. -/
def ofError : Except Error α → Result α
  | .ok a => .ok a
  | .error e => .error (.error e)

def unwrap (site : Panic) : Option α → Result α
  | some a => .ok a
  | none => .error (.panic site)

end Result

end AffinidiMessaging.Didcomm
