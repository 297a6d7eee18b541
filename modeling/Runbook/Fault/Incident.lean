import Runbook.Value.Display

/-! Failures that arise outside the workflow engine: in the system, in a collaborator or in a value of
the wrong kind. Each kind has a label, which stands for the failure where it has no text of its own. -/

namespace Runbook

/-- A `value` failure is one of the engine or of a collaborator, a `refusedValue` one of a reader or of the
system beneath. -/
inductive IncidentKind where
  | timeout
  | permission
  | connection
  | connectionRefused
  | connectionReset
  | connectionAborted
  | brokenPipe
  | fileMissing
  | fileExists
  | isDirectory
  | notDirectory
  | interruptedCall
  | childProcess
  | processLookup
  | wouldBlock
  | system
  | value
  | refusedValue
  | textDecoding
  | textEncoding
  | json
  | toml
  | pattern
  | type
  | key
  | index
  | lookup
  | member
  | overflow
  | arithmetic
  | recursion
  | notImplemented
  | assertion
  | memory
  | end_
  | plain
  | runtime
  | cancelled
  | interrupt
  | exit
  | readTimeout
  | writeTimeout
  | connectTimeout
  | poolTimeout
  | connectFailed
  | readFailed
  | writeFailed
  | remoteProtocol
  | badUrl
  | statusRejected
  | badReply
  | processTimeout
  | processSpawn
  | hostingRejected
  | hostingUnavailable
  | agentTimeout
  | agentUnavailable
  | yamlReader
  | yamlScanner
  | yamlParser
  | yamlComposer
  | yamlConstructor
  | schema
  | serialization
  | other (label : String)
deriving DecidableEq, Repr

namespace IncidentKind

def label : IncidentKind → String
  | .timeout => "TimeoutError"
  | .permission => "PermissionError"
  | .connection => "ConnectionError"
  | .connectionRefused => "ConnectionRefusedError"
  | .connectionReset => "ConnectionResetError"
  | .connectionAborted => "ConnectionAbortedError"
  | .brokenPipe => "BrokenPipeError"
  | .fileMissing => "FileNotFoundError"
  | .fileExists => "FileExistsError"
  | .isDirectory => "IsADirectoryError"
  | .notDirectory => "NotADirectoryError"
  | .interruptedCall => "InterruptedError"
  | .childProcess => "ChildProcessError"
  | .processLookup => "ProcessLookupError"
  | .wouldBlock => "BlockingIOError"
  | .system => "OSError"
  | .value => "ValueError"
  | .refusedValue => "ValueError"
  | .textDecoding => "UnicodeDecodeError"
  | .textEncoding => "UnicodeEncodeError"
  | .json => "JSONDecodeError"
  | .toml => "TOMLDecodeError"
  | .pattern => "error"
  | .type => "TypeError"
  | .key => "KeyError"
  | .index => "IndexError"
  | .lookup => "LookupError"
  | .member => "AttributeError"
  | .overflow => "OverflowError"
  | .arithmetic => "ZeroDivisionError"
  | .recursion => "RecursionError"
  | .notImplemented => "NotImplementedError"
  | .assertion => "AssertionError"
  | .memory => "MemoryError"
  | .end_ => "EOFError"
  | .plain => "Exception"
  | .runtime => "RuntimeError"
  | .cancelled => "CancelledError"
  | .interrupt => "KeyboardInterrupt"
  | .exit => "SystemExit"
  | .readTimeout => "ReadTimeout"
  | .writeTimeout => "WriteTimeout"
  | .connectTimeout => "ConnectTimeout"
  | .poolTimeout => "PoolTimeout"
  | .connectFailed => "ConnectError"
  | .readFailed => "ReadError"
  | .writeFailed => "WriteError"
  | .remoteProtocol => "RemoteProtocolError"
  | .badUrl => "InvalidURL"
  | .statusRejected => "HTTPStatusError"
  | .badReply => "ResponseError"
  | .processTimeout => "ProcessTimeoutError"
  | .processSpawn => "ProcessSpawnError"
  | .hostingRejected => "HostingRejectedError"
  | .hostingUnavailable => "HostingUnavailableError"
  | .agentTimeout => "AgentTimeoutError"
  | .agentUnavailable => "AgentUnavailableError"
  | .yamlReader => "ReaderError"
  | .yamlScanner => "ScannerError"
  | .yamlParser => "ParserError"
  | .yamlComposer => "ComposerError"
  | .yamlConstructor => "ConstructorError"
  | .schema => "ValidationError"
  | .serialization => "PydanticSerializationError"
  | .other label => label

/-- The kinds with a fixed label that a failure can be asked for by name. -/
def named : List IncidentKind :=
  [.timeout, .permission, .connection, .connectionRefused, .connectionReset, .connectionAborted,
    .brokenPipe, .fileMissing, .fileExists, .isDirectory, .notDirectory, .interruptedCall,
    .childProcess, .processLookup, .wouldBlock, .system, .value, .textDecoding, .textEncoding,
    .json, .toml, .pattern, .type, .key, .index, .lookup, .member, .overflow, .arithmetic,
    .recursion, .notImplemented, .assertion, .memory, .end_, .plain, .runtime, .cancelled,
    .interrupt, .exit, .readTimeout, .writeTimeout, .connectTimeout, .poolTimeout, .connectFailed,
    .readFailed, .writeFailed, .remoteProtocol, .badUrl, .statusRejected, .badReply,
    .processTimeout, .processSpawn, .hostingRejected, .hostingUnavailable, .agentTimeout,
    .agentUnavailable, .yamlReader, .yamlScanner, .yamlParser, .yamlComposer, .yamlConstructor,
    .serialization]

def ofLabel (label : String) : IncidentKind :=
  (named.find? (·.label == label)).getD (.other label)

/-- The engine stops at once instead of recording a failed step. -/
def isAbrupt : IncidentKind → Bool
  | .cancelled => true
  | .interrupt => true
  | .exit => true
  | _ => false

def isTransportTimeout : IncidentKind → Bool
  | .readTimeout => true
  | .writeTimeout => true
  | .connectTimeout => true
  | .poolTimeout => true
  | _ => false

/-- The request did not get an answer; timeouts are among these failures. -/
def isTransport (k : IncidentKind) : Bool :=
  k.isTransportTimeout ||
    match k with
    | .connectFailed => true
    | .readFailed => true
    | .writeFailed => true
    | .remoteProtocol => true
    | _ => false

def isConnection : IncidentKind → Bool
  | .connection => true
  | .connectionRefused => true
  | .connectionReset => true
  | .connectionAborted => true
  | .brokenPipe => true
  | _ => false

/-- Failures that the operating system reports. -/
def isSystem (k : IncidentKind) : Bool :=
  k.isConnection ||
    match k with
    | .timeout => true
    | .permission => true
    | .fileMissing => true
    | .fileExists => true
    | .isDirectory => true
    | .notDirectory => true
    | .interruptedCall => true
    | .childProcess => true
    | .processLookup => true
    | .wouldBlock => true
    | .system => true
    | _ => false

/-- Failures of a value that has the right type and no sense. -/
def isValue : IncidentKind → Bool
  | .value => true
  | .refusedValue => true
  | .textDecoding => true
  | .textEncoding => true
  | .json => true
  | .toml => true
  | .schema => true
  | _ => false

/-- The kind of a system failure by its number. -/
def ofErrno (n : Int) : IncidentKind :=
  if n = 1 ∨ n = 13 then .permission
  else if n = 2 then .fileMissing
  else if n = 3 then .processLookup
  else if n = 4 then .interruptedCall
  else if n = 10 then .childProcess
  else if n = 11 ∨ n = 114 ∨ n = 115 then .wouldBlock
  else if n = 17 then .fileExists
  else if n = 20 then .notDirectory
  else if n = 21 then .isDirectory
  else if n = 32 ∨ n = 108 then .brokenPipe
  else if n = 103 then .connectionAborted
  else if n = 104 then .connectionReset
  else if n = 110 then .timeout
  else if n = 111 then .connectionRefused
  else .system

end IncidentKind

/-- The status of a rejection by the hosting service and whether its absence was a timeout are kept
beside the text. -/
structure Incident where
  kind : IncidentKind
  text : String
  status : Int := 0
  timedOut : Bool := false
deriving DecidableEq, Repr

namespace Incident

/-- The text, or the label of the kind if there is none. -/
def message (i : Incident) : String := if i.text.isEmpty then i.kind.label else i.text

/-- A system failure about a path. -/
def ofPath (errno : Nat) (reason path : String) : Incident where
  kind := .ofErrno errno
  text := s!"[Errno {errno}] {reason}: " ++ Text.quoted path

def missing (path : String) : Incident := ofPath 2 "No such file or directory" path

def directory (path : String) : Incident := ofPath 21 "Is a directory" path

def notDirectory (path : String) : Incident := ofPath 20 "Not a directory" path

def exists_ (path : String) : Incident := ofPath 17 "File exists" path

/-- The text of a failure raised with several parts. -/
def textOfParts (kind : IncidentKind) (parts : List Value) : String :=
  match parts with
  | [] => ""
  | [one] => if kind = .key then one.inner else one.display
  | [number, reason] =>
    if kind.isSystem then "[Errno " ++ number.display ++ "] " ++ reason.display
    else (Value.tuple parts).inner
  | number :: reason :: path :: _ =>
    if kind.isSystem then
      "[Errno " ++ number.display ++ "] " ++ reason.display ++ ": " ++ path.inner
    else (Value.tuple parts).inner

/-- A failure raised with several parts; a system failure takes its kind from its number. -/
def ofParts (kind : IncidentKind) (parts : List Value) : Incident where
  kind :=
    match kind, parts with
    | .system, .int n :: _ :: _ => .ofErrno n
    | _, _ => kind
  text := textOfParts kind parts

end Incident

end Runbook
