import IssueSync.Data.ValueText
/-!
Why an operation failed. `Problem` holds the failures the program itself reports about servers,
connections, bindings and findings; `Failure` adds the failures of reading values of the wrong kind
or shape, of files and of configuration text. Each failure has a kind, the name under which it is
reported, and a message.
-/
namespace IssueSync

/-- Which operation a failed push or server call belonged to. -/
inductive FailedStage where
  | operation
  | statusChange
  | comment
deriving DecidableEq, Repr

/-- Failures the program reports about its servers and records. -/
inductive Problem where
  | unknownConnection (connection : String)
  | unknownBinding (scope : String)
  | notFound (key : String)
  | malformedResponse
  /-- A request failed, with the HTTP status when the server answered. -/
  | transport (message : String) (status : Option Nat)
  /-- An operation failed, with the failure of the server call that caused it. -/
  | failed (stage : FailedStage) (message : String) (cause : Option Problem)
deriving Repr

namespace Problem

/-- The machine-readable kind of a problem. -/
def kind : Problem → String
  | .unknownConnection _ => "unknown_connection"
  | .unknownBinding _ => "unknown_binding"
  | .notFound _ => "not_found"
  | .malformedResponse => "malformed_response"
  | .transport _ _ => "transport"
  | .failed .operation _ _ => "operation_failed"
  | .failed .statusChange _ _ => "status_change_failed"
  | .failed .comment _ _ => "comment_failed"

/-- The message of a problem; a failed operation appends the message of its cause. -/
def message : Problem → String
  | .unknownConnection c => s!"Connection with ID '{c}' does not exist"
  | .unknownBinding s => s!"Binding for configuration scope ID '{s}' does not exist"
  | .notFound k => s!"No issue found with key '{k}'"
  | .malformedResponse => "Unexpected body received"
  | .transport m _ => m
  | .failed _ m none => m
  | .failed _ m (some c) => if c.message.isEmpty then m else m ++ ": " ++ c.message

/-- Unknown connections and bindings: a request named something that does not exist. -/
def isPrecondition : Problem → Bool
  | .unknownConnection _ | .unknownBinding _ => true
  | _ => false

end Problem

/-- The kinds of file-system failure. -/
inductive FileFault where
  | isDirectory
  | exists
  | notDirectory
deriving DecidableEq, Repr

/-- The kinds of failure of reading configuration text, by the stage that found the fault. -/
inductive TextFault where
  | reader
  | scanner
  | parser
  | composer
  | constructor
deriving DecidableEq, Repr

/-- Every way an operation can fail. -/
inductive Failure where
  | problem (p : Problem)
  /-- A value of the right kind with a wrong content. -/
  | badValue (message : String)
  /-- A value of a kind that lacks an operation. -/
  | badAttribute (message : String)
  /-- A value of the wrong kind. -/
  | badType (message : String)
  /-- A missing key of a mapping. -/
  | missingKey (key : Value)
  /-- A number too large for a double. -/
  | overflow (message : String)
  /-- A name that the caller looked up does not exist. -/
  | lookup (message : String)
  /-- A position past the end of a sequence. -/
  | outOfRange (message : String)
  /-- A file-system operation failed on a path. -/
  | file (fault : FileFault) (message : String)
  /-- Configuration text is malformed. -/
  | text (fault : TextFault)
  /-- The command line was refused; the process ends with this status. -/
  | exit (code : Nat)
  /-- A home directory that a path names cannot be found. -/
  | noHome
  /-- Text that must be written as ASCII holds other characters. -/
  | unencodable (message : String)

namespace Failure

/-- The name under which a failure is reported. -/
def kind : Failure → String
  | .problem p => p.kind
  | .badValue _ => "ValueError"
  | .badAttribute _ => "AttributeError"
  | .badType _ => "TypeError"
  | .missingKey _ => "KeyError"
  | .overflow _ => "OverflowError"
  | .lookup _ => "LookupError"
  | .outOfRange _ => "IndexError"
  | .file .isDirectory _ => "IsADirectoryError"
  | .file .exists _ => "FileExistsError"
  | .file .notDirectory _ => "NotADirectoryError"
  | .text .reader => "ReaderError"
  | .text .scanner => "ScannerError"
  | .text .parser => "ParserError"
  | .text .composer => "ComposerError"
  | .text .constructor => "ConstructorError"
  | .exit _ => "SystemExit"
  | .noHome => "RuntimeError"
  | .unencodable _ => "UnicodeEncodeError"

/-- The message of a failure. -/
def message : Failure → String
  | .problem p => p.message
  | .badValue m | .badAttribute m | .badType m | .overflow m | .lookup m | .outOfRange m
  | .file _ m | .unencodable m => m
  | .missingKey k => k.literal
  | .text _ => ""
  | .exit code => toString code
  | .noHome => "Could not determine home directory."

/-- The failure of asking a value of the wrong kind for an operation. -/
def noAttribute (v : Value) (member : String) : Failure :=
  .badAttribute s!"'{v.typeName}' object has no attribute '{member}'"

end Failure

end IssueSync
