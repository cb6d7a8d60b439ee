/-!
Why a source file could not be read or parsed.

Every failure names the file and says what went wrong; syntax failures also give the 1-based line
where the trouble starts. A text that cannot be encoded is a failure of another kind: it is raised
with the encoder's words alone, and a whole-project run records it after the file's path.

Owns: `SourceProblem`, `SourceError`, `SourceError.message`, `SourceError.kind`.
-/

namespace ProjectIndex

/-- What went wrong with a source file. -/
inductive SourceProblem where
  /-- The file's extension is not one the index reads. -/
  | unsupportedFileType
  /-- A script file whose extension no grammar covers. -/
  | unsupportedScriptExtension (ext : String)
  /-- The script's first malformed part starts at this line. -/
  | syntaxError (line : Nat)
  /-- The script's first malformed part is a missing token, at this line. -/
  | missingToken (line : Nat)
  /-- A table definition whose parenthesis at this line is never closed. -/
  | unbalancedTable (line : Nat)
  /-- The file's bytes are not UTF-8, for this reason. -/
  | notUtf8 (reason : String)
  /-- The file could not be read, for this reason. -/
  | unreadable (reason : String)
  /-- The text holds lone surrogates, which UTF-8 cannot encode; the encoder says this. -/
  | unencodable (report : String)
deriving Inhabited, DecidableEq, Repr

/-- A failure to read or parse one source file. -/
structure SourceError where
  path : String
  problem : SourceProblem
deriving Inhabited, DecidableEq, Repr

/-- The message of a problem, and its line when it has one. -/
def SourceProblem.text : SourceProblem → String × Option Nat
  | .unsupportedFileType => ("unsupported file type", none)
  | .unsupportedScriptExtension ext => ("unsupported script extension '" ++ ext ++ "'", none)
  | .syntaxError line => ("syntax error", some line)
  | .missingToken line => ("missing token", some line)
  | .unbalancedTable line => ("unbalanced parentheses in CREATE TABLE", some line)
  | .notUtf8 reason => ("not valid UTF-8: " ++ reason, none)
  | .unreadable reason => ("cannot read file: " ++ reason, none)
  | .unencodable report => (report, none)

/-- `path: message`, followed by ` (line N)` when the line is known and not zero. -/
def SourceError.message (e : SourceError) : String :=
  let (text, line) := e.problem.text
  let base := e.path ++ ": " ++ text
  match line with
  | some n => if n == 0 then base else base ++ " (line " ++ toString n ++ ")"
  | none => base

/-- The kind of error raised: an encoding failure, or a parse error for every other problem. -/
def SourceError.kind (e : SourceError) : String :=
  match e.problem with
  | .unencodable _ => "UnicodeEncodeError"
  | _ => "ParseError"

/-- The text of the raised error: an encoding failure gives only the encoder's words, a parse
error its `message`. -/
def SourceError.raised (e : SourceError) : String :=
  match e.problem with
  | .unencodable report => report
  | _ => e.message

end ProjectIndex
