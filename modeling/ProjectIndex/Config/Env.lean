import ProjectIndex.Text.Surrogate

/-!
Environment references in configuration values.

A reference is `${NAME}`, where the name is one or more characters other than `}`. The text is read
left to right: each reference is replaced by the environment's value for its name, or kept as it
stands when the name is not set, and reading goes on after it. A `$` that starts no reference is
kept. Text that came from the environment is not read again.

Looking a name up turns it into the bytes the environment is keyed by: UTF-8, with the surrogates
U+DC80 to U+DCFF standing for the raw bytes 0x80 to 0xFF. A name holding any other surrogate has no
bytes, and resolving a text stops at the first reference with such a name, with the encoder's
error.

Owns: `Environment`, `substituteEnv`, `EnvPiece`, `envPieces`, `envNameFault?`, `resolveEnv`.
-/

namespace ProjectIndex.Config

/-- Environment variables and their values. -/
abbrev Environment := List (String × String)

/-- The value of a variable. -/
def Environment.lookup (env : Environment) (name : String) : Option String :=
  (env.find? fun entry => entry.1 == name).map Prod.snd

/-- Replace the references in a list of characters, left to right. -/
def substituteChars (env : Environment) : List Char → List Char
  | [] => []
  | '$' :: '{' :: rest =>
    match rest.findIdx? (· == '}') with
    | some k =>
      if k == 0 then '$' :: substituteChars env ('{' :: rest)
      else
        let name := String.ofList (rest.take k)
        let after := rest.drop (k + 1)
        match env.lookup name with
        | some value => value.toList ++ substituteChars env after
        | none => '$' :: '{' :: rest.take (k + 1) ++ substituteChars env after
    | none => '$' :: substituteChars env ('{' :: rest)
  | c :: rest => c :: substituteChars env rest
termination_by cs => cs.length
decreasing_by all_goals simp_all <;> omega

/-- Replace the environment references in a text. -/
def substituteEnv (env : Environment) (s : String) : String :=
  String.ofList (substituteChars env s.toList)

/-- A piece of a text read for references: a character standing for itself, or a reference
`${name}` with its name. -/
inductive EnvPiece where
  | char (c : Char)
  | ref (name : List Char)
deriving DecidableEq, Repr

/-- The name of a reference. -/
def EnvPiece.name? : EnvPiece → Option String
  | .char _ => none
  | .ref name => some (String.ofList name)

/-- A text read left to right into its references and the characters between them. -/
def envPieces : List Char → List EnvPiece
  | [] => []
  | '$' :: '{' :: rest =>
    match rest.findIdx? (· == '}') with
    | some (k + 1) => .ref (rest.take (k + 1)) :: envPieces (rest.drop (k + 2))
    | _ => .char '$' :: envPieces ('{' :: rest)
  | c :: rest => .char c :: envPieces rest
termination_by cs => cs.length
decreasing_by all_goals simp_all <;> omega

/-- A surrogate that stands for a raw byte in a name: U+DC80 to U+DCFF. -/
def escapesByte (c : Char) : Bool :=
  0xDC80 ≤ Text.codePoint c && Text.codePoint c ≤ 0xDCFF

/-- Why a name has no bytes, in the words of the encoder: the first surrogate that stands for no
byte, over the run of surrogates from it. `none` when the name can be looked up. -/
def envNameFault? (name : String) : Option String :=
  let cs := name.toList
  match cs.findIdx? (fun c => Text.isSurrogate c && !escapesByte c) with
  | none => none
  | some k =>
    match (cs.drop k).takeWhile Text.isSurrogate with
    | [c] =>
      some ("'utf-8' codec can't encode character '\\u" ++ Text.hexFour (Text.codePoint c) ++
        "' in position " ++ toString k ++ ": surrogates not allowed")
    | run =>
      some ("'utf-8' codec can't encode characters in position " ++ toString k ++ "-" ++
        toString (k + run.length - 1) ++ ": surrogates not allowed")

/-- Resolve the references of a text: the error of the first reference whose name has no bytes,
else the text with every reference replaced. -/
def resolveEnv (env : Environment) (s : String) : Except String String :=
  match ((envPieces s.toList).filterMap EnvPiece.name?).findSome? envNameFault? with
  | some fault => .error fault
  | none => .ok (substituteEnv env s)

end ProjectIndex.Config
