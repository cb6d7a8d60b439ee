import ProjectIndex.Script.Parse
import ProjectIndex.Source.Error
import ProjectIndex.Text.Surrogate

/-!
A parsed script: its tree, its characters and its path.

`parseScriptWith` chooses the grammar from the path's extension and parses with the tree parser
it is given; `parseScript` is that with this library's parser. In strict mode a tree with a
repaired node is refused: the error names the line of the first repaired node in pre-order, as a
syntax error, or as a missing token when that node is a supplied token.

Owns: `Document`, `TreeParser`, `parseScriptWith`, `parseScript`, `Document.text`, `Document.walk`, `Document.topLevel`,
`Document.stringValue`.
-/

namespace ProjectIndex.Script

/-- A parsed script. -/
structure Document where
  root : Node
  chars : Array Char
  path : String

namespace Document

/-- The source text of a node. -/
def text (d : Document) (n : Node) : String := n.text d.chars

/-- The source text of a node when there is one, else the empty text. -/
def text? (d : Document) : Option Node → String
  | some n => d.text n
  | none => ""

/-- Every node of the tree, in the order of the stack walk (which is pre-order). -/
def walk (d : Document) : List Node := d.root.walk

/-- The named nodes directly under the program. -/
def topLevel (d : Document) : List Node := d.root.namedChildren

/-- The text of a string literal without its quotes: the first and last characters are dropped
when they are the same quote (`'`, `"` or a backquote) and the text has at least two. -/
def stringValue (d : Document) (n : Node) : String :=
  let raw := (d.text n).toList
  match raw.head?, raw.getLast? with
  | some a, some b =>
    if raw.length ≥ 2 && "'\"`".toList.contains a && b == a then
      String.ofList (raw.drop 1).dropLast
    else String.ofList raw
  | _, _ => String.ofList raw

/-- The lower-cased extension of the script's path. -/
def extension (d : Document) : String := extensionOf d.path

end Document

/-- A parser of scripts: the syntax tree of a text under a grammar, with the text's characters
that the tree's positions count. This library's own is `parseTree`. -/
abbrev TreeParser := String → Grammar → Node × Array Char

/-- Parses a script with a tree parser, refusing a broken one when `strict`, and refusing text with
lone surrogates, which cannot be handed to the parser as UTF-8. -/
def parseScriptWith (tree : TreeParser) (text path : String) (strict : Bool) :
    Except SourceError Document :=
  let ext := extensionOf path
  match grammarOf? ext with
  | none => .error ⟨path, .unsupportedScriptExtension ext⟩
  | some g =>
    match Text.utf8Fault? text with
    | some report => .error ⟨path, .unencodable report⟩
    | none =>
      let (root, chars) := tree text g
      if strict && root.hasError then
        match root.firstProblem? with
        | some p =>
          let line := rowOf chars p.start + 1
          .error ⟨path, if p.mark == .missing then .missingToken line else .syntaxError line⟩
        | none => .error ⟨path, .syntaxError 0⟩
      else .ok ⟨root, chars, path⟩

/-- Parses a script with this library's parser. -/
def parseScript (text path : String) (strict : Bool) : Except SourceError Document :=
  parseScriptWith parseTree text path strict

end ProjectIndex.Script
