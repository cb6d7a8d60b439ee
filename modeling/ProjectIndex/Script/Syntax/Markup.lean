import ProjectIndex.Script.Syntax.Expression

/-!
Elements embedded in scripts.

An element starts with `<`. `<>` opens a fragment. Otherwise a name follows (a word that may hold
dashes, a dotted name whose first part has none, or a namespaced `a:b`), then attributes, then either `/>`, which makes a
self-closing element, or `>`, the children and a closing tag `</name>`. With types, type
arguments may follow the name.

An attribute is a name with an optional value after `=` (a quoted string, taken as it stands, a
braced expression, or an element), or a braced spread `{...expr}`. Children are element text,
braced expressions (possibly empty), nested elements and character references such as `&amp;`;
an `&` that opens no reference, among the children or in a quoted value, is an error of its own
character, and the text goes on after it.
Element text runs to the next brace, angle bracket, ampersand or line break, without the spaces
at its end, and text that starts with `//` runs to the end of its line; blanks between children
belong to no node. A `>` or `}` among the children, or the
end of the source, stops the parse.

Owns: `markupRule`.
-/

namespace ProjectIndex.Script

/-- A name inside a tag, starting at the next token: a word with dashes, then dotted parts
(making member expressions) or one namespace part. -/
def markupName (kind : String) : Parse Node := do
  let t ← peek
  if !t.isAnyWord then stuck
  else
    let first ← namePart kind t
    if (← peek).isPunct ":" then
      let c ← punct ":"
      let t2 ← peek
      if !t2.isAnyWord then stuck
      else
        let second ← namePart kind t2
        return build "jsx_namespace_name" [first, c, second]
    else if (← peek).isPunct "." && (← dashed first) then stuck
    else
      let parts ← manyOf (do
        if (← peek).isPunct "." then
          let d ← punct "."
          let p ← nameAs "property_identifier" []
          return some (d, p)
        else return none)
      return parts.foldl (fun acc (d, p) =>
        build "member_expression" [acc.withField "object", d, p.withField "property"]) first
where
  /-- Whether a name part holds a dash; such a part takes no dotted parts after it. -/
  dashed (n : Node) : Parse Bool := do
    let src := (← read).chars
    return (src.extract n.start n.stop).toList.contains '-'
  /-- One part of a name from the token `t`: a word that may hold dashes; a word without dashes
  must be allowed as a name. -/
  namePart (kind : String) (t : Token) : Parse Node := do
    let src := (← read).chars
    let e := scanMarkupName src t.start t.stop
    let text := String.ofList (src.extract t.start e).toList
    if !text.contains '-' && !(← nameAllowed [] text) then stuck
    jumpTo e
    return { kind := kind, start := t.start, stop := e }

/-- A character reference at `pos`, up to its `;`: `&` and one to thirty ASCII letters, `&#` and
one to five decimal digits, or `&#x` and one to six hexadecimal digits. -/
def entityEnd? (src : Array Char) (pos : Nat) : Option Nat :=
  let run (p : Nat) (ok : Char → Bool) (most : Nat) : Option Nat :=
    let e := spanWhile src ok p
    if e > p && e - p ≤ most && src[e]? == some ';' then some (e + 1) else none
  if src[pos + 1]? == some '#' then
    if src[pos + 2]? == some 'x' || src[pos + 2]? == some 'X' then run (pos + 3) isHexDigit 6
    else run (pos + 2) isDecimalDigit 5
  else run (pos + 1) (fun c => ('a' ≤ c && c ≤ 'z') || ('A' ≤ c && c ≤ 'Z')) 30

/-- The end of an attribute string whose opening quote is at `pos`, with the places of the
ampersands in it that are errors: the string runs to the matching quote, across line breaks and
backslashes. An `&` before `#` or a letter must open a character reference, and when it does not,
the `&` alone is an error and the string goes on after it; before any other character, the quote
included, an `&` takes that character along as text. -/
def quotedEnd (src : Array Char) (quote : Char) (pos : Nat) : Option (Nat × List Nat) :=
  go (pos + 1) [] (src.size - pos)
where
  /-- Continues the string from `p`, with the errors found so far, latest first. -/
  go (p : Nat) (bad : List Nat) : Nat → Option (Nat × List Nat)
    | 0 => none
    | fuel + 1 =>
      match src[p]? with
      | none => none
      | some c =>
        if c == quote then some (p + 1, bad.reverse)
        else if c == '&' then
          match src[p + 1]? with
          | none => none
          | some d =>
            if d == '#' || ('a' ≤ d && d ≤ 'z') || ('A' ≤ d && d ≤ 'Z') then
              match entityEnd? src p with
              | some e => go e bad fuel
              | none => go (p + 1) (p :: bad) fuel
            else go (p + 2) bad fuel
        else go (p + 1) bad fuel

/-- An error node holding the single character at `p`, an `&` that opens no character
reference. -/
def strayAmpersand (p : Nat) : Node :=
  errorNode [{ kind := "&", named := false, start := p, stop := p + 1 }]

/-- A quoted attribute value; a stray ampersand in it is an error inside the string. Such a value
may span lines, so one left open runs to the end of the source, where nothing can close it: the
parse is stuck for good there. -/
def markupString : Parse Node := do
  let t ← peek
  let src := (← read).chars
  match src[t.start]? with
  | some q =>
    if q == '"' || q == '\'' then
      match quotedEnd src q t.start with
      | some (e, bad) =>
        jumpTo e
        return { kind := "string", start := t.start, stop := e, children := bad.map strayAmpersand }
      | none => stuckBefore src.size
    else stuck
  | none => stuck

/-- The start of the `/` of a `/>` that ends a tag inside the braced expression whose text starts
at `pos`: a `/` with `>` right after it, outside any bracket opened after `pos`, before the brace
that would close the expression. -/
def tagEndInside? (src : Array Char) (pos : Nat) : Option Nat :=
  go pos 0 (src.size + 1)
where
  /-- Scans on from `p` with `depth` brackets open. -/
  go (p depth : Nat) : Nat → Option Nat
    | 0 => none
    | fuel + 1 =>
      let t := scanToken src p
      if t.isEnd || (depth == 0 && t.isPunct "\x7d") then none
      else if depth == 0 && t.isPunct "/" && src[t.stop]? == some '>' then some t.start
      else
        let opens := t.isPunct "(" || t.isPunct "[" || t.isPunct "\x7b"
        let closes := t.isPunct ")" || t.isPunct "]" || t.isPunct "\x7d"
        let depth' := if opens then depth + 1 else if closes then depth - 1 else depth
        go (max t.stop (p + 1)) depth' fuel

/-- A braced expression among attributes or children: empty, a spread, or expressions, where
with recovery one stray token may stand before the closing brace. An attribute's value whose
brace is still open at the `/>` ending its tag is text that recovery never returns from: with
recovery the parse is stuck for good at the end of the source, cut at the `/`. -/
def markupExpression (r : Rules) (attributeValue : Bool) : Parse Node := do
  let o ← punct "\x7b"
  let t ← peek
  if t.isPunct "\x7d" then return build "jsx_expression" [o, ← punct "\x7d"]
  else if t.isPunct "..." then
    let d ← punct "..."
    let e ← r.expression
    let c ← punct "\x7d"
    return build "jsx_expression" [o, build "spread_element" [d, e], c]
  else
    let closed ← attempt (do
      let e ← r.expressions
      return build "jsx_expression" ([o, e] ++ (← punctAfterStray "\x7d")))
    match closed with
    | some x => return x
    | none =>
      let size := (← read).chars.size
      match tagEndInside? (← read).chars o.stop with
      | some c =>
        if attributeValue && (← recovering) then
          throw { position := size, resume := some size, cut := some c }
        else stuck
      | none => stuck

/-- One attribute, when the next token starts one. -/
def markupAttribute (r : Rules) : Parse (Option Node) := do
  let t ← peek
  if t.isPunct "\x7b" then some <$> markupExpression r false
  else if t.isAnyWord then
    let name ← markupName "property_identifier"
    if (← peek).isPunct "=" then
      let eq ← punct "="
      let t2 ← peek
      let value ←
        if t2.isPunct "\x7b" then markupExpression r true
        else if t2.isPunct "<" then r.markup
        else markupString
      return some (build "jsx_attribute" [name, eq, value])
    else return some (build "jsx_attribute" [name])
  else return none

/-- The children of an element, up to its closing tag. -/
def markupChildren (r : Rules) : Parse (List Node) :=
  manyOf (do
    let src := (← read).chars
    let p := spanWhile src isBlank (← get).pos
    match src[p]? with
    | none => if (← read).closeAtEnd then return none else throw { position := p }
    | some '<' =>
      if (scanToken src (p + 1)).isPunct "/" then return none
      else some <$> r.markup
    | some '\x7b' => some <$> markupExpression r false
    | some '\x7d' => throw { position := p }
    | some '>' => throw { position := p }
    | some '&' =>
      match entityEnd? src p with
      | some e =>
        jumpTo e
        return some { kind := "html_character_reference", start := p, stop := e }
      | none =>
        jumpTo (p + 1)
        return some (strayAmpersand p)
    | some c =>
      -- text that starts with two slashes runs to the end of its line, as a comment would
      let e := if c == '/' && src[p + 1]? == some '/' then lineEnd src p else scanMarkupText src p
      jumpTo e
      return some { kind := "jsx_text", start := p, stop := e })

/-- The closing tag of an element, `</name>`, or of a fragment, `</>`; missing as a whole where
the source ends and constructs left open are closed. -/
def closingTag (named : Bool) : Parse Node := do
  if ← closingAtEnd then
    return { ← missingToken "jsx_closing_element" with named := true }
  else
    let clt ← punct "<"
    let slash ← punct "/"
    if named then
      let closeName ← markupName "identifier"
      let cgt ← closeAngle
      return build "jsx_closing_element" [clt, slash, closeName.withField "name", cgt]
    else
      let cgt ← closeAngle
      return build "jsx_closing_element" [clt, slash, cgt]

/-- An element, from its `<`. -/
def markupRule (r : Rules) : Parse Node := do
  let lt ← punct "<"
  if (← peek).isPunct ">" then
    let gt ← closeAngle
    let opening := build "jsx_opening_element" [lt, gt]
    let children ← markupChildren r
    let closing ← closingTag false
    return build "jsx_element"
      ([opening.withField "open_tag"] ++ children ++ [closing.withField "close_tag"])
  else
    let name ← markupName "identifier"
    let args ← if (← typed) && (← peek).isPunct "<" then some <$> r.typeArguments else pure none
    let attrs ← manyOf (markupAttribute r)
    let head := [lt, name.withField "name"] ++ fielded "type_arguments" args ++
      attrs.map (·.withField "attribute")
    if (← peek).isPunct "/" then
      let slash ← punct "/"
      let gt ← closeAngle
      return build "jsx_self_closing_element" (head ++ [slash, gt])
    else
      let gt ← closeAngle
      let opening := build "jsx_opening_element" (head ++ [gt])
      let children ← markupChildren r
      let closing ← closingTag true
      return build "jsx_element"
        ([opening.withField "open_tag"] ++ children ++ [closing.withField "close_tag"])

end ProjectIndex.Script
