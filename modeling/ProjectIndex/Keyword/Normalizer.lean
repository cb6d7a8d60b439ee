import ProjectIndex.Keyword.Split

/-!
Search keywords of an indexed file.

The keywords are the words of the file's display name, of its path, of its export names and of
its prop names, in that order. Each word is followed by its synonyms from the configured table,
trimmed and lower-cased; the table's keys are compared lower-cased, and of two keys that differ
only in case the later one wins. The list keeps the first occurrence of every word and drops
empty words.

The search text is the display name, the path, the keywords, the exports and the props, joined by
single spaces and lower-cased.

Owns: `Synonyms`, `Synonyms.ofTable`, `keywords`, `searchText`, `dedupe`.
-/

namespace ProjectIndex.Keyword

open ProjectIndex.Text

/-- Extra words listed under a word, keyed by the lower-case word. -/
structure Synonyms where
  entries : List (String × List String)

/-- Keep the first occurrence of every non-empty word. -/
def dedupe (words : List String) : List String :=
  (words.foldl (fun acc word => if word.isEmpty || acc.contains word then acc else word :: acc)
    []).reverse

/-- The synonym table of a configured table: keys lower-cased, a later key replacing an earlier
one that lower-cases the same, in the earlier one's place. -/
def Synonyms.ofTable (table : List (String × List String)) : Synonyms :=
  ⟨table.foldl (fun acc entry =>
    let key := lower entry.1
    if acc.any (fun e => e.1 == key) then
      acc.map fun e => if e.1 == key then (key, entry.2) else e
    else acc ++ [(key, entry.2)]) []⟩

/-- The synonyms listed under a word. -/
def Synonyms.of (synonyms : Synonyms) (word : String) : List String :=
  ((synonyms.entries.find? fun entry => entry.1 == word).map Prod.snd).getD []

/-- The keywords of a file: the words of its name, path, exports and props, each followed by its
synonyms, first occurrences only. -/
def keywords (synonyms : Synonyms) (name path : String) (exports props : List String) :
    List String :=
  let raw := splitIdentifier name ++ pathWords path ++ exports.flatMap splitIdentifier ++
    props.flatMap splitIdentifier
  dedupe (raw.flatMap fun word =>
    word :: (synonyms.of word).map fun synonym => lower (trimBlanks synonym))

/-- The text searched for a file: name, path, keywords, exports and props, lower-cased. -/
def searchText (name path : String) (keywords exports props : List String) : String :=
  lower (" ".intercalate ([name, path] ++ keywords ++ exports ++ props))

end ProjectIndex.Keyword
