import Mathlib
import ProjectIndex.Proofs.NameStyles

/-!
Contract: the keywords of a file are the first occurrences of its raw words, each followed by its
synonyms, with empty words dropped.

Two folds stand behind `keywords`. The synonym table lower-cases each configured key and lets a
later key replace an earlier one that lower-cases the same, in the earlier one's place; read at a
word, it gives the synonyms of the last key that lower-cases to that word (`Synonyms.of_ofTable`).
The deduplication keeps the first occurrence of every non-empty word, which is the library's
`List.eraseDups` after the empty words are filtered out (`dedupe_eq_eraseDups`). Both are proved by
induction from the end of the list, the order in which the folds grow.

A raw word is never empty: it is a piece of an identifier, and lower-casing a character never
erases it (`ne_empty_of_mem_splitIdentifier`). So every raw word survives the filter.

Owns: `putSynonyms`, `listedUnder`, `Synonyms.of_ofTable`, `dedupe_eq_eraseDups`,
`keywords_first_occurrences`.
-/

namespace ProjectIndex.Keyword

open ProjectIndex.Text

/-! ### The synonym table -/

/-- One configured entry laid on the table being built: its key lower-cased, replacing the
entries of that key in place, or appended when there is none. -/
def putSynonyms (acc : List (String × List String)) (entry : String × List String) :
    List (String × List String) :=
  let key := lower entry.1
  if acc.any (fun e => e.1 == key) then acc.map fun e => if e.1 == key then (key, entry.2) else e
  else acc ++ [(key, entry.2)]

theorem ofTable_entries (table : List (String × List String)) :
    (Synonyms.ofTable table).entries = table.foldl putSynonyms [] := rfl

theorem find?_putSynonyms (acc : List (String × List String)) (entry : String × List String)
    (word : String) :
    ((putSynonyms acc entry).find? (·.1 == word)).map Prod.snd =
      if lower entry.1 = word then some entry.2 else (acc.find? (·.1 == word)).map Prod.snd := by
  unfold putSynonyms
  dsimp only
  by_cases present : (acc.any fun e => e.1 == lower entry.1) = true
  · rw [if_pos present]
    -- replacing in place keeps every key, so the search meets the same entry
    have sameKeys : ((fun e : String × List String => e.1 == word) ∘
        fun e => if e.1 == lower entry.1 then (lower entry.1, entry.2) else e) = (·.1 == word) := by
      funext e
      by_cases keyed : e.1 = lower entry.1 <;> simp [keyed]
    rw [List.find?_map, sameKeys, Option.map_map]
    by_cases same : lower entry.1 = word
    · subst same
      obtain ⟨e, found⟩ := Option.isSome_iff_exists.mp
        (List.find?_isSome.mpr (List.any_eq_true.mp present))
      have keyed : e.1 = lower entry.1 := by simpa using List.find?_some found
      simp [found, keyed]
    · cases found : acc.find? (·.1 == word) with
      | none => simp [same]
      | some e =>
        have keyed : e.1 = word := by simpa using List.find?_some found
        simp [keyed, Ne.symm same, same]
  · rw [if_neg present, List.find?_append]
    by_cases same : lower entry.1 = word
    · subst same
      have missing : acc.find? (·.1 == lower entry.1) = none := by
        rw [List.find?_eq_none]
        intro e member keyed
        exact present (List.any_eq_true.mpr ⟨e, member, keyed⟩)
      simp [missing]
    · simp [same]

/-- The synonyms a configured table lists under a word: those of the last key that lower-cases to
the word, and none when no key does. -/
def listedUnder (table : List (String × List String)) (word : String) : List String :=
  (((table.filter fun entry => lower entry.1 == word).getLast?).map Prod.snd).getD []

theorem find?_ofTable (table : List (String × List String)) (word : String) :
    ((Synonyms.ofTable table).entries.find? (·.1 == word)).map Prod.snd =
      ((table.filter fun entry => lower entry.1 == word).getLast?).map Prod.snd := by
  rw [ofTable_entries]
  induction table using List.reverseRecOn with
  | nil => rfl
  | append_singleton table entry ih =>
    rw [List.foldl_append, List.foldl_cons, List.foldl_nil, find?_putSynonyms, ih,
      List.filter_append, List.getLast?_append]
    by_cases same : lower entry.1 = word <;> simp [same]

theorem Synonyms.of_ofTable (table : List (String × List String)) (word : String) :
    (Synonyms.ofTable table).of word = listedUnder table word := by
  rw [Synonyms.of, find?_ofTable, listedUnder]

/-! ### First occurrences -/

theorem dedupe_append_singleton (words : List String) (word : String) :
    dedupe (words ++ [word]) =
      if word = "" ∨ word ∈ words then dedupe words else dedupe words ++ [word] := by
  unfold dedupe
  rw [List.foldl_append, List.foldl_cons, List.foldl_nil]
  obtain ⟨-, kept⟩ := foldl_keepFirst words [] List.nodup_nil
  generalize words.foldl (fun acc word => if word.isEmpty || acc.contains word then acc else word :: acc)
    [] = acc at kept ⊢
  -- the words kept so far are the non-empty words seen so far
  have seen : (word.isEmpty || acc.contains word) = true ↔ word = "" ∨ word ∈ words := by
    by_cases empty : word = "" <;> simp [kept, empty]
  by_cases skipped : word = "" ∨ word ∈ words
  · rw [if_pos (seen.mpr skipped), if_pos skipped]
  · rw [if_neg (mt seen.mp skipped), if_neg skipped, List.reverse_cons]

theorem dedupe_eq_eraseDups (words : List String) :
    dedupe words = (words.filter (· ≠ "")).eraseDups := by
  induction words using List.reverseRecOn with
  | nil => rfl
  | append_singleton words word ih =>
    rw [dedupe_append_singleton, List.filter_append, List.eraseDups_append, ← ih]
    by_cases empty : word = ""
    · simp [empty]
    · by_cases member : word ∈ words
      · simp [empty, member, List.removeAll]
      · simp [empty, member, List.removeAll, List.eraseDups_cons]

theorem nodup_dedupe (words : List String) : (dedupe words).Nodup :=
  List.nodup_iff_count_le_one.mpr fun word => by
    rw [count_dedupe]
    split <;> omega

theorem mem_dedupe {words : List String} {word : String} :
    word ∈ dedupe words ↔ word ∈ words ∧ word ≠ "" := by
  rw [← List.count_pos_iff, count_dedupe]
  by_cases listed : word ∈ words ∧ word ≠ ""
  · rw [if_pos listed]
    exact ⟨fun _ => listed, fun _ => Nat.one_pos⟩
  · rw [if_neg listed]
    exact ⟨fun zero => absurd zero (Nat.lt_irrefl 0), fun present => absurd present listed⟩

/-! ### Words are never empty -/

theorem lowerChar_ne_nil (c : Char) : lowerChar c ≠ [] := by
  unfold lowerChar mapCase
  split
  · exact List.cons_ne_nil _ _
  · split
    · rename_i code form found
      -- the one multi-character form in the table has two characters
      have listed := Array.mem_of_find?_eq_some found
      simp only [lowerMulti, List.mem_toArray, List.mem_singleton, Prod.mk.injEq] at listed
      rw [listed.2]
      exact List.cons_ne_nil _ _
    · split <;> exact List.cons_ne_nil _ _

theorem lower_ne_empty {s : String} (nonempty : s ≠ "") : lower s ≠ "" := by
  unfold lower
  cases chars : s.toList with
  | nil => exact absurd (String.toList_eq_nil_iff.mp chars) nonempty
  | cons c rest =>
    rw [lowerFrom]
    intro empty
    have : (if c == 'Σ' then [lowerSigma [] rest] else lowerChar c) = [] :=
      List.append_eq_nil_iff.mp (String.ofList_eq_empty_iff.mp empty) |>.1
    split at this
    · exact List.cons_ne_nil _ _ this
    · exact lowerChar_ne_nil c this

theorem ne_nil_of_mem_cutPieces : ∀ {run piece : List Char}, piece ∈ cutPieces run → piece ≠ []
  | [], _, member => by simp [cutPieces] at member
  | x :: rest, piece, member => by
    rw [cutPieces] at member
    split at member
    · rcases List.mem_cons.mp member with single | later
      · exact single ▸ List.cons_ne_nil _ _
      · exact ne_nil_of_mem_cutPieces later
    · -- the character joins the front piece, or starts one when there is none
      cases pieces : cutPieces rest with
      | nil =>
        rw [pieces, joinFront, List.mem_singleton] at member
        exact member ▸ List.cons_ne_nil _ _
      | cons front more =>
        rw [pieces, joinFront] at member
        rcases List.mem_cons.mp member with joined | later
        · exact joined ▸ List.cons_ne_nil _ _
        · exact ne_nil_of_mem_cutPieces (pieces ▸ List.mem_cons_of_mem _ later)

/-- Every word of an identifier has a character. -/
theorem ne_empty_of_mem_splitIdentifier {identifier word : String}
    (member : word ∈ splitIdentifier identifier) : word ≠ "" := by
  rw [splitIdentifier_eq_wordPieces, List.mem_map] at member
  obtain ⟨piece, inPieces, rfl⟩ := member
  obtain ⟨run, -, inRun⟩ := List.mem_flatMap.mp inPieces
  exact lower_ne_empty fun empty =>
    ne_nil_of_mem_cutPieces inRun (String.ofList_eq_empty_iff.mp empty)

theorem ne_empty_of_mem_pathWords {path word : String} (member : word ∈ pathWords path) :
    word ≠ "" := by
  obtain ⟨part, -, inPart⟩ := List.mem_flatMap.mp member
  exact ne_empty_of_mem_splitIdentifier inPart

/-! ### The keywords -/

/-- **The keywords are the first occurrences of the raw words and their synonyms.** The raw words
are those of the name, of the path (its folders other than `.` and `/`, then its stem), of each
export and of each prop; each is followed by the synonyms listed under it, trimmed and
lower-cased. Empty words are dropped and only first occurrences kept, so the keywords hold no
repeat and no empty word, and every raw word is one of them. -/
theorem keywords_first_occurrences (table : List (String × List String)) (name path : String)
    (exports props : List String) :
    let raw := splitIdentifier name ++ pathWords path ++ exports.flatMap splitIdentifier ++
      props.flatMap splitIdentifier
    let expanded := raw.flatMap fun word =>
      word :: (listedUnder table word).map fun synonym => lower (trimBlanks synonym)
    let found := keywords (Synonyms.ofTable table) name path exports props
    found = (expanded.filter (· ≠ "")).eraseDups ∧ found.Nodup ∧ "" ∉ found ∧
      ∀ word ∈ raw, word ∈ found := by
  intro raw expanded found
  have spelled : found = dedupe expanded := by
    simp only [found, expanded, raw, keywords, Synonyms.of_ofTable]
  -- every raw word is a word of some identifier, so none is empty
  have nonempty : ∀ word ∈ raw, word ≠ "" := by
    intro word member
    simp only [raw, List.mem_append, List.mem_flatMap] at member
    rcases member with ((inName | inPath) | ⟨name, -, inExport⟩) | ⟨name, -, inProp⟩
    · exact ne_empty_of_mem_splitIdentifier inName
    · exact ne_empty_of_mem_pathWords inPath
    · exact ne_empty_of_mem_splitIdentifier inExport
    · exact ne_empty_of_mem_splitIdentifier inProp
  refine ⟨spelled.trans (dedupe_eq_eraseDups expanded), spelled ▸ nodup_dedupe expanded, ?_, ?_⟩
  · rw [spelled, mem_dedupe]
    exact fun kept => kept.2 rfl
  · intro word member
    rw [spelled, mem_dedupe]
    exact ⟨List.mem_flatMap.mpr ⟨word, member, List.mem_cons_self⟩, nonempty word member⟩

end ProjectIndex.Keyword
