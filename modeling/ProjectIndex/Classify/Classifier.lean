import ProjectIndex.Classify.Path
import ProjectIndex.Heuristic.Score
import ProjectIndex.Source.Unit

/-!
Classifying a parsed file.

The path tiers decide first. A migration file that they leave undecided stays unclassified; for a
script, the heuristic detection decides when its confidence reaches the accept threshold.

Owns: `PathClassifier.classify`.
-/

namespace ProjectIndex.Classify

open ProjectIndex.Heuristic

/-- The classification of a detection that reaches the accept threshold. -/
def accepted (accept : Float) (x : Detection) : Option Classification :=
  if x.confidence.toFloat < accept then none
  else some { role := .role x.role, confidence := x.confidence, reasons := x.reasons,
              tier := .heuristic }

/-- The role of a parsed file: by its path, else, for a script, by its syntax. -/
def PathClassifier.classify (c : PathClassifier) (u : SourceUnit) : Option Classification :=
  match c.classifyPath u.path with
  | some found => some found
  | none =>
    match u.parsed with
    | .tables _ => none
    | .script d => (detect d c.config.thresholds).bind (accepted c.config.thresholds.accept)

end ProjectIndex.Classify
