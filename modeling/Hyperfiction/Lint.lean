import Hyperfiction.Link
import Hyperfiction.Story
import Hyperfiction.Template.Segment

/-! # Linting

    Checks a story without playing it: templates that do not parse and links to
    passages that are missing are errors; links whose target a template computes,
    and passages that no link leads to from the start, are warnings. The
    configuration passage is no text and is not looked at.
-/

namespace Hyperfiction

namespace Lint

/-! ## Findings -/

/-- What is wrong with a story. -/
inductive Finding where
  /-- The passage's text is not a template. -/
  | badTemplate (passage : Passage) (e : Template.ParseError)
  | missingTarget (passage : Passage) (target : String)
deriving DecidableEq, Repr, Inhabited

/-- The text of an error. -/
def Finding.message : Finding → String
  | .badTemplate p e =>
    "Passage '" ++ p.name ++ "' (" ++ toString p.id.toNat ++ "): template parse error: " ++
      e.message
  | .missingTarget p target =>
    "Passage '" ++ p.name ++ "' links to missing passage '" ++ target ++ "'"

/-- What may be wrong with a story. -/
inductive Doubt where
  | computedTarget (passage : Passage) (target : String)
  | unreachable (passage : Passage)
deriving DecidableEq, Repr, Inhabited

/-- The text of a warning. -/
def Doubt.message : Doubt → String
  | .computedTarget p target =>
    "Passage '" ++ p.name ++ "' links to computed target '" ++ target ++ "'"
  | .unreachable p =>
    "Passage '" ++ p.name ++ "' (" ++ toString p.id.toNat ++
      ") is not reachable from the start passage"

/-! ## Links -/

/-- The links to passages in the text of a passage, as they are written. -/
def linksOf (p : Passage) : List Link :=
  (Link.extract p.text).filter Link.isInternal

/-- Whether a template computes the target of a link. -/
def isComputed (target : String) : Bool :=
  (Text.cutAtPair '<' '%' target.toList).isSome

/-- Whether a passage is looked at. -/
def isText (p : Passage) : Bool :=
  p.name ≠ configName

/-- What is wrong with a passage. -/
def findings (s : Story) (p : Passage) : List Finding :=
  (match Template.parse p.text with
    | .ok _ => []
    | .error e => [.badTemplate p e]) ++
  (linksOf p).filterMap fun link =>
    if isComputed link.target ∨ (s.passageNamed? link.target).isSome then none
    else some (.missingTarget p link.target)

/-- The links of a passage whose targets are computed. -/
def computedTargets (p : Passage) : List Doubt :=
  (linksOf p).filterMap fun link =>
    if isComputed link.target then some (.computedTarget p link.target) else none

/-! ## Reachability -/

/-- The passages that the links of a passage lead to. -/
def successors (s : Story) (p : Passage) : List PassageId :=
  (linksOf p).filterMap fun link => (s.passageNamed? link.target).map (·.id)

/-- The passages not reached yet. -/
def unreached (s : Story) (reached : List PassageId) : List Passage :=
  s.passages.toList.filter fun p => !reached.contains p.id

theorem unreached_lt {s : Story} {reached : List PassageId} {id : PassageId} {p : Passage}
    (fresh : reached.contains id = false) (found : s.passage? id = some p) :
    (unreached s (id :: reached)).length < (unreached s reached).length := by
  have mem : p ∈ s.passages.toList := Story.mem_of_passage? found
  have same : p.id = id := Story.id_of_passage? found
  have sub : unreached s (id :: reached) =
      (unreached s reached).filter fun q => q.id ≠ id := by
    simp only [unreached, List.filter_filter]
    refine List.filter_congr fun q _ => ?_
    by_cases h : q.id = id <;> simp [h]
  have kept : p ∈ unreached s reached := by
    simp only [unreached, List.mem_filter]
    exact ⟨mem, by simpa [same] using fresh⟩
  rw [sub]
  refine Nat.lt_of_le_of_ne (List.length_filter_le _ _) fun equal => ?_
  have := List.length_filter_eq_length_iff.1 equal p kept
  simp [same] at this

/-- All ids that can be reached from those in the queue, added to those reached. -/
def closure (s : Story) (reached : List PassageId) : List PassageId → List PassageId
  | [] => reached
  | id :: queue =>
    if _fresh : reached.contains id = true then closure s reached queue
    else
      match _found : s.passage? id with
      | none => closure s reached queue
      | some p => closure s (id :: reached) (queue ++ successors s p)
  termination_by queue => ((unreached s reached).length, queue.length)
  decreasing_by
    · exact Prod.Lex.right _ (by simp)
    · exact Prod.Lex.right _ (by simp)
    · exact Prod.Lex.left _ _ (unreached_lt (by simpa using _fresh) _found)

/-- The passages that play may begin with or always shows. -/
def roots (s : Story) : List PassageId :=
  s.start :: (s.header?.toList ++ s.footer?.toList).map (·.id)

/-- The ids of the passages that links lead to from the start. The links of the
    header and the footer count, for those are always on screen. -/
def reachable (s : Story) : List PassageId :=
  closure s [] (roots s)

/-- The passages that no link leads to. -/
def unreachable (s : Story) : List Doubt :=
  let reached := reachable s
  (s.passages.toList.filter fun p =>
    !([headerName, footerName, configName].contains p.name) && !reached.contains p.id).map
      .unreachable

/-! ## Reports -/

/-- The errors of a story and the warnings, each in order. -/
structure Report where
  errors : List Finding
  warnings : List Doubt
deriving DecidableEq, Repr, Inhabited

/-- Checks a story. -/
def report (s : Story) : Report :=
  let texts := s.passages.toList.filter isText
  { errors := texts.flatMap (findings s)
    warnings := texts.flatMap computedTargets ++ unreachable s }

end Lint

end Hyperfiction
