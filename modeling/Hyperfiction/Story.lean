import Hyperfiction.Config
import Hyperfiction.Passage

/-! # Stories

    A story is an index of passages with a start passage, a few facts about it
    and a configuration. The index is two tables, from ids to passages and from
    names to ids, which are filled side by side, one passage after the other.
    What the filling keeps stays known: a story carries the proof that its two
    tables agree.
-/

namespace Hyperfiction

/-! ## The index of passages -/

/-- Passages by their ids, and ids by the names of their passages. -/
structure PassageIndex where
  byId : Table PassageId Passage
  byName : Fields PassageId
deriving Inhabited

namespace PassageIndex

/-- The index without passages. -/
def empty : PassageIndex :=
  { byId := [], byName := [] }

/-- The passages in the order of their ids. -/
def toList (ix : PassageIndex) : List Passage :=
  ix.byId.map Prod.snd

/-- The passage with an id. -/
def byId? (ix : PassageIndex) (id : PassageId) : Option Passage :=
  Table.get? id ix.byId

/-- The passage with a name: the one under the id that the name leads to. -/
def byName? (ix : PassageIndex) (name : String) : Option Passage :=
  (Table.get? name ix.byName).bind ix.byId?

/-- Puts a passage under its id, and its id under its name. -/
def insert (ix : PassageIndex) (p : Passage) : PassageIndex :=
  { byId := Table.insert p.id p ix.byId
    byName := Table.insert p.name p.id ix.byName }

/-- The two tables agree: the passages stand in the order of their ids, each under its own, and
    a name leads to an id exactly if the passage under that id has the name. -/
structure Agrees (ix : PassageIndex) : Prop where
  ordered : ix.byId.Ascending
  own : ∀ id p, Table.get? id ix.byId = some p → p.id = id
  named : ∀ name id, Table.get? name ix.byName = some id ↔
    ∃ p, Table.get? id ix.byId = some p ∧ p.name = name

theorem agrees_empty : empty.Agrees where
  ordered := Table.ascending_nil
  own := by rintro id p ⟨⟩
  named := by
    intro name id
    constructor
    · rintro ⟨⟩
    · rintro ⟨p, ⟨⟩, -⟩

/-- What is found under an id is one of the passages. -/
theorem mem_of_byId? {ix : PassageIndex} {id : PassageId} {p : Passage}
    (h : ix.byId? id = some p) : p ∈ ix.toList :=
  List.mem_map.2 ⟨(id, p), Table.mem_of_get? h, rfl⟩

namespace Agrees

variable {ix : PassageIndex}

/-- A passage with a new id and a new name goes into both tables. -/
theorem insert (h : ix.Agrees) {p : Passage} (id_new : Table.get? p.id ix.byId = none)
    (name_new : Table.get? p.name ix.byName = none) : (ix.insert p).Agrees where
  ordered := h.ordered.insert p.id p
  own := by
    intro id q hq
    rw [PassageIndex.insert, Table.get?_insert] at hq
    split at hq
    case isTrue hid => rw [← Option.some.inj hq, hid]
    case isFalse => exact h.own id q hq
  named := by
    intro name id
    simp only [PassageIndex.insert, Table.get?_insert]
    by_cases hname : p.name = name
    · subst hname
      rw [if_pos rfl, Option.some_inj]
      constructor
      · rintro rfl
        exact ⟨p, if_pos rfl, rfl⟩
      · rintro ⟨q, hq, hqname⟩
        -- an older passage with the name would have led to its id before
        split at hq
        case isTrue hid => exact hid
        case isFalse =>
          have hold := (h.named p.name id).2 ⟨q, hq, hqname⟩
          rw [name_new] at hold
          cases hold
    · rw [if_neg hname, h.named]
      by_cases hid : p.id = id
      · subst hid
        rw [id_new, if_pos rfl]
        constructor
        · rintro ⟨q, ⟨⟩, -⟩
        · rintro ⟨q, hq, hqname⟩
          rw [← Option.some.inj hq] at hqname
          exact absurd hqname hname
      · rw [if_neg hid]

/-- The ids ascend. -/
theorem increasing (h : ix.Agrees) : ix.toList.Pairwise fun p q => p.id < q.id := by
  have hown : ∀ e ∈ ix.byId, e.2.id = e.1 := fun e he => h.own e.1 e.2 (h.ordered.get?_of_mem he)
  refine List.pairwise_map.2 (List.Pairwise.imp_of_mem ?_ h.ordered)
  intro e e' he he' hlt
  rw [hown e he, hown e' he']
  exact hlt

/-- A passage is found by its id exactly if it is in the index. -/
theorem byId?_eq_some_iff (h : ix.Agrees) {id : PassageId} {p : Passage} :
    ix.byId? id = some p ↔ p ∈ ix.toList ∧ p.id = id := by
  constructor
  · intro hp
    exact ⟨mem_of_byId? hp, h.own id p hp⟩
  · rintro ⟨hmem, rfl⟩
    obtain ⟨⟨id, q⟩, he, rfl⟩ := List.mem_map.1 hmem
    have hfound : Table.get? id ix.byId = some q := h.ordered.get?_of_mem he
    rw [h.own id q hfound]
    exact hfound

/-- So is it by its name. -/
theorem byName?_eq_some_iff (h : ix.Agrees) {name : String} {p : Passage} :
    ix.byName? name = some p ↔ p ∈ ix.toList ∧ p.name = name := by
  constructor
  · intro hp
    obtain ⟨id, hid, hfound⟩ := Option.bind_eq_some_iff.1 hp
    obtain ⟨q, hq, hname⟩ := (h.named name id).1 hid
    obtain rfl := Option.some.inj (hq.symm.trans hfound)
    exact ⟨mem_of_byId? hfound, hname⟩
  · rintro ⟨hmem, rfl⟩
    have hfound : ix.byId? p.id = some p := h.byId?_eq_some_iff.2 ⟨hmem, rfl⟩
    exact Option.bind_eq_some_iff.2 ⟨p.id, (h.named p.name p.id).2 ⟨p, hfound, rfl⟩, hfound⟩

end Agrees

end PassageIndex

/-! ## Errors -/

/-- Why a story cannot be had. -/
inductive StoryError where
  | duplicateId (id : PassageId)
  | duplicateName (name : String)
  /-- No passage has the id of the start passage. -/
  | missingStart (id : PassageId)
  /-- No start passage is set. -/
  | noStart
  /-- The configuration passage is refused. -/
  | config (e : ConfigError)
  /-- The file cannot be read. -/
  | unreadable (path : String)
  /-- The text is not a story in RON. -/
  | malformedRon
  /-- The text is not a story in JSON. -/
  | malformedJson
deriving DecidableEq, Repr, Inhabited

/-- The text of an error. -/
def StoryError.message : StoryError → String
  | .duplicateId id => "duplicate passage id: " ++ toString id.toNat
  | .duplicateName name => "duplicate passage name: " ++ name
  | .missingStart id => "start passage " ++ toString id.toNat ++ " does not exist"
  | .noStart => "no start passage set"
  | .config e => "config passage error: " ++ e.message
  | .unreadable path => "IO error: cannot read " ++ path
  | .malformedRon => "RON deserialization error: the text is not a story"
  | .malformedJson => "JSON deserialization error: the text is not a story"

namespace PassageIndex

/-- Adds passages in order; the first one that repeats an id or a name is an
    error, and the id is looked at first. -/
def insertAll (ix : PassageIndex) : List Passage → Except StoryError PassageIndex
  | [] => .ok ix
  | p :: rest =>
    if Table.contains p.id ix.byId then .error (.duplicateId p.id)
    else if Table.contains p.name ix.byName then .error (.duplicateName p.name)
    else (ix.insert p).insertAll rest

/-- Passages that are added one after the other keep the two tables in agreement. -/
theorem Agrees.insertAll {ix ix' : PassageIndex} (h : ix.Agrees) {ps : List Passage}
    (hok : ix.insertAll ps = .ok ix') : ix'.Agrees := by
  induction ps generalizing ix with
  | nil =>
    obtain rfl := Except.ok.inj hok
    exact h
  | cons p rest ih =>
    unfold PassageIndex.insertAll at hok
    split at hok
    case isTrue => cases hok
    case isFalse hid =>
      split at hok
      case isTrue => cases hok
      case isFalse hname =>
        exact ih (h.insert (Option.not_isSome_iff_eq_none.1 hid)
          (Option.not_isSome_iff_eq_none.1 hname)) hok

/-- The index of passages that can stand together; where some of them repeat an id or a name
    it is empty. -/
def ofList (ps : List Passage) : PassageIndex :=
  match empty.insertAll ps with
  | .ok ix => ix
  | .error _ => empty

theorem agrees_ofList (ps : List Passage) : (ofList ps).Agrees := by
  unfold ofList
  split
  case h_1 ix hok => exact agrees_empty.insertAll hok
  case h_2 => exact agrees_empty

end PassageIndex

/-! ## Stories -/

/-- A story, checked. -/
structure Story where
  name : String
  /-- The identifier of the work, if it has one. -/
  ifid : Option String
  /-- The program that made the story, and its version. -/
  creator : Option String
  creatorVersion : Option String
  /-- The id of the passage that play begins with. -/
  start : PassageId
  passages : PassageIndex
  config : Config
  passages_agree : passages.Agrees
  start_exists : (passages.byId? start).isSome

namespace Story

/-- The passage with an id. -/
def passage? (s : Story) (id : PassageId) : Option Passage :=
  s.passages.byId? id

/-- The passage with a name. -/
def passageNamed? (s : Story) (name : String) : Option Passage :=
  s.passages.byName? name

/-- The passage a query asks for. -/
def resolve (s : Story) : Query → Option Passage
  | .id id => s.passage? id
  | .name name => s.passageNamed? name

/-- The passage shown above every passage. -/
def header? (s : Story) : Option Passage :=
  s.passageNamed? headerName

/-- The passage shown below every passage. -/
def footer? (s : Story) : Option Passage :=
  s.passageNamed? footerName

/-- How many passages the story has. -/
def size (s : Story) : Nat :=
  s.passages.toList.length

variable {s : Story} {p : Passage}

theorem passage?_eq_some_iff {id : PassageId} :
    s.passage? id = some p ↔ p ∈ s.passages.toList ∧ p.id = id :=
  s.passages_agree.byId?_eq_some_iff

theorem passageNamed?_eq_some_iff {name : String} :
    s.passageNamed? name = some p ↔ p ∈ s.passages.toList ∧ p.name = name :=
  s.passages_agree.byName?_eq_some_iff

theorem mem_of_passage? {id : PassageId} (h : s.passage? id = some p) : p ∈ s.passages.toList :=
  (passage?_eq_some_iff.1 h).1

theorem id_of_passage? {id : PassageId} (h : s.passage? id = some p) : p.id = id :=
  (passage?_eq_some_iff.1 h).2

theorem mem_of_passageNamed? {name : String} (h : s.passageNamed? name = some p) :
    p ∈ s.passages.toList :=
  (passageNamed?_eq_some_iff.1 h).1

theorem name_of_passageNamed? {name : String} (h : s.passageNamed? name = some p) :
    p.name = name :=
  (passageNamed?_eq_some_iff.1 h).2

theorem passage?_of_mem (h : p ∈ s.passages.toList) : s.passage? p.id = some p :=
  passage?_eq_some_iff.2 ⟨h, rfl⟩

theorem passageNamed?_of_mem (h : p ∈ s.passages.toList) : s.passageNamed? p.name = some p :=
  passageNamed?_eq_some_iff.2 ⟨h, rfl⟩

end Story

end Hyperfiction
