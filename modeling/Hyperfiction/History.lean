import Hyperfiction.Progress

/-! # Browser history

    Every navigation leaves an entry in a browser's history, either a new one or in
    place of the current one. A history may refuse an entry. `MemoryHistory` keeps
    the entries as a browser does: a new entry takes the place of all entries after
    the current one.
-/

namespace Hyperfiction

/-! ## Recording -/

/-- How a navigation is recorded. -/
inductive HistoryAction where
  /-- As a new entry. -/
  | push
  /-- In place of the current entry. -/
  | replace
deriving DecidableEq, Repr, Inhabited

/-- A navigation that leaves a checkpoint or enters one makes a new entry; any other
    one is folded into the current entry. -/
def HistoryAction.entering (tags : List String) (atCheckpoint : Bool) : HistoryAction :=
  if atCheckpoint || tags.contains checkpointTag then .push else .replace

/-- Why a history does not take an entry. -/
inductive HistoryError where
  | rejected (reason : String)
deriving DecidableEq, Repr, Inhabited

/-- The text of an error. -/
def HistoryError.message : HistoryError → String
  | .rejected reason => "history entry rejected: " ++ reason

/-- Takes the entries of navigations. -/
class BrowserHistory (H : Type) where
  /-- Adds an entry after the current one. -/
  push : H → Progress → Except HistoryError Unit × H
  /-- Replaces the current entry. -/
  replace : H → Progress → Except HistoryError Unit × H

/-- Records an entry. -/
def BrowserHistory.record {H : Type} [BrowserHistory H] (history : H) :
    HistoryAction → Progress → Except HistoryError Unit × H
  | .push, p => push history p
  | .replace, p => replace history p

/-- A history whose refusals leave it as it was. -/
class KeepsOnRefusal (H : Type) [BrowserHistory H] : Prop where
  keeps : ∀ (history : H) (action : HistoryAction) (p : Progress) (e : HistoryError),
    (BrowserHistory.record history action p).1 = .error e →
      (BrowserHistory.record history action p).2 = history

/-- A history in which a reader can go back and forward. -/
class Travel (H : Type) where
  /-- One entry back: the entry, which may be blank, and the history there. -/
  back? : H → Option (Option Progress × H)
  /-- One entry forward: the entry, which may be blank, and the history there. -/
  forward? : H → Option (Option Progress × H)

/-! ## Memory -/

/-- A history in memory. -/
structure MemoryHistory where
  /-- The entries in order; the one before the story is blank. -/
  entries : List (Option Progress)
  /-- The place of the current entry. -/
  index : Nat
  index_lt : index < entries.length

namespace MemoryHistory

/-- The history before anything is recorded. -/
def fresh : MemoryHistory :=
  { entries := [none], index := 0, index_lt := by decide }

instance : Inhabited MemoryHistory := ⟨fresh⟩

/-- The current entry. -/
def current (h : MemoryHistory) : Option Progress :=
  h.entries.get ⟨h.index, h.index_lt⟩

/-- Adds an entry after the current one; the entries that came after it go. -/
def push (h : MemoryHistory) (p : Progress) : MemoryHistory :=
  { entries := h.entries.take (h.index + 1) ++ [some p]
    index := h.index + 1
    index_lt := by
      have := h.index_lt
      simp only [List.length_append, List.length_take, List.length_cons, List.length_nil]
      omega }

/-- Replaces the current entry. -/
def replace (h : MemoryHistory) (p : Progress) : MemoryHistory :=
  { entries := h.entries.set h.index (some p)
    index := h.index
    index_lt := by simpa using h.index_lt }

/-- One entry back, unless the current one is the first. -/
def back? (h : MemoryHistory) : Option MemoryHistory :=
  if 0 < h.index then
    some { h with index := h.index - 1, index_lt := Nat.lt_of_le_of_lt (Nat.sub_le _ _) h.index_lt }
  else none

/-- One entry forward, unless the current one is the last. -/
def forward? (h : MemoryHistory) : Option MemoryHistory :=
  if inside : h.index + 1 < h.entries.length then
    some { h with index := h.index + 1, index_lt := inside }
  else none

instance : BrowserHistory MemoryHistory where
  push h p := (.ok (), h.push p)
  replace h p := (.ok (), h.replace p)

instance : KeepsOnRefusal MemoryHistory where
  keeps := by
    intro h action p e refused
    cases action <;> cases refused

instance : Travel MemoryHistory where
  back? h := h.back?.map fun h => (h.current, h)
  forward? h := h.forward?.map fun h => (h.current, h)

end MemoryHistory

/-! ## Quota -/

/-- A history that takes a number of entries and refuses all further ones, and
    keeps a list of what was asked of it. -/
structure QuotaHistory (H : Type) where
  inner : H
  /-- How many entries it still takes; without a number there is no limit. -/
  left : Option Nat := none
  /-- What was asked of it, refused or not. -/
  asked : List HistoryAction := []

namespace QuotaHistory

variable {H : Type}

/-- Records an entry, if there is room. -/
def record [BrowserHistory H] (h : QuotaHistory H) (action : HistoryAction) (p : Progress) :
    Except HistoryError Unit × QuotaHistory H :=
  let h := { h with asked := h.asked ++ [action] }
  match h.left with
  | some 0 => (.error (.rejected "quota exceeded"), h)
  | left =>
    let (result, inner) := BrowserHistory.record h.inner action p
    (result, { h with inner, left := left.map (· - 1) })

instance [BrowserHistory H] : BrowserHistory (QuotaHistory H) where
  push h p := h.record .push p
  replace h p := h.record .replace p

instance [Travel H] : Travel (QuotaHistory H) where
  back? h := (Travel.back? h.inner).map fun p => (p.1, { h with inner := p.2 })
  forward? h := (Travel.forward? h.inner).map fun p => (p.1, { h with inner := p.2 })

end QuotaHistory

end Hyperfiction
