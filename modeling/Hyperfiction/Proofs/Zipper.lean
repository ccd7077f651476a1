import Hyperfiction.Proofs.Travel

/-! # A history as a zipper

    A history in memory is a list of entries and a place in it. What it answers is simpler to
    say of a zipper: the entries behind the current one, the current one, and the entries
    ahead, each time the nearest first. To push an entry is to put the current one behind it
    and to let go of what is ahead; going back or forward moves one entry across.

    Every history has its zipper, and no two have the same. A call does to the zipper what it
    does to the history, so any calls in a row are answered alike by both.
-/

namespace Hyperfiction

/-! ## Section 1: Zippers -/

/-- Entries around a current one. -/
structure Zipper (α : Type) where
  /-- The entries behind the current one, the nearest first. -/
  past : List α
  current : α
  /-- The entries ahead, the nearest first. -/
  future : List α

namespace Zipper

variable {α : Type}

/-- Puts an entry after the current one, in place of all that is ahead. -/
def push (a : α) (z : Zipper α) : Zipper α where
  past := z.current :: z.past
  current := a
  future := []

/-- Puts an entry in place of the current one. -/
def replace (a : α) (z : Zipper α) : Zipper α :=
  { z with current := a }

/-- One entry back, if there is one behind. -/
def back? : Zipper α → Option (Zipper α)
  | ⟨[], _, _⟩ => none
  | ⟨a :: past, current, future⟩ => some ⟨past, a, current :: future⟩

/-- One entry forward, if there is one ahead. -/
def forward? : Zipper α → Option (Zipper α)
  | ⟨_, _, []⟩ => none
  | ⟨past, current, a :: future⟩ => some ⟨current :: past, a, future⟩

/-- All entries in order. -/
def entries (z : Zipper α) : List α :=
  z.past.reverse ++ z.current :: z.future

theorem back?_forward? (z : Zipper α) : z.back?.bind forward? = z.back?.map fun _ => z := by
  obtain ⟨past, current, future⟩ := z
  cases past with
  | nil => rfl
  | cons a past => rfl

theorem forward?_back? (z : Zipper α) : z.forward?.bind back? = z.forward?.map fun _ => z := by
  obtain ⟨past, current, future⟩ := z
  cases future with
  | nil => rfl
  | cons a future => rfl

end Zipper

/-! ## Section 2: The zipper of a history -/

namespace MemoryHistory

/-- The entries around the current one. -/
def zipper (h : MemoryHistory) : Zipper (Option Progress) where
  past := (h.entries.take h.index).reverse
  current := h.current
  future := h.entries.drop (h.index + 1)

/-- A history has the zipper that lists its entries and has its place. -/
theorem zipper_eq_iff {h : MemoryHistory} {z : Zipper (Option Progress)} :
    h.zipper = z ↔ h.entries = z.entries ∧ h.index = z.past.length := by
  constructor
  · intro hz
    have hlt := h.index_lt
    have hdrop : h.entries.drop h.index = h.current :: h.entries.drop (h.index + 1) :=
      List.drop_eq_getElem_cons h.index_lt
    rw [← hz]
    constructor
    · show h.entries = (h.entries.take h.index).reverse.reverse ++ h.current ::
        h.entries.drop (h.index + 1)
      rw [List.reverse_reverse, ← hdrop, List.take_append_drop]
    · show h.index = (h.entries.take h.index).reverse.length
      rw [List.length_reverse, List.length_take]
      omega
  · intro hz
    obtain ⟨entries, index, hlt⟩ := h
    obtain ⟨past, current, future⟩ := z
    obtain ⟨hentries, hindex⟩ := hz
    subst hentries hindex
    simp [zipper, Zipper.entries, MemoryHistory.current, List.drop_append]

/-- So a history is known by its zipper. -/
theorem zipper_injective {h h' : MemoryHistory} (hz : h.zipper = h'.zipper) : h = h' := by
  obtain ⟨hentries, hindex⟩ := zipper_eq_iff.1 hz
  obtain ⟨hentries', hindex'⟩ := zipper_eq_iff.1 (rfl : h'.zipper = h'.zipper)
  exact MemoryHistory.ext (hentries.trans hentries'.symm) (hindex.trans hindex'.symm)

theorem zipper_push (h : MemoryHistory) (p : Progress) :
    (h.push p).zipper = h.zipper.push (some p) := by
  generalize hz : h.zipper = z
  obtain ⟨hentries, hindex⟩ := zipper_eq_iff.1 hz
  rw [zipper_eq_iff]
  constructor
  · -- what is kept ends with the current entry
    show h.entries.take (h.index + 1) ++ [some p] = (z.current :: z.past).reverse ++ [some p]
    rw [hentries, hindex]
    simp [Zipper.entries, List.take_append]
  · show h.index + 1 = (z.current :: z.past).length
    rw [hindex, List.length_cons]

theorem zipper_replace (h : MemoryHistory) (p : Progress) :
    (h.replace p).zipper = h.zipper.replace (some p) := by
  generalize hz : h.zipper = z
  obtain ⟨hentries, hindex⟩ := zipper_eq_iff.1 hz
  rw [zipper_eq_iff]
  constructor
  · show h.entries.set h.index (some p) = z.past.reverse ++ some p :: z.future
    rw [hentries, hindex]
    simp [Zipper.entries]
  · exact hindex

theorem zipper_back? (h : MemoryHistory) : h.back?.map zipper = h.zipper.back? := by
  generalize hz : h.zipper = z
  obtain ⟨hentries, hindex⟩ := zipper_eq_iff.1 hz
  obtain ⟨past, current, future⟩ := z
  unfold back?
  cases past with
  | nil =>
    -- at the first entry
    rw [if_neg (by simp [hindex])]
    rfl
  | cons a past =>
    rw [if_pos (by simp [hindex])]
    show some _ = some _
    rw [Option.some.injEq, zipper_eq_iff]
    constructor
    · show h.entries = past.reverse ++ a :: current :: future
      rw [hentries]
      simp [Zipper.entries]
    · show h.index - 1 = past.length
      simp [hindex]

theorem zipper_forward? (h : MemoryHistory) : h.forward?.map zipper = h.zipper.forward? := by
  generalize hz : h.zipper = z
  obtain ⟨hentries, hindex⟩ := zipper_eq_iff.1 hz
  obtain ⟨past, current, future⟩ := z
  have hlength : h.entries.length = past.length + 1 + future.length := by
    rw [hentries]
    simp [Zipper.entries]
    omega
  dsimp only at hindex
  unfold forward?
  cases future with
  | nil =>
    -- at the last entry
    rw [dif_neg (by simp only [List.length_nil] at hlength; omega)]
    rfl
  | cons a future =>
    rw [dif_pos (by simp only [List.length_cons] at hlength; omega)]
    show some _ = some _
    rw [Option.some.injEq, zipper_eq_iff]
    constructor
    · show h.entries = (current :: past).reverse ++ a :: future
      rw [hentries]
      simp [Zipper.entries]
    · show h.index + 1 = (current :: past).length
      rw [hindex, List.length_cons]

/-- Going back and then forward leads to where it began. -/
theorem back?_forward? (h : MemoryHistory) : h.back?.bind forward? = h.back?.map fun _ => h := by
  have hback := h.zipper_back?
  have hthere := h.zipper.back?_forward?
  cases hb : h.back? with
  | none => rfl
  | some there =>
    rw [hb, Option.map_some] at hback
    rw [← hback, Option.bind_some, Option.map_some, ← zipper_forward?] at hthere
    obtain ⟨again, hforward, hsame⟩ := Option.map_eq_some_iff.1 hthere
    rw [Option.bind_some, Option.map_some, hforward, zipper_injective hsame]

/-- And so does going forward and then back. -/
theorem forward?_back? (h : MemoryHistory) : h.forward?.bind back? = h.forward?.map fun _ => h := by
  have hforward := h.zipper_forward?
  have hthere := h.zipper.forward?_back?
  cases hf : h.forward? with
  | none => rfl
  | some there =>
    rw [hf, Option.map_some] at hforward
    rw [← hforward, Option.bind_some, Option.map_some, ← zipper_back?] at hthere
    obtain ⟨again, hback, hsame⟩ := Option.map_eq_some_iff.1 hthere
    rw [Option.bind_some, Option.map_some, hback, zipper_injective hsame]

/-- Nothing is ahead of an entry that has just been pushed. -/
theorem forward?_push (h : MemoryHistory) (p : Progress) : (h.push p).forward? = none := by
  have hforward := (h.push p).zipper_forward?
  rw [zipper_push] at hforward
  exact Option.map_eq_none_iff.1 hforward

/-- Behind it is the entry that was current. -/
theorem back?_push (h : MemoryHistory) (p : Progress) :
    ∃ there, (h.push p).back? = some there ∧ there.current = h.current ∧
      there.index = h.index ∧ there.entries = (h.push p).entries := by
  have hback := (h.push p).zipper_back?
  rw [zipper_push] at hback
  obtain ⟨there, hthere, hz⟩ := Option.map_eq_some_iff.1 hback
  obtain ⟨hentries, hindex⟩ := zipper_eq_iff.1 hz
  obtain ⟨hpushed, -⟩ := zipper_eq_iff.1 (zipper_push h p)
  obtain ⟨-, hplace⟩ := zipper_eq_iff.1 (rfl : h.zipper = h.zipper)
  refine ⟨there, hthere, congrArg Zipper.current hz, hindex.trans hplace.symm, ?_⟩
  rw [hentries, hpushed]
  simp [Zipper.entries, Zipper.push]

end MemoryHistory

/-! ## Section 3: Calls in a row -/

/-- A call of a history. -/
inductive HistoryCall where
  | push (p : Progress)
  | replace (p : Progress)
  | back
  | forward

/-- What comes of a call. -/
inductive HistoryReply where
  /-- Whether an entry was recorded. -/
  | recorded (result : Except HistoryError Unit)
  /-- The entry there, if there is one in that direction. -/
  | moved (entry : Option (Option Progress))

/-- The replies to calls in a row, and what the calls leave. -/
def HistoryCall.replies {A : Type} (reply : HistoryCall → A → HistoryReply × A) :
    List HistoryCall → A → List HistoryReply × A
  | [], a => ([], a)
  | c :: calls, a =>
    ((reply c a).1 :: (replies reply calls (reply c a).2).1, (replies reply calls (reply c a).2).2)

/-- A call of a history in memory. -/
def MemoryHistory.reply (c : HistoryCall) (h : MemoryHistory) : HistoryReply × MemoryHistory :=
  match c with
  | .push p => (.recorded (BrowserHistory.push h p).1, (BrowserHistory.push h p).2)
  | .replace p => (.recorded (BrowserHistory.replace h p).1, (BrowserHistory.replace h p).2)
  | .back =>
    match Travel.back? h with
    | none => (.moved none, h)
    | some (entry, there) => (.moved (some entry), there)
  | .forward =>
    match Travel.forward? h with
    | none => (.moved none, h)
    | some (entry, there) => (.moved (some entry), there)

/-- The same call of a zipper. -/
def Zipper.reply (c : HistoryCall) (z : Zipper (Option Progress)) :
    HistoryReply × Zipper (Option Progress) :=
  match c with
  | .push p => (.recorded (.ok ()), z.push (some p))
  | .replace p => (.recorded (.ok ()), z.replace (some p))
  | .back =>
    match z.back? with
    | none => (.moved none, z)
    | some there => (.moved (some there.current), there)
  | .forward =>
    match z.forward? with
    | none => (.moved none, z)
    | some there => (.moved (some there.current), there)

namespace MemoryHistory

/-- A call does to the zipper what it does to the history. -/
theorem reply_zipper (c : HistoryCall) (h : MemoryHistory) :
    h.zipper.reply c = ((h.reply c).1, (h.reply c).2.zipper) := by
  cases c with
  | push p =>
    show (_, h.zipper.push (some p)) = (_, (h.push p).zipper)
    rw [zipper_push]
    rfl
  | replace p =>
    show (_, h.zipper.replace (some p)) = (_, (h.replace p).zipper)
    rw [zipper_replace]
    rfl
  | back =>
    have hback := h.zipper_back?
    unfold Zipper.reply reply
    cases hb : h.back? with
    | none =>
      rw [hb, Option.map_none] at hback
      simp only [← hback, Travel.back?, hb, Option.map_none]
    | some there =>
      rw [hb, Option.map_some] at hback
      simp only [← hback, Travel.back?, hb, Option.map_some]
      rfl
  | forward =>
    have hforward := h.zipper_forward?
    unfold Zipper.reply reply
    cases hf : h.forward? with
    | none =>
      rw [hf, Option.map_none] at hforward
      simp only [← hforward, Travel.forward?, hf, Option.map_none]
    | some there =>
      rw [hf, Option.map_some] at hforward
      simp only [← hforward, Travel.forward?, hf, Option.map_some]
      rfl

theorem replies_zipper (calls : List HistoryCall) (h : MemoryHistory) :
    HistoryCall.replies Zipper.reply calls h.zipper =
      ((HistoryCall.replies reply calls h).1, (HistoryCall.replies reply calls h).2.zipper) := by
  induction calls generalizing h with
  | nil => rfl
  | cons c calls ih =>
    unfold HistoryCall.replies
    rw [reply_zipper]
    dsimp only
    rw [ih]

/-- **A history in memory is a zipper.** Any calls in a row from a fresh history are answered
    as by the zipper with one blank entry. Then the entries are those of the zipper, in order;
    the current entry is the zipper's, and it stands inside the entries. From there the way
    back and forward again, or forward and back again, leads to the same history; after a push
    there is nothing ahead, and the entry behind is the one that was current. -/
theorem answers_as_zipper (calls : List HistoryCall) :
    ∃ replies h z,
      HistoryCall.replies reply calls fresh = (replies, h) ∧
      HistoryCall.replies Zipper.reply calls ⟨[], none, []⟩ = (replies, z) ∧
      h.entries = z.past.reverse ++ z.current :: z.future ∧ h.current = z.current ∧
      h.index = z.past.length ∧ h.index < h.entries.length ∧
      h.back?.bind forward? = h.back?.map (fun _ => h) ∧
      h.forward?.bind back? = h.forward?.map (fun _ => h) ∧
      ∀ p, (h.push p).forward? = none ∧
        ∃ there, (h.push p).back? = some there ∧ there.current = h.current ∧
          there.index = h.index ∧ there.entries = (h.push p).entries := by
  have hz := replies_zipper calls fresh
  generalize HistoryCall.replies reply calls fresh = answered at hz
  obtain ⟨replies, h⟩ := answered
  obtain ⟨hentries, hindex⟩ := zipper_eq_iff.1 (rfl : h.zipper = h.zipper)
  exact ⟨replies, h, h.zipper, rfl, hz, hentries, rfl, hindex, h.index_lt, h.back?_forward?,
    h.forward?_back?, fun p => ⟨h.forward?_push p, h.back?_push p⟩⟩

end MemoryHistory

end Hyperfiction
