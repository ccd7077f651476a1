import Mathlib.Logic.Relation
import Mathlib.Order.Bounds.Defs
import Hyperfiction.Lint
import Hyperfiction.Proofs.Movement

/-! # What links lead to

    The linter works through a queue of ids and keeps those that it has reached. What it
    keeps in the end is what a finite chain of links leads to from the start, the header or
    the footer: nothing else gets into the queue, and whatever has been reached has its
    links in the queue or reached as well.

    Links may lead in circles, and an id may be queued many times. The work ends all the
    same: a turn takes an id from the queue, and the links of a passage are queued in one
    turn only. So the ids in the queue and the links of the passages that are not reached
    yet get fewer together with every turn.
-/

namespace Hyperfiction

namespace Lint

/-! ## Section 1: Chains of links -/

/-- A chain of links, which may be empty, leads to the passage with the id from a passage
    that play may begin with or always shows. -/
inductive Reachable (s : Story) : PassageId → Prop where
  | root {id : PassageId} : id ∈ roots s → Reachable s id
  | link {a b : PassageId} {p : Passage} :
      Reachable s a → s.passage? a = some p → b ∈ successors s p → Reachable s b

theorem mem_successors_iff {s : Story} {p : Passage} {id : PassageId} :
    id ∈ successors s p ↔
      ∃ link ∈ linksOf p, ∃ q, s.passageNamed? link.target = some q ∧ q.id = id := by
  simp [successors, List.mem_filterMap]

/-- Links are followed to passages of the story only. -/
theorem exists_passage_of_mem_successors {s : Story} {p : Passage} {id : PassageId}
    (h : id ∈ successors s p) : ∃ q, s.passage? id = some q := by
  obtain ⟨link, -, q, hq, rfl⟩ := mem_successors_iff.1 h
  exact ⟨q, Story.passage?_of_mem (Story.mem_of_passageNamed? hq)⟩

theorem exists_passage_of_mem_roots {s : Story} {id : PassageId} (h : id ∈ roots s) :
    ∃ q, s.passage? id = some q := by
  rcases List.mem_cons.1 h with rfl | h
  · exact Option.isSome_iff_exists.1 s.start_exists
  · obtain ⟨q, hq, rfl⟩ := List.mem_map.1 h
    refine ⟨q, Story.passage?_of_mem ?_⟩
    rcases List.mem_append.1 hq with hq | hq
    · exact Story.mem_of_passageNamed? (Option.mem_toList.1 hq)
    · exact Story.mem_of_passageNamed? (Option.mem_toList.1 hq)

/-! ## Section 2: Turns of the work -/

/-- How far the work has come: the ids that are reached, and those that are queued. -/
structure Work where
  reached : List PassageId
  queue : List PassageId

/-- One turn of the work: the first id leaves the queue. If it is new, it is reached now, and
    the links of its passage are queued; those that lead to what is reached may be left out. -/
inductive Turn (s : Story) : Work → Work → Prop where
  | again {id : PassageId} {reached queue : List PassageId} :
      id ∈ reached → Turn s ⟨reached, id :: queue⟩ ⟨reached, queue⟩
  /-- No passage has the id. -/
  | lost {id : PassageId} {reached queue : List PassageId} :
      id ∉ reached → s.passage? id = none → Turn s ⟨reached, id :: queue⟩ ⟨reached, queue⟩
  | reach {id : PassageId} {reached queue more : List PassageId} {p : Passage} :
      id ∉ reached → s.passage? id = some p → more.Sublist (successors s p) →
      (∀ b ∈ successors s p, b ∈ id :: reached ∨ b ∈ more) →
      Turn s ⟨reached, id :: queue⟩ ⟨id :: reached, queue ++ more⟩

/-- So many turns, one after the other. -/
inductive Turns (s : Story) : Nat → Work → Work → Prop where
  | none {w : Work} : Turns s 0 w w
  | more {n : Nat} {w₁ w₂ w₃ : Work} : Turn s w₁ w₂ → Turns s n w₂ w₃ → Turns s (n + 1) w₁ w₃

/-- The linter takes turns until the queue is empty. -/
theorem turns_closure (s : Story) (reached queue : List PassageId) :
    ∃ n, Turns s n ⟨reached, queue⟩ ⟨closure s reached queue, []⟩ := by
  fun_induction closure s reached queue with
  | case1 reached => exact ⟨0, .none⟩
  | case2 reached id queue hold ih =>
    obtain ⟨n, hrest⟩ := ih
    exact ⟨n + 1, .more (.again (List.contains_iff_mem.1 hold)) hrest⟩
  | case3 reached id queue hnew hmissing ih =>
    obtain ⟨n, hrest⟩ := ih
    have hnew' : id ∉ reached := fun h => hnew (List.contains_iff_mem.2 h)
    exact ⟨n + 1, .more (.lost hnew' hmissing) hrest⟩
  | case4 reached id queue hnew p hp ih =>
    obtain ⟨n, hrest⟩ := ih
    have hnew' : id ∉ reached := fun h => hnew (List.contains_iff_mem.2 h)
    -- here every link is queued
    have hturn : Turn s ⟨reached, id :: queue⟩ ⟨id :: reached, queue ++ successors s p⟩ :=
      .reach hnew' hp (List.Sublist.refl _) fun _ hb => .inr hb
    exact ⟨n + 1, .more hturn hrest⟩

/-- As long as an id is queued there is a next turn. -/
theorem exists_turn (s : Story) {w : Work} (h : w.queue ≠ []) : ∃ w', Turn s w w' := by
  obtain ⟨reached, queue⟩ := w
  cases queue with
  | nil => exact absurd rfl h
  | cons id queue =>
    by_cases hold : id ∈ reached
    · exact ⟨_, .again hold⟩
    · cases hp : s.passage? id with
      | none => exact ⟨_, .lost hold hp⟩
      | some p => exact ⟨_, .reach hold hp (List.Sublist.refl _) fun _ hb => .inr hb⟩

/-! ## Section 3: The work ends -/

/-- What is left to do: the ids in the queue, and the links of the passages that are not
    reached yet. -/
def Work.left (s : Story) (w : Work) : Nat :=
  w.queue.length + ((unreached s w.reached).map fun p => (successors s p).length).sum

theorem unreached_cons (s : Story) (reached : List PassageId) (id : PassageId) :
    unreached s (id :: reached) = (unreached s reached).filter fun p => p.id ≠ id := by
  unfold unreached
  rw [List.filter_filter]
  refine List.filter_congr fun p _ => ?_
  by_cases h : p.id = id <;> simp [h]

/-- Taking out some passages, among them `p`, takes out at least what `p` counts. -/
theorem sum_filter_add_le {p : Passage} {ps : List Passage} (hp : p ∈ ps) (keep : Passage → Bool)
    (hgone : keep p = false) (count : Passage → Nat) :
    ((ps.filter keep).map count).sum + count p ≤ (ps.map count).sum := by
  have hle : ∀ qs : List Passage, ((qs.filter keep).map count).sum ≤ (qs.map count).sum := by
    intro qs
    exact (List.filter_sublist.map count).sum_le_sum fun _ _ => Nat.zero_le _
  obtain ⟨before, after, rfl⟩ := List.append_of_mem hp
  have hbefore := hle before
  have hafter := hle after
  simp only [List.filter_append, List.filter_cons_of_neg (hgone ▸ Bool.false_ne_true),
    List.map_append, List.map_cons, List.sum_append, List.sum_cons]
  omega

/-- Every turn leaves less to do. -/
theorem Turn.left_lt {s : Story} {w w' : Work} (h : Turn s w w') : w'.left s < w.left s := by
  unfold Work.left
  cases h with
  | again => simp
  | lost => simp
  | @reach id reached queue more p hnew hp hmore =>
    have hid : p.id = id := Story.id_of_passage? hp
    have hmem : p ∈ unreached s reached := by
      unfold unreached
      rw [List.mem_filter]
      exact ⟨Story.mem_of_passage? hp, by simpa [hid] using hnew⟩
    -- the links of the passage are counted in the queue now, and no longer with the passages
    have hsum := sum_filter_add_le hmem (fun q => q.id ≠ id) (by simp [hid])
      fun q => (successors s q).length
    have hlength := hmore.length_le
    rw [unreached_cons]
    simp only [List.length_append, List.length_cons]
    omega

theorem Turns.add_left_le {s : Story} {n : Nat} {w w' : Work} (h : Turns s n w w') :
    n + w'.left s ≤ w.left s := by
  induction h with
  | none => omega
  | more hturn _ ih =>
    have hless := hturn.left_lt
    omega

/-! ## Section 4: What is reached -/

/-- The id is reached, or it will be. -/
def Work.Holds (w : Work) (id : PassageId) : Prop :=
  id ∈ w.reached ∨ id ∈ w.queue

/-- A turn lets go of no id of a passage. -/
theorem Turn.holds {s : Story} {w w' : Work} (h : Turn s w w') {id : PassageId}
    (hid : w.Holds id) (hfound : ∃ q, s.passage? id = some q) : w'.Holds id := by
  cases h with
  | again hold =>
    rcases hid with hid | hid
    · exact .inl hid
    · rcases List.mem_cons.1 hid with heq | hid
      · exact .inl (heq ▸ hold)
      · exact .inr hid
  | lost _ hmissing =>
    rcases hid with hid | hid
    · exact .inl hid
    · rcases List.mem_cons.1 hid with heq | hid
      · -- what is lost is the id of no passage
        obtain ⟨q, hq⟩ := hfound
        rw [heq, hmissing] at hq
        cases hq
      · exact .inr hid
  | reach =>
    rcases hid with hid | hid
    · exact .inl (List.mem_cons_of_mem _ hid)
    · rcases List.mem_cons.1 hid with heq | hid
      · exact .inl (heq ▸ List.mem_cons_self)
      · exact .inr (List.mem_append_left _ hid)

/-- The invariant of the work: all ids in it are reachable, none is reached twice, and it
    holds the roots and whatever the links of the passages that are reached lead to. -/
structure Work.OnCourse (s : Story) (w : Work) : Prop where
  reachable : ∀ id, w.Holds id → Reachable s id
  distinct : w.reached.Nodup
  roots : ∀ id ∈ roots s, w.Holds id
  links : ∀ a ∈ w.reached, ∀ p, s.passage? a = some p → ∀ b ∈ successors s p, w.Holds b

/-- Every turn keeps the work on course. -/
theorem Turn.onCourse {s : Story} {w w' : Work} (h : Turn s w w') (hw : w.OnCourse s) :
    w'.OnCourse s := by
  have hroots : ∀ id ∈ Lint.roots s, w'.Holds id := fun id hid =>
    h.holds (hw.roots id hid) (exists_passage_of_mem_roots hid)
  have hkept : ∀ a ∈ w.reached, ∀ p, s.passage? a = some p → ∀ b ∈ successors s p, w'.Holds b :=
    fun a ha p hp b hb => h.holds (hw.links a ha p hp b hb) (exists_passage_of_mem_successors hb)
  cases h with
  | again | lost =>
    -- an id less in the queue, and nothing else is new
    refine ⟨fun id hid => hw.reachable id ?_, hw.distinct, hroots, hkept⟩
    exact hid.imp_right (List.mem_cons_of_mem _)
  | @reach id reached queue more p hnew hp hmore hall =>
    have hreachable : Reachable s id := hw.reachable id (.inr List.mem_cons_self)
    refine ⟨?_, List.nodup_cons.2 ⟨hnew, hw.distinct⟩, hroots, ?_⟩
    · intro a ha
      rcases ha with ha | ha
      · rcases List.mem_cons.1 ha with heq | ha
        · exact heq ▸ hreachable
        · exact hw.reachable a (.inl ha)
      · rcases List.mem_append.1 ha with ha | ha
        · exact hw.reachable a (.inr (List.mem_cons_of_mem _ ha))
        · exact hreachable.link hp (hmore.subset ha)
    · intro a ha q hq b hb
      rcases List.mem_cons.1 ha with heq | ha
      · -- the links of the passage that is reached now are queued, or were reached before
        rw [heq, hp] at hq
        obtain rfl := Option.some.inj hq
        exact (hall b hb).imp_right (List.mem_append_right _)
      · exact hkept a ha q hq b hb

theorem Turns.onCourse {s : Story} {n : Nat} {w w' : Work} (h : Turns s n w w')
    (hw : w.OnCourse s) : w'.OnCourse s := by
  induction h with
  | none => exact hw
  | more hturn _ ih => exact ih (hturn.onCourse hw)

/-- With nothing left in the queue exactly the reachable ids are reached. -/
theorem Work.OnCourse.mem_reached_iff {s : Story} {w : Work} (hw : w.OnCourse s)
    (hdone : w.queue = []) {id : PassageId} : id ∈ w.reached ↔ Reachable s id := by
  have hholds : ∀ a, w.Holds a → a ∈ w.reached := by
    intro a ha
    unfold Work.Holds at ha
    simpa [hdone] using ha
  constructor
  · intro h
    exact hw.reachable id (.inl h)
  · intro h
    induction h with
    | root hroot => exact hholds _ (hw.roots _ hroot)
    | link _ hp hb ih => exact hholds _ (hw.links _ ih _ hp _ hb)

/-- The work before its first turn: the roots are queued. -/
def Work.start (s : Story) : Work where
  reached := []
  queue := roots s

theorem Work.onCourse_start (s : Story) : (Work.start s).OnCourse s where
  reachable id hid := by
    rcases hid with hid | hid
    · cases hid
    · exact .root hid
  distinct := List.nodup_nil
  roots id hid := .inr hid
  links a ha := by cases ha

/-- The linter begins there and ends with what it calls reachable. -/
theorem exists_turns_reachable (s : Story) :
    ∃ n, Turns s n (Work.start s) ⟨reachable s, []⟩ :=
  turns_closure s [] (roots s)

/-- The linter reaches exactly what chains of links lead to. -/
theorem mem_reachable_iff {s : Story} {id : PassageId} : id ∈ reachable s ↔ Reachable s id := by
  obtain ⟨n, hturns⟩ := exists_turns_reachable s
  exact (hturns.onCourse (Work.onCourse_start s)).mem_reached_iff rfl

/-! ## Section 5: The least closed set -/

end Lint

/-- Play begins with the passage that has this id, or always shows it: it is the start, the
    header or the footer. -/
def Story.IsRoot (s : Story) (id : PassageId) : Prop :=
  ∃ p, p.id = id ∧ (s.passage? s.start = some p ∨ s.passageNamed? headerName = some p ∨
    s.passageNamed? footerName = some p)

/-- In the text of the one passage there is a link to the other one. -/
def Story.LeadsTo (s : Story) (a b : PassageId) : Prop :=
  ∃ p q, s.passage? a = some p ∧ q.id = b ∧ ∃ link ∈ Link.extract (Entity.unescape p.source),
    link.isInternal = true ∧ s.passageNamed? link.target = some q

namespace Lint

theorem mem_roots_iff {s : Story} {id : PassageId} : id ∈ roots s ↔ s.IsRoot id := by
  have hstart : id = s.start ↔ ∃ p, p.id = id ∧ s.passage? s.start = some p := by
    constructor
    · intro h
      obtain ⟨p, hp⟩ := Option.isSome_iff_exists.1 s.start_exists
      exact ⟨p, (Story.id_of_passage? hp).trans h.symm, hp⟩
    · rintro ⟨p, hid, hp⟩
      exact hid.symm.trans (Story.id_of_passage? hp)
  unfold roots Story.IsRoot Story.header? Story.footer?
  rw [List.mem_cons, hstart]
  simp only [List.mem_map, List.mem_append, Option.mem_toList, and_or_left, exists_or,
    and_comm]

theorem leadsTo_iff {s : Story} {a b : PassageId} :
    s.LeadsTo a b ↔ ∃ p, s.passage? a = some p ∧ b ∈ successors s p := by
  unfold Story.LeadsTo
  simp only [mem_successors_iff, linksOf, List.mem_filter, Passage.text]
  constructor
  · rintro ⟨p, q, hp, hid, link, hlink, hinternal, hq⟩
    exact ⟨p, hp, link, ⟨hlink, hinternal⟩, q, hq, hid⟩
  · rintro ⟨p, hp, link, ⟨hlink, hinternal⟩, q, hq, hid⟩
    exact ⟨p, q, hp, hid, link, hlink, hinternal, hq⟩

theorem reachable_iff_chain {s : Story} {id : PassageId} :
    Reachable s id ↔ ∃ root, s.IsRoot root ∧ Relation.ReflTransGen s.LeadsTo root id := by
  constructor
  · intro h
    induction h with
    | root hroot => exact ⟨_, mem_roots_iff.1 hroot, .refl⟩
    | link _ hp hb ih =>
      obtain ⟨root, hroot, hchain⟩ := ih
      exact ⟨root, hroot, hchain.tail (leadsTo_iff.2 ⟨_, hp, hb⟩)⟩
  · rintro ⟨root, hroot, hchain⟩
    induction hchain with
    | refl => exact .root (mem_roots_iff.2 hroot)
    | tail _ hlink ih =>
      obtain ⟨p, hp, hb⟩ := leadsTo_iff.1 hlink
      exact ih.link hp hb

/-- There is one turn for each root and at most one for each link. -/
theorem left_start_le (s : Story) : (Work.start s).left s ≤
    3 + (s.passages.toList.map fun p => (Link.extract (Entity.unescape p.source)).length).sum := by
  have hroots : (roots s).length ≤ 3 := by
    have hheader : s.header?.toList.length ≤ 1 := Option.length_toList_le
    have hfooter : s.footer?.toList.length ≤ 1 := Option.length_toList_le
    simp only [roots, List.length_cons, List.length_map, List.length_append]
    omega
  have hall : unreached s [] = s.passages.toList := by
    simp [unreached]
  have hlinks : ∀ p : Passage,
      (successors s p).length ≤ (Link.extract (Entity.unescape p.source)).length := by
    intro p
    exact (List.length_filterMap_le _ _).trans (List.length_filter_le _ _)
  have hsum : (s.passages.toList.map fun p => (successors s p).length).sum ≤
      (s.passages.toList.map fun p => (Link.extract (Entity.unescape p.source)).length).sum :=
    List.sum_le_sum fun p _ => hlinks p
  unfold Work.left Work.start
  rw [hall]
  exact Nat.add_le_add hroots hsum

/-- **What the linter reaches is the exact closure.** The work ends, with nothing in the queue
    and each id reached once: however the turns go, there are at most three and one for each
    link, and as long as an id is queued there is a next one. What is reached then is the least
    set of ids that contains the start, the header and the footer, and with every passage the
    passages that its links lead to; that is, the ids to which some finite chain of links leads
    from one of the three. -/
theorem reachable_is_least_closed (s : Story) :
    (∃ n, Turns s n (Work.start s) ⟨reachable s, []⟩) ∧
    (∀ n w, Turns s n (Work.start s) w →
      n ≤ 3 +
        (s.passages.toList.map fun p => (Link.extract (Entity.unescape p.source)).length).sum ∧
      ((∃ w', Turn s w w') ∨ (w.queue = [] ∧ ∀ id, id ∈ w.reached ↔ id ∈ reachable s))) ∧
    (reachable s).Nodup ∧
    IsLeast {ids : Set PassageId | (∀ id, s.IsRoot id → id ∈ ids) ∧
      ∀ a b, a ∈ ids → s.LeadsTo a b → b ∈ ids} {id | id ∈ reachable s} ∧
    ∀ id, id ∈ reachable s ↔ ∃ root, s.IsRoot root ∧ Relation.ReflTransGen s.LeadsTo root id := by
  obtain ⟨n, hturns⟩ := exists_turns_reachable s
  have hchain : ∀ id, id ∈ reachable s ↔
      ∃ root, s.IsRoot root ∧ Relation.ReflTransGen s.LeadsTo root id := by
    intro id
    rw [mem_reachable_iff, reachable_iff_chain]
  refine ⟨⟨n, hturns⟩, ?_, (hturns.onCourse (Work.onCourse_start s)).distinct, ⟨?_, ?_⟩, hchain⟩
  · intro k w hw
    have hleft := hw.add_left_le
    have hstart := left_start_le s
    refine ⟨by omega, ?_⟩
    by_cases hdone : w.queue = []
    · right
      refine ⟨hdone, fun id => ?_⟩
      rw [(hw.onCourse (Work.onCourse_start s)).mem_reached_iff hdone, mem_reachable_iff]
    · exact .inl (exists_turn s hdone)
  · -- the set is closed: a chain may be empty, and may go on by one more link
    constructor
    · intro id hroot
      exact (hchain id).2 ⟨id, hroot, .refl⟩
    · intro a b ha hlink
      obtain ⟨root, hroot, hto⟩ := (hchain a).1 ha
      exact (hchain b).2 ⟨root, hroot, hto.tail hlink⟩
  · -- and every closed set contains it: by induction on the chain
    intro ids hids id hid
    obtain ⟨root, hroot, hto⟩ := (hchain id).1 hid
    induction hto with
    | refl => exact hids.1 root hroot
    | tail hto hlink ih => exact hids.2 _ _ (ih ((hchain _).2 ⟨root, hroot, hto⟩)) hlink

end Lint

end Hyperfiction
