import Mathlib
import Hyperfiction.Draft
import Hyperfiction.Proofs.Table

/-! # Building stories

    Building a story puts the passages of a draft into the two tables of an index, one
    after the other, and stops at the first thing that is wrong with the draft.
    `FirstRepeat` names the passage at which the index has to stop, `Draft.IsSound` and
    `Draft.IsRefused` say what is right and what is wrong with a draft, and `Story.Indexes`
    says what a built story finds: the passages of the draft, each by its id and by its
    name, and no others.

    The invariant of the one loop is that the two tables agree and hold the passages that
    went into them, in another order. It carries both directions: as long as nothing repeats
    the next passage is new to either table, and what repeats the id or the name of a passage
    before it is found in the table of the ids or of the names.
-/

namespace Hyperfiction

/-! ## Section 1: Configuration texts -/

namespace Config

/-- A text that configures a story: a document in TOML in which each of the two keys that
    the engine reads has a value of its type, if it is there. -/
def IsDocument (text : String) : Prop :=
  ∃ table, Toml.parse? text = some table ∧
    (∀ v, Table.get? darkThemeKey table = some v → ∃ dark, v = .bool dark) ∧
    (∀ v, Table.get? stylesheetsKey table = some v →
      ∃ sheets : List String, v = .arr (sheets.map .str))

theorem mapM_text?_eq_some_iff {items : List Value} {sheets : List String} :
    items.mapM text? = some sheets ↔ items = sheets.map .str := by
  induction items generalizing sheets with
  | nil => cases sheets <;> simp
  | cons v items ih =>
    cases v with
    | str s =>
      -- the first item is a text, and the others decide
      have hcons : (Value.str s :: items).mapM text? = (items.mapM text?).map (s :: ·) := by
        cases hrest : items.mapM text? <;> simp [List.mapM_cons, text?, hrest]
      rw [hcons, Option.map_eq_some_iff]
      cases sheets with
      | nil => simp
      | cons sheet sheets => simp [ih, and_comm]
    | _ => cases sheets <;> simp [List.mapM_cons, text?]

/-- The overrides are the table, with the two keys that the engine reads apart. -/
structure Overrides.Of (table : Fields Value) (o : Overrides) : Prop where
  darkTheme : Table.get? darkThemeKey table = o.darkTheme.map .bool
  stylesheets : Table.get? stylesheetsKey table
    = o.stylesheets.map fun sheets => .arr (sheets.map .str)
  extra : o.extra = Table.erase stylesheetsKey (Table.erase darkThemeKey table)

/-- With a right value of the one key, or none, the other key decides. -/
theorem of_ofTable_of_dark {table : Fields Value} {o : Overrides} (dark : Option Bool)
    (hdark : Table.get? darkThemeKey table = dark.map .bool)
    (h : Overrides.ofTable table = .ok o) : o.Of table := by
  unfold Overrides.ofTable at h
  rw [hdark] at h
  cases hsheets : Table.get? stylesheetsKey table with
  | none =>
    have ho : o = ⟨dark, none, Table.erase stylesheetsKey (Table.erase darkThemeKey table)⟩ := by
      rw [hsheets] at h
      cases dark <;> exact (Except.ok.inj h).symm
    subst ho
    exact ⟨hdark, hsheets, rfl⟩
  | some v =>
    cases v with
    | arr items =>
      cases hitems : items.mapM text? with
      | none =>
        -- an item that is no text is refused
        simp only [hsheets, hitems] at h
        cases dark <;> cases h
      | some sheets =>
        have ho : o = ⟨dark, some sheets,
            Table.erase stylesheetsKey (Table.erase darkThemeKey table)⟩ := by
          simp only [hsheets, hitems] at h
          cases dark <;> exact (Except.ok.inj h).symm
        subst ho
        rw [mapM_text?_eq_some_iff.1 hitems] at hsheets
        exact ⟨hdark, hsheets, rfl⟩
    | _ =>
      simp only [hsheets] at h
      cases dark <;> cases h

theorem ofTable_eq_ok_iff {table : Fields Value} {o : Overrides} :
    Overrides.ofTable table = .ok o ↔ o.Of table := by
  constructor
  · intro h
    cases hdark : Table.get? darkThemeKey table with
    | none => exact of_ofTable_of_dark none hdark h
    | some v =>
      cases v with
      | bool b => exact of_ofTable_of_dark (some b) hdark h
      | _ =>
        -- any other value is refused before the other key is looked at
        unfold Overrides.ofTable at h
        rw [hdark] at h
        cases h
  · intro h
    obtain ⟨dark, sheets, extra⟩ := o
    obtain ⟨hdark, hsheets, hextra⟩ := h
    dsimp only at hdark hsheets hextra
    unfold Overrides.ofTable
    rw [hdark, hsheets, hextra]
    cases sheets with
    | none => cases dark <;> rfl
    | some sheets =>
      have hitems : (sheets.map Value.str).mapM text? = some sheets :=
        mapM_text?_eq_some_iff.2 rfl
      simp only [Option.map_some, hitems]
      cases dark <;> rfl

/-- Nothing but the types of the two keys decides whether a table overrides a configuration. -/
theorem ofTable_isOk_iff {table : Fields Value} :
    (∃ o, Overrides.ofTable table = .ok o) ↔
      (∀ v, Table.get? darkThemeKey table = some v → ∃ dark, v = .bool dark) ∧
      (∀ v, Table.get? stylesheetsKey table = some v →
        ∃ sheets : List String, v = .arr (sheets.map .str)) := by
  simp only [ofTable_eq_ok_iff]
  constructor
  · rintro ⟨o, h⟩
    constructor
    · intro v hv
      rw [h.darkTheme] at hv
      obtain ⟨dark, -, hdark⟩ := Option.map_eq_some_iff.1 hv
      exact ⟨dark, hdark.symm⟩
    · intro v hv
      rw [h.stylesheets] at hv
      obtain ⟨sheets, -, hsheets⟩ := Option.map_eq_some_iff.1 hv
      exact ⟨sheets, hsheets.symm⟩
  · rintro ⟨hdark, hsheets⟩
    have hdark' : ∃ dark : Option Bool, Table.get? darkThemeKey table = dark.map .bool := by
      cases hget : Table.get? darkThemeKey table with
      | none => exact ⟨none, rfl⟩
      | some v =>
        obtain ⟨dark, rfl⟩ := hdark v hget
        exact ⟨some dark, rfl⟩
    have hsheets' : ∃ sheets : Option (List String), Table.get? stylesheetsKey table
        = sheets.map fun sheets => .arr (sheets.map .str) := by
      cases hget : Table.get? stylesheetsKey table with
      | none => exact ⟨none, rfl⟩
      | some v =>
        obtain ⟨sheets, rfl⟩ := hsheets v hget
        exact ⟨some sheets, rfl⟩
    obtain ⟨dark, hdark⟩ := hdark'
    obtain ⟨sheets, hsheets⟩ := hsheets'
    exact ⟨⟨dark, sheets, _⟩, hdark, hsheets, rfl⟩

theorem parse_isOk_iff {text : String} :
    (∃ o, Overrides.parse text = .ok o) ↔ IsDocument text := by
  unfold Overrides.parse IsDocument
  cases Toml.parse? text with
  | none => simp
  | some table => simp [ofTable_isOk_iff]

/-- A document is laid over any configuration, and nothing else is. -/
theorem merge_isOk_iff {c : Config} {text : String} :
    (c.merge text).1 = .ok () ↔ IsDocument text := by
  rw [merge_eq, ← parse_isOk_iff]
  cases Overrides.parse text <;> simp

theorem ofToml_isOk_iff {text : String} : (∃ c, ofToml text = .ok c) ↔ IsDocument text := by
  unfold ofToml
  rw [merge_eq, ← parse_isOk_iff]
  cases Overrides.parse text <;> simp

end Config

/-! ## Section 2: Repeats -/

/-- No id and no name is there twice. -/
structure NoRepeats (ps : List Passage) : Prop where
  ids : (ps.map Passage.id).Nodup
  names : (ps.map Passage.name).Nodup

/-- The first passage that repeats an id or a name of the passages before it, as an error:
    its id if that is repeated, else its name. -/
inductive FirstRepeat (ps : List Passage) : StoryError → Prop where
  | id {before after : List Passage} {p : Passage} : ps = before ++ p :: after →
      NoRepeats before → p.id ∈ before.map Passage.id → FirstRepeat ps (.duplicateId p.id)
  | name {before after : List Passage} {p : Passage} : ps = before ++ p :: after →
      NoRepeats before → p.id ∉ before.map Passage.id → p.name ∈ before.map Passage.name →
      FirstRepeat ps (.duplicateName p.name)

theorem NoRepeats.nil : NoRepeats [] :=
  ⟨List.nodup_nil, List.nodup_nil⟩

theorem NoRepeats.perm {ps qs : List Passage} (h : NoRepeats ps) (hp : ps.Perm qs) :
    NoRepeats qs :=
  ⟨(hp.map Passage.id).nodup_iff.1 h.ids, (hp.map Passage.name).nodup_iff.1 h.names⟩

theorem noRepeats_concat {ps : List Passage} {p : Passage} :
    NoRepeats (ps ++ [p]) ↔
      NoRepeats ps ∧ p.id ∉ ps.map Passage.id ∧ p.name ∉ ps.map Passage.name := by
  have hids : ((ps ++ [p]).map Passage.id).Nodup ↔
      (ps.map Passage.id).Nodup ∧ p.id ∉ ps.map Passage.id := by
    rw [List.map_append, List.map_singleton, ← List.concat_eq_append, List.nodup_concat, and_comm]
  have hnames : ((ps ++ [p]).map Passage.name).Nodup ↔
      (ps.map Passage.name).Nodup ∧ p.name ∉ ps.map Passage.name := by
    rw [List.map_append, List.map_singleton, ← List.concat_eq_append, List.nodup_concat, and_comm]
  constructor
  · intro h
    obtain ⟨hid, hidNew⟩ := hids.1 h.ids
    obtain ⟨hname, hnameNew⟩ := hnames.1 h.names
    exact ⟨⟨hid, hname⟩, hidNew, hnameNew⟩
  · rintro ⟨h, hidNew, hnameNew⟩
    exact ⟨hids.2 ⟨h.ids, hidNew⟩, hnames.2 ⟨h.names, hnameNew⟩⟩

theorem NoRepeats.of_append {ps qs : List Passage} (h : NoRepeats (ps ++ qs)) : NoRepeats ps := by
  obtain ⟨hids, hnames⟩ := h
  rw [List.map_append] at hids hnames
  exact ⟨hids.of_append_left, hnames.of_append_left⟩

/-- What comes later does not matter to the first repeat. -/
theorem FirstRepeat.append {ps : List Passage} {err : StoryError} (h : FirstRepeat ps err)
    (more : List Passage) : FirstRepeat (ps ++ more) err := by
  cases h with
  | @id before after p hps hbefore hid =>
    have hmore : ps ++ more = before ++ p :: (after ++ more) := by simp [hps]
    exact .id hmore hbefore hid
  | @name before after p hps hbefore hid hname =>
    have hmore : ps ++ more = before ++ p :: (after ++ more) := by simp [hps]
    exact .name hmore hbefore hid hname

/-- Where something repeats, something repeats first. -/
theorem exists_firstRepeat {ps : List Passage} (h : ¬ NoRepeats ps) :
    ∃ err, FirstRepeat ps err := by
  induction ps using List.reverseRecOn with
  | nil => exact absurd .nil h
  | append_singleton ps p ih =>
    by_cases hps : NoRepeats ps
    · -- nothing repeats before the last passage, so it is the last one that does
      by_cases hid : p.id ∈ ps.map Passage.id
      · exact ⟨_, .id rfl hps hid⟩
      · by_cases hname : p.name ∈ ps.map Passage.name
        · exact ⟨_, .name rfl hps hid hname⟩
        · exact absurd (noRepeats_concat.2 ⟨hps, hid, hname⟩) h
    · obtain ⟨err, herr⟩ := ih hps
      exact ⟨err, herr.append [p]⟩

/-! ## Section 3: The index -/

namespace PassageIndex

/-- A new passage comes to the others. -/
theorem perm_insert {ix : PassageIndex} {p : Passage} (h : Table.get? p.id ix.byId = none) :
    (ix.insert p).toList.Perm (ix.toList ++ [p]) :=
  ((Table.perm_insert h p).map Prod.snd).trans (List.perm_append_singleton p _).symm

namespace Agrees

variable {ix : PassageIndex} (h : ix.Agrees)
include h

theorem contains_byId_iff {id : PassageId} :
    Table.contains id ix.byId = true ↔ id ∈ ix.toList.map Passage.id := by
  rw [Table.contains, Option.isSome_iff_exists, List.mem_map]
  exact exists_congr fun _ => h.byId?_eq_some_iff

/-- A name is in its table exactly if a passage in the other table has it. -/
theorem contains_byName_iff {name : String} :
    Table.contains name ix.byName = true ↔ name ∈ ix.toList.map Passage.name := by
  rw [Table.contains, Option.isSome_iff_exists, List.mem_map]
  constructor
  · rintro ⟨id, hid⟩
    obtain ⟨p, hp, hname⟩ := (h.named name id).1 hid
    exact ⟨p, mem_of_byId? hp, hname⟩
  · rintro ⟨p, hp, hname⟩
    exact ⟨p.id, (h.named name p.id).2 ⟨p, h.byId?_eq_some_iff.2 ⟨hp, rfl⟩, hname⟩⟩

theorem insertAll_id {p : Passage} (hid : p.id ∈ ix.toList.map Passage.id)
    (rest : List Passage) : ix.insertAll (p :: rest) = .error (.duplicateId p.id) := by
  rw [PassageIndex.insertAll, if_pos (h.contains_byId_iff.2 hid)]

theorem insertAll_name {p : Passage} (hid : p.id ∉ ix.toList.map Passage.id)
    (hname : p.name ∈ ix.toList.map Passage.name) (rest : List Passage) :
    ix.insertAll (p :: rest) = .error (.duplicateName p.name) := by
  rw [PassageIndex.insertAll, if_neg (mt h.contains_byId_iff.1 hid),
    if_pos (h.contains_byName_iff.2 hname)]

/-- One round of the loop: a passage that repeats nothing goes into both tables, which still
    agree. -/
theorem insertAll_new {p : Passage} (hid : p.id ∉ ix.toList.map Passage.id)
    (hname : p.name ∉ ix.toList.map Passage.name) :
    (ix.insert p).Agrees ∧ (ix.insert p).toList.Perm (ix.toList ++ [p]) ∧
      ∀ rest, ix.insertAll (p :: rest) = (ix.insert p).insertAll rest := by
  have hidNew := mt h.contains_byId_iff.1 hid
  have hnameNew := mt h.contains_byName_iff.1 hname
  have hidNone := Option.not_isSome_iff_eq_none.1 hidNew
  refine ⟨h.insert hidNone (Option.not_isSome_iff_eq_none.1 hnameNew), perm_insert hidNone, ?_⟩
  intro rest
  rw [PassageIndex.insertAll, if_neg hidNew, if_neg hnameNew]

/-- All rounds of the loop: as long as nothing repeats, all passages go into the index. -/
theorem insertAll_distinct {ps : List Passage} (hps : NoRepeats (ix.toList ++ ps))
    (rest : List Passage) : ∃ ix' : PassageIndex, ix'.Agrees ∧
      ix'.toList.Perm (ix.toList ++ ps) ∧ ix.insertAll (ps ++ rest) = ix'.insertAll rest := by
  induction ps generalizing ix with
  | nil => exact ⟨ix, h, by simp, rfl⟩
  | cons p ps ih =>
    have hsplit : ix.toList ++ p :: ps = (ix.toList ++ [p]) ++ ps := by simp
    rw [hsplit] at hps
    obtain ⟨-, hid, hname⟩ := noRepeats_concat.1 hps.of_append
    obtain ⟨hnext, hperm, hinsert⟩ := h.insertAll_new hid hname
    -- the index with the new passage holds the same passages as the list does
    obtain ⟨ix', hix', hperm', hrest⟩ := ih hnext (hps.perm (hperm.symm.append_right ps))
    refine ⟨ix', hix', ?_, ?_⟩
    · rw [hsplit]
      exact hperm'.trans (hperm.append_right ps)
    · exact (hinsert (ps ++ rest)).trans hrest

end Agrees

theorem insertAll_empty_ok {ps : List Passage} (h : NoRepeats ps) :
    ∃ ix : PassageIndex, ix.Agrees ∧ ix.toList.Perm ps ∧ empty.insertAll ps = .ok ix := by
  obtain ⟨ix, hagrees, hperm, hix⟩ := agrees_empty.insertAll_distinct h []
  rw [List.append_nil] at hix
  exact ⟨ix, hagrees, hperm, hix⟩

/-- The index stops at the first repeat. -/
theorem insertAll_firstRepeat {ps : List Passage} {err : StoryError} (h : FirstRepeat ps err) :
    empty.insertAll ps = .error err := by
  cases h with
  | @id before after p hps hbefore hid =>
    obtain ⟨ix, hagrees, hperm, hix⟩ := agrees_empty.insertAll_distinct hbefore (p :: after)
    rw [hps, hix]
    exact hagrees.insertAll_id ((hperm.map Passage.id).mem_iff.2 hid) after
  | @name before after p hps hbefore hid hname =>
    obtain ⟨ix, hagrees, hperm, hix⟩ := agrees_empty.insertAll_distinct hbefore (p :: after)
    rw [hps, hix]
    have hid' : p.id ∉ ix.toList.map Passage.id := mt (hperm.map Passage.id).mem_iff.1 hid
    exact hagrees.insertAll_name hid' ((hperm.map Passage.name).mem_iff.2 hname) after

end PassageIndex

/-! ## Section 4: Drafts -/

/-- A draft with nothing wrong: it sets a start passage that it has, no id and no name is
    there twice, and the text of its configuration passage, if there is one, configures a
    story. -/
structure Draft.IsSound (d : Draft) : Prop where
  start : ∃ id, d.start = some id ∧ id ∈ d.passages.map Passage.id
  noRepeats : NoRepeats d.passages
  config : ∀ p ∈ d.passages, p.name = configName → Config.IsDocument p.text

/-- The first thing that is wrong with a draft, as an error. -/
inductive Draft.IsRefused (d : Draft) : StoryError → Prop where
  | noStart : d.start = none → IsRefused d .noStart
  | repeats {id : PassageId} {err : StoryError} : d.start = some id →
      FirstRepeat d.passages err → IsRefused d err
  | missingStart {id : PassageId} : d.start = some id → NoRepeats d.passages →
      id ∉ d.passages.map Passage.id → IsRefused d (.missingStart id)
  | config {id : PassageId} {p : Passage} {err : ConfigError} : d.start = some id →
      NoRepeats d.passages → id ∈ d.passages.map Passage.id → p ∈ d.passages →
      p.name = configName → Config.ofToml p.text = .error err → IsRefused d (.config err)

/-- The story finds the passages of the draft and no others, and tells what the draft tells. -/
structure Story.Indexes (s : Story) (d : Draft) : Prop where
  listed : s.passages.toList.Perm d.passages
  increasing : s.passages.toList.Pairwise fun p q => p.id < q.id
  byId : ∀ id p, s.passage? id = some p ↔ p ∈ d.passages ∧ p.id = id
  byName : ∀ name p, s.passageNamed? name = some p ↔ p ∈ d.passages ∧ p.name = name
  /-- The table of names leads to the ids of the passages, each from the passage's own name. -/
  paired : ∀ name id, Table.get? name s.passages.byName = some id ↔
    ∃ p, s.passage? id = some p ∧ p.name = name
  /-- A query is answered exactly if a passage has the id or the name. -/
  answered : ∀ query, (s.resolve query).isSome ↔
    ∃ p ∈ d.passages, query = .id p.id ∨ query = .name p.name
  header : ∀ p, s.header? = some p ↔ p ∈ d.passages ∧ p.name = "HEADER"
  footer : ∀ p, s.footer? = some p ↔ p ∈ d.passages ∧ p.name = "FOOTER"
  start : d.start = some s.start
  name : s.name = d.name
  ifid : s.ifid = d.ifid
  creator : s.creator = d.creator
  creatorVersion : s.creatorVersion = d.creatorVersion
  /-- The configuration is that of the configuration passage, laid over the defaults. -/
  config : (∃ p ∈ d.passages, p.name = configName ∧ Config.ofToml p.text = .ok s.config) ∨
    ((∀ p ∈ d.passages, p.name ≠ configName) ∧ s.config = {})

/-- The edition is that of the draft: its story finds the passages, under a name stands the
    helper that the draft gives it last, or else that of every story, and choices are drawn
    from the seed. -/
structure Edition.IsOf (ed : Edition) (d : Draft) : Prop where
  story : ed.story.Indexes d
  helpers : ∀ name h, Table.get? name ed.helpers = some h ↔
    Table.LastHas d.helpers name h ∨
      (name ∉ d.helpers.map Prod.fst ∧ Table.get? name HelperSet.builtins = some h)
  generator : ed.generator = .ofSeed d.seed

namespace Draft

/-- A configuration passage that can be read gives the configuration. -/
theorem readConfig_of_mem {ix : PassageIndex} (h : ix.Agrees) {p : Passage} (hp : p ∈ ix.toList)
    (hname : p.name = configName) :
    readConfig ix = match Config.ofToml p.text with
      | .error err => .error (.config err)
      | .ok c => .ok c := by
  have hfound : ix.byName? configName = some p := h.byName?_eq_some_iff.2 ⟨hp, hname⟩
  cases hread : Config.ofToml p.text <;> simp [readConfig, hfound, hread]

theorem readConfig_of_none {ix : PassageIndex} (h : ix.Agrees)
    (hnone : ∀ p ∈ ix.toList, p.name ≠ configName) : readConfig ix = .ok {} := by
  have hmissing : ix.byName? configName = none := by
    rw [Option.eq_none_iff_forall_ne_some]
    intro p hp
    obtain ⟨hmem, hname⟩ := h.byName?_eq_some_iff.1 hp
    exact hnone p hmem hname
  unfold readConfig
  rw [hmissing]

/-- A story over the passages of a draft finds those passages. -/
theorem indexes_of_perm {d : Draft} {s : Story} (hperm : s.passages.toList.Perm d.passages)
    (hstart : d.start = some s.start) (hname : s.name = d.name) (hifid : s.ifid = d.ifid)
    (hcreator : s.creator = d.creator) (hversion : s.creatorVersion = d.creatorVersion)
    (hconfig : Draft.readConfig s.passages = .ok s.config) : s.Indexes d := by
  have hmem : ∀ p, p ∈ s.passages.toList ↔ p ∈ d.passages := fun p => hperm.mem_iff
  have hbyId : ∀ id p, s.passage? id = some p ↔ p ∈ d.passages ∧ p.id = id := by
    intro id p
    rw [← hmem p]
    exact Story.passage?_eq_some_iff
  have hbyName : ∀ name p, s.passageNamed? name = some p ↔ p ∈ d.passages ∧ p.name = name := by
    intro name p
    rw [← hmem p]
    exact Story.passageNamed?_eq_some_iff
  refine ⟨hperm, s.passages_agree.increasing, hbyId, hbyName, s.passages_agree.named, ?_,
    hbyName headerName, hbyName footerName, hstart, hname, hifid, hcreator, hversion, ?_⟩
  · intro query
    rw [Option.isSome_iff_exists]
    cases query with
    | id id =>
      show (∃ p, s.passage? id = some p) ↔ _
      simp only [hbyId, Query.id.injEq, reduceCtorEq, or_false, eq_comm]
    | name name =>
      show (∃ p, s.passageNamed? name = some p) ↔ _
      simp only [hbyName, Query.name.injEq, reduceCtorEq, false_or, eq_comm]
  · by_cases hnone : ∀ p ∈ d.passages, p.name ≠ configName
    · have hempty : Draft.readConfig s.passages = .ok {} :=
        readConfig_of_none s.passages_agree fun p hp => hnone p ((hmem p).1 hp)
      rw [hempty] at hconfig
      exact .inr ⟨hnone, (Except.ok.inj hconfig).symm⟩
    · push Not at hnone
      obtain ⟨p, hp, hpname⟩ := hnone
      rw [readConfig_of_mem s.passages_agree ((hmem p).2 hp) hpname] at hconfig
      cases hread : Config.ofToml p.text with
      | error err =>
        rw [hread] at hconfig
        cases hconfig
      | ok c =>
        rw [hread] at hconfig
        obtain rfl := Except.ok.inj hconfig
        exact .inl ⟨p, hp, hpname, hread⟩

/-- The helpers of a draft stand over those of every story. -/
theorem get?_allHelpers {d : Draft} {name : String} {h : Helper Random.Generator} :
    Table.get? name d.allHelpers = some h ↔
      Table.LastHas d.helpers name h ∨
        (name ∉ d.helpers.map Prod.fst ∧ Table.get? name HelperSet.builtins = some h) := by
  rw [allHelpers, Table.get?_merge (Table.ascending_ofPairs _), Option.or_eq_some_iff,
    Table.get?_ofPairs_eq_some_iff, Table.get?_ofPairs_eq_none_iff]
  rfl

/-- The edition that is built from a draft once everything has been checked. -/
def editionOf (d : Draft) (start : PassageId) (ix : PassageIndex) (config : Config)
    (hix : ix.Agrees) (hstart : (ix.byId? start).isSome) : Edition where
  story :=
    { name := d.name, ifid := d.ifid, creator := d.creator, creatorVersion := d.creatorVersion
      start, passages := ix, config, passages_agree := hix, start_exists := hstart }
  helpers := d.allHelpers
  generator := .ofSeed d.seed

/-- A draft without repeats that sets a start passage, with its index named. -/
theorem build_inserted {d : Draft} {start : PassageId} {ix : PassageIndex} (hix : ix.Agrees)
    (hstart : d.start = some start)
    (hinsert : PassageIndex.empty.insertAll d.passages = .ok ix) :
    d.build =
      if h : (ix.byId? start).isSome then
        match readConfig ix with
        | .error err => .error err
        | .ok config => .ok (d.editionOf start ix config hix h)
      else .error (.missingStart start) := by
  unfold build
  rw [hstart]
  dsimp only
  split
  case h_1 err herr => exact absurd (hinsert.symm.trans herr) (by simp)
  case h_2 ix' hix' =>
    obtain rfl := Except.ok.inj (hinsert.symm.trans hix')
    rfl

theorem isSome_byId?_iff {d : Draft} {ix : PassageIndex} (hix : ix.Agrees)
    (hperm : ix.toList.Perm d.passages) {id : PassageId} :
    (ix.byId? id).isSome ↔ id ∈ d.passages.map Passage.id :=
  hix.contains_byId_iff.trans (hperm.map Passage.id).mem_iff

/-- A sound draft is built, and what is built is its edition. -/
theorem IsSound.build_eq {d : Draft} (h : d.IsSound) :
    ∃ ed, d.build = .ok ed ∧ ed.IsOf d := by
  obtain ⟨start, hstart, hid⟩ := h.start
  obtain ⟨ix, hix, hperm, hinsert⟩ := PassageIndex.insertAll_empty_ok h.noRepeats
  have hfound : (ix.byId? start).isSome := (isSome_byId?_iff hix hperm).2 hid
  obtain ⟨config, hconfig⟩ : ∃ config, readConfig ix = .ok config := by
    by_cases hnone : ∀ p ∈ ix.toList, p.name ≠ configName
    · exact ⟨_, readConfig_of_none hix hnone⟩
    · push Not at hnone
      obtain ⟨p, hp, hname⟩ := hnone
      obtain ⟨config, hread⟩ :=
        Config.ofToml_isOk_iff.2 (h.config p (hperm.mem_iff.1 hp) hname)
      exact ⟨config, by rw [readConfig_of_mem hix hp hname, hread]⟩
  refine ⟨d.editionOf start ix config hix hfound, ?_,
    indexes_of_perm hperm hstart rfl rfl rfl rfl hconfig, fun _ _ => get?_allHelpers, rfl⟩
  rw [build_inserted hix hstart hinsert, dif_pos hfound, hconfig]

/-- What is wrong with a draft is what building it reports. -/
theorem IsRefused.build_eq {d : Draft} {err : StoryError} (h : d.IsRefused err) :
    d.build = .error err := by
  cases h with
  | noStart hstart =>
    unfold build
    rw [hstart]
  | repeats hstart hrepeat =>
    have hinsert := PassageIndex.insertAll_firstRepeat hrepeat
    unfold build
    rw [hstart]
    dsimp only
    split
    case h_1 err' herr => exact congrArg _ (Except.error.inj (herr.symm.trans hinsert))
    case h_2 ix hix => exact absurd (hinsert.symm.trans hix) (by simp)
  | missingStart hstart hnone hid =>
    obtain ⟨ix, hix, hperm, hinsert⟩ := PassageIndex.insertAll_empty_ok hnone
    rw [build_inserted hix hstart hinsert, dif_neg (mt (isSome_byId?_iff hix hperm).1 hid)]
  | config hstart hnone hid hp hname hread =>
    obtain ⟨ix, hix, hperm, hinsert⟩ := PassageIndex.insertAll_empty_ok hnone
    rw [build_inserted hix hstart hinsert, dif_pos ((isSome_byId?_iff hix hperm).2 hid),
      readConfig_of_mem hix (hperm.mem_iff.2 hp) hname, hread]

/-- Either nothing is wrong with a draft, or something is. -/
theorem isSound_or_isRefused (d : Draft) : d.IsSound ∨ ∃ err, d.IsRefused err := by
  cases hstart : d.start with
  | none => exact .inr ⟨_, .noStart hstart⟩
  | some start =>
    by_cases hnone : NoRepeats d.passages
    · by_cases hid : start ∈ d.passages.map Passage.id
      · by_cases hconfig : ∀ p ∈ d.passages, p.name = configName → Config.IsDocument p.text
        · exact .inl ⟨⟨start, hstart, hid⟩, hnone, hconfig⟩
        · push Not at hconfig
          obtain ⟨p, hp, hname, hdocument⟩ := hconfig
          -- a text that configures no story is refused with some error
          cases hread : Config.ofToml p.text with
          | ok config => exact absurd (Config.ofToml_isOk_iff.1 ⟨config, hread⟩) hdocument
          | error err => exact .inr ⟨_, .config hstart hnone hid hp hname hread⟩
      · exact .inr ⟨_, .missingStart hstart hnone hid⟩
    · obtain ⟨err, herr⟩ := exists_firstRepeat hnone
      exact .inr ⟨err, .repeats hstart herr⟩

/-- **Building a story.** A draft is built exactly if it is sound; otherwise the error is the
    first thing that is wrong with it. The story that is built lists the passages of the
    draft by increasing ids, and finds each of them by its id and by its name, and no others;
    the helpers that the draft gives are laid over those of every story. -/
theorem sound_drafts_build (d : Draft) :
    ((∃ ed, d.build = .ok ed) ↔ d.IsSound) ∧ (∀ err, d.build = .error err ↔ d.IsRefused err) ∧
      ∀ ed, d.build = .ok ed → ed.IsOf d := by
  rcases d.isSound_or_isRefused with h | ⟨err, h⟩
  · obtain ⟨ed, hed, hof⟩ := h.build_eq
    refine ⟨⟨fun _ => h, fun _ => ⟨ed, hed⟩⟩, ?_, ?_⟩
    · intro err
      constructor
      · intro herr
        rw [hed] at herr
        cases herr
      · exact IsRefused.build_eq
    · intro ed' hed'
      obtain rfl := Except.ok.inj (hed.symm.trans hed')
      exact hof
  · have herr := h.build_eq
    have hno : ∀ ed, d.build ≠ .ok ed := by
      intro ed hed
      rw [herr] at hed
      cases hed
    refine ⟨⟨?_, ?_⟩, ?_, fun ed hed => absurd hed (hno ed)⟩
    · rintro ⟨ed, hed⟩
      exact absurd hed (hno ed)
    · intro hsound
      obtain ⟨ed, hed, -⟩ := hsound.build_eq
      exact ⟨ed, hed⟩
    · intro err'
      refine ⟨?_, IsRefused.build_eq⟩
      intro herr'
      obtain rfl := Except.error.inj (herr.symm.trans herr')
      exact h

end Draft

/-! ## Section 5: A hall -/

/-- A draft that gives a hall first and a header and a configuration after it, with lower
    ids; it has a choice of its own. -/
def hallDraft : Draft where
  name := "Hall"
  start := some 7
  passages :=
    [{ id := 7, name := "Hall", tags := [], source := "A hall." },
      { id := 2, name := headerName, tags := [], source := "Indoors" },
      { id := 5, name := configName, tags := []
        source := "darkTheme = true\nstylesheets = [&quot;hall.css&quot;]" }]
  seed := 7
  helpers := [("either", Helper.visited), ("either", Helper.hasVisited)]

/-- That draft with a second hall, which has the header's id and the hall's name. -/
def hallTwice : Draft :=
  { hallDraft with
    passages := hallDraft.passages ++ [{ id := 2, name := "Hall", tags := [], source := "" }] }

theorem hallDraft_isSound : hallDraft.IsSound where
  start := ⟨7, rfl, by decide⟩
  noRepeats := ⟨by decide, by decide⟩
  config := by
    intro p hp hname
    obtain rfl : p = { id := 5, name := configName, tags := []
                       source := "darkTheme = true\nstylesheets = [&quot;hall.css&quot;]" } := by
      simp only [hallDraft, List.mem_cons, List.not_mem_nil, or_false] at hp
      rcases hp with rfl | rfl | rfl
      · exact absurd hname (by decide)
      · exact absurd hname (by decide)
      · rfl
    refine ⟨[("darkTheme", .bool true), ("stylesheets", .arr [.str "hall.css"])], by cbv, ?_, ?_⟩
    · intro v hv
      exact ⟨true, (Option.some.inj hv).symm⟩
    · intro v hv
      exact ⟨["hall.css"], (Option.some.inj hv).symm⟩

/-- The hall is built, and found by its id, its name and as the header's neighbour; of its
    two choices the later counts. Of the second hall the id is reported, not the name. -/
theorem sound_drafts_build_hall :
    (∃ ed, hallDraft.build = .ok ed ∧ ed.IsOf hallDraft ∧
      ed.story.header?.map Passage.id = some 2 ∧
      ed.story.passageNamed? "Hall" = ed.story.passage? 7 ∧
      ed.story.passageNamed? "hall" = none ∧
      Table.get? "either" ed.helpers = some Helper.hasVisited ∧
      Table.get? "visited" ed.helpers = some Helper.visited) ∧
    hallTwice.build = .error (.duplicateId 2) := by
  obtain ⟨hbuilds, -, hof⟩ := hallDraft.sound_drafts_build
  obtain ⟨-, hrefuses, -⟩ := hallTwice.sound_drafts_build
  obtain ⟨ed, hed⟩ := hbuilds.2 hallDraft_isSound
  obtain ⟨h, hhelpers, -⟩ := hof ed hed
  have hheader := (h.header { id := 2, name := headerName, tags := [], source := "Indoors" }).2
    ⟨by decide, rfl⟩
  have hall : ∀ p : Passage, p = { id := 7, name := "Hall", tags := [], source := "A hall." } →
      ed.story.passageNamed? "Hall" = some p ∧ ed.story.passage? 7 = some p := by
    rintro p rfl
    exact ⟨(h.byName "Hall" _).2 ⟨by decide, rfl⟩, (h.byId 7 _).2 ⟨by decide, rfl⟩⟩
  have hnone : ed.story.passageNamed? "hall" = none := by
    rw [Option.eq_none_iff_forall_ne_some]
    intro p hp
    obtain ⟨hmem, hname⟩ := (h.byName "hall" p).1 hp
    have hnames : p.name ∈ hallDraft.passages.map Passage.name := List.mem_map_of_mem hmem
    rw [hname] at hnames
    exact absurd hnames (by decide)
  have hchoice := (hhelpers "either" Helper.hasVisited).2
    (.inl ⟨[("either", Helper.visited)], [], rfl, List.not_mem_nil⟩)
  have hvisited := (hhelpers "visited" Helper.visited).2 (.inr ⟨by decide, rfl⟩)
  have hsplit : hallTwice.passages = hallDraft.passages ++
      [{ id := 2, name := "Hall", tags := [], source := "" }] := rfl
  have hrepeat : FirstRepeat hallTwice.passages (.duplicateId 2) :=
    .id hsplit hallDraft_isSound.noRepeats (by decide)
  refine ⟨⟨ed, hed, hof ed hed, ?_, ?_, hnone, hchoice, hvisited⟩,
    (hrefuses _).2 (.repeats rfl hrepeat)⟩
  · rw [hheader]
    rfl
  · rw [(hall _ rfl).1, (hall _ rfl).2]

end Hyperfiction
