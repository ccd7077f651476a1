import Hyperfiction.Proofs.Building
import Hyperfiction.Proofs.Table

/-! # Laying documents over a configuration

    A configuration is made by laying documents over the default one, one after the
    other. Two of its keys have a place of their own and a type, all others go together.
    What decides over a key is the last document that sets it, among those that are
    documents at all; one that is refused leaves no trace.

    A document gives each of its keys once, because whatever a line does to the table of
    the document, it gives one key something there. So it does not matter in which order
    the keys of one document are laid over the configuration.
-/

namespace Hyperfiction

/-! ## Section 1: The keys of a document -/

namespace Toml

/-- What the change does to a table is to give one key something. -/
def GivesOne (change : Fields Tree → Option (Fields Tree)) : Prop :=
  ∀ fs after, change fs = some after → ∃ key t, after = Table.insert key t fs

theorem givesOne_setDotted (key : String) (v : Value) (path : List String) (here : Bool) :
    GivesOne (Tree.setDotted key v path here) := by
  intro fs after h
  cases path with
  | nil =>
    unfold Tree.setDotted at h
    split at h
    · exact ⟨_, _, (Option.some.inj h).symm⟩
    · cases h
  | cons k path =>
    -- whatever happens to the table below, it is put back under its key
    unfold Tree.setDotted at h
    split at h
    all_goals
      first
      | obtain ⟨t, -, hput⟩ := Option.map_eq_some_iff.1 h
        exact ⟨_, _, hput.symm⟩
      | cases h

theorem givesOne_openTable (key : String) : GivesOne (Tree.openTable key) := by
  intro fs after h
  unfold Tree.openTable at h
  split at h
  · exact ⟨_, _, (Option.some.inj h).symm⟩
  · exact ⟨_, _, (Option.some.inj h).symm⟩
  · cases h

theorem givesOne_openItem (key : String) : GivesOne (Tree.openItem key) := by
  intro fs after h
  unfold Tree.openItem at h
  split at h
  · exact ⟨_, _, (Option.some.inj h).symm⟩
  · exact ⟨_, _, (Option.some.inj h).symm⟩
  · cases h

theorem GivesOne.descend {change : Fields Tree → Option (Fields Tree)} (h : GivesOne change)
    (path : List String) : GivesOne (Tree.descend change path) := by
  intro fs after hdescend
  cases path with
  | nil => exact h fs after hdescend
  | cons k path =>
    unfold Tree.descend at hdescend
    split at hdescend
    all_goals
      first
      | obtain ⟨t, -, hput⟩ := Option.map_eq_some_iff.1 hdescend
        exact ⟨_, _, hput.symm⟩
      | cases hdescend

namespace Reading

theorem enter_givesOne {r after : Reading} {open? : String → Fields Tree → Option (Fields Tree)}
    (hopen : ∀ key, GivesOne (open? key)) {parts : List String}
    (h : r.enter open? parts = some after) : ∃ key t, after.root = Table.insert key t r.root := by
  unfold enter at h
  obtain ⟨key, -, h⟩ := Option.bind_eq_some_iff.1 h
  obtain ⟨root, hroot, h⟩ := Option.bind_eq_some_iff.1 h
  obtain rfl := Option.some.inj h
  exact (hopen key).descend _ _ _ hroot

theorem set_givesOne {r after : Reading} {parts : List String} {v : Value}
    (h : r.set parts v = some after) : ∃ key t, after.root = Table.insert key t r.root := by
  unfold set at h
  obtain ⟨key, -, h⟩ := Option.bind_eq_some_iff.1 h
  obtain ⟨root, hroot, h⟩ := Option.bind_eq_some_iff.1 h
  obtain rfl := Option.some.inj h
  exact (givesOne_setDotted key v _ true).descend _ _ _ hroot

/-- A line opens a table, or the next table of an array, or sets a key. -/
theorem line_givesOne {r after : Reading} {cs rest : List Char}
    (h : r.line cs = some (after, rest)) : ∃ key t, after.root = Table.insert key t r.root := by
  unfold line at h
  split at h
  · simp only [Option.bind_eq_bind, Option.bind_eq_some_iff] at h
    obtain ⟨⟨parts, cs⟩, -, cs, -, cs, -, r', henter, cs, -, h⟩ := h
    obtain ⟨rfl, -⟩ := Prod.mk.inj (Option.some.inj h)
    exact enter_givesOne givesOne_openItem henter
  · simp only [Option.bind_eq_bind, Option.bind_eq_some_iff] at h
    obtain ⟨⟨parts, cs⟩, -, cs, -, r', henter, cs, -, h⟩ := h
    obtain ⟨rfl, -⟩ := Prod.mk.inj (Option.some.inj h)
    exact enter_givesOne givesOne_openTable henter
  · simp only [Option.bind_eq_bind, Option.bind_eq_some_iff] at h
    obtain ⟨⟨parts, cs⟩, -, cs, -, ⟨v, cs⟩, -, r', hset, cs, -, h⟩ := h
    obtain ⟨rfl, -⟩ := Prod.mk.inj (Option.some.inj h)
    exact set_givesOne hset

/-- So lines keep the keys of the document's table in order. -/
theorem lines_ascending {fuel : Nat} {r after : Reading} {cs : List Char}
    (hr : Table.Ascending r.root) (h : lines fuel r cs = some after) :
    Table.Ascending after.root := by
  induction fuel generalizing r cs with
  | zero => cases h
  | succ fuel ih =>
    unfold lines at h
    split at h
    · cases h
    · obtain rfl := Option.some.inj h
      exact hr
    · split at h
      · cases h
      · next r' rest hline =>
        obtain ⟨key, t, hroot⟩ := line_givesOne hline
        apply ih _ h
        rw [hroot]
        exact hr.insert key t

end Reading

theorem keys_toFields (fs : Fields Tree) : Table.keys (Tree.toFields fs) = Table.keys fs := by
  induction fs with
  | nil => rfl
  | cons p fs ih =>
    obtain ⟨k, t⟩ := p
    unfold Tree.toFields
    exact congrArg (k :: ·) ih

/-- A document gives each key once. -/
theorem ascending_parse? {text : String} {table : Fields Value} (h : parse? text = some table) :
    Table.Ascending table := by
  unfold parse? at h
  obtain ⟨r, hlines, rfl⟩ := Option.map_eq_some_iff.1 h
  have hroot := Reading.lines_ascending Table.ascending_nil hlines
  rw [Table.ascending_iff_keys] at hroot ⊢
  rw [keys_toFields]
  exact hroot

end Toml

namespace Config

/-! ## Section 2: One document -/

/-- The text is a document that may be laid over configurations, and sets the key. -/
def Sets (text key : String) (v : Value) : Prop :=
  IsDocument text ∧ ∃ table, Toml.parse? text = some table ∧ Table.get? key table = some v

/-- The configuration after a document, whether or not the document is refused. -/
def laid (c : Config) (text : String) : Config :=
  (c.merge text).2

/-- What the configuration has for a key. -/
def value? (c : Config) (key : String) : Option Value :=
  if key = darkThemeKey then some (.bool c.darkTheme)
  else if key = stylesheetsKey then some (.arr (c.stylesheets.map .str))
  else Table.get? key c.extra

theorem value?_darkTheme (c : Config) : c.value? darkThemeKey = some (.bool c.darkTheme) :=
  if_pos rfl

theorem value?_stylesheets (c : Config) :
    c.value? stylesheetsKey = some (.arr (c.stylesheets.map .str)) := by
  unfold value?
  rw [if_neg (by decide), if_pos rfl]

theorem value?_other {key : String} (hdark : key ≠ darkThemeKey) (hsheets : key ≠ stylesheetsKey)
    (c : Config) : c.value? key = Table.get? key c.extra := by
  unfold value?
  rw [if_neg hdark, if_neg hsheets]

/-- A document that is refused leaves the configuration as it is. -/
theorem laid_refused {text : String} (h : ¬ IsDocument text) (c : Config) : c.laid text = c := by
  unfold laid
  rw [merge_eq]
  cases ho : Overrides.parse text with
  | error err => rfl
  | ok o => exact absurd (parse_isOk_iff.1 ⟨o, ho⟩) h

/-- A document is laid over a configuration as what its table sets. -/
theorem laid_document {text : String} (h : IsDocument text) (c : Config) :
    ∃ table o, Toml.parse? text = some table ∧ Overrides.Of table o ∧
      c.laid text = c.override o := by
  obtain ⟨o, ho⟩ := parse_isOk_iff.2 h
  have hlaid : c.laid text = c.override o := by
    unfold laid
    rw [merge_eq, ho]
  unfold Overrides.parse at ho
  cases htable : Toml.parse? text with
  | none => simp [htable] at ho
  | some table =>
    rw [htable] at ho
    exact ⟨table, o, rfl, ofTable_eq_ok_iff.1 ho, hlaid⟩

/-- Overrides decide over the keys of their table, and over no other ones. -/
theorem value?_override {table : Fields Value} {o : Overrides} (h : o.Of table)
    (htable : table.Ascending) (c : Config) (key : String) :
    (c.override o).value? key = (Table.get? key table).or (c.value? key) := by
  by_cases hdark : key = darkThemeKey
  · subst hdark
    rw [value?_darkTheme, value?_darkTheme, h.darkTheme]
    unfold override
    cases o.darkTheme <;> rfl
  by_cases hsheets : key = stylesheetsKey
  · subst hsheets
    rw [value?_stylesheets, value?_stylesheets, h.stylesheets]
    unfold override
    cases o.stylesheets <;> rfl
  · have hextra : Table.get? key o.extra = Table.get? key table := by
      rw [h.extra, Table.get?_erase, if_neg (Ne.symm hsheets), Table.get?_erase,
        if_neg (Ne.symm hdark)]
    have hordered : o.extra.Ascending := by
      rw [h.extra]
      exact (htable.erase _).erase _
    rw [value?_other hdark hsheets, value?_other hdark hsheets, ← hextra]
    exact Table.get?_merge hordered key

/-- After a document a key has what the document sets it to, or else what it had. -/
theorem value?_laid {c : Config} {text key : String} {v : Value} :
    (c.laid text).value? key = some v ↔
      Sets text key v ∨ ((∀ w, ¬ Sets text key w) ∧ c.value? key = some v) := by
  by_cases hdoc : IsDocument text
  · obtain ⟨table, o, htable, hof, hlaid⟩ := laid_document hdoc c
    have hsets : ∀ w, Sets text key w ↔ Table.get? key table = some w := by
      intro w
      unfold Sets
      simp [hdoc, htable]
    rw [hlaid, value?_override hof (Toml.ascending_parse? htable)]
    simp only [hsets]
    cases Table.get? key table <;> simp
  · have hsets : ∀ w, ¬ Sets text key w := fun w h => hdoc h.1
    rw [laid_refused hdoc]
    simp [hsets]

/-! ## Section 3: Documents one after the other -/

/-- The configuration after documents in order. -/
def layAll (c : Config) (docs : List String) : Config :=
  docs.foldl laid c

/-- The configuration comes about by laying documents over the default one. -/
def Reached (c : Config) : Prop :=
  ∃ docs, c = layAll {} docs

/-- The last of the documents that set the key sets it to the value. -/
def LastSets (docs : List String) (key : String) (v : Value) : Prop :=
  ∃ before text later, docs = before ++ text :: later ∧ Sets text key v ∧
    ∀ other ∈ later, ∀ w, ¬ Sets other key w

/-- None of the documents sets the key. -/
def NoneSets (docs : List String) (key : String) : Prop :=
  ∀ text ∈ docs, ∀ w, ¬ Sets text key w

theorem layAll_append (c : Config) (docs more : List String) :
    c.layAll (docs ++ more) = (c.layAll docs).layAll more :=
  List.foldl_append

theorem noneSets_cons {text : String} {docs : List String} {key : String} :
    NoneSets (text :: docs) key ↔ (∀ w, ¬ Sets text key w) ∧ NoneSets docs key :=
  List.forall_mem_cons

/-- The first document sets a key last if no later one sets it. -/
theorem lastSets_cons {text : String} {docs : List String} {key : String} {v : Value} :
    LastSets (text :: docs) key v ↔
      LastSets docs key v ∨ (NoneSets docs key ∧ Sets text key v) := by
  constructor
  · intro ⟨before, other, later, hsplit, hsets, hlater⟩
    cases before with
    | nil =>
      obtain ⟨rfl, rfl⟩ := List.cons.inj hsplit
      exact .inr ⟨hlater, hsets⟩
    | cons first before =>
      obtain ⟨-, hdocs⟩ := List.cons.inj hsplit
      exact .inl ⟨before, other, later, hdocs, hsets, hlater⟩
  · intro h
    rcases h with ⟨before, other, later, rfl, hsets, hlater⟩ | ⟨hnone, hsets⟩
    · exact ⟨text :: before, other, later, rfl, hsets, hlater⟩
    · exact ⟨[], text, docs, rfl, hsets, hnone⟩

/-- After documents a key has what the last document that sets it sets it to, or else what
    it had at the start. -/
theorem value?_layAll {c : Config} {docs : List String} {key : String} {v : Value} :
    (c.layAll docs).value? key = some v ↔
      LastSets docs key v ∨ (NoneSets docs key ∧ c.value? key = some v) := by
  induction docs generalizing c with
  | nil =>
    have hlast : ¬ LastSets [] key v := by
      rintro ⟨before, text, later, hsplit, -⟩
      simp at hsplit
    have hnone : NoneSets [] key := fun text hmem => absurd hmem List.not_mem_nil
    show c.value? key = some v ↔ _
    simp [hlast, hnone]
  | cons text docs ih =>
    have hlay : c.layAll (text :: docs) = (c.laid text).layAll docs := rfl
    rw [hlay, ih, value?_laid, lastSets_cons, noneSets_cons]
    constructor
    · intro h
      rcases h with hlast | ⟨hnone, hsets | ⟨hunset, hkept⟩⟩
      · exact .inl (.inl hlast)
      · exact .inl (.inr ⟨hnone, hsets⟩)
      · exact .inr ⟨⟨hunset, hnone⟩, hkept⟩
    · intro h
      rcases h with (hlast | ⟨hnone, hsets⟩) | ⟨⟨hunset, hnone⟩, hkept⟩
      · exact .inl hlast
      · exact .inr ⟨hnone, .inl hsets⟩
      · exact .inr ⟨hnone, .inr ⟨hunset, hkept⟩⟩

/-! ## Section 4: The other keys -/

/-- The keys that mean nothing to the engine are in order, and the two that do are not
    among them. -/
structure Apart (c : Config) : Prop where
  ordered : c.extra.Ascending
  darkTheme : Table.get? darkThemeKey c.extra = none
  stylesheets : Table.get? stylesheetsKey c.extra = none

theorem apart_default : Apart {} :=
  ⟨Table.ascending_nil, rfl, rfl⟩

theorem Apart.laid {c : Config} (h : c.Apart) (text : String) : (c.laid text).Apart := by
  by_cases hdoc : IsDocument text
  · obtain ⟨table, o, htable, hof, hlaid⟩ := laid_document hdoc c
    have hordered : o.extra.Ascending := by
      rw [hof.extra]
      exact ((Toml.ascending_parse? htable).erase _).erase _
    -- the document's own two keys are taken out before its others are merged
    have hextra : ∀ key, Table.get? key (c.laid text).extra
        = (Table.get? key o.extra).or (Table.get? key c.extra) := by
      intro key
      rw [hlaid]
      exact Table.get?_merge hordered key
    refine ⟨?_, ?_, ?_⟩
    · rw [hlaid]
      exact h.ordered.merge o.extra
    · rw [hextra, h.darkTheme, hof.extra, Table.get?_erase, Table.get?_erase, if_pos rfl]
      simp
    · rw [hextra, h.stylesheets, hof.extra, Table.get?_erase, if_pos rfl]
      rfl
  · rw [laid_refused hdoc]
    exact h

theorem Apart.layAll {c : Config} (h : c.Apart) (docs : List String) : (c.layAll docs).Apart := by
  induction docs generalizing c with
  | nil => exact h
  | cons text docs ih => exact ih (h.laid text)

theorem Reached.apart {c : Config} (h : c.Reached) : c.Apart := by
  obtain ⟨docs, rfl⟩ := h
  exact apart_default.layAll docs

theorem Reached.layAll {c : Config} (h : c.Reached) (docs : List String) :
    (c.layAll docs).Reached := by
  obtain ⟨earlier, rfl⟩ := h
  exact ⟨earlier ++ docs, (layAll_append _ _ _).symm⟩

/-- As an object the configuration has its two own keys and the others, each of them once. -/
theorem Apart.toValue_eq {c : Config} (h : c.Apart) :
    ∃ fs, c.toValue = .obj fs ∧ (Table.keys fs).Nodup ∧
      fs.Perm ((darkThemeKey, .bool c.darkTheme) ::
        (stylesheetsKey, .arr (c.stylesheets.map .str)) :: c.extra) := by
  refine ⟨_, rfl, ((h.ordered.insert _ _).insert _ _).nodup_keys, ?_⟩
  have hsheets := Table.perm_insert h.stylesheets (.arr (c.stylesheets.map .str))
  have hdark : Table.get? darkThemeKey
      (Table.insert stylesheetsKey (.arr (c.stylesheets.map .str)) c.extra) = none := by
    rw [Table.get?_insert_ne (by decide), h.darkTheme]
  exact (Table.perm_insert hdark _).trans (hsheets.cons _)

/-! ## Section 5: The last document wins -/

theorem layAll_refused {text : String} (h : ¬ IsDocument text) (c : Config)
    (before later : List String) :
    c.layAll (before ++ text :: later) = c.layAll (before ++ later) := by
  rw [layAll_append, layAll_append]
  show ((c.layAll before).laid text).layAll later = _
  rw [laid_refused h]

theorem some_sheets_inj {sheets other : List String} :
    (some (Value.arr (sheets.map .str)) = some (.arr (other.map .str))) ↔ sheets = other := by
  rw [Option.some_inj, Value.arr.injEq]
  exact (List.map_injective_iff.2 fun _ _ h => Value.str.inj h).eq_iff

/-- A text that is no document is refused and changes nothing, wherever it stands. Among
    the others the last one that sets a key decides over it, and a key that none of them
    sets keeps what it had. The two keys that the engine reads are never among the other
    keys, so that the object of the configuration has every key once. -/
theorem last_document_wins {start : Config} (hstart : start.Reached) (docs : List String) :
    (∀ (c : Config) (text : String),
      ((c.merge text).1 = .ok () ↔ IsDocument text) ∧
      ∀ err, (c.merge text).1 = .error err → (c.merge text).2 = c) ∧
    (∀ before text later, docs = before ++ text :: later → ¬ IsDocument text →
      start.layAll docs = start.layAll (before ++ later)) ∧
    (∀ dark, (start.layAll docs).darkTheme = dark ↔
      LastSets docs darkThemeKey (.bool dark) ∨
        (NoneSets docs darkThemeKey ∧ start.darkTheme = dark)) ∧
    (∀ sheets, (start.layAll docs).stylesheets = sheets ↔
      LastSets docs stylesheetsKey (.arr (sheets.map .str)) ∨
        (NoneSets docs stylesheetsKey ∧ start.stylesheets = sheets)) ∧
    (∀ key, key ≠ darkThemeKey → key ≠ stylesheetsKey → ∀ v,
      Table.get? key (start.layAll docs).extra = some v ↔
        LastSets docs key v ∨ (NoneSets docs key ∧ Table.get? key start.extra = some v)) ∧
    Table.get? darkThemeKey (start.layAll docs).extra = none ∧
    Table.get? stylesheetsKey (start.layAll docs).extra = none ∧
    ∃ fs, (start.layAll docs).toValue = .obj fs ∧ (Table.keys fs).Nodup ∧
      fs.Perm ((darkThemeKey, .bool (start.layAll docs).darkTheme) ::
        (stylesheetsKey, .arr ((start.layAll docs).stylesheets.map .str)) ::
        (start.layAll docs).extra) := by
  have hapart := (hstart.layAll docs).apart
  refine ⟨?_, ?_, ?_, ?_, ?_, hapart.darkTheme, hapart.stylesheets, hapart.toValue_eq⟩
  · intro c text
    refine ⟨merge_isOk_iff, ?_⟩
    intro err herr
    have hrefused : ¬ IsDocument text := by
      rw [← merge_isOk_iff, herr]
      rintro ⟨⟩
    exact laid_refused hrefused c
  · intro before text later hsplit hrefused
    rw [hsplit]
    exact layAll_refused hrefused start before later
  · intro dark
    have hkey := @value?_layAll start docs darkThemeKey (.bool dark)
    rw [value?_darkTheme, value?_darkTheme, Option.some_inj, Option.some_inj, Value.bool.injEq,
      Value.bool.injEq] at hkey
    exact hkey
  · intro sheets
    have hkey := @value?_layAll start docs stylesheetsKey (.arr (sheets.map .str))
    rw [value?_stylesheets, value?_stylesheets, some_sheets_inj, some_sheets_inj] at hkey
    exact hkey
  · intro key hdark hsheets v
    have hkey := @value?_layAll start docs key v
    rw [value?_other hdark hsheets, value?_other hdark hsheets] at hkey
    exact hkey

/-- A dark theme and an author. -/
def inkDocument : String := "darkTheme = true\nauthor = \"K\"\n"

/-- Two documents that set stylesheets, and after each of them one that is refused. -/
def sheetDocuments : List String :=
  ["stylesheets = [\"a.css\", \"b.css\"]\n", "darkTheme = = false\n",
    "stylesheets = [\"c.css\"]\nauthor = \"L\"\n", "author = \"M\"\nstylesheets = 3\n"]

/-- The theme stays dark, and of the stylesheets and the authors the last ones count. -/
theorem last_document_wins_sheets :
    (layAll {} [inkDocument]).Reached ∧
      LastSets sheetDocuments stylesheetsKey (.arr [.str "c.css"]) ∧
      LastSets sheetDocuments "author" (.str "L") ∧
      ((layAll {} [inkDocument]).layAll sheetDocuments).darkTheme = true ∧
      ((layAll {} [inkDocument]).layAll sheetDocuments).stylesheets = ["c.css"] ∧
      Table.get? "author" ((layAll {} [inkDocument]).layAll sheetDocuments).extra
        = some (.str "L") := by
  have hreached : (layAll {} [inkDocument]).Reached := ⟨_, rfl⟩
  obtain ⟨-, -, -, hsheets, hextra, -⟩ := last_document_wins hreached sheetDocuments
  have hstart : ((layAll {} [inkDocument]).stylesheets,
        Table.get? "author" (layAll {} [inkDocument]).extra) = ([], some (.str "K")) := by cbv
  have hfinal : (((layAll {} [inkDocument]).layAll sheetDocuments).darkTheme,
        ((layAll {} [inkDocument]).layAll sheetDocuments).stylesheets,
        Table.get? "author" ((layAll {} [inkDocument]).layAll sheetDocuments).extra)
      = (true, ["c.css"], some (.str "L")) := by cbv
  obtain ⟨hnone, hauthor⟩ := Prod.mk.inj hstart
  obtain ⟨hdark, hlater⟩ := Prod.mk.inj hfinal
  obtain ⟨hlast, hlastAuthor⟩ := Prod.mk.inj hlater
  refine ⟨hreached, ?_, ?_, hdark, hlast, hlastAuthor⟩
  · -- without a document that sets them there would be no stylesheets
    rcases (hsheets ["c.css"]).1 hlast with h | ⟨-, hkept⟩
    · exact h
    · rw [hnone] at hkept
      cases hkept
  · rcases (hextra "author" (by decide) (by decide) (.str "L")).1 hlastAuthor with h | ⟨-, hkept⟩
    · exact h
    · rw [hauthor] at hkept
      simp at hkept

end Config

end Hyperfiction
