import Mathlib.Data.List.Induction
import Mathlib.Data.Nat.Digits.Defs
import Hyperfiction.Player.Options
import Hyperfiction.Proofs.Json.Numeral

/-! # The arguments of a game

    The arguments that ask for a game have a grammar: a path, and after it any number of
    pairs, each a flag and its value. What a pair asks for is a setting. `Written` says how
    settings are written one after the other, and `Breaks` how a pair can fail to be one.
    Reading the arguments is reading them backwards: a game is asked for exactly if what
    follows the path is written so, and else the first pair that is not is reported.
-/

namespace Hyperfiction

/-! ## Section 1: Numerals -/

namespace Text

/-- The text writes the number: decimal digits, the last one for the units, and at most one
    plus sign before them. -/
def IsNumeral (cs : List Char) (n : Nat) : Prop :=
  ∃ ds, (cs = ds ∨ cs = '+' :: ds) ∧ Json.IsDigits ds ∧
    n = Nat.ofDigits 10 (ds.reverse.map Json.digitValue)

theorem ofDigits_eq (ds : List Char) :
    Json.ofDigits ds = Nat.ofDigits 10 (ds.reverse.map Json.digitValue) := by
  induction ds using List.reverseRecOn with
  | nil => rfl
  | append_singleton ds c ih =>
    rw [List.reverse_append, List.reverse_singleton, List.singleton_append, List.map_cons,
      Nat.ofDigits_cons, ← ih, Nat.add_comm]
    unfold Json.ofDigits
    rw [List.foldl_append]
    rfl

theorem eq_or_eq_unsigned (cs : List Char) : cs = unsigned cs ∨ cs = '+' :: unsigned cs := by
  unfold unsigned
  split
  · exact .inr rfl
  · exact .inl rfl

theorem unsigned_digits {ds : List Char} (h : Json.IsDigits ds) : unsigned ds = ds := by
  unfold unsigned
  split
  · exact absurd (h.2 '+' List.mem_cons_self) (by decide)
  · rfl

theorem natural?_eq_some_iff {cs : List Char} {n : Nat} :
    natural? cs = some n ↔ IsNumeral cs n := by
  have hdigits : (!(unsigned cs).isEmpty && (unsigned cs).all Json.isDigit) = true ↔
      Json.IsDigits (unsigned cs) := by
    simp [Json.IsDigits]
  unfold natural?
  dsimp only
  constructor
  · intro h
    split_ifs at h with hread
    obtain rfl := Option.some.inj h
    exact ⟨unsigned cs, eq_or_eq_unsigned cs, hdigits.1 hread, ofDigits_eq _⟩
  · rintro ⟨ds, hcs, hds, rfl⟩
    have hunsigned : unsigned cs = ds := by
      rcases hcs with rfl | rfl
      · exact unsigned_digits hds
      · rfl
    rw [if_pos (hdigits.2 (by rwa [hunsigned])), hunsigned, ofDigits_eq]

theorem word64?_eq_some_iff {cs : List Char} {x : UInt64} :
    word64? cs = some x ↔ IsNumeral cs x.toNat := by
  rw [← natural?_eq_some_iff]
  unfold word64?
  constructor
  · intro h
    split at h
    · rename_i n hn
      split_ifs at h with hsize
      obtain rfl := Option.some.inj h
      rw [hn, UInt64.toNat_ofNat_of_lt' hsize]
    · cases h
  · intro h
    rw [h]
    dsimp only
    rw [if_pos x.toNat_lt, UInt64.ofNat_toNat]

theorem word64?_eq_none_iff {cs : List Char} :
    word64? cs = none ↔ ∀ x : UInt64, ¬ IsNumeral cs x.toNat := by
  rw [Option.eq_none_iff_forall_ne_some]
  exact forall_congr' fun x => not_congr word64?_eq_some_iff

end Text

namespace PlayOptions

/-! ## Section 2: The grammar -/

/-- What one option asks for. -/
inductive Setting where
  | savesFolder (folder : String)
  | seed (seed : UInt64)

/-- Settings as they are written, one pair of arguments each. The value of a folder may be
    any text, that of a flag as well. -/
inductive Written : List Setting → List String → Prop where
  | nothing : Written [] []
  | savesFolder {settings : List Setting} {arguments : List String} (folder : String) :
      Written settings arguments →
      Written (.savesFolder folder :: settings) ("--save-dir" :: folder :: arguments)
  | seed {settings : List Setting} {arguments : List String} {numeral : String}
      {seed : UInt64} : Text.IsNumeral numeral.toList seed.toNat → Written settings arguments →
      Written (.seed seed :: settings) ("--seed" :: numeral :: arguments)

/-- The arguments begin with a pair that is no setting, or with half a pair, and this is what
    is reported of it. -/
inductive Breaks : List String → String → Prop where
  | half (argument : String) : Breaks [argument] ("Unknown argument: " ++ argument)
  | unknown {flag : String} (value : String) (rest : List String) :
      flag ≠ "--save-dir" → flag ≠ "--seed" →
      Breaks (flag :: value :: rest) ("Unknown argument: " ++ flag)
  | invalidSeed {text : String} (rest : List String) :
      (∀ seed : UInt64, ¬ Text.IsNumeral text.toList seed.toNat) →
      Breaks ("--seed" :: text :: rest) ("Invalid seed: " ++ text)

/-- The folders and the seeds among settings, in order. -/
def folders (settings : List Setting) : List String :=
  settings.filterMap fun
    | .savesFolder folder => some folder
    | .seed _ => none

def seeds (settings : List Setting) : List UInt64 :=
  settings.filterMap fun
    | .savesFolder _ => none
    | .seed seed => some seed

/-! ## Section 3: Reading settings -/

/-- The options with one more setting. -/
def set (options : PlayOptions) : Setting → PlayOptions
  | .savesFolder folder => { options with savesFolder := folder }
  | .seed seed => { options with seed := some seed }

/-- Of the settings of a kind the last one counts. -/
theorem foldl_set (options : PlayOptions) (settings : List Setting) :
    settings.foldl set options
      = { options with
          savesFolder := (folders settings).getLast?.getD options.savesFolder
          seed := (seeds settings).getLast?.or options.seed } := by
  induction settings using List.reverseRecOn with
  | nil => rfl
  | append_singleton settings s ih =>
    rw [List.foldl_append, ih]
    cases s <;> simp [set, folders, seeds]

theorem readFrom_savesFolder (options : PlayOptions) (folder : String) (rest : List String) :
    readFrom options ("--save-dir" :: folder :: rest)
      = readFrom (options.set (.savesFolder folder)) rest := by
  have hflag : "--save-dir" = savesFolderFlag := rfl
  rw [readFrom, if_pos hflag]
  rfl

theorem readFrom_seed (options : PlayOptions) (text : String) (rest : List String) :
    readFrom options ("--seed" :: text :: rest)
      = match Text.word64? text.toList with
        | some seed => readFrom (options.set (.seed seed)) rest
        | none => .error (.invalidSeed text) := by
  have hfolder : "--seed" ≠ savesFolderFlag := by decide
  have hflag : "--seed" = seedFlag := rfl
  rw [readFrom, if_neg hfolder, if_pos hflag]
  rfl

/-- Written settings are read one after the other, whatever follows them. -/
theorem Written.readFrom_append {settings : List Setting} {arguments : List String}
    (h : Written settings arguments) (options : PlayOptions) (rest : List String) :
    readFrom options (arguments ++ rest) = readFrom (settings.foldl set options) rest := by
  induction h generalizing options with
  | nothing => rfl
  | savesFolder folder _ ih =>
    rw [List.cons_append, List.cons_append, readFrom_savesFolder, ih]
    rfl
  | seed hseed _ ih =>
    rw [List.cons_append, List.cons_append, readFrom_seed, Text.word64?_eq_some_iff.2 hseed]
    exact ih _

/-- A pair that is no setting ends the reading. -/
theorem Breaks.readFrom_eq {arguments : List String} {report : String}
    (h : Breaks arguments report) (options : PlayOptions) :
    ∃ e, readFrom options arguments = .error e ∧ e.message = report := by
  cases h with
  | half argument => exact ⟨.unknown argument, rfl, rfl⟩
  | @unknown flag value rest hfolder hseed =>
    have hfolder' : flag ≠ savesFolderFlag := hfolder
    have hseed' : flag ≠ seedFlag := hseed
    refine ⟨.unknown flag, ?_, rfl⟩
    rw [readFrom, if_neg hfolder', if_neg hseed']
  | @invalidSeed text rest hnone =>
    refine ⟨.invalidSeed text, ?_, rfl⟩
    rw [readFrom_seed, Text.word64?_eq_none_iff.2 hnone]

/-- A pair is a setting, whatever follows it, or breaks the grammar. -/
theorem pair_cases (flag value : String) :
    (∃ s, ∀ {settings arguments}, Written settings arguments →
      Written (s :: settings) (flag :: value :: arguments)) ∨
    ∃ report, ∀ rest, Breaks (flag :: value :: rest) report := by
  by_cases hfolder : flag = "--save-dir"
  · subst hfolder
    exact .inl ⟨_, .savesFolder value⟩
  by_cases hseed : flag = "--seed"
  · subst hseed
    cases hnumeral : Text.word64? value.toList with
    | some seed => exact .inl ⟨_, .seed (Text.word64?_eq_some_iff.1 hnumeral)⟩
    | none =>
      exact .inr ⟨_, fun rest => .invalidSeed rest (Text.word64?_eq_none_iff.1 hnumeral)⟩
  · exact .inr ⟨_, fun rest => .unknown value rest hfolder hseed⟩

/-- Arguments are settings to their end, or up to a pair that is none. -/
theorem written_or_breaks : ∀ arguments : List String,
    (∃ settings, Written settings arguments) ∨
      ∃ settings before rest report, arguments = before ++ rest ∧ Written settings before ∧
        Breaks rest report
  | [] => .inl ⟨[], .nothing⟩
  | [argument] => .inr ⟨[], [], _, _, rfl, .nothing, .half argument⟩
  | flag :: value :: arguments => by
    rcases pair_cases flag value with ⟨s, hsetting⟩ | ⟨report, hbreaks⟩
    · rcases written_or_breaks arguments with
        ⟨settings, hwritten⟩ | ⟨settings, before, rest, report, rfl, hwritten, hbreaks⟩
      · exact .inl ⟨_, hsetting hwritten⟩
      · exact .inr ⟨_, flag :: value :: before, rest, report, rfl, hsetting hwritten, hbreaks⟩
    · exact .inr ⟨[], [], _, report, rfl, .nothing, hbreaks arguments⟩

/-! ## Section 4: Reading the arguments -/

/-- The options that a path and settings ask for. -/
def asked (path : String) (settings : List Setting) : PlayOptions where
  storyPath := path
  savesFolder := (folders settings).getLast?.getD ".saves"
  seed := (seeds settings).getLast?

theorem ofArguments_written {settings : List Setting} {rest : List String}
    (h : Written settings rest) (path : String) :
    ofArguments (path :: rest) = .ok (asked path settings) := by
  have hread := h.readFrom_append { storyPath := path } []
  rw [List.append_nil, foldl_set, Option.or_none] at hread
  exact hread

theorem ofArguments_breaks {settings : List Setting} {before rest : List String}
    {report : String} (hwritten : Written settings before) (hbreaks : Breaks rest report)
    (path : String) :
    ∃ e, ofArguments (path :: (before ++ rest)) = .error e ∧ e.message = report := by
  have hread := hwritten.readFrom_append { storyPath := path } rest
  obtain ⟨e, he, hreport⟩ := hbreaks.readFrom_eq (settings.foldl set { storyPath := path })
  exact ⟨e, hread.trans he, hreport⟩

theorem ofArguments_eq_ok_iff {arguments : List String} {options : PlayOptions} :
    ofArguments arguments = .ok options ↔
      ∃ path settings rest, arguments = path :: rest ∧ Written settings rest ∧
        options = asked path settings := by
  constructor
  · intro h
    cases arguments with
    | nil => cases h
    | cons path arguments =>
      rcases written_or_breaks arguments with
        ⟨settings, hwritten⟩ | ⟨settings, before, rest, report, rfl, hwritten, hbreaks⟩
      · rw [ofArguments_written hwritten] at h
        exact ⟨path, settings, arguments, rfl, hwritten, (Except.ok.inj h).symm⟩
      · obtain ⟨e, he, -⟩ := ofArguments_breaks hwritten hbreaks path
        rw [he] at h
        cases h
  · rintro ⟨path, settings, rest, rfl, hwritten, rfl⟩
    exact ofArguments_written hwritten path

theorem ofArguments_reports_iff {arguments : List String} {report : String} :
    (∃ e, ofArguments arguments = .error e ∧ e.message = report) ↔
      (arguments = [] ∧ report = "Missing story path") ∨
      ∃ path settings before rest, arguments = path :: (before ++ rest) ∧
        Written settings before ∧ Breaks rest report := by
  constructor
  · rintro ⟨e, he, rfl⟩
    cases arguments with
    | nil =>
      obtain rfl : OptionError.missingPath = e := Except.error.inj he
      exact .inl ⟨rfl, rfl⟩
    | cons path arguments =>
      rcases written_or_breaks arguments with
        ⟨settings, hwritten⟩ | ⟨settings, before, rest, report, rfl, hwritten, hbreaks⟩
      · rw [ofArguments_written hwritten] at he
        cases he
      · obtain ⟨e', he', rfl⟩ := ofArguments_breaks hwritten hbreaks path
        obtain rfl : e' = e := Except.error.inj (he'.symm.trans he)
        exact .inr ⟨path, settings, before, rest, rfl, hwritten, hbreaks⟩
  · rintro (⟨rfl, rfl⟩ | ⟨path, settings, before, rest, rfl, hwritten, hbreaks⟩)
    · exact ⟨.missingPath, rfl, rfl⟩
    · exact ofArguments_breaks hwritten hbreaks path

/-- **The arguments of a game have a grammar, and all else is reported.** A game is asked for
    exactly by a path and settings written after it, in any order and number: its path is
    the first argument, its folder the last one written or `.saves`, its seed the last one
    written or none. Otherwise there is no argument at all, or settings are written up to a
    pair that is none, and that is what is reported. -/
theorem ofArguments_grammar (arguments : List String) :
    (∀ options, ofArguments arguments = .ok options ↔
      ∃ path settings rest, arguments = path :: rest ∧ Written settings rest ∧
        options =
          { storyPath := path, savesFolder := (folders settings).getLast?.getD ".saves"
            seed := (seeds settings).getLast? }) ∧
    (∀ report, (∃ e, ofArguments arguments = .error e ∧ e.message = report) ↔
      (arguments = [] ∧ report = "Missing story path") ∨
      ∃ path settings before rest, arguments = path :: (before ++ rest) ∧
        Written settings before ∧ Breaks rest report) :=
  ⟨fun _ => ofArguments_eq_ok_iff, fun _ => ofArguments_reports_iff⟩

/-- A value that looks like a flag, and settings of a kind written twice. -/
example : ofArguments ["cave.ron", "--save-dir", "--seed", "--seed", "+7", "--seed", "08",
      "--save-dir", "--save-dir"]
    = .ok { storyPath := "cave.ron", savesFolder := "--save-dir", seed := some 8 } := by decide

end PlayOptions

end Hyperfiction
