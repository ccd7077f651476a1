import Mathlib.Data.List.Chain
import Mathlib.Logic.Relation
import Hyperfiction.Proofs.Storage.Key

/-! # Names that share a key

    A key keeps less of a name than the name says. What is left of a name in its key comes
    character by character: in lower case if it is kept, and nothing otherwise. So a name may
    be respelled in many ways without its key showing it. Letters may change their case,
    punctuation may come and go, and spaces may stand closer or wider. Among the names of
    ASCII characters these are all the ways: two of them have one key exactly if respelling
    leads from one to the other, and a key spells out the plainest name that has it.
-/

namespace Hyperfiction.SaveKey

open Text Relation

/-! ## Section 1: What a character leaves -/

/-- What a character of a name leaves in the key, before runs of spaces are drawn together. -/
def mark (c : Char) : List Char :=
  (lowerChar c).filter isKept

theorem mark_of_lt {c : Char} (h : c.toNat < 128) :
    mark c = if isKept c then [c.toLower] else [] := by
  unfold mark lowerChar
  rw [if_pos h, List.filter_cons, isKept_toLower h, List.filter_nil]

theorem mark_kelvinSign : mark kelvinSign = ['k'] := by
  decide +kernel

theorem mark_dottedCapitalI : mark dottedCapitalI = ['i'] := by
  decide +kernel

/-- Beyond ASCII only two characters leave something. -/
theorem mark_of_ge {c : Char} (h : 128 ≤ c.toNat) (hkelvin : c ≠ kelvinSign)
    (hdotted : c ≠ dottedCapitalI) : mark c = [] := by
  have hbare : leavesMark c = false := by
    unfold leavesMark
    simp [isKept_of_ge h, hkelvin, hdotted]
  rw [← any_isKept_lowerChar, List.any_eq_false] at hbare
  exact List.filter_eq_nil_iff.2 hbare

/-- A character leaves its lower case if it is kept. Two more leave a letter, and all others
    nothing. -/
theorem mark_cases (c : Char) : (isKept c = true ∧ mark c = [c.toLower]) ∨
    (c = kelvinSign ∧ mark c = ['k']) ∨ (c = dottedCapitalI ∧ mark c = ['i']) ∨ mark c = [] := by
  by_cases hlt : c.toNat < 128
  · rw [mark_of_lt hlt]
    by_cases hkept : isKept c = true
    · exact .inl ⟨hkept, if_pos hkept⟩
    · exact .inr (.inr (.inr (if_neg hkept)))
  · by_cases hkelvin : c = kelvinSign
    · exact .inr (.inl ⟨hkelvin, hkelvin ▸ mark_kelvinSign⟩)
    by_cases hdotted : c = dottedCapitalI
    · exact .inr (.inr (.inl ⟨hdotted, hdotted ▸ mark_dottedCapitalI⟩))
    · exact .inr (.inr (.inr (mark_of_ge (Nat.not_lt.1 hlt) hkelvin hdotted)))

/-- What is kept of a lower-case text is what its characters leave, one after the other. The
    two small forms of sigma, which depend on what stands around it, are both not kept. -/
theorem filter_lowerFrom (before cs : List Char) :
    (lowerFrom before cs).filter isKept = cs.flatMap mark := by
  induction cs generalizing before with
  | nil => rfl
  | cons c cs ih =>
    rw [lowerFrom, List.flatMap_cons]
    by_cases hsigma : c = capitalSigma
    · subst hsigma
      have hmark : mark capitalSigma = [] := by decide +kernel
      have hsmall : isKept smallSigma = false := by decide
      have hfinal : isKept finalSigma = false := by decide
      rw [if_pos rfl, hmark, List.nil_append, ← ih (capitalSigma :: before)]
      split
      · exact List.filter_cons_of_neg (by simp [hfinal])
      · exact List.filter_cons_of_neg (by simp [hsmall])
    · rw [if_neg hsigma, List.filter_append, ih]
      rfl

theorem stem_eq (name : List Char) : stem name = dashed false (name.flatMap mark) :=
  congrArg (dashed false) (filter_lowerFrom [] name)

/-! ## Section 2: The form of a key -/

/-- Whether a character is a small letter, a digit, an underscore or a hyphen. -/
def isPlain (c : Char) : Bool :=
  c.isLower || c.isDigit || c = '_' || c = '-'

theorem isPlain_toLower {c : Char} (hkept : isKept c = true) (hspace : c ≠ ' ') :
    isPlain c.toLower = true := by
  have hall : isKept c = true → c ≠ ' ' → isPlain c.toLower = true := by
    refine char_all_lt (P := fun c => isKept c = true → c ≠ ' ' → isPlain c.toLower = true) ?_
      (lt_of_isKept hkept)
    decide
  exact hall hkept hspace

/-- What a character leaves is plain, unless it is a space. -/
theorem isPlain_of_mem_mark {c d : Char} (h : d ∈ mark c) (hspace : d ≠ ' ') :
    isPlain d = true ∧ d ≠ '-' := by
  have hkept : isKept d = true := (List.mem_filter.1 h).2
  refine ⟨?_, ?_⟩
  · rcases mark_cases c with ⟨hc, hmark⟩ | ⟨-, hmark⟩ | ⟨-, hmark⟩ | hmark
    · rw [hmark] at h
      obtain rfl := List.mem_singleton.1 h
      refine isPlain_toLower hc ?_
      rintro rfl
      exact hspace rfl
    · rw [hmark] at h
      obtain rfl := List.mem_singleton.1 h
      decide
    · rw [hmark] at h
      obtain rfl := List.mem_singleton.1 h
      decide
    · rw [hmark] at h
      cases h
  · rintro rfl
    revert hkept
    decide

/-- Not both characters are hyphens. -/
def Apart (c d : Char) : Prop :=
  ¬ (c = '-' ∧ d = '-')

/-- Drawing spaces together leaves plain characters, and hyphens that stand apart. After a
    space no hyphen comes first. -/
theorem dashed_form {cs : List Char} (hcs : ∀ c ∈ cs, c ≠ ' ' → isPlain c = true ∧ c ≠ '-')
    (inRun : Bool) : (∀ c ∈ dashed inRun cs, isPlain c = true) ∧
      (dashed inRun cs).IsChain Apart ∧ (inRun = true → (dashed inRun cs).head? ≠ some '-') := by
  induction cs generalizing inRun with
  | nil => exact ⟨by simp [dashed], .nil, by simp [dashed]⟩
  | cons c cs ih =>
    have hrest : ∀ d ∈ cs, d ≠ ' ' → isPlain d = true ∧ d ≠ '-' :=
      fun d hd => hcs d (List.mem_cons_of_mem _ hd)
    rw [dashed]
    by_cases hspace : c = ' '
    · obtain ⟨hplain, hchain, hhead⟩ := ih hrest true
      rw [if_pos hspace]
      -- a space after another one leaves nothing, and the first one a hyphen before none
      cases inRun with
      | true => exact ⟨hplain, hchain, hhead⟩
      | false =>
        refine ⟨List.forall_mem_cons.2 ⟨rfl, hplain⟩, ?_, ?_⟩
        · refine List.isChain_cons.2 ⟨?_, hchain⟩
          rintro d hd ⟨-, rfl⟩
          exact hhead rfl hd
        · intro hrun
          cases hrun
    · obtain ⟨hplain, hchain, -⟩ := ih hrest false
      obtain ⟨hc, hhyphen⟩ := hcs c List.mem_cons_self hspace
      rw [if_neg hspace]
      refine ⟨List.forall_mem_cons.2 ⟨hc, hplain⟩, ?_, ?_⟩
      · exact List.isChain_cons.2 ⟨fun d _ hboth => hhyphen hboth.1, hchain⟩
      · intro _ hfirst
        exact hhyphen (Option.some.inj hfirst)

theorem stem_form (name : List Char) :
    (∀ c ∈ stem name, isPlain c = true) ∧ (stem name).IsChain Apart := by
  rw [stem_eq]
  have hmarks : ∀ d ∈ name.flatMap mark, d ≠ ' ' → isPlain d = true ∧ d ≠ '-' := by
    intro d hd
    obtain ⟨c, -, hdc⟩ := List.mem_flatMap.1 hd
    exact isPlain_of_mem_mark hdc
  obtain ⟨hplain, hchain, -⟩ := dashed_form hmarks false
  exact ⟨hplain, hchain⟩

/-! ## Section 3: Respelling -/

/-- Whether a character of ASCII is neither a letter nor a digit, an underscore or a space. -/
def isPunctuation (c : Char) : Bool :=
  c.toNat < 128 && !c.isAlphanum && c ≠ '_' && c ≠ ' '

/-- One name is respelled to another: a letter of ASCII changes its case, punctuation is put
    in or taken out, or a run of spaces becomes another one. -/
inductive Respelled : List Char → List Char → Prop where
  | recase (before after : List Char) {c d : Char} :
      c.isAlpha = true → d = c.toLower ∨ d = c.toUpper →
      Respelled (before ++ c :: after) (before ++ d :: after)
  | putIn (before after : List Char) {c : Char} : isPunctuation c = true →
      Respelled (before ++ after) (before ++ c :: after)
  | takeOut (before after : List Char) {c : Char} : isPunctuation c = true →
      Respelled (before ++ c :: after) (before ++ after)
  | respace (before after : List Char) {m n : Nat} : 0 < m → 0 < n →
      Respelled (before ++ List.replicate m ' ' ++ after)
        (before ++ List.replicate n ' ' ++ after)

theorem lt_of_isAlpha {c : Char} (h : c.isAlpha = true) : c.toNat < 128 := by
  refine lt_of_isKept ?_
  unfold isKept Char.isAlphanum
  simp [h]

theorem mark_recased {c d : Char} (hc : c.isAlpha = true) (hd : d = c.toLower ∨ d = c.toUpper) :
    mark d = mark c := by
  have hall : c.isAlpha = true → mark c.toLower = mark c ∧ mark c.toUpper = mark c := by
    refine char_all_lt
      (P := fun c => c.isAlpha = true → mark c.toLower = mark c ∧ mark c.toUpper = mark c) ?_
      (lt_of_isAlpha hc)
    decide +kernel
  obtain ⟨hlower, hupper⟩ := hall hc
  rcases hd with rfl | rfl
  · exact hlower
  · exact hupper

theorem mark_punctuation {c : Char} (h : isPunctuation c = true) : mark c = [] := by
  unfold isPunctuation at h
  simp only [Bool.and_eq_true, decide_eq_true_eq, Bool.not_eq_true', ne_eq] at h
  obtain ⟨⟨⟨hlt, hword⟩, hunderscore⟩, hspace⟩ := h
  rw [mark_of_lt hlt, if_neg]
  unfold isKept
  simp [hword, hunderscore, hspace]

/-- Of two spaces that follow each other one is enough. -/
theorem dashed_space_space (inRun : Bool) (cs : List Char) :
    dashed inRun (' ' :: ' ' :: cs) = dashed inRun (' ' :: cs) := by
  cases inRun <;> rfl

/-- Texts that are the same after drawing spaces together are the same behind any other. -/
theorem dashed_append_congr {xs ys : List Char} (h : ∀ inRun, dashed inRun xs = dashed inRun ys)
    (before : List Char) (inRun : Bool) :
    dashed inRun (before ++ xs) = dashed inRun (before ++ ys) := by
  induction before generalizing inRun with
  | nil => exact h inRun
  | cons c before ih =>
    rw [List.cons_append, List.cons_append, dashed, dashed, ih, ih]

theorem dashed_replicate (n : Nat) (after : List Char) (inRun : Bool) :
    dashed inRun (List.replicate (n + 1) ' ' ++ after) = dashed inRun (' ' :: after) := by
  induction n with
  | zero => rfl
  | succ n ih =>
    rw [List.replicate_succ, List.replicate_succ, List.cons_append, List.cons_append,
      dashed_space_space]
    exact ih

/-- The key does not show how wide a run of spaces is. -/
theorem dashed_respaced {m n : Nat} (hm : 0 < m) (hn : 0 < n) (before after : List Char)
    (inRun : Bool) :
    dashed inRun (before ++ List.replicate m ' ' ++ after)
      = dashed inRun (before ++ List.replicate n ' ' ++ after) := by
  rw [List.append_assoc, List.append_assoc]
  refine dashed_append_congr (fun inRun => ?_) before inRun
  obtain ⟨k, rfl⟩ := Nat.exists_eq_add_of_le' hm
  obtain ⟨l, rfl⟩ := Nat.exists_eq_add_of_le' hn
  rw [dashed_replicate, dashed_replicate]

theorem flatMap_mark_replicate (n : Nat) :
    (List.replicate n ' ').flatMap mark = List.replicate n ' ' := by
  have hmark : mark ' ' = [' '] := by decide +kernel
  induction n with
  | zero => rfl
  | succ n ih =>
    rw [List.replicate_succ, List.flatMap_cons, ih, hmark]
    rfl

/-- One respelling does not show in the key. -/
theorem Respelled.stem_eq {name other : List Char} (h : Respelled name other) :
    stem other = stem name := by
  rw [SaveKey.stem_eq, SaveKey.stem_eq]
  cases h with
  | recase before after hc hd =>
    simp only [List.flatMap_append, List.flatMap_cons, mark_recased hc hd]
  | putIn before after hc =>
    simp only [List.flatMap_append, List.flatMap_cons, mark_punctuation hc, List.nil_append]
  | takeOut before after hc =>
    simp only [List.flatMap_append, List.flatMap_cons, mark_punctuation hc, List.nil_append]
  | respace before after hm hn =>
    simp only [List.flatMap_append, flatMap_mark_replicate]
    exact dashed_respaced hn hm _ _ false

/-- Nor do any number of them. -/
theorem stem_eq_of_respelled {name other : List Char} (h : ReflTransGen Respelled name other) :
    stem other = stem name := by
  induction h with
  | refl => rfl
  | tail _ hstep ih => rw [hstep.stem_eq, ih]

/-! ## Section 4: The name that a key spells -/

theorem Respelled.symm {name other : List Char} (h : Respelled name other) :
    Respelled other name := by
  cases h with
  | @recase before after c d hc hd =>
    have hall : c.isAlpha = true → (c.toLower.isAlpha = true ∧ c.toUpper.isAlpha = true) ∧
        (c = c.toLower ∨ c = c.toUpper) ∧
        c.toUpper.toLower = c.toLower ∧ c.toLower.toUpper = c.toUpper ∧
        c.toLower.toLower = c.toLower ∧ c.toUpper.toUpper = c.toUpper := by
      refine char_all_lt (P := fun c => c.isAlpha = true →
        (c.toLower.isAlpha = true ∧ c.toUpper.isAlpha = true) ∧
        (c = c.toLower ∨ c = c.toUpper) ∧
        c.toUpper.toLower = c.toLower ∧ c.toLower.toUpper = c.toUpper ∧
        c.toLower.toLower = c.toLower ∧ c.toUpper.toUpper = c.toUpper) ?_ (lt_of_isAlpha hc)
      decide +kernel
    obtain ⟨⟨hlower, hupper⟩, hc', h₁, h₂, h₃, h₄⟩ := hall hc
    rcases hd with rfl | rfl
    · exact .recase before after hlower (by rw [h₃, h₂]; exact hc')
    · exact .recase before after hupper (by rw [h₁, h₄]; exact hc')
  | putIn before after hc => exact .takeOut before after hc
  | takeOut before after hc => exact .putIn before after hc
  | respace before after hm hn => exact .respace before after hn hm

/-- What is respelled is respelled behind another character too. -/
theorem Respelled.cons {name other : List Char} (h : Respelled name other) (c : Char) :
    Respelled (c :: name) (c :: other) := by
  cases h with
  | recase before after hc hd => exact .recase (c :: before) after hc hd
  | putIn before after hc => exact .putIn (c :: before) after hc
  | takeOut before after hc => exact .takeOut (c :: before) after hc
  | respace before after hm hn => exact .respace (c :: before) after hm hn

theorem respelled_cons {name other : List Char} (h : ReflTransGen Respelled name other)
    (c : Char) : ReflTransGen Respelled (c :: name) (c :: other) :=
  h.lift (c :: ·) fun _ _ hstep => hstep.cons c

/-- A space for every hyphen. -/
def spaced (stem : List Char) : List Char :=
  stem.map fun c => if c = '-' then ' ' else c

/-- A name of ASCII characters is respelled to what its characters leave. -/
theorem respelled_marks {name : List Char} (h : ∀ c ∈ name, c.toNat < 128) :
    ReflTransGen Respelled name (name.flatMap mark) := by
  induction name with
  | nil => exact .refl
  | cons c cs ih =>
    have hrest := ih fun d hd => h d (List.mem_cons_of_mem _ hd)
    have hc : c.toNat < 128 := h c List.mem_cons_self
    rw [List.flatMap_cons, mark_of_lt hc]
    by_cases hkept : isKept c = true
    · rw [if_pos hkept]
      refine (respelled_cons hrest c).trans ?_
      by_cases halpha : c.isAlpha = true
      · exact .single (.recase [] _ halpha (.inl rfl))
      · -- what is kept and no letter has no case
        have hcase : isKept c = true → ¬ c.isAlpha = true → c.toLower = c := by
          refine char_all_lt
            (P := fun c => isKept c = true → ¬ c.isAlpha = true → c.toLower = c) ?_ hc
          decide
        rw [hcase hkept halpha]
        exact .refl
    · rw [if_neg hkept]
      refine .head (.takeOut [] cs ?_) hrest
      unfold isKept at hkept
      unfold isPunctuation
      simp only [Bool.or_eq_true, decide_eq_true_eq, not_or] at hkept
      simp [hc, hkept]

/-- Runs of spaces can be drawn together by respelling. -/
theorem respelled_spaced {cs : List Char} (h : ∀ c ∈ cs, c ≠ '-') :
    ReflTransGen Respelled cs (spaced (dashed false cs)) ∧
      ReflTransGen Respelled (' ' :: cs) (' ' :: spaced (dashed true cs)) := by
  induction cs with
  | nil => exact ⟨.refl, .refl⟩
  | cons c cs ih =>
    obtain ⟨hfresh, hrun⟩ := ih fun d hd => h d (List.mem_cons_of_mem _ hd)
    rw [dashed, dashed]
    by_cases hspace : c = ' '
    · subst hspace
      rw [if_pos rfl, if_pos rfl]
      refine ⟨hrun, ?_⟩
      exact .head (.respace [] cs (m := 2) (n := 1) (by decide) (by decide)) hrun
    · rw [if_neg hspace, if_neg hspace]
      have hc : (if c = '-' then ' ' else c) = c := if_neg (h c List.mem_cons_self)
      have hplain : ReflTransGen Respelled (c :: cs) (spaced (c :: dashed false cs)) := by
        unfold spaced
        rw [List.map_cons, hc]
        exact respelled_cons hfresh c
      exact ⟨hplain, respelled_cons hplain ' '⟩

/-- A name of ASCII characters is respelled to the name that its key spells. -/
theorem respelled_stem {name : List Char} (h : ∀ c ∈ name, c.toNat < 128) :
    ReflTransGen Respelled name (spaced (stem name)) := by
  have hmarks : ∀ d ∈ name.flatMap mark, d ≠ '-' := by
    rintro d hd rfl
    obtain ⟨c, -, hdc⟩ := List.mem_flatMap.1 hd
    exact (isPlain_of_mem_mark hdc (by decide)).2 rfl
  rw [stem_eq]
  exact (respelled_marks h).trans (respelled_spaced hmarks).1

/-- Respelling leads between any two names of ASCII characters that leave the same. -/
theorem respelled_of_stem_eq {name other : List Char} (hname : ∀ c ∈ name, c.toNat < 128)
    (hother : ∀ c ∈ other, c.toNat < 128) (h : stem other = stem name) :
    ReflTransGen Respelled name other := by
  have hto := respelled_stem hname
  have hfrom := respelled_stem hother
  rw [h] at hfrom
  have hsymm : Std.Symm Respelled := ⟨fun _ _ => Respelled.symm⟩
  exact hto.trans (Std.Symm.symm _ _ hfrom)

theorem ofName_eq_iff {name other : String} :
    ofName other = ofName name ↔ stem other.toList = stem name.toList := by
  unfold ofName
  rw [String.ofList_inj, chars_eq, chars_eq, List.append_left_inj]

/-- **Keys are normal forms.** The key of a name is a text of small letters, digits,
    underscores and hyphens, with no two hyphens side by side, and then the ending. However
    the name is respelled, its key stays. And where two names are of ASCII characters, they
    have one key only if respelling leads from the one to the other. -/
theorem ofName_normal_form (name : String) :
    (∃ stem : String, ofName name = stem ++ ".save" ∧
      (∀ c ∈ stem.toList, isPlain c = true) ∧ stem.toList.IsChain Apart) ∧
    (∀ other : String, ReflTransGen Respelled name.toList other.toList →
      ofName other = ofName name) ∧
    ((∀ c ∈ name.toList, c.toNat < 128) → ∀ other : String, (∀ c ∈ other.toList, c.toNat < 128) →
      ofName other = ofName name → ReflTransGen Respelled name.toList other.toList) := by
  refine ⟨?_, ?_, ?_⟩
  · obtain ⟨hplain, hchain⟩ := stem_form name.toList
    refine ⟨String.ofList (stem name.toList), ?_, ?_, ?_⟩
    · unfold ofName
      rw [chars_eq, String.ofList_append]
      rfl
    · rw [String.toList_ofList]
      exact hplain
    · rw [String.toList_ofList]
      exact hchain
  · intro other h
    exact ofName_eq_iff.2 (stem_eq_of_respelled h)
  · intro hname other hother h
    exact respelled_of_stem_eq hname hother (ofName_eq_iff.1 h)

/-! ## Section 5: A big day -/

/-- A name with capitals, punctuation and wide spaces has the key of a plain one, and so has
    every other spelling of it. -/
theorem ofName_normal_form_day :
    ofName "Mr. Smith's  Big - Day!" = "mr-smiths-big-day.save" ∧
    ReflTransGen Respelled "Mr. Smith's  Big - Day!".toList "mr smiths big day".toList ∧
    ofName "mr smiths big day" = ofName "Mr. Smith's  Big - Day!" := by
  have hkey : ofName "Mr. Smith's  Big - Day!" = "mr-smiths-big-day.save" := by decide +kernel
  have hplain : ofName "mr smiths big day" = "mr-smiths-big-day.save" := by decide +kernel
  obtain ⟨-, hsame, hrespell⟩ := ofName_normal_form "Mr. Smith's  Big - Day!"
  -- over the characters of a list: there is an instance over all characters, too
  have hascii : ∀ name : String, (name.toList.all fun c => c.toNat < 128) = true →
      ∀ c ∈ name.toList, c.toNat < 128 :=
    fun name h c hc => of_decide_eq_true (List.all_eq_true.1 h c hc)
  have hled : ReflTransGen Respelled "Mr. Smith's  Big - Day!".toList
      "mr smiths big day".toList :=
    hrespell (hascii _ (by decide)) "mr smiths big day" (hascii _ (by decide))
      (hplain.trans hkey.symm)
  exact ⟨hkey, hled, hsame _ hled⟩

end Hyperfiction.SaveKey
