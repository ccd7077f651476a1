import Hyperfiction.Storage.Folder
import Hyperfiction.Storage.Slot

/-! # Keys of saved games

    A key is a file's name in the folder of a store exactly when something of the
    story's name is left in it. All that is ever left are ASCII letters, digits,
    underscores and hyphens, so the one thing that can go wrong is a key of nothing
    but its ending, which starts with a dot.
-/

namespace Hyperfiction

/-! ## Section 1: Lower case among the characters of ASCII -/

namespace Text

/-- What holds of the first characters by their numbers holds of them. -/
theorem char_all_lt {b : Nat} {P : Char → Prop} (h : ∀ n < b, P (Char.ofNat n)) {c : Char}
    (hc : c.toNat < b) : P c := by
  have hP := h c.toNat hc
  rwa [Char.ofNat_toNat] at hP

/-- A run of a table that stays clear of ASCII. -/
def StaysClear (r : CaseRun) : Prop :=
  128 ≤ (r.1 : Int) + r.2.2.2

instance (r : CaseRun) : Decidable (StaysClear r) :=
  inferInstanceAs (Decidable (128 ≤ (r.1 : Int) + r.2.2.2))

/-- The sign of the unit kelvin; its lower case is the letter k. -/
def kelvinSign : Char := Char.ofNat 0x212A

/-- The capital letter i with a dot; its lower case is the letter i and the dot. -/
def dottedCapitalI : Char := Char.ofNat 0x130

/-- A code point that is led somewhere is led clear of ASCII, if all runs it lies in are. -/
theorem le_of_runTarget? {n m : Nat} {runs : List CaseRun}
    (hclear : ∀ r ∈ runs, StaysClear r ∨ n < r.1 ∨ r.2.1 < n)
    (h : runTarget? n runs = some m) : 128 ≤ m := by
  fun_induction runTarget? n runs with
  | case1 => cases h
  | case2 first last step shift runs hin =>
    obtain rfl : (n + shift).toNat = m := Option.some.inj h
    rcases hclear _ List.mem_cons_self with hr | hr | hr
    · have : (128 : Int) ≤ first + shift := hr
      omega
    · exact absurd hin.1 (Nat.not_le.2 hr)
    · exact absurd hin.2.1 (Nat.not_le.2 hr)
  | case3 first last step shift runs hout ih =>
    exact ih (fun r hr => hclear r (List.mem_cons_of_mem _ hr)) h

/-- The kelvin sign is the only character beyond ASCII in a run that leads into it. -/
theorem lowerRuns_clear : ∀ r ∈ lowerRuns, StaysClear r ∨ (r.1 = 0x212A ∧ r.2.1 = 0x212A) := by
  decide +kernel

end Text

/-! ## Section 2: What is kept of a name -/

namespace SaveKey

open Text

/-- Whether a character of a name leaves something in the key: the characters that are
    kept, and two more whose lower case starts with one. -/
def leavesMark (c : Char) : Bool :=
  isKept c || c = kelvinSign || c = dottedCapitalI

theorem lt_of_isKept {c : Char} (h : isKept c = true) : c.toNat < 128 := by
  unfold isKept at h
  simp only [Bool.or_eq_true, decide_eq_true_eq] at h
  rcases h with (h | rfl) | rfl
  · -- the three ranges of letters and digits
    change (decide (65 ≤ c.val ∧ c.val ≤ 90) || (decide (97 ≤ c.val) && decide (c.val ≤ 122)) ||
      (decide (48 ≤ c.val) && decide (c.val ≤ 57))) = true at h
    simp only [Bool.or_eq_true, Bool.and_eq_true, decide_eq_true_eq,
      UInt32.le_iff_toNat_le] at h
    have hval : c.toNat = c.val.toNat := rfl
    have hlast : (90 : UInt32).toNat < 128 ∧ (122 : UInt32).toNat < 128 ∧
        (57 : UInt32).toNat < 128 := by decide
    omega
  · decide
  · decide

theorem isKept_ofNat {n : Nat} (h : 128 ≤ n) : isKept (Char.ofNat n) = false := by
  rw [Bool.eq_false_iff]
  intro hkept
  by_cases hvalid : n.isValidChar
  · have hlt := lt_of_isKept hkept
    have hn : (Char.ofNat n).toNat = n := by
      unfold Char.ofNat
      rw [dif_pos hvalid]
      rfl
    omega
  · -- a number that is none of a character stands for the one without a mark
    have hzero : Char.ofNat n = Char.ofNat 0 := by
      unfold Char.ofNat
      rw [dif_neg hvalid]
      rfl
    rw [hzero] at hkept
    revert hkept
    decide

theorem isKept_toLower {c : Char} (h : c.toNat < 128) : isKept c.toLower = isKept c := by
  refine char_all_lt (P := fun c => isKept c.toLower = isKept c) ?_ h
  decide

theorem isKept_of_ge {c : Char} (h : 128 ≤ c.toNat) : isKept c = false := by
  rw [Bool.eq_false_iff]
  intro hkept
  exact absurd (lt_of_isKept hkept) (Nat.not_lt.2 h)

/-- The lower case of a character has one that is kept exactly if the character leaves
    a mark. -/
theorem any_isKept_lowerChar (c : Char) : (lowerChar c).any isKept = leavesMark c := by
  by_cases hlt : c.toNat < 128
  · have hkelvin : c ≠ kelvinSign := by rintro rfl; revert hlt; decide
    have hdotted : c ≠ dottedCapitalI := by rintro rfl; revert hlt; decide
    unfold lowerChar leavesMark
    rw [if_pos hlt, List.any_cons, List.any_nil, isKept_toLower hlt]
    simp [hkelvin, hdotted]
  · -- beyond ASCII only the two exceptions leave a mark, and they are computed
    by_cases hdotted : c = dottedCapitalI
    · subst hdotted
      decide +kernel
    by_cases hkelvin : c = kelvinSign
    · subst hkelvin
      decide +kernel
    have hbare : leavesMark c = false := by
      unfold leavesMark
      simp [isKept_of_ge (Nat.not_lt.1 hlt), hdotted, hkelvin]
    have hcode : ∀ n : Nat, n.isValidChar → c ≠ Char.ofNat n → c.toNat ≠ n := by
      rintro n - hne rfl
      exact hne (Char.ofNat_toNat c).symm
    have hdottedCode : (c.toNat == 0x130) = false := by
      simpa using hcode 0x130 (by decide) hdotted
    have hkelvinCode : c.toNat ≠ 0x212A := hcode 0x212A (by decide) hkelvin
    rw [hbare]
    unfold lowerChar
    rw [if_neg hlt]
    unfold lowerExpansions
    rw [List.lookup_cons, hdottedCode]
    dsimp only [List.lookup_nil]
    -- any other character stays, or is led clear of ASCII by the run it lies in
    cases htarget : runTarget? c.toNat lowerRuns with
    | none =>
      simpa using isKept_of_ge (Nat.not_lt.1 hlt)
    | some m =>
      have hclear : 128 ≤ m := by
        refine le_of_runTarget? (fun r hr => ?_) htarget
        rcases lowerRuns_clear r hr with hstays | ⟨hfirst, hlast⟩
        · exact .inl hstays
        · omega
      simpa using isKept_ofNat hclear

/-- Something of a lower-case text is kept exactly if a character leaves a mark. -/
theorem any_isKept_lowerFrom (before cs : List Char) :
    (lowerFrom before cs).any isKept = cs.any leavesMark := by
  induction cs generalizing before with
  | nil => rfl
  | cons c cs ih =>
    rw [lowerFrom, List.any_cons]
    by_cases hsigma : c = capitalSigma
    · -- whichever small sigma it becomes, neither is kept
      subst hsigma
      have hsmall : isKept smallSigma = false := by decide
      have hfinal : isKept finalSigma = false := by decide
      have hcapital : leavesMark capitalSigma = false := by decide
      rw [if_pos rfl, List.any_cons, ih, hcapital]
      split
      · rw [hfinal]
      · rw [hsmall]
    · rw [if_neg hsigma, List.any_append, any_isKept_lowerChar, ih]

/-! ## Section 3: The characters of a key -/

/-- Whether a character can stand before the ending of a key. -/
def isKeyChar (c : Char) : Bool :=
  c = '-' || (isKept c && c ≠ ' ')

theorem isKeyChar_of_mem_dashed {inRun : Bool} {cs : List Char}
    (hkept : ∀ c ∈ cs, isKept c = true) : ∀ c ∈ dashed inRun cs, isKeyChar c = true := by
  induction cs generalizing inRun with
  | nil => simp [dashed]
  | cons c cs ih =>
    have hrest : ∀ c ∈ cs, isKept c = true := fun c hc => hkept c (List.mem_cons_of_mem _ hc)
    intro d hd
    rw [dashed] at hd
    by_cases hspace : c = ' '
    · rw [if_pos hspace] at hd
      -- only the first space of a run leaves a hyphen
      cases inRun with
      | true => exact ih hrest d hd
      | false =>
        rcases List.mem_cons.1 hd with rfl | hd
        · decide
        · exact ih hrest d hd
    · rw [if_neg hspace] at hd
      rcases List.mem_cons.1 hd with rfl | hd
      · simp [isKeyChar, hkept d List.mem_cons_self, hspace]
      · exact ih hrest d hd

theorem dashed_eq_nil {cs : List Char} : dashed false cs = [] ↔ cs = [] := by
  cases cs with
  | nil => exact ⟨fun _ => rfl, fun _ => rfl⟩
  | cons c cs =>
    refine ⟨fun h => ?_, fun h => nomatch h⟩
    rw [dashed] at h
    by_cases hspace : c = ' '
    · rw [if_pos hspace] at h
      cases h
    · rw [if_neg hspace] at h
      cases h

/-- A character of a key can be part of a file's name, and does not hide the file. -/
theorem ne_of_isKeyChar {c : Char} (h : isKeyChar c = true) :
    c ≠ '.' ∧ c ≠ '/' ∧ c ≠ '\\' ∧ c.toNat ≠ 0 := by
  refine ⟨?_, ?_, ?_, ?_⟩
  · rintro rfl; revert h; decide
  · rintro rfl; revert h; decide
  · rintro rfl; revert h; decide
  · intro hzero
    obtain rfl : c = Char.ofNat 0 := by rw [← hzero, Char.ofNat_toNat]
    revert h
    decide

theorem ne_of_mem_ending : ∀ c ∈ ending, c ≠ '/' ∧ c ≠ '\\' ∧ c.toNat ≠ 0 := by
  intro c hc
  simp only [ending, List.mem_cons, List.not_mem_nil, or_false] at hc
  rcases hc with rfl | rfl | rfl | rfl | rfl <;> decide

/-- What stands before the ending of a name's key. -/
def stem (name : List Char) : List Char :=
  dashed false ((Text.lower name).filter isKept)

theorem chars_eq (name : List Char) : chars name = stem name ++ ending := rfl

theorem isKeyChar_of_mem_stem {name : List Char} : ∀ c ∈ stem name, isKeyChar c = true :=
  isKeyChar_of_mem_dashed fun _ hc => (List.mem_filter.1 hc).2

theorem stem_eq_nil {name : List Char} : stem name = [] ↔ name.any leavesMark = false := by
  unfold stem
  rw [dashed_eq_nil, ← any_isKept_lowerFrom [], List.filter_eq_nil_iff, List.any_eq_false]
  rfl

/-- The key of a name that leaves no mark is the bare ending. -/
theorem ofName_bare {name : String} (h : name.toList.any leavesMark = false) :
    ofName name = ".save" := by
  unfold ofName
  rw [chars_eq, stem_eq_nil.2 h]
  rfl

theorem isKey_cons {c : Char} {cs : List Char} :
    FolderStore.isKey (String.ofList (c :: cs)) =
      (c ≠ '.' && (c :: cs).all fun c => c ≠ '/' && c ≠ '\\') := by
  unfold FolderStore.isKey
  rw [String.toList_ofList]

/-- The key of a name can be a key of a folder exactly if the name leaves a mark. -/
theorem isKey_ofName (name : String) :
    FolderStore.isKey (ofName name) = name.toList.any leavesMark := by
  cases hmark : name.toList.any leavesMark with
  | false =>
    rw [ofName_bare hmark]
    decide
  | true =>
    unfold ofName
    rw [chars_eq]
    cases hstem : stem name.toList with
    | nil => rw [stem_eq_nil.1 hstem] at hmark; cases hmark
    | cons c cs =>
      -- the first character of the stem is that of the key, and it is no dot
      have hchars : ∀ d ∈ c :: cs, isKeyChar d = true := by
        rw [← hstem]
        exact isKeyChar_of_mem_stem
      have hall : ∀ d ∈ c :: (cs ++ ending), d ≠ '/' ∧ d ≠ '\\' := by
        intro d hd
        rcases List.mem_append.1 (List.cons_append ▸ hd) with hd | hd
        · exact ⟨(ne_of_isKeyChar (hchars d hd)).2.1, (ne_of_isKeyChar (hchars d hd)).2.2.1⟩
        · exact ⟨(ne_of_mem_ending d hd).1, (ne_of_mem_ending d hd).2.1⟩
      rw [List.cons_append, isKey_cons, List.all_eq_true.2 fun d hd => by simpa using hall d hd]
      simpa using (ne_of_isKeyChar (hchars c List.mem_cons_self)).1

/-- The key of a name can be a file's name unless it is too long. -/
theorem isName_ofName {name : String}
    (hfits : (ofName name).utf8ByteSize ≤ FileTree.maxNameBytes) :
    FileTree.isName (ofName name) = true := by
  have hchars : ∀ c ∈ (ofName name).toList, c.toNat ≠ 0 := by
    intro c hc
    unfold ofName at hc
    rw [String.toList_ofList, chars_eq] at hc
    rcases List.mem_append.1 hc with hc | hc
    · exact (ne_of_isKeyChar (isKeyChar_of_mem_stem c hc)).2.2.2
    · exact (ne_of_mem_ending c hc).2.2
  unfold FileTree.isName
  rw [List.all_eq_true.2 fun c hc => by simpa using hchars c hc]
  simpa using hfits

end SaveKey

end Hyperfiction
