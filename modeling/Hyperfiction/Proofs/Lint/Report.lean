import Hyperfiction.Proofs.Link.Cut
import Hyperfiction.Proofs.Lint.Reachability

/-! # What the linter reports

    Each error and each warning stands for one fact about the story: a report lists exactly
    the texts that are no templates, the targets that are missing or computed, and the
    passages that no chain of links leads to. So a story without any of them has links that
    all lead to its passages.
-/

namespace Hyperfiction

namespace Lint

open LinkPiece

variable {s : Story} {p : Passage} {target : String}

/-! ## Section 1: What is looked at -/

/-- The text has a link to a passage, with the target. -/
def LinksTo (cs : List Char) (target : String) : Prop :=
  ∃ link ∈ linksIn cs, link.isInternal = true ∧ link.target = target

theorem mem_linksOf_iff {link : Link} :
    link ∈ linksOf p ↔ link ∈ linksIn p.text.toList ∧ link.isInternal = true := by
  rw [linksOf, extract_eq, List.mem_filter]

theorem mem_texts_iff :
    p ∈ s.passages.toList.filter isText ↔ p ∈ s.passages.toList ∧ p.name ≠ configName := by
  rw [List.mem_filter, isText, decide_eq_true_iff]

/-! ## Section 2: Errors -/

theorem badTemplate_mem_errors_iff {e : Template.ParseError} :
    Finding.badTemplate p e ∈ (report s).errors ↔
      (p ∈ s.passages.toList ∧ p.name ≠ configName) ∧ Template.parse p.text = .error e := by
  rw [← mem_texts_iff]
  constructor
  · intro h
    obtain ⟨q, hq, hfound⟩ := List.mem_flatMap.1 h
    rcases List.mem_append.1 hfound with hbad | hmissing
    · split at hbad
      · cases hbad
      · obtain ⟨rfl, rfl⟩ := Finding.badTemplate.inj (List.mem_singleton.1 hbad)
        exact ⟨hq, ‹_›⟩
    · obtain ⟨link, -, hfinding⟩ := List.mem_filterMap.1 hmissing
      split_ifs at hfinding
      cases hfinding
  · rintro ⟨hmem, hparse⟩
    refine List.mem_flatMap.2 ⟨p, hmem, List.mem_append_left _ ?_⟩
    rw [hparse]
    exact List.mem_singleton_self _

/-- The linter reports the targets in a text that no tag begins in and no passage has for a
    name. -/
theorem missingTarget_mem_errors_iff :
    Finding.missingTarget p target ∈ (report s).errors ↔
      (p ∈ s.passages.toList ∧ p.name ≠ configName) ∧ LinksTo p.text.toList target ∧
        isComputed target = false ∧ s.passageNamed? target = none := by
  rw [← mem_texts_iff]
  constructor
  · intro h
    obtain ⟨q, hq, hfound⟩ := List.mem_flatMap.1 h
    rcases List.mem_append.1 hfound with hbad | hmissing
    · split at hbad
      · cases hbad
      · cases List.mem_singleton.1 hbad
    · obtain ⟨link, hlink, hfinding⟩ := List.mem_filterMap.1 hmissing
      split_ifs at hfinding with hknown
      obtain ⟨rfl, rfl⟩ := Finding.missingTarget.inj (Option.some.inj hfinding)
      rw [not_or, Bool.not_eq_true, Bool.not_eq_true, Option.isSome_eq_false_iff,
        Option.isNone_iff_eq_none] at hknown
      obtain ⟨hread, hinternal⟩ := mem_linksOf_iff.1 hlink
      exact ⟨hq, ⟨link, hread, hinternal, rfl⟩, hknown⟩
  · rintro ⟨hmem, ⟨link, hread, hinternal, rfl⟩, hcomputed, hmissing⟩
    refine List.mem_flatMap.2 ⟨p, hmem, List.mem_append_right _ (List.mem_filterMap.2 ?_)⟩
    refine ⟨link, mem_linksOf_iff.2 ⟨hread, hinternal⟩, ?_⟩
    rw [hcomputed, hmissing]
    rfl

/-! ## Section 3: Warnings -/

theorem computedTarget_mem_warnings_iff :
    Doubt.computedTarget p target ∈ (report s).warnings ↔
      (p ∈ s.passages.toList ∧ p.name ≠ configName) ∧ LinksTo p.text.toList target ∧
        isComputed target = true := by
  rw [← mem_texts_iff]
  constructor
  · intro h
    rcases List.mem_append.1 h with hcomputed | hunreachable
    · obtain ⟨q, hq, hfound⟩ := List.mem_flatMap.1 hcomputed
      obtain ⟨link, hlink, hdoubt⟩ := List.mem_filterMap.1 hfound
      split_ifs at hdoubt with hyes
      obtain ⟨rfl, rfl⟩ := Doubt.computedTarget.inj (Option.some.inj hdoubt)
      obtain ⟨hread, hinternal⟩ := mem_linksOf_iff.1 hlink
      exact ⟨hq, ⟨link, hread, hinternal, rfl⟩, hyes⟩
    · obtain ⟨q, -, hdoubt⟩ := List.mem_map.1 hunreachable
      cases hdoubt
  · rintro ⟨hmem, ⟨link, hread, hinternal, rfl⟩, hcomputed⟩
    refine List.mem_append_left _ (List.mem_flatMap.2 ⟨p, hmem, List.mem_filterMap.2 ?_⟩)
    exact ⟨link, mem_linksOf_iff.2 ⟨hread, hinternal⟩, if_pos hcomputed⟩

/-- The header, the footer and the configuration are never said to be unreachable, and any
    other passage is exactly if no chain of links leads to it. -/
theorem unreachable_mem_warnings_iff :
    Doubt.unreachable p ∈ (report s).warnings ↔
      p ∈ s.passages.toList ∧ p.name ∉ [headerName, footerName, configName] ∧
        ¬ Reachable s p.id := by
  have hkept : p ∈ s.passages.toList.filter (fun q =>
        !([headerName, footerName, configName].contains q.name) && !(reachable s).contains q.id) ↔
      p ∈ s.passages.toList ∧ p.name ∉ [headerName, footerName, configName] ∧
        ¬ Reachable s p.id := by
    rw [List.mem_filter, Bool.and_eq_true, Bool.not_eq_true', Bool.not_eq_true',
      List.contains_eq_mem, List.contains_eq_mem, decide_eq_false_iff_not, decide_eq_false_iff_not,
      mem_reachable_iff]
  rw [← hkept]
  constructor
  · intro h
    rcases List.mem_append.1 h with hcomputed | hunreachable
    · obtain ⟨q, -, hfound⟩ := List.mem_flatMap.1 hcomputed
      obtain ⟨link, -, hdoubt⟩ := List.mem_filterMap.1 hfound
      split_ifs at hdoubt
      cases hdoubt
    · obtain ⟨q, hq, hdoubt⟩ := List.mem_map.1 hunreachable
      obtain rfl := Doubt.unreachable.inj hdoubt
      exact hq
  · intro hmem
    exact List.mem_append_right _ (List.mem_map_of_mem hmem)

end Lint

/-! ## Section 4: Nothing to report -/

/-- The linter has found nothing. -/
structure Story.IsClean (s : Story) : Prop where
  errors : (Lint.report s).errors = []
  warnings : (Lint.report s).warnings = []

/-- No link of such a story has a target that is computed or missing. -/
theorem Story.IsClean.exists_target {s : Story} (h : s.IsClean) {p : Passage}
    (hp : p ∈ s.passages.toList) (hname : p.name ≠ configName) {link : Link}
    (hl : link ∈ Lint.linksOf p) : ∃ q, s.passageNamed? link.target = some q := by
  obtain ⟨hread, hinternal⟩ := Lint.mem_linksOf_iff.1 hl
  have hlinks : Lint.LinksTo p.text.toList link.target := ⟨link, hread, hinternal, rfl⟩
  have hcomputed : Lint.isComputed link.target = false := by
    by_contra hyes
    rw [Bool.not_eq_false] at hyes
    have hdoubt := Lint.computedTarget_mem_warnings_iff.2 ⟨⟨hp, hname⟩, hlinks, hyes⟩
    rw [h.warnings] at hdoubt
    cases hdoubt
  by_contra hmissing
  have hnone : s.passageNamed? link.target = none :=
    Option.eq_none_iff_forall_not_mem.2 fun q hq => hmissing ⟨q, hq⟩
  have herror := Lint.missingTarget_mem_errors_iff.2 ⟨⟨hp, hname⟩, hlinks, hcomputed, hnone⟩
  rw [h.errors] at herror
  cases herror

end Hyperfiction
