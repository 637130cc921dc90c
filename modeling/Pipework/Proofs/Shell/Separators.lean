import Pipework.Proofs.Shell.Words
import Pipework.Proofs.Shell.Flattening

/-!
Words and stages with anything between them that separates.

`Piped Gap` says which words the stages of a command consist of when its gaps are of a kind. A
command on one line keeps its words, and its separators become blanks (`Piped.onOneLine`). With
blanks for gaps the stages of a command are its stages, and their words its words
(`Piped.splitWords_stages`).
-/

set_option autoImplicit false
set_option relaxedAutoImplicit false

namespace Pipework.Shell

/-- Blanks, line ends among them, and continued line ends. -/
inductive Separator : Text → Prop
  | nil : Separator []
  | blank {c : Char} {t : Text} : Text.isBlank c = true → Separator t → Separator (c :: t)
  | continued {t : Text} : Separator t → Separator ('\\' :: '\n' :: t)
  | continuedCarriage {t : Text} : Separator t → Separator ('\\' :: '\r' :: '\n' :: t)

/-- A word that is one word wherever it stands: what would end it stands in quotes, and these
are closed. -/
structure Solid (word : Text) : Prop where
  ne_nil : word ≠ []
  oneLine : '\n' ∉ word
  /-- Every blank stands in quotes, escaped or not. -/
  blanksQuoted : ∀ (n : Nat) (h : n < word.length), Text.isBlank word[n] = true →
    (Scan.start.after (word.take n)).isOpen = true
  /-- Every bar stands in quotes or behind a backslash. -/
  barsProtected : ∀ (n : Nat) (h : n < word.length), word[n] = '|' →
    Scan.start.after (word.take n) ≠ Scan.start
  balanced : (Scan.start.after word).isOpen = false
  last_ne : word.getLast? ≠ some '\\'

/-- Stages with bars between them, and gaps around the words. -/
inductive Piped (Gap : Text → Prop) : List (List Text) → Text → Prop
  | last {gap t : Text} {words : List Text} :
      Gap gap → Text.Spaced Gap words t → Piped Gap [words] (gap ++ t)
  | bar {gap t rest : Text} {words : List Text} {stages : List (List Text)} :
      Gap gap → Text.Spaced Gap words t → Piped Gap stages rest →
      Piped Gap (words :: stages) (gap ++ t ++ '|' :: rest)

namespace Solid

variable {word : Text}

theorem isOpen_of_blank (h : Solid word) {a b : Text} {c : Char} (split : word = a ++ c :: b)
    (hc : Text.isBlank c = true) : (Scan.start.after a).isOpen = true := by
  subst split
  have quoted := h.blanksQuoted a.length (by simp)
  simpa [hc] using quoted

theorem after_eq (h : Solid word) : Scan.start.after word = Scan.start := by
  refine (Scan.eq_start_or_escaped h.balanced).resolve_right fun waiting => ?_
  obtain ⟨body, rfl, -⟩ := Scan.after_eq_escaped_iff.1 waiting
  exact h.last_ne (by simp)

theorem isBlank_head (h : Solid word) {c : Char} (first : word.head? = some c) :
    Text.isBlank c = false := by
  obtain ⟨rest, rfl⟩ := List.head?_eq_some_iff.1 first
  refine Bool.eq_false_iff.2 fun hc => ?_
  have quoted := h.isOpen_of_blank (a := []) rfl hc
  cases quoted

theorem exists_firm (h : Solid word) : ∃ front e, word = front ++ [e] ∧ isFirm e = true := by
  have split := (List.dropLast_concat_getLast h.ne_nil).symm
  refine ⟨word.dropLast, word.getLast h.ne_nil, split, ?_⟩
  have backslash : word.getLast h.ne_nil ≠ '\\' := by
    intro same
    exact h.last_ne (by rw [List.getLast?_eq_some_getLast h.ne_nil, same])
  have visible : Text.isBlank (word.getLast h.ne_nil) = false := by
    refine Bool.eq_false_iff.2 fun blank => ?_
    have opened := h.isOpen_of_blank split blank
    have closed := h.balanced
    rw [split, Scan.after_append, Scan.after_cons, Scan.next_blank _ blank] at closed
    simp only [Scan.isOpen, Scan.after_nil] at opened closed
    simp [closed] at opened
  simp [isFirm, visible, backslash]

theorem enclosed (h : Solid word) : Enclosed word := by
  refine ⟨h.after_eq, (undivided_iff neutral_bar word).2 ?_⟩
  rintro ⟨a, c, b, rfl, hc, bare⟩
  have guarded := h.barsProtected a.length (by simp)
  simp [bare, beq_iff_eq.1 hc] at guarded

theorem bareWords_eq (h : Solid word) : bareWords word = [word] := by
  have whole : splitBare Text.isBlank Scan.start word = [word] := by
    refine (undivided_iff neutral_blank word).2 ?_
    rintro ⟨a, c, b, split, hc, bare⟩
    have opened := h.isOpen_of_blank split hc
    rw [bare] at opened
    cases opened
  simp [bareWords, whole, h.ne_nil]

end Solid

/-! ### On one line -/

private theorem exists_joinContinued_separator {gap : Text} (hgap : Separator gap) {b : Text}
    (oneLine : '\n' ∉ b) (head : ∀ c, b.head? = some c → Text.isBlank c = false)
    (inIndent : Bool) :
    ∃ blanks, Text.Blank blanks ∧ (inIndent = false → gap ≠ [] → blanks ≠ []) ∧
      joinContinued inIndent (gap ++ b) = blanks ++ b := by
  -- a continuation takes away the blanks behind it, so the state goes through the induction
  induction hgap generalizing inIndent with
  | nil =>
    exact ⟨[], Text.blank_nil, fun _ ne => absurd rfl ne,
      joinContinued_of_head oneLine head inIndent⟩
  | @blank c gap hc hgap ih =>
    rw [List.cons_append, joinContinued_blank hc]
    cases inIndent with
    | true =>
      obtain ⟨blanks, hblanks, -, joined⟩ := ih true
      exact ⟨blanks, hblanks, nofun, joined⟩
    | false =>
      obtain ⟨blanks, hblanks, -, joined⟩ := ih false
      refine ⟨c :: blanks, Text.blank_cons.2 ⟨hc, hblanks⟩, fun _ _ => List.cons_ne_nil _ _, ?_⟩
      rw [if_neg (by decide), joined, List.cons_append]
  | continued hgap ih | continuedCarriage hgap ih =>
    obtain ⟨blanks, hblanks, -, joined⟩ := ih true
    refine ⟨' ' :: blanks, Text.blank_cons.2 ⟨rfl, hblanks⟩, fun _ _ => List.cons_ne_nil _ _, ?_⟩
    simp only [List.cons_append, joinContinued, joined]

theorem exists_flatten_separator {gap : Text} (hgap : Separator gap) {b : Text}
    (oneLine : '\n' ∉ b) (head : ∀ c, b.head? = some c → Text.isBlank c = false) :
    ∃ blanks, Text.Blank blanks ∧ (gap ≠ [] → blanks ≠ []) ∧ flatten (gap ++ b) = blanks ++ b := by
  obtain ⟨blanks, hblanks, filled, joined⟩ :=
    exists_joinContinued_separator hgap oneLine head false
  obtain ⟨blank, left⟩ := joinLines_blanks hblanks
  refine ⟨joinLines blanks, blank, fun ne => left (filled rfl ne), ?_⟩
  rw [flatten, joined, joinLines_append_oneLine oneLine]

theorem exists_flatten_spaced {words : List Text} {t : Text} (ht : Text.Spaced Separator words t)
    (solid : ∀ word ∈ words, Solid word) {gap : Text} (hgap : Separator gap) :
    ∃ blanks t', Text.Blank blanks ∧ (gap ≠ [] → blanks ≠ []) ∧ Text.Spaced Text.Blank words t' ∧
      flatten (gap ++ t) = blanks ++ t' := by
  induction ht generalizing gap with
  | nil =>
    obtain ⟨blanks, hblanks, filled, flat⟩ :=
      exists_flatten_separator hgap (b := []) (by simp) nofun
    exact ⟨blanks, [], hblanks, filled, .nil, flat⟩
  | @word word gap' rest words hgap' apart hrest ih =>
    obtain ⟨hword, others⟩ := List.forall_mem_cons.1 solid
    obtain ⟨blanks, hblanks, filled, flat⟩ :=
      exists_flatten_separator hgap hword.oneLine fun _ => hword.isBlank_head
    obtain ⟨blanks', rest', hblanks', filled', spaced, flat'⟩ := ih others hgap'
    obtain ⟨front, e, last, he⟩ := hword.exists_firm
    have ends : ∃ front e, gap ++ word = front ++ [e] ∧ isFirm e = true :=
      ⟨gap ++ front, e, by rw [last, List.append_assoc], he⟩
    refine ⟨blanks, word ++ (blanks' ++ rest'), hblanks, filled,
      .word hblanks' (fun ne => filled' (apart ne)) spaced, ?_⟩
    rw [← List.append_assoc, flatten_append_last ends, flat, flat', List.append_assoc]

theorem Piped.onOneLine {stages : List (List Text)} {command : Text}
    (h : Piped Separator stages command) (solid : ∀ words ∈ stages, ∀ word ∈ words, Solid word) :
    Piped Text.Blank stages (flatten command) := by
  induction h with
  | last hgap ht =>
    obtain ⟨blanks, t', hblanks, -, spaced, flat⟩ :=
      exists_flatten_spaced ht (solid _ List.mem_cons_self) hgap
    rw [flat]
    exact .last hblanks spaced
  | bar hgap ht hrest ih =>
    obtain ⟨first, others⟩ := List.forall_mem_cons.1 solid
    obtain ⟨blanks, t', hblanks, -, spaced, flat⟩ := exists_flatten_spaced ht first hgap
    have firm : isFirm '|' = true := rfl
    rw [flatten_append_firm firm, flat]
    exact .bar hblanks spaced (ih others)

/-! ### Cut into stages and words -/

theorem enclosed_spaced {words : List Text} {t : Text} (h : Text.Spaced Text.Blank words t)
    (solid : ∀ word ∈ words, Solid word) : Enclosed t := by
  induction h with
  | nil => exact enclosed_blank Text.blank_nil
  | word hgap _ _ ih =>
    obtain ⟨hword, others⟩ := List.forall_mem_cons.1 solid
    exact hword.enclosed.append ((enclosed_blank hgap).append (ih others))

theorem bareWords_spaced {words : List Text} {t : Text} (h : Text.Spaced Text.Blank words t)
    (solid : ∀ word ∈ words, Solid word) : bareWords t = words := by
  refine h.cut_eq rfl (fun word => Solid.bareWords_eq) (fun word c t hword hc => ?_)
    (fun b t hb => bareWords_blanks_append hb t) solid
  rw [bareWords_append_cut hword.after_eq hc, hword.bareWords_eq]
  rfl

theorem eq_nil_or_firm_spaced {words : List Text} {t : Text} (h : Text.Spaced Text.Blank words t)
    (solid : ∀ word ∈ words, Solid word) :
    t = [] ∨ ∃ front e b, t = front ++ e :: b ∧ isFirm e = true ∧ Text.Blank b := by
  induction h with
  | nil => exact .inl rfl
  | @word word gap rest words hgap _ hrest ih =>
    obtain ⟨hword, others⟩ := List.forall_mem_cons.1 solid
    right
    rcases ih others with rfl | ⟨front, e, b, rfl, he, hb⟩
    · obtain ⟨front, e, rfl, he⟩ := hword.exists_firm
      exact ⟨front, e, gap, by simp, he, hgap⟩
    · exact ⟨word ++ (gap ++ front), e, b, by simp, he, hb⟩

theorem splitWords_trim_spaced {words : List Text} {t : Text} (h : Text.Spaced Text.Blank words t)
    (solid : ∀ word ∈ words, Solid word) {gap : Text} (hgap : Text.Blank gap) :
    splitWords (Text.trim (gap ++ t)) = .ok words := by
  have closed : Enclosed (gap ++ t) := (enclosed_blank hgap).append (enclosed_spaced h solid)
  have free : ¬ EndsEscaped (gap ++ t) := by
    rintro ⟨body, c, b, split, -, hc, hb⟩
    have blank : Text.Blank (c :: b) := Text.blank_cons.2 ⟨hc, hb⟩
    rcases eq_nil_or_firm_spaced h solid with rfl | ⟨front, e, b', rfl, he, hb'⟩
    · have backslash := hgap '\\' (by rw [← List.append_nil gap, split]; simp)
      cases backslash
    · rw [← List.append_assoc] at split
      obtain ⟨-, same, -⟩ :=
        Text.append_blanks_inj split hb' blank (isBlank_of_isFirm he) rfl
      exact Text.ne_of_class he rfl same
  have balanced : (Scan.start.after (gap ++ t)).isOpen = false := by
    rw [closed.closed]
    rfl
  rw [splitWords_trim_of_not free, splitWords_closed balanced, bareWords_blanks_append hgap,
    bareWords_spaced h solid]

theorem Piped.splitWords_stages {stages : List (List Text)} {command : Text}
    (h : Piped Text.Blank stages command) (solid : ∀ words ∈ stages, ∀ word ∈ words, Solid word) :
    (splitStages command).map splitWords = stages.map .ok := by
  induction h with
  | @last gap t words hgap ht =>
    have hwords := solid words List.mem_cons_self
    have whole : Enclosed (gap ++ t) := (enclosed_blank hgap).append (enclosed_spaced ht hwords)
    simp [whole.splitStages_eq, splitWords_trim_spaced ht hwords hgap]
  | @bar gap t rest words stages hgap ht hrest ih =>
    obtain ⟨hwords, others⟩ := List.forall_mem_cons.1 solid
    have whole : Enclosed (gap ++ t) := (enclosed_blank hgap).append (enclosed_spaced ht hwords)
    rw [splitStages_append_cut whole.closed, whole.splitStages_eq, List.map_append, ih others]
    simp [splitWords_trim_spaced ht hwords hgap]

end Pipework.Shell
