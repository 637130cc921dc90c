import Pipework.Proofs.Shell.Stages
import Pipework.Shell.Arguments

/-!
The words of a stage: cut out of it, and without their quoting.
-/

set_option autoImplicit false
set_option relaxedAutoImplicit false

namespace Pipework.Shell

/-! ## Cutting

Blanks in front of a stage make no difference to its words, and neither do blanks behind a bare
end (`bareWords_append_blanks`). A blank that a backslash escapes belongs to the last word, so
there trimming takes a character of that word away, and nowhere else (`splitWords_trim_iff`).
-/

/-- The words of a text, its quotes balanced or not. -/
def bareWords (t : Text) : List Text :=
  (splitBare Text.isBlank Scan.start t).filter (!·.isEmpty)

theorem splitWords_open {t : Text} (h : (Scan.start.after t).isOpen = true) :
    splitWords t = .error .unterminatedQuote := by
  simp [splitWords, splitWords?, h]

theorem splitWords_closed {t : Text} (h : (Scan.start.after t).isOpen = false) :
    splitWords t = .ok (bareWords t) := by
  simp [splitWords, splitWords?, h, bareWords]

theorem splitWords_eq_error_iff {stage : Text} :
    splitWords stage = .error .unterminatedQuote ↔ (Scan.start.after stage).isOpen = true := by
  cases quotes : (Scan.start.after stage).isOpen with
  | true => simp [splitWords_open quotes]
  | false => simp [splitWords_closed quotes]

theorem splitBare_blanks {b : Text} (hb : Text.Blank b) :
    splitBare Text.isBlank Scan.start b = [] :: b.map fun _ => [] := by
  induction b with
  | nil => rfl
  | cons c b ih =>
    obtain ⟨hc, rest⟩ := Text.blank_cons.1 hb
    have bare : Scan.start.isBare = true := rfl
    simp [splitBare, bare, hc, ih rest]

private theorem filter_blanks (b : Text) :
    (b.map fun _ => ([] : Text)).filter (!·.isEmpty) = [] := by
  induction b with
  | nil => rfl
  | cons c b ih => exact ih

theorem bareWords_blank {b : Text} (hb : Text.Blank b) : bareWords b = [] := by
  rw [bareWords, splitBare_blanks hb]
  exact filter_blanks b

theorem bareWords_append_cut {a : Text} (bare : Scan.start.after a = Scan.start) {c : Char}
    (hc : Text.isBlank c = true) (b : Text) :
    bareWords (a ++ c :: b) = bareWords a ++ bareWords b := by
  rw [bareWords, splitBare_append_cut neutral_blank bare hc, List.filter_append]
  rfl

theorem bareWords_blanks_append {b : Text} (hb : Text.Blank b) (t : Text) :
    bareWords (b ++ t) = bareWords t := by
  induction b with
  | nil => rfl
  | cons c b ih =>
    obtain ⟨hc, rest⟩ := Text.blank_cons.1 hb
    have cut := bareWords_append_cut (a := []) rfl hc (b ++ t)
    rw [List.cons_append, ← ih rest]
    exact cut

theorem bareWords_append_blanks {t : Text} (bare : Scan.start.after t = Scan.start) {b : Text}
    (hb : Text.Blank b) : bareWords (t ++ b) = bareWords t := by
  cases b with
  | nil => rw [List.append_nil]
  | cons c b =>
    obtain ⟨hc, rest⟩ := Text.blank_cons.1 hb
    rw [bareWords_append_cut bare hc, bareWords_blank rest, List.append_nil]

namespace Scan

def escaped : Scan := ⟨.bare, true⟩

theorem eq_start_or_escaped {s : Scan} (h : s.isOpen = false) : s = start ∨ s = escaped := by
  obtain ⟨quoting, escaping⟩ := s
  cases quoting with
  | single => cases h
  | double => cases h
  | bare =>
    cases escaping with
    | false => exact .inl rfl
    | true => exact .inr rfl

theorem next_eq_escaped {s : Scan} {c : Char} (h : s.next c = escaped) :
    c = '\\' ∧ s = start := by
  obtain ⟨quoting, escaping⟩ := s
  unfold next at h
  split at h
  · cases h
  · next free =>
    obtain rfl : escaping = false := by simpa using free
    split at h
    · next backslash =>
      cases h
      exact ⟨backslash.1, rfl⟩
    · repeat' split at h
      all_goals cases h

theorem after_eq_escaped_iff {t : Text} :
    start.after t = escaped ↔ ∃ body, t = body ++ ['\\'] ∧ start.after body = start := by
  constructor
  · intro h
    rcases List.eq_nil_or_concat t with rfl | ⟨body, c, rfl⟩
    · cases h
    · rw [List.concat_eq_append, after_append] at h
      obtain ⟨rfl, bare⟩ := next_eq_escaped h
      exact ⟨body, by simp, bare⟩
  · rintro ⟨body, rfl, bare⟩
    rw [after_append, bare]
    rfl

end Scan

theorem bareWords_append_escaped {t : Text} (waiting : Scan.start.after t = Scan.escaped)
    {c : Char} (hc : Text.isBlank c = true) {b : Text} (hb : Text.Blank b) :
    ∃ front last, bareWords t = front ++ [last] ∧
      bareWords (t ++ c :: b) = front ++ [last ++ [c]] := by
  obtain ⟨front, last, parts, grow, state⟩ := exists_lastPart neutral_blank Scan.start t
  have filled : last ≠ [] := by
    rintro rfl
    rcases state with ⟨-, rfl⟩ | ⟨-, state⟩
    · cases waiting
    · rw [waiting] at state
      cases state
  have behind : splitBare Text.isBlank (Scan.start.after t) (c :: b) =
      [c] :: b.map fun _ => [] := by
    have kept : (Scan.escaped.isBare && Text.isBlank c) = false := rfl
    have freed : Scan.escaped.next c = Scan.start := Scan.next_blank _ hc
    rw [waiting, splitBare, kept, freed, splitBare_blanks hb]
    rfl
  refine ⟨front.filter (!·.isEmpty), last, ?_, ?_⟩
  · simp [bareWords, parts, filled]
  · rw [bareWords, grow _ _ _ behind, List.filter_append, List.filter_cons, filter_blanks]
    simp

/-- The last thing but blanks is a blank that a bare backslash escapes. -/
def EndsEscaped (t : Text) : Prop :=
  ∃ body c b, t = body ++ '\\' :: c :: b ∧ Scan.start.after body = Scan.start ∧
    Text.isBlank c = true ∧ Text.Blank b

theorem splitWords_trim_of_not {t : Text} (h : ¬ EndsEscaped t) :
    splitWords (Text.trim t) = splitWords t := by
  obtain ⟨a, b, ht, ha, hb⟩ := Text.exists_trim t
  have same := Scan.isOpen_after_trim t
  cases quotes : (Scan.start.after t).isOpen with
  | true =>
    rw [quotes] at same
    rw [splitWords_open same, splitWords_open quotes]
  | false =>
    rw [quotes] at same
    have front : bareWords t = bareWords (Text.trim t ++ b) := by
      conv => lhs; rw [ht, List.append_assoc]
      exact bareWords_blanks_append ha _
    rw [splitWords_closed same, splitWords_closed quotes, front]
    cases b with
    | nil => rw [List.append_nil]
    | cons c b =>
      obtain ⟨hc, rest⟩ := Text.blank_cons.1 hb
      have free : Scan.start.after (Text.trim t) ≠ Scan.escaped := by
        intro waiting
        obtain ⟨body, trimmed, bare⟩ := Scan.after_eq_escaped_iff.1 waiting
        refine h ⟨a ++ body, c, b, ?_, ?_, hc, rest⟩
        · conv => lhs; rw [ht, trimmed]
          simp
        · rw [Scan.after_append, Scan.after_blanks ha, bare]
      have bare : Scan.start.after (Text.trim t) = Scan.start :=
        (Scan.eq_start_or_escaped same).resolve_right free
      rw [bareWords_append_blanks bare hb]

/-- Where a stage ends in an escaped blank, trimming takes exactly this blank from its last
word. -/
theorem exists_splitWords_trim {t : Text} (h : EndsEscaped t) :
    ∃ front last c, Text.isBlank c = true ∧ splitWords t = .ok (front ++ [last ++ [c]]) ∧
      splitWords (Text.trim t) = .ok (front ++ [last]) := by
  obtain ⟨body, c, b, rfl, bare, hc, hb⟩ := h
  have blank : Text.Blank (c :: b) := Text.blank_cons.2 ⟨hc, hb⟩
  have waiting : Scan.start.after (body ++ ['\\']) = Scan.escaped :=
    Scan.after_eq_escaped_iff.2 ⟨body, rfl, bare⟩
  have shape : body ++ '\\' :: c :: b = body ++ ['\\'] ++ c :: b := by simp
  have cut : Text.trim (body ++ '\\' :: c :: b) = Text.trim (body ++ ['\\']) := by
    rw [shape, Text.trim_append_blanks blank]
  -- the backslash is no blank, so trimming takes nothing away behind it
  obtain ⟨a, ha, split⟩ := Text.exists_trim_concat body (c := '\\') rfl
  have whole : Scan.start.after (Text.trim (body ++ ['\\'])) = Scan.escaped := by
    rw [← waiting]
    conv => rhs; rw [split]
    rw [Scan.after_append, Scan.after_blanks ha]
  obtain ⟨front, last, short, long⟩ := bareWords_append_escaped whole hc hb
  have same : bareWords (body ++ '\\' :: c :: b) =
      bareWords (Text.trim (body ++ ['\\']) ++ c :: b) := by
    rw [shape]
    conv => lhs; rw [split, List.append_assoc]
    exact bareWords_blanks_append ha _
  have closed : (Scan.start.after (body ++ '\\' :: c :: b)).isOpen = false := by
    rw [shape, Scan.after_append, waiting, Scan.isOpen, Scan.quoting_after_blanks blank]
    rfl
  refine ⟨front, last, c, hc, ?_, ?_⟩
  · rw [splitWords_closed closed, same, long]
  · rw [cut, splitWords_closed (by rw [whole]; rfl), short]

theorem splitWords_trim_iff {t : Text} :
    splitWords (Text.trim t) = splitWords t ↔ ¬ EndsEscaped t := by
  constructor
  · intro same escaped
    obtain ⟨front, last, c, -, long, short⟩ := exists_splitWords_trim escaped
    rw [long, short] at same
    simp at same
  · exact splitWords_trim_of_not

/-! ## Unquoting

A stage is cut by the scan and unquoted by the rules of the portable shell. The two know different
blanks and treat a backslash inside double quotes differently, but character by character they stand
in the same quotes (`Posix.Follows`), so a word of a stage is one word of the shell as well. There
are two exceptions: a number sign in front makes a comment, and behind a backslash at the end the
shell misses a character (`IsWord.exists_words?`).
-/

namespace Posix

/-- Inside a word, the mode that belongs to a state of the scan. -/
inductive Follows : Mode → Scan → Prop
  | plain : Follows .plain .start
  | single : Follows .single ⟨.single, false⟩
  | double : Follows .double ⟨.double, false⟩
  | plainEscape : Follows .plainEscape .escaped
  | doubleEscape : Follows .doubleEscape ⟨.double, true⟩

theorem follows_plainStep (c : Char) : Follows (plainStep c).1 (Scan.start.next c) := by
  by_cases double : c = '\x22'
  · subst double
    exact .double
  by_cases single : c = '\''
  · subst single
    exact .single
  by_cases backslash : c = '\\'
  · subst backslash
    exact .plainEscape
  rw [Scan.next_plain rfl single double backslash]
  simp only [plainStep, double, single, backslash, if_false]
  exact .plain

theorem isBlank_of_isSeparator {c : Char} (h : isSeparator c = true) : Text.isBlank c = true := by
  simp only [isSeparator, Bool.or_eq_true, beq_iff_eq] at h
  rcases h with (rfl | rfl) | rfl <;> rfl

theorem wordsFrom_plain_cons {c : Char} (h : isSeparator c = false) (word t : Text) :
    wordsFrom .plain word (c :: t) = wordsFrom (plainStep c).1 (word ++ (plainStep c).2) t := by
  simp [wordsFrom, h]

theorem Follows.exists_step {m : Mode} {s : Scan} (h : Follows m s) {c : Char}
    (inside : (s.isBare && Text.isBlank c) = false) (word t : Text) :
    ∃ m' word', Follows m' (s.next c) ∧ wordsFrom m word (c :: t) = wordsFrom m' word' t := by
  cases h with
  | plain =>
    -- every blank of the shell is one of the scan, so the shell ends no word earlier
    have bare : Scan.start.isBare = true := rfl
    rw [bare, Bool.true_and] at inside
    have kept : isSeparator c = false := by
      cases hc : isSeparator c with
      | false => rfl
      | true => rw [isBlank_of_isSeparator hc] at inside; cases inside
    exact ⟨_, _, follows_plainStep c, wordsFrom_plain_cons kept word t⟩
  | single =>
    by_cases close : c = '\''
    · subst close
      exact ⟨.plain, word, .plain, by simp [wordsFrom]⟩
    · refine ⟨.single, word ++ [c], ?_, by simp [wordsFrom, close]⟩
      have stays : (⟨.single, false⟩ : Scan).next c = ⟨.single, false⟩ := by
        simp [Scan.next, close]
      rw [stays]
      exact .single
  | double =>
    by_cases close : c = '\x22'
    · subst close
      exact ⟨.plain, word, .plain, by simp [wordsFrom]⟩
    by_cases backslash : c = '\\'
    · subst backslash
      exact ⟨.doubleEscape, word, .doubleEscape, by simp [wordsFrom]⟩
    · refine ⟨.double, word ++ [c], ?_, by simp [wordsFrom, close, backslash]⟩
      have stays : (⟨.double, false⟩ : Scan).next c = ⟨.double, false⟩ := by
        simp [Scan.next, close, backslash]
      rw [stays]
      exact .double
  | plainEscape => exact ⟨.plain, _, .plain, rfl⟩
  | doubleEscape => exact ⟨.double, _, .double, rfl⟩

theorem Follows.wordsFrom_nil {m : Mode} {s : Scan} (h : Follows m s) (word : Text) :
    wordsFrom m word [] = if s = .start then some [word] else none := by
  cases h <;> rfl

/-- From corresponding states, a text without bare blanks is the rest of one word. -/
theorem Follows.exists_wordsFrom {m : Mode} {s : Scan} (h : Follows m s) {t : Text}
    (whole : Undivided Text.isBlank s t) (word : Text) :
    ∃ value, wordsFrom m word t = if s.after t = .start then some [value] else none := by
  induction t generalizing m s word with
  | nil => exact ⟨word, h.wordsFrom_nil word⟩
  | cons c t ih =>
    obtain ⟨inside, behind⟩ := undivided_cons_iff.1 whole
    obtain ⟨m', word', follows, step⟩ := h.exists_step inside word t
    rw [step, Scan.after_cons]
    exact ih follows behind word'

theorem wordsFrom_comment {t : Text} (h : '\n' ∉ t) : wordsFrom .comment [] t = some [] := by
  induction t with
  | nil => rfl
  | cons c t ih =>
    obtain ⟨first, others⟩ := List.ne_and_not_mem_of_not_mem_cons h
    rw [wordsFrom, if_neg first.symm]
    exact ih others

theorem words?_comment {t : Text} (h : '\n' ∉ t) : words? ('#' :: t) = some [] :=
  wordsFrom_comment h

theorem words?_cons {c : Char} (separator : isSeparator c = false) (sign : c ≠ '#') (t : Text) :
    words? (c :: t) = wordsFrom .plain [] (c :: t) := by
  rw [wordsFrom_plain_cons separator, List.nil_append, words?, wordsFrom]
  simp [separator, sign]

end Posix

/-- A word as a stage holds it: it is not empty, no blank stands bare in it, and no quote is left
open behind it. -/
structure IsWord (w : Text) : Prop where
  ne_nil : w ≠ []
  whole : Undivided Text.isBlank Scan.start w
  closed : (Scan.start.after w).isOpen = false

theorem isWord_of_mem {text w : Text} {words : List Text} (read : splitWords text = .ok words)
    (hw : w ∈ words) : IsWord w := by
  cases quotes : (Scan.start.after text).isOpen with
  | true =>
    rw [splitWords_open quotes] at read
    cases read
  | false =>
    rw [splitWords_closed quotes] at read
    obtain rfl : bareWords text = words := Except.ok.inj read
    obtain ⟨among, filled⟩ := List.mem_filter.1 hw
    have cut := bareCut_splitBare neutral_blank Scan.start text
    refine ⟨by simpa using filled, cut.undivided w among, ?_⟩
    obtain ⟨front, last, parts, bare, ends⟩ := cut.exists_last
    rw [parts, List.mem_append, List.mem_singleton] at among
    rcases among with front | rfl
    · rw [bare w front]
      rfl
    · rw [ends]
      exact quotes

/-- The text ends in a backslash that escapes nothing. -/
def EndsLoose (t : Text) : Prop := ∃ body, t = body ++ ['\\'] ∧ Scan.start.after body = Scan.start

/-- Unless a number sign makes it a comment, a word of a stage is one word of the shell, and there
are no words at all if it ends in a loose backslash. -/
theorem IsWord.exists_words? {w : Text} (h : IsWord w) (sign : w.head? ≠ some '#') :
    (¬ EndsLoose w → ∃ value, Posix.words? w = some [value]) ∧
      (EndsLoose w → Posix.words? w = none) := by
  obtain ⟨c, t, rfl⟩ := List.exists_cons_of_ne_nil h.ne_nil
  obtain ⟨inside, -⟩ := undivided_cons_iff.1 h.whole
  have separator : Posix.isSeparator c = false := by
    cases hc : Posix.isSeparator c with
    | false => rfl
    | true =>
      rw [Posix.isBlank_of_isSeparator hc] at inside
      cases inside
  have started : Posix.words? (c :: t) = Posix.wordsFrom .plain [] (c :: t) :=
    Posix.words?_cons separator (by simpa using sign) t
  obtain ⟨value, read⟩ := Posix.Follows.plain.exists_wordsFrom h.whole []
  rw [started, read]
  constructor
  · intro firm
    have bare : Scan.start.after (c :: t) = Scan.start :=
      (Scan.eq_start_or_escaped h.closed).resolve_right (mt Scan.after_eq_escaped_iff.1 firm)
    exact ⟨value, if_pos bare⟩
  · intro loose
    rw [Scan.after_eq_escaped_iff.2 loose]
    rfl

theorem unquote_of_words? {w value : Text} (h : Posix.words? w = some [value]) :
    unquote w = value := by
  rw [unquote, h]

end Pipework.Shell
