import Mathlib.Data.List.Chain
import Mathlib.Data.List.Forall2
import Pipework.Text

/-!
Parts, lines, fields and runs of a text, and lists that correspond place by place.
-/

set_option autoImplicit false
set_option relaxedAutoImplicit false

namespace Pipework.Text

/-! ## Parts

The parts of a text, side by side, are the text with some characters left out.
-/

theorem flatten_growHead (c : Char) (parts : List Text) :
    (growHead c parts).flatten = c :: parts.flatten := by
  cases parts <;> rfl

theorem growHead_append (c : Char) {parts : List Text} (more : List Text) (h : parts ≠ []) :
    growHead c (parts ++ more) = growHead c parts ++ more := by
  obtain ⟨part, rest, rfl⟩ := List.exists_cons_of_ne_nil h
  rfl

theorem splitWhere_sublist (p : Char → Bool) (t : Text) : (splitWhere p t).flatten.Sublist t := by
  fun_induction splitWhere p t with
  | case1 => simp
  | case2 c t found ih =>
    rw [List.flatten_cons, List.nil_append]
    exact ih.cons c
  | case3 c t found ih =>
    rw [flatten_growHead]
    exact ih.cons_cons c

theorem splitAtTextFrom_sublist (sep : Text) (skip : Nat) (t : Text) :
    (splitAtTextFrom sep skip t).flatten.Sublist t := by
  fun_induction splitAtTextFrom sep skip t with
  | case1 skip => simp
  | case2 skip c t ih => exact ih.cons c
  | case3 c t found ih =>
    rw [List.flatten_cons, List.nil_append]
    exact ih.cons c
  | case4 c t found ih =>
    rw [flatten_growHead]
    exact ih.cons_cons c

theorem mem_of_mem_join {sep : Text} {parts : List Text} {c : Char} (h : c ∈ join sep parts) :
    c ∈ sep ∨ c ∈ parts.flatten := by
  induction parts with
  | nil => cases h
  | cons part parts ih =>
    cases parts with
    | nil =>
      rw [join_singleton] at h
      exact Or.inr (by simpa using h)
    | cons next parts =>
      rw [join_cons_cons, List.mem_append, List.mem_append] at h
      rw [List.flatten_cons, List.mem_append]
      rcases h with (h | h) | h
      · exact Or.inr (Or.inl h)
      · exact Or.inl h
      · exact (ih h).imp_right Or.inr

theorem mem_of_mem_replace {old new t : Text} {c : Char} (h : c ∈ replace old new t) :
    c ∈ new ∨ c ∈ t :=
  (mem_of_mem_join h).imp_right fun mem => (splitAtTextFrom_sublist old 0 t).subset mem

/-! ## Blanks at the ends

Blanks at an end never count (`trim_append_blanks`, `trim_blanks_append`), and a text that starts
and ends with something else is its own trimmed form (`Framed.trim_eq`).
-/

def Blank (t : Text) : Prop := ∀ c ∈ t, isBlank c = true

theorem isBlankText_iff {t : Text} : isBlankText t = true ↔ Blank t := List.all_eq_true

theorem blank_nil : Blank [] := by simp [Blank]

theorem blank_cons {c : Char} {t : Text} : Blank (c :: t) ↔ isBlank c = true ∧ Blank t :=
  List.forall_mem_cons

theorem blank_space : Blank [' '] := blank_cons.2 ⟨rfl, blank_nil⟩

/-- A text that starts and ends with a character of a class. -/
structure Framed (p : Char → Bool) (t : Text) : Prop where
  first : ∃ c rest, t = c :: rest ∧ p c = true
  last : ∃ rest c, t = rest ++ [c] ∧ p c = true

theorem Framed.append {p : Char → Bool} {a b : Text} (ha : Framed p a) (hb : Framed p b)
    (between : Text) : Framed p (a ++ between ++ b) := by
  obtain ⟨c, rest, rfl, hc⟩ := ha.first
  obtain ⟨front, d, rfl, hd⟩ := hb.last
  exact ⟨⟨c, rest ++ between ++ (front ++ [d]), by simp, hc⟩,
    ⟨c :: rest ++ between ++ front, d, by simp, hd⟩⟩

theorem Framed.mono {p q : Char → Bool} {t : Text} (h : Framed p t)
    (sub : ∀ c, p c = true → q c = true) : Framed q t := by
  obtain ⟨c, rest, hc, pc⟩ := h.first
  obtain ⟨front, d, hd, pd⟩ := h.last
  exact ⟨⟨c, rest, hc, sub c pc⟩, ⟨front, d, hd, sub d pd⟩⟩

theorem Framed.ne_nil {p : Char → Bool} {t : Text} (h : Framed p t) : t ≠ [] := by
  obtain ⟨c, rest, rfl, -⟩ := h.first
  exact List.cons_ne_nil c rest

theorem framed_of_forall {p : Char → Bool} {t : Text} (ne : t ≠ []) (h : ∀ c ∈ t, p c = true) :
    Framed p t := by
  constructor
  · obtain ⟨c, rest, rfl⟩ := List.exists_cons_of_ne_nil ne
    exact ⟨c, rest, rfl, h c List.mem_cons_self⟩
  · refine ⟨t.dropLast, t.getLast ne, (List.dropLast_concat_getLast ne).symm, ?_⟩
    exact h _ (List.getLast_mem ne)

theorem trimLeft_blanks_append {b : Text} (hb : Blank b) (t : Text) :
    trimLeft (b ++ t) = trimLeft t := by
  rw [trimLeft, List.dropWhile_append_of_pos hb, trimLeft]

theorem exists_trimLeft (t : Text) : ∃ b, Blank b ∧ t = b ++ trimLeft t := by
  refine ⟨t.takeWhile isBlank, ?_, ?_⟩
  · exact fun c hc => List.all_eq_true.1 List.all_takeWhile c hc
  · rw [trimLeft, List.takeWhile_append_dropWhile]

theorem trimLeft_cons_blank {c : Char} (hc : isBlank c = true) (t : Text) :
    trimLeft (c :: t) = trimLeft t := by
  simp [trimLeft, hc]

theorem trimRight_append_blank {c : Char} (hc : isBlank c = true) (t : Text) :
    trimRight (t ++ [c]) = trimRight t := by
  simp [trimRight, hc]

theorem trim_cons_blank {c : Char} (hc : isBlank c = true) (t : Text) :
    trim (c :: t) = trim t := by
  rw [trim, trim, trimLeft_cons_blank hc]

theorem trim_append_blank {c : Char} (hc : isBlank c = true) (t : Text) :
    trim (t ++ [c]) = trim t := by
  induction t with
  | nil => simp [trim, trimLeft, hc]
  | cons d t ih =>
    cases hd : isBlank d with
    | true => rw [List.cons_append, trim_cons_blank hd, trim_cons_blank hd, ih]
    | false =>
      rw [trim, trim, List.cons_append, trimLeft_of_head hd, trimLeft_of_head hd,
        ← List.cons_append, trimRight_append_blank hc]

theorem trim_blanks_append {b : Text} (hb : Blank b) (t : Text) : trim (b ++ t) = trim t := by
  rw [trim, trimLeft_blanks_append hb, trim]

theorem trim_append_blanks {b : Text} (hb : Blank b) (t : Text) : trim (t ++ b) = trim t := by
  induction b generalizing t with
  | nil => rw [List.append_nil]
  | cons c b ih =>
    have split : t ++ c :: b = t ++ [c] ++ b := by simp
    rw [split, ih (fun d hd => hb d (List.mem_cons_of_mem c hd)),
      trim_append_blank (hb c List.mem_cons_self)]

theorem exists_trim (t : Text) : ∃ a b, t = a ++ trim t ++ b ∧ Blank a ∧ Blank b := by
  obtain ⟨a, ha, left⟩ := exists_trimLeft t
  obtain ⟨b, hb, right⟩ := exists_trimLeft (trimLeft t).reverse
  have split : trimLeft t = trim t ++ b.reverse := by
    rw [trim, trimRight, ← trimLeft, ← List.reverse_append, ← right, List.reverse_reverse]
  refine ⟨a, b.reverse, ?_, ha, fun c hc => hb c (List.mem_reverse.1 hc)⟩
  rw [List.append_assoc, ← split]
  exact left

theorem exists_trim_concat (t : Text) {c : Char} (hc : isBlank c = false) :
    ∃ a, Blank a ∧ t ++ [c] = a ++ trim (t ++ [c]) := by
  obtain ⟨a, b, split, ha, hb⟩ := exists_trim (t ++ [c])
  rcases List.eq_nil_or_concat b with rfl | ⟨b, d, rfl⟩
  · exact ⟨a, ha, by rwa [List.append_nil] at split⟩
  · rw [List.concat_eq_append, ← List.append_assoc] at split
    obtain rfl : c = d := List.singleton_inj.1 (List.append_inj_right' split rfl)
    have blank := hb c (by simp)
    rw [hc] at blank
    cases blank

theorem append_blanks_inj {x y b b' : Text} {d e : Char} (h : x ++ d :: b = y ++ e :: b')
    (hb : Blank b) (hb' : Blank b') (hd : isBlank d = false) (he : isBlank e = false) :
    x = y ∧ d = e ∧ b = b' := by
  induction x generalizing y with
  | nil =>
    cases y with
    | nil =>
      obtain ⟨same, rest⟩ := List.cons.inj h
      exact ⟨rfl, same, rest⟩
    | cons c y =>
      obtain ⟨-, rest⟩ := List.cons.inj h
      have blank := hb e (by simp [rest])
      simp [he] at blank
  | cons c x ih =>
    cases y with
    | nil =>
      obtain ⟨-, rest⟩ := List.cons.inj h
      have blank := hb' d (by simp [← rest])
      simp [hd] at blank
    | cons c' y =>
      obtain ⟨rfl, rest⟩ := List.cons.inj h
      obtain ⟨rfl, same⟩ := ih rest
      exact ⟨rfl, same⟩

theorem Framed.trim_eq {t : Text} (h : Framed (!isBlank ·) t) : trim t = t := by
  obtain ⟨c, rest, hfirst, hc⟩ := h.first
  obtain ⟨front, d, hlast, hd⟩ := h.last
  have left : trimLeft t = t := by
    rw [hfirst]
    exact trimLeft_of_head (by simpa using hc)
  rw [trim, left, hlast]
  exact trimRight_concat (by simpa using hd)

theorem mem_of_mem_trim {t : Text} {c : Char} (h : c ∈ trim t) : c ∈ t := by
  obtain ⟨a, b, ht, -, -⟩ := exists_trim t
  rw [ht]
  simp [h]

/-! ## Lines

Cutting at a character works on its two sides by themselves (`splitWhere_append_cut`). So a text
of parts that do not hold the separator is cut into these parts again (`splitOn_join`). The words
of a text are those of its lines (`words_join`), and its line feeds are one fewer than the lines,
not counting those inside of them (`count_join`).
-/

theorem splitWhere_append_cut {p : Char → Bool} {c : Char} (hc : p c = true) (a b : Text) :
    splitWhere p (a ++ c :: b) = splitWhere p a ++ splitWhere p b := by
  induction a with
  | nil => simp [splitWhere, hc]
  | cons d a ih =>
    cases hd : p d with
    | true => simp [splitWhere, hd, ih]
    | false =>
      have grown := growHead_append d (splitWhere p b) (splitWhere_ne_nil p a)
      simp [splitWhere, hd, ih, grown]

theorem splitWhere_of_forall {p : Char → Bool} {t : Text} (h : ∀ c ∈ t, p c = false) :
    splitWhere p t = [t] := by
  induction t with
  | nil => rfl
  | cons c t ih =>
    obtain ⟨hc, others⟩ := List.forall_mem_cons.1 h
    simp [splitWhere, hc, ih others, growHead]

theorem join_cons_cons_append (sep : Char) (part next : Text) (parts : List Text) :
    join [sep] (part :: next :: parts) = part ++ sep :: join [sep] (next :: parts) := by
  simp [join_cons_cons]

theorem not_mem_of_mem_splitOn {c : Char} {t part : Text} (h : part ∈ splitOn c t) : c ∉ part := by
  intro mem
  have free := splitWhere_free (· == c) t part h c mem
  simp at free

theorem newline_not_mem_lines (t : Text) : ∀ line ∈ lines t, '\n' ∉ line :=
  fun _ hline => not_mem_of_mem_splitOn hline

theorem splitOn_append_cut (c : Char) (a b : Text) :
    splitOn c (a ++ c :: b) = splitOn c a ++ splitOn c b :=
  splitWhere_append_cut (p := (· == c)) (beq_self_eq_true c) a b

theorem splitOn_of_not_mem {c : Char} {t : Text} (h : c ∉ t) : splitOn c t = [t] := by
  refine splitWhere_of_forall fun d hd => beq_eq_false_iff_ne.2 ?_
  rintro rfl
  exact h hd

theorem splitOn_join {c : Char} {parts : List Text} (ne : parts ≠ [])
    (h : ∀ part ∈ parts, c ∉ part) : splitOn c (join [c] parts) = parts := by
  induction parts with
  | nil => exact absurd rfl ne
  | cons part parts ih =>
    obtain ⟨hpart, others⟩ := List.forall_mem_cons.1 h
    cases parts with
    | nil => rw [join_singleton, splitOn_of_not_mem hpart]
    | cons next parts =>
      rw [join_cons_cons_append, splitOn_append_cut, splitOn_of_not_mem hpart,
        ih (List.cons_ne_nil next parts) others]
      rfl

theorem lines_join {parts : List Text} (ne : parts ≠ []) (h : ∀ part ∈ parts, '\n' ∉ part) :
    lines (join ['\n'] parts) = parts :=
  splitOn_join ne h

theorem words_append_blank {c : Char} (hc : isBlank c = true) (a b : Text) :
    words (a ++ c :: b) = words a ++ words b := by
  rw [words, splitWhere_append_cut hc, List.filter_append]
  rfl

theorem words_join (parts : List Text) : words (join ['\n'] parts) = parts.flatMap words := by
  induction parts with
  | nil => rfl
  | cons part parts ih =>
    cases parts with
    | nil => simp
    | cons next parts =>
      rw [join_cons_cons_append, words_append_blank rfl, ih, List.flatMap_cons (x := part)]

theorem count_join {parts : List Text} (ne : parts ≠ []) :
    1 + (join ['\n'] parts).count '\n' = parts.length + parts.flatten.count '\n' := by
  induction parts with
  | nil => exact absurd rfl ne
  | cons part parts ih =>
    cases parts with
    | nil => simp
    | cons next parts =>
      have rest := ih (List.cons_ne_nil next parts)
      rw [join_cons_cons_append, List.count_append, List.count_cons_self, List.length_cons,
        List.flatten_cons, List.count_append]
      omega

theorem length_eq_count {parts : List Text} (ne : parts ≠ []) (h : ∀ part ∈ parts, '\n' ∉ part) :
    parts.length = 1 + (join ['\n'] parts).count '\n' := by
  have none : parts.flatten.count '\n' = 0 := by
    simpa [List.count_eq_zero] using h
  rw [count_join ne, none, Nat.add_zero]

/-- How many runs of characters that are not blank begin in a text; `inside` says whether such a
character stands in front of it. -/
def countRuns (inside : Bool) : Text → Nat
  | [] => 0
  | c :: t =>
    if isBlank c then countRuns false t
    else if inside then countRuns true t
    else countRuns true t + 1

private theorem exists_splitWhere_countRuns (t : Text) :
    ∃ part parts, splitWhere isBlank t = part :: parts ∧
      countRuns true t = (parts.filter (!·.isEmpty)).length ∧
      countRuns false t = ((part :: parts).filter (!·.isEmpty)).length := by
  -- both states together: inside of a run the first part goes on one that was counted already
  induction t with
  | nil => exact ⟨[], [], rfl, rfl, rfl⟩
  | cons c t ih =>
    obtain ⟨part, parts, split, inner, outer⟩ := ih
    cases hc : isBlank c with
    | true =>
      refine ⟨[], part :: parts, by simp [splitWhere, hc, split], ?_, ?_⟩
      · simp [countRuns, hc, outer]
      · simp [countRuns, hc, outer]
    | false =>
      refine ⟨c :: part, parts, by simp [splitWhere, hc, split, growHead], ?_, ?_⟩
      · simp [countRuns, hc, inner]
      · simp [countRuns, hc, inner]

theorem length_words (t : Text) : (words t).length = countRuns false t := by
  obtain ⟨part, parts, split, -, outer⟩ := exists_splitWhere_countRuns t
  rw [words, split, outer]

/-! ## Fields

`Parted` cuts at the occurrences of a separator, taken from the left, and `Runs` takes the runs of
characters between blanks. Both determine the parts, which are those that `splitAtText` and `words`
give (`parted_iff`, `runs_iff`).
-/

/-! ### Occurrences of a separator -/

/-- The parts of a text between the occurrences of a separator, each of them the first one behind
the one before. -/
inductive Parted (sep : Text) : Text → List Text → Prop
  | last {t : Text} : ¬ sep <:+: t → Parted sep t [t]
  | cut {a rest : Text} {parts : List Text} :
      (∀ x y, a ++ sep ++ rest = x ++ sep ++ y → a.length ≤ x.length) → Parted sep rest parts →
      Parted sep (a ++ sep ++ rest) (a :: parts)

theorem Parted.unique {sep t : Text} {parts parts' : List Text} (h : Parted sep t parts)
    (h' : Parted sep t parts') : parts = parts' := by
  induction h generalizing parts' with
  | last none =>
    cases h' with
    | last => rfl
    | @cut a rest => exact absurd ⟨a, rest, rfl⟩ none
  | @cut a rest parts first _ ih =>
    generalize whole : a ++ sep ++ rest = t at h'
    cases h' with
    | last none => exact absurd ⟨a, rest, whole⟩ none
    | @cut b rest' parts' first' behind =>
      have length : a.length = b.length :=
        Nat.le_antisymm (first b rest' whole) (first' a rest whole.symm)
      rw [List.append_assoc, List.append_assoc] at whole
      obtain ⟨rfl, tail⟩ := List.append_inj whole length
      obtain rfl := List.append_cancel_left tail
      rw [ih behind]

private theorem Parted.growHead {sep t : Text} {c : Char} {parts : List Text}
    (apart : ¬ sep <+: c :: t) (h : Parted sep t parts) :
    Parted sep (c :: t) (growHead c parts) := by
  cases h with
  | last none => exact .last fun found => (List.infix_cons_iff.1 found).elim apart none
  | @cut a rest parts first behind =>
    refine .cut (a := c :: a) (fun x y whole => ?_) behind
    cases x with
    | nil => exact absurd ⟨y, whole.symm⟩ apart
    | cons d x =>
      obtain ⟨-, tail⟩ := List.cons.inj whole
      exact Nat.succ_le_succ (first x y tail)

private theorem parted_splitAtTextFrom {sep : Text} (ne : sep ≠ []) (skip : Nat) (t : Text) :
    Parted sep (t.drop skip) (splitAtTextFrom sep skip t) := by
  fun_induction splitAtTextFrom sep skip t with
  | case1 skip =>
    rw [List.drop_nil]
    exact .last fun found => ne (List.infix_nil.1 found)
  | case2 skip c t ih => exact ih
  | case3 c t found ih =>
    obtain ⟨rest, whole⟩ := List.isPrefixOf_iff_prefix.1 found
    obtain ⟨d, sep, rfl⟩ := List.exists_cons_of_ne_nil ne
    obtain ⟨-, tail⟩ := List.cons.inj whole
    have behind : t.drop ((d :: sep).length - 1) = rest := by simp [← tail]
    rw [behind] at ih
    rw [List.drop_zero, ← whole]
    exact .cut (a := []) (fun x y _ => Nat.zero_le x.length) ih
  | case4 c t apart ih =>
    exact Parted.growHead (fun found => apart (List.isPrefixOf_iff_prefix.2 found)) ih

theorem parted_iff {sep : Text} (ne : sep ≠ []) {t : Text} {parts : List Text} :
    Parted sep t parts ↔ parts = splitAtText sep t := by
  have made := parted_splitAtTextFrom ne 0 t
  constructor
  · intro h
    exact h.unique made
  · rintro rfl
    exact made

theorem splitOn_eq_splitAtText (c : Char) (t : Text) : splitOn c t = splitAtText [c] t := by
  rw [splitOn, splitAtText]
  induction t with
  | nil => rfl
  | cons d t ih =>
    by_cases same : d = c
    · simp [splitWhere, splitAtTextFrom, same, ih]
    · simp [splitWhere, splitAtTextFrom, same, Ne.symm same, ih]

/-! ### Runs between blanks -/

/-- Words, each with a gap behind it that is not empty in front of another word. -/
inductive Spaced (Gap : Text → Prop) : List Text → Text → Prop
  | nil : Spaced Gap [] []
  | word {word gap rest : Text} {words : List Text} :
      Gap gap → (words ≠ [] → gap ≠ []) → Spaced Gap words rest →
      Spaced Gap (word :: words) (word ++ (gap ++ rest))

def IsRun (word : Text) : Prop := word ≠ [] ∧ ∀ c ∈ word, isBlank c = false

/-- The runs of characters that are not blank, as long as they can be. -/
def Runs (t : Text) (runs : List Text) : Prop :=
  ∃ gap rest, t = gap ++ rest ∧ Blank gap ∧ Spaced Blank runs rest ∧ ∀ word ∈ runs, IsRun word

theorem words_blanks_append {b : Text} (hb : Blank b) (t : Text) : words (b ++ t) = words t := by
  induction b with
  | nil => rfl
  | cons c b ih =>
    obtain ⟨hc, rest⟩ := blank_cons.1 hb
    rw [← ih rest]
    exact words_append_blank hc [] (b ++ t)

theorem IsRun.words_eq {word : Text} (h : IsRun word) : words word = [word] := by
  simp [words, splitWhere_of_forall h.2, h.1]

theorem Spaced.cut_eq {cut : Text → List Text} {IsWord : Text → Prop} (empty : cut [] = [])
    (alone : ∀ word, IsWord word → cut word = [word])
    (first : ∀ word c t, IsWord word → isBlank c = true → cut (word ++ c :: t) = word :: cut t)
    (skip : ∀ b t, Blank b → cut (b ++ t) = cut t) {words : List Text} {t : Text}
    (h : Spaced Blank words t) (all : ∀ word ∈ words, IsWord word) : cut t = words := by
  induction h with
  | nil => exact empty
  | @word word gap rest words hgap apart hrest ih =>
    obtain ⟨hword, others⟩ := List.forall_mem_cons.1 all
    cases gap with
    | nil =>
      have none : words = [] := Classical.byContradiction fun ne => apart ne rfl
      subst none
      cases hrest
      simpa using alone word hword
    | cons c gap =>
      obtain ⟨hc, blank⟩ := blank_cons.1 hgap
      rw [List.cons_append, first word c _ hword hc, skip gap rest blank, ih others]

theorem Spaced.words_eq {runs : List Text} {t : Text} (h : Spaced Blank runs t)
    (free : ∀ word ∈ runs, IsRun word) : words t = runs := by
  refine h.cut_eq rfl (fun word => IsRun.words_eq) (fun word c t hword hc => ?_)
    (fun b t hb => words_blanks_append hb t) free
  rw [words_append_blank hc, hword.words_eq]
  rfl

theorem Runs.eq_words {t : Text} {runs : List Text} (h : Runs t runs) : runs = words t := by
  obtain ⟨gap, rest, rfl, hgap, spaced, free⟩ := h
  rw [words_blanks_append hgap, spaced.words_eq free]

theorem exists_runs (t : Text) : ∃ runs, Runs t runs := by
  induction t with
  | nil => exact ⟨[], [], [], rfl, blank_nil, .nil, by simp⟩
  | cons c t ih =>
    obtain ⟨runs, gap, rest, rfl, hgap, spaced, free⟩ := ih
    cases hc : isBlank c with
    | true => exact ⟨runs, c :: gap, rest, rfl, blank_cons.2 ⟨hc, hgap⟩, spaced, free⟩
    | false =>
      have alone : IsRun [c] := ⟨List.cons_ne_nil c [], by simpa using hc⟩
      -- the character goes in front of the first run if no gap is between them
      by_cases apart : runs ≠ [] → gap ≠ []
      · exact ⟨[c] :: runs, [], [c] ++ (gap ++ rest), rfl, blank_nil, .word hgap apart spaced,
          List.forall_mem_cons.2 ⟨alone, free⟩⟩
      · obtain ⟨-, rfl⟩ : runs ≠ [] ∧ gap = [] := by simpa using apart
        cases spaced with
        | nil => simp at apart
        | @word word gap rest runs hgap' apart' hrest =>
          obtain ⟨hword, others⟩ := List.forall_mem_cons.1 free
          have grown : IsRun (c :: word) :=
            ⟨List.cons_ne_nil c word, List.forall_mem_cons.2 ⟨hc, hword.2⟩⟩
          exact ⟨(c :: word) :: runs, [], c :: word ++ (gap ++ rest), rfl, blank_nil,
            .word hgap' apart' hrest, List.forall_mem_cons.2 ⟨grown, others⟩⟩

theorem runs_iff {t : Text} {runs : List Text} : Runs t runs ↔ runs = words t := by
  constructor
  · exact Runs.eq_words
  · rintro rfl
    obtain ⟨runs, h⟩ := exists_runs t
    rw [← h.eq_words]
    exact h

end Pipework.Text

/-! ## Runs

A list falls into runs of equal members, each as long as it can be (`exists_runLengths`). The runs
spell the list out again (`RunLengths.eq_flatMap`), and where every run of a class of members has
the length one, no two equal members of that class are neighbours (`RunLengths.isChain`).
-/

namespace Pipework

variable {α : Type}

/-- The runs of a list, each with its member and its length. No run could be longer: what follows
starts with another member. -/
inductive RunLengths : List (α × Nat) → List α → Prop
  | nil : RunLengths [] []
  | run {a : α} {n : Nat} {runs : List (α × Nat)} {rest : List α} :
      0 < n → rest.head? ≠ some a → RunLengths runs rest →
      RunLengths ((a, n) :: runs) (List.replicate n a ++ rest)

theorem RunLengths.head?_eq {runs : List (α × Nat)} {l : List α} (h : RunLengths runs l) :
    l.head? = runs.head?.map Prod.fst := by
  cases h with
  | nil => rfl
  | run positive _ _ => simp [List.head?_append, List.head?_replicate, Nat.ne_of_gt positive]

theorem exists_runLengths [DecidableEq α] (l : List α) : ∃ runs, RunLengths runs l := by
  induction l with
  | nil => exact ⟨[], .nil⟩
  | cons a l ih =>
    obtain ⟨runs, h⟩ := ih
    -- the member makes the first run longer, or is a run of its own
    cases h with
    | nil => exact ⟨[(a, 1)], .run Nat.one_pos (by simp) .nil⟩
    | @run b n runs rest positive apart behind =>
      by_cases same : a = b
      · subst same
        exact ⟨(a, n + 1) :: runs, .run n.succ_pos apart behind⟩
      · have follows : RunLengths ((b, n) :: runs) (List.replicate n b ++ rest) :=
          .run positive apart behind
        have other : (List.replicate n b ++ rest).head? ≠ some a := by
          simpa [follows.head?_eq] using Ne.symm same
        exact ⟨(a, 1) :: (b, n) :: runs, .run Nat.one_pos other follows⟩

namespace RunLengths

theorem eq_flatMap {runs : List (α × Nat)} {l : List α} (h : RunLengths runs l) :
    l = runs.flatMap fun r => List.replicate r.2 r.1 := by
  induction h with
  | nil => rfl
  | run _ _ _ ih => rw [List.flatMap_cons, ← ih]

theorem mem_iff {runs : List (α × Nat)} {l : List α} (h : RunLengths runs l) {a : α} :
    a ∈ l ↔ a ∈ runs.map Prod.fst := by
  induction h with
  | nil => simp
  | run positive _ _ ih => simp [Nat.ne_of_gt positive, ih]

theorem unique {runs : List (α × Nat)} {l l' : List α} (h : RunLengths runs l)
    (h' : RunLengths runs l') : l = l' := by
  rw [h.eq_flatMap, h'.eq_flatMap]

theorem isChain {P : α → Prop} {runs : List (α × Nat)} {l : List α} (h : RunLengths runs l)
    (single : ∀ r ∈ runs, P r.1 → r.2 = 1) : l.IsChain fun a b => a = b → ¬ P a := by
  induction h with
  | nil => exact .nil
  | @run a n runs rest positive apart behind ih =>
    obtain ⟨first, others⟩ := List.forall_mem_cons.1 single
    refine List.isChain_append.2 ⟨?_, ih others, ?_⟩
    · by_cases member : P a
      · obtain rfl : n = 1 := first member
        exact List.isChain_singleton a
      · exact List.isChain_replicate_of_rel n fun _ => member
    · rintro b last c next rfl
      have same : b = a := List.eq_of_mem_replicate (List.mem_of_mem_getLast? last)
      exact absurd (same ▸ Option.mem_def.1 next) apart

end RunLengths

/-! ## Lists place by place -/

theorem forall₂_iff_map_eq {β : Type} {R : α → β → Prop} {f : α → β} {l : List α} {l' : List β}
    (h : ∀ a ∈ l, ∀ b, R a b ↔ f a = b) : List.Forall₂ R l l' ↔ l.map f = l' := by
  induction l generalizing l' with
  | nil => simp [eq_comm]
  | cons a l ih =>
    obtain ⟨first, others⟩ := List.forall_mem_cons.1 h
    cases l' with
    | nil => simp
    | cons b l' => simp [first, ih others]

end Pipework
