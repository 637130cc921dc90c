import Pipework.Proofs.Text.Parts
import Pipework.Shell.Scan

/-!
The stages of a command: where bare bars cut it, and texts that none of them cuts.
-/

set_option autoImplicit false
set_option relaxedAutoImplicit false

namespace Pipework.Shell

/-! ## Stages

`exists_lastPart` is the invariant of the cut: what follows a text only ever grows its last part,
and that part carries the state of the whole scan. Everything else about stages and words comes
from it. Trimming a command changes none of its stages (`splitStages_trim`).
-/

namespace Scan

theorem isBare_iff (s : Scan) : s.isBare = true ↔ s = start := by
  obtain ⟨quoting, escaping⟩ := s
  cases quoting <;> cases escaping <;> decide

@[simp] theorem after_nil (s : Scan) : s.after [] = s := rfl

@[simp] theorem after_cons (s : Scan) (c : Char) (t : Text) :
    s.after (c :: t) = (s.next c).after t := rfl

theorem next_plain {s : Scan} {c : Char} (hs : s.escaping = false) (single : c ≠ '\'')
    (double : c ≠ '\x22') (backslash : c ≠ '\\') : s.next c = s := by
  simp [next, hs, single, double, backslash]

theorem after_plain {t : Text} (h : ∀ c ∈ t, c ≠ '\'' ∧ c ≠ '\x22' ∧ c ≠ '\\') :
    start.after t = start := by
  induction t with
  | nil => rfl
  | cons c t ih =>
    obtain ⟨single, double, backslash⟩ := h c List.mem_cons_self
    rw [after_cons, next_plain rfl single double backslash]
    exact ih fun d hd => h d (List.mem_cons_of_mem c hd)

end Scan

/-- A class of characters at which the scan can be cut: none of them changes the bare state. -/
def Neutral (p : Char → Bool) : Prop := ∀ c, p c = true → Scan.start.next c = Scan.start

theorem Neutral.not_mem {p : Char → Bool} (hp : Neutral p) {c : Char}
    (h : Scan.start.next c ≠ Scan.start) : p c = false := by
  cases hc : p c with
  | false => rfl
  | true => exact absurd (hp c hc) h

theorem neutral_bar : Neutral (· == '|') := by
  intro c hc
  obtain rfl : c = '|' := by simpa using hc
  decide

theorem Scan.next_blank (s : Scan) {c : Char} (hc : Text.isBlank c = true) :
    s.next c = { s with escaping := false } := by
  cases hs : s.escaping with
  | true => simp [Scan.next, hs]
  | false =>
    rw [next_plain hs (Text.ne_of_class hc rfl) (Text.ne_of_class hc rfl) (Text.ne_of_class hc rfl)]
    rw [← hs]

theorem neutral_blank : Neutral Text.isBlank := by
  intro c hc
  rw [Scan.next_blank _ hc]
  rfl

namespace Scan

theorem quoting_after_blanks {b : Text} (hb : Text.Blank b) (s : Scan) :
    (s.after b).quoting = s.quoting := by
  induction b generalizing s with
  | nil => rfl
  | cons c b ih =>
    rw [after_cons, ih (fun d hd => hb d (List.mem_cons_of_mem c hd)),
      next_blank s (hb c List.mem_cons_self)]

theorem after_blanks {b : Text} (hb : Text.Blank b) : start.after b = start := by
  induction b with
  | nil => rfl
  | cons c b ih =>
    rw [after_cons, neutral_blank c (hb c List.mem_cons_self)]
    exact ih fun d hd => hb d (List.mem_cons_of_mem c hd)

theorem isOpen_after_trim (t : Text) :
    (start.after (Text.trim t)).isOpen = (start.after t).isOpen := by
  obtain ⟨a, b, ht, ha, hb⟩ := Text.exists_trim t
  have whole : start.after t = (start.after (Text.trim t)).after b := by
    conv => lhs; rw [ht]
    rw [after_append, after_append, after_blanks ha]
  rw [whole, isOpen, isOpen, quoting_after_blanks hb]

end Scan

/-- The last part of a text is where the scan goes on: a text behind it grows this part by its
own first part. If there was a cut, the part leads from the bare state to the state behind the
whole text. -/
theorem exists_lastPart {p : Char → Bool} (hp : Neutral p) (s : Scan) (t : Text) :
    ∃ front last, splitBare p s t = front ++ [last] ∧
      (∀ b next rest, splitBare p (s.after t) b = next :: rest →
        splitBare p s (t ++ b) = front ++ (last ++ next) :: rest) ∧
      (front = [] ∧ last = t ∨ front ≠ [] ∧ Scan.start.after last = s.after t) := by
  induction t generalizing s with
  | nil => exact ⟨[], [], rfl, fun b next rest h => h, Or.inl ⟨rfl, rfl⟩⟩
  | cons c t ih =>
    by_cases cut : (s.isBare && p c) = true
    · obtain ⟨bare, hc⟩ := Bool.and_eq_true_iff.1 cut
      obtain rfl := (Scan.isBare_iff s).1 bare
      obtain ⟨front, last, parts, grow, state⟩ := ih Scan.start
      have stay : Scan.start.after (c :: t) = Scan.start.after t := by
        rw [Scan.after_cons, hp c hc]
      refine ⟨[] :: front, last, by simp [splitBare, cut, parts], ?_, Or.inr ⟨by simp, ?_⟩⟩
      · intro b next rest h
        rw [stay] at h
        simp [splitBare, cut, grow b next rest h]
      · rw [stay]
        rcases state with ⟨-, rfl⟩ | ⟨-, state⟩
        · rfl
        · exact state
    · obtain ⟨front, last, parts, grow, state⟩ := ih (s.next c)
      rcases state with ⟨rfl, rfl⟩ | ⟨ne, state⟩
      · refine ⟨[], c :: last, ?_, ?_, Or.inl ⟨rfl, rfl⟩⟩
        · simp [splitBare, cut, parts, Text.growHead]
        · intro b next rest h
          simp [splitBare, cut, grow b next rest h, Text.growHead]
      · refine ⟨Text.growHead c front, last, ?_, ?_, Or.inr ⟨Text.growHead_ne_nil c front, state⟩⟩
        · simp [splitBare, cut, parts, Text.growHead_append c [last] ne]
        · intro b next rest h
          simp [splitBare, cut, grow b next rest h, Text.growHead_append c _ ne]

/-- At a bare character of the class the parts in front and the parts behind stand side by side. -/
theorem splitBare_append_cut {p : Char → Bool} (hp : Neutral p) {s : Scan} {a : Text} {c : Char}
    (bare : s.after a = Scan.start) (hc : p c = true) (b : Text) :
    splitBare p s (a ++ c :: b) = splitBare p s a ++ splitBare p Scan.start b := by
  obtain ⟨front, last, parts, grow, -⟩ := exists_lastPart hp s a
  have cut : splitBare p (s.after a) (c :: b) = [] :: splitBare p Scan.start b := by
    rw [bare]
    simp [splitBare, hc, (Scan.isBare_iff Scan.start).2 rfl]
  rw [grow _ _ _ cut, parts]
  simp

/-- A text without a bare character of the class, read from a state. -/
def Undivided (p : Char → Bool) (s : Scan) (t : Text) : Prop := splitBare p s t = [t]

theorem Undivided.grow {p : Char → Bool} (hp : Neutral p) {s : Scan} {a b next : Text}
    {rest : List Text} (ha : Undivided p s a)
    (hb : splitBare p (s.after a) b = next :: rest) :
    splitBare p s (a ++ b) = (a ++ next) :: rest := by
  obtain ⟨front, last, parts, grow, -⟩ := exists_lastPart hp s a
  have single : [] ++ [a] = front ++ [last] := Eq.trans (Eq.symm ha) parts
  obtain ⟨rfl, hlast⟩ := List.append_inj' single rfl
  obtain rfl := List.head_eq_of_cons_eq hlast
  exact grow b next rest hb

theorem Undivided.append {p : Char → Bool} (hp : Neutral p) {s : Scan} {a b : Text}
    (ha : Undivided p s a) (hb : Undivided p (s.after a) b) : Undivided p s (a ++ b) :=
  ha.grow hp hb

theorem undivided_cons {p : Char → Bool} {s : Scan} {c : Char} {t : Text}
    (keep : (s.isBare && p c) = false) (h : Undivided p (s.next c) t) : Undivided p s (c :: t) := by
  have tail : splitBare p (s.next c) t = [t] := h
  simp [Undivided, splitBare, keep, tail, Text.growHead]

theorem undivided_cons_iff {p : Char → Bool} {s : Scan} {c : Char} {t : Text} :
    Undivided p s (c :: t) ↔ (s.isBare && p c) = false ∧ Undivided p (s.next c) t := by
  refine ⟨fun h => ?_, fun h => undivided_cons h.1 h.2⟩
  obtain ⟨part, parts, hparts⟩ := List.exists_cons_of_ne_nil (splitBare_ne_nil p (s.next c) t)
  cases keep : s.isBare && p c with
  | true => simp [Undivided, splitBare, keep] at h
  | false =>
    simp only [Undivided, splitBare, keep, hparts, Text.growHead, Bool.false_eq_true, if_false,
      List.cons.injEq, true_and] at h
    obtain ⟨rfl, rfl⟩ := h
    exact ⟨rfl, hparts⟩

theorem undivided_of_forall {p : Char → Bool} {t : Text} (h : ∀ c ∈ t, p c = false) (s : Scan) :
    Undivided p s t := by
  induction t generalizing s with
  | nil => rfl
  | cons c t ih =>
    refine undivided_cons ?_ (ih (fun d hd => h d (List.mem_cons_of_mem c hd)) (s.next c))
    rw [h c List.mem_cons_self, Bool.and_false]

/-- Somewhere the scan is bare in front of a character of the class. -/
def Divides (p : Char → Bool) (t : Text) : Prop :=
  ∃ a c b, t = a ++ c :: b ∧ p c = true ∧ Scan.start.after a = Scan.start

private theorem undivided_or_cut (p : Char → Bool) (s : Scan) (t : Text) :
    Undivided p s t ∨ ∃ a c b, t = a ++ c :: b ∧ p c = true ∧ s.after a = Scan.start := by
  induction t generalizing s with
  | nil => exact Or.inl rfl
  | cons c t ih =>
    by_cases cut : (s.isBare && p c) = true
    · obtain ⟨bare, hc⟩ := Bool.and_eq_true_iff.1 cut
      exact Or.inr ⟨[], c, t, rfl, hc, (Scan.isBare_iff s).1 bare⟩
    · rcases ih (s.next c) with h | ⟨a, d, b, rfl, hd, bare⟩
      · exact Or.inl (undivided_cons (by simpa using cut) h)
      · exact Or.inr ⟨c :: a, d, b, rfl, hd, bare⟩

theorem undivided_iff {p : Char → Bool} (hp : Neutral p) (t : Text) :
    Undivided p Scan.start t ↔ ¬ Divides p t := by
  constructor
  · rintro h ⟨a, c, b, rfl, hc, bare⟩
    have parts : [a ++ c :: b] = splitBare p Scan.start a ++ splitBare p Scan.start b :=
      Eq.trans (Eq.symm h) (splitBare_append_cut hp bare hc b)
    have ha := List.length_pos_iff.2 (splitBare_ne_nil p Scan.start a)
    have hb := List.length_pos_iff.2 (splitBare_ne_nil p Scan.start b)
    have count := congrArg List.length parts
    simp only [List.length_append, List.length_singleton] at count
    omega
  · intro h
    rcases undivided_or_cut p Scan.start t with whole | cut
    · exact whole
    · exact absurd cut h

theorem blank_ne_bar {b : Text} (hb : Text.Blank b) : ∀ c ∈ b, (c == '|') = false := by
  intro c hc
  exact beq_eq_false_iff_ne.2 (Text.ne_of_class (hb c hc) rfl)

theorem splitStages_append_blanks {b : Text} (hb : Text.Blank b) (t : Text) :
    splitStages (t ++ b) = splitStages t := by
  obtain ⟨front, last, parts, grow, -⟩ := exists_lastPart neutral_bar Scan.start t
  have tail := undivided_of_forall (blank_ne_bar hb) (Scan.start.after t)
  rw [splitStages, splitStages, grow b b [] tail, parts]
  simp [Text.trim_append_blanks hb]

theorem splitStages_blanks_append {b : Text} (hb : Text.Blank b) (t : Text) :
    splitStages (b ++ t) = splitStages t := by
  have whole := undivided_of_forall (blank_ne_bar hb) Scan.start
  obtain ⟨next, rest, hnext⟩ := List.exists_cons_of_ne_nil
    (splitBare_ne_nil (· == '|') Scan.start t)
  rw [splitStages, splitStages, whole.grow neutral_bar (by rw [Scan.after_blanks hb, hnext]), hnext]
  simp [Text.trim_blanks_append hb]

theorem Undivided.splitStages_eq {t : Text} (h : Undivided (· == '|') Scan.start t) :
    splitStages t = [Text.trim t] := by
  rw [splitStages, h]
  rfl

theorem splitStages_append_cut {a : Text} (bare : Scan.start.after a = Scan.start) (b : Text) :
    splitStages (a ++ '|' :: b) = splitStages a ++ splitStages b := by
  rw [splitStages, splitBare_append_cut neutral_bar bare rfl, List.map_append]
  rfl

theorem splitStages_trim (t : Text) : splitStages (Text.trim t) = splitStages t := by
  obtain ⟨a, b, ht, ha, hb⟩ := Text.exists_trim t
  conv => rhs; rw [ht]
  rw [splitStages_append_blanks hb, splitStages_blanks_append ha]

/-! ## Cuts

No part can be cut again, and behind every part but the last the scan is bare, so that each part
read by itself is in the quotes it had in the whole text (`bareCut_splitBare`). Of the stages of a
command only the last can have a quote that stays open (`exists_lastStage`).
-/

/-- The parts of a text that is read from one state to another. -/
inductive BareCut (p : Char → Bool) : Scan → List Text → Scan → Prop
  | last {s : Scan} {part : Text} : Undivided p s part → BareCut p s [part] (s.after part)
  | cut {s s' : Scan} {part : Text} {rest : List Text} :
      Undivided p s part → s.after part = Scan.start → BareCut p Scan.start rest s' →
      BareCut p s (part :: rest) s'

namespace BareCut

variable {p : Char → Bool}

theorem growHead {s s' : Scan} {c : Char} {parts : List Text}
    (keep : (s.isBare && p c) = false) (h : BareCut p (s.next c) parts s') :
    BareCut p s (Text.growHead c parts) s' := by
  cases h with
  | last whole => exact .last (undivided_cons keep whole)
  | cut whole bare behind => exact .cut (undivided_cons keep whole) bare behind

theorem ne_nil {s s' : Scan} {parts : List Text} (h : BareCut p s parts s') : parts ≠ [] := by
  cases h with
  | last _ => exact List.cons_ne_nil _ _
  | cut _ _ _ => exact List.cons_ne_nil _ _

theorem exists_last {s' : Scan} {parts : List Text} (h : BareCut p Scan.start parts s') :
    ∃ front last, parts = front ++ [last] ∧
      (∀ part ∈ front, Scan.start.after part = Scan.start) ∧ Scan.start.after last = s' := by
  generalize hs : Scan.start = s at h
  induction h with
  | @last s part whole => exact ⟨[], part, rfl, by simp, rfl⟩
  | @cut s s' part rest whole bare behind ih =>
    subst hs
    obtain ⟨front, last, rfl, closed, ends⟩ := ih rfl
    exact ⟨part :: front, last, rfl, List.forall_mem_cons.2 ⟨bare, closed⟩, ends⟩

theorem undivided {s' : Scan} {parts : List Text} (h : BareCut p Scan.start parts s') :
    ∀ part ∈ parts, Undivided p Scan.start part := by
  generalize hs : Scan.start = s at h
  induction h with
  | last whole => simpa using whole
  | cut whole _ _ ih =>
    subst hs
    exact List.forall_mem_cons.2 ⟨whole, ih rfl⟩

end BareCut

theorem bareCut_splitBare {p : Char → Bool} (hp : Neutral p) (s : Scan) (t : Text) :
    BareCut p s (splitBare p s t) (s.after t) := by
  induction t generalizing s with
  | nil => exact .last rfl
  | cons c t ih =>
    cases keep : s.isBare && p c with
    | false =>
      rw [splitBare, keep, Scan.after_cons]
      exact (ih (s.next c)).growHead keep
    | true =>
      obtain ⟨bare, hc⟩ := Bool.and_eq_true_iff.1 keep
      obtain rfl := (Scan.isBare_iff s).1 bare
      rw [splitBare, keep, Scan.after_cons, hp c hc]
      exact .cut rfl rfl (ih Scan.start)

theorem exists_lastStage (command : Text) :
    ∃ front last, splitStages command = front ++ [last] ∧
      (∀ stage ∈ front, (Scan.start.after stage).isOpen = false) ∧
      (Scan.start.after last).isOpen = (Scan.start.after command).isOpen := by
  obtain ⟨front, last, parts, bare, ends⟩ :=
    (bareCut_splitBare neutral_bar Scan.start command).exists_last
  refine ⟨front.map Text.trim, Text.trim last, by rw [splitStages, parts]; simp, ?_, ?_⟩
  · intro stage hstage
    obtain ⟨part, hpart, rfl⟩ := List.mem_map.1 hstage
    rw [Scan.isOpen_after_trim, bare part hpart]
    rfl
  · rw [Scan.isOpen_after_trim, ends]

/-! ## Enclosed texts

A text that is one stage leaves the scan bare and holds no bare bar, so bars between texts of this
kind are the only ones at which a command is cut (`splitStages_pieces`).
-/

/-- No quote is left open behind a text, and no bar stands bare in it. -/
structure Enclosed (t : Text) : Prop where
  closed : Scan.start.after t = Scan.start
  whole : Undivided (· == '|') Scan.start t

theorem Enclosed.append {a b : Text} (ha : Enclosed a) (hb : Enclosed b) : Enclosed (a ++ b) := by
  constructor
  · rw [Scan.after_append, ha.closed, hb.closed]
  · refine ha.whole.append neutral_bar ?_
    rw [ha.closed]
    exact hb.whole

theorem enclosed_blank {b : Text} (hb : Text.Blank b) : Enclosed b :=
  ⟨Scan.after_blanks hb, undivided_of_forall (blank_ne_bar hb) Scan.start⟩

theorem enclosed_of_forall {t : Text}
    (h : ∀ c ∈ t, c ≠ '\'' ∧ c ≠ '\x22' ∧ c ≠ '\\' ∧ c ≠ '|') : Enclosed t := by
  constructor
  · refine Scan.after_plain fun c hc => ?_
    obtain ⟨single, double, backslash, -⟩ := h c hc
    exact ⟨single, double, backslash⟩
  · refine undivided_of_forall (fun c hc => ?_) Scan.start
    obtain ⟨-, -, -, bar⟩ := h c hc
    exact beq_eq_false_iff_ne.2 bar

theorem Enclosed.splitStages_eq {t : Text} (h : Enclosed t) : splitStages t = [Text.trim t] :=
  h.whole.splitStages_eq

theorem splitStages_pieces {first : Text} (hfirst : Enclosed first) {pieces : List Text}
    (h : ∀ piece ∈ pieces, Enclosed piece) :
    splitStages (first ++ pieces.flatMap fun piece => ' ' :: '|' :: piece) =
      Text.trim first :: pieces.map Text.trim := by
  induction pieces generalizing first with
  | nil => simp [hfirst.splitStages_eq]
  | cons piece pieces ih =>
    obtain ⟨hpiece, others⟩ := List.forall_mem_cons.1 h
    have spaced : Enclosed (first ++ [' ']) := hfirst.append (enclosed_blank Text.blank_space)
    have shape : (first ++ (piece :: pieces).flatMap fun piece => ' ' :: '|' :: piece) =
        first ++ [' '] ++ '|' :: (piece ++ pieces.flatMap fun piece => ' ' :: '|' :: piece) := by
      simp
    rw [shape, splitStages_append_cut spaced.closed, ih hpiece others,
      splitStages_append_blanks Text.blank_space, hfirst.splitStages_eq]
    rfl

end Pipework.Shell
