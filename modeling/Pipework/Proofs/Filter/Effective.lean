import Pipework.Filter
import Pipework.Proofs.Text.Numerals
import Pipework.Proofs.Text.Parts

/-!
The options that a filter acts on, and the counts among them.
-/

set_option autoImplicit false
set_option relaxedAutoImplicit false

namespace Pipework

/-! ## Options in force

A filter has options that make no difference: a spelling of the tab, an empty delimiter, a count
that is no number, a blank program, a second set that is not used. `effective` puts the option in
force in their place. The filter applies and is written as before (`apply_effective`,
`render_effective`).
-/

def Shell.normalTab (t : Text) : Text := if isTab t then ['\t'] else t

namespace Filter

/-- The filter with the options in force. -/
def effective : Filter → Filter
  | .cut o =>
    .cut { o with delimiter := if o.delimiter = [] then [','] else Shell.normalTab o.delimiter }
  | .head o => .head ⟨Text.ofNat o.count⟩
  | .tail o => .tail ⟨Text.ofNat o.count⟩
  | .tr o => .tr { o with set2 := if o.delete && !o.squeeze then [] else o.set2 }
  | .awk o => .awk ⟨Shell.normalTab o.separator, o.effectiveProgram⟩
  | f => f

def texts (f : Filter) : List Text :=
  f.fields.filterMap fun field =>
    match field.2 with
    | .text t => some t
    | .flag _ => none

def mapText (change : Text → Text) : Filter → Filter
  | .cut o => .cut ⟨change o.delimiter, change o.fields⟩
  | .grep o => .grep { o with pattern := change o.pattern }
  | .head o => .head ⟨change o.n⟩
  | .tail o => .tail ⟨change o.n⟩
  | .tr o => .tr { o with set1 := change o.set1, set2 := change o.set2 }
  | .awk o => .awk ⟨change o.separator, change o.program⟩
  | f => f

/-- No option text holds a line feed. -/
def OneLine (f : Filter) : Prop := ∀ t ∈ f.texts, '\n' ∉ t

instance (f : Filter) : Decidable f.OneLine := inferInstanceAs (Decidable (∀ t ∈ f.texts, '\n' ∉ t))

theorem oneLine_iff (f : Filter) :
    f.OneLine ↔
      match f with
      | .cut o => '\n' ∉ o.delimiter ∧ '\n' ∉ o.fields
      | .grep o => '\n' ∉ o.pattern
      | .head o => '\n' ∉ o.n
      | .tail o => '\n' ∉ o.n
      | .tr o => '\n' ∉ o.set1 ∧ '\n' ∉ o.set2
      | .awk o => '\n' ∉ o.separator ∧ '\n' ∉ o.program
      | .sort _ | .uniq | .wc _ => True := by
  cases f <;> simp [OneLine, texts, fields]

@[simp] theorem tool_effective (f : Filter) : f.effective.tool = f.tool := by cases f <;> rfl

theorem mapText_eq_self {change : Text → Text} {f : Filter} (h : ∀ t ∈ f.texts, change t = t) :
    f.mapText change = f := by
  cases f <;> simp_all [texts, fields, mapText]

end Filter

@[simp] theorem Shell.isTab_normalTab (t : Text) : isTab (normalTab t) = isTab t := by
  cases h : isTab t with
  | true =>
    rw [normalTab, if_pos h]
    decide
  | false => simp [normalTab, h]

@[simp] theorem Shell.normalTab_eq_nil (t : Text) : normalTab t = [] ↔ t = [] := by
  cases h : isTab t with
  | true =>
    have ne : t ≠ [] := by
      rintro rfl
      exact absurd h (by decide)
    simp [normalTab, h, ne]
  | false => simp [normalTab, h]

@[simp] theorem Shell.quoteDelimiter_normalTab (t : Text) :
    quoteDelimiter (normalTab t) = quoteDelimiter t := by
  cases h : isTab t with
  | true => simp [quoteDelimiter, h]
  | false => simp [normalTab, h]

namespace Cut

theorem effective_delimiter (o : Cut) :
    (if o.delimiter = [] then [','] else Shell.normalTab o.delimiter) = o.separator := by
  by_cases empty : o.delimiter = []
  · simp [separator, empty, Shell.isTab, Shell.tabEscape]
  · simp [separator, empty, Shell.normalTab]

theorem separator_cases (o : Cut) :
    o.separator = ['\t'] ∨ Shell.isTab o.separator = false ∧ o.separator ≠ [] := by
  cases tab : Shell.isTab o.delimiter with
  | true => exact .inl (by simp [separator, tab])
  | false =>
    right
    by_cases empty : o.delimiter = []
    · have inForce : o.separator = [','] := by
        simp [separator, empty, Shell.isTab, Shell.tabEscape]
      rw [inForce]
      exact ⟨rfl, List.cons_ne_nil _ _⟩
    · have inForce : o.separator = o.delimiter := by simp [separator, tab, empty]
      rw [inForce]
      exact ⟨tab, empty⟩

theorem separator_separator (o : Cut) (fields : Text) :
    (⟨o.separator, fields⟩ : Cut).separator = o.separator := by
  have spelling := o.separator_cases
  generalize o.separator = t at spelling
  rcases spelling with rfl | ⟨tab, ne⟩
  · rfl
  · simp [separator, tab, ne]

theorem normalTab_separator (o : Cut) : Shell.normalTab o.separator = o.separator := by
  rcases o.separator_cases with inForce | ⟨tab, -⟩
  · rw [inForce]
    rfl
  · simp [Shell.normalTab, tab]

end Cut

namespace LineCount

theorem count_lt (o : LineCount) : o.count < Text.wordBound := by
  rw [count]
  cases h : Text.readWord? (Text.trim o.n) with
  | none => decide
  | some n => exact Text.lt_wordBound_of_readWord? h

theorem trim_ofNat (n : Nat) : Text.trim (Text.ofNat n) = Text.ofNat n := by
  have framed : Text.Framed (!Text.isBlank ·) (Text.ofNat n) :=
    Text.framed_of_forall (Text.ofNat_ne_nil n) fun c hc => by
      simp [Text.isBlank_of_isDigit (Text.isDigit_of_mem_ofNat hc)]
  exact framed.trim_eq

theorem count_ofNat_count (o : LineCount) : (⟨Text.ofNat o.count⟩ : LineCount).count = o.count := by
  have word := Text.readWord?_ofNat o.count_lt
  conv => lhs; rw [count]
  simp [trim_ofNat, word]

end LineCount

namespace Awk

theorem effectiveProgram_effective (o : Awk) (separator : Text) :
    (⟨separator, o.effectiveProgram⟩ : Awk).effectiveProgram = o.effectiveProgram := by
  by_cases blank : Text.isBlankText o.program = true
  · have usual : Text.isBlankText usualProgram = false := by decide
    simp [effectiveProgram, blank, usual]
  · simp [effectiveProgram, blank]

theorem splitFields_normalTab (separator line : Text) :
    splitFields (Shell.normalTab separator) line = splitFields separator line := by
  cases tab : Shell.isTab separator with
  | true => simp [splitFields, tab]
  | false => simp [splitFields, tab, Shell.normalTab]

end Awk

theorem Tr.change_effective (o : Tr) :
    ({ o with set2 := if o.delete && !o.squeeze then [] else o.set2 } : Tr).change = o.change := by
  funext line
  cases delete : o.delete <;> simp [change, delete]

namespace Filter

/-- The options in force make the same lines. -/
theorem apply_effective (f : Filter) (lines : List Text) (text : Text) :
    f.effective.apply lines text = f.apply lines text := by
  cases f with
  | cut o =>
    simp only [effective, apply, Cut.apply, Cut.entries, Cut.effective_delimiter,
      Cut.separator_separator]
  | grep o => rfl
  | sort o => rfl
  | uniq => rfl
  | head o => simp only [effective, apply, Head.apply, LineCount.count_ofNat_count]
  | tail o => simp only [effective, apply, Tail.apply, LineCount.count_ofNat_count]
  | tr o => simp only [effective, apply, Tr.apply, Tr.change_effective]
  | wc o => rfl
  | awk o =>
    have project (fields : List (Option Nat)) :
        Awk.project (Shell.normalTab o.separator) fields = Awk.project o.separator fields := by
      funext line
      rw [Awk.project, Awk.project, Awk.splitFields_normalTab]
    simp only [effective, apply, Awk.print?, Awk.effectiveProgram_effective, project]

theorem render_effective (f : Filter) : f.effective.render = f.render := by
  cases f with
  | cut o =>
    simp only [effective, render, Cut.render, Cut.effective_delimiter, Cut.separator_separator]
  | grep o => rfl
  | sort o => rfl
  | uniq => rfl
  | head o => simp only [effective, render, LineCount.render, LineCount.count_ofNat_count]
  | tail o => simp only [effective, render, LineCount.render, LineCount.count_ofNat_count]
  | tr o =>
    cases delete : o.delete <;> cases squeeze : o.squeeze <;>
      simp [effective, render, Tr.render, Tr.writesSet2, delete, squeeze]
  | wc o => rfl
  | awk o =>
    simp only [effective, render, Awk.render, Awk.effectiveProgram_effective,
      Shell.quoteDelimiter_normalTab, List.isEmpty_iff, Shell.normalTab_eq_nil]

theorem OneLine.effective {f : Filter} (h : f.OneLine) : f.effective.OneLine := by
  have either (p : Prop) [Decidable p] {a b : Text} (ha : '\n' ∉ a) (hb : '\n' ∉ b) :
      '\n' ∉ if p then a else b := by
    split
    · exact ha
    · exact hb
  have tab (t : Text) (ht : '\n' ∉ t) : '\n' ∉ Shell.normalTab t := either _ (by decide) ht
  have count (n : Nat) : '\n' ∉ Text.ofNat n := fun mem => Text.ne_of_mem_ofNat mem rfl rfl
  rw [oneLine_iff] at h ⊢
  cases f with
  | cut o =>
    obtain ⟨delimiter, fields⟩ := h
    exact ⟨either _ (by decide) (tab o.delimiter delimiter), fields⟩
  | grep o => exact h
  | sort o => trivial
  | uniq => trivial
  | head o => exact count o.count
  | tail o => exact count o.count
  | tr o =>
    obtain ⟨set1, set2⟩ := h
    exact ⟨set1, either _ (by decide) set2⟩
  | wc o => trivial
  | awk o =>
    obtain ⟨separator, program⟩ := h
    exact ⟨tab o.separator separator, either _ (by decide) program⟩

end Filter

/-! ## Counts

A count that denotes a number below the machine bound is honoured, however many lines there are;
any other text, a larger number among them, means ten (`keeps_asked_iff`). The lines of a smaller
count are a beginning of those of a larger one, or an end, and the two filters put a text together
again.
-/

namespace LineCount

/-- The number that the text of a count denotes, blanks around it left out. -/
def Asks (o : LineCount) (n : Nat) : Prop := Text.Denotes (Text.trim o.n) n

/-- Of any lines the first `n` are kept by `head` and the last `n` by `tail`, or all if there are
fewer. -/
def Keeps (o : LineCount) (n : Nat) : Prop :=
  ∀ lines : List Text,
    (Head.apply o lines <+: lines ∧ (Head.apply o lines).length = min n lines.length) ∧
      Tail.apply o lines <:+ lines ∧ (Tail.apply o lines).length = min n lines.length

theorem keeps_count (o : LineCount) : o.Keeps o.count := by
  intro lines
  refine ⟨⟨List.take_prefix _ lines, List.length_take⟩, List.drop_suffix _ lines, ?_⟩
  rw [Tail.apply, List.length_drop]
  omega

theorem keeps_iff {o : LineCount} {n : Nat} : o.Keeps n ↔ o.count = n := by
  constructor
  · intro h
    obtain ⟨⟨-, asked⟩, -⟩ := h (List.replicate (o.count + n) [])
    obtain ⟨⟨-, given⟩, -⟩ := o.keeps_count (List.replicate (o.count + n) [])
    rw [List.length_replicate] at asked given
    omega
  · rintro rfl
    exact o.keeps_count

theorem count_of_asks {o : LineCount} {n : Nat} (h : o.Asks n) (bound : n < Text.wordBound) :
    o.count = n := by
  rw [count, Text.readWord?_eq_some_iff.2 ⟨h, bound⟩]
  rfl

theorem count_of_not {o : LineCount} (h : ∀ n, o.Asks n → Text.wordBound ≤ n) :
    o.count = usual := by
  rw [count]
  cases read : Text.readWord? (Text.trim o.n) with
  | none => rfl
  | some n =>
    obtain ⟨asks, bound⟩ := Text.readWord?_eq_some_iff.1 read
    exact absurd bound (Nat.not_lt.2 (h n asks))

theorem count_of_large {o : LineCount} {n : Nat} (h : o.Asks n) (large : Text.wordBound ≤ n) :
    o.count = usual := by
  refine count_of_not fun m asks => ?_
  rw [asks.unique h]
  exact large

theorem keeps_of_asks_iff {o : LineCount} {n : Nat} (h : o.Asks n) :
    o.Keeps n ↔ n < Text.wordBound := by
  rw [keeps_iff]
  rcases Nat.lt_or_ge n Text.wordBound with small | large
  · exact iff_of_true (count_of_asks h small) small
  · refine iff_of_false (fun same => ?_) (Nat.not_lt.2 large)
    have bound : usual < Text.wordBound := by decide
    rw [count_of_large h large] at same
    omega

theorem head_prefix_of_le {o p : LineCount} (h : o.count ≤ p.count) (lines : List Text) :
    Head.apply o lines <+: Head.apply p lines :=
  List.take_prefix_take_left h

theorem tail_suffix_of_le {o p : LineCount} (h : o.count ≤ p.count) (lines : List Text) :
    Tail.apply o lines <:+ Tail.apply p lines :=
  List.drop_suffix_drop_left lines (Nat.sub_le_sub_left h lines.length)

theorem head_append_tail {o p : LineCount} {lines : List Text}
    (h : o.count + p.count = lines.length) : Head.apply o lines ++ Tail.apply p lines = lines := by
  have start : lines.length - p.count = o.count := by omega
  rw [Head.apply, Tail.apply, start, List.take_append_drop]

/-- A count is honoured exactly if its number is below the bound of a machine word; every other
text means ten. It is written as digits that have the same effect. Of two counts that are honoured
the smaller one keeps a beginning of what the larger one keeps, or an end of it, and counts that
make up the number of the lines keep all of them between them. -/
theorem keeps_asked_iff (o p : LineCount) :
    (∀ n, o.Asks n → (o.Keeps n ↔ n < Text.wordBound)) ∧
      ((∀ n, o.Asks n → Text.wordBound ≤ n) → o.Keeps usual) ∧
      (∀ tool : Tool, ∃ written : LineCount,
        o.render tool = tool.name ++ " -n ".toList ++ written.n ∧ written.Asks o.count ∧
          ∀ n, written.Keeps n ↔ o.Keeps n) ∧
      (∀ m n, o.Asks m → p.Asks n → m ≤ n → n < Text.wordBound → ∀ lines,
        Head.apply o lines <+: Head.apply p lines ∧ Tail.apply o lines <:+ Tail.apply p lines) ∧
      ∀ n (lines : List Text), o.Asks n → p.Asks (lines.length - n) → n ≤ lines.length →
        lines.length < Text.wordBound → Head.apply o lines ++ Tail.apply p lines = lines := by
  refine ⟨fun n => keeps_of_asks_iff, fun h => keeps_iff.2 (count_of_not h), fun tool => ?_, ?_, ?_⟩
  · refine ⟨⟨Text.ofNat o.count⟩, rfl, ?_, fun n => ?_⟩
    · rw [Asks, trim_ofNat]
      exact Text.denotes_ofNat o.count
    · rw [keeps_iff, keeps_iff, count_ofNat_count]
  · intro m n hm hn le bound lines
    have smaller : o.count ≤ p.count := by
      rw [count_of_asks hm (Nat.lt_of_le_of_lt le bound), count_of_asks hn bound]
      exact le
    exact ⟨head_prefix_of_le smaller lines, tail_suffix_of_le smaller lines⟩
  · intro n lines hn rest le bound
    refine head_append_tail ?_
    rw [count_of_asks hn (Nat.lt_of_le_of_lt le bound),
      count_of_asks rest (Nat.lt_of_le_of_lt (Nat.sub_le _ _) bound)]
    omega

/-- A sign, zeros in front and blanks around, and the largest count that is honoured. -/
theorem keeps_asked_padded :
    (⟨" +007 ".toList⟩ : LineCount).Asks 7 ∧ (⟨" +007 ".toList⟩ : LineCount).Keeps 7 ∧
      (⟨"18446744073709551615".toList⟩ : LineCount).Asks 18446744073709551615 ∧
      ∀ lines, Head.apply ⟨" +007 ".toList⟩ lines <+:
          Head.apply ⟨"18446744073709551615".toList⟩ lines ∧
        Tail.apply ⟨" +007 ".toList⟩ lines <:+
          Tail.apply ⟨"18446744073709551615".toList⟩ lines := by
  have seven : (⟨" +007 ".toList⟩ : LineCount).Asks 7 :=
    ⟨['+'], "007".toList, by decide, .inr rfl, by decide, List.all_eq_true.1 (by decide),
      by decide⟩
  have largest : (⟨"18446744073709551615".toList⟩ : LineCount).Asks 18446744073709551615 :=
    ⟨[], "18446744073709551615".toList, by decide, .inl rfl, by decide,
      List.all_eq_true.1 (by decide), by decide⟩
  obtain ⟨kept, -, -, ordered, -⟩ :=
    keeps_asked_iff ⟨" +007 ".toList⟩ ⟨"18446744073709551615".toList⟩
  exact ⟨seven, (kept 7 seven).2 (by decide), largest,
    ordered 7 18446744073709551615 seven largest (by decide) (by decide)⟩

/-- The first number beyond the bound asks for all of eleven lines, and ten are kept. -/
theorem large_count_means_ten :
    (⟨"18446744073709551616".toList⟩ : LineCount).Asks 18446744073709551616 ∧
      Head.apply ⟨"18446744073709551616".toList⟩ (List.replicate 11 ['a']) =
        List.replicate 10 ['a'] ∧
      Tail.apply ⟨"18446744073709551616".toList⟩ (List.replicate 11 ['a']) =
        List.replicate 10 ['a'] ∧
      ¬ (⟨"18446744073709551616".toList⟩ : LineCount).Keeps 18446744073709551616 := by
  have asks : (⟨"18446744073709551616".toList⟩ : LineCount).Asks 18446744073709551616 :=
    ⟨[], "18446744073709551616".toList, by decide, .inl rfl, by decide,
      List.all_eq_true.1 (by decide), by decide⟩
  have large : Text.wordBound ≤ 18446744073709551616 := by decide
  have ten := count_of_large asks large
  refine ⟨asks, ?_, ?_, fun kept => Nat.not_lt.2 large ((keeps_of_asks_iff asks).1 kept)⟩
  · rw [Head.apply, ten]
    decide
  · rw [Tail.apply, ten]
    decide

end LineCount

end Pipework
