import Mathlib.Data.List.Forall2
import Pipework.Filter
import Pipework.Proofs.Text.Numerals
import Pipework.Proofs.Text.Parts

/-!
Print clauses: the programs that are recognised, and what they print.
-/

set_option autoImplicit false
set_option relaxedAutoImplicit false

namespace Pipework

/-! ## Recognition

The programs of `awk` that a preview runs are those of one production: `print` in braces, and behind
it fields with commas between them, each a dollar sign in front of digits. Blanks may stand around
every part, and must stand behind `print`. The digits are the decimal digits of all scripts. The
recogniser accepts these programs and no other, and gives the numbers that the digits denote
(`printFields?_eq_some_iff`).
-/

namespace Text

theorem isDigit_of_isBlank {c : Char} (h : isBlank c = true) : Unicode.isDigit c = false := by
  have table : ∀ base ∈ Unicode.digitZeros, ∀ k < 10,
      isBlank (Char.ofNat (base + k)) = false := by decide +kernel
  rw [Bool.eq_false_iff]
  intro digit
  obtain ⟨base, among, range⟩ := List.any_eq_true.1 digit
  have bounds : base ≤ c.toNat ∧ c.toNat < base + 10 := by simpa using range
  have code : Char.ofNat (base + (c.toNat - base)) = c := by
    rw [Nat.add_sub_cancel' bounds.1, Char.ofNat_toNat]
  have visible := table base among (c.toNat - base) (by omega)
  rw [code, h] at visible
  cases visible

end Text

namespace Awk

/-- Decimal digits of any script, at least one. Only ASCII digits denote a number: the recogniser
takes the others as well, and they name no field. -/
def Numeral (t : Text) : Prop := t ≠ [] ∧ ∀ c ∈ t, Unicode.isDigit c = true

inductive FieldList : List Text → Text → Prop
  | last {digits : Text} : Numeral digits → FieldList [digits] ('$' :: digits)
  | comma {digits before behind rest : Text} {numerals : List Text} :
      Numeral digits → Text.Blank before → Text.Blank behind → FieldList numerals rest →
      FieldList (digits :: numerals) ('$' :: digits ++ (before ++ ',' :: (behind ++ rest)))

/-- A program that is one print clause, and the digits of each of its fields. As in `Numeral` the
digits may be of any script, so these are the programs that a preview runs; those with ASCII digits
alone are fewer (`PlainClause`). -/
inductive PrintClause : List Text → Text → Prop
  | clause {start inner gap list close stop : Text} {numerals : List Text} :
      Text.Blank start → Text.Blank inner → Text.Blank gap → gap ≠ [] → FieldList numerals list →
      Text.Blank close → Text.Blank stop →
      PrintClause numerals
        (start ++ '\x7b' :: (inner ++ "print".toList ++ gap ++ list ++ close ++ '\x7d' :: stop))

/-- What follows the digits of a field: not another digit. -/
def EndsNumeral (t : Text) : Prop := ∀ c, t.head? = some c → Unicode.isDigit c = false

theorem EndsNumeral.of_blanks {b : Text} (hb : Text.Blank b) {c : Char}
    (hc : Unicode.isDigit c = false) (t : Text) : EndsNumeral (b ++ c :: t) := by
  intro d first
  cases b with
  | nil =>
    cases first
    exact hc
  | cons e b =>
    cases first
    exact Text.isDigit_of_isBlank (hb d List.mem_cons_self)

section Field

variable {digits behind : Text}

theorem takeWhile_digits (h : Numeral digits) (stop : EndsNumeral behind) :
    (digits ++ behind).takeWhile Unicode.isDigit = digits := by
  rw [List.takeWhile_append_of_pos h.2]
  cases behind with
  | nil => simp
  | cons c behind => simp [stop c rfl]

theorem dropWhile_digits (h : Numeral digits) (stop : EndsNumeral behind) :
    (digits ++ behind).dropWhile Unicode.isDigit = behind := by
  rw [List.dropWhile_append_of_pos h.2]
  cases behind with
  | nil => rfl
  | cons c behind => simp [stop c rfl]

theorem fieldsFrom_numeral (fuel : Nat) (h : Numeral digits) (stop : EndsNumeral behind) :
    fieldsFrom (fuel + 1) ('$' :: (digits ++ behind)) =
      if closes (Text.trimLeft behind) then some [Text.readWord? digits]
      else match Text.trimLeft behind with
        | ',' :: next => (fieldsFrom fuel (Text.trimLeft next)).map (Text.readWord? digits :: ·)
        | _ => none := by
  have filled : ¬digits.isEmpty = true := by simpa using h.1
  rw [fieldsFrom, takeWhile_digits h stop, dropWhile_digits h stop]
  exact if_neg filled

end Field

theorem FieldList.starts {numerals : List Text} {list : Text} (h : FieldList numerals list) :
    ∃ rest, list = '$' :: rest := by
  cases h with
  | last digits => exact ⟨_, rfl⟩
  | comma digits before behind rest => exact ⟨_, rfl⟩

theorem FieldList.length_le {numerals : List Text} {list : Text} (h : FieldList numerals list) :
    numerals.length ≤ list.length := by
  induction h with
  | last digits => simp
  | comma digits before behind rest ih =>
    simp only [List.length_cons, List.length_append]
    omega

private theorem trimLeft_behind {b : Text} (hb : Text.Blank b) {c : Char} {t : Text}
    (hc : Text.isBlank c = false) : Text.trimLeft (b ++ c :: t) = c :: t := by
  rw [Text.trimLeft_blanks_append hb, Text.trimLeft_of_head hc]

theorem FieldList.fieldsFrom_eq {numerals : List Text} {list : Text}
    (h : FieldList numerals list) {close stop : Text} (hclose : Text.Blank close)
    (hstop : Text.Blank stop) {fuel : Nat} (enough : numerals.length ≤ fuel) :
    fieldsFrom fuel (list ++ (close ++ '\x7d' :: stop)) =
      some (numerals.map Text.readWord?) := by
  induction h generalizing fuel with
  | @last digits numeral =>
    obtain ⟨fuel, rfl⟩ : ∃ n, fuel = n + 1 := Nat.exists_eq_add_one.2 enough
    have ends : EndsNumeral (close ++ '\x7d' :: stop) := .of_blanks hclose (by decide) stop
    have closing : closes ('\x7d' :: stop) = true := Text.isBlankText_iff.2 hstop
    rw [List.cons_append, fieldsFrom_numeral fuel numeral ends,
      trimLeft_behind hclose (by decide), if_pos closing]
    rfl
  | @comma digits before behind rest numerals numeral hbefore hbehind list ih =>
    obtain ⟨fuel, rfl⟩ : ∃ n, fuel = n + 1 := Nat.exists_eq_add_one.2 (Nat.lt_of_lt_of_le
      (Nat.succ_pos _) enough)
    have others := ih (Nat.le_of_succ_le_succ enough)
    obtain ⟨tail, rfl⟩ := list.starts
    have shape : '$' :: digits ++ (before ++ ',' :: (behind ++ '$' :: tail)) ++
        (close ++ '\x7d' :: stop) =
        '$' :: (digits ++ (before ++ ',' :: (behind ++ '$' :: (tail ++ (close ++ '\x7d' :: stop)))))
        := by simp
    have ends : EndsNumeral
        (before ++ ',' :: (behind ++ '$' :: (tail ++ (close ++ '\x7d' :: stop)))) :=
      .of_blanks hbefore (by decide) _
    rw [shape, fieldsFrom_numeral fuel numeral ends, trimLeft_behind hbefore (by decide),
      if_neg (by simp [closes])]
    simp only
    rw [trimLeft_behind hbehind (by decide), ← List.cons_append, others]
    rfl

theorem closes_iff {t : Text} : closes t = true ↔ ∃ stop, t = '\x7d' :: stop ∧ Text.Blank stop := by
  constructor
  · intro h
    unfold closes at h
    split at h
    · next stop => exact ⟨stop, rfl, Text.isBlankText_iff.1 h⟩
    · cases h
  · rintro ⟨stop, rfl, blank⟩
    exact Text.isBlankText_iff.2 blank

theorem exists_numeral_of_fieldsFrom {fuel : Nat} {t : Text} {fields : List (Option Nat)}
    (h : fieldsFrom (fuel + 1) t = some fields) :
    ∃ digits behind, t = '$' :: (digits ++ behind) ∧ Numeral digits ∧ EndsNumeral behind := by
  rw [fieldsFrom.eq_def] at h
  split at h
  · next fuel rest same =>
    simp only at h
    split at h
    · cases h
    · next filled =>
      refine ⟨rest.takeWhile Unicode.isDigit, rest.dropWhile Unicode.isDigit,
        by rw [List.takeWhile_append_dropWhile], ⟨by simpa using filled, ?_⟩, ?_⟩
      · exact fun c hc => List.all_eq_true.1 List.all_takeWhile c hc
      · intro c first
        have stops := List.head?_dropWhile_not Unicode.isDigit rest
        rw [first] at stops
        exact stops
  · cases h

theorem exists_fieldList_of_fieldsFrom {fuel : Nat} {t : Text} {fields : List (Option Nat)}
    (h : fieldsFrom fuel t = some fields) :
    ∃ numerals list close stop, t = list ++ (close ++ '\x7d' :: stop) ∧ FieldList numerals list ∧
      Text.Blank close ∧ Text.Blank stop ∧ fields = numerals.map Text.readWord? := by
  induction fuel generalizing t fields with
  | zero => simp [fieldsFrom] at h
  | succ fuel ih =>
    obtain ⟨digits, behind, rfl, numeral, ends⟩ := exists_numeral_of_fieldsFrom h
    rw [fieldsFrom_numeral fuel numeral ends] at h
    obtain ⟨gap, hgap, apart⟩ := Text.exists_trimLeft behind
    split at h
    · next closing =>
      obtain ⟨stop, rest, hstop⟩ := closes_iff.1 closing
      cases h
      refine ⟨[digits], '$' :: digits, gap, stop, ?_, .last numeral, hgap, hstop, rfl⟩
      rw [← rest, ← apart]
      rfl
    · split at h
      · next next rest =>
        obtain ⟨fields, read, rfl⟩ := Option.map_eq_some_iff.1 h
        obtain ⟨numerals, list, close, stop, tail, hlist, hclose, hstop, rfl⟩ := ih read
        obtain ⟨behind', hbehind, apart'⟩ := Text.exists_trimLeft next
        refine ⟨digits :: numerals, _, close, stop, ?_, .comma numeral hgap hbehind hlist, hclose,
          hstop, rfl⟩
        rw [apart, rest, apart', tail]
        simp
      · cases h

theorem PrintClause.printFields?_eq {numerals : List Text} {program : Text}
    (h : PrintClause numerals program) :
    printFields? program = some (numerals.map Text.readWord?) := by
  cases h with
  | @clause start inner gap list close stop _ hstart hinner hgap ne hlist hclose hstop =>
    obtain ⟨c, gap, rfl⟩ := List.exists_cons_of_ne_nil ne
    obtain ⟨blank, hgap⟩ := Text.blank_cons.1 hgap
    have enough : numerals.length ≤ (gap ++ (list ++ (close ++ '\x7d' :: stop))).length := by
      have count := hlist.length_le
      simp only [List.length_append]
      omega
    have read := hlist.fieldsFrom_eq hclose hstop enough
    obtain ⟨tail, rfl⟩ := hlist.starts
    have shape : inner ++ "print".toList ++ (c :: gap) ++ '$' :: tail ++ close ++ '\x7d' :: stop =
        inner ++ 'p' :: 'r' :: 'i' :: 'n' :: 't' :: c ::
          (gap ++ ('$' :: tail ++ (close ++ '\x7d' :: stop))) := by simp
    rw [printFields?, trimLeft_behind hstart (by decide)]
    simp only
    rw [shape, trimLeft_behind hinner (by decide)]
    simp only
    rw [if_pos blank, ← read, Text.trimLeft_blanks_append hgap]
    rfl

theorem exists_printClause_of_printFields? {program : Text} {fields : List (Option Nat)}
    (h : printFields? program = some fields) :
    ∃ numerals, PrintClause numerals program ∧ fields = numerals.map Text.readWord? := by
  unfold printFields? at h
  obtain ⟨start, hstart, apart⟩ := Text.exists_trimLeft program
  split at h
  · next body opened =>
    obtain ⟨inner, hinner, apart'⟩ := Text.exists_trimLeft body
    split at h
    · next c clause keyword =>
      split at h
      · next blank =>
        obtain ⟨gap, hgap, apart''⟩ := Text.exists_trimLeft clause
        obtain ⟨numerals, list, close, stop, tail, hlist, hclose, hstop, rfl⟩ :=
          exists_fieldList_of_fieldsFrom h
        have whole := PrintClause.clause hstart hinner (Text.blank_cons.2 ⟨blank, hgap⟩)
          (List.cons_ne_nil c gap) hlist hclose hstop
        refine ⟨numerals, ?_, rfl⟩
        rw [apart, opened, apart', keyword, apart'', tail]
        simpa using whole
      · cases h
    · cases h
  · cases h

/-- The recogniser accepts the print clauses, and gives the numbers of their fields. -/
theorem printFields?_eq_some_iff {program : Text} {fields : List (Option Nat)} :
    printFields? program = some fields ↔
      ∃ numerals, PrintClause numerals program ∧ fields = numerals.map Text.readWord? := by
  constructor
  · exact exists_printClause_of_printFields?
  · rintro ⟨numerals, clause, rfl⟩
    exact clause.printFields?_eq

/-! ## Printing

The digits behind a dollar sign name a field by the number they denote, and a field is the whole
line or a part of it (`Entry`, `Prints`). The digits of any script are taken, and those that are
not ASCII name no field; a program with ASCII digits alone is recognised exactly if it is a print
clause (`print_clause_exact`).
-/

/-! ### The numbers of fields -/

/-- What the digits of a field name: the number they denote if it fits a machine word. -/
inductive Entry (digits : Text) : Option Nat → Prop
  | number {n : Nat} : Text.Denotes digits n → n < Text.wordBound → Entry digits (some n)
  | large {n : Nat} : Text.Denotes digits n → Text.wordBound ≤ n → Entry digits none
  | foreign {c : Char} : c ∈ digits → c.isDigit = false → Entry digits none

/-- A print clause with ASCII digits alone, where `PrintClause` takes those of any script: all its
digits denote numbers. -/
def PlainClause (numerals : List Text) (program : Text) : Prop :=
  PrintClause numerals program ∧ ∀ digits ∈ numerals, ∀ c ∈ digits, c.isDigit = true

theorem Numeral.denotes_iff {digits : Text} (h : Numeral digits) {n : Nat} :
    Text.Denotes digits n ↔
      (∀ c ∈ digits, c.isDigit = true) ∧ n = Nat.ofDigitChars 10 digits 0 := by
  have unsigned : ∀ rest, digits ≠ '+' :: rest := by
    rintro rest rfl
    have plus := h.2 '+' List.mem_cons_self
    revert plus
    decide
  rw [Text.denotes_unsigned_iff unsigned, Text.readNat?_eq_some_iff]
  exact and_iff_right h.1

theorem Numeral.entry_iff {digits : Text} (h : Numeral digits) {field : Option Nat} :
    Entry digits field ↔ Text.readWord? digits = field := by
  constructor
  · intro entry
    cases entry with
    | number value bound => exact Text.readWord?_eq_some_iff.2 ⟨value, bound⟩
    | large value bound =>
      refine Option.eq_none_iff_forall_ne_some.2 fun m read => ?_
      obtain ⟨value', bound'⟩ := Text.readWord?_eq_some_iff.1 read
      rw [value'.unique value] at bound'
      exact Nat.not_lt.2 bound bound'
    | foreign among other =>
      refine Option.eq_none_iff_forall_ne_some.2 fun m read => ?_
      obtain ⟨value, -⟩ := Text.readWord?_eq_some_iff.1 read
      rw [(h.denotes_iff.1 value).1 _ among] at other
      cases other
  · rintro rfl
    cases read : Text.readWord? digits with
    | some n =>
      obtain ⟨value, bound⟩ := Text.readWord?_eq_some_iff.1 read
      exact .number value bound
    | none =>
      by_cases decimal : ∀ c ∈ digits, c.isDigit = true
      · have value := h.denotes_iff.2 ⟨decimal, rfl⟩
        refine .large value (Nat.not_lt.1 fun bound => ?_)
        rw [Text.readWord?_eq_some_iff.2 ⟨value, bound⟩] at read
        cases read
      · obtain ⟨c, among, other⟩ : ∃ c ∈ digits, c.isDigit = false := by simpa using decimal
        exact .foreign among other

theorem FieldList.numeral {numerals : List Text} {list : Text} (h : FieldList numerals list) :
    ∀ digits ∈ numerals, Numeral digits := by
  induction h with
  | last numeral => simpa using numeral
  | comma numeral _ _ _ ih => exact List.forall_mem_cons.2 ⟨numeral, ih⟩

theorem PrintClause.numeral {numerals : List Text} {program : Text}
    (h : PrintClause numerals program) : ∀ digits ∈ numerals, Numeral digits := by
  cases h with
  | clause _ _ _ _ list => exact list.numeral

/-! ### The digits of a clause -/

section Digit

variable {c : Char} (digit : Unicode.isDigit c = true)
include digit

theorem not_mem_of_blank {b : Text} (hb : Text.Blank b) : c ∉ b := fun among =>
  Text.ne_of_class digit (Text.isDigit_of_isBlank (hb c among)) rfl

theorem FieldList.mem_iff {numerals : List Text} {list : Text} (h : FieldList numerals list) :
    c ∈ list ↔ c ∈ numerals.flatten := by
  have dollar : c ≠ '$' := Text.ne_of_class digit (by decide)
  have comma : c ≠ ',' := Text.ne_of_class digit (by decide)
  induction h with
  | last numeral => simp [dollar]
  | comma numeral before behind list ih =>
    simp [dollar, comma, not_mem_of_blank digit before, not_mem_of_blank digit behind, ih]

theorem PrintClause.mem_iff {numerals : List Text} {program : Text}
    (h : PrintClause numerals program) : c ∈ program ↔ c ∈ numerals.flatten := by
  have keyword : c ∉ "print".toList := fun among => by
    have letters : "print".toList.all (!Unicode.isDigit ·) = true := by decide
    simpa [digit] using List.all_eq_true.1 letters c among
  have opening : c ≠ '\x7b' := Text.ne_of_class digit (by decide)
  have closing : c ≠ '\x7d' := Text.ne_of_class digit (by decide)
  cases h with
  | clause start inner gap _ list close stop =>
    simp only [List.mem_append, List.mem_cons, not_mem_of_blank digit start,
      not_mem_of_blank digit inner, not_mem_of_blank digit gap, not_mem_of_blank digit close,
      not_mem_of_blank digit stop, keyword, opening, closing, list.mem_iff digit, false_or,
      or_false]

end Digit

theorem PrintClause.plain_iff {numerals : List Text} {program : Text}
    (h : PrintClause numerals program) :
    (∀ digits ∈ numerals, ∀ c ∈ digits, c.isDigit = true) ↔
      ∀ c ∈ program, Unicode.isDigit c = true → c.isDigit = true := by
  constructor
  · intro plain c among digit
    obtain ⟨digits, hdigits, hc⟩ := List.mem_flatten.1 ((h.mem_iff digit).1 among)
    exact plain digits hdigits c hc
  · intro plain digits hdigits c hc
    have digit := (h.numeral digits hdigits).2 c hc
    exact plain c ((h.mem_iff digit).2 (List.mem_flatten.2 ⟨digits, hdigits, hc⟩)) digit

theorem exists_plainClause_iff {program : Text} :
    (∃ numerals, PlainClause numerals program) ↔
      (∃ fields, printFields? program = some fields) ∧
        ∀ c ∈ program, Unicode.isDigit c = true → c.isDigit = true := by
  constructor
  · rintro ⟨numerals, clause, plain⟩
    exact ⟨⟨_, clause.printFields?_eq⟩, clause.plain_iff.1 plain⟩
  · rintro ⟨⟨fields, read⟩, plain⟩
    obtain ⟨numerals, clause, -⟩ := exists_printClause_of_printFields? read
    exact ⟨numerals, clause, clause.plain_iff.2 plain⟩

/-! ### The fields of a line -/

/-- The parts of a line under a separator: between tabs for either spelling of a tab, runs without
blanks for the empty one, and between occurrences of any other. -/
def Fields (separator line : Text) (parts : List Text) : Prop :=
  if Shell.isTab separator then Text.Parted ['\t'] line parts
  else if separator = [] then Text.Runs line parts
  else Text.Parted separator line parts

inductive Prints (line : Text) (parts : List Text) : Option Nat → Text → Prop
  | whole : Prints line parts (some 0) line
  | part {n : Nat} {part : Text} : parts[n]? = some part → Prints line parts (some (n + 1)) part
  | missing {n : Nat} : parts.length ≤ n → Prints line parts (some (n + 1)) []
  | unnamed : Prints line parts none []

/-- What is printed for a line: its fields, with one blank between them. -/
def Shows (separator : Text) (fields : List (Option Nat)) (line shown : Text) : Prop :=
  ∃ parts texts, Fields separator line parts ∧ List.Forall₂ (Prints line parts) fields texts ∧
    Text.join [' '] texts = shown

theorem fields_iff {separator line : Text} {parts : List Text} :
    Fields separator line parts ↔ parts = splitFields separator line := by
  rw [Fields, splitFields]
  by_cases tab : Shell.isTab separator = true
  · rw [if_pos tab, if_pos tab, Text.parted_iff (List.cons_ne_nil '\t' []),
      Text.splitOn_eq_splitAtText]
  · rw [if_neg tab, if_neg tab]
    by_cases empty : separator = []
    · rw [if_pos empty, if_pos (List.isEmpty_iff.2 empty), Text.runs_iff]
    · rw [if_neg empty, if_neg (mt List.isEmpty_iff.1 empty), Text.parted_iff empty]

theorem prints_iff {line : Text} {parts : List Text} {f : Option Nat} {t : Text} :
    Prints line parts f t ↔ field line parts f = t := by
  constructor
  · intro h
    cases h with
    | whole => rfl
    | part found => simp [field, found]
    | missing beyond => simp [field, beyond]
    | unnamed => rfl
  · rintro rfl
    match f with
    | none => exact .unnamed
    | some 0 => exact .whole
    | some (n + 1) =>
      cases found : parts[n]? with
      | some part => simpa [field, found] using Prints.part found
      | none => simpa [field, found] using Prints.missing (List.getElem?_eq_none_iff.1 found)

theorem shows_iff {separator : Text} {fields : List (Option Nat)} {line shown : Text} :
    Shows separator fields line shown ↔ project separator fields line = shown := by
  have texts (parts shown : List Text) :
      List.Forall₂ (Prints line parts) fields shown ↔ fields.map (field line parts) = shown :=
    forall₂_iff_map_eq fun _ _ _ => prints_iff
  simp [Shows, fields_iff, texts, project]

/-! ### The whole program -/

theorem printFields?_eq_some_iff_entries {program : Text} {fields : List (Option Nat)} :
    printFields? program = some fields ↔
      ∃ numerals, PrintClause numerals program ∧ List.Forall₂ Entry numerals fields := by
  rw [printFields?_eq_some_iff]
  refine exists_congr fun numerals => and_congr_right fun clause => ?_
  rw [forall₂_iff_map_eq fun digits among field => (clause.numeral digits among).entry_iff, eq_comm]

/-- A program is recognised exactly if it is a print clause, its digits of any script, and gives
the fields that the digits name; a clause with ASCII digits is one that is recognised and holds no
other digits. If the program in force is recognised, its fields of each line are printed with one
blank between them, and otherwise there is no preview of any lines. -/
theorem print_clause_exact (program : Text) :
    ((∃ numerals, PlainClause numerals program) ↔
        (∃ fields, printFields? program = some fields) ∧
          ∀ c ∈ program, Unicode.isDigit c = true → c.isDigit = true) ∧
      (∀ fields, printFields? program = some fields ↔
        ∃ numerals, PrintClause numerals program ∧ List.Forall₂ Entry numerals fields) ∧
      ∀ o : Awk, o.effectiveProgram = program → ∀ lines text,
        (∀ fields, printFields? program = some fields → ∃ printed,
          (Filter.awk o).apply lines text = .ok printed ∧
            List.Forall₂ (Shows o.separator fields) lines printed) ∧
          (printFields? program = none →
            (Filter.awk o).apply lines text = .error .unavailable) := by
  refine ⟨exists_plainClause_iff, fun fields => printFields?_eq_some_iff_entries, ?_⟩
  rintro o rfl lines text
  constructor
  · intro fields read
    have shown : List.Forall₂ (Shows o.separator fields) lines
        (lines.map (project o.separator fields)) :=
      (forall₂_iff_map_eq (f := project o.separator fields) fun _ _ _ => shows_iff).2 rfl
    exact ⟨_, by simp [Filter.apply, print?, read], shown⟩
  · intro refused
    simp [Filter.apply, print?, refused]

/-- Zeros in front of a number, a number beyond the bound, the whole line, and a line with one
part. -/
theorem print_clause_exact_mixed :
    (∃ numerals, PlainClause numerals
      "\x7bprint\t$002,$18446744073709551616 , $0\x7d".toList) ∧
      List.Forall₂ (Shows [','] [some 2, none, some 0]) ["a,b".toList, ['c']]
        ["b  a,b".toList, "  c".toList] ∧
      ∀ lines text, (Filter.awk ⟨[','], "\x7bprint NF\x7d".toList⟩).apply lines text =
        .error .unavailable := by
  obtain ⟨plain, -, shows⟩ :=
    print_clause_exact "\x7bprint\t$002,$18446744073709551616 , $0\x7d".toList
  obtain ⟨-, -, refused⟩ := print_clause_exact "\x7bprint NF\x7d".toList
  have read : printFields? "\x7bprint\t$002,$18446744073709551616 , $0\x7d".toList =
      some [some 2, none, some 0] := by decide +kernel
  obtain ⟨printed, made, lines⟩ :=
    (shows ⟨[','], "\x7bprint\t$002,$18446744073709551616 , $0\x7d".toList⟩ (by decide +kernel)
      ["a,b".toList, ['c']] []).1 _ read
  have ascii : "\x7bprint\t$002,$18446744073709551616 , $0\x7d".toList.all
      (fun c => !Unicode.isDigit c || c.isDigit) = true := by decide +kernel
  have texts : printed = ["b  a,b".toList, "  c".toList] :=
    Except.ok.inj (made.symm.trans (by decide +kernel))
  refine ⟨plain.2 ⟨⟨_, read⟩, fun c among digit => ?_⟩, texts ▸ lines, fun lines text => ?_⟩
  · simpa [digit] using List.all_eq_true.1 ascii c among
  · exact (refused ⟨[','], "\x7bprint NF\x7d".toList⟩ (by decide +kernel) lines text).2
      (by decide +kernel)

/-- An Arabic digit is recognised as the number of a field and names none, so that a program
beyond the grammar is shown as an empty field. -/
theorem arabic_digit_recognised :
    (¬ ∃ numerals, PlainClause numerals "\x7b print $\u0661 \x7d".toList) ∧
      printFields? "\x7b print $\u0661 \x7d".toList = some [none] ∧
      (Filter.awk ⟨[], "\x7b print $\u0661 \x7d".toList⟩).apply ["a b".toList] "a b".toList =
        .ok [[]] := by
  refine ⟨fun plain => ?_, by decide +kernel, by decide +kernel⟩
  have ascii := (exists_plainClause_iff.1 plain).2 '\u0661' (by decide) (by decide)
  revert ascii
  decide

end Awk

end Pipework
