import Mathlib.Data.List.TakeWhile
import Mathlib.Tactic.SplitIfs
import Pipework.Proofs.Text.Numerals
import Pipework.Toml.Reader

/-!
A string that is written is read back, in each of the four kinds (`quoted_writeString`).
-/

set_option autoImplicit false
set_option relaxedAutoImplicit false

namespace Pipework.Toml

theorem isPlain_of_isControl {c : Char} (control : isControl c = false) (line : c ≠ '\n') :
    isPlain c = true := by
  by_cases tab : c = '\t'
  · simp [isPlain, tab]
  · simp [isControl, tab, line] at control
    simp [isPlain, tab]
    omega

theorem lineBreak?_of_isPlain {c : Char} (plain : isPlain c = true) (rest : Text) :
    lineBreak? (c :: rest) = none := by
  rw [lineBreak?.eq_def]
  split
  · next same => cases same; cases plain
  · next same => cases same; cases plain
  · rfl

/-- A character as it stands in a basic string: as it is, or behind a backslash. -/
inductive Written (multiline : Bool) (c : Char) : Text → Prop
  | plain (plain : isPlain c = true) (quote : c ≠ '\x22') (backslash : c ≠ '\\') :
    Written multiline c [c]
  | line (lined : multiline = true) (line : c = '\n') : Written multiline c [c]
  | escaped (tail : Text) (back : ∀ rest, escape (tail ++ rest) = some (c, rest))
    (goes : ∀ rest, continued? (tail ++ rest) = none) : Written multiline c ('\\' :: tail)

theorem escape_scalar {c : Char} (small : c.toNat < 0x10000) (rest : Text) :
    escape (('u' :: (Text.hexPadded 4 c.toNat).map Char.toUpper) ++ rest) = some (c, rest) := by
  have length : ((Text.hexPadded 4 c.toNat).map Char.toUpper).length = 4 := by simp
  have digits := Text.readHex_map_hexPadded Text.hexValue?_toUpper_hexDigit 4 c.toNat
  have bound : c.toNat < Nat.pow 16 4 := small
  rw [Nat.mod_eq_of_lt bound] at digits
  have valid : c.toNat.isValidChar := c.valid
  generalize (Text.hexPadded 4 c.toNat).map Char.toUpper = ds at length digits
  simp [escape, scalar, ← length, digits, valid]

theorem written_quote (multiline : Bool) : Written multiline '\x22' ['\\', '\x22'] :=
  .escaped ['\x22'] (fun _ => rfl) fun _ => rfl

theorem written_escapeChar (multiline : Bool) {c : Char} (quote : c ≠ '\x22') :
    Written multiline c (escapeChar multiline c) := by
  rw [escapeChar]
  split_ifs with back tab line lined feed carriage backslash control
  · exact .escaped ['b'] (fun _ => by rw [back]; rfl) fun _ => rfl
  · exact .escaped ['t'] (fun _ => by rw [tab]; rfl) fun _ => rfl
  · subst line
    exact .line lined rfl
  · exact .escaped ['n'] (fun _ => by rw [line]; rfl) fun _ => rfl
  · exact .escaped ['f'] (fun _ => by rw [feed]; rfl) fun _ => rfl
  · exact .escaped ['r'] (fun _ => by rw [carriage]; rfl) fun _ => rfl
  · exact .escaped ['\\'] (fun _ => by rw [backslash]; rfl) fun _ => rfl
  · have small : c.toNat < 0x10000 := by
      simp [isControl] at control
      omega
    exact .escaped _ (escape_scalar small) fun _ => rfl
  · exact .plain (isPlain_of_isControl (by simpa using control) line) quote backslash

/-! ### One line -/

theorem basicTail_append {c : Char} {w : Text} (written : Written false c w) (fuel : Nat)
    (rest : Text) : basicTail (fuel + 1) (w ++ rest) = (basicTail fuel rest).map (grow c) := by
  cases written with
  | plain plain quote backslash => simp [basicTail, quote, backslash, plain]
  | line lined => cases lined
  | escaped tail back => simp [basicTail, back]

theorem escapeFrom_false_cons (run : Nat) (c : Char) (t : Text) :
    ∃ w, Written false c w ∧ escapeFrom false run (c :: t) = w ++ escapeFrom false 0 t := by
  by_cases quote : c = '\x22'
  · subst quote
    exact ⟨_, written_quote false, by simp [escapeFrom, freeQuotes]⟩
  · exact ⟨_, written_escapeChar false quote, by simp [escapeFrom, quote]⟩

theorem basicTail_escapeFrom (t rest : Text) (run : Nat) {fuel : Nat} (enough : t.length < fuel) :
    basicTail fuel (escapeFrom false run t ++ '\x22' :: rest) = some (t, rest) := by
  induction t generalizing run fuel with
  | nil =>
    cases fuel with
    | zero => cases enough
    | succ fuel => simp [escapeFrom, basicTail]
  | cons c t ih =>
    cases fuel with
    | zero => cases enough
    | succ fuel =>
      obtain ⟨w, written, same⟩ := escapeFrom_false_cons run c t
      have rest' := ih 0 (Nat.lt_of_succ_lt_succ enough)
      rw [same, List.append_assoc, basicTail_append written, rest']
      rfl

theorem literalTail_append {t : Text} (plain : ∀ c ∈ t, isPlain c = true ∧ c ≠ '\'')
    (rest : Text) : literalTail (t ++ '\'' :: rest) = some (t, rest) := by
  induction t with
  | nil => rfl
  | cons c t ih =>
    rw [List.forall_mem_cons] at plain
    obtain ⟨⟨plain, quote⟩, others⟩ := plain
    rw [List.cons_append, literalTail, if_neg quote, if_pos plain, ih others]
    rfl

/-! ### Several lines -/

section Multi

variable {quote : Char} {escapes : Bool}

theorem closing_eq_none {t : Text} (short : (t.takeWhile (· == quote)).length ≤ 2) :
    closing quote t = none := by
  rw [closing, if_pos (by omega)]

theorem closing_eq_some {t rest : Text} (only : ∀ c ∈ t, c = quote) (short : t.length ≤ 2)
    (ends : rest.head? ≠ some quote) :
    closing quote (t ++ (List.replicate 3 quote ++ rest)) = some (t, rest) := by
  have stop : rest.takeWhile (· == quote) = [] := by
    cases rest with
    | nil => rfl
    | cons c rest => exact List.takeWhile_cons_of_neg (by simpa using ends)
  have run : (t ++ (List.replicate 3 quote ++ rest)).takeWhile (· == quote) =
      t ++ List.replicate 3 quote := by
    rw [List.takeWhile_append_of_pos (by simpa using only), List.takeWhile_append_of_pos (by simp),
      stop, List.append_nil]
  have length : (t ++ List.replicate 3 quote).length = t.length + 3 := by simp
  have before : min (t.length + 3 - 3) 2 = t.length := by omega
  simp only [closing, run, length, before]
  rw [if_neg (by omega), List.take_left, ← List.append_assoc, List.drop_left' length]

theorem multiTail_closing {t : Text} {r : Text × Text} (closed : closing quote t = some r)
    (fuel : Nat) : multiTail quote escapes (fuel + 1) t = some r := by
  rw [multiTail.eq_def]
  simp [closed]

theorem multiTail_plain {c : Char} {fuel : Nat} {rest : Text}
    (opened : closing quote (c :: rest) = none) (raw : ¬(c = '\\' ∧ escapes = true))
    (plain : isPlain c = true) :
    multiTail quote escapes (fuel + 1) (c :: rest) =
      (multiTail quote escapes fuel rest).map (grow c) := by
  rw [multiTail, opened]
  simp [raw, plain]

theorem multiTail_line {fuel : Nat} {rest : Text} (opened : closing quote ('\n' :: rest) = none) :
    multiTail quote escapes (fuel + 1) ('\n' :: rest) =
      (multiTail quote escapes fuel rest).map (grow '\n') := by
  rw [multiTail, opened]
  simp [isPlain, lineBreak?]

theorem closing_of_head {c : Char} (other : c ≠ quote) (rest : Text) :
    closing quote (c :: rest) = none := by
  refine closing_eq_none ?_
  rw [List.takeWhile_cons_of_neg (by simpa using other)]
  exact Nat.zero_le 2

theorem closing_cases {t rest : Text} (short : (t.takeWhile (· == quote)).length ≤ 2)
    (ends : rest.head? ≠ some quote) :
    (∀ c ∈ t, c = quote) ∧
        closing quote (t ++ (List.replicate 3 quote ++ rest)) = some (t, rest) ∨
      closing quote (t ++ (List.replicate 3 quote ++ rest)) = none := by
  by_cases only : ∀ c ∈ t, c = quote
  · have all : t.takeWhile (· == quote) = t :=
      List.takeWhile_eq_self_iff.2 fun c mem => beq_iff_eq.2 (only c mem)
    rw [all] at short
    exact .inl ⟨only, closing_eq_some only short ends⟩
  · have stops : (t.takeWhile (· == quote)).length ≠ t.length := by
      intro full
      have whole := (List.takeWhile_sublist (· == quote)).eq_of_length full
      exact only fun c mem => beq_iff_eq.1 (List.takeWhile_eq_self_iff.1 whole c mem)
    refine .inr (closing_eq_none ?_)
    rwa [List.takeWhile_append, if_neg stops]

end Multi

theorem Written.exists_cons {multiline : Bool} {c : Char} {w : Text}
    (written : Written multiline c w) : ∃ d tail, w = d :: tail ∧ d ≠ '\x22' := by
  cases written with
  | plain plain quote => exact ⟨c, [], rfl, quote⟩
  | line lined line => exact ⟨c, [], rfl, by rw [line]; decide⟩
  | escaped tail => exact ⟨'\\', tail, rfl, by decide⟩

theorem multiTail_append {c : Char} {w : Text} (written : Written true c w) (fuel : Nat)
    (rest : Text) : multiTail '\x22' true (fuel + 1) (w ++ rest) =
      (multiTail '\x22' true fuel rest).map (grow c) := by
  cases written with
  | plain plain quote backslash =>
    exact multiTail_plain (closing_of_head quote rest) (fun both => backslash both.1) plain
  | line lined line =>
    subst line
    exact multiTail_line (closing_of_head (by decide) rest)
  | escaped tail back goes =>
    rw [List.cons_append, multiTail, closing_of_head (by decide)]
    simp [back, goes]

theorem escapeFrom_true_cons (run : Nat) (c : Char) (t : Text) :
    (c = '\x22' ∧ run < 2 ∧ escapeFrom true run (c :: t) = '\x22' :: escapeFrom true (run + 1) t) ∨
      ∃ w, Written true c w ∧ escapeFrom true run (c :: t) = w ++ escapeFrom true 0 t := by
  by_cases quote : c = '\x22'
  · subst quote
    by_cases free : run < 2
    · exact .inl ⟨rfl, free, by simp [escapeFrom, freeQuotes, free]⟩
    · exact .inr ⟨_, written_quote true, by simp [escapeFrom, freeQuotes, free]⟩
  · exact .inr ⟨_, written_escapeChar true quote, by simp [escapeFrom, quote]⟩

theorem takeWhile_escapeFrom (t : Text) {run : Nat} (bound : run ≤ 2) :
    ((escapeFrom true run t).takeWhile (· == '\x22')).length + run ≤ 2 := by
  induction t generalizing run with
  | nil => simpa [escapeFrom] using bound
  | cons c t ih =>
    rcases escapeFrom_true_cons run c t with ⟨-, free, same⟩ | ⟨w, written, same⟩
    · have rest : ((escapeFrom true (run + 1) t).takeWhile (· == '\x22')).length + (run + 1) ≤ 2 :=
        ih free
      rw [same, List.takeWhile_cons_of_pos rfl, List.length_cons]
      omega
    · obtain ⟨d, tail, rfl, other⟩ := written.exists_cons
      rw [same, List.cons_append, List.takeWhile_cons_of_neg (by simpa using other)]
      simpa using bound

theorem escapeFrom_of_forall (t : Text) {run : Nat}
    (only : ∀ c ∈ escapeFrom true run t, c = '\x22') : escapeFrom true run t = t := by
  induction t generalizing run with
  | nil => rfl
  | cons c t ih =>
    rcases escapeFrom_true_cons run c t with ⟨quote, -, same⟩ | ⟨w, written, same⟩
    · rw [same] at only ⊢
      rw [quote, ih (List.forall_mem_cons.1 only).2]
    · obtain ⟨d, tail, rfl, other⟩ := written.exists_cons
      rw [same] at only
      exact absurd (only d (by simp)) other

theorem multiTail_escapeFrom (t : Text) {rest : Text} (ends : rest.head? ≠ some '\x22')
    {run fuel : Nat} (bound : run ≤ 2) (enough : t.length < fuel) :
    multiTail '\x22' true fuel (escapeFrom true run t ++ (List.replicate 3 '\x22' ++ rest)) =
      some (t, rest) := by
  induction t generalizing run fuel with
  | nil =>
    cases fuel with
    | zero => cases enough
    | succ fuel =>
      exact multiTail_closing
        (closing_eq_some (by simp [escapeFrom]) (by simp [escapeFrom]) ends) fuel
  | cons c t ih =>
    cases fuel with
    | zero => cases enough
    | succ fuel =>
      have short : ((escapeFrom true run (c :: t)).takeWhile (· == '\x22')).length ≤ 2 :=
        Nat.le_trans (Nat.le_add_right _ run) (takeWhile_escapeFrom (c :: t) bound)
      have fuel' := Nat.lt_of_succ_lt_succ enough
      rcases closing_cases short ends with ⟨only, closed⟩ | opened
      · rw [multiTail_closing closed, escapeFrom_of_forall (c :: t) only]
      rcases escapeFrom_true_cons run c t with ⟨rfl, free, same⟩ | ⟨w, written, same⟩
      · rw [same, List.cons_append] at opened ⊢
        rw [multiTail_plain opened (by simp) rfl, ih free fuel']
        rfl
      · rw [same, List.append_assoc, multiTail_append written, ih (Nat.zero_le 2) fuel']
        rfl

/-! ### Literal strings of several lines -/

theorem takeWhile_le_longestRun (quote : Char) (t : Text) :
    (t.takeWhile (· == quote)).length ≤ longestRun quote t := by
  cases t with
  | nil => exact Nat.zero_le _
  | cons c t => exact Nat.le_max_left ..

theorem multiTail_literal {t rest : Text} (plain : ∀ c ∈ t, isPlain c = true ∨ c = '\n')
    (runs : longestRun '\'' t ≤ 2) (ends : rest.head? ≠ some '\'') {fuel : Nat}
    (enough : t.length < fuel) :
    multiTail '\'' false fuel (t ++ (List.replicate 3 '\'' ++ rest)) = some (t, rest) := by
  induction t generalizing fuel with
  | nil =>
    cases fuel with
    | zero => cases enough
    | succ fuel =>
      exact multiTail_closing (closing_eq_some (by simp) (by simp) ends) fuel
  | cons c t ih =>
    cases fuel with
    | zero => cases enough
    | succ fuel =>
      have short := Nat.le_trans (takeWhile_le_longestRun '\'' (c :: t)) runs
      rw [List.forall_mem_cons] at plain
      have next := ih plain.2 (Nat.le_trans (Nat.le_max_right ..) runs)
        (Nat.lt_of_succ_lt_succ enough)
      rcases closing_cases short ends with ⟨-, closed⟩ | opened
      · exact multiTail_closing closed fuel
      rw [List.cons_append] at opened ⊢
      rcases plain.1 with plain | rfl
      · rw [multiTail_plain opened (by simp) plain, next]
        rfl
      · rw [multiTail_line opened, next]
        rfl

/-! ### Strings of any kind -/

theorem Style.of_eq_literal {t : Text} (h : Style.of t = .literal) :
    (∀ c ∈ t, isPlain c = true ∧ c ≠ '\'') ∧ t ≠ [] := by
  have nonempty : t ≠ [] := by
    rintro rfl
    cases h
  simp only [Style.of] at h
  split_ifs at h with basic literal
  simp only [Bool.and_eq_true, Bool.not_eq_true', List.any_eq_false, List.contains_eq_mem,
    decide_eq_false_iff_not, Bool.not_eq_true] at literal
  obtain ⟨⟨control, quote⟩, line⟩ := literal
  refine ⟨fun c mem => ⟨isPlain_of_isControl (control c mem) ?_, ?_⟩, nonempty⟩
  · exact fun same => line (same ▸ mem)
  · exact fun same => quote (same ▸ mem)

theorem Style.of_eq_multiLiteral {t : Text} (h : Style.of t = .multiLiteral) :
    (∀ c ∈ t, isPlain c = true ∨ c = '\n') ∧ longestRun '\'' t ≤ 2 := by
  simp only [Style.of] at h
  split_ifs at h with basic literal multiBasic multiLiteral
  simp only [Bool.and_eq_true, Bool.not_eq_true', List.any_eq_false, Bool.not_eq_true,
    decide_eq_true_eq] at multiLiteral
  obtain ⟨control, runs⟩ := multiLiteral
  refine ⟨fun c mem => ?_, runs⟩
  by_cases line : c = '\n'
  · exact .inr line
  · exact .inl (isPlain_of_isControl (control c mem) line)

theorem length_le_escapeFrom (multiline : Bool) (run : Nat) (t : Text) :
    t.length ≤ (escapeFrom multiline run t).length := by
  induction t generalizing run with
  | nil => exact Nat.zero_le _
  | cons c t ih =>
    by_cases quote : c = '\x22'
    · have rest := ih (run + 1)
      have rest' := ih 0
      simp only [escapeFrom, if_pos quote]
      split_ifs <;> simp only [List.length_cons] <;> omega
    · obtain ⟨d, tail, same, -⟩ := (written_escapeChar multiline quote).exists_cons
      have rest := ih 0
      simp only [escapeFrom, if_neg quote, same, List.cons_append, List.length_cons,
        List.length_append]
      omega

/-- A string with several lines starts with a line break of its own, so that one at the start of
the text is not taken for it. -/
theorem multi_lines {quote : Char} {escapes : Bool} {t body rest : Text}
    (starts : '\n' ∉ t → lineBreak? body = none)
    (read : ∀ fuel, t.length < fuel → multiTail quote escapes fuel body = some (t, rest))
    (enough : t.length ≤ body.length) :
    multi quote escapes ((if t.contains '\n' then ['\n'] else []) ++ body) = some (t, rest) := by
  rw [multi, List.contains_eq_mem]
  by_cases lined : '\n' ∈ t
  · rw [if_pos (by simpa using lined)]
    exact read _ (by simp; omega)
  · rw [if_neg (by simpa using lined), List.nil_append, starts lined]
    exact read _ (by omega)

theorem multi_escapeFrom (t : Text) {rest : Text} (ends : rest.head? ≠ some '\x22') :
    multi '\x22' true ((if t.contains '\n' then ['\n'] else []) ++
      (escapeFrom true 0 t ++ (List.replicate 3 '\x22' ++ rest))) = some (t, rest) := by
  refine multi_lines (fun unlined => ?_) (fun fuel => multiTail_escapeFrom t ends (Nat.zero_le 2))
    (Nat.le_trans (length_le_escapeFrom true 0 t) (by simp))
  cases t with
  | nil => exact lineBreak?_of_isPlain rfl _
  | cons c t =>
    rcases escapeFrom_true_cons 0 c t with ⟨-, -, same⟩ | ⟨w, written, same⟩
    · rw [same]
      exact lineBreak?_of_isPlain rfl _
    · rw [same]
      cases written with
      | plain plain => exact lineBreak?_of_isPlain plain _
      | line lined line => exact absurd (by simp [line]) unlined
      | escaped tail => exact lineBreak?_of_isPlain rfl _

theorem multi_literal {t rest : Text} (plain : ∀ c ∈ t, isPlain c = true ∨ c = '\n')
    (runs : longestRun '\'' t ≤ 2) (ends : rest.head? ≠ some '\'') :
    multi '\'' false ((if t.contains '\n' then ['\n'] else []) ++
      (t ++ (List.replicate 3 '\'' ++ rest))) = some (t, rest) := by
  refine multi_lines (fun unlined => ?_) (fun fuel => multiTail_literal plain runs ends) (by simp)
  cases t with
  | nil => exact lineBreak?_of_isPlain rfl _
  | cons c t =>
    rcases plain c List.mem_cons_self with plain | rfl
    · exact lineBreak?_of_isPlain plain _
    · exact absurd List.mem_cons_self unlined

theorem quoted_basic (t : Text) {rest : Text} (ends : rest.head? ≠ some '\x22') :
    quoted ('\x22' :: (escapeFrom false 0 t ++ '\x22' :: rest)) = some (t, rest) := by
  have single : quoted ('\x22' :: (escapeFrom false 0 t ++ '\x22' :: rest)) =
      basicTail ((escapeFrom false 0 t ++ '\x22' :: rest).length + 1)
        (escapeFrom false 0 t ++ '\x22' :: rest) := by
    cases t with
    | nil =>
      refine quoted.eq_3 _ fun more same => ends ?_
      cases same
      rfl
    | cons c t =>
      obtain ⟨w, written, same⟩ := escapeFrom_false_cons 0 c t
      obtain ⟨d, tail, rfl, other⟩ := written.exists_cons
      rw [same]
      refine quoted.eq_3 _ fun more same => other ?_
      exact (List.cons.inj same).1
  have enough : t.length < (escapeFrom false 0 t ++ '\x22' :: rest).length + 1 := by
    have length := length_le_escapeFrom false 0 t
    simp
    omega
  rw [single, basicTail_escapeFrom t rest 0 enough]

theorem quoted_literal {t rest : Text} (plain : ∀ c ∈ t, isPlain c = true ∧ c ≠ '\'')
    (nonempty : t ≠ []) : quoted ('\'' :: (t ++ '\'' :: rest)) = some (t, rest) := by
  obtain ⟨c, t, rfl⟩ := List.exists_cons_of_ne_nil nonempty
  have single : quoted ('\'' :: (c :: t ++ '\'' :: rest)) =
      literalTail (c :: t ++ '\'' :: rest) := by
    refine quoted.eq_4 _ fun more same => (plain c List.mem_cons_self).2 ?_
    exact (List.cons.inj same).1
  rw [single, literalTail_append plain]

/-- What follows a string must not start with a quote. -/
theorem quoted_writeString (t : Text) {rest : Text} (ends : rest.head? ≠ some '\x22')
    (ends' : rest.head? ≠ some '\'') : quoted (writeString t ++ rest) = some (t, rest) := by
  rw [writeString]
  cases style : Style.of t with
  | basic => simpa using quoted_basic t ends
  | literal =>
    obtain ⟨plain, nonempty⟩ := Style.of_eq_literal style
    simpa using quoted_literal plain nonempty
  | multiBasic =>
    simp only [openMulti, List.append_assoc]
    exact multi_escapeFrom t ends
  | multiLiteral =>
    obtain ⟨plain, runs⟩ := Style.of_eq_multiLiteral style
    simp only [openMulti, List.append_assoc]
    exact multi_literal plain runs ends'

end Pipework.Toml
