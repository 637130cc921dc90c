import Pipework.Proofs.Shell.Flattening
import Pipework.Proofs.Shell.Stages
import Pipework.Shell.Arguments

/-!
What the words of a written command say once they are cut out and their quoting is taken off.
-/

set_option autoImplicit false
set_option relaxedAutoImplicit false

namespace Pipework.Shell

/-! ## Quoted texts

The scan is bare again behind a quoted text and never bare in between (`undivided_quote`), and
taking the quoting off gives the text back, whatever it holds (`unquote_quote`). The same is said
of the word for a tab and of words that need no quoting.
-/

/-- No blank, and no character that a rule of the shell is about. -/
def isPlain (c : Char) : Bool :=
  !Text.isBlank c && c != '\'' && c != '\x22' && c != '\\' && c != '|' && c != '#'

theorem isBlank_of_isPlain {c : Char} (h : isPlain c = true) : Text.isBlank c = false := by
  cases hc : Text.isBlank c with
  | false => rfl
  | true => simp [isPlain, hc] at h

namespace Scan

def quoted : Scan := ⟨.single, false⟩

theorem quoted_after_quoteChar (c : Char) : quoted.after (quoteChar c) = quoted := by
  by_cases hc : c = '\''
  · subst hc
    decide
  · simp [quoteChar, hc, next, quoted]

theorem quoted_after (t : Text) : quoted.after (t.flatMap quoteChar) = quoted := by
  induction t with
  | nil => rfl
  | cons c t ih => rw [List.flatMap_cons, after_append, quoted_after_quoteChar, ih]

theorem after_quote (t : Text) : start.after (quote t) = start := by
  have opened : start.next '\'' = quoted := by decide
  rw [quote, after_cons, opened, after_append, quoted_after]
  decide

end Scan

private theorem undivided_quoteChar {p : Char → Bool} (hp : Neutral p) (c : Char) :
    Undivided p Scan.quoted (quoteChar c) := by
  have quote : p '\'' = false := hp.not_mem (by decide)
  have backslash : p '\\' = false := hp.not_mem (by decide)
  by_cases hc : c = '\''
  · subst hc
    -- Between the two quotes the scan is bare in front of a backslash only.
    refine undivided_cons (by simp [quote]) (undivided_cons (by simp [backslash]) ?_)
    exact undivided_cons (by simp [quote]) (undivided_cons (by simp [quote]) rfl)
  · rw [quoteChar, if_neg hc]
    exact undivided_cons (by simp [Scan.isBare, Scan.quoted]) rfl

private theorem undivided_quoteBody {p : Char → Bool} (hp : Neutral p) (t : Text) :
    Undivided p Scan.quoted (t.flatMap quoteChar) := by
  induction t with
  | nil => rfl
  | cons c t ih =>
    rw [List.flatMap_cons]
    refine (undivided_quoteChar hp c).append hp ?_
    rw [Scan.quoted_after_quoteChar]
    exact ih

theorem undivided_quote {p : Char → Bool} (hp : Neutral p) (t : Text) :
    Undivided p Scan.start (quote t) := by
  have quote : p '\'' = false := hp.not_mem (by decide)
  refine undivided_cons (by simp [quote]) ((undivided_quoteBody hp t).append hp ?_)
  rw [Scan.quoted_after]
  exact undivided_cons (by simp [quote]) rfl

namespace Posix

private theorem wordsFrom_quoteBody (t : Text) (word rest : Text) :
    wordsFrom .single word (t.flatMap quoteChar ++ rest) = wordsFrom .single (word ++ t) rest := by
  induction t generalizing word with
  | nil => simp
  | cons c t ih =>
    by_cases hc : c = '\''
    · subst hc
      have escaped : wordsFrom .single word (('\'' :: t).flatMap quoteChar ++ rest) =
          wordsFrom .single (word ++ ['\'']) (t.flatMap quoteChar ++ rest) := by
        simp [quoteChar, wordsFrom, plainStep, isSeparator]
      rw [escaped, ih]
      simp
    · have plain : wordsFrom .single word ((c :: t).flatMap quoteChar ++ rest) =
          wordsFrom .single (word ++ [c]) (t.flatMap quoteChar ++ rest) := by
        simp [quoteChar, hc, wordsFrom]
      rw [plain, ih]
      simp

theorem words?_quote (t : Text) : words? (quote t) = some [t] := by
  have body := wordsFrom_quoteBody t [] ['\'']
  simp only [quote, words?, wordsFrom, isSeparator, plainStep]
  simpa [wordsFrom] using body

private theorem plainStep_plain {c : Char} (h : isPlain c = true) :
    plainStep c = (.plain, [c]) := by
  rw [plainStep, if_neg (Text.ne_of_class h rfl), if_neg (Text.ne_of_class h rfl),
    if_neg (Text.ne_of_class h rfl)]

private theorem isSeparator_plain {c : Char} (h : isPlain c = true) : isSeparator c = false := by
  have space : c ≠ ' ' := Text.ne_of_class h rfl
  have tab : c ≠ '\t' := Text.ne_of_class h rfl
  have feed : c ≠ '\n' := Text.ne_of_class h rfl
  simp [isSeparator, space, tab, feed]

private theorem wordsFrom_plain {t : Text} (h : ∀ c ∈ t, isPlain c = true) (word : Text) :
    wordsFrom .plain word t = some [word ++ t] := by
  induction t generalizing word with
  | nil => simp [wordsFrom]
  | cons c t ih =>
    have hc := h c List.mem_cons_self
    have tail := ih (fun d hd => h d (List.mem_cons_of_mem c hd)) (word ++ [c])
    simpa [wordsFrom, isSeparator_plain hc, plainStep_plain hc] using tail

theorem words?_plain {t : Text} (ne : t ≠ []) (h : ∀ c ∈ t, isPlain c = true) :
    words? t = some [t] := by
  obtain ⟨c, t, rfl⟩ := List.exists_cons_of_ne_nil ne
  have hc := h c List.mem_cons_self
  have tail := wordsFrom_plain (fun d hd => h d (List.mem_cons_of_mem c hd)) [c]
  simpa [words?, wordsFrom, isSeparator_plain hc, plainStep_plain hc,
    Text.ne_of_class hc (d := '#') rfl] using tail

end Posix

theorem unquote_quote (t : Text) : unquote (quote t) = t := by
  rw [unquote, Posix.words?_quote]

theorem unquote_plain {t : Text} (ne : t ≠ []) (h : ∀ c ∈ t, isPlain c = true) :
    unquote t = t := by
  rw [unquote, Posix.words?_plain ne h]

private theorem unquoteValue_eq_unquote {word : Text} (tab : word ≠ ['\\', 't'])
    (dollar : dollarQuoted? word = none) : unquoteValue word = unquote word := by
  rw [unquoteValue, if_neg tab, dollar]

theorem unquoteValue_quote (t : Text) : unquoteValue (quote t) = t := by
  rw [unquoteValue_eq_unquote (by simp [quote]) (by simp [quote, dollarQuoted?]), unquote_quote]

theorem unquoteValue_plain {t : Text} (ne : t ≠ []) (h : ∀ c ∈ t, isPlain c = true) :
    unquoteValue t = t := by
  have tab : t ≠ ['\\', 't'] := by
    rintro rfl
    exact Text.ne_of_class (h '\\' (by simp)) rfl rfl
  have dollar : dollarQuoted? t = none := by
    match t with
    | '$' :: '\'' :: rest => exact absurd rfl (Text.ne_of_class (h '\'' (by simp)) (d := '\'') rfl)
    | [] => rfl
    | [_] => simp [dollarQuoted?]
    | c :: d :: rest =>
      have hd : d ≠ '\'' := Text.ne_of_class (h d (by simp)) rfl
      simp [dollarQuoted?, hd]
  rw [unquoteValue_eq_unquote tab dollar, unquote_plain ne h]

theorem unquoteValue_tabWord : unquoteValue tabWord = ['\t'] := by decide

theorem isHyphenated_quote (t : Text) : isHyphenated (quote t) = false := rfl

/-! ## Words

A word knows how it is written and what it reads as. A list of words with blanks between them
is split into exactly these words (`splitWords?_spell`), holds no bar that could end its stage
(`enclosed_spell`), and is flattened word by word (`flatten_spell`).
-/

inductive Word
  /-- A name, a flag or a number, written as it is. -/
  | bare (t : Text)
  /-- An option text, written in single quotes. -/
  | quoted (t : Text)
  /-- The tab that delimits fields. -/
  | tab
  deriving DecidableEq, Repr

namespace Word

def written : Word → Text
  | bare t => t
  | quoted t => quote t
  | tab => tabWord

@[simp] theorem written_bare (t : Text) : (bare t).written = t := rfl

@[simp] theorem written_quoted (t : Text) : (quoted t).written = quote t := rfl

/-- What the word says once its quoting is taken off. -/
def value : Word → Text
  | bare t => t
  | quoted t => t
  | tab => ['\t']

def map (change : Text → Text) : Word → Word
  | quoted t => quoted (change t)
  | w => w

/-- Only a word of plain characters may do without quotes. -/
def Proper : Word → Prop
  | bare t => t ≠ [] ∧ ∀ c ∈ t, isPlain c = true
  | _ => True

theorem Proper.map {w : Word} (h : w.Proper) (change : Text → Text) : (w.map change).Proper := by
  cases w with
  | bare t => exact h
  | quoted t => trivial
  | tab => trivial

private theorem isFirm_of_isPlain {c : Char} (h : isPlain c = true) : isFirm c = true := by
  have backslash : c ≠ '\\' := Text.ne_of_class h rfl
  simp [isFirm, isBlank_of_isPlain h, backslash]

theorem Proper.framed {w : Word} (h : w.Proper) : Text.Framed isFirm w.written := by
  cases w with
  | bare t => exact Text.framed_of_forall h.1 fun c hc => isFirm_of_isPlain (h.2 c hc)
  | quoted t => exact ⟨⟨'\'', _, rfl, rfl⟩, ⟨'\'' :: t.flatMap quoteChar, '\'', rfl, rfl⟩⟩
  | tab => exact ⟨⟨'$', _, rfl, rfl⟩, ⟨['$', '\'', '\\', 't'], '\'', rfl, rfl⟩⟩

theorem Proper.after_written {w : Word} (h : w.Proper) :
    Scan.start.after w.written = Scan.start := by
  cases w with
  | bare t =>
    refine Scan.after_plain fun c hc => ?_
    have plain := h.2 c hc
    exact ⟨Text.ne_of_class plain rfl, Text.ne_of_class plain rfl, Text.ne_of_class plain rfl⟩
  | quoted t => exact Scan.after_quote t
  | tab => decide

theorem Proper.undivided {p : Char → Bool} (hp : Neutral p)
    (plain : ∀ c, isPlain c = true → p c = false) {w : Word} (h : w.Proper) :
    Undivided p Scan.start w.written := by
  cases w with
  | bare t => exact undivided_of_forall (fun c hc => plain c (h.2 c hc)) Scan.start
  | quoted t => exact undivided_quote hp t
  | tab =>
    -- Behind the dollar sign the word is the quoted form of a backslash and a letter.
    exact undivided_cons (by simp [plain '$' rfl]) (undivided_quote hp ['\\', 't'])

theorem Proper.flatten_written {w : Word} (h : w.Proper) :
    flatten w.written = (w.map flatten).written := by
  cases w with
  | bare t => exact flatten_oneLine fun mem => Text.ne_of_class (h.2 '\n' mem) rfl rfl
  | quoted t => exact flatten_quote t
  | tab => exact flatten_oneLine (by decide)

theorem Proper.unquoteValue_written {w : Word} (h : w.Proper) :
    unquoteValue w.written = w.value := by
  cases w with
  | bare t => exact unquoteValue_plain h.1 h.2
  | quoted t => exact unquoteValue_quote t
  | tab => exact unquoteValue_tabWord

def spell : List Word → Text
  | [] => []
  | w :: ws => w.written ++ ws.flatMap fun other => ' ' :: other.written

theorem spell_cons_cons (w other : Word) (ws : List Word) :
    spell (w :: other :: ws) = w.written ++ ' ' :: spell (other :: ws) := rfl

theorem framed_spell {w : Word} {ws : List Word} (h : ∀ v ∈ w :: ws, v.Proper) :
    Text.Framed isFirm (spell (w :: ws)) := by
  induction ws generalizing w with
  | nil => simpa [spell] using (h w (by simp)).framed
  | cons other ws ih =>
    have rest := ih fun v hv => h v (List.mem_cons_of_mem w hv)
    simpa [spell_cons_cons] using (h w (by simp)).framed.append rest [' ']

theorem trim_spell {w : Word} {ws : List Word} (h : ∀ v ∈ w :: ws, v.Proper) :
    Text.trim (spell (w :: ws)) = spell (w :: ws) := by
  have framed := (framed_spell h).mono (q := (!Text.isBlank ·)) fun c hc => by
    simp [isBlank_of_isFirm hc]
  exact framed.trim_eq

theorem Proper.enclosed {w : Word} (h : w.Proper) : Enclosed w.written := by
  have noBar : ∀ c, isPlain c = true → (c == '|') = false :=
    fun c hc => beq_eq_false_iff_ne.2 (Text.ne_of_class hc rfl)
  exact ⟨h.after_written, h.undivided neutral_bar noBar⟩

theorem enclosed_spell {ws : List Word} (h : ∀ v ∈ ws, v.Proper) : Enclosed (spell ws) := by
  induction ws with
  | nil => exact enclosed_blank Text.blank_nil
  | cons w ws ih =>
    obtain ⟨hw, others⟩ := List.forall_mem_cons.1 h
    cases ws with
    | nil => simpa [spell] using hw.enclosed
    | cons other ws =>
      rw [spell_cons_cons]
      exact hw.enclosed.append ((enclosed_blank Text.blank_space).append (ih others))

private theorem splitBare_spell {w : Word} {ws : List Word} (h : ∀ v ∈ w :: ws, v.Proper) :
    splitBare Text.isBlank Scan.start (spell (w :: ws)) = (w :: ws).map written := by
  have first : splitBare Text.isBlank Scan.start w.written = [w.written] :=
    (h w (by simp)).undivided neutral_blank fun c hc => isBlank_of_isPlain hc
  induction ws generalizing w with
  | nil => simpa [spell] using first
  | cons other ws ih =>
    have second := (h other (by simp)).undivided neutral_blank fun c hc => isBlank_of_isPlain hc
    have rest := ih (fun v hv => h v (List.mem_cons_of_mem w hv)) second
    rw [spell_cons_cons, splitBare_append_cut neutral_blank (h w (by simp)).after_written rfl,
      first, rest]
    rfl

theorem splitWords?_spell {ws : List Word} (h : ∀ v ∈ ws, v.Proper) :
    splitWords? (spell ws) = some (ws.map written) := by
  have closed : (Scan.start.after (spell ws)).isOpen = false := by
    rw [(enclosed_spell h).closed]
    rfl
  rw [splitWords?, if_neg (by simp [closed])]
  cases ws with
  | nil => rfl
  | cons w ws =>
    have kept : ((w :: ws).map written).filter (!·.isEmpty) = (w :: ws).map written := by
      rw [List.filter_eq_self]
      intro t ht
      obtain ⟨v, hv, rfl⟩ := List.mem_map.1 ht
      simpa using (h v hv).framed.ne_nil
    rw [splitBare_spell h, kept]

theorem flatten_spell {ws : List Word} (h : ∀ v ∈ ws, v.Proper) :
    flatten (spell ws) = spell (ws.map (Word.map flatten)) := by
  induction ws with
  | nil => rfl
  | cons w ws ih =>
    have hw := h w List.mem_cons_self
    have rest := ih fun v hv => h v (List.mem_cons_of_mem w hv)
    cases ws with
    | nil => simpa [spell] using hw.flatten_written
    | cons other ws =>
      have gap : flatten (' ' :: spell (other :: ws)) = ' ' :: flatten (spell (other :: ws)) := by
        have framed := framed_spell fun v hv => h v (List.mem_cons_of_mem w hv)
        exact flatten_append_first framed.first [' ']
      rw [spell_cons_cons, flatten_append_last hw.framed.last, gap, hw.flatten_written, rest]
      rfl

end Word

end Pipework.Shell
