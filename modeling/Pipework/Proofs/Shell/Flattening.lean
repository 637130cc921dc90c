import Pipework.Proofs.Text.Parts
import Pipework.Shell.Scan

/-!
What becomes of a text when its lines are joined.

A character that is neither blank nor a backslash stays where it is and keeps what stands on its
two sides apart (`flatten_append_firm`). So a text can be flattened piece by piece, and quoting a
flattened text is flattening the quoted one (`flatten_quote`).
-/

set_option autoImplicit false
set_option relaxedAutoImplicit false

namespace Pipework.Shell

/-- No part of a line end, of a continuation or of an indentation. -/
def isFirm (c : Char) : Bool := !Text.isBlank c && c != '\\'

theorem isBlank_of_isFirm {c : Char} (h : isFirm c = true) : Text.isBlank c = false := by
  simpa using (Bool.and_eq_true_iff.1 h).1

private def BeginsWithLineEnd (t : Text) : Prop :=
  (∃ rest, t = '\n' :: rest) ∨ ∃ rest, t = '\r' :: '\n' :: rest

private theorem beginsWithLineEnd_append {t b : Text} {e : Char} (feed : e ≠ '\n')
    (carriage : e ≠ '\r') : BeginsWithLineEnd (t ++ e :: b) ↔ BeginsWithLineEnd t := by
  match t with
  | [] => simp [BeginsWithLineEnd, feed, carriage]
  | [c] => simp [BeginsWithLineEnd, feed]
  | c :: d :: t => simp [BeginsWithLineEnd]

private theorem beginsWithLineEnd_quoted (t : Text) :
    BeginsWithLineEnd (t.flatMap quoteChar) ↔ BeginsWithLineEnd t := by
  match t with
  | [] => simp
  | [c] => by_cases hc : c = '\'' <;> simp [BeginsWithLineEnd, quoteChar, hc]
  | c :: d :: t =>
    by_cases hc : c = '\''
    · simp [BeginsWithLineEnd, quoteChar, hc]
    · by_cases hd : d = '\'' <;> simp [BeginsWithLineEnd, quoteChar, hc, hd]

private theorem not_beginsWithLineEnd {t : Text} (h : '\n' ∉ t) : ¬ BeginsWithLineEnd t := by
  rintro (⟨rest, rfl⟩ | ⟨rest, rfl⟩) <;> simp at h

private theorem joinContinued_cons {c : Char} {t : Text}
    (h : ¬ (c = '\\' ∧ BeginsWithLineEnd t)) (inIndent : Bool) :
    joinContinued inIndent (c :: t) =
      if inIndent && Text.isBlank c then joinContinued true t
      else c :: joinContinued false t := by
  apply joinContinued.eq_4
  · rintro rest rfl rfl
    exact h ⟨rfl, Or.inl ⟨rest, rfl⟩⟩
  · rintro rest rfl rfl
    exact h ⟨rfl, Or.inr ⟨rest, rfl⟩⟩

private theorem joinContinued_firm {e : Char} (he : isFirm e = true) (inIndent : Bool)
    (b : Text) : joinContinued inIndent (e :: b) = e :: joinContinued false b := by
  have backslash : e ≠ '\\' := Text.ne_of_class he rfl
  rw [joinContinued_cons (fun h => backslash h.1)]
  simp [isBlank_of_isFirm he]

private theorem not_continued {c : Char} {t : Text}
    (feed : ∀ rest, c = '\\' → t = '\n' :: rest → False)
    (carriage : ∀ rest, c = '\\' → t = '\r' :: '\n' :: rest → False) :
    ¬ (c = '\\' ∧ BeginsWithLineEnd t) := by
  rintro ⟨hc, ⟨rest, ht⟩ | ⟨rest, ht⟩⟩
  · exact feed rest hc ht
  · exact carriage rest hc ht

private theorem joinContinued_append_firm {e : Char} (he : isFirm e = true) (inIndent : Bool)
    (t b : Text) : joinContinued inIndent (t ++ e :: b) =
      joinContinued inIndent t ++ e :: joinContinued false b := by
  have feed : e ≠ '\n' := Text.ne_of_class he rfl
  have carriage : e ≠ '\r' := Text.ne_of_class he rfl
  fun_induction joinContinued inIndent t with
  | case1 i => exact joinContinued_firm he i b
  | case2 i t ih => simp [joinContinued, ih]
  | case3 i t ih => simp [joinContinued, ih]
  | case4 i c t hfeed hcarriage skip ih =>
    have apart := not_continued hfeed hcarriage
    rw [← beginsWithLineEnd_append feed carriage (b := b)] at apart
    rw [List.cons_append, joinContinued_cons apart, if_pos skip, ih]
  | case5 i c t hfeed hcarriage skip ih =>
    have apart := not_continued hfeed hcarriage
    rw [← beginsWithLineEnd_append feed carriage (b := b)] at apart
    rw [List.cons_append, joinContinued_cons apart, if_neg skip, ih, List.cons_append]

private theorem joinContinued_append_space (inIndent : Bool) (t : Text) :
    joinContinued inIndent (t ++ [' ']) = joinContinued inIndent t ∨
      joinContinued inIndent (t ++ [' ']) = joinContinued inIndent t ++ [' '] := by
  fun_induction joinContinued inIndent t with
  | case1 i => cases i <;> simp [joinContinued, Text.isBlank]
  | case2 i t ih => simpa [joinContinued] using ih
  | case3 i t ih => simpa [joinContinued] using ih
  | case4 i c t hfeed hcarriage skip ih =>
    have apart := not_continued hfeed hcarriage
    rw [← beginsWithLineEnd_append (by decide : ' ' ≠ '\n') (by decide) (b := [])] at apart
    rw [List.cons_append, joinContinued_cons apart, if_pos skip]
    exact ih
  | case5 i c t hfeed hcarriage skip ih =>
    have apart := not_continued hfeed hcarriage
    rw [← beginsWithLineEnd_append (by decide : ' ' ≠ '\n') (by decide) (b := [])] at apart
    rw [List.cons_append, joinContinued_cons apart, if_neg skip]
    simpa using ih

private theorem joinContinued_quoted (inIndent : Bool) (t : Text) :
    joinContinued inIndent (t.flatMap quoteChar) =
      (joinContinued inIndent t).flatMap quoteChar := by
  fun_induction joinContinued inIndent t with
  | case1 i => rfl
  | case2 i t ih => simp [joinContinued, quoteChar, ih]
  | case3 i t ih => simp [joinContinued, quoteChar, ih]
  | case4 i c t feed carriage skip ih =>
    have apart := not_continued feed carriage
    rw [← beginsWithLineEnd_quoted] at apart
    have plain : c ≠ '\'' := by
      rintro rfl
      simp [Text.isBlank] at skip
    have quoted : (c :: t).flatMap quoteChar = c :: t.flatMap quoteChar := by
      simp [quoteChar, plain]
    rw [quoted, joinContinued_cons apart, if_pos skip, ih]
  | case5 i c t feed carriage skip ih =>
    by_cases hc : c = '\''
    · -- The backslash that quoting writes stands in front of a quote and continues nothing.
      subst hc
      have firm : isFirm '\'' = true := rfl
      have backslash : joinContinued false ('\\' :: '\'' :: '\'' :: t.flatMap quoteChar) =
          '\\' :: '\'' :: '\'' :: joinContinued false (t.flatMap quoteChar) := by
        rw [joinContinued_cons (by simp [BeginsWithLineEnd]), if_neg (by simp),
          joinContinued_firm firm, joinContinued_firm firm]
      simp only [List.flatMap_cons, quoteChar, if_true, List.cons_append, List.nil_append]
      rw [joinContinued_firm firm, backslash, ih]
    · have apart := not_continued feed carriage
      rw [← beginsWithLineEnd_quoted] at apart
      simp only [List.flatMap_cons, quoteChar, hc, if_false, List.singleton_append]
      rw [joinContinued_cons apart, if_neg skip, ih]

private theorem joinContinued_oneLine {t : Text} (h : '\n' ∉ t) : joinContinued false t = t := by
  induction t with
  | nil => rfl
  | cons c t ih =>
    have tail : '\n' ∉ t := fun mem => h (List.mem_cons_of_mem c mem)
    rw [joinContinued_cons (fun apart => not_beginsWithLineEnd tail apart.2), ih tail]
    simp

theorem joinContinued_blank {c : Char} (hc : Text.isBlank c = true) (inIndent : Bool) (t : Text) :
    joinContinued inIndent (c :: t) =
      if inIndent then joinContinued true t else c :: joinContinued false t := by
  have backslash : c ≠ '\\' := by
    rintro rfl
    cases hc
  rw [joinContinued_cons fun apart => backslash apart.1]
  simp [hc]

theorem joinContinued_of_head {t : Text} (h : '\n' ∉ t)
    (head : ∀ c, t.head? = some c → Text.isBlank c = false) (inIndent : Bool) :
    joinContinued inIndent t = t := by
  cases t with
  | nil => rfl
  | cons c t =>
    have tail : '\n' ∉ t := fun mem => h (List.mem_cons_of_mem c mem)
    rw [joinContinued_cons (fun apart => not_beginsWithLineEnd tail apart.2), head c rfl,
      joinContinued_oneLine tail]
    simp

private theorem joinContinued_blanks {b : Text} (hb : Text.Blank b) :
    joinContinued true b = [] := by
  induction b with
  | nil => rfl
  | cons c b ih =>
    obtain ⟨hc, rest⟩ := Text.blank_cons.1 hb
    rw [joinContinued_blank hc, if_pos rfl, ih rest]

private theorem joinLines_cons {c : Char} {t : Text}
    (h : ∀ rest, c = '\r' → t = '\n' :: rest → False) :
    joinLines (c :: t) = (if c = '\n' then ' ' else c) :: joinLines t :=
  joinLines.eq_3 c t h

private theorem joinLines_firm {e : Char} (he : isFirm e = true) (b : Text) :
    joinLines (e :: b) = e :: joinLines b := by
  rw [joinLines_cons (fun _ h _ => Text.ne_of_class he rfl h), if_neg (Text.ne_of_class he rfl)]

private theorem joinLines_append {e : Char} (feed : e ≠ '\n') (t b : Text) :
    joinLines (t ++ e :: b) = joinLines t ++ joinLines (e :: b) := by
  fun_induction joinLines t with
  | case1 => rfl
  | case2 t ih => simp [joinLines, ih]
  | case3 c t apart ih =>
    have apart' : ∀ rest, c = '\r' → t ++ e :: b = '\n' :: rest → False := by
      intro rest hc h
      cases t with
      | nil => exact feed (List.head_eq_of_cons_eq h)
      | cons d t =>
        obtain rfl := List.head_eq_of_cons_eq h
        exact apart t hc rfl
    rw [List.cons_append, joinLines_cons apart', ih, List.cons_append]

private theorem joinLines_append_firm {e : Char} (he : isFirm e = true) (t b : Text) :
    joinLines (t ++ e :: b) = joinLines t ++ e :: joinLines b := by
  rw [joinLines_append (Text.ne_of_class he rfl), joinLines_firm he]

private theorem joinLines_quoted (t : Text) :
    joinLines (t.flatMap quoteChar) = (joinLines t).flatMap quoteChar := by
  fun_induction joinLines t with
  | case1 => rfl
  | case2 t ih => simp [joinLines, quoteChar, ih]
  | case3 c t apart ih =>
    by_cases hc : c = '\''
    · subst hc
      simp [joinLines, quoteChar, ih]
    · have apart' : ∀ rest, c = '\r' → t.flatMap quoteChar = '\n' :: rest → False := by
        intro rest hr h
        cases t with
        | nil => cases h
        | cons d t =>
          by_cases hd : d = '\''
          · simp [quoteChar, hd] at h
          · simp only [List.flatMap_cons, quoteChar, hd, if_false, List.singleton_append] at h
            obtain rfl := List.head_eq_of_cons_eq h
            exact apart t hr rfl
      simp only [List.flatMap_cons, quoteChar, hc, if_false, List.singleton_append]
      rw [joinLines_cons apart', ih]
      by_cases feed : c = '\n' <;> simp [feed, hc]

private theorem joinLines_oneLine {t : Text} (h : '\n' ∉ t) : joinLines t = t := by
  induction t with
  | nil => rfl
  | cons c t ih =>
    have tail : '\n' ∉ t := fun mem => h (List.mem_cons_of_mem c mem)
    have feed : c ≠ '\n' := fun hc => h (hc ▸ List.mem_cons_self)
    rw [joinLines_cons (by rintro rest - rfl; simp at tail), if_neg feed, ih tail]

theorem joinLines_append_oneLine {b : Text} (h : '\n' ∉ b) (t : Text) :
    joinLines (t ++ b) = joinLines t ++ b := by
  cases b with
  | nil => rw [List.append_nil, List.append_nil]
  | cons e b =>
    have feed : e ≠ '\n' := fun he => h (he ▸ List.mem_cons_self)
    rw [joinLines_append feed, joinLines_oneLine h]

theorem joinLines_blanks {b : Text} (hb : Text.Blank b) :
    Text.Blank (joinLines b) ∧ (b ≠ [] → joinLines b ≠ []) := by
  fun_induction joinLines b with
  | case1 => exact ⟨hb, id⟩
  | case2 t ih =>
    obtain ⟨-, rest⟩ := Text.blank_cons.1 hb
    obtain ⟨-, rest⟩ := Text.blank_cons.1 rest
    exact ⟨Text.blank_cons.2 ⟨rfl, (ih rest).1⟩, fun _ => List.cons_ne_nil _ _⟩
  | case3 c t apart ih =>
    obtain ⟨hc, rest⟩ := Text.blank_cons.1 hb
    refine ⟨Text.blank_cons.2 ⟨?_, (ih rest).1⟩, fun _ => List.cons_ne_nil _ _⟩
    split
    · rfl
    · exact hc

theorem newline_not_mem_flatten (t : Text) : '\n' ∉ flatten t := by
  rw [flatten]
  fun_induction joinLines (joinContinued false t) with
  | case1 => simp
  | case2 t ih => simpa using ih
  | case3 c t apart ih =>
    by_cases feed : c = '\n'
    · simpa [feed] using ih
    · simpa [feed, Ne.symm feed] using ih

theorem flatten_oneLine {t : Text} (h : '\n' ∉ t) : flatten t = t := by
  rw [flatten, joinContinued_oneLine h, joinLines_oneLine h]

/-- Flattening works on the two sides of a firm character by themselves. -/
theorem flatten_append_firm {e : Char} (he : isFirm e = true) (t b : Text) :
    flatten (t ++ e :: b) = flatten t ++ e :: flatten b := by
  rw [flatten, joinContinued_append_firm he, joinLines_append_firm he]
  rfl

theorem flatten_firm {e : Char} (he : isFirm e = true) (b : Text) :
    flatten (e :: b) = e :: flatten b :=
  flatten_append_firm he [] b

theorem flatten_append_last {t : Text} (h : ∃ front e, t = front ++ [e] ∧ isFirm e = true)
    (b : Text) : flatten (t ++ b) = flatten t ++ flatten b := by
  obtain ⟨front, e, rfl, he⟩ := h
  rw [List.append_assoc, List.singleton_append, flatten_append_firm he, flatten_append_firm he,
    List.append_assoc]
  rfl

theorem flatten_append_first {b : Text} (h : ∃ e rest, b = e :: rest ∧ isFirm e = true)
    (t : Text) : flatten (t ++ b) = flatten t ++ flatten b := by
  obtain ⟨e, rest, rfl, he⟩ := h
  rw [flatten_append_firm he, flatten_firm he]

theorem exists_flatten_append_space (t : Text) :
    ∃ gap, Text.Blank gap ∧ flatten (t ++ [' ']) = flatten t ++ gap := by
  rcases joinContinued_append_space false t with same | kept
  · exact ⟨[], Text.blank_nil, by rw [flatten, same, flatten, List.append_nil]⟩
  · have space : joinLines [' '] = [' '] := rfl
    refine ⟨[' '], Text.blank_space, ?_⟩
    rw [flatten, kept, joinLines_append (by decide), space, flatten]

theorem flatten_bar (b : Text) : flatten (' ' :: '|' :: b) = ' ' :: '|' :: flatten b := by
  have firm : isFirm '|' = true := rfl
  exact flatten_append_firm firm [' '] b

theorem flatten_quote (t : Text) : flatten (quote t) = quote (flatten t) := by
  have firm : isFirm '\'' = true := rfl
  have body : flatten (t.flatMap quoteChar) = (flatten t).flatMap quoteChar := by
    rw [flatten, joinContinued_quoted, joinLines_quoted]
    rfl
  rw [quote, flatten_firm firm, flatten_append_firm firm, body]
  rfl

theorem flatten_continuation {indent : Text} (h : Text.Blank indent) :
    flatten (' ' :: '\\' :: '\n' :: indent) = [' ', ' '] := by
  have outer : joinContinued false (' ' :: '\\' :: '\n' :: indent) = [' ', ' '] := by
    rw [joinContinued_cons (by simp), if_neg (by simp)]
    simp [joinContinued, joinContinued_blanks h]
  rw [flatten, outer]
  rfl

end Pipework.Shell
