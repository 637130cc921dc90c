/-!
Texts as lists of characters: the blanks among them, the order by code points, decimal numerals,
and the parts between separators.
-/

set_option autoImplicit false
set_option relaxedAutoImplicit false

namespace Pipework

/-! ## Blanks

Blank is the Unicode property White_Space. The same class decides trimming, the words of a
line and the gaps between the words of a command.
-/

/-- A text is the list of its characters; every rule of the library is stated on this list. -/
abbrev Text := List Char

namespace Text

/-- Code points with the property White_Space. -/
def isBlank (c : Char) : Bool :=
  let n := c.toNat
  (9 ≤ n && n ≤ 13) || n == 0x20 || n == 0x85 || n == 0xA0 || n == 0x1680 ||
    (0x2000 ≤ n && n ≤ 0x200A) || n == 0x2028 || n == 0x2029 || n == 0x202F || n == 0x205F ||
    n == 0x3000

def trimLeft (t : Text) : Text := t.dropWhile isBlank

def trimRight (t : Text) : Text := (t.reverse.dropWhile isBlank).reverse

def trim (t : Text) : Text := trimRight (trimLeft t)

def isBlankText (t : Text) : Bool := t.all isBlank

theorem ne_of_class {p : Char → Bool} {c d : Char} (inside : p c = true) (outside : p d = false) :
    c ≠ d := by
  rintro rfl
  rw [inside] at outside
  cases outside

theorem trimLeft_of_head {c : Char} {t : Text} (h : isBlank c = false) :
    trimLeft (c :: t) = c :: t := by
  simp [trimLeft, h]

theorem trimRight_concat {t : Text} {c : Char} (h : isBlank c = false) :
    trimRight (t ++ [c]) = t ++ [c] := by
  simp [trimRight, h]

/-! ## Order

The order of texts by their code points, which is total.
-/

/-- By the first character that differs; a beginning comes before what it begins. -/
def le : Text → Text → Bool
  | [], _ => true
  | _ :: _, [] => false
  | a :: as, b :: bs => a.toNat < b.toNat || (a == b && le as bs)

theorem le_total (a b : Text) : (le a b || le b a) = true := by
  induction a generalizing b with
  | nil => simp [le]
  | cons c cs ih =>
    cases b with
    | nil => simp [le]
    | cons d ds =>
      by_cases h : c = d
      · subst h
        simpa [le] using ih ds
      · have hne : c.toNat ≠ d.toNat := fun e => h (Char.toNat_inj.1 e)
        rcases Nat.lt_or_gt_of_ne hne with hlt | hlt
        · simp [le, hlt]
        · simp [le, hlt]

theorem le_trans (a b c : Text) (hab : le a b = true) (hbc : le b c = true) : le a c = true := by
  induction a generalizing b c with
  | nil => rfl
  | cons x xs ih =>
    match b, c with
    | [], _ => simp [le] at hab
    | _ :: _, [] => simp [le] at hbc
    | y :: ys, z :: zs =>
      simp only [le, Bool.or_eq_true, decide_eq_true_eq, Bool.and_eq_true, beq_iff_eq] at *
      rcases hab with hab | ⟨rfl, hab⟩
      · rcases hbc with hbc | ⟨rfl, -⟩
        · exact Or.inl (Nat.lt_trans hab hbc)
        · exact Or.inl hab
      · rcases hbc with hbc | ⟨rfl, hbc⟩
        · exact Or.inl hbc
        · exact Or.inr ⟨rfl, ih ys zs hab hbc⟩

theorem le_antisymm (a b : Text) (hab : le a b = true) (hba : le b a = true) : a = b := by
  induction a generalizing b with
  | nil =>
    cases b with
    | nil => rfl
    | cons d ds => simp [le] at hba
  | cons c cs ih =>
    cases b with
    | nil => simp [le] at hab
    | cons d ds =>
      simp only [le, Bool.or_eq_true, decide_eq_true_eq, Bool.and_eq_true, beq_iff_eq] at *
      rcases hab with hab | ⟨rfl, hab⟩
      · rcases hba with hba | ⟨rfl, -⟩
        · exact absurd hab (Nat.lt_asymm hba)
        · exact absurd hab (Nat.lt_irrefl _)
      · rcases hba with hba | ⟨-, hba⟩
        · exact absurd hba (Nat.lt_irrefl _)
        · rw [ih ds hab hba]

theorem le_iff_not_lt (a b : Text) : le a b = true ↔ ¬ b < a := by
  induction a generalizing b with
  | nil => simp [le]
  | cons c cs ih =>
    cases b with
    | nil => simp [le]
    | cons d ds =>
      have codes (x y : Char) : x < y ↔ x.toNat < y.toNat := Iff.rfl
      rw [List.cons_lt_cons_iff, codes]
      by_cases h : c = d
      · subst h
        simp [le, ih]
      · have hne : c.toNat ≠ d.toNat := fun e => h (Char.toNat_inj.1 e)
        rcases Nat.lt_or_gt_of_ne hne with hlt | hlt
        · simp [le, hlt, Ne.symm h, Nat.le_of_lt hlt]
        · simp [le, hlt, h, Nat.le_of_lt hlt]

/-! ## Numerals

`ofNat` writes a number, `readNat?` reads a text that holds digits and nothing else, and
`readWord?` reads what fits a machine word of 64 bits, a plus sign allowed.
-/

def digitValue? (c : Char) : Option Nat :=
  if '0' ≤ c ∧ c ≤ '9' then some (c.toNat - 48) else none

def readDigits (value : Nat) : Text → Option Nat
  | [] => some value
  | c :: cs => (digitValue? c).bind fun d => readDigits (10 * value + d) cs

/-- The number a text of digits denotes; a text without digits denotes none. -/
def readNat? (t : Text) : Option Nat := if t.isEmpty then none else readDigits 0 t

def wordBound : Nat := Nat.pow 2 64

/-- The machine word a text denotes; a plus sign may stand in front of the digits. -/
def readWord? (t : Text) : Option Nat :=
  let digits := match t with
    | '+' :: rest => rest
    | _ => t
  (readNat? digits).filter (· < wordBound)

def ofNat (n : Nat) : Text := Nat.toDigits 10 n

def hexValue? (c : Char) : Option Nat :=
  if '0' ≤ c ∧ c ≤ '9' then some (c.toNat - 48)
  else if 'a' ≤ c ∧ c ≤ 'f' then some (c.toNat - 87)
  else if 'A' ≤ c ∧ c ≤ 'F' then some (c.toNat - 55)
  else none

def readHex (value : Nat) : Text → Option Nat
  | [] => some value
  | c :: cs => (hexValue? c).bind fun d => readHex (16 * value + d) cs

def hexDigit (n : Nat) : Char := Nat.digitChar n

/-- Exactly `width` hexadecimal digits, the higher ones dropped. -/
def hexPadded : Nat → Nat → Text
  | 0, _ => []
  | width + 1, n => hexPadded width (n / 16) ++ [hexDigit (n % 16)]

/-! ## Parts

`splitWhere p` cuts at every character of a class, `splitAtText sep` at every occurrence of a
text, found from the left without overlap. Joining the parts at a character with that character
gives the text back (`join_splitOn`), and a part holds no character at which the text was cut
(`splitWhere_free`).
-/

def growHead (c : Char) : List Text → List Text
  | [] => [[c]]
  | part :: parts => (c :: part) :: parts

/-- The parts between the characters that satisfy `p`; always at least one part. -/
def splitWhere (p : Char → Bool) : Text → List Text
  | [] => [[]]
  | c :: cs => if p c then [] :: splitWhere p cs else growHead c (splitWhere p cs)

def splitOn (sep : Char) (t : Text) : List Text := splitWhere (· == sep) t

/-- The lines of a text; a final line feed starts a last, empty line. -/
def lines (t : Text) : List Text := splitOn '\n' t

def words (t : Text) : List Text := (splitWhere isBlank t).filter (!·.isEmpty)

/-- `skip` characters of the current occurrence of `sep` are still to be passed over. -/
def splitAtTextFrom (sep : Text) : Nat → Text → List Text
  | _, [] => [[]]
  | skip + 1, _ :: cs => splitAtTextFrom sep skip cs
  | 0, c :: cs =>
    if sep.isPrefixOf (c :: cs) then [] :: splitAtTextFrom sep (sep.length - 1) cs
    else growHead c (splitAtTextFrom sep 0 cs)

/-- The parts between the occurrences of a text that is not empty. -/
def splitAtText (sep t : Text) : List Text := splitAtTextFrom sep 0 t

def join (sep : Text) (parts : List Text) : Text := sep.intercalate parts

def replace (old new t : Text) : Text := join new (splitAtText old t)

theorem growHead_ne_nil (c : Char) (parts : List Text) : growHead c parts ≠ [] := by
  cases parts <;> simp [growHead]

theorem splitWhere_ne_nil (p : Char → Bool) (t : Text) : splitWhere p t ≠ [] := by
  cases t with
  | nil => simp [splitWhere]
  | cons c cs => by_cases h : p c <;> simp [splitWhere, h, growHead_ne_nil]

theorem splitOn_ne_nil (sep : Char) (t : Text) : splitOn sep t ≠ [] :=
  splitWhere_ne_nil (· == sep) t

@[simp] theorem join_singleton (sep part : Text) : join sep [part] = part := by
  simp [join, List.intercalate]

theorem join_cons_cons (sep a b : Text) (parts : List Text) :
    join sep (a :: b :: parts) = a ++ sep ++ join sep (b :: parts) := by
  simp [join, List.intercalate]

theorem join_growHead (sep : Text) (c : Char) (parts : List Text) (h : parts ≠ []) :
    join sep (growHead c parts) = c :: join sep parts := by
  match parts, h with
  | [_], _ => simp [growHead]
  | _ :: _ :: _, _ => simp [growHead, join_cons_cons]

/-- Joining the parts at a character with that character gives the text back. -/
theorem join_splitOn (sep : Char) (t : Text) : join [sep] (splitOn sep t) = t := by
  unfold splitOn
  induction t with
  | nil => simp [splitWhere]
  | cons c cs ih =>
    by_cases h : c = sep
    · subst h
      obtain ⟨part, parts, hp⟩ := List.exists_cons_of_ne_nil (splitWhere_ne_nil (· == c) cs)
      simp only [splitWhere, beq_self_eq_true, if_true, hp, join_cons_cons] at *
      simp [ih]
    · simp [splitWhere, h, join_growHead _ _ _ (splitWhere_ne_nil _ _), ih]

theorem splitWhere_free (p : Char → Bool) (t : Text) :
    ∀ part ∈ splitWhere p t, ∀ c ∈ part, p c = false := by
  induction t with
  | nil => simp [splitWhere]
  | cons c cs ih =>
    by_cases h : p c
    · simpa [splitWhere, h] using ih
    · obtain ⟨part, parts, hp⟩ := List.exists_cons_of_ne_nil (splitWhere_ne_nil p cs)
      rw [hp] at ih
      simp only [splitWhere, h, Bool.false_eq_true, if_false, hp, growHead]
      intro q hq d hd
      rcases List.mem_cons.1 hq with rfl | hq
      · rcases List.mem_cons.1 hd with rfl | hd
        · simpa using h
        · exact ih part (by simp) d hd
      · exact ih q (by simp [hq]) d hd

end Text

end Pipework
