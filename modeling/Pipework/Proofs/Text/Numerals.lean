import Pipework.Text

/-!
Decimal and hexadecimal numerals and the numbers they denote.
-/

set_option autoImplicit false
set_option relaxedAutoImplicit false

namespace Pipework.Text

/-! ## Decimal numerals

A number that is written in digits is read back (`readNat?_ofNat`). A text is read as a machine
word if it denotes a number, a plus sign allowed, and the number is below the bound
(`readWord?_eq_some_iff`).
-/

theorem digitValue?_of_isDigit {c : Char} (h : c.isDigit = true) :
    digitValue? c = some (c.toNat - 48) := by
  obtain ⟨low, high⟩ := Char.isDigit_iff_toNat.1 h
  rw [digitValue?, if_pos ⟨low, high⟩]

theorem readDigits_of_forall {t : Text} (h : ∀ c ∈ t, c.isDigit = true) (value : Nat) :
    readDigits value t = some (Nat.ofDigitChars 10 t value) := by
  induction t generalizing value with
  | nil => rfl
  | cons c t ih =>
    have hc := digitValue?_of_isDigit (h c List.mem_cons_self)
    have tail := ih (fun d hd => h d (List.mem_cons_of_mem c hd)) (10 * value + (c.toNat - 48))
    simpa [readDigits, hc, Nat.ofDigitChars] using tail

theorem isDigit_of_digitValue? {c : Char} {d : Nat} (h : digitValue? c = some d) :
    c.isDigit = true := by
  rw [digitValue?] at h
  split at h
  · next range => exact Char.isDigit_iff_toNat.2 range
  · cases h

theorem isDigit_of_readDigits {t : Text} {value n : Nat} (h : readDigits value t = some n) :
    ∀ c ∈ t, c.isDigit = true := by
  induction t generalizing value with
  | nil => simp
  | cons c t ih =>
    obtain ⟨d, digit, rest⟩ := Option.bind_eq_some_iff.1 h
    exact List.forall_mem_cons.2 ⟨isDigit_of_digitValue? digit, ih rest⟩

theorem readNat?_eq_some_iff {t : Text} {n : Nat} :
    readNat? t = some n ↔
      t ≠ [] ∧ (∀ c ∈ t, c.isDigit = true) ∧ n = Nat.ofDigitChars 10 t 0 := by
  rw [readNat?]
  by_cases empty : t.isEmpty = true
  · have none : t = [] := List.isEmpty_iff.1 empty
    simp [none]
  · have filled : t ≠ [] := fun none => empty (List.isEmpty_iff.2 none)
    rw [if_neg empty]
    constructor
    · intro h
      have digits := isDigit_of_readDigits h
      rw [readDigits_of_forall digits] at h
      exact ⟨filled, digits, (Option.some.inj h).symm⟩
    · rintro ⟨-, digits, rfl⟩
      exact readDigits_of_forall digits 0

/-- A text denotes a number: decimal digits, of any length, with a plus sign in front or not. -/
def Denotes (t : Text) (n : Nat) : Prop :=
  ∃ sign digits, t = sign ++ digits ∧ (sign = [] ∨ sign = ['+']) ∧ digits ≠ [] ∧
    (∀ c ∈ digits, c.isDigit = true) ∧ n = Nat.ofDigitChars 10 digits 0

theorem denotes_plus_iff {t : Text} {n : Nat} : Denotes ('+' :: t) n ↔ readNat? t = some n := by
  rw [readNat?_eq_some_iff]
  constructor
  · rintro ⟨sign, digits, split, rfl | rfl, filled, decimal, value⟩
    · have plus := decimal '+' (by rw [← List.nil_append digits, ← split]; simp)
      cases plus
    · obtain rfl : t = digits := by simpa using split
      exact ⟨filled, decimal, value⟩
  · rintro ⟨filled, decimal, value⟩
    exact ⟨['+'], t, rfl, .inr rfl, filled, decimal, value⟩

theorem denotes_unsigned_iff {t : Text} (unsigned : ∀ rest, t ≠ '+' :: rest) {n : Nat} :
    Denotes t n ↔ readNat? t = some n := by
  rw [readNat?_eq_some_iff]
  constructor
  · rintro ⟨sign, digits, rfl, rfl | rfl, filled, decimal, value⟩
    · exact ⟨filled, decimal, value⟩
    · exact absurd rfl (unsigned digits)
  · rintro ⟨filled, decimal, value⟩
    exact ⟨[], t, rfl, .inl rfl, filled, decimal, value⟩

theorem exists_unsigned (t : Text) :
    ∃ digits, (∀ n, Denotes t n ↔ readNat? digits = some n) ∧
      readWord? t = (readNat? digits).filter (· < wordBound) := by
  by_cases signed : ∃ rest, t = '+' :: rest
  · obtain ⟨rest, rfl⟩ := signed
    exact ⟨rest, fun n => denotes_plus_iff, rfl⟩
  · have unsigned : ∀ rest, t ≠ '+' :: rest := not_exists.1 signed
    exact ⟨t, fun n => denotes_unsigned_iff unsigned, readWord?.eq_2 t unsigned⟩

theorem Denotes.unique {t : Text} {m n : Nat} (hm : Denotes t m) (hn : Denotes t n) : m = n := by
  obtain ⟨digits, value, -⟩ := exists_unsigned t
  rw [value] at hm hn
  exact Option.some.inj (hm.symm.trans hn)

theorem readWord?_eq_some_iff {t : Text} {n : Nat} :
    readWord? t = some n ↔ Denotes t n ∧ n < wordBound := by
  obtain ⟨digits, value, word⟩ := exists_unsigned t
  rw [word, value, Option.filter_eq_some_iff]
  simp

theorem isBlank_of_isDigit {c : Char} (h : c.isDigit = true) : isBlank c = false := by
  obtain ⟨low, high⟩ := Char.isDigit_iff_toNat.1 h
  have low' : 48 ≤ c.toNat := low
  have high' : c.toNat ≤ 57 := high
  simp [isBlank]
  omega

theorem isDigit_of_mem_ofNat {n : Nat} {c : Char} (h : c ∈ ofNat n) : c.isDigit = true :=
  Nat.isDigit_of_mem_toDigits (by decide) (by decide) h

theorem ne_of_mem_ofNat {n : Nat} {c d : Char} (h : c ∈ ofNat n) (hd : d.isDigit = false) :
    c ≠ d :=
  ne_of_class (isDigit_of_mem_ofNat h) hd

theorem ofNat_ne_nil (n : Nat) : ofNat n ≠ [] := Nat.toDigits_ne_nil

theorem readNat?_ofNat (n : Nat) : readNat? (ofNat n) = some n := by
  have digits := readDigits_of_forall (fun c hc => isDigit_of_mem_ofNat (n := n) hc) 0
  rw [readNat?, if_neg (by simpa using ofNat_ne_nil n), digits, ofNat,
    Nat.ofDigitChars_ten_toDigits]

theorem denotes_ofNat (n : Nat) : Denotes (ofNat n) n := by
  obtain ⟨filled, decimal, value⟩ := readNat?_eq_some_iff.1 (readNat?_ofNat n)
  exact ⟨[], ofNat n, rfl, .inl rfl, filled, decimal, value⟩

theorem readWord?_ofNat {n : Nat} (h : n < wordBound) : readWord? (ofNat n) = some n :=
  readWord?_eq_some_iff.2 ⟨denotes_ofNat n, h⟩

theorem lt_wordBound_of_readWord? {t : Text} {n : Nat} (h : readWord? t = some n) :
    n < wordBound :=
  (readWord?_eq_some_iff.1 h).2

/-! ## Hexadecimal numerals

Padded hexadecimal digits are read back, in either case.
-/

theorem hexValue?_hexDigit : ∀ d < 16, hexValue? (hexDigit d) = some d := by decide

theorem hexValue?_toUpper_hexDigit : ∀ d < 16, hexValue? (hexDigit d).toUpper = some d := by decide

@[simp] theorem length_hexPadded (width n : Nat) : (hexPadded width n).length = width := by
  induction width generalizing n with
  | zero => rfl
  | succ width ih => simp [hexPadded, ih]

theorem exists_of_mem_hexPadded {width n : Nat} {c : Char} (h : c ∈ hexPadded width n) :
    ∃ d < 16, c = hexDigit d := by
  induction width generalizing n with
  | zero => cases h
  | succ width ih =>
    rw [hexPadded, List.mem_append, List.mem_singleton] at h
    rcases h with h | h
    · exact ih h
    · exact ⟨n % 16, Nat.mod_lt n (by decide), h⟩

theorem readHex_append (value : Nat) (a b : Text) :
    readHex value (a ++ b) = (readHex value a).bind fun n => readHex n b := by
  induction a generalizing value with
  | nil => rfl
  | cons c a ih =>
    rw [List.cons_append, readHex, readHex, Option.bind_assoc]
    exact congrArg ((hexValue? c).bind ·) (funext fun d => ih _)

theorem readHex_map_hexPadded {shape : Char → Char}
    (keeps : ∀ d < 16, hexValue? (shape (hexDigit d)) = some d) (width n : Nat) :
    readHex 0 ((hexPadded width n).map shape) = some (n % Nat.pow 16 width) := by
  induction width generalizing n with
  | zero => simp [hexPadded, readHex, Nat.mod_one]
  | succ width ih =>
    have last := keeps (n % 16) (Nat.mod_lt n (by decide))
    have value : 16 * (n / 16 % Nat.pow 16 width) + n % 16 = n % Nat.pow 16 (width + 1) := by
      have split : Nat.pow 16 (width + 1) = 16 * Nat.pow 16 width := Nat.pow_succ'
      rw [split, Nat.mod_mul, Nat.add_comm]
    rw [hexPadded, List.map_append, List.map_singleton, readHex_append, ih, Option.bind_some,
      readHex, last, Option.bind_some, readHex, value]

theorem readHex_hexPadded (width n : Nat) :
    readHex 0 (hexPadded width n) = some (n % Nat.pow 16 width) := by
  have keeps : ∀ d < 16, hexValue? (id (hexDigit d)) = some d := hexValue?_hexDigit
  simpa using readHex_map_hexPadded keeps width n

end Pipework.Text
