import CardEffects.Text.Numeral
import Mathlib.Data.List.Basic
import Mathlib.Data.List.Induction
import Mathlib.Data.Nat.Digits.Defs

/-!
# Reading numerals back

The decimal numeral of a number is read as that number. Other numerals may be read as the same
number; among those that denote it, the decimal numeral is the one in canonical form.

* `decimal`, `Canonical`: the number that digits denote, and digits without leading zeros.
* `natural?_eq_some_iff`, `int64?_eq_some_iff`, `uint32?_eq_some_iff`: what is read as a given
  number.
* `canonical_toDigits`, `toDigits_decimal`: the digits of numbers are those in canonical form.
* `integer?_repr`, `int64?_toString`, `uint32?_toString`: the numerals of numbers are read back.
* `digit_or_sign_of_isInteger`: what a word in the shape of an integer is made of.
-/

namespace CardEffects.Numeral

/-! ## Digits -/

/-- A run of ASCII digits, one at least. -/
def IsDigits (digits : List Char) : Prop :=
  digits ≠ [] ∧ ∀ c ∈ digits, '0' ≤ c ∧ c ≤ '9'

/-- The number that digits denote in base ten, the last digit counting ones. -/
def decimal (digits : List Char) : ℕ :=
  Nat.ofDigits 10 (digits.reverse.map fun c => c.toNat - '0'.toNat)

/-- Digits of which the first is not a zero, and a zero alone. -/
def Canonical (digits : List Char) : Prop :=
  IsDigits digits ∧ (digits.head? = some '0' → digits = ['0'])

theorem isDigit_iff {c : Char} : c.isDigit = true ↔ '0' ≤ c ∧ c ≤ '9' := by
  simp [Char.isDigit, Char.le_def]

/-- A digit is the one that is written for its number. -/
theorem digitChar_toNat_sub {c : Char} (h : '0' ≤ c ∧ c ≤ '9') :
    c.toNat - '0'.toNat < 10 ∧ (c.toNat - '0'.toNat).digitChar = c := by
  have hlow : '0'.toNat ≤ c.toNat := h.1
  have hhigh : c.toNat ≤ '9'.toNat := h.2
  have hlt : c.toNat - '0'.toNat < 10 := by
    have hten : '9'.toNat = '0'.toNat + 9 := rfl
    omega
  refine ⟨hlt, Char.toNat_inj.1 ?_⟩
  rw [Nat.toNat_digitChar_of_lt_ten hlt]
  exact Nat.add_sub_cancel' hlow

/-- A digit at the end adds itself to ten times the value. -/
theorem decimal_append_singleton (digits : List Char) (c : Char) :
    decimal (digits ++ [c]) = 10 * decimal digits + (c.toNat - '0'.toNat) := by
  simp [decimal, Nat.ofDigits_cons, Nat.add_comm]

/-- The value of digits is the one that the library reads. -/
theorem ofDigitChars_eq_decimal (digits : List Char) :
    Nat.ofDigitChars 10 digits 0 = decimal digits := by
  induction digits using List.reverseRecOn with
  | nil => rfl
  | append_singleton digits c ih =>
    rw [Nat.ofDigitChars_append, ih, decimal_append_singleton, Nat.ofDigitChars_cons,
      Nat.ofDigitChars_nil]

theorem decimal_toDigits (n : ℕ) : decimal (Nat.toDigits 10 n) = n := by
  rw [← ofDigitChars_eq_decimal, Nat.ofDigitChars_ten_toDigits]

/-- A text is read as a number if it consists of digits that denote the number. -/
theorem natural?_eq_some_iff {digits : List Char} {n : ℕ} :
    natural? digits = some n ↔ IsDigits digits ∧ decimal digits = n := by
  have htest : (!digits.isEmpty && digits.all Char.isDigit) = true ↔ IsDigits digits := by
    simp [IsDigits, isDigit_iff]
  rw [natural?]
  split
  · next h => simp [htest.1 h, ofDigitChars_eq_decimal]
  · next h => simp [mt htest.2 h]

/-! ## Canonical form -/

/-- Only zero is written with a zero in front. -/
theorem eq_zero_of_head?_toDigits {n : ℕ} (h : (Nat.toDigits 10 n).head? = some '0') : n = 0 := by
  induction n using Nat.base_induction 10 (by decide) with
  | single n hn =>
    rw [Nat.toDigits_of_lt_base hn] at h
    simpa using h
  | digit n last hlast hn ih =>
    -- Another digit at the end leaves the first one in place.
    rw [← Nat.toDigits_append_toDigits (by decide) hn hlast,
      List.head?_append_of_ne_nil _ Nat.toDigits_ne_nil] at h
    exact absurd (ih h) hn.ne'

/-- The digits of a number are canonical. -/
theorem canonical_toDigits (n : ℕ) : Canonical (Nat.toDigits 10 n) := by
  refine ⟨⟨Nat.toDigits_ne_nil, fun c hc => ?_⟩, fun hzero => ?_⟩
  · exact isDigit_iff.1 (Nat.isDigit_of_mem_toDigits (by decide) (by decide) hc)
  · rw [eq_zero_of_head?_toDigits hzero, Nat.toDigits_zero]

/-- Digits in canonical form are the digits of the number that they denote. -/
theorem toDigits_decimal {digits : List Char} (h : Canonical digits) :
    Nat.toDigits 10 (decimal digits) = digits := by
  induction digits using List.reverseRecOn with
  | nil => exact absurd rfl h.1.1
  | append_singleton digits c ih =>
    obtain ⟨⟨-, hdigits⟩, hzero⟩ := h
    rw [List.forall_mem_append, List.forall_mem_singleton] at hdigits
    obtain ⟨hlt, hchar⟩ := digitChar_toNat_sub hdigits.2
    rw [decimal_append_singleton]
    by_cases hnil : digits = []
    · subst hnil
      rw [decimal, List.reverse_nil, List.map_nil, Nat.ofDigits_nil, Nat.mul_zero, Nat.zero_add,
        Nat.toDigits_of_lt_base hlt, hchar, List.nil_append]
    · -- The digits before the last one have no leading zero, so they do not denote zero.
      have hhead : digits.head? ≠ some '0' := by
        intro hhead
        have hsingle : digits ++ [c] = [] ++ ['0'] :=
          hzero (by rw [List.head?_append_of_ne_nil _ hnil, hhead])
        exact hnil (List.append_inj_left' hsingle rfl)
      have hdecimal := ih ⟨⟨hnil, hdigits.1⟩, fun h => absurd h hhead⟩
      have hpos : 0 < decimal digits := by
        refine Nat.pos_of_ne_zero fun hvalue => hhead ?_
        rw [← hdecimal, hvalue, Nat.toDigits_zero, List.head?_cons]
      rw [← Nat.toDigits_append_toDigits (by decide) hpos hlt, hdecimal,
        Nat.toDigits_of_lt_base hlt, hchar]

/-! ## Signed numerals -/

/-- The word is a run of digits, with or without a sign in front, and denotes the number. -/
def IsSigned (word : String) (n : Int) : Prop :=
  ∃ digits, IsDigits digits ∧
    ((word.toList = digits ∨ word.toList = '+' :: digits) ∧ decimal digits = n ∨
      word.toList = '-' :: digits ∧ -(decimal digits : Int) = n)

theorem not_isDigits_cons {c : Char} (hc : ¬ ('0' ≤ c ∧ c ≤ '9')) (digits : List Char) :
    ¬ IsDigits (c :: digits) :=
  fun h => hc (h.2 c List.mem_cons_self)

/-- A word is read as an integer if it is a signed numeral of that number. -/
theorem integer?_eq_some_iff {word : String} {n : Int} :
    integer? word = some n ↔ IsSigned word n := by
  have hdigits (digits : List Char) (f : ℕ → Int) :
      (natural? digits).map f = some n ↔ IsDigits digits ∧ f (decimal digits) = n := by
    simp [Option.map_eq_some_iff, natural?_eq_some_iff]
  rw [integer?, IsSigned]
  -- A word begins with a plus, with a minus or with neither, and a sign is no digit.
  split
  · next digits hword =>
    rw [hdigits, hword]
    constructor
    · exact fun ⟨hrun, hvalue⟩ => ⟨digits, hrun, .inl ⟨.inr rfl, hvalue⟩⟩
    · rintro ⟨other, hrun, ⟨rfl | hother, hvalue⟩ | ⟨hother, -⟩⟩
      · exact absurd hrun (not_isDigits_cons (by decide) digits)
      · rw [List.tail_eq_of_cons_eq hother]
        exact ⟨hrun, hvalue⟩
      · exact absurd (List.head_eq_of_cons_eq hother) (by decide)
  · next digits hword =>
    rw [hdigits, hword]
    constructor
    · exact fun ⟨hrun, hvalue⟩ => ⟨digits, hrun, .inr ⟨rfl, hvalue⟩⟩
    · rintro ⟨other, hrun, ⟨rfl | hother, -⟩ | ⟨hother, hvalue⟩⟩
      · exact absurd hrun (not_isDigits_cons (by decide) digits)
      · exact absurd (List.head_eq_of_cons_eq hother) (by decide)
      · rw [List.tail_eq_of_cons_eq hother]
        exact ⟨hrun, hvalue⟩
  · next hplus hminus =>
    rw [hdigits]
    constructor
    · exact fun ⟨hrun, hvalue⟩ => ⟨word.toList, hrun, .inl ⟨.inl rfl, hvalue⟩⟩
    · rintro ⟨digits, hrun, ⟨hword | hword, hvalue⟩ | ⟨hword, -⟩⟩
      · rw [hword]
        exact ⟨hrun, hvalue⟩
      · exact absurd hword (hplus digits)
      · exact absurd hword (hminus digits)

/-- A word is a signed numeral of one number at most. -/
theorem IsSigned.unique {word : String} {m n : Int} (hm : IsSigned word m)
    (hn : IsSigned word n) : m = n := by
  rw [← integer?_eq_some_iff] at hm hn
  exact Option.some.inj (hm.symm.trans hn)

/-- The decimal numeral of an integer denotes it. -/
theorem integer?_repr (n : Int) : integer? n.repr = some n := by
  rw [integer?_eq_some_iff, Int.repr_eq_if]
  split
  · next hn =>
    refine ⟨Nat.toDigits 10 n.toNat, (canonical_toDigits _).1, .inl ⟨.inl Nat.toList_repr, ?_⟩⟩
    rw [decimal_toDigits, Int.toNat_of_nonneg hn]
  · next hn =>
    refine ⟨Nat.toDigits 10 (-n).toNat, (canonical_toDigits _).1, .inr ⟨by simp, ?_⟩⟩
    rw [decimal_toDigits, Int.toNat_of_nonneg (by omega), Int.neg_neg]

/-- A signed number is in the range of signed numbers. -/
theorem toInt64?_toInt (n : Int64) : toInt64? n.toInt = some n := by
  have hrange : Int64.minValue.toInt ≤ n.toInt ∧ n.toInt ≤ Int64.maxValue.toInt :=
    ⟨n.minValue_le_toInt, n.toInt_le⟩
  rw [toInt64?, if_pos hrange, Int64.ofInt_toInt]

/-- The decimal numeral of a signed 64-bit integer denotes it. -/
theorem int64?_toString (n : Int64) : int64? (toString n) = some n := by
  have hinteger : integer? (toString n) = some n.toInt := integer?_repr n.toInt
  rw [int64?, hinteger, Option.bind_some, toInt64?_toInt]

/-- A number is written in the shape of one. -/
theorem isInteger_toString (n : Int64) : isInteger (toString n) = true := by
  have hinteger : integer? (toString n) = some n.toInt := integer?_repr n.toInt
  rw [isInteger, hinteger, Option.isSome_some]

/-- A word is in the shape of a number exactly if it is a signed numeral. -/
theorem isInteger_iff {word : String} : isInteger word = true ↔ ∃ n, IsSigned word n := by
  simp only [isInteger, Option.isSome_iff_exists, integer?_eq_some_iff]

/-- A word in the shape of an integer is made of digits and signs. -/
theorem digit_or_sign_of_isInteger {word : String} (h : isInteger word = true) :
    ∀ c ∈ word.toList, c.isDigit = true ∨ c = '+' ∨ c = '-' := by
  obtain ⟨n, digits, ⟨-, hrun⟩, hword⟩ := isInteger_iff.1 h
  have hdigits : ∀ c ∈ digits, c.isDigit = true ∨ c = '+' ∨ c = '-' :=
    fun c hc => .inl (isDigit_iff.2 (hrun c hc))
  rcases hword with ⟨hword | hword, -⟩ | ⟨hword, -⟩
  · rw [hword]
    exact hdigits
  · rw [hword]
    exact List.forall_mem_cons.2 ⟨by simp, hdigits⟩
  · rw [hword]
    exact List.forall_mem_cons.2 ⟨by simp, hdigits⟩

/-- The signed number for a number is the one that has it as its value. -/
theorem toInt64?_eq_some_iff {n : Int} {value : Int64} :
    toInt64? n = some value ↔ n = value.toInt := by
  refine ⟨fun h => ?_, fun h => h ▸ toInt64?_toInt value⟩
  rw [toInt64?] at h
  split at h
  · next hrange =>
    cases h
    rw [Int64.toInt_ofInt_of_le hrange.1 (Int.lt_of_le_of_lt hrange.2 (by decide))]
  · cases h

/-- A word is read as a signed 64-bit integer if it is a signed numeral of that number. -/
theorem int64?_eq_some_iff {word : String} {value : Int64} :
    int64? word = some value ↔ IsSigned word value.toInt := by
  simp [int64?, Option.bind_eq_some_iff, integer?_eq_some_iff, toInt64?_eq_some_iff]

/-! ## Unsigned numerals -/

/-- The word is a run of digits that denotes the number, perhaps with a plus sign in front. -/
def IsUnsigned (word : String) (n : ℕ) : Prop :=
  ∃ digits, IsDigits digits ∧ (word.toList = digits ∨ word.toList = '+' :: digits) ∧
    decimal digits = n

/-- A natural number is written as an unsigned numeral. -/
theorem isUnsigned_toString (n : ℕ) : IsUnsigned (toString n) n :=
  ⟨Nat.toDigits 10 n, (canonical_toDigits n).1, .inl Nat.toList_repr, decimal_toDigits n⟩

/-- Of the numerals of a number, the decimal one is the one in canonical form. -/
theorem toString_eq_iff_canonical {word : String} {n : ℕ} (h : IsUnsigned word n) :
    toString n = word ↔ Canonical word.toList := by
  constructor
  · rintro rfl
    rw [Nat.toString_eq_repr, Nat.toList_repr]
    exact canonical_toDigits n
  · intro hcanonical
    obtain ⟨digits, -, hword | hword, rfl⟩ := h
    · rw [← String.toList_inj, Nat.toString_eq_repr, Nat.toList_repr, ← hword,
        toDigits_decimal hcanonical]
    · rw [hword] at hcanonical
      exact absurd hcanonical.1 (not_isDigits_cons (by decide) digits)

theorem toUInt32?_toNat (n : UInt32) : toUInt32? n.toNat = some n := by
  have hrange : 0 ≤ (n.toNat : Int) ∧ (n.toNat : Int) < UInt32.size :=
    ⟨Int.natCast_nonneg _, Int.ofNat_lt.2 n.toNat_lt_size⟩
  rw [toUInt32?, if_pos hrange, Int.toNat_natCast, UInt32.ofNat_toNat]

theorem toUInt8?_toNat (n : UInt8) : toUInt8? n.toNat = some n := by
  have hrange : 0 ≤ (n.toNat : Int) ∧ (n.toNat : Int) < UInt8.size :=
    ⟨Int.natCast_nonneg _, Int.ofNat_lt.2 n.toNat_lt_size⟩
  rw [toUInt8?, if_pos hrange, Int.toNat_natCast, UInt8.ofNat_toNat]

theorem toUInt32?_eq_some_iff {n : ℕ} {value : UInt32} :
    toUInt32? n = some value ↔ n = value.toNat := by
  refine ⟨fun h => ?_, fun h => h ▸ toUInt32?_toNat value⟩
  rw [toUInt32?] at h
  split at h
  · next hrange =>
    cases h
    rw [Int.toNat_natCast, UInt32.toNat_ofNat_of_lt' (Int.ofNat_lt.1 hrange.2)]
  · cases h

/-- A word is read as an unsigned 32-bit integer if it is an unsigned numeral of that number. -/
theorem uint32?_eq_some_iff {word : String} {value : UInt32} :
    uint32? word = some value ↔ IsUnsigned word value.toNat := by
  have hdigits (digits : List Char) : ((natural? digits).bind fun n => toUInt32? n) = some value ↔
      IsDigits digits ∧ decimal digits = value.toNat := by
    simp [Option.bind_eq_some_iff, natural?_eq_some_iff, toUInt32?_eq_some_iff]
  rw [uint32?, IsUnsigned]
  split
  · next digits hword =>
    rw [hdigits, hword]
    constructor
    · exact fun ⟨hrun, hvalue⟩ => ⟨digits, hrun, .inr rfl, hvalue⟩
    · rintro ⟨other, hrun, rfl | hother, hvalue⟩
      · exact absurd hrun (not_isDigits_cons (by decide) digits)
      · rw [List.tail_eq_of_cons_eq hother]
        exact ⟨hrun, hvalue⟩
  · next hplus =>
    rw [hdigits]
    constructor
    · exact fun ⟨hrun, hvalue⟩ => ⟨word.toList, hrun, .inl rfl, hvalue⟩
    · rintro ⟨digits, hrun, hword | hword, hvalue⟩
      · rw [hword]
        exact ⟨hrun, hvalue⟩
      · exact absurd hword (hplus digits)

/-- The decimal numeral of an unsigned 32-bit integer denotes it. -/
theorem uint32?_toString (n : UInt32) : uint32? (toString n.toNat) = some n :=
  uint32?_eq_some_iff.2 (isUnsigned_toString n.toNat)

end CardEffects.Numeral
