import Mathlib.Data.List.Basic
import OpenScript.Decimal.Shortest
import OpenScript.Decimal.Value

/-!
# Proofs/Written/Number — numbers read back as they are written

    literal ──chars──▸ characters ++ rest ──read?──▸ the same literal, rest

A literal that keeps to the number syntax reads back from its characters whenever what follows
cannot go on a number (`Literal.read?_chars_append`).  The literals of integers and of doubles are
such (`Literal.valid_ofInt`, `Layout.valid_literal`), and that of a word stands for that word
(`Literal.toInt64?_ofInt`).
-/

namespace OpenScript.Decimal

/-- Digits, at least one. -/
structure AreDigits (ds : List Char) : Prop where
  ne_nil : ds ≠ []
  isDigit : ∀ c ∈ ds, c.isDigit = true

theorem areDigits_toDigits (n : Nat) : AreDigits (Nat.toDigits 10 n) :=
  ⟨Nat.toDigits_ne_nil, fun _ hc => Nat.isDigit_of_mem_toDigits (by decide) (by decide) hc⟩

theorem areDigits_zero : AreDigits ['0'] := areDigits_toDigits 0

theorem AreDigits.append {ds es : List Char} (h : AreDigits ds) (he : ∀ c ∈ es, c.isDigit = true) :
    AreDigits (ds ++ es) :=
  ⟨List.append_ne_nil_of_left_ne_nil h.ne_nil es, fun c hc =>
    (List.mem_append.1 hc).elim (h.isDigit c) (he c)⟩

/-- Some of the digits are digits too. -/
theorem AreDigits.sublist {ds es : List Char} (h : AreDigits ds) (hs : es.Sublist ds)
    (hn : es ≠ []) : AreDigits es := ⟨hn, fun c hc => h.isDigit c (hs.subset hc)⟩

/-- A text that cannot go on a number that stands before it. -/
def Stops (cs : List Char) : Prop :=
  ∀ c ∈ cs.head?, c.isDigit = false ∧ c ≠ '.' ∧ c ≠ 'e' ∧ c ≠ 'E'

theorem stops_nil : Stops [] := nofun

namespace Literal

/-- A literal that keeps to the syntax of numbers: there are digits where digits belong, and the
whole part starts with `0` only if it is `0`. -/
structure Valid (l : Literal) : Prop where
  whole : AreDigits l.whole
  leading : l.whole.head? = some '0' → l.whole = ['0']
  fraction : ∀ ds ∈ l.fraction, AreDigits ds
  exponent : ∀ e ∈ l.exponent, AreDigits e.digits

variable {ds rest : List Char}

/-! ## Reading -/

theorem digits?_append (h : AreDigits ds) (hr : ∀ c ∈ rest.head?, c.isDigit = false) :
    digits? (ds ++ rest) = some (ds, rest) := by
  have noneTaken : rest.takeWhile Char.isDigit = [] := by
    cases rest with
    | nil => rfl
    | cons c cs => exact List.takeWhile_cons_of_neg (by rw [hr c rfl]; exact Bool.false_ne_true)
  have noneDropped : rest.dropWhile Char.isDigit = rest := by
    cases rest with
    | nil => rfl
    | cons c cs => exact List.dropWhile_cons_of_neg (by rw [hr c rfl]; exact Bool.false_ne_true)
  rw [digits?, List.takeWhile_append_of_pos h.isDigit, List.dropWhile_append_of_pos h.isDigit,
    noneTaken, noneDropped, List.append_nil]
  cases ds with
  | nil => exact absurd rfl h.ne_nil
  | cons d ds => rfl

/-- A digit is none of the characters with a meaning of their own. -/
theorem ne_of_isDigit {c d : Char} (hc : c.isDigit = true) (hd : d.isDigit = false) : c ≠ d :=
  fun e => Bool.false_ne_true (hd.symm.trans (e ▸ hc))

theorem whole?_append (h : AreDigits ds) (h0 : ds.head? = some '0' → ds = ['0'])
    (hr : ∀ c ∈ rest.head?, c.isDigit = false) : whole? (ds ++ rest) = some (ds, rest) := by
  unfold whole?
  split
  · next cs e =>
    have zero : ds = ['0'] := h0 (by
      cases ds with
      | nil => exact absurd rfl h.ne_nil
      | cons d ds => exact congrArg some (List.cons.inj e).1)
    obtain rfl := zero
    exact congrArg (fun cs => some (['0'], cs)) (List.cons.inj e).2.symm
  · exact digits?_append h hr

/-- The characters of a fraction. -/
def fractionChars : Option (List Char) → List Char
  | none => []
  | some ds => '.' :: ds

/-- The characters of an exponent. -/
def exponentChars : Option Exponent → List Char
  | none => []
  | some e => 'e' :: (e.sign.chars ++ e.digits)

theorem fraction?_append {fraction : Option (List Char)} (h : ∀ ds ∈ fraction, AreDigits ds)
    (hr : ∀ c ∈ rest.head?, c.isDigit = false ∧ c ≠ '.') :
    fraction? (fractionChars fraction ++ rest) = some (fraction, rest) := by
  cases fraction with
  | some ds =>
    rw [fractionChars, List.cons_append, fraction?,
      digits?_append (h ds rfl) fun c hc => (hr c hc).1]
    rfl
  | none =>
    rw [fractionChars, List.nil_append]
    unfold fraction?
    split
    · exact absurd rfl (hr '.' rfl).2
    · rfl

theorem signedDigits?_append {e : Exponent} (h : AreDigits e.digits)
    (hr : ∀ c ∈ rest.head?, c.isDigit = false) :
    signedDigits? (e.sign.chars ++ e.digits ++ rest) = some (e, rest) := by
  have digits := digits?_append h hr
  obtain ⟨sign, ds⟩ := e
  cases sign with
  | minus | plus =>
    simp only [Sign.chars, List.cons_append, List.nil_append, signedDigits?, digits,
      Option.map_some]
  | none =>
    cases ds with
    | nil => exact absurd rfl h.ne_nil
    | cons d ds =>
      have hd : d.isDigit = true := h.isDigit d List.mem_cons_self
      rw [Sign.chars, List.nil_append, signedDigits?, digits]
      · rfl
      · exact fun _ e => ne_of_isDigit hd rfl (List.cons.inj e).1
      · exact fun _ e => ne_of_isDigit hd rfl (List.cons.inj e).1

theorem exponent?_append {exponent : Option Exponent} (h : ∀ e ∈ exponent, AreDigits e.digits)
    (hr : Stops rest) : exponent? (exponentChars exponent ++ rest) = some (exponent, rest) := by
  cases exponent with
  | some e =>
    rw [exponentChars, List.cons_append, exponent?,
      signedDigits?_append (h e rfl) fun c hc => (hr c hc).1]
    rfl
  | none =>
    rw [exponentChars, List.nil_append]
    unfold exponent?
    split
    · exact absurd rfl (hr 'e' rfl).2.2.1
    · exact absurd rfl (hr 'E' rfl).2.2.2
    · rfl

variable {l : Literal}

theorem chars_eq (l : Literal) :
    l.chars = (if l.negative then ['-'] else [])
      ++ (l.whole ++ (fractionChars l.fraction ++ exponentChars l.exponent)) := by
  obtain ⟨negative, whole, fraction, exponent⟩ := l
  cases fraction <;> cases exponent <;>
    simp only [chars, fractionChars, exponentChars, List.append_assoc]

/-- What follows the fraction cannot go on it. -/
theorem head?_exponentChars_append (exponent : Option Exponent) (hr : Stops rest) :
    ∀ c ∈ (exponentChars exponent ++ rest).head?, c.isDigit = false ∧ c ≠ '.' := by
  cases exponent with
  | some e =>
    rintro c ⟨⟩
    exact ⟨rfl, by decide⟩
  | none => exact fun c hc => ⟨(hr c hc).1, (hr c hc).2.1⟩

/-- What follows the whole part cannot go on it. -/
theorem head?_fractionChars_append (fraction : Option (List Char)) (exponent : Option Exponent)
    (hr : Stops rest) :
    ∀ c ∈ (fractionChars fraction ++ (exponentChars exponent ++ rest)).head?,
      c.isDigit = false := by
  cases fraction with
  | some ds =>
    rintro c ⟨⟩
    rfl
  | none => exact fun c hc => (head?_exponentChars_append _ hr c hc).1

theorem unsigned?_append (h : l.Valid) (hr : Stops rest) :
    unsigned? l.negative
        (l.whole ++ (fractionChars l.fraction ++ (exponentChars l.exponent ++ rest)))
      = some (l, rest) := by
  have whole := whole?_append h.whole h.leading
    (head?_fractionChars_append l.fraction l.exponent hr)
  have fraction := fraction?_append h.fraction
    (head?_exponentChars_append l.exponent hr)
  have exponent := exponent?_append h.exponent hr
  simp only [unsigned?, whole, fraction, exponent, Option.bind_eq_bind, Option.bind_some]

/-- **A literal reads back from its characters**, if what follows cannot go on a number. -/
theorem read?_chars_append (h : l.Valid) (hr : Stops rest) :
    read? (l.chars ++ rest) = some (l, rest) := by
  have unsigned := unsigned?_append h hr
  simp only [chars_eq, List.append_assoc]
  cases hn : l.negative with
  | true =>
    rw [hn] at unsigned
    simpa only [if_true, List.cons_append, List.nil_append, read?] using unsigned
  | false =>
    rw [hn] at unsigned
    simp only [Bool.false_eq_true, if_false, List.nil_append]
    unfold read?
    split
    · next e =>
      obtain ⟨d, ds, hd⟩ := List.exists_cons_of_ne_nil h.whole.ne_nil
      rw [hd] at e
      have digit : d.isDigit = true := h.whole.isDigit d (hd ▸ List.mem_cons_self)
      exact absurd (List.cons.inj e).1 (ne_of_isDigit digit rfl)
    · exact unsigned

/-- The characters of a literal start with a digit or a minus sign. -/
theorem head_chars (h : l.Valid) :
    ∃ c cs, l.chars = c :: cs ∧ (c = '-' ∨ c.isDigit = true) := by
  rw [chars_eq]
  obtain ⟨d, ds, hd⟩ := List.exists_cons_of_ne_nil h.whole.ne_nil
  cases l.negative with
  | true => exact ⟨_, _, rfl, .inl rfl⟩
  | false =>
    rw [hd]
    exact ⟨d, _, rfl, .inr (h.whole.isDigit d (hd ▸ List.mem_cons_self))⟩

/-! ## Integers -/

/-- The digits of a number start with `0` only if it is zero. -/
theorem eq_zero_of_head?_toDigits {n : Nat} (h : (Nat.toDigits 10 n).head? = some '0') :
    n = 0 := by
  induction n using Nat.strongRecOn with
  | _ n ih =>
    rcases Nat.lt_or_ge n 10 with small | large
    · rw [Nat.toDigits_of_lt_base small] at h
      have zero : ∀ m < 10, [Nat.digitChar m].head? = some '0' → m = 0 := by decide
      exact zero n small h
    · rw [Nat.toDigits_of_base_le (by decide) large, List.head?_append_of_ne_nil _
        Nat.toDigits_ne_nil] at h
      have : n / 10 = 0 := ih (n / 10) (by omega) h
      omega

theorem toDigits_eq_of_head? {n : Nat} (h : (Nat.toDigits 10 n).head? = some '0') :
    Nat.toDigits 10 n = ['0'] := by
  rw [eq_zero_of_head?_toDigits h]
  exact Nat.toDigits_zero 10

theorem valid_ofInt (n : Int) : (ofInt n).Valid where
  whole := areDigits_toDigits n.natAbs
  leading := toDigits_eq_of_head?
  fraction := nofun
  exponent := nofun

theorem digitsValue_toDigits (n : Nat) : digitsValue (Nat.toDigits 10 n) = n :=
  Nat.ofDigitChars_ten_toDigits

/-- **The literal of a word stands for that word.** -/
theorem toInt64?_ofInt (n : Int64) : (ofInt n.toInt).toInt64? = some n := by
  have low : -2 ^ 63 ≤ n.toInt := Int64.le_toInt n
  have high : n.toInt < 2 ^ 63 := Int64.toInt_lt n
  have bound : signedBound = 2 ^ 63 := rfl
  have isInteger : (ofInt n.toInt).isInteger = true := rfl
  rw [toInt64?, if_pos isInteger]
  simp only [ofInt, digitsValue_toDigits]
  by_cases negative : n.toInt < 0
  · have value : -(n.toInt.natAbs : Int) = n.toInt := by omega
    rw [if_pos (decide_eq_true negative), if_pos (by omega), value, Int64.ofInt_toInt]
  · have value : (n.toInt.natAbs : Int) = n.toInt := by omega
    rw [if_neg (by simpa using negative), if_pos (by omega), ← Int64.ofInt_eq_ofNat, value,
      Int64.ofInt_toInt]

end Literal

/-! ## Doubles -/

namespace Layout

open Literal

theorem isDigit_of_mem_zeros {n : Nat} {c : Char} (h : c ∈ zeros n) : c.isDigit = true := by
  rw [List.eq_of_mem_replicate h]
  rfl

variable {ds : List Char}

/-- Digits that do not start with `0` are a whole part. -/
theorem leading_of_head? {whole : List Char} (hw : whole.head? = ds.head?)
    (h0 : ds.head? ≠ some '0') : whole.head? = some '0' → whole = ['0'] :=
  fun h => absurd (hw ▸ h) h0

theorem valid_positional (negative : Bool) (h : AreDigits ds) (h0 : ds.head? ≠ some '0')
    (point : Int) : (positional negative ds point).Valid := by
  unfold positional
  split
  · refine ⟨areDigits_zero, fun _ => rfl, ?_, nofun⟩
    rintro _ ⟨⟩
    refine ⟨List.append_ne_nil_of_right_ne_nil _ h.ne_nil, fun c hc => ?_⟩
    exact (List.mem_append.1 hc).elim isDigit_of_mem_zeros (h.isDigit c)
  · next positive =>
    dsimp only
    split
    · refine ⟨h.append fun c => isDigit_of_mem_zeros, ?_, ?_, nofun⟩
      · exact leading_of_head? (List.head?_append_of_ne_nil _ h.ne_nil) h0
      · rintro _ ⟨⟩
        exact areDigits_zero
    · next inside =>
      have taken : ds.take point.toNat ≠ [] := by
        rw [Ne, List.take_eq_nil_iff]
        exact fun e => e.elim (by omega) h.ne_nil
      have dropped : ds.drop point.toNat ≠ [] := by
        rw [Ne, List.drop_eq_nil_iff]
        exact inside
      refine ⟨h.sublist (List.take_sublist _ _) taken, ?_, ?_, nofun⟩
      · exact leading_of_head? (List.head?_take.trans (if_neg (by omega))) h0
      · rintro _ ⟨⟩
        exact h.sublist (List.drop_sublist _ _) dropped

theorem valid_scientific (layout : Layout) (negative : Bool) (h : AreDigits ds)
    (h0 : ds.head? ≠ some '0') (point : Int) : (layout.scientific negative ds point).Valid := by
  have taken : ds.take 1 ≠ [] := by
    rw [Ne, List.take_eq_nil_iff]
    exact fun e => e.elim (by decide) h.ne_nil
  refine ⟨h.sublist (List.take_sublist _ _) taken, ?_, fun es hes => ?_, ?_⟩
  · exact leading_of_head? (List.head?_take.trans (if_neg Nat.one_ne_zero)) h0
  · dsimp only [scientific] at hes
    split at hes
    · exact nomatch hes
    · next more =>
      obtain rfl := Option.some.inj hes
      refine h.sublist (List.drop_sublist _ _) ?_
      rw [Ne, List.drop_eq_nil_iff]
      exact more
  · rintro _ ⟨⟩
    exact areDigits_toDigits _

/-- **What is written for a double keeps to the syntax of numbers.** -/
theorem valid_literal (layout : Layout) (x : Float) : (layout.literal x).Valid := by
  unfold literal
  dsimp only
  split
  · refine ⟨areDigits_zero, fun _ => rfl, ?_, nofun⟩
    rintro _ ⟨⟩
    exact areDigits_zero
  · next nonzero =>
    have digits : AreDigits (Shortest.of layout.tie x).digits := areDigits_toDigits _
    have leading : (Shortest.of layout.tie x).digits.head? ≠ some '0' := fun h =>
      nonzero (beq_iff_eq.2 (eq_zero_of_head?_toDigits h))
    split
    · exact valid_positional _ digits leading _
    · exact valid_scientific layout _ digits leading _

end Layout

end OpenScript.Decimal
