import FleetSearch.Text.Blank
import FleetSearch.Text.Count
import Mathlib.Data.List.TakeWhile

set_option autoImplicit false

namespace FleetSearch.Text

/-- Decimal digits and perhaps a plus sign, between blanks. -/
inductive Spells : List Char -> Nat -> Prop
  | count (before after : List Char) (plus : Bool) (digits : List Char)
      (blanksBefore : ∀ c ∈ before, isBlank c = true)
      (blanksAfter : ∀ c ∈ after, isBlank c = true)
      (given : digits ≠ []) (each : ∀ c ∈ digits, c.isDigit = true)
      (fits : Nat.ofDigitChars 10 digits 0 < Count.bound) :
      Spells (before ++ ((if plus then ['+'] else []) ++ digits) ++ after)
        (Nat.ofDigitChars 10 digits 0)

theorem trim_cut (s : List Char) : ∃ before after,
    (∀ c ∈ before, isBlank c = true) ∧ (∀ c ∈ after, isBlank c = true) ∧
      s = before ++ trim s ++ after := by
  let inner := trimStart s
  have start : s = s.takeWhile isBlank ++ inner := List.takeWhile_append_dropWhile.symm
  have stop : inner = trim s ++ (inner.reverse.takeWhile isBlank).reverse := by
    have cut := congrArg List.reverse
      (List.takeWhile_append_dropWhile (p := isBlank) (l := inner.reverse))
    rw [List.reverse_append, List.reverse_reverse] at cut
    exact cut.symm
  refine ⟨s.takeWhile isBlank, (inner.reverse.takeWhile isBlank).reverse,
    fun c member => List.mem_takeWhile_imp member, fun c member => ?_, ?_⟩
  · exact List.mem_takeWhile_imp (List.mem_reverse.mp member)
  · rw [List.append_assoc, ← stop]
    exact start

theorem dropWhile_blanks {blanks s : List Char} (blank : ∀ c ∈ blanks, isBlank c = true)
    (dark : ∀ c ∈ s.head?, isBlank c = false) : (blanks ++ s).dropWhile isBlank = s := by
  rw [List.dropWhile_append_of_pos blank]
  cases s with
  | nil => rfl
  | cons c rest => rw [List.dropWhile_cons_of_neg (by simp [dark c rfl])]

theorem trim_blanks {before s after : List Char} (first : ∀ c ∈ before, isBlank c = true)
    (last : ∀ c ∈ after, isBlank c = true) (dark : ∀ c ∈ s, isBlank c = false) :
    trim (before ++ s ++ after) = s := by
  cases s with
  | nil =>
    have all : ∀ c ∈ before ++ [] ++ after, isBlank c = true := by
      simpa [or_imp, forall_and] using ⟨first, last⟩
    have none : trimStart (before ++ [] ++ after) = [] := List.dropWhile_eq_nil_iff.mpr all
    rw [trim, none]
    rfl
  | cons c rest =>
    have start : trimStart (before ++ (c :: rest) ++ after) = c :: rest ++ after := by
      rw [trimStart, List.append_assoc]
      exact dropWhile_blanks first (by simp [dark c])
    have ends : ∀ d ∈ (c :: rest).reverse.head?, isBlank d = false := fun d member =>
      dark d (List.mem_reverse.mp (List.mem_of_mem_head? member))
    rw [trim, start, trimEnd, List.reverse_append,
      dropWhile_blanks (fun d member => last d (List.mem_reverse.mp member)) ends,
      List.reverse_reverse]

theorem digit_dark {c : Char} (digit : c.isDigit = true) : isBlank c = false := by
  simp only [Char.isDigit, Bool.and_eq_true, decide_eq_true_eq, UInt32.le_iff_toNat_le] at digit
  have low : 48 ≤ c.toNat := digit.1
  have high : c.toNat ≤ 57 := digit.2
  rw [← Bool.not_eq_true]
  simp [isBlank]
  omega

def unsigned : List Char -> List Char
  | '+' :: rest => rest
  | s => s

theorem parse?_eq (s : List Char) : Count.parse? s =
    if (unsigned s).isEmpty || !(unsigned s).all Char.isDigit then none
    else if Nat.ofDigitChars 10 (unsigned s) 0 < Count.bound then
      some (Nat.ofDigitChars 10 (unsigned s) 0)
    else none := by
  have same : (match s with
      | '+' :: rest => rest
      | _ => s) = unsigned s := by
    unfold unsigned
    split <;> rfl
  rw [← same]
  rfl

theorem sign_unsigned (s : List Char) :
    ∃ plus : Bool, s = (if plus then ['+'] else []) ++ unsigned s := by
  unfold unsigned
  split
  next rest => exact ⟨true, rfl⟩
  next => exact ⟨false, rfl⟩

theorem unsigned_digits {digits : List Char} (each : ∀ c ∈ digits, c.isDigit = true)
    (plus : Bool) : unsigned ((if plus then ['+'] else []) ++ digits) = digits := by
  cases plus with
  | true => rfl
  | false =>
    show unsigned digits = digits
    unfold unsigned
    split
    next rest =>
      have digit := each '+' List.mem_cons_self
      cases digit
    next => rfl

theorem parse?_digits {digits : List Char} (given : digits ≠ [])
    (each : ∀ c ∈ digits, c.isDigit = true)
    (fits : Nat.ofDigitChars 10 digits 0 < Count.bound) (plus : Bool) :
    Count.parse? ((if plus then ['+'] else []) ++ digits) =
      some (Nat.ofDigitChars 10 digits 0) := by
  have read : (digits.isEmpty || !digits.all Char.isDigit) = false := by
    simpa [given] using each
  rw [parse?_eq, unsigned_digits each, read, if_neg Bool.false_ne_true, if_pos fits]

theorem parse?_eq_some {s : List Char} {n : Nat} (read : Count.parse? s = some n) :
    unsigned s ≠ [] ∧ (∀ c ∈ unsigned s, c.isDigit = true) ∧
      n = Nat.ofDigitChars 10 (unsigned s) 0 ∧ n < Count.bound := by
  rw [parse?_eq] at read
  split at read
  next => cases read
  next digits =>
    split at read
    next fits =>
      obtain rfl := Option.some.inj read
      simp only [Bool.or_eq_true, Bool.not_eq_true', not_or, Bool.not_eq_false] at digits
      exact ⟨by simpa using digits.1, by simpa using digits.2, rfl, fits⟩
    next => cases read

theorem parse?_trim_iff {s : List Char} {n : Nat} :
    Count.parse? (trim s) = some n ↔ Spells s n := by
  constructor
  · intro read
    obtain ⟨given, each, rfl, fits⟩ := parse?_eq_some read
    obtain ⟨before, after, first, last, cut⟩ := trim_cut s
    obtain ⟨plus, sign⟩ := sign_unsigned (trim s)
    have spelled := Spells.count before after plus _ first last given each fits
    rwa [← sign, ← cut] at spelled
  · rintro ⟨before, after, plus, digits, first, last, given, each, fits⟩
    rw [trim_blanks first last, parse?_digits given each fits]
    intro c member
    rcases List.mem_append.mp member with sign | digit
    · cases plus with
      | true =>
        obtain rfl := List.mem_singleton.mp sign
        decide
      | false => cases sign
    · exact digit_dark (each c digit)

theorem Spells.unique {s : List Char} {m n : Nat} (one : Spells s m) (other : Spells s n) : m = n :=
  Option.some.inj ((parse?_trim_iff.mpr one).symm.trans (parse?_trim_iff.mpr other))

theorem spells_toString {n : Nat} (fits : n < Count.bound) {before after : List Char}
    (first : ∀ c ∈ before, isBlank c = true) (last : ∀ c ∈ after, isBlank c = true) :
    Spells (before ++ (toString n).toList ++ after) n := by
  have value := Nat.ofDigitChars_ten_toDigits (n := n)
  have spelled := Spells.count before after false (Nat.toDigits 10 n) first last
    Nat.toDigits_ne_nil (fun c => Nat.isDigit_of_mem_toDigits (by decide) (by decide))
    (by rwa [value])
  rw [value] at spelled
  rw [Nat.toString_eq_ofList_toDigits, String.toList_ofList]
  exact spelled

end FleetSearch.Text
