import FleetSearch.Proofs.Json.Written
import Mathlib.Data.List.Forall2

set_option autoImplicit false

/-!
Records that are read back from what they are written as. A reader of a field has to recover what
it is written as, and then so does the reader of the record, if the members that are written are
fields of its shape and all that it needs are among them.
-/

namespace FleetSearch.Json

namespace Reader

theorem recovers_string (expected s : String) : Recovers (string expected) (.text s) s := by
  intro rest _
  have written : (Value.text s).chars = ['"'] ++ (s.toList.flatMap escaped ++ ['"']) := rfl
  rw [written]
  exact .begin (reads_next (by decide) _) ((reads_skip '"' _).bind (reads_text s rest))

theorem recovers_bool (b : Bool) : Recovers bool (.bool b) b := by
  cases b <;> exact fun _ _ _ => ⟨_, rfl⟩

theorem le_ofDigitChars (ds : List Char) (acc : Nat) : acc ≤ Nat.ofDigitChars 10 ds acc := by
  induction ds generalizing acc with
  | nil => simp
  | cons c ds ih =>
    have later := ih (10 * acc + (c.toNat - '0'.toNat))
    rw [Nat.ofDigitChars_cons]
    omega

theorem wordDigits_digits {ds rest : List Char} (each : ∀ c ∈ ds, c.isDigit = true)
    (ends : Ends rest) {fuel : Nat} (enough : ds.length ≤ fuel) {acc : Nat}
    (fits : Nat.ofDigitChars 10 ds acc < wordBound) :
    Reads (wordDigits fuel acc) ds rest (Nat.ofDigitChars 10 ds acc) := by
  induction ds generalizing fuel acc with
  | nil =>
    rw [Nat.ofDigitChars_nil]
    cases fuel with
    | zero => exact .pure acc rest
    | succ fuel =>
      have stops := ends.isDigit
      refine .begin (reads_peek rest) ?_
      cases rest with
      | nil => exact .pure acc []
      | cons c rest =>
        have other : c.isDigit = false := stops
        simp only [List.head?_cons, other, Bool.false_and, Bool.false_eq_true, if_false]
        exact .pure acc _
  | cons c ds ih =>
    obtain ⟨fuel, rfl⟩ := Nat.exists_eq_add_one_of_ne_zero (Nat.ne_zero_of_lt enough)
    obtain ⟨first, others⟩ := List.forall_mem_cons.mp each
    rw [Nat.ofDigitChars_cons] at fits ⊢
    have small := Nat.lt_of_le_of_lt (le_ofDigitChars ds _) fits
    have taken : (c.isDigit && decide (10 * acc + (c.toNat - 48) < wordBound)) = true := by
      rw [first, Bool.true_and, decide_eq_true_eq]
      exact small
    show Reads (wordDigits (fuel + 1) acc) ([c] ++ ds) rest _
    refine .begin (reads_peek (c :: (ds ++ rest))) ?_
    simp only [List.head?_cons, taken, if_true]
    exact (reads_skip c _).bind (ih others (by simpa using enough) fits)

theorem number_count {n : Nat} (fits : n < wordBound) {rest : List Char} (ends : Ends rest) :
    Reads (number false) (Nat.toDigits 10 n) rest (.count n) := by
  obtain ⟨c, ds, cut, first, others, alone⟩ := count_digits n
  have value := Nat.ofDigitChars_ten_toDigits (n := n)
  rw [cut, Nat.ofDigitChars_cons, Nat.mul_zero, Nat.zero_add] at value
  rw [← value] at fits
  rw [cut]
  show Reads (number false) ([c] ++ ds) rest _
  unfold number
  refine .get fun before _ => (reads_take c _).bind ?_
  simp only [first, Bool.not_true, Bool.false_eq_true, if_false]
  refine .begin (reads_peek (ds ++ rest)) ?_
  rw [alone rest ends, if_neg Bool.false_ne_true]
  -- neither the fuel nor the word runs out before the digits do
  refine .get fun before written => ?_
  have enough : ds.length ≤ before.rest.length := by simp [written]
  refine (wordDigits_digits others ends enough fits).finish ?_
  have none : Reads digits [] rest [] := reads_digits (by simp) ends
  refine .begin none (.begin (reads_peek rest) ?_)
  split
  next point => rcases ends _ point with same | same | same <;> cases same
  next mark => rcases ends _ mark with same | same | same <;> cases same
  next mark => rcases ends _ mark with same | same | same <;> cases same
  next =>
    rw [value]
    exact .pure _ rest

theorem recovers_count (expected : String) {n : Nat} (fits : n < wordBound) :
    Recovers (count expected) (.count n) n := by
  intro rest ends
  obtain ⟨c, ds, cut, dark, _⟩ := chars_head (.count n)
  have digit : c.isDigit = true := by
    rw [Value.chars, toString_digits] at cut
    exact toDigits_isDigit n c (by simp [cut])
  have unsigned : c ≠ '-' := by
    rintro rfl
    cases digit
  have number := number_count fits ends
  rw [← toString_digits, ← Value.chars, cut] at number
  rw [cut]
  refine .begin (reads_next dark (ds ++ rest)) ?_
  simp only [digit, unsigned, Bool.not_true, Bool.and_false, Bool.false_eq_true, if_false,
    decide_false]
  exact number.finish (.pure n rest)

theorem recovers_optional {B : Type} {read : Reader B} {f : B -> Value}
    (each : ∀ b, Recovers read (f b) b) (given : ∀ b, (f b).chars.head? ≠ some 'n')
    (o : Option B) : Recovers (optional read) (Value.ofOption f o) o := by
  intro rest ends
  cases o with
  | none => exact fun _ => ⟨_, rfl⟩
  | some b =>
    obtain ⟨c, more, cut, dark, _⟩ := chars_head (f b)
    have other : c ≠ 'n' := by simpa [cut] using given b
    have item := each b rest ends
    show Reads (optional read) (f b).chars rest (some b)
    rw [cut] at item ⊢
    refine .begin (reads_next dark (more ++ rest)) ?_
    split
    next null => exact absurd (Option.some.inj null) other
    next => exact item.finish (.pure _ rest)

theorem moreItems_item {c : Char} (dark : isSpace c = false) (inside : c ≠ ']') (first : Bool)
    (rest : List Char) :
    Reads (moreItems first) (if first then [] else [',']) (c :: rest) true := by
  cases first with
  | true =>
    refine .begin (reads_next dark rest) ?_
    split
    next none => cases none
    next close => exact absurd (Option.some.inj close) inside
    next => exact .pure true _
    next => exact .pure true _
  | false =>
    refine .begin (reads_next (by decide) _) ((reads_skip ',' _).finish ?_)
    refine .begin (reads_next dark rest) ?_
    split
    next none => cases none
    next close => exact absurd (Option.some.inj close) inside
    next => exact .pure true _

theorem moreItems_end (first : Bool) (rest : List Char) :
    Reads (moreItems first) [] (']' :: rest) false :=
  fun _ => ⟨_, rfl⟩

theorem itemsFrom_items {B : Type} {read : Reader B} {items : List Value} {bs : List B}
    (each : List.Forall₂ (Recovers read) items bs) {fuel : Nat} (enough : items.length < fuel)
    (first : Bool) (rest : List Char) :
    Reads (itemsFrom read fuel first) (itemChars first items) (']' :: rest) bs := by
  induction each generalizing fuel first with
  | nil =>
    obtain ⟨fuel, rfl⟩ := Nat.exists_eq_add_one_of_ne_zero (Nat.ne_zero_of_lt enough)
    exact .begin (moreItems_end first rest) (.pure [] _)
  | @cons v b items bs item _ ih =>
    obtain ⟨fuel, rfl⟩ := Nat.exists_eq_add_one_of_ne_zero (Nat.ne_zero_of_lt enough)
    obtain ⟨c, more, cut, dark, inside⟩ := chars_head v
    have ends : Ends (itemChars false items ++ ']' :: rest) := by
      cases items <;> exact ends_of_mark (by simp) _
    have one := item _ ends
    have written : itemChars first (v :: items) =
        (if first then [] else [',']) ++ (v.chars ++ itemChars false items) := by
      simp [itemChars]
    have starts : v.chars ++ itemChars false items ++ ']' :: rest =
        c :: (more ++ itemChars false items ++ ']' :: rest) := by
      simp [cut]
    rw [written, itemsFrom]
    refine Reads.bind (starts ▸ moreItems_item dark inside first _) ?_
    rw [if_pos rfl]
    exact one.bind ((ih (by simpa using enough) false).finish (.pure _ _))

theorem length_le_itemChars (first : Bool) (items : List Value) :
    items.length ≤ (itemChars first items).length := by
  induction items generalizing first with
  | nil => simp
  | cons v items ih =>
    have later := ih false
    obtain ⟨c, more, cut, _⟩ := chars_head v
    simp only [itemChars, cut, List.length_append, List.length_cons]
    omega

theorem recovers_list {B : Type} {read : Reader B} {items : List Value} {bs : List B}
    (each : List.Forall₂ (Recovers read) items bs) : Recovers (list read) (.list items) bs := by
  intro rest _
  have written : (Value.list items).chars = ['['] ++ (itemChars true items ++ [']']) := rfl
  rw [written]
  refine .begin (reads_next (by decide) _) ((reads_skip '[' _).bind ?_)
  refine .get fun before same => ?_
  have short := length_le_itemChars true items
  have enough : items.length < before.rest.length + 1 := by
    simp only [same, List.length_append]
    omega
  refine (itemsFrom_items each enough true rest).bind ?_
  exact fun _ => ⟨_, rfl⟩

end Reader

namespace Shape

open Reader

inductive Fills {A : Type} (shape : Shape A) :
    (seen : List String) -> (a : A) -> List (String × Value) -> (b : A) -> Prop
  | done {seen : List String} {a : A}
      (full : ∀ f ∈ shape.fields, f.required = true -> f.key ∈ seen) : Fills shape seen a [] a
  | member {seen : List String} {a b c : A} {key : String} {f : Field A} {v : Value}
      {more : List (String × Value)} (known : shape.fields.find? (·.key = key) = some f)
      (fresh : key ∉ seen) (reads : Recovers (f.read a) v b)
      (later : Fills shape (key :: seen) b more c) : Fills shape seen a ((key, v) :: more) c

variable {A B : Type} {shape : Shape A}

theorem recovers_known {key : String} {read : Reader B} {put : A -> B -> A} {v : Value} {b : B}
    (recovers : Recovers read v b) (a : A) : Recovers ((known key read put).read a) v (put a b) :=
  fun rest ends => (recovers rest ends).finish (.pure _ rest)

theorem recovers_needed {key : String} {read : Reader B} {put : A -> B -> A} {v : Value} {b : B}
    (recovers : Recovers read v b) (a : A) :
    Recovers ((needed key read put).read a) v (put a b) := by
  have same : Recovers ((known key read put).read a) v (put a b) := recovers_known recovers a
  exact same

theorem membersFrom_members {seen : List String} {a b : A} {members : List (String × Value)}
    (fills : Fills shape seen a members b) {fuel : Nat} (enough : members.length < fuel)
    (first : Bool) (rest : List Char) :
    Reads (shape.membersFrom fuel first seen a) (memberChars first members ++ ['\x7d']) rest b := by
  induction fills generalizing fuel first with
  | @done seen a full =>
    obtain ⟨fuel, rfl⟩ := Nat.exists_eq_add_one_of_ne_zero (Nat.ne_zero_of_lt enough)
    have complete : shape.fields.find? (fun f => f.required && !seen.contains f.key) = none := by
      simpa using full
    rw [membersFrom]
    refine .begin (moreMembers_end first rest) ?_
    simp only [complete, Bool.false_eq_true, if_false]
    exact fun _ => ⟨_, rfl⟩
  | @member seen a b c key f v more known fresh reads later ih =>
    obtain ⟨fuel, rfl⟩ := Nat.exists_eq_add_one_of_ne_zero (Nat.ne_zero_of_lt enough)
    -- a part for each of the readers that follow one another
    have written : memberChars first ((key, v) :: more) ++ ['\x7d'] =
        (if first then [] else [',']) ++ (['"'] ++ ((key.toList.flatMap escaped ++ ['"']) ++
          ([':'] ++ (v.chars ++ (memberChars false more ++ ['\x7d']))))) := by
      simp [memberChars, quoted]
    have ends : Ends (memberChars false more ++ ['\x7d'] ++ rest) := by
      cases more <;> exact ends_of_mark (by simp) _
    have once : seen.contains key = false := by simpa using fresh
    rw [written, membersFrom]
    refine (moreMembers_member first _).bind ((reads_skip '"' _).bind ?_)
    refine (reads_text key _).bind ?_
    simp only [known, once, Bool.false_eq_true, if_false]
    exact (reads_colon _).bind ((reads _ ends).bind (ih (by simpa using enough) false))

theorem recovers_record {a : A} {members : List (String × Value)}
    (fills : Fills shape [] shape.start members a) :
    Recovers shape.read (.object members) a := by
  intro rest _
  have written : (Value.object members).chars =
      ['\x7b'] ++ (memberChars true members ++ ['\x7d']) := rfl
  rw [written]
  refine .begin (reads_next (by decide) _) ((reads_skip '\x7b' _).bind ?_)
  refine .get fun before same => membersFrom_members fills ?_ true rest
  have short := length_le_memberChars true members
  simp only [same, List.length_append]
  omega

end Shape

end FleetSearch.Json
