import FleetSearch.Json.Record
import FleetSearch.Json.Value

set_option autoImplicit false

/-!
Readers on what was written: a text is read back as it was, and a value that nobody asked for is
skipped as a whole.
-/

namespace FleetSearch.Json

def Reads {A : Type} (read : Reader A) (written rest : List Char) (a : A) : Prop :=
  ∀ offset, ∃ later, read { rest := written ++ rest, offset } = .ok (a, { rest, offset := later })

section

variable {A B : Type} {a : A} {b : B} {read : Reader A} {more : A -> Reader B}
  {written rest first second : List Char}

theorem Reads.bind (one : Reads read first (second ++ rest) a)
    (other : Reads (more a) second rest b) : Reads (read >>= more) (first ++ second) rest b := by
  intro offset
  obtain ⟨middle, one⟩ := one offset
  obtain ⟨later, other⟩ := other middle
  refine ⟨later, ?_⟩
  rw [List.append_assoc]
  show (read { rest := first ++ (second ++ rest), offset } >>= fun p => more p.1 p.2) = _
  rw [one]
  exact other

theorem Reads.finish (one : Reads read written rest a) (other : Reads (more a) [] rest b) :
    Reads (read >>= more) written rest b := by
  have both : Reads (read >>= more) (written ++ []) rest b := one.bind other
  rwa [List.append_nil] at both

theorem Reads.begin (one : Reads read [] (written ++ rest) a)
    (other : Reads (more a) written rest b) : Reads (read >>= more) written rest b := by
  have both : Reads (read >>= more) ([] ++ written) rest b := one.bind other
  exact both

theorem Reads.get {more : Cursor -> Reader B}
    (other : ∀ before, before.rest = written ++ rest -> Reads (more before) written rest b) :
    Reads (get >>= more) written rest b :=
  fun offset => other { rest := written ++ rest, offset } rfl offset

theorem Reads.set {after : Cursor} (there : after.rest = rest) :
    Reads (set after) written rest PUnit.unit := by
  subst there
  exact fun _ => ⟨after.offset, rfl⟩

theorem Reads.pure (a : A) (rest : List Char) : Reads (pure a) [] rest a :=
  fun offset => ⟨offset, rfl⟩

theorem reads_peek (rest : List Char) : Reads Reader.peek [] rest rest.head? :=
  fun offset => ⟨offset, rfl⟩

theorem reads_take (c : Char) (rest : List Char) : Reads Reader.take [c] rest (some c) :=
  fun _ => ⟨_, rfl⟩

theorem reads_skip (c : Char) (rest : List Char) : Reads Reader.skip [c] rest () :=
  fun _ => ⟨_, rfl⟩

theorem reads_next {c : Char} (dark : Reader.isSpace c = false) (rest : List Char) :
    Reads Reader.next [] (c :: rest) (some c) := by
  refine .get fun before there => (Reads.set ?_).finish (reads_peek _)
  rw [there]
  exact List.dropWhile_cons_of_neg (by simp [dark])

end

theorem hexNumber_hexDigit : ∀ n < 32,
    Reader.hexNumber ['0', '0', hexDigit (n / 16), hexDigit (n % 16)] = some n := by
  decide

namespace Reader

theorem textFrom_quote (fuel : Nat) (acc rest : List Char) :
    Reads (textFrom (fuel + 1) acc) ['"'] rest (String.ofList acc.reverse) :=
  fun _ => ⟨_, rfl⟩

theorem fourHex_control (c : Char) (control : c.toNat < 32) (rest : List Char) :
    Reads fourHex ['0', '0', hexDigit (c.toNat / 16), hexDigit (c.toNat % 16)] rest c.toNat := by
  have number := hexNumber_hexDigit c.toNat control
  refine .get fun before there => ?_
  simp only [there, List.cons_append, List.nil_append, List.take_succ_cons, List.take_zero, number]
  exact (Reads.set rfl).finish (.pure _ rest)

theorem unicodeEscape_control (c : Char) (control : c.toNat < 32) (rest : List Char) :
    Reads unicodeEscape ['0', '0', hexDigit (c.toNat / 16), hexDigit (c.toNat % 16)] rest c := by
  have low : ¬ 0xDC00 ≤ c.toNat := by omega
  have plain : c.toNat < 0xD800 := by omega
  refine (fourHex_control c control rest).finish ?_
  rw [if_neg (by simp [low]), if_pos (by simp [plain]), Char.ofNat_toNat]
  exact .pure c rest

theorem textFrom_escaped (c : Char) {fuel : Nat} {acc written rest : List Char} {s : String}
    (later : Reads (textFrom fuel (c :: acc)) written rest s) :
    Reads (textFrom (fuel + 1) acc) (escaped c ++ written) rest s := by
  unfold escaped
  split
  iterate 7 next => exact fun offset => later (offset + 1 + 1)
  next noQuote noSlash _ _ _ _ _ =>
    split
    next control =>
      have code : Reads (unicodeEscape >>= fun c => textFrom fuel (c :: acc)) _ rest s :=
        (unicodeEscape_control c control (written ++ rest)).bind later
      exact fun offset => code (offset + 1 + 1)
    next plain =>
      rw [textFrom]
      refine .get fun before _ => (reads_take c (written ++ rest)).bind ?_
      split
      next none => cases none
      next quote => exact absurd (Option.some.inj quote) noQuote
      next slash => exact absurd (Option.some.inj slash) noSlash
      next other _ _ same =>
        obtain rfl := Option.some.inj same
        rw [if_neg plain]
        exact later

theorem textFrom_chars (chars : List Char) {fuel : Nat} (enough : chars.length < fuel)
    (acc rest : List Char) :
    Reads (textFrom fuel acc) (chars.flatMap escaped ++ ['"']) rest
      (String.ofList (acc.reverse ++ chars)) := by
  induction chars generalizing fuel acc with
  | nil =>
    obtain ⟨fuel, rfl⟩ := Nat.exists_eq_add_one_of_ne_zero (Nat.ne_zero_of_lt enough)
    simpa using textFrom_quote fuel acc rest
  | cons c chars ih =>
    obtain ⟨fuel, rfl⟩ := Nat.exists_eq_add_one_of_ne_zero (Nat.ne_zero_of_lt enough)
    have later := ih (by simpa using enough) (c :: acc)
    rw [List.flatMap_cons, List.append_assoc]
    rw [List.reverse_cons, List.append_assoc] at later
    exact textFrom_escaped c later

theorem length_le_escaped (chars : List Char) : chars.length ≤ (chars.flatMap escaped).length := by
  induction chars with
  | nil => simp
  | cons c chars ih =>
    have some : 1 ≤ (escaped c).length := by
      unfold escaped
      split <;> try split
      all_goals simp
    rw [List.flatMap_cons, List.length_append, List.length_cons]
    omega

theorem reads_text (s : String) (rest : List Char) :
    Reads text (s.toList.flatMap escaped ++ ['"']) rest s := by
  refine .get fun before written => ?_
  have short := length_le_escaped s.toList
  have enough : s.toList.length < before.rest.length + 1 := by
    simp only [written, List.length_append]
    omega
  have read := textFrom_chars s.toList enough [] rest
  simpa using read

theorem skipTextFrom_escaped (c : Char) {fuel : Nat} {written rest : List Char}
    (later : Reads (skipTextFrom fuel) written rest ()) :
    Reads (skipTextFrom (fuel + 1)) (escaped c ++ written) rest () := by
  unfold escaped
  split
  iterate 7 next => exact fun offset => later (offset + 1 + 1)
  next noQuote noSlash _ _ _ _ _ =>
    split
    next control =>
      have code : Reads (fourHex >>= fun _ => skipTextFrom fuel) _ rest () :=
        (fourHex_control c control (written ++ rest)).bind later
      exact fun offset => code (offset + 1 + 1)
    next plain =>
      rw [skipTextFrom]
      refine .get fun before _ => (reads_take c (written ++ rest)).bind ?_
      split
      next none => cases none
      next quote => exact absurd (Option.some.inj quote) noQuote
      next slash => exact absurd (Option.some.inj slash) noSlash
      next other _ _ same =>
        obtain rfl := Option.some.inj same
        rw [if_neg plain]
        exact later

theorem skipTextFrom_chars (chars : List Char) {fuel : Nat} (enough : chars.length < fuel)
    (rest : List Char) : Reads (skipTextFrom fuel) (chars.flatMap escaped ++ ['"']) rest () := by
  induction chars generalizing fuel with
  | nil =>
    obtain ⟨fuel, rfl⟩ := Nat.exists_eq_add_one_of_ne_zero (Nat.ne_zero_of_lt enough)
    exact fun _ => ⟨_, rfl⟩
  | cons c chars ih =>
    obtain ⟨fuel, rfl⟩ := Nat.exists_eq_add_one_of_ne_zero (Nat.ne_zero_of_lt enough)
    rw [List.flatMap_cons, List.append_assoc]
    exact skipTextFrom_escaped c (ih (by simpa using enough))

theorem reads_skipText (s : String) (rest : List Char) :
    Reads skipText (s.toList.flatMap escaped ++ ['"']) rest () := by
  refine .get fun before written => skipTextFrom_chars s.toList ?_ rest
  have short := length_le_escaped s.toList
  simp only [written, List.length_append]
  omega

def Ends (rest : List Char) : Prop :=
  ∀ c ∈ rest.head?, c = ',' ∨ c = ']' ∨ c = '\x7d'

theorem Ends.isDigit {rest : List Char} (ends : Ends rest) : isDigit rest.head? = false := by
  cases rest with
  | nil => rfl
  | cons c rest =>
    rcases ends c rfl with rfl | rfl | rfl <;> rfl

theorem reads_digits {ds rest : List Char} (each : ∀ c ∈ ds, c.isDigit = true) (ends : Ends rest) :
    Reads digits ds rest ds := by
  have stops := ends.isDigit
  have taken : (ds ++ rest).takeWhile Char.isDigit = ds := by
    rw [List.takeWhile_append_of_pos each]
    cases rest with
    | nil => simp
    | cons c rest => simp [show c.isDigit = false from stops]
  have dropped : (ds ++ rest).dropWhile Char.isDigit = rest := by
    rw [List.dropWhile_append_of_pos each]
    cases rest with
    | nil => simp
    | cons c rest => simp [show c.isDigit = false from stops]
  refine .get fun before there => ?_
  simp only [there, taken, dropped]
  exact (Reads.set rfl).finish (.pure ds rest)

theorem toDigits_head (n : Nat) (some : 0 < n) (ds : List Char) : Nat.toDigits 10 n ≠ '0' :: ds := by
  induction n using Nat.strongRecOn generalizing ds with
  | ind n ih =>
    rw [Nat.toDigits_eq_if (by decide)]
    split
    next small =>
      have each : ∀ n < 10, 0 < n -> n.digitChar ≠ '0' := by decide
      intro same
      exact each n small some (List.cons.inj same).1
    next large =>
      obtain ⟨c, front, cut⟩ := List.exists_cons_of_ne_nil (Nat.toDigits_ne_nil (n := n / 10) (b := 10))
      intro same
      rw [cut, List.cons_append] at same
      obtain ⟨rfl, _⟩ := List.cons.inj same
      exact ih (n / 10) (by omega) (by omega) front cut

theorem toDigits_zero {n : Nat} {ds : List Char} (cut : Nat.toDigits 10 n = '0' :: ds) :
    ds = [] := by
  by_cases some : 0 < n
  next => exact absurd cut (toDigits_head n some ds)
  next =>
    obtain rfl : n = 0 := by omega
    exact (List.cons.inj cut).2.symm

theorem toString_digits (n : Nat) : (toString n).toList = Nat.toDigits 10 n := by
  rw [Nat.toString_eq_ofList_toDigits, String.toList_ofList]

theorem toDigits_isDigit (n : Nat) : ∀ c ∈ Nat.toDigits 10 n, c.isDigit = true :=
  fun _ => Nat.isDigit_of_mem_toDigits (by decide) (by decide)

theorem count_digits (n : Nat) :
    ∃ c ds, Nat.toDigits 10 n = c :: ds ∧ c.isDigit = true ∧ (∀ d ∈ ds, d.isDigit = true) ∧
      ∀ rest, Ends rest -> (decide (c = '0') && isDigit (ds ++ rest).head?) = false := by
  have each := toDigits_isDigit n
  obtain ⟨c, ds, cut⟩ := List.exists_cons_of_ne_nil (Nat.toDigits_ne_nil (n := n) (b := 10))
  rw [cut] at each
  obtain ⟨first, others⟩ := List.forall_mem_cons.mp each
  refine ⟨c, ds, cut, first, others, fun rest ends => ?_⟩
  by_cases zero : c = '0'
  next =>
    subst zero
    rw [toDigits_zero cut, List.nil_append, ends.isDigit, Bool.and_false]
  next => simp [zero]

theorem skipNumber_count (n : Nat) {rest : List Char} (ends : Ends rest) :
    Reads skipNumber (toString n).toList rest () := by
  obtain ⟨c, ds, cut, first, others, alone⟩ := count_digits n
  rw [toString_digits, cut]
  show Reads skipNumber ([c] ++ ds) rest ()
  unfold skipNumber
  refine .get fun before _ => (reads_take c _).bind ?_
  simp only [first, Bool.not_true, Bool.false_eq_true, if_false]
  refine .begin (reads_peek (ds ++ rest)) ?_
  rw [alone rest ends, if_neg Bool.false_ne_true]
  refine (reads_digits others ends).finish (.begin (reads_peek rest) ?_)
  split
  next point => rcases ends _ point with same | same | same <;> cases same
  next mark => rcases ends _ mark with same | same | same <;> cases same
  next mark => rcases ends _ mark with same | same | same <;> cases same
  next => exact .pure () rest

-- A reader makes `a` of the value, wherever that is written.
def Recovers {A : Type} (read : Reader A) (v : Value) (a : A) : Prop :=
  ∀ rest, Ends rest -> Reads read v.chars rest a

theorem Recovers.whole {A : Type} {read : Reader A} {v : Value} {a : A}
    (recovers : Recovers read v a) : read.whole v.render = .ok a := by
  obtain ⟨later, done⟩ := recovers [] nofun 0
  rw [List.append_nil] at done
  have ended : read.ended { rest := v.chars, offset := 0 } =
      .ok (a, { rest := [], offset := later }) := by
    show (read { rest := v.chars, offset := 0 } >>= fun p => _) = _
    rw [done]
    rfl
  rw [Reader.whole, Value.render, String.toList_ofList, StateT.run', ended]
  rfl

theorem chars_head (v : Value) :
    ∃ c more, v.chars = c :: more ∧ isSpace c = false ∧ c ≠ ']' := by
  cases v with
  | null => exact ⟨'n', "ull".toList, rfl, by decide, by decide⟩
  | bool b =>
    cases b
    · exact ⟨'f', "alse".toList, rfl, by decide, by decide⟩
    · exact ⟨'t', "rue".toList, rfl, by decide, by decide⟩
  | count n =>
    obtain ⟨c, ds, cut⟩ := List.exists_cons_of_ne_nil (Nat.toDigits_ne_nil (n := n) (b := 10))
    have digit := toDigits_isDigit n c (by simp [cut])
    refine ⟨c, ds, by rw [Value.chars, toString_digits, cut], ?_, ?_⟩
    · rw [Bool.eq_false_iff]
      intro space
      simp only [isSpace, Bool.or_eq_true, decide_eq_true_eq] at space
      rcases space with ((rfl | rfl) | rfl) | rfl <;> cases digit
    · rintro rfl
      cases digit
  | text s => exact ⟨'"', _, rfl, by decide, by decide⟩
  | list items => exact ⟨'[', _, rfl, by decide, by decide⟩
  | object members => exact ⟨'\x7b', _, rfl, by decide, by decide⟩

theorem ends_of_mark {c : Char} (mark : c = ',' ∨ c = ']' ∨ c = '\x7d') (rest : List Char) :
    Ends (c :: rest) := by
  intro d same
  cases same
  exact mark

theorem skipValueFrom_count (n fuel : Nat) {rest : List Char} (ends : Ends rest) :
    Reads (skipValueFrom (fuel + 1)) (Value.count n).chars rest () := by
  obtain ⟨c, ds, cut, dark, _⟩ := chars_head (.count n)
  have number := skipNumber_count n ends
  rw [Value.chars, toString_digits] at cut
  have digit := toDigits_isDigit n c (by simp [cut])
  rw [toString_digits, cut] at number
  rw [Value.chars, toString_digits, cut, skipValueFrom]
  refine .begin (reads_next dark (ds ++ rest)) ?_
  split
  next same => cases same
  iterate 7 next same =>
    cases same
    cases digit
  next same =>
    cases same
    rwa [if_pos digit]

-- a value, or what is left of a list or an object, needs no more fuel than it has characters
mutual

theorem skipValueFrom_chars : (v : Value) -> {fuel : Nat} -> v.chars.length ≤ fuel ->
    {rest : List Char} -> Ends rest -> Reads (skipValueFrom fuel) v.chars rest ()
  | v, 0, enough, _, _ => by
    obtain ⟨c, more, cut, _⟩ := chars_head v
    simp [cut] at enough
  | .null, _ + 1, _, _, _ => fun _ => ⟨_, rfl⟩
  | .bool true, _ + 1, _, _, _ => fun _ => ⟨_, rfl⟩
  | .bool false, _ + 1, _, _, _ => fun _ => ⟨_, rfl⟩
  | .count n, fuel + 1, _, _, ends => skipValueFrom_count n fuel ends
  | .text s, _ + 1, _, rest, _ => fun offset => reads_skipText s rest (offset + 1)
  | .list [], _ + 1, _, _, _ => fun _ => ⟨_, rfl⟩
  | .list (v :: more), fuel + 1, enough, rest, _ => by
    have items : Reads (skipItems fuel) (itemChars true (v :: more) ++ [']']) rest () :=
      skipItems_chars (v :: more) (by simp) (by simpa [Value.chars] using enough)
    obtain ⟨c, others, cut, dark, inside⟩ := chars_head v
    have written : (Value.list (v :: more)).chars =
        ['['] ++ (itemChars true (v :: more) ++ [']']) := rfl
    rw [written, skipValueFrom]
    refine .begin (reads_next (by decide) _) ((reads_skip '[' _).bind ?_)
    have starts : itemChars true (v :: more) ++ [']'] =
        c :: (others ++ itemChars false more ++ [']']) := by simp [itemChars, cut]
    rw [starts] at items ⊢
    refine .begin (reads_next dark _) ?_
    split
    next same => cases same
    next same => exact absurd (Option.some.inj same) inside
    next => exact items
  | .object [], _ + 1, _, _, _ => fun _ => ⟨_, rfl⟩
  | .object (m :: more), fuel + 1, enough, rest, _ => by
    have members : Reads (skipMembers fuel) (memberChars true (m :: more) ++ ['\x7d']) rest () :=
      skipMembers_chars (m :: more) (by simp) (by simpa [Value.chars] using enough)
    have written : (Value.object (m :: more)).chars =
        ['\x7b'] ++ (memberChars true (m :: more) ++ ['\x7d']) := rfl
    rw [written, skipValueFrom]
    refine .begin (reads_next (by decide) _) ((reads_skip '\x7b' _).bind ?_)
    exact .begin (reads_next (by decide) _) members

theorem skipItems_chars : (items : List Value) -> items ≠ [] -> {fuel : Nat} ->
    (itemChars true items ++ [']']).length ≤ fuel -> {rest : List Char} ->
    Reads (skipItems fuel) (itemChars true items ++ [']']) rest ()
  | [], given, _, _, _ => absurd rfl given
  | v :: more, _, 0, enough, _ => by simp at enough
  | [v], _, fuel + 1, enough, rest => by
    have written : itemChars true [v] ++ [']'] = v.chars ++ [']'] := by simp [itemChars]
    rw [written] at enough ⊢
    rw [skipItems]
    refine (skipValueFrom_chars v (by simp at enough; omega) (ends_of_mark (by simp) rest)).bind ?_
    exact fun _ => ⟨_, rfl⟩
  | v :: w :: more, _, fuel + 1, enough, rest => by
    have written : itemChars true (v :: w :: more) ++ [']'] =
        v.chars ++ ([','] ++ (itemChars true (w :: more) ++ [']'])) := by simp [itemChars]
    rw [written] at enough ⊢
    rw [skipItems]
    refine (skipValueFrom_chars v (by simp at enough; omega) (ends_of_mark (by simp) _)).bind ?_
    refine .begin (reads_next (by decide) _) ?_
    refine (reads_skip ',' _).bind (skipItems_chars (w :: more) (by simp) ?_)
    simp at enough ⊢
    omega

theorem skipMembers_chars : (members : List (String × Value)) -> members ≠ [] -> {fuel : Nat} ->
    (memberChars true members ++ ['\x7d']).length ≤ fuel -> {rest : List Char} ->
    Reads (skipMembers fuel) (memberChars true members ++ ['\x7d']) rest ()
  | [], given, _, _, _ => absurd rfl given
  | m :: more, _, 0, enough, _ => by simp at enough
  | [(key, v)], _, fuel + 1, enough, rest => by
    have written : memberChars true [(key, v)] ++ ['\x7d'] =
        ['"'] ++ ((key.toList.flatMap escaped ++ ['"']) ++ ([':'] ++ (v.chars ++ ['\x7d']))) := by
      simp [memberChars, quoted]
    rw [written] at enough ⊢
    rw [skipMembers]
    refine .begin (reads_next (by decide) _) ((reads_skip '"' _).bind ?_)
    refine (reads_skipText key _).bind (.begin (reads_next (by decide) _) ?_)
    refine (reads_skip ':' _).bind ?_
    refine (skipValueFrom_chars v (by simp at enough; omega) (ends_of_mark (by simp) rest)).bind ?_
    exact fun _ => ⟨_, rfl⟩
  | (key, v) :: m :: more, _, fuel + 1, enough, rest => by
    have written : memberChars true ((key, v) :: m :: more) ++ ['\x7d'] =
        ['"'] ++ ((key.toList.flatMap escaped ++ ['"']) ++ ([':'] ++ (v.chars ++
          ([','] ++ (memberChars true (m :: more) ++ ['\x7d']))))) := by
      simp [memberChars, quoted]
    rw [written] at enough ⊢
    rw [skipMembers]
    refine .begin (reads_next (by decide) _) ((reads_skip '"' _).bind ?_)
    refine (reads_skipText key _).bind (.begin (reads_next (by decide) _) ?_)
    refine (reads_skip ':' _).bind ?_
    refine (skipValueFrom_chars v (by simp at enough; omega) (ends_of_mark (by simp) _)).bind ?_
    refine .begin (reads_next (by decide) _) ?_
    refine (reads_skip ',' _).bind (skipMembers_chars (m :: more) (by simp) ?_)
    simp at enough ⊢
    omega

end

theorem reads_skipValue (v : Value) {rest : List Char} (ends : Ends rest) :
    Reads skipValue v.chars rest () := by
  refine .get fun before written => skipValueFrom_chars v ?_ ends
  simp only [written, List.length_append]
  omega

def keysFrom : (fuel : Nat) -> (first : Bool) -> Reader (List String)
  | 0, _ => fail .endInObject
  | fuel + 1, first => do
    if <- Shape.moreMembers first then
      skip
      let key <- text
      Shape.colon
      skipValue
      return key :: (<- keysFrom fuel false)
    else
      skip
      return []

def keys : Reader (List String) :=
  value fun c => do
    if c = '\x7b' then
      skip
      keysFrom ((<- get).rest.length + 1) true
    else wrongType "an object"

theorem moreMembers_member (first : Bool) (rest : List Char) :
    Reads (Shape.moreMembers first) (if first then [] else [',']) ('"' :: rest) true := by
  cases first <;> exact fun _ => ⟨_, rfl⟩

theorem moreMembers_end (first : Bool) (rest : List Char) :
    Reads (Shape.moreMembers first) [] ('\x7d' :: rest) false := by
  cases first <;> exact fun _ => ⟨_, rfl⟩

theorem reads_colon (rest : List Char) : Reads Shape.colon [':'] rest () :=
  fun _ => ⟨_, rfl⟩

theorem keysFrom_members (members : List (String × Value)) {fuel : Nat}
    (enough : members.length < fuel) (first : Bool) (rest : List Char) :
    Reads (keysFrom fuel first) (memberChars first members ++ ['\x7d']) rest
      (members.map Prod.fst) := by
  induction members generalizing fuel first with
  | nil =>
    obtain ⟨fuel, rfl⟩ := Nat.exists_eq_add_one_of_ne_zero (Nat.ne_zero_of_lt enough)
    rw [keysFrom]
    exact .begin (moreMembers_end first rest) fun _ => ⟨_, rfl⟩
  | cons m more ih =>
    obtain ⟨fuel, rfl⟩ := Nat.exists_eq_add_one_of_ne_zero (Nat.ne_zero_of_lt enough)
    obtain ⟨key, v⟩ := m
    have written : memberChars first ((key, v) :: more) ++ ['\x7d'] =
        (if first then [] else [',']) ++ (['"'] ++ ((key.toList.flatMap escaped ++ ['"']) ++
          ([':'] ++ (v.chars ++ (memberChars false more ++ ['\x7d']))))) := by
      simp [memberChars, quoted]
    have ends : Ends (memberChars false more ++ ['\x7d'] ++ rest) := by
      cases more with
      | nil => exact ends_of_mark (by simp) rest
      | cons next more => exact ends_of_mark (by simp) _
    have room : more.length < fuel := by simpa using enough
    have later := ih room false
    rw [written, keysFrom]
    refine (moreMembers_member first _).bind ((reads_skip '"' _).bind ?_)
    refine (reads_text key _).bind ((reads_colon _).bind ?_)
    exact (reads_skipValue v ends).bind (later.finish (.pure _ rest))

theorem length_le_memberChars (first : Bool) (members : List (String × Value)) :
    members.length ≤ (memberChars first members).length := by
  induction members generalizing first with
  | nil => simp
  | cons m more ih =>
    have later := ih false
    simp only [memberChars, quoted, List.length_append, List.length_cons]
    omega

theorem recovers_keys (members : List (String × Value)) :
    Recovers keys (.object members) (members.map Prod.fst) := by
  intro rest _
  have written : (Value.object members).chars =
      ['\x7b'] ++ (memberChars true members ++ ['\x7d']) := rfl
  rw [written]
  refine .begin (reads_next (by decide) _) ((reads_skip '\x7b' _).bind ?_)
  refine .get fun before same => keysFrom_members members ?_ true rest
  have short := length_le_memberChars true members
  simp only [same, List.length_append]
  omega

theorem keys_render (members : List (String × Value)) :
    keys.whole (Value.object members).render = .ok (members.map Prod.fst) :=
  (recovers_keys members).whole

end Reader

end FleetSearch.Json
