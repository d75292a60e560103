import FleetSearch.Pattern.Basic
import FleetSearch.Proofs.Pattern.Threads

set_option autoImplicit false

namespace FleetSearch.Pattern

open FleetSearch.Unicode

namespace Read

def partMarks : List Char := ['|', ')', '[', '?', '*', '+', '\x7b', '(']

theorem bind_read {A B : Type} {read : Read A} {more : A -> Read B} {cur next : Cursor} {a : A}
    (first : read cur = .ok (a, next)) : (read >>= more) cur = more a next := by
  show Except.bind (read cur) _ = _
  rw [first]
  rfl

variable {fuel : Nat} {before : List Tree} {c : Char} {rest : List Char} {p : Place}
  {seen : List (String × Span)} {t : Tree} {next : Cursor}

theorem parts_single (apart : c ∉ partMarks)
    (read : single c { rest := c :: rest, place := p, names := seen } = .ok (t, next)) :
    parts (fuel + 1) before { rest := c :: rest, place := p, names := seen } =
      parts fuel (t :: before) next := by
  have other : ∀ d ∈ partMarks, c ≠ d := fun d marked same => apart (same ▸ marked)
  -- a pattern that is not verbose takes blanks for what they are
  have blanks : skipBlanks { rest := c :: rest, place := p, names := seen } =
    .ok ((), { rest := c :: rest, place := p, names := seen }) := rfl
  have peeked : peek? { rest := c :: rest, place := p, names := seen } =
    .ok (some c, { rest := c :: rest, place := p, names := seen }) := rfl
  rw [parts, bind_read blanks, bind_read peeked]
  have after : (single c >>= fun t => parts fuel (t :: before)) _ = _ := bind_read read
  refine Eq.trans (congrFun ?_ _) after
  split
  next same => cases same
  iterate 8 next same => exact absurd (Option.some.inj same) (other _ (by decide))
  next same =>
    obtain rfl := Option.some.inj same
    rfl

variable (fuel before rest p seen)

theorem single_plain (free : isMeta c = false) : ∃ l q, l.char = c ∧
    single c { rest := c :: rest, place := p, names := seen } =
      .ok (.letter l, { rest, place := q, names := seen }) := by
  have other : ∀ d, isMeta d = true -> c ≠ d := fun d marked same => by
    rw [same, marked] at free
    cases free
  refine ⟨{ span := { start := p, stop := p.next c }, char := c }, p.next c, rfl, ?_⟩
  unfold single
  split
  all_goals first | exact absurd rfl (other _ (by decide)) | rfl

theorem single_marked (marked : isMeta c = true) : ∃ l q, l.char = c ∧
    single '\\' { rest := '\\' :: c :: rest, place := p, names := seen } =
      .ok (.letter l, { rest, place := q, names := seen }) := by
  refine ⟨{ span := { start := p, stop := (p.next '\\').next c }, char := c },
    (p.next '\\').next c, rfl, ?_⟩
  simp only [isMeta, List.contains_iff_mem, List.mem_cons, List.not_mem_nil, or_false] at marked
  rcases marked with rfl | rfl | rfl | rfl | rfl | rfl | rfl | rfl | rfl | rfl | rfl | rfl | rfl |
    rfl | rfl | rfl | rfl | rfl <;> rfl

theorem single_mark {a : Assertion} (mark : c = '^' ∧ a = .lineStart ∨ c = '$' ∧ a = .lineEnd) :
    ∃ span q, single c { rest := c :: rest, place := p, names := seen } =
      .ok (.assertion span a, { rest, place := q, names := seen }) := by
  rcases mark with ⟨rfl, rfl⟩ | ⟨rfl, rfl⟩ <;> exact ⟨_, _, rfl⟩

theorem parts_escaped (name : List Char) : ∃ (letters : List Letter) (q : Place),
    letters.map Letter.char = name ∧
      parts (fuel + name.length) before
          { rest := escaped name ++ rest, place := p, names := seen } =
        parts fuel ((letters.map .letter).reverse ++ before)
          { rest, place := q, names := seen } := by
  -- each character is one letter, read by itself or after a backslash
  induction name generalizing before p with
  | nil => exact ⟨[], p, rfl, rfl⟩
  | cons c name ih =>
    have first : ∃ l q, l.char = c ∧
        parts (fuel + name.length + 1) before
            { rest := escaped (c :: name) ++ rest, place := p, names := seen } =
          parts (fuel + name.length) (.letter l :: before)
            { rest := escaped name ++ rest, place := q, names := seen } := by
      rw [escaped, List.flatMap_cons, ← escaped, List.append_assoc]
      cases marked : isMeta c with
      | true =>
        obtain ⟨l, q, same, read⟩ := single_marked (escaped name ++ rest) p seen marked
        exact ⟨l, q, same, parts_single (by decide) read⟩
      | false =>
        obtain ⟨l, q, same, read⟩ := single_plain (escaped name ++ rest) p seen marked
        refine ⟨l, q, same, parts_single (fun among => ?_) read⟩
        have all : partMarks.all isMeta = true := by decide
        simp [List.all_eq_true.mp all c among] at marked
    obtain ⟨l, q, same, first⟩ := first
    obtain ⟨letters, q, chars, others⟩ := ih (.letter l :: before) q
    exact ⟨l :: letters, q, by simp [same, chars], first.trans (by simpa using others)⟩

theorem parts_end (ends : rest.head? = none ∨ rest.head? = some '|') :
    parts fuel before { rest, place := p, names := seen } =
      .ok (before, { rest, place := p, names := seen }) := by
  cases fuel with
  | zero => rfl
  | succ fuel =>
    cases rest with
    | nil => rfl
    | cons c rest =>
      obtain rfl : c = '|' := by simpa using ends
      rfl

end Read

def IsNameTree (name : List Char) (t : Tree) : Prop :=
  ∃ (span first last : Span) (letters : List Letter), letters.map Letter.char = name ∧
    t = .concat span
      (.assertion first .lineStart :: (letters.map .letter ++ [.assertion last .lineEnd]))

namespace Read

variable (fuel : Nat) (before : List Tree) (name rest : List Char) (p : Place)
  (seen : List (String × Span))

theorem parts_name (enough : name.length + 2 ≤ fuel)
    (ends : rest.head? = none ∨ rest.head? = some '|') :
    ∃ found q, (∀ span, IsNameTree name (Tree.ofParts span found.reverse)) ∧
      parts fuel [] { rest := exactly name ++ rest, place := p, names := seen } =
        .ok (found, { rest, place := q, names := seen }) := by
  obtain ⟨more, rfl⟩ := Nat.exists_eq_add_of_le' enough
  obtain ⟨first, q, start⟩ := single_mark (escaped name ++ '$' :: rest) p seen (.inl ⟨rfl, rfl⟩)
  obtain ⟨letters, q', chars, middle⟩ := parts_escaped (more + 1) [.assertion first .lineStart]
    ('$' :: rest) q seen name
  obtain ⟨last, q'', stop⟩ := single_mark rest q' seen (.inr ⟨rfl, rfl⟩)
  refine ⟨.assertion last .lineEnd :: ((letters.map .letter).reverse ++
    [.assertion first .lineStart]), q'', fun span => ?_, ?_⟩
  · refine ⟨span, first, last, letters, chars, ?_⟩
    cases letters <;> simp [Tree.ofParts]
  · calc parts (more + (name.length + 2)) []
          { rest := exactly name ++ rest, place := p, names := seen }
        = parts (more + 1 + name.length + 1) []
            { rest := '^' :: (escaped name ++ '$' :: rest), place := p, names := seen } := by
          rw [exactly, List.append_assoc, Nat.add_right_comm more 1]
          rfl
      _ = _ := parts_single (by decide) start
      _ = _ := middle
      _ = _ := parts_single (by decide) stop
      _ = _ := parts_end _ _ rest q'' seen ends

theorem length_exactly (name : List Char) : name.length + 2 ≤ (exactly name).length := by
  have each : name.length ≤ (escaped name).length := by
    induction name with
    | nil => exact Nat.le_refl _
    | cons c rest ih =>
      rw [escaped, List.flatMap_cons, ← escaped, List.length_append]
      split <;> simp <;> omega
  simp only [exactly, List.length_append, List.length_cons, List.length_nil]
  omega

theorem oneOf_cons (name other : List Char) (more : List (List Char)) :
    oneOf (name :: other :: more) = exactly name ++ '|' :: oneOf (other :: more) := by
  rw [oneOf, List.map_cons, List.map_cons, List.intercalate_cons_cons, List.append_assoc]
  rfl

theorem branches_oneOf (names : List (List Char)) (listed : names ≠ []) (first start : Place)
    (enough : (oneOf names).length < fuel) :
    ∃ trees span q, List.Forall₂ IsNameTree names trees ∧
      branches fuel first start before { rest := oneOf names, place := p, names := seen } =
        .ok (Tree.ofBranches span (before.reverse ++ trees),
          { rest := [], place := q, names := seen }) := by
  -- what is left of the fuel is always more than what is left of the text
  induction names generalizing fuel before start p with
  | nil => exact absurd rfl listed
  | cons name more ih =>
    have own := length_exactly name
    obtain ⟨fuel, rfl⟩ := Nat.exists_eq_add_of_le' (show 1 ≤ fuel by omega)
    cases more with
    | nil =>
      have last : oneOf [name] = exactly name ++ [] := by
        rw [oneOf, List.map_singleton, List.intercalate_singleton, List.append_nil]
      rw [last] at enough ⊢
      rw [List.length_append] at enough
      obtain ⟨found, q, tree, read⟩ := parts_name fuel name [] p seen (by omega) (.inl rfl)
      refine ⟨[_], { start := first, stop := q }, q, .cons (tree { start, stop := q }) .nil, ?_⟩
      rw [branches]
      refine (bind_read read).trans ?_
      rw [← List.reverse_cons]
      rfl
    | cons other more =>
      rw [oneOf_cons, List.length_append, List.length_cons] at enough
      obtain ⟨found, q, tree, read⟩ := parts_name fuel name ('|' :: oneOf (other :: more)) p seen
        (by omega) (.inr rfl)
      obtain ⟨trees, span, q', each, others⟩ := ih fuel
        (Tree.ofParts { start, stop := q } found.reverse :: before) (q.next '|') (by simp)
        (q.next '|') (by omega)
      refine ⟨_, span, q', .cons (tree { start, stop := q }) each, ?_⟩
      rw [oneOf_cons, branches]
      refine (bind_read read).trans ?_
      rw [List.reverse_cons, List.append_assoc] at others
      exact others

theorem whole_oneOf (names : List (List Char)) (listed : names ≠ []) :
    ∃ trees span after, List.Forall₂ IsNameTree names trees ∧
      whole { rest := oneOf names } = .ok (Tree.ofBranches span trees, after) := by
  obtain ⟨trees, span, q, each, read⟩ := branches_oneOf
    (2 * ((oneOf names).length + 1) + 2) [] {} [] names listed {} {} (by omega)
  refine ⟨trees, span, { rest := [], place := q }, each, ?_⟩
  rw [whole, bind_read (by rfl)]
  exact (bind_read read).trans rfl

end Read

theorem checkTrees_ok {depth : Nat} {trees : List Tree}
    (each : ∀ t ∈ trees, t.checkDepth depth = .ok ()) : checkTrees depth trees = .ok () := by
  induction trees with
  | nil => rfl
  | cons t rest ih =>
    obtain ⟨first, others⟩ := List.forall_mem_cons.mp each
    rw [checkTrees, first]
    exact ih others

theorem IsNameTree.checkDepth {name : List Char} {t : Tree} (tree : IsNameTree name t) {depth : Nat}
    (shallow : depth < deepest) : t.checkDepth depth = .ok () := by
  obtain ⟨span, first, last, letters, _, rfl⟩ := tree
  rw [Tree.checkDepth, within, if_pos shallow]
  refine checkTrees_ok fun t member => ?_
  simp only [List.mem_cons, List.mem_append, List.mem_map, List.not_mem_nil, or_false] at member
  rcases member with rfl | ⟨l, _, rfl⟩ | rfl <;> rfl

def exactlyExpr (name : List Char) : Expr :=
  .seq (.look .textStart) (name.foldr (fun c e => .seq (.set (.ofChar c)) e) (.look .textEnd))

def oneOfExpr : List (List Char) -> Expr
  | [] => .set .empty
  | [name] => exactlyExpr name
  | name :: rest => .alt (exactlyExpr name) (oneOfExpr rest)

namespace Sense

variable {f g h : Flags} {t : Tree} {rest : List Tree} {e other : Expr}

theorem sequence_cons (more : rest ≠ []) (first : tree f t = .ok (e, g))
    (second : sequence g rest = .ok (other, h)) :
    sequence f (t :: rest) = .ok (.seq e other, h) := by
  rw [sequence, first]
  · show (sequence g rest).bind _ = _
    rw [second]
    rfl
  · exact more

theorem alternatives_cons (more : rest ≠ []) (left : tree f t = .ok (e, g))
    (right : alternatives g rest = .ok (other, h)) :
    alternatives f (t :: rest) = .ok (.alt e other, h) := by
  rw [alternatives, left]
  · show (alternatives g rest).bind _ = _
    rw [right]
    rfl
  · exact more

theorem sequence_letters (letters : List Letter) (last : Span) :
    sequence {} (letters.map .letter ++ [.assertion last .lineEnd]) =
      .ok ((letters.map Letter.char).foldr (fun c e => .seq (.set (.ofChar c)) e) (.look .textEnd),
        {}) := by
  induction letters with
  | nil => rfl
  | cons l rest ih => exact sequence_cons (t := .letter l) (by simp) rfl ih

end Sense

theorem IsNameTree.meaning {name : List Char} {t : Tree} (tree : IsNameTree name t) :
    Sense.tree {} t = .ok (exactlyExpr name, {}) := by
  obtain ⟨span, first, last, letters, rfl, rfl⟩ := tree
  rw [Sense.tree]
  exact Sense.sequence_cons (by simp) rfl (Sense.sequence_letters letters last)

theorem Sense.alternatives_names {names : List (List Char)} {trees : List Tree}
    (each : List.Forall₂ IsNameTree names trees) :
    alternatives {} trees = .ok (oneOfExpr names, {}) := by
  induction each with
  | nil => rfl
  | cons tree each ih =>
    cases each with
    | nil => exact tree.meaning
    | cons other each => exact alternatives_cons (by simp) tree.meaning ih

theorem ofBranches_names {names : List (List Char)} {trees : List Tree} (listed : names ≠ [])
    (each : List.Forall₂ IsNameTree names trees) (span : Span) :
    (Tree.ofBranches span trees).checkDepth 0 = .ok () ∧
      Sense.tree {} (Tree.ofBranches span trees) = .ok (oneOfExpr names, {}) := by
  have shallow : ∀ t ∈ trees, ∀ depth < deepest, t.checkDepth depth = .ok () := by
    clear listed
    induction each with
    | nil => simp
    | cons tree _ ih => exact List.forall_mem_cons.mpr ⟨fun _ within => tree.checkDepth within, ih⟩
  have meaning := Sense.alternatives_names each
  match trees with
  | [] =>
    cases each
    exact absurd rfl listed
  | [t] => exact ⟨shallow t (by simp) 0 (by decide), meaning⟩
  | t :: u :: rest =>
    refine ⟨?_, ?_⟩
    · rw [Tree.ofBranches, Tree.checkDepth, within, if_pos (by decide)]
      · exact checkTrees_ok fun t member => shallow t member 1 (by decide)
      · nofun
    · rw [Tree.ofBranches, Sense.tree]
      · exact meaning
      · nofun

theorem exprOf_oneOf (names : List (List Char)) (listed : names ≠ []) :
    exprOf (String.ofList (oneOf names)) false = .ok (oneOfExpr names) := by
  obtain ⟨trees, span, after, each, read⟩ := Read.whole_oneOf names listed
  obtain ⟨depth, meaning⟩ := ofBranches_names listed each span
  have tree : Tree.read (String.ofList (oneOf names)) = .ok (Tree.ofBranches span trees) := by
    rw [Tree.read, String.toList_ofList, StateT.run, read]
    show (Tree.checkDepth _ _).bind _ = _
    rw [depth]
    rfl
  rw [exprOf, tree]
  show (Sense.tree _ _).bind _ = _
  rw [meaning]
  rfl

theorem contains_ofChar (c d : Char) : (CharSet.ofChar c).contains d = (d == c) := by
  rw [Bool.eq_iff_iff, beq_iff_eq, ← Char.toNat_inj]
  simp only [CharSet.contains, CharSet.holds, CharSet.ofChar, CharSet.ofRange, CharSet.holdsIn]
  split <;> simp <;> omega

theorem accepts_letters (before : Option Char) (name text : List Char) :
    Thread.accepts before
        [name.foldr (fun c e => .seq (.set (.ofChar c)) e) (.look .textEnd)] text =
      (text == name) := by
  induction name generalizing before text with
  | nil =>
    rw [List.foldr_nil, Thread.accepts_textEnd]
    cases text <;> rfl
  | cons c rest ih =>
    rw [List.foldr_cons, Thread.accepts_seq_set]
    cases text with
    | nil => rfl
    | cons d more =>
      simp only [contains_ofChar, ih]
      rfl

theorem accepts_oneOfExpr (before : Option Char) (names : List (List Char)) (text : List Char) :
    Thread.accepts before [oneOfExpr names] text = (before.isNone && names.contains text) := by
  have one (name : List Char) :
      Thread.accepts before [exactlyExpr name] text = (before.isNone && (text == name)) := by
    rw [exactlyExpr, Thread.accepts_textStart, accepts_letters]
  induction names with
  | nil => cases text <;> simp [oneOfExpr, Thread.accepts, Thread.isNullable, Thread.step,
      Expr.isNullable, Expr.step, CharSet.contains, CharSet.holds, CharSet.empty, CharSet.holdsIn]
  | cons name more ih =>
    cases more with
    | nil =>
      rw [oneOfExpr, one, List.contains_cons]
      simp
    | cons other more =>
      have cut : (name :: other :: more).contains text =
          (text == name || (other :: more).contains text) :=
        List.contains_cons
      have all : oneOfExpr (name :: other :: more) =
          .alt (exactlyExpr name) (oneOfExpr (other :: more)) :=
        rfl
      rw [all, Thread.accepts_alt, one, ih, cut, Bool.and_or_distrib_left]

theorem matchesFrom_oneOfExpr (names : List (List Char)) (text : List Char) (c : Char) :
    (oneOfExpr names).matchesFrom (some c) text = false := by
  induction text generalizing c with
  | nil => simp [Expr.matchesFrom, accepts_oneOfExpr]
  | cons d rest ih => simp [Expr.matchesFrom, accepts_oneOfExpr, ih]

theorem occursIn_oneOfExpr (names : List (List Char)) (text : List Char) :
    (oneOfExpr names).occursIn text = names.contains text := by
  rw [occursIn_eq]
  cases text <;> simp [Expr.matchesFrom, accepts_oneOfExpr, matchesFrom_oneOfExpr]

-- The pattern of a list of texts can only be refused for its size, and occurs in these texts alone.
theorem compile_oneOf {texts : List (List Char)} (listed : texts ≠ [])
    (fits : compile (String.ofList (oneOf texts)) ≠ .error .tooLarge) :
    ∃ p, compile (String.ofList (oneOf texts)) = .ok p ∧
      ∀ text, p.occursIn text = texts.contains text := by
  refine ⟨{ expr := oneOfExpr texts }, ?_, occursIn_oneOfExpr texts⟩
  rw [compile, exprOf_oneOf texts listed] at fits ⊢
  by_cases heavy : Weight.isTooMuch (oneOfExpr texts) = true
  next => simp [heavy] at fits
  next => simp [heavy]

theorem occursIn_anything : ∃ p, compile ".*" = .ok p ∧ ∀ text, p.occursIn text = true := by
  have read : ∃ s, compile ".*" = .ok { expr := .rep 0 none (.set s) } := ⟨_, rfl⟩
  obtain ⟨s, read⟩ := read
  refine ⟨_, read, fun text => ?_⟩
  rw [occursIn, occursIn_eq]
  cases text <;> simp [Expr.matchesFrom, Thread.accepts, Thread.isNullable, Expr.isNullable]

end FleetSearch.Pattern
