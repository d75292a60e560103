import FleetSearch.Web.Template

set_option autoImplicit false

namespace FleetSearch.Web.Template

-- what may follow the first character of a name
def Mark.InName (m : Mark) : Prop :=
  m.closes = false ∧ m.char ≠ '*' ∧ m.char ≠ '/'

inductive Spells : List Mark -> Template -> Prop
  | done : Spells [] []
  | char {m : Mark} {more : List Mark} {t : Template} (opens : m.opens = false)
      (closes : m.closes = false) (later : Spells more t) :
      Spells (m :: more) (.char m.char :: t)
  | segment {left first right : Mark} {name more : List Mark} {t : Template}
      (opens : left.opens = true) (named : first.char ≠ '\x7d' ∧ first.char ≠ '*')
      (inName : ∀ m ∈ name, m.InName) (closes : right.closes = true)
      (ends : Mark.endsPlace more.head? = true) (later : Spells more t) :
      Spells (left :: first :: (name ++ right :: more)) (.segment :: t)
  | rest {left star right : Mark} {name more : List Mark} {t : Template}
      (opens : left.opens = true) (starred : star.char = '*') (named : name ≠ [])
      (inName : ∀ m ∈ name, m.InName) (closes : right.closes = true)
      (ends : Mark.endsPlace more.head? = true) (later : Spells more t) :
      Spells (left :: star :: (name ++ right :: more)) (.rest :: t)

def place (star : Bool) : Piece :=
  if star then .rest else .segment

theorem map_ok {A B E : Type} {f : A -> B} {x : Except E A} {b : B} :
    x.map f = .ok b ↔ ∃ a, x = .ok a ∧ f a = b := by
  cases x <;> simp [Except.map]

def taken (star : Bool) : Nat :=
  if star then 0 else 1

theorem count_place (star : Bool) (t : Template) :
    (place star :: t).count .segment = t.count .segment + taken star := by
  cases star <;> simp [place, taken]

theorem piecesFrom_closed {room : Nat} {star first : Bool} {m : Mark} {more : List Mark}
    {t : Template} (closes : m.closes = true) :
    piecesFrom room (.name star first) (m :: more) = .ok t ↔
      (star && first) = false ∧ Mark.endsPlace more.head? = true ∧
        ∃ left later, left + taken star = room ∧ piecesFrom left .plain more = .ok later ∧
          place star :: later = t := by
  rw [piecesFrom, if_pos closes]
  cases unnamed : star && first with
  | true => simp
  | false =>
    cases ends : Mark.endsPlace more.head? with
    | false => simp
    | true =>
      cases star with
      | true => simp [map_ok, place, taken]
      | false =>
        cases room <;> simp [map_ok, place, taken]

theorem piecesFrom_name (room : Nat) (star first : Bool) (ms : List Mark) (t : Template) :
    piecesFrom room (.name star first) ms = .ok t ↔
      ∃ name right more left later, ms = name ++ right :: more ∧ (∀ m ∈ name, m.InName) ∧
        right.closes = true ∧ (star = true -> first = true -> name ≠ []) ∧
        Mark.endsPlace more.head? = true ∧ left + taken star = room ∧
        piecesFrom left .plain more = .ok later ∧ place star :: later = t := by
  induction ms generalizing first with
  | nil => simp [piecesFrom]
  | cons m more ih =>
    constructor
    · intro read
      by_cases closed : m.closes = true
      next =>
        obtain ⟨named, ends, left, later, room, follows, rfl⟩ := (piecesFrom_closed closed).mp read
        refine ⟨[], m, more, left, later, rfl, by simp, closed, fun starred opening => ?_, ends,
          room, follows, rfl⟩
        simp [starred, opening] at named
      next =>
        rw [piecesFrom, if_neg closed] at read
        split at read
        next => cases read
        next plain =>
          obtain ⟨name, right, after, left, later, rfl, inName, closes, _, ends, room, follows,
            rfl⟩ := (ih false).mp read
          refine ⟨m :: name, right, after, left, later, rfl, fun other member => ?_, closes,
            fun _ _ => by simp, ends, room, follows, rfl⟩
          rcases List.mem_cons.mp member with rfl | among
          · exact ⟨by simpa using closed, by simpa using plain⟩
          · exact inName other among
    · rintro ⟨name, right, after, left, later, same, inName, closes, named, ends, room, follows, rfl⟩
      cases name with
      | nil =>
        obtain ⟨rfl, rfl⟩ : m = right ∧ more = after := by simpa using same
        refine (piecesFrom_closed closes).mpr ⟨?_, ends, left, later, room, follows, rfl⟩
        cases starred : star <;> cases opening : first <;> simp_all
      | cons other name =>
        obtain ⟨rfl, rfl⟩ : m = other ∧ more = name ++ right :: after := by simpa using same
        obtain ⟨unclosed, plain⟩ := inName m List.mem_cons_self
        rw [piecesFrom, if_neg (by simp [unclosed]), if_neg (by simpa using plain)]
        refine (ih false).mpr ⟨name, right, after, left, later, rfl, fun other member => ?_, closes,
          nofun, ends, room, follows, rfl⟩
        exact inName other (List.mem_cons_of_mem _ member)

theorem spells_of_piecesFrom (room : Nat) (ms : List Mark) (t : Template)
    (read : piecesFrom room .plain ms = .ok t) : Spells ms t ∧ t.count .segment ≤ room := by
  -- a place takes many marks at once, so the induction is on their number
  induction length : ms.length using Nat.strongRecOn generalizing room ms t with
  | ind n ih =>
    cases ms with
    | nil =>
      cases read
      exact ⟨.done, Nat.zero_le _⟩
    | cons m more =>
      subst length
      rw [piecesFrom] at read
      split at read
      next => cases read
      next closes =>
        split at read
        next opens =>
          cases more with
          | nil => cases read
          | cons first more =>
            rw [piecesFrom] at read
            split at read
            next => cases read
            next named =>
              obtain ⟨name, right, after, left, later, rfl, inName, closes, nonempty, ends, fits,
                follows, rfl⟩ := (piecesFrom_name ..).mp read
              obtain ⟨rest, few⟩ := ih _ (by simp; omega) left after later follows rfl
              refine ⟨?_, by rw [count_place, ← fits]; omega⟩
              by_cases starred : first.char = '*'
              next =>
                have marked : place (decide (first.char = '*')) = .rest := by simp [place, starred]
                rw [marked]
                exact .rest opens starred (nonempty (by simpa using starred) rfl) inName closes
                  ends rest
              next =>
                have marked : place (decide (first.char = '*')) = .segment := by
                  simp [place, starred]
                rw [marked]
                exact .segment opens ⟨named, starred⟩ inName closes ends rest
        next opens =>
          obtain ⟨later, follows, rfl⟩ := map_ok.mp read
          obtain ⟨rest, few⟩ := ih _ (by simp) room more later follows rfl
          exact ⟨.char (by simpa using opens) (by simpa using closes) rest, by simpa using few⟩

theorem Mark.closes_of_opens {m : Mark} (opens : m.opens = true) : m.closes = false := by
  simp only [Mark.opens, Bool.and_eq_true, beq_iff_eq] at opens
  simp [Mark.closes, opens.1]

theorem piecesFrom_of_spells {room : Nat} {ms : List Mark} {t : Template} (spells : Spells ms t)
    (few : t.count .segment ≤ room) : piecesFrom room .plain ms = .ok t := by
  induction spells generalizing room with
  | done => rfl
  | char opens closes _ ih =>
    rw [piecesFrom, if_neg (by simp [closes]), if_neg (by simp [opens]), ih (by simpa using few)]
    rfl
  | segment opens named inName closes ends _ ih =>
    rw [List.count_cons_self] at few
    obtain ⟨left, rfl⟩ := Nat.exists_eq_add_of_le' few
    rw [piecesFrom, if_neg (by simp [Mark.closes_of_opens opens]), if_pos opens, piecesFrom,
      if_neg named.1, piecesFrom_name]
    refine ⟨_, _, _, left + _, _, rfl, inName, closes, by simp [named.2], ends, ?_,
      ih (Nat.le_add_left _ left), by simp [place, named.2]⟩
    simp [taken, named.2, Nat.add_assoc]
  | rest opens starred nonempty inName closes ends _ ih =>
    rw [piecesFrom, if_neg (by simp [Mark.closes_of_opens opens]), if_pos opens, piecesFrom,
      if_neg (by simp [starred]), piecesFrom_name]
    exact ⟨_, _, _, room, _, rfl, inName, closes, fun _ _ => nonempty, ends, by simp [taken, starred],
      ih (by simpa using few), by simp [place, starred]⟩

theorem check_iff (t : Template) : check t = .ok () ↔ .rest ∉ t.dropLast := by
  induction t with
  | nil => simp [check]
  | cons piece more ih =>
    cases more with
    | nil => cases piece <;> simp [check]
    | cons next more => cases piece <;> simp_all [check]

theorem read_iff (text : String) (t : Template) :
    read text = .ok t ↔
      Spells (marks text.toList) t ∧ .rest ∉ t.dropLast ∧ t.count .segment ≤ 25 := by
  rw [← check_iff, read]
  constructor
  · intro done
    cases pieces : piecesFrom mostSegments .plain (marks text.toList) with
    | error fault => simp [pieces, bind, Except.bind] at done
    | ok found =>
      cases checked : check found with
      | error fault => simp [pieces, checked, bind, Except.bind] at done
      | ok _ =>
        obtain rfl : found = t := by
          simpa [pieces, checked, bind, Except.bind, pure, Except.pure] using done
        obtain ⟨spells, few⟩ := spells_of_piecesFrom _ _ _ pieces
        exact ⟨spells, checked, few⟩
  · rintro ⟨spells, checked, few⟩
    have pieces : piecesFrom mostSegments .plain (marks text.toList) = .ok t :=
      piecesFrom_of_spells spells few
    simp [pieces, checked, bind, Except.bind, pure, Except.pure]

theorem marks_plain (text : List Char) (left : '\x7b' ∉ text) (right : '\x7d' ∉ text) :
    marks text = text.map fun c => { char := c } := by
  induction text with
  | nil => rfl
  | cons c rest ih =>
    rw [List.mem_cons, not_or] at left right
    rw [marks, ih left.2 right.2, List.map_cons]
    · exact fun _ same _ => left.1 same.symm
    · exact fun _ same _ => right.1 same.symm

theorem spells_plain (text : List Char) (left : '\x7b' ∉ text) (right : '\x7d' ∉ text) :
    Spells (marks text) (text.map .char) := by
  rw [marks_plain text left right]
  induction text with
  | nil => exact .done
  | cons c rest ih =>
    rw [List.mem_cons, not_or] at left right
    refine .char ?_ ?_ (ih left.2 right.2)
    · simp [Mark.opens, Ne.symm left.1]
    · simp [Mark.closes, Ne.symm right.1]

end FleetSearch.Web.Template
