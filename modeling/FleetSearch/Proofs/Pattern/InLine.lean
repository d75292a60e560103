import FleetSearch.Pattern.Expr

set_option autoImplicit false

/-!
Patterns that cannot tell a text from its lines. Nothing in them takes a line break or asks for the
ends of the text, and they match no empty text, so that each match lies within one line.
-/

namespace FleetSearch.Pattern

open FleetSearch.Unicode

-- An end of the text, or a character that a line ends with; `\r` counts if `carriage` says so.
def isEdge (carriage : Bool) : Option Char -> Bool
  | none => true
  | some c => c == '\n' || carriage && c == '\r'

structure Around.Alike (carriage : Bool) (a b : Around) : Prop where
  before : a.before = b.before ∨ isEdge false a.before = true ∧ isEdge false b.before = true
  after : a.after = b.after ∨ isEdge carriage a.after = true ∧ isEdge carriage b.after = true

def Look.staysInLine (carriage : Bool) : Look -> Bool
  | .textStart | .textEnd | .carriageStart | .carriageEnd => false
  | .lineEnd => !carriage
  | _ => true

def Expr.staysInLine (carriage : Bool) : Expr -> Bool
  | empty => true
  | set s => !s.contains '\n' && !(carriage && s.contains '\r')
  | look l => l.staysInLine carriage
  | seq first second => first.staysInLine carriage && second.staysInLine carriage
  | alt left right => left.staysInLine carriage && right.staysInLine carriage
  | rep _ _ body => body.staysInLine carriage
  | capture body => body.staysInLine carriage

def Expr.consumes : Expr -> Bool
  | empty => false
  | set _ => true
  | look _ => false
  | seq first second => first.consumes || second.consumes
  | alt left right => left.consumes && right.consumes
  | rep min _ body => min != 0 && body.consumes
  | capture body => body.consumes

def Thread.staysInLine (carriage : Bool) (t : Expr.Thread) : Bool :=
  t.all (Expr.staysInLine carriage)

theorem isWordChar_edge (unicode carriage : Bool) (c : Option Char)
    (edge : isEdge carriage c = true) : isWordChar unicode c = false := by
  cases c with
  | none => rfl
  | some c =>
    have listed : c = '\n' ∨ c = '\r' := by
      simp only [isEdge, Bool.or_eq_true, Bool.and_eq_true, beq_iff_eq] at edge
      exact edge.imp_right And.right
    cases listed with
    | inl newline =>
      subst newline
      cases unicode <;> decide
    | inr ret =>
      subst ret
      cases unicode <;> decide

theorem isWordChar_alike (unicode carriage : Bool) (c d : Option Char)
    (alike : c = d ∨ isEdge carriage c = true ∧ isEdge carriage d = true) :
    isWordChar unicode c = isWordChar unicode d := by
  cases alike with
  | inl same => rw [same]
  | inr edges => rw [isWordChar_edge _ _ c edges.1, isWordChar_edge _ _ d edges.2]

theorem isEdge_plain (c : Option Char) :
    isEdge false c = (c.isNone || c == some '\n') := by
  cases c <;> simp [isEdge]

theorem Look.holds_alike (carriage : Bool) (a b : Around) (alike : a.Alike carriage b) (l : Look)
    (inLine : l.staysInLine carriage = true) : l.holds a = l.holds b := by
  have before := fun unicode => isWordChar_alike unicode _ _ _ alike.before
  have after := fun unicode => isWordChar_alike unicode _ _ _ alike.after
  cases l with
  | textStart | textEnd | carriageStart | carriageEnd => cases inLine
  | lineStart =>
    simp only [Look.holds, ← isEdge_plain]
    cases alike.before with
    | inl same => rw [same]
    | inr edges => rw [edges.1, edges.2]
  | lineEnd =>
    obtain rfl : carriage = false := by simpa [Look.staysInLine] using inLine
    simp only [Look.holds, ← isEdge_plain]
    cases alike.after with
    | inl same => rw [same]
    | inr edges => rw [edges.1, edges.2]
  | _ => simp [Look.holds, before, after]

theorem Expr.isNullable_alike (carriage : Bool) (a b : Around) (alike : a.Alike carriage b)
    (e : Expr) (inLine : e.staysInLine carriage = true) : e.isNullable a = e.isNullable b := by
  induction e with
  | empty | set _ => rfl
  | look l => exact l.holds_alike carriage a b alike inLine
  | seq first second firstIh secondIh | alt first second firstIh secondIh =>
    obtain ⟨one, two⟩ := Bool.and_eq_true_iff.mp inLine
    simp [Expr.isNullable, firstIh one, secondIh two]
  | rep min max body ih => simp [Expr.isNullable, ih inLine]
  | capture body ih => exact ih inLine

theorem Expr.step_alike (carriage : Bool) (a b : Around) (alike : a.Alike carriage b) (c : Char)
    (e : Expr) (rest : Expr.Thread) (inLine : e.staysInLine carriage = true) :
    e.step a c rest = e.step b c rest := by
  induction e generalizing rest with
  | empty | set _ | look _ => rfl
  | seq first second firstIh secondIh =>
    obtain ⟨one, two⟩ := Bool.and_eq_true_iff.mp inLine
    simp [Expr.step, firstIh _ one, secondIh _ two, first.isNullable_alike carriage a b alike one]
  | alt left right leftIh rightIh =>
    obtain ⟨one, two⟩ := Bool.and_eq_true_iff.mp inLine
    simp [Expr.step, leftIh _ one, rightIh _ two]
  | rep min max body ih =>
    have nullable := body.isNullable_alike carriage a b alike inLine
    simp only [Expr.step, nullable, ih _ inLine]
  | capture body ih => exact ih rest inLine

theorem Expr.step_edge (carriage : Bool) (a : Around) (c : Char)
    (edge : isEdge carriage (some c) = true) (e : Expr) (rest : Expr.Thread)
    (inLine : e.staysInLine carriage = true) : e.step a c rest = [] := by
  induction e generalizing rest with
  | empty | look _ => rfl
  | set s =>
    have outside : s.contains c = false := by
      simp only [isEdge, Bool.or_eq_true, Bool.and_eq_true, beq_iff_eq] at edge
      simp only [Expr.staysInLine, Bool.and_eq_true, Bool.not_eq_true'] at inLine
      cases edge with
      | inl newline => simpa [newline] using inLine.1
      | inr ret => simpa [ret.1, ret.2] using inLine.2
    simp [Expr.step, outside]
  | seq first second firstIh secondIh =>
    obtain ⟨one, two⟩ := Bool.and_eq_true_iff.mp inLine
    simp [Expr.step, firstIh _ one, secondIh _ two]
  | alt left right leftIh rightIh =>
    obtain ⟨one, two⟩ := Bool.and_eq_true_iff.mp inLine
    simp [Expr.step, leftIh _ one, rightIh _ two]
  | rep min max body ih =>
    simp only [Expr.step, ih _ inLine, ite_self]
  | capture body ih => exact ih rest inLine

theorem Expr.step_staysInLine (carriage : Bool) (a : Around) (c : Char) (e : Expr)
    (rest : Expr.Thread) (inLine : e.staysInLine carriage = true)
    (restInLine : Thread.staysInLine carriage rest = true) :
    ∀ t ∈ e.step a c rest, Thread.staysInLine carriage t = true := by
  induction e generalizing rest with
  | empty | look _ => simp [Expr.step]
  | set s =>
    intro t member
    obtain ⟨_, rfl⟩ : s.contains c = true ∧ t = rest := by simpa [Expr.step] using member
    exact restInLine
  | seq first second firstIh secondIh =>
    obtain ⟨one, two⟩ := Bool.and_eq_true_iff.mp inLine
    intro t member
    rw [Expr.step] at member
    cases List.mem_append.mp member with
    | inl left =>
      have both : Thread.staysInLine carriage (second :: rest) = true :=
        Bool.and_eq_true_iff.mpr ⟨two, restInLine⟩
      exact firstIh _ one both t left
    | inr right =>
      split at right
      next => exact secondIh _ two restInLine t right
      next => cases right
  | alt left right leftIh rightIh =>
    obtain ⟨one, two⟩ := Bool.and_eq_true_iff.mp inLine
    intro t member
    cases List.mem_append.mp member with
    | inl taken => exact leftIh _ one restInLine t taken
    | inr taken => exact rightIh _ two restInLine t taken
  | rep min max body ih =>
    intro t member
    rw [Expr.step] at member
    split at member
    next => cases member
    next =>
      refine ih _ inLine ?_ t member
      exact Bool.and_eq_true_iff.mpr ⟨inLine, restInLine⟩
  | capture body ih => exact ih rest inLine restInLine

theorem Expr.not_isNullable (a : Around) (e : Expr) (consumes : e.consumes = true) :
    e.isNullable a = false := by
  induction e with
  | empty | look _ => cases consumes
  | set _ => rfl
  | seq first second firstIh secondIh =>
    cases Bool.or_eq_true_iff.mp consumes with
    | inl one => simp [Expr.isNullable, firstIh one]
    | inr two => simp [Expr.isNullable, secondIh two]
  | alt left right leftIh rightIh =>
    obtain ⟨one, two⟩ := Bool.and_eq_true_iff.mp consumes
    simp [Expr.isNullable, leftIh one, rightIh two]
  | rep min max body ih =>
    obtain ⟨often, inner⟩ := Bool.and_eq_true_iff.mp consumes
    have positive : min ≠ 0 := by simpa using often
    simp [Expr.isNullable, ih inner, positive]
  | capture body ih => exact ih consumes

namespace Thread

theorem isNullable_alike (carriage : Bool) (a b : Around) (alike : a.Alike carriage b)
    (t : Expr.Thread) (inLine : staysInLine carriage t = true) :
    isNullable a t = isNullable b t := by
  induction t with
  | nil => rfl
  | cons e rest ih =>
    obtain ⟨one, others⟩ := Bool.and_eq_true_iff.mp inLine
    have first := e.isNullable_alike carriage a b alike one
    have later := ih others
    simp only [isNullable, List.all_cons] at later ⊢
    rw [first, later]

theorem step_alike (carriage : Bool) (a b : Around) (alike : a.Alike carriage b) (c : Char)
    (t : Expr.Thread) (inLine : staysInLine carriage t = true) : step a c t = step b c t := by
  induction t with
  | nil => rfl
  | cons e rest ih =>
    obtain ⟨one, others⟩ := Bool.and_eq_true_iff.mp inLine
    rw [step, step, e.step_alike carriage a b alike c rest one,
      e.isNullable_alike carriage a b alike one, ih others]

theorem step_edge (carriage : Bool) (a : Around) (c : Char)
    (edge : isEdge carriage (some c) = true) (t : Expr.Thread)
    (inLine : staysInLine carriage t = true) : step a c t = [] := by
  induction t with
  | nil => rfl
  | cons e rest ih =>
    obtain ⟨one, others⟩ := Bool.and_eq_true_iff.mp inLine
    simp [step, e.step_edge carriage a c edge rest one, ih others]

theorem step_staysInLine (carriage : Bool) (a : Around) (c : Char) (t : Expr.Thread)
    (inLine : staysInLine carriage t = true) :
    ∀ next ∈ step a c t, staysInLine carriage next = true := by
  induction t with
  | nil => simp [step]
  | cons e rest ih =>
    obtain ⟨one, others⟩ := Bool.and_eq_true_iff.mp inLine
    intro next member
    rw [step] at member
    cases List.mem_append.mp member with
    | inl left => exact e.step_staysInLine carriage a c rest one others next left
    | inr right =>
      split at right
      next => exact ih others next right
      next => cases right

end Thread

end FleetSearch.Pattern
