import FleetSearch.Proofs.Checkout.Excludes
import FleetSearch.Proofs.Text.Lines
import FleetSearch.Web.Api
import Mathlib.Algebra.GroupWithZero.Nat
import Mathlib.Data.List.Forall2

set_option autoImplicit false

namespace FleetSearch.Checkout

open FleetSearch.Disk FleetSearch.Search FleetSearch.Text

-- A match tells its line and the number of it, and shows the lines around it: as many as `context`
-- asks for on each side, or all there are.
structure Shown (context : Nat) (lines : List String) (m : LineMatch) : Prop where
  stretch : ∃ above below, lines = above ++ (m.before ++ [m.line] ++ m.after) ++ below ∧
    m.number = above.length + m.before.length + 1
  before : m.before.length = min context (m.number - 1)
  after : m.after.length = min context (lines.length - m.number)

-- The matches are the lines that match, each of them once and under its number.
structure Grepped (p : Pattern) (context : Nat) (lines : List (List Char))
    (found : List LineMatch) : Prop where
  matching : found.map (fun m => (m.line, m.number)) =
    ((lines.zipIdx 1).filter fun line => p.occursIn line.1).map
      fun line => (String.ofList line.1, line.2)
  increasing : found.Pairwise fun m later => m.number < later.number
  shown : ∀ m ∈ found, Shown context (lines.map String.ofList) m

theorem shown_here (context : Nat) (before : List (List Char)) (line : List Char)
    (rest : List (List Char)) :
    Shown context ((before.reverse ++ line :: rest).map String.ofList)
      { line := String.ofList line
        number := before.length + 1
        before := (before.take context).reverse.map String.ofList
        after := (rest.take context).map String.ofList } where
  stretch := by
    refine ⟨(before.drop context).reverse.map String.ofList,
      (rest.drop context).map String.ofList, ?_, ?_⟩
    · have front : (before.drop context).reverse ++ (before.take context).reverse =
          before.reverse := by
        rw [← List.reverse_append, List.take_append_drop]
      have back := List.take_append_drop context rest
      simp only [← List.map_append, ← List.map_singleton]
      rw [← front]
      nth_rewrite 1 [← back]
      simp
    · simp only [List.length_map, List.length_reverse, List.length_drop, List.length_take]
      omega
  before := by simp
  after := by
    simp only [List.length_map, List.length_append, List.length_reverse, List.length_cons,
      List.length_take]
    omega

theorem grepFrom_cons {p : Pattern} {context number : Nat} {before rest : List (List Char)}
    {line : List Char} {found : List LineMatch}
    (went : grepFrom p context before number (line :: rest) = .ok found) :
    (p.occursIn line = true ∧ ∃ more,
      grepFrom p context (line :: before) (number + 1) rest = .ok more ∧
      found =
        { line := String.ofList line
          number
          before := (before.take context).reverse.map String.ofList
          after := (rest.take context).map String.ofList } :: more) ∨
    (p.occursIn line = false ∧
      grepFrom p context (line :: before) (number + 1) rest = .ok found) := by
  rw [grepFrom] at went
  by_cases occurs : p.occursIn line = true
  next =>
    rw [if_pos occurs] at went
    split at went
    next => cases went
    next =>
      obtain ⟨more, later, same⟩ := Git.bind_ok went
      cases same
      exact .inl ⟨occurs, more, later, rfl⟩
  next =>
    rw [if_neg occurs] at went
    exact .inr ⟨by simpa using occurs, went⟩

theorem grepFrom_numbered {p : Pattern} {context number : Nat} {before lines : List (List Char)}
    {found : List LineMatch} (went : grepFrom p context before number lines = .ok found) :
    found.map (fun m => (m.line, m.number)) =
      ((lines.zipIdx number).filter fun line => p.occursIn line.1).map
        fun line => (String.ofList line.1, line.2) := by
  induction lines generalizing before number found with
  | nil =>
    cases went
    rfl
  | cons line rest ih =>
    rw [List.zipIdx_cons]
    rcases grepFrom_cons went with ⟨occurs, more, later, rfl⟩ | ⟨passes, later⟩
    · rw [List.filter_cons_of_pos (by exact occurs), List.map_cons, List.map_cons, ih later]
    · rw [List.filter_cons_of_neg (by simp [passes]), ih later]

theorem grepFrom_increasing {p : Pattern} {context number : Nat} {before lines : List (List Char)}
    {found : List LineMatch} (went : grepFrom p context before number lines = .ok found) :
    (∀ m ∈ found, number ≤ m.number) ∧ found.Pairwise fun m later => m.number < later.number := by
  induction lines generalizing before number found with
  | nil =>
    cases went
    exact ⟨by simp, .nil⟩
  | cons line rest ih =>
    rcases grepFrom_cons went with ⟨_, more, later, rfl⟩ | ⟨_, later⟩
    · obtain ⟨behind, ordered⟩ := ih later
      refine ⟨fun m member => ?_, List.pairwise_cons.mpr ⟨fun m member => ?_, ordered⟩⟩
      · rcases List.mem_cons.mp member with rfl | further
        · exact le_rfl
        · have bound := behind m further
          omega
      · have bound := behind m member
        exact bound
    · obtain ⟨behind, ordered⟩ := ih later
      refine ⟨fun m member => ?_, ordered⟩
      have bound := behind m member
      omega

theorem grepFrom_shown {p : Pattern} {context : Nat} {before lines : List (List Char)}
    {found : List LineMatch}
    (went : grepFrom p context before (before.length + 1) lines = .ok found) :
    ∀ m ∈ found, Shown context ((before.reverse ++ lines).map String.ofList) m := by
  induction lines generalizing before found with
  | nil =>
    cases went
    simp
  | cons line rest ih =>
    have moved : before.reverse ++ line :: rest = (line :: before).reverse ++ rest := by simp
    intro m member
    rcases grepFrom_cons went with ⟨_, more, later, rfl⟩ | ⟨_, later⟩
    · rcases List.mem_cons.mp member with rfl | further
      · exact shown_here context before line rest
      · rw [moved]
        exact ih later m further
    · rw [moved]
      exact ih later m member

theorem grepped_of_grep {p : Pattern} {context : Nat} {text : List Char} {found : List LineMatch}
    (went : grep p context text = .ok found) : Grepped p context (lines text) found where
  matching := grepFrom_numbered went
  increasing := (grepFrom_increasing went).2
  shown := (grepFrom_shown went :)

-- What is brought of a file: its name, and what grep finds in the lines of its text.
structure Brought (v : Volume) (p : Pattern) (context : Nat) (f : SearchFile) (m : FileMatch) :
    Prop where
  name : m.file = f.name
  grepped : ∃ text cut, v.readText f.path = .ok text ∧ Cut text.toList cut ∧
    Grepped p context cut m.lines

def isReadable (v : Volume) (f : SearchFile) : Bool :=
  (v.readText f.path).toOption.isSome

theorem length_textsOf (v : Volume) (files : List SearchFile) :
    (textsOf v files).length = (files.filter (isReadable v)).length := by
  induction files with
  | nil => rfl
  | cons f rest ih =>
    cases read : v.readText f.path with
    | error fault => simpa [textsOf, isReadable, read, Except.toOption] using ih
    | ok text => simpa [textsOf, isReadable, read, Except.toOption] using ih

theorem grepFile_brought {v : Volume} {p : Pattern} {context : Nat} {f : SearchFile} {text : String}
    (read : v.readText f.path = .ok text) (fits : FileFits v p context f) :
    ∃ m, grepFile p context (f.name, text) = .ok m ∧ Brought v p context f m ∧
      (!m.lines.isEmpty) = hasLine v p f := by
  have spec := grepFile_spec read p context
  cases went : grepFile p context (f.name, text) with
  | error fault =>
    rw [went] at spec
    exact absurd fits spec
  | ok m =>
    rw [went] at spec
    obtain ⟨found, grepped, same⟩ := Git.bind_ok went
    cases same
    exact ⟨_, rfl, ⟨rfl, text, _, read, cut_lines text.toList, grepped_of_grep grepped⟩, spec.2.2⟩

theorem grepFiles_brought {v : Volume} {p : Pattern} {context : Nat} {files : List SearchFile}
    (fits : ∀ f ∈ files, FileFits v p context f) :
    ∃ all, (textsOf v files).mapM (grepFile p context) = .ok all ∧
      List.Forall₂ (Brought v p context) (files.filter (hasLine v p))
        (all.filter fun m => !m.lines.isEmpty) := by
  induction files with
  | nil => exact ⟨[], rfl, .nil⟩
  | cons f rest ih =>
    obtain ⟨all, went, brought⟩ := ih fun f member => fits f (List.mem_cons_of_mem _ member)
    cases read : v.readText f.path with
    | error fault =>
      have unread : textsOf v (f :: rest) = textsOf v rest := by
        simp [textsOf, read, Except.toOption]
      have lineless : hasLine v p f = false := by simp [hasLine, read]
      rw [unread, List.filter_cons_of_neg (by simp [lineless])]
      exact ⟨all, went, brought⟩
    | ok text =>
      have first : textsOf v (f :: rest) = (f.name, text) :: textsOf v rest := by
        simp [textsOf, read, Except.toOption]
      obtain ⟨m, own, one, shown⟩ := grepFile_brought read (fits f List.mem_cons_self)
      refine ⟨m :: all, ?_, ?_⟩
      · rw [first, List.mapM_cons, own, went]
        rfl
      · rw [List.filter_cons, List.filter_cons, shown]
        split
        next => exact .cons one brought
        next => exact brought

theorem fetch_of_fits {v : Volume} {c : Candidates} {context : Nat}
    (fits : ∀ f ∈ c.files.drop c.firstHit, FileFits v c.pattern context f) :
    ∃ full,
      List.Forall₂ (Brought v c.pattern context)
        ((c.files.drop c.firstHit).filter (hasLine v c.pattern)) full ∧
      ∀ (revision : String) (o : Options), o.context = context -> fetch v revision c o = .ok {
        matched := window o.offset o.limit full
        filesWithMatch := full.length
        filesOpened := ((c.files.drop c.firstHit).filter (isReadable v)).length
        revision } := by
  obtain ⟨all, went, brought⟩ := grepFiles_brought fits
  refine ⟨_, brought, ?_⟩
  rintro revision o rfl
  rw [fetch, show c.texts v = textsOf v (c.files.drop c.firstHit) from rfl, went,
    ← length_textsOf]
  rfl

-- Windows of these sizes, each where the one before it ends.
def windows : (offset : Nat) -> (sizes : List Nat) -> List (Nat × Nat)
  | _, [] => []
  | offset, size :: sizes => (offset, size) :: windows (offset + size) sizes

theorem windows_tile {A : Type} (full : List A) (offset : Nat) (sizes : List Nat)
    (some : ∀ size ∈ sizes, 0 < size) :
    ((windows offset sizes).map fun w => window w.1 w.2 full).flatten =
      (full.drop offset).take sizes.sum := by
  induction sizes generalizing offset with
  | nil => simp [windows]
  | cons size sizes ih =>
    have positive := some size List.mem_cons_self
    have later := ih (offset + size) fun size member => some size (List.mem_cons_of_mem _ member)
    have own : window offset size full = (full.drop offset).take size := by
      rw [window, if_neg (by omega)]
    rw [windows, List.map_cons, List.flatten_cons, own, later, List.sum_cons, List.take_add,
      List.drop_drop]

-- Texts are held in memory, where none has more than 2^63 - 1 bytes.
def Held (v : Volume) (files : List SearchFile) : Prop :=
  ∀ f ∈ files, ∀ text, v.readText f.path = .ok text -> text.utf8ByteSize < Nat.pow 2 63

theorem Held.fits {v : Volume} {files : List SearchFile} (held : Held v files) (p : Pattern)
    {context : Nat} (few : context ≤ Web.longestContext) :
    ∀ f ∈ files, FileFits v p context f := by
  intro f member text read
  have small := held f member text read
  have wide : text.toList.length ≤ text.utf8ByteSize := length_le_size text
  have lines := length_lines text.toList
  have room : 1 + Nat.pow 2 63 + Web.longestContext ≤ Count.bound := by decide
  exact fits_of_few p (by omega)

/-- The second look brings each file with a matching line from the first hit on, in order and with
all its matching lines. The offset and the limit cut a window out of that and change nothing else,
so windows put one behind another leave out no file and bring none twice. -/
theorem fetch_windows (v : Volume) (c : Candidates) (context : Nat)
    (few : context ≤ Web.longestContext) (held : Held v (c.files.drop c.firstHit)) :
    ∃ full,
      List.Forall₂ (Brought v c.pattern context)
        ((c.files.drop c.firstHit).filter (hasLine v c.pattern)) full ∧
      (∀ (revision : String) (o : Options), o.context = context -> fetch v revision c o = .ok {
        matched := if o.limit = 0 then full.drop o.offset else (full.drop o.offset).take o.limit
        filesWithMatch := full.length
        filesOpened := ((c.files.drop c.firstHit).filter (isReadable v)).length
        revision }) ∧
      ∀ (revision : String) (o : Options) (sizes : List Nat), o.context = context ->
        (∀ size ∈ sizes, 0 < size) -> ∃ pages,
          (windows 0 sizes).mapM
            (fun w => fetch v revision c { o with offset := w.1, limit := w.2 }) = .ok pages ∧
          (pages.map Harvest.matched).flatten = full.take sizes.sum := by
  obtain ⟨full, brought, fetched⟩ := fetch_of_fits (held.fits c.pattern few)
  refine ⟨full, brought, fetched, fun revision o sizes same some => ?_⟩
  have each := fun w : Nat × Nat =>
    fetched revision { o with offset := w.1, limit := w.2 } same
  refine ⟨_, (congrArg (List.mapM · _) (funext each)).trans (List.mapM_pure ..), ?_⟩
  rw [List.map_map]
  exact windows_tile full 0 sizes some

-- A file that is no text between two with a matching line.
def mixedVolume : Volume where
  root := .dir [("r", .dir [("a.txt", .file "one\r\ntwo\nthree".toUTF8), ("b.txt", .file strayByte),
    ("c.txt", .file "two".toUTF8)])]

def mixedCandidates : Candidates where
  pattern := { expr := wordTwo }
  files := [{ name := "a.txt", path := "r/a.txt" }, { name := "b.txt", path := "r/b.txt" },
    { name := "c.txt", path := "r/c.txt" }]
  firstHit := 0

theorem mixed_windows :
    Held mixedVolume mixedCandidates.files ∧
      ∃ full,
        List.Forall₂ (Brought mixedVolume mixedCandidates.pattern 1)
          [{ name := "a.txt", path := "r/a.txt" }, { name := "c.txt", path := "r/c.txt" }] full ∧
        fetch mixedVolume "" mixedCandidates { context := 1, offset := 1, limit := 1 } = .ok {
          matched := (full.drop 1).take 1, filesWithMatch := 2, filesOpened := 2, revision := "" } ∧
        fetch mixedVolume "" mixedCandidates { context := 1, offset := 0, limit := 0 } = .ok {
          matched := full, filesWithMatch := 2, filesOpened := 2, revision := "" } := by
  have held : Held mixedVolume mixedCandidates.files := by
    intro f member text read
    have sizes : ∀ f ∈ mixedCandidates.files, (mixedVolume.readText f.path).toOption.all
        (fun text => Decidable.decide (text.utf8ByteSize < Nat.pow 2 63)) = true := by
      decide +kernel
    have own := sizes f member
    rw [read] at own
    simpa [Except.toOption] using own
  obtain ⟨full, brought, fetched, _⟩ := fetch_windows mixedVolume mixedCandidates 1 (by decide) held
  have hits : (mixedCandidates.files.drop mixedCandidates.firstHit).filter
      (hasLine mixedVolume mixedCandidates.pattern) =
        [{ name := "a.txt", path := "r/a.txt" }, { name := "c.txt", path := "r/c.txt" }] := by
    decide +kernel
  have opened : ((mixedCandidates.files.drop mixedCandidates.firstHit).filter
      (isReadable mixedVolume)).length = 2 := by
    decide +kernel
  rw [hits] at brought
  have all := fetched ""
  rw [opened, ← brought.length_eq] at all
  exact ⟨held, full, brought, all { context := 1, offset := 1, limit := 1 } rfl,
    all { context := 1 } rfl⟩

end FleetSearch.Checkout
