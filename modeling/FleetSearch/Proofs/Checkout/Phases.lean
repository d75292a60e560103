import FleetSearch.Checkout.Scan
import FleetSearch.Proofs.Checkout.Grep
import FleetSearch.Proofs.Pattern.ByLine

set_option autoImplicit false

/-!
The two looks at a checkout beside each other. The first one searches whole texts, the second one
line by line; they agree as far as a text that matches comes no later than a matching line.
-/

namespace FleetSearch.Checkout

open FleetSearch.Disk FleetSearch.Search FleetSearch.Text

def hasLine (v : Volume) (p : Pattern) (f : SearchFile) : Bool :=
  match v.readText f.path with
  | .ok text => (lines text.toList).any p.occursIn
  | .error _ => false

def FileFits (v : Volume) (p : Pattern) (context : Nat) (f : SearchFile) : Prop :=
  ∀ text, v.readText f.path = .ok text -> Fits p context 1 (lines text.toList)

theorem fileFits_of_lineless {v : Volume} {p : Pattern} {f : SearchFile}
    (lineless : hasLine v p f = false) (context : Nat) : FileFits v p context f := by
  intro text read i line there occurs
  rw [hasLine, read] at lineless
  have absent := List.any_eq_false.mp lineless line (List.mem_of_getElem? there)
  exact absurd occurs absent

def textsOf (v : Volume) (files : List SearchFile) : List (String × String) :=
  files.filterMap fun f => (v.readText f.path).toOption.map fun text => (f.name, text)

theorem grepFile_spec {v : Volume} {f : SearchFile} {text : String}
    (read : v.readText f.path = .ok text) (p : Pattern) (context : Nat) :
    match grepFile p context (f.name, text) with
    | .ok found =>
      FileFits v p context f ∧ found.file = f.name ∧ (!found.lines.isEmpty) = hasLine v p f
    | .error _ => ¬ FileFits v p context f := by
  cases grepped : grep p context text.toList with
  | error fault =>
    have failed : grepFile p context (f.name, text) = .error fault := by
      simp [grepFile, grepped, bind, Except.bind]
    rw [failed]
    exact fun fits => grep_error grepped (fits text read)
  | ok lines =>
    have brought : grepFile p context (f.name, text) = .ok { file := f.name, lines } := by
      simp [grepFile, grepped, bind, Except.bind, pure, Except.pure]
    rw [brought]
    refine ⟨fun other again => ?_, rfl, ?_⟩
    · obtain rfl : text = other := by simpa [read] using again
      exact (grep_ok grepped).1
    · simp [grep_isEmpty grepped, hasLine, read]

theorem grepFiles_spec (v : Volume) (p : Pattern) (context : Nat) (files : List SearchFile) :
    match (textsOf v files).mapM (grepFile p context) with
    | .ok found =>
      (∀ f ∈ files, FileFits v p context f) ∧
        (found.filter fun f => !f.lines.isEmpty).map FileMatch.file =
          (files.filter (hasLine v p)).map SearchFile.name
    | .error _ => ¬ ∀ f ∈ files, FileFits v p context f := by
  induction files with
  | nil => exact ⟨by simp, rfl⟩
  | cons f rest ih =>
    cases read : v.readText f.path with
    | error fault =>
      -- a file that is no text is left out on both sides
      have unread : textsOf v (f :: rest) = textsOf v rest := by
        simp [textsOf, read, Except.toOption]
      have lineless : hasLine v p f = false := by simp [hasLine, read]
      have fits := fileFits_of_lineless lineless context
      rw [unread]
      cases went : (textsOf v rest).mapM (grepFile p context) with
      | ok found =>
        rw [went] at ih
        exact ⟨by simpa [fits] using ih.1, by simpa [lineless] using ih.2⟩
      | error fault =>
        rw [went] at ih
        simpa [fits] using ih
    | ok text =>
      have first : textsOf v (f :: rest) = (f.name, text) :: textsOf v rest := by
        simp [textsOf, read, Except.toOption]
      have own := grepFile_spec read p context
      rw [first, List.mapM_cons]
      cases grepped : grepFile p context (f.name, text) with
      | error fault =>
        rw [grepped] at own
        exact fun fits => own (fits f List.mem_cons_self)
      | ok found =>
        rw [grepped] at own
        obtain ⟨fits, name, shown⟩ := own
        simp only [bind, Except.bind]
        cases went : (textsOf v rest).mapM (grepFile p context) with
        | error fault =>
          rw [went] at ih
          simpa [fits] using ih
        | ok more =>
          rw [went] at ih
          refine ⟨by simpa [fits] using ih.1, ?_⟩
          rw [List.filter_cons, shown]
          cases line : hasLine v p f <;> simp [line, ih.2, name]

theorem map_window {A B : Type} (f : A -> B) (offset limit : Nat) (xs : List A) :
    (window offset limit xs).map f = window offset limit (xs.map f) := by
  unfold window
  split <;> simp [List.map_take, List.map_drop]

theorem fetch_spec (v : Volume) (revision : String) (c : Candidates) (o : Options) :
    match fetch v revision c o with
    | .ok harvest =>
      (∀ f ∈ c.files.drop c.firstHit, FileFits v c.pattern o.context f) ∧
        harvest.filesWithMatch = ((c.files.drop c.firstHit).filter (hasLine v c.pattern)).length ∧
        harvest.matched.map FileMatch.file = window o.offset o.limit
          (((c.files.drop c.firstHit).filter (hasLine v c.pattern)).map SearchFile.name)
    | .error _ => ¬ ∀ f ∈ c.files.drop c.firstHit, FileFits v c.pattern o.context f := by
  have spec := grepFiles_spec v c.pattern o.context (c.files.drop c.firstHit)
  have texts : c.texts v = textsOf v (c.files.drop c.firstHit) := rfl
  rw [fetch, texts]
  cases went : (textsOf v (c.files.drop c.firstHit)).mapM (grepFile c.pattern o.context) with
  | error fault =>
    rw [went] at spec
    exact spec
  | ok found =>
    rw [went] at spec
    have counted := congrArg List.length spec.2
    refine ⟨spec.1, ?_, ?_⟩
    · simpa using counted
    · rw [← spec.2]
      exact map_window ..

theorem probe_ok {v : Volume} {dir query : String} {excludeDotFiles : Bool} {o : Options}
    {finding : Finding Candidates} (probed : probe v dir excludeDotFiles query o = .ok finding) :
    ∃ filter, prepare v dir query o = .ok (finding.payload.pattern, filter) ∧
      finding.payload.files =
        (walk v dir excludeDotFiles).files.filter (fun f => filter.accepts f.name) ∧
      finding.payload.firstHit = finding.payload.files.findIdx (isHit v finding.payload.pattern) ∧
      finding.found =
        Decidable.decide (finding.payload.firstHit < finding.payload.files.length) := by
  unfold probe at probed
  cases prepared : prepare v dir query o with
  | error fault => simp [prepared, bind, Except.bind] at probed
  | ok ready =>
    obtain ⟨pattern, filter⟩ := ready
    simp only [prepared, bind, Except.bind, pure, Except.pure, Except.ok.injEq] at probed
    subst probed
    exact ⟨filter, rfl, rfl, rfl, rfl⟩

theorem probe_first {v : Volume} {dir query : String} {excludeDotFiles : Bool} {o : Options}
    {finding : Finding Candidates} (probed : probe v dir excludeDotFiles query o = .ok finding) :
    finding.payload.firstHit = finding.payload.files.findIdx (isHit v finding.payload.pattern) ∧
      finding.payload.firstHit ≤ finding.payload.files.length ∧
      (finding.found = true ↔
        finding.payload.files.any (isHit v finding.payload.pattern) = true) := by
  obtain ⟨_, _, _, firstHit, found⟩ := probe_ok probed
  refine ⟨firstHit, firstHit ▸ List.findIdx_le_length, ?_⟩
  rw [found, firstHit, decide_eq_true_iff, List.findIdx_lt_length, List.any_eq_true]

/-- The two looks agree: the first one finds something just if a candidate has a matching line, and
the second one then brings all candidates that have one. -/
structure PhasesAgree (v : Volume) (revision : String) (o : Options)
    (finding : Finding Candidates) : Prop where
  found : finding.found = true ↔
    ∃ f ∈ finding.payload.files, hasLine v finding.payload.pattern f = true
  fetched : ∃ harvest, fetch v revision finding.payload o = .ok harvest ∧
    harvest.filesWithMatch =
      (finding.payload.files.filter (hasLine v finding.payload.pattern)).length ∧
    harvest.matched.map FileMatch.file = window o.offset o.limit
      ((finding.payload.files.filter (hasLine v finding.payload.pattern)).map SearchFile.name) ∧
    (finding.found = true -> 0 < harvest.filesWithMatch)

theorem filter_take_drop {A : Type} (q : A -> Bool) (k : Nat) (xs : List A) :
    xs.filter q = (xs.take k).filter q ++ (xs.drop k).filter q := by
  rw [← List.filter_append, List.take_append_drop]

theorem le_findIdx_iff {A : Type} (q : A -> Bool) (k : Nat) (xs : List A) (inside : k ≤ xs.length) :
    k ≤ xs.findIdx q ↔ (xs.take k).filter q = [] := by
  rw [List.filter_eq_nil_iff]
  constructor
  · intro later x member
    obtain ⟨i, there, rfl⟩ := List.mem_iff_getElem.mp member
    have early : i < xs.findIdx q := by
      rw [List.length_take] at there
      omega
    rw [List.getElem_take, List.not_of_lt_findIdx early]
    exact Bool.false_ne_true
  · intro none
    by_contra earlier
    have short : xs.findIdx q < xs.length := by omega
    have found := List.findIdx_getElem (w := short)
    have taken : xs[xs.findIdx q] ∈ xs.take k :=
      List.mem_take_iff_getElem.mpr ⟨xs.findIdx q, by omega, rfl⟩
    exact none _ taken found

theorem agree_of_ordered {v : Volume} {dir query : String} {excludeDotFiles : Bool} {o : Options}
    {finding : Finding Candidates} (probed : probe v dir excludeDotFiles query o = .ok finding)
    (ordered : finding.payload.files.findIdx (isHit v finding.payload.pattern) ≤
      finding.payload.files.findIdx (hasLine v finding.payload.pattern))
    (lined : finding.payload.files.any (isHit v finding.payload.pattern) = true ->
      finding.payload.files.any (hasLine v finding.payload.pattern) = true)
    (fits : ∀ f ∈ finding.payload.files, FileFits v finding.payload.pattern o.context f)
    (revision : String) : PhasesAgree v revision o finding := by
  obtain ⟨start, inside, hit⟩ := probe_first probed
  have spec := fetch_spec v revision finding.payload o
  have halves := filter_take_drop (hasLine v finding.payload.pattern) finding.payload.firstHit
    finding.payload.files
  have skipped := (le_findIdx_iff _ _ _ inside).mp (start ▸ ordered)
  rw [skipped, List.nil_append] at halves
  cases fetched : fetch v revision finding.payload o with
  | error fault =>
    rw [fetched] at spec
    exact absurd (fun f member => fits f (List.mem_of_mem_drop member)) spec
  | ok harvest =>
    rw [fetched, ← halves] at spec
    obtain ⟨_, counted, shown⟩ := spec
    refine ⟨⟨fun yes => ?_, fun existing => ?_⟩, harvest, fetched, counted, shown, fun yes => ?_⟩
    · exact List.any_eq_true.mp (lined (hit.mp yes))
    · have reached := List.findIdx_lt_length_of_exists existing
      rw [hit, List.any_eq_true, ← List.findIdx_lt_length]
      omega
    · obtain ⟨f, member, line⟩ := List.any_eq_true.mp (lined (hit.mp yes))
      rw [counted, List.length_filter_pos_iff]
      exact ⟨f, member, line⟩

/-- The two looks agree just if the first file whose text matches comes no later than the first one
with a matching line, there is such a one, and the context of all matches can be counted. -/
theorem phases_agree_iff (v : Volume) (dir query revision : String) (excludeDotFiles : Bool)
    (o : Options) (finding : Finding Candidates)
    (probed : probe v dir excludeDotFiles query o = .ok finding) :
    PhasesAgree v revision o finding ↔
      finding.payload.files.findIdx (isHit v finding.payload.pattern) ≤
          finding.payload.files.findIdx (hasLine v finding.payload.pattern) ∧
        (finding.payload.files.any (isHit v finding.payload.pattern) = true ->
          finding.payload.files.any (hasLine v finding.payload.pattern) = true) ∧
        ∀ f ∈ finding.payload.files, FileFits v finding.payload.pattern o.context f := by
  obtain ⟨start, inside, hit⟩ := probe_first probed
  constructor
  · rintro ⟨agreed, harvest, fetched, counted, _, _⟩
    have spec := fetch_spec v revision finding.payload o
    rw [fetched] at spec
    -- the count leaves no file with a matching line before the start
    have skipped : (finding.payload.files.take finding.payload.firstHit).filter
        (hasLine v finding.payload.pattern) = [] := by
      have halves := filter_take_drop (hasLine v finding.payload.pattern) finding.payload.firstHit
        finding.payload.files
      have lengths := congrArg List.length halves
      rw [List.length_append, ← counted, spec.2.1] at lengths
      exact List.eq_nil_of_length_eq_zero (by omega)
    refine ⟨start ▸ (le_findIdx_iff _ _ _ inside).mpr skipped, fun yes => ?_, fun f member => ?_⟩
    · exact List.any_eq_true.mpr (agreed.mp (hit.mpr yes))
    · rw [← List.take_append_drop finding.payload.firstHit finding.payload.files] at member
      cases List.mem_append.mp member with
      | inl before =>
        have lineless := List.filter_eq_nil_iff.mp skipped f before
        exact fileFits_of_lineless (by simpa using lineless) o.context
      | inr rest => exact spec.1 f rest
  · rintro ⟨ordered, lined, fits⟩
    exact agree_of_ordered probed ordered lined fits revision

def twoLines : Volume where
  root := .dir [("r", .dir [("a.txt", .file "one\ntwo\n".toUTF8)])]

def inTwoLines (expr : Pattern.Expr) (firstHit : Nat) : Finding Candidates where
  found := firstHit = 0
  payload := { pattern := { expr }, files := [{ name := "a.txt", path := "r/a.txt" }], firstHit }

def wordTwo : Pattern.Expr :=
  .seq (.set { ranges := [(116, 116)] })
    (.seq (.set { ranges := [(119, 119)] }) (.set { ranges := [(111, 111)] }))

theorem word_phases_agree :
    probe twoLines "r" false "two" {} = .ok (inTwoLines wordTwo 0) ∧
      PhasesAgree twoLines "" {} (inTwoLines wordTwo 0) := by
  have probed : probe twoLines "r" false "two" {} = .ok (inTwoLines wordTwo 0) := by
    decide +kernel
  refine ⟨probed, (phases_agree_iff twoLines "r" "two" "" false {} _ probed).mpr ⟨?_, ?_, ?_⟩⟩
  · decide +kernel
  · decide +kernel
  · intro f member text read
    obtain rfl : f = { name := "a.txt", path := "r/a.txt" } := List.mem_singleton.mp member
    have content : twoLines.readText "r/a.txt" = .ok "one\ntwo\n" := by decide +kernel
    obtain rfl : "one\ntwo\n" = text := Except.ok.inj (content.symm.trans read)
    exact fits_of_few _ (by decide +kernel)

/-- The first look misses a line that the second one would bring, and finds a break that is in no
line. -/
theorem phases_disagree :
    (probe twoLines "r" false "^two" {} = .ok (inTwoLines (.seq (.look .textStart) wordTwo) 1) ∧
      ¬ PhasesAgree twoLines "" {} (inTwoLines (.seq (.look .textStart) wordTwo) 1)) ∧
    probe twoLines "r" false "\\n" {} = .ok (inTwoLines (.set { ranges := [(10, 10)] }) 0) ∧
      ¬ PhasesAgree twoLines "" {} (inTwoLines (.set { ranges := [(10, 10)] }) 0) := by
  refine ⟨⟨by decide +kernel, fun agree => ?_⟩, by decide +kernel, fun agree => ?_⟩
  · have line : hasLine twoLines { expr := .seq (.look .textStart) wordTwo }
        { name := "a.txt", path := "r/a.txt" } = true := by decide +kernel
    have found := agree.found.mpr ⟨_, List.mem_singleton.mpr rfl, line⟩
    cases found
  · obtain ⟨f, member, line⟩ := agree.found.mp rfl
    obtain rfl : f = { name := "a.txt", path := "r/a.txt" } := List.mem_singleton.mp member
    have none : hasLine twoLines { expr := .set { ranges := [(10, 10)] } }
        { name := "a.txt", path := "r/a.txt" } = false := by decide +kernel
    exact absurd line (by simp [inTwoLines, none])

theorem isHit_eq_hasLine {v : Volume} {p : Pattern} {f : SearchFile} {carriage : Bool}
    (inLine : p.expr.staysInLine carriage = true) (consumes : p.expr.consumes = true)
    (plain : carriage = true ∨ ∀ text, v.readText f.path = .ok text -> '\r' ∉ text.toList) :
    isHit v p f = hasLine v p f := by
  cases read : v.readText f.path with
  | error fault => simp [isHit, hasLine, read]
  | ok text =>
    have own : carriage = true ∨ '\r' ∉ text.toList := plain.imp_right fun each => each text read
    rw [isHit, hasLine, read]
    exact Pattern.occursIn_lines inLine consumes text.toList own

theorem agree_of_staysInLine {v : Volume} {dir query : String} {excludeDotFiles : Bool}
    {o : Options} {finding : Finding Candidates}
    (probed : probe v dir excludeDotFiles query o = .ok finding) (carriage : Bool)
    (inLine : finding.payload.pattern.expr.staysInLine carriage = true)
    (consumes : finding.payload.pattern.expr.consumes = true)
    (plain : carriage = true ∨ ∀ f ∈ finding.payload.files, ∀ text,
      v.readText f.path = .ok text -> '\r' ∉ text.toList)
    (fits : ∀ f ∈ finding.payload.files, FileFits v finding.payload.pattern o.context f)
    (revision : String) : PhasesAgree v revision o finding := by
  have same : ∀ f ∈ finding.payload.files,
      isHit v finding.payload.pattern f = hasLine v finding.payload.pattern f := by
    intro f member
    exact isHit_eq_hasLine inLine consumes (plain.imp_right fun each => each f member)
  refine agree_of_ordered probed ?_ (fun yes => ?_) fits revision
  · exact List.findIdx_le_findIdx fun f member line => (same f member).trans line
  · obtain ⟨f, member, hit⟩ := List.any_eq_true.mp yes
    exact List.any_eq_true.mpr ⟨f, member, (same f member).symm.trans hit⟩

example : (Pattern.compile "beta").toOption.any
    (fun p => p.expr.staysInLine true && p.expr.consumes) = true := by
  decide +kernel

end FleetSearch.Checkout
