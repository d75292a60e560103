import FleetSearch.Proofs.Catalog.Normal
import FleetSearch.Proofs.Search.Paging
import FleetSearch.Proofs.Text.Counts
import FleetSearch.Web.Api
import Mathlib.Data.List.TakeDrop

set_option autoImplicit false

namespace FleetSearch.Web

open FleetSearch.Text FleetSearch.Search

def paramKeys : List String :=
  ["q", "repos", "rngRepos", "rng", "files", "excludeFiles", "i", "ctx", "stats"]

def firstValue (pairs : List (String × String)) (key : String) : String :=
  (pairs.lookup key).getD ""

theorem firstValue_cons (key value : String) (rest : List (String × String)) (wanted : String) :
    firstValue ((key, value) :: rest) wanted =
      if wanted = key then value else firstValue rest wanted := by
  rw [firstValue, List.lookup_cons]
  by_cases same : wanted = key
  next => simp [same]
  next =>
    have other : (wanted == key) = false := by simpa using same
    simp [same, other, firstValue]

theorem ofPairs_eq (pairs : List (String × String)) :
    Params.ofPairs pairs =
      { query := firstValue pairs "q"
        repos := firstValue pairs "repos"
        repoWindow := firstValue pairs "rngRepos"
        fileWindow := firstValue pairs "rng"
        files := firstValue pairs "files"
        excludeFiles := firstValue pairs "excludeFiles"
        ignoreCase := firstValue pairs "i"
        context := firstValue pairs "ctx"
        stats := firstValue pairs "stats" } := by
  induction pairs with
  | nil => rfl
  | cons pair rest ih =>
    obtain ⟨key, value⟩ := pair
    have folded : Params.ofPairs ((key, value) :: rest) = (Params.ofPairs rest).set key value := rfl
    rw [folded, ih]
    simp only [firstValue_cons]
    unfold Params.set
    split <;> simp_all [eq_comm]

def SideReads (side : List Char) (n : Nat) : Prop :=
  Spells side n ∨ n = 0 ∧ ∀ m, ¬ Spells side m

inductive WindowReads : List Char -> Window -> Prop
  | cut (before after : List Char) (w : Window) (first : ':' ∉ before)
      (offset : SideReads before w.offset) (limit : SideReads after w.limit) :
      WindowReads (before ++ ':' :: after) w
  | whole (text : List Char) (uncut : ':' ∉ text) : WindowReads text { offset := 0, limit := 0 }

theorem readSide_iff {side : List Char} {n : Nat} : readSide side = n ↔ SideReads side n := by
  rw [readSide]
  cases read : Count.parse? (trim side) with
  | some m =>
    have spelled := parse?_trim_iff.mp read
    constructor
    · rintro rfl
      exact .inl spelled
    · rintro (same | ⟨_, none⟩)
      · exact spelled.unique same
      · exact absurd spelled (none m)
  | none =>
    have none : ∀ m, ¬ Spells side m := fun m spelled => by
      rw [parse?_trim_iff.mpr spelled] at read
      cases read
    constructor
    · rintro rfl
      exact .inr ⟨rfl, none⟩
    · rintro (spelled | ⟨rfl, _⟩)
      · exact absurd spelled (none n)
      · rfl

theorem readWindow_cut {s : String} {before after : List Char}
    (text : s.toList = before ++ ':' :: after) (first : ':' ∉ before) :
    readWindow s = { offset := readSide before, limit := readSide after } := by
  have passed : ∀ c ∈ before, (c != ':') = true := fun c member => by
    rw [bne_iff_ne]
    rintro rfl
    exact first member
  rw [readWindow, List.span_eq_takeWhile_dropWhile, text, List.takeWhile_append_of_pos passed,
    List.dropWhile_append_of_pos passed]
  simp

theorem readWindow_whole {s : String} (uncut : ':' ∉ s.toList) :
    readWindow s = { offset := 0, limit := 0 } := by
  have passed : ∀ c ∈ s.toList, (c != ':') = true := fun c member => by
    rw [bne_iff_ne]
    rintro rfl
    exact uncut member
  rw [readWindow, List.span_eq_takeWhile_dropWhile, List.dropWhile_eq_nil_iff.mpr passed]

theorem readWindow_iff {s : String} {w : Window} : readWindow s = w ↔ WindowReads s.toList w := by
  constructor
  · rintro rfl
    by_cases colon : ':' ∈ s.toList
    next =>
      obtain ⟨before, after, text, first⟩ := List.eq_append_cons_of_mem colon
      rw [readWindow_cut text first, text]
      exact .cut before after _ first (readSide_iff.mp rfl) (readSide_iff.mp rfl)
    next =>
      rw [readWindow_whole colon]
      exact .whole _ colon
  · intro reads
    generalize text : s.toList = chars at reads
    cases reads with
    | cut before after w first offset limit =>
      rw [readWindow_cut text first, readSide_iff.mpr offset, readSide_iff.mpr limit]
    | whole _ uncut => exact readWindow_whole (text ▸ uncut)

-- Two counts with a colon between them, and blanks around each.
structure Written (value : String) (offset limit : Nat) : Prop where
  spelled : ∃ w₁ w₂ w₃ w₄ : List Char, (∀ c ∈ w₁ ++ w₂ ++ (w₃ ++ w₄), isBlank c = true) ∧
    value.toList = w₁ ++ (toString offset).toList ++ w₂ ++
      ':' :: (w₃ ++ (toString limit).toList ++ w₄)

theorem Written.read {value : String} {offset limit : Nat} (written : Written value offset limit)
    (first : offset < Count.bound) (second : limit < Count.bound) :
    readWindow value = { offset, limit } := by
  obtain ⟨w₁, w₂, w₃, w₄, blanks, text⟩ := written
  simp only [List.mem_append, or_imp, forall_and] at blanks
  obtain ⟨⟨b₁, b₂⟩, b₃, b₄⟩ := blanks
  have dark : isBlank ':' = false := by decide
  refine readWindow_iff.mpr (text ▸ .cut _ _ _ ?_ (.inl (spells_toString first b₁ b₂))
    (.inl (spells_toString second b₃ b₄)))
  simp only [List.mem_append, not_or]
  -- a colon is neither a blank nor a digit, so the first one is that between the counts
  refine ⟨⟨fun member => ?_, fun member => ?_⟩, fun member => ?_⟩
  · simp [b₁ _ member] at dark
  · rw [Nat.toString_eq_ofList_toDigits, String.toList_ofList] at member
    have digit := Nat.isDigit_of_mem_toDigits (by decide) (by decide) member
    cases digit
  · simp [b₂ _ member] at dark

theorem readCountWithin_bounds {low high fallback n : Nat} {s : String}
    (inside : low ≤ fallback ∧ fallback ≤ high)
    (read : readCountWithin low high fallback s = .ok n) : low ≤ n ∧ n ≤ high := by
  unfold readCountWithin at read
  split at read
  next =>
    cases read
    exact inside
  next =>
    rw [if_neg (by omega)] at read
    cases read
    omega

theorem readCountWithin_context (s : String) :
    readCountWithin 0 longestContext standardContext s = .ok (readContext s) := by
  unfold readCountWithin readContext
  cases Count.parse? (trim s.toList) with
  | none => rfl
  | some n => simp

theorem readContext_le (s : String) : readContext s ≤ longestContext :=
  (readCountWithin_bounds ⟨Nat.zero_le _, by decide⟩ (readCountWithin_context s)).2

theorem orDefault_pos {value standard : Nat} (given : standard ≠ 0) :
    1 ≤ orDefault value standard := by
  unfold orDefault
  split <;> omega

theorem page_next {P : Type} (sources : Nat -> List (Source P)) (maxProbes nextLimit : Nat)
    (turns : List Turn) (k : Nat) (r : Run P)
    (there : ((Runs.idle maxProbes nextLimit).play sources turns).1.runs[k]? = some r)
    {page : Page} (ended : r.outcome? = some (.ok page)) :
    page.nextOffset ≤ (sources k).length ∧ page.nextLimit = nextLimit := by
  obtain ⟨_, reached⟩ := Runs.reached sources maxProbes nextLimit turns k r there
  have paged := (reached.lawful.paged page (Run.phase_of_outcome ended)).page
  have short := cutAfter_le r.request.limit (((sources k).drop r.offset).map Source.found)
  rw [List.length_map, List.length_drop] at short
  have inside : r.offset ≤ (sources k).length := reached.offset ▸ Nat.min_le_right _ _
  rw [paged]
  refine ⟨?_, reached.nextLimit⟩
  simp only [scanPage]
  omega

/-- Only the first value of each key counts. What is asked for is never nothing, and it is what the
windows spell: sides of counts before and after the first colon, and zero for anything else. So a
page's next window, when it is sent back, is what the next page shows, for as many repositories as
a word can count. -/
theorem request_as_sent (text : String) (c : Catalog) (accepted : Catalog.parse text = .ok c)
    (pairs : List (String × String)) :
    let asked := (Params.ofPairs pairs).request c
    (∀ others, (∀ key ∈ paramKeys, firstValue others key = firstValue pairs key) ->
      (Params.ofPairs others).request c = asked) ∧
    1 ≤ asked.limit ∧ asked.options.context ≤ 20 ∧
    (∃ w, WindowReads (firstValue pairs "rngRepos").toList w ∧ asked.offset = w.offset ∧
      asked.limit = if w.limit = 0 then c.firstPage else w.limit) ∧
    WindowReads (firstValue pairs "rng").toList
      { offset := asked.options.offset, limit := asked.options.limit } ∧
    (∀ a b, a < Count.bound -> b < Count.bound ->
      (Written (firstValue pairs "rngRepos") a b ->
        asked.offset = a ∧ asked.limit = if b = 0 then c.firstPage else b) ∧
      (Written (firstValue pairs "rng") a b ->
        asked.options.offset = a ∧ asked.options.limit = b)) ∧
    ∀ (P : Type) (sources : Nat -> List (Source P)) (turns : List Turn) (k : Nat) (r : Run P)
      (page : Page), (sources k).length < Count.bound ->
      ((Runs.idle c.maxProbes c.nextPage).play sources turns).1.runs[k]? = some r ->
      r.outcome? = some (.ok page) ->
      Written (firstValue pairs "rngRepos") page.nextOffset page.nextLimit ->
      asked.offset = page.nextOffset ∧ asked.limit = page.nextLimit := by
  intro asked
  obtain ⟨draft, decoded, _, rfl⟩ := (parse_iff text c).mp accepted
  have normal := CatalogDraft.complete_normal (CatalogDraft.makes_shape.whole decoded)
  obtain ⟨first, _⟩ := normal.firstPage
  obtain ⟨next, fits⟩ := normal.nextPage
  have params := ofPairs_eq pairs
  have repos : asked.offset = (readWindow (firstValue pairs "rngRepos")).offset ∧
      asked.limit =
        orDefault (readWindow (firstValue pairs "rngRepos")).limit draft.complete.firstPage := by
    simp only [asked, Params.request, params, and_self]
  have files : readWindow (firstValue pairs "rng") =
      { offset := asked.options.offset, limit := asked.options.limit } := by
    simp only [asked, Params.request, params]
  have written : ∀ a b, a < Count.bound -> b < Count.bound ->
      Written (firstValue pairs "rngRepos") a b ->
      asked.offset = a ∧ asked.limit = orDefault b draft.complete.firstPage := by
    intro a b small alike sent
    rw [repos.1, repos.2, sent.read small alike]
    exact ⟨rfl, rfl⟩
  refine ⟨fun others same => ?_, ?_, readContext_le _, ?_, readWindow_iff.mp files,
    fun a b small alike => ⟨written a b small alike, fun sent => ?_⟩, ?_⟩
  · simp only [paramKeys, List.forall_mem_cons, List.not_mem_nil, false_implies, implies_true,
      and_true] at same
    have equal : Params.ofPairs others = Params.ofPairs pairs := by
      simp only [ofPairs_eq, same]
    rw [equal]
  · rw [repos.2]
    exact orDefault_pos first
  · exact ⟨_, readWindow_iff.mp rfl, repos.1, repos.2⟩
  · rw [sent.read small alike] at files
    obtain ⟨offset, limit⟩ := Window.mk.inj files
    exact ⟨offset.symm, limit.symm⟩
  · intro P sources turns k r page short there ended sent
    obtain ⟨inside, same⟩ := page_next sources _ _ turns k r there ended
    rw [← same] at next fits
    have back := written _ _ (Nat.lt_of_le_of_lt inside short) fits sent
    rwa [orDefault, if_neg next] at back

def sentTwice : List (String × String) :=
  [("rngRepos", " 2\t: 30"), ("ctx", "+99"), ("rng", "18446744073709551616:+7"),
    ("rngRepos", "5:6"), ("rng", ""), ("other", "x")]

-- The next window of a page is sent back with blanks, and before another one that does not count.
theorem sentTwice_asked :
    ∃ (r : Run Nat) (page : Page),
      ((Runs.idle 1000 30).play (fun _ => Runs.oneOfThree) Runs.lateFailure).1.runs[0]? = some r ∧
      r.outcome? = some (.ok page) ∧ page.nextOffset = 2 ∧ page.nextLimit = 30 ∧
      let asked := (Params.ofPairs sentTwice).request {}
      asked.offset = page.nextOffset ∧ asked.limit = page.nextLimit ∧ asked.options.context ≤ 20 ∧
        asked.options.offset = 0 ∧ asked.options.limit = 7 := by
  have accepted : Catalog.parse "\x7b\x7d" = .ok {} := by decide +kernel
  obtain ⟨_, _, context, _, _, _, pages⟩ := request_as_sent _ {} accepted sentTwice
  have done : (((Runs.idle 1000 30).play (fun _ => Runs.oneOfThree)
      Runs.lateFailure).1.runs[0]?.any fun r => r.outcome?.any fun outcome =>
        outcome.toOption.any fun page => page.nextOffset = 2 ∧ page.nextLimit = 30) = true := by
    decide +kernel
  obtain ⟨r, there, done⟩ := (Option.any_eq_true _ _).mp done
  obtain ⟨outcome, ended, done⟩ := (Option.any_eq_true _ _).mp done
  obtain ⟨page, ok, next⟩ := (Option.any_eq_true _ _).mp done
  obtain ⟨offset, limit⟩ := of_decide_eq_true next
  obtain rfl : outcome = .ok page := by
    cases outcome with
    | error failure => cases ok
    | ok same =>
      cases ok
      rfl
  have sent : Written (firstValue sentTwice "rngRepos") page.nextOffset page.nextLimit := by
    rw [offset, limit]
    have blanks : [' ', '\t', ' '].all isBlank = true := by decide
    exact ⟨[' '], ['\t'], [' '], [], List.all_eq_true.mp blanks, by decide +kernel⟩
  obtain ⟨start, shown⟩ := pages Nat _ _ 0 r page (by decide) there ended sent
  exact ⟨r, page, there, ended, offset, limit, start, shown, context, by decide +kernel,
    by decide +kernel⟩

end FleetSearch.Web
