import FleetSearch.Proofs.Checkout.Listing
import FleetSearch.Proofs.Checkout.Phases
import FleetSearch.Proofs.Git.Offer
import Mathlib.Data.String.Basic

set_option autoImplicit false

namespace FleetSearch.Checkout

open FleetSearch.Disk FleetSearch.Search FleetSearch.Text

theorem toUTF8_of_fromUTF8? {data : ByteArray} {text : String}
    (read : String.fromUTF8? data = some text) : text.toUTF8 = data := by
  unfold String.fromUTF8? at read
  split at read
  next =>
    cases read
    rfl
  next => cases read

theorem length_le_size (text : String) : text.toList.length ≤ text.toUTF8.size := by
  have each : ∀ chars : List Char, chars.length ≤ String.utf8Len chars := by
    intro chars
    induction chars with
    | nil => simp
    | cons c rest ih =>
      have wide := c.utf8Size_pos
      simp only [List.length_cons, String.utf8Len_cons]
      omega
  have whole := String.utf8ByteSize_ofList text.toList
  rw [String.ofList_toList] at whole
  calc text.toList.length
      ≤ String.utf8Len text.toList := each text.toList
    _ = text.toUTF8.size := whole.symm

theorem length_lines (text : List Char) : (lines text).length ≤ text.length := by
  induction text using byLine with
  | last line unbroken =>
    cases line with
    | nil => simp [lines, linesFrom]
    | cons c rest => simp [lines_last (c :: rest) unbroken]
  | more line rest unbroken ih =>
    rw [lines_break line rest unbroken]
    simp only [List.length_cons, List.length_append]
    omega

structure Asks (query : String) (o : Options) (pattern : Pattern) (text : List Char) : Prop where
  compiled : Pattern.compile query o.ignoreCase = .ok pattern
  unfiltered : o.files = "" ∧ o.excludeFiles = ""
  line : ∃ line ∈ lines text, pattern.occursIn line = true
  -- the first look takes the text as a whole
  whole : pattern.occursIn text = true ∨
    pattern.expr.staysInLine true = true ∧ pattern.expr.consumes = true
  room : o.context + largestFile < Count.bound

theorem Asks.occurs {query : String} {o : Options} {pattern : Pattern} {text : List Char}
    (asks : Asks query o pattern text) : pattern.occursIn text = true := by
  rcases asks.whole with occurs | ⟨inLine, consumes⟩
  · exact occurs
  · have same := Pattern.occursIn_lines inLine consumes text (.inl rfl)
    exact same.trans (List.any_eq_true.mpr asks.line)

theorem asks_empty {text : List Char} (some : lines text ≠ []) :
    Asks "" {} { expr := .empty } text where
  compiled := by decide +kernel
  unfiltered := ⟨rfl, rfl⟩
  line := by
    obtain ⟨line, rest, cut⟩ := List.exists_cons_of_ne_nil some
    refine ⟨line, by simp [cut], ?_⟩
    cases line <;> simp [Pattern.occursIn, Pattern.Expr.occursIn, Pattern.search,
      Pattern.Thread.isNullable, Pattern.Expr.isNullable]
  whole := by
    refine .inl ?_
    cases text <;> simp [Pattern.occursIn, Pattern.Expr.occursIn, Pattern.search,
      Pattern.Thread.isNullable, Pattern.Expr.isNullable]
  room := by decide

def Brings (v : Volume) (dir : String) (dots : Bool) (query : String) (o : Options)
    (name text : String) : Prop :=
  ∃ finding, probe v dir dots query o = .ok finding ∧ finding.found = true ∧
    ∀ revision, ∃ harvest found, fetch v revision finding.payload o = .ok harvest ∧
      harvest.matched = window o.offset o.limit found ∧
      ∃ m ∈ found, m.file = name ∧ m.lines ≠ [] ∧
        grep finding.payload.pattern o.context text.toList = .ok m.lines

/-- The list names the file, and no search looks into it. -/
structure Listed (v : Volume) (dir : String) (dots : Bool) (names : List String) : Prop where
  entry : ∃ why, { name := shownName names, why } ∈ (walk v dir dots).excluded
  apart : ∀ query o finding, probe v dir dots query o = .ok finding ->
    ∀ f ∈ finding.payload.files, f.path ≠ pathTo dir names

/-- What the list has under the name is another file, and every search that asks for a line of the
file brings it. -/
structure Searched (v : Volume) (dir : String) (dots : Bool) (tree : Node) (names : List String)
    (text : String) : Prop where
  unlisted : ∀ e ∈ (walk v dir dots).excluded, e.name = shownName names ->
    ∃ other data, other ≠ names ∧ Regular tree other data ∧ e.name = shownName other
  candidate : ∀ query o finding, o.files = "" -> o.excludeFiles = "" ->
    probe v dir dots query o = .ok finding -> ∃ f ∈ finding.payload.files, f.path = pathTo dir names
  brought : ∀ query o pattern, Asks query o pattern text.toList ->
    Brings v dir dots query o (shownName names) text
  -- there is something to ask for, where there is a line
  asked : lines text.toList ≠ [] -> ∃ query o pattern, Asks query o pattern text.toList

def Skipped (v : Volume) (dir : String) (dots : Bool) (names : List String) : Prop :=
  ∀ query o finding revision harvest, probe v dir dots query o = .ok finding ->
    fetch v revision finding.payload o = .ok harvest -> ∀ m ∈ harvest.matched,
      ∃ other text, other ≠ names ∧ m.file = shownName other ∧
        v.readText (pathTo dir other) = .ok text

theorem ofOptions_unfiltered {o : Options} (unfiltered : o.files = "" ∧ o.excludeFiles = "") :
    PathFilter.ofOptions o = .ok {} := by
  simp [PathFilter.ofOptions, PathFilter.compile, unfiltered, bind, Except.bind, pure, Except.pure,
    Except.mapError]

theorem files_unfiltered {v : Volume} {dir query : String} {dots : Bool} {o : Options}
    {finding : Finding Candidates} (probed : probe v dir dots query o = .ok finding)
    (unfiltered : o.files = "" ∧ o.excludeFiles = "") :
    finding.payload.files = (walk v dir dots).files := by
  obtain ⟨filter, prepared, files, _⟩ := probe_ok probed
  unfold prepare at prepared
  simp only at prepared
  split at prepared
  next =>
    obtain ⟨_, thrown, _⟩ := Git.bind_ok prepared
    cases thrown
  obtain ⟨_, _, prepared⟩ := Git.bind_ok prepared
  obtain ⟨other, made, prepared⟩ := Git.bind_ok prepared
  cases prepared
  obtain rfl : {} = filter := Except.ok.inj ((ofOptions_unfiltered unfiltered).symm.trans made)
  rw [files]
  exact List.filter_eq_self.mpr fun f _ => by simp [PathFilter.accepts]

theorem probe_unfiltered {v : Volume} {dir query : String} {o : Options} {pattern : Pattern}
    (there : v.isDir dir = true) (compiled : Pattern.compile query o.ignoreCase = .ok pattern)
    (unfiltered : o.files = "" ∧ o.excludeFiles = "") (dots : Bool) :
    ∃ finding, probe v dir dots query o = .ok finding ∧ finding.payload.pattern = pattern := by
  have ready : prepare v dir query o = .ok (pattern, {}) := by
    simp [prepare, there, compiled, ofOptions_unfiltered unfiltered, bind, Except.bind, pure,
      Except.pure, Except.mapError]
  rw [probe, ready]
  exact ⟨_, rfl, rfl⟩

theorem mem_drop_findIdx {A : Type} {q : A -> Bool} {xs : List A} {x : A} (member : x ∈ xs)
    (hit : q x = true) : x ∈ xs.drop (xs.findIdx q) := by
  have none := (le_findIdx_iff q (xs.findIdx q) xs List.findIdx_le_length).mp le_rfl
  rw [← List.take_append_drop (xs.findIdx q) xs] at member
  rcases List.mem_append.mp member with before | after
  · exact absurd hit (by simpa using List.filter_eq_nil_iff.mp none x before)
  · exact after

theorem fetch_brings {v : Volume} {c : Candidates} {o : Options} {f : SearchFile} {text : String}
    (fits : ∀ f ∈ c.files, FileFits v c.pattern o.context f)
    (start : c.firstHit = c.files.findIdx (isHit v c.pattern)) (member : f ∈ c.files)
    (read : v.readText f.path = .ok text) (hit : isHit v c.pattern f = true)
    (line : hasLine v c.pattern f = true) (revision : String) :
    ∃ harvest found, fetch v revision c o = .ok harvest ∧
      harvest.matched = window o.offset o.limit found ∧
      ∃ m ∈ found, m.file = f.name ∧ m.lines ≠ [] ∧
        grep c.pattern o.context text.toList = .ok m.lines := by
  have spec := grepFiles_spec v c.pattern o.context (c.files.drop c.firstHit)
  have after : f ∈ c.files.drop c.firstHit := start ▸ mem_drop_findIdx member hit
  have own : (f.name, text) ∈ textsOf v (c.files.drop c.firstHit) := by
    refine List.mem_filterMap.mpr ⟨f, after, ?_⟩
    rw [read]
    rfl
  cases went : (textsOf v (c.files.drop c.firstHit)).mapM (grepFile c.pattern o.context) with
  | error fault =>
    rw [went] at spec
    exact absurd (fun f member => fits f (List.mem_of_mem_drop member)) spec
  | ok all =>
    obtain ⟨m, among, grepped⟩ := Git.mem_of_mapM went own
    have shape := grepFile_spec read c.pattern o.context
    rw [grepped] at shape
    obtain ⟨_, name, shown⟩ := shape
    rw [line] at shown
    obtain ⟨found, lines, same⟩ := Git.bind_ok grepped
    cases same
    have brought : ∃ harvest, fetch v revision c o = .ok harvest ∧
        harvest.matched = window o.offset o.limit (all.filter fun f => !f.lines.isEmpty) := by
      rw [fetch, show c.texts v = textsOf v (c.files.drop c.firstHit) from rfl, went]
      exact ⟨_, rfl, rfl⟩
    obtain ⟨harvest, fetched, matched⟩ := brought
    exact ⟨harvest, _, fetched, matched, _, List.mem_filter.mpr ⟨among, shown⟩, name,
      by simpa using shown, lines⟩

section

variable {v : Volume} {dir : String} {dots : Bool} {entries : List (String × Node)}
  {names : List String} {data : ByteArray} {text : String}

theorem readText_iff (found : v.find dir = .ok (.dir entries)) (tidy : (Node.dir entries).IsTidy)
    (regular : Regular (.dir entries) names data) :
    v.readText (pathTo dir names) = .ok text ↔ String.fromUTF8? data = some text := by
  rw [Volume.readText, Volume.readBytes_below found tidy regular.there]
  cases decoded : String.fromUTF8? data <;>
    simp [decoded, bind, Except.bind, pure, Except.pure, throw, throwThe, MonadExceptOf.throw]

theorem isDir_of_find (found : v.find dir = .ok (.dir entries)) : v.isDir dir = true := by
  rw [Volume.isDir, found]
  rfl

theorem candidate_of_probe {query : String} {o : Options} {finding : Finding Candidates}
    (probed : probe v dir dots query o = .ok finding) {f : SearchFile}
    (member : f ∈ finding.payload.files) : f ∈ (walk v dir dots).files := by
  obtain ⟨_, _, files, _⟩ := probe_ok probed
  rw [files] at member
  exact (List.mem_filter.mp member).1

theorem walked_fits (dots : Bool) (found : v.find dir = .ok (.dir entries))
    (tidy : (Node.dir entries).IsTidy) (p : Pattern) {context : Nat} (room : context + largestFile < Count.bound) :
    ∀ f ∈ (walk v dir dots).files, FileFits v p context f := by
  intro f member text read
  obtain ⟨names, data, regular, kept, rfl⟩ := ((walk_lists found tidy dots).2 f).mp member
  have small : data.size ≤ largestFile := by
    by_contra large
    rw [reason?, exclusion] at kept
    split at kept
    next => cases kept
    next =>
      split at kept
      next => cases kept
      next => simp [show largestFile < data.size by omega] at kept
  have whole := toUTF8_of_fromUTF8? ((readText_iff found tidy regular).mp read)
  have wide := length_le_size text
  have few := length_lines text.toList
  rw [whole] at wide
  exact fits_of_few p (by omega)

theorem listed_of_reason (found : v.find dir = .ok (.dir entries))
    (tidy : (Node.dir entries).IsTidy) (regular : Regular (.dir entries) names data)
    {why : Exclusion} (judged : reason? dots names data.size = some why) :
    Listed v dir dots names where
  entry := ⟨why, ((walk_lists found tidy dots).1 _).mpr ⟨names, data, why, regular, judged, rfl⟩⟩
  apart := by
    intro query o finding probed f member same
    obtain ⟨other, content, again, kept, rfl⟩ :=
      ((walk_lists found tidy dots).2 f).mp (candidate_of_probe probed member)
    obtain rfl :=
      pathTo_injective (tidy.fileNames again.there) (tidy.fileNames regular.there) same
    obtain rfl := again.unique regular
    rw [kept] at judged
    cases judged

theorem unlisted_of_kept (found : v.find dir = .ok (.dir entries))
    (tidy : (Node.dir entries).IsTidy) (regular : Regular (.dir entries) names data)
    (judged : reason? dots names data.size = none) {e : Excluded}
    (member : e ∈ (walk v dir dots).excluded) :
    ∃ other data, other ≠ names ∧ Regular (.dir entries) other data ∧ e.name = shownName other := by
  obtain ⟨other, content, why, again, excluded, rfl⟩ := ((walk_lists found tidy dots).1 e).mp member
  refine ⟨other, content, ?_, again, rfl⟩
  rintro rfl
  obtain rfl := again.unique regular
  rw [judged] at excluded
  cases excluded

theorem brings_of_kept (found : v.find dir = .ok (.dir entries)) (tidy : (Node.dir entries).IsTidy)
    {f : SearchFile} (member : f ∈ (walk v dir dots).files) (read : v.readText f.path = .ok text)
    {query : String} {o : Options} {pattern : Pattern} (asks : Asks query o pattern text.toList) :
    Brings v dir dots query o f.name text := by
  obtain ⟨finding, probed, rfl⟩ :=
    probe_unfiltered (isDir_of_find found) asks.compiled asks.unfiltered dots
  have kept := files_unfiltered probed asks.unfiltered
  obtain ⟨start, _, any⟩ := probe_first probed
  have hit : isHit v finding.payload.pattern f = true := by
    rw [isHit, read]
    exact asks.occurs
  have line : hasLine v finding.payload.pattern f = true := by
    rw [hasLine, read]
    exact List.any_eq_true.mpr asks.line
  have fits := walked_fits dots found tidy finding.payload.pattern asks.room
  rw [← kept] at member fits
  exact ⟨finding, probed, any.mpr (List.any_eq_true.mpr ⟨f, member, hit⟩),
    fetch_brings fits start member read hit line⟩

theorem searched_of_text (found : v.find dir = .ok (.dir entries))
    (tidy : (Node.dir entries).IsTidy) (regular : Regular (.dir entries) names data)
    (judged : reason? dots names data.size = none) (utf8 : String.fromUTF8? data = some text) :
    Searched v dir dots (.dir entries) names text := by
  have member := ((walk_lists found tidy dots).2 _).mpr ⟨names, data, regular, judged, rfl⟩
  have read := (readText_iff found tidy regular).mpr utf8
  constructor
  case unlisted => exact fun e listed _ => unlisted_of_kept found tidy regular judged listed
  case candidate =>
    intro query o finding files excludeFiles probed
    rw [files_unfiltered probed ⟨files, excludeFiles⟩]
    exact ⟨_, member, rfl⟩
  case brought => exact fun query o pattern asks => brings_of_kept found tidy member read asks
  case asked => exact fun there => ⟨"", {}, _, asks_empty there⟩

theorem matched_read {query : String} {o : Options} {finding : Finding Candidates}
    {revision : String} {harvest : Harvest} (probed : probe v dir dots query o = .ok finding)
    (fetched : fetch v revision finding.payload o = .ok harvest) {m : FileMatch}
    (member : m ∈ harvest.matched) :
    ∃ f ∈ (walk v dir dots).files, m.file = f.name ∧ ∃ text, v.readText f.path = .ok text := by
  unfold fetch at fetched
  obtain ⟨all, went, fetched⟩ := Git.bind_ok fetched
  cases fetched
  have among : m ∈ all := by
    refine List.mem_of_mem_filter (p := fun f => !f.lines.isEmpty) ?_
    simp only [window] at member
    split at member
    next => exact List.mem_of_mem_drop member
    next => exact List.mem_of_mem_drop (List.mem_of_mem_take member)
  obtain ⟨file, own, grepped⟩ := Git.mapM_mem went among
  obtain ⟨found, _, same⟩ := Git.bind_ok grepped
  cases same
  obtain ⟨f, after, read⟩ := List.mem_filterMap.mp own
  refine ⟨f, candidate_of_probe probed (List.mem_of_mem_drop after), ?_⟩
  cases text : v.readText f.path with
  | error fault => simp [text, Except.toOption] at read
  | ok text =>
    rw [text] at read
    cases read
    exact ⟨rfl, _, rfl⟩

theorem skipped_of_noText (found : v.find dir = .ok (.dir entries))
    (tidy : (Node.dir entries).IsTidy) (regular : Regular (.dir entries) names data)
    (noText : String.fromUTF8? data = none) : Skipped v dir dots names := by
  intro query o finding revision harvest probed fetched m member
  obtain ⟨f, walked, name, text, read⟩ := matched_read probed fetched member
  obtain ⟨other, content, again, _, rfl⟩ := ((walk_lists found tidy dots).2 f).mp walked
  refine ⟨other, text, ?_, name, read⟩
  rintro rfl
  rw [readText_iff found tidy regular, noText] at read
  cases read

/-- Every regular file in no ignored directory is listed or searched, and never both, if it is text.
One that is no text is listed, or nobody is told that it is skipped. -/
theorem listed_or_searched (v : Volume) (dir : String) (dots : Bool)
    (entries : List (String × Node)) (names : List String) (data : ByteArray)
    (found : v.find dir = .ok (.dir entries)) (tidy : (Node.dir entries).IsTidy)
    (regular : Regular (.dir entries) names data) :
    (∀ text, ¬ (Listed v dir dots names ∧ Searched v dir dots (.dir entries) names text)) ∧
      match String.fromUTF8? data with
      | some text => Listed v dir dots names ∨ Searched v dir dots (.dir entries) names text
      | none => Listed v dir dots names ∨
        (∀ e ∈ (walk v dir dots).excluded, e.name = shownName names ->
          ∃ other data, other ≠ names ∧ Regular (.dir entries) other data ∧
            e.name = shownName other) ∧ Skipped v dir dots names := by
  constructor
  · rintro text ⟨listed, searched⟩
    have asks : Asks "" {} { expr := .empty } ['\n'] := asks_empty (by decide)
    obtain ⟨finding, probed, _⟩ :=
      probe_unfiltered (isDir_of_find found) asks.compiled asks.unfiltered dots
    obtain ⟨f, member, same⟩ := searched.candidate "" {} finding rfl rfl probed
    exact listed.apart "" {} finding probed f member same
  · cases judged : reason? dots names data.size with
    | some why =>
      have listed := listed_of_reason found tidy regular judged
      split
      next => exact .inl listed
      next => exact .inl listed
    | none =>
      split
      next text utf8 => exact .inr (searched_of_text found tidy regular judged utf8)
      next noText =>
        exact .inr ⟨fun e member _ => unlisted_of_kept found tidy regular judged member,
          skipped_of_noText found tidy regular noText⟩

end

theorem twoLines_searched :
    Regular (.dir [("a.txt", .file "one\ntwo\n".toUTF8)]) ["a.txt"] "one\ntwo\n".toUTF8 ∧
      Searched twoLines "r" false (.dir [("a.txt", .file "one\ntwo\n".toUTF8)]) ["a.txt"]
        "one\ntwo\n" := by
  have found : twoLines.find "r" = .ok (.dir [("a.txt", .file "one\ntwo\n".toUTF8)]) := rfl
  have named : IsEntryName "a.txt" := by
    refine ⟨⟨by decide, by decide, by decide⟩, by decide, by decide⟩
  have tidy : (Node.dir [("a.txt", .file "one\ntwo\n".toUTF8)]).IsTidy := by
    refine .dir (by simp) ?_ ?_
    · simpa using named
    · simpa using Node.IsTidy.file _
  have regular : Regular (.dir [("a.txt", .file "one\ntwo\n".toUTF8)]) ["a.txt"]
      "one\ntwo\n".toUTF8 := ⟨rfl, by simp⟩
  have either := (listed_or_searched twoLines "r" false _ _ _ found tidy regular).2
  have utf8 : String.fromUTF8? "one\ntwo\n".toUTF8 = some "one\ntwo\n" := by decide +kernel
  rw [utf8] at either
  refine ⟨regular, either.resolve_left fun listed => ?_⟩
  obtain ⟨why, entry⟩ := listed.entry
  have none : (walk twoLines "r" false).excluded = [] := by decide +kernel
  rw [none] at entry
  cases entry

-- A line of text with a byte behind it that is none.
def strayByte : ByteArray :=
  ("needle\n".toUTF8.push 0xff).push 10

def strayVolume : Volume where
  root := .dir [("r", .dir [("a.txt", .file strayByte)])]

/-- The file is not listed, and no search whatsoever finds anything in it. -/
theorem strayByte_silent :
    strayVolume.find "r" = .ok (.dir [("a.txt", .file strayByte)]) ∧
      Regular (.dir [("a.txt", .file strayByte)]) ["a.txt"] strayByte ∧
      (walk strayVolume "r" false).excluded = [] ∧
      (walk strayVolume "r" false).files = [{ name := "a.txt", path := "r/a.txt" }] ∧
      (probe strayVolume "r" false "needle" {}).toOption.isSome = true ∧
      ∀ query o finding, probe strayVolume "r" false query o = .ok finding ->
        finding.found = false ∧ ∀ revision harvest,
          fetch strayVolume revision finding.payload o = .ok harvest -> harvest.matched = [] := by
  have files : (walk strayVolume "r" false).files = [{ name := "a.txt", path := "r/a.txt" }] := by
    decide +kernel
  have unread : strayVolume.readText "r/a.txt" = .error .notText := by decide +kernel
  refine ⟨rfl, ⟨rfl, by simp⟩, by decide +kernel, files, by decide +kernel,
    fun query o finding probed => ⟨?_, ?_⟩⟩
  · obtain ⟨_, _, any⟩ := probe_first probed
    rw [Bool.eq_false_iff, Ne, any, List.any_eq_true]
    rintro ⟨f, member, hit⟩
    have walked := candidate_of_probe probed member
    rw [files, List.mem_singleton] at walked
    rw [walked, isHit, unread] at hit
    cases hit
  · intro revision harvest fetched
    refine List.eq_nil_iff_forall_not_mem.mpr fun m member => ?_
    obtain ⟨f, walked, _, text, read⟩ := matched_read probed fetched member
    rw [files, List.mem_singleton] at walked
    rw [walked, unread] at read
    cases read

end FleetSearch.Checkout
