import FleetSearch.Proofs.Pattern.Names
import FleetSearch.Proofs.Web.Updating

set_option autoImplicit false

namespace FleetSearch

open FleetSearch.Search FleetSearch.Text

namespace Search

def items (selector : String) : List String :=
  (selector.toList.splitOn ',').map fun piece => String.ofList (trim piece)

theorem commaNames_trimmed (selector : String) :
    commaNames (trimmed selector) = items selector := by
  have pieces := congrArg (List.map String.ofList) (pieces_trim selector.toList)
  rw [List.map_map, List.map_map] at pieces
  rw [commaNames, trimmed, String.toList_ofList]
  exact pieces

theorem items_ne_nil (selector : String) : items selector ≠ [] := by
  simp [items]

theorem selectsAll_iff {s : String} : selectsAll s = true ↔ s = "" ∨ s = "*" := by
  rw [selectsAll, Bool.or_eq_true, String.isEmpty_iff, beq_iff_eq]

theorem not_selectsAll {s : String} (comma : ',' ∈ s.toList) : selectsAll s = false := by
  rw [← Bool.not_eq_true, selectsAll_iff]
  rintro (rfl | rfl) <;> exact absurd comma (by decide)

theorem selectorPattern_listed {selector : String} (comma : ',' ∈ (trimmed selector).toList) :
    selectorPattern selector =
      String.ofList (Pattern.oneOf ((items selector).map String.toList)) := by
  have there : (trimmed selector).toList.contains ',' = true := by simpa using comma
  rw [selectorPattern, not_selectsAll comma, if_neg (by simp), if_pos there, commaNames_trimmed]

theorem selectorPattern_all {selector : String} (all : selectsAll (trimmed selector) = true) :
    selectorPattern selector = ".*" := by
  rw [selectorPattern, if_pos all]

theorem selectorPattern_else {selector : String} (some : selectsAll (trimmed selector) = false)
    (comma : ',' ∉ (trimmed selector).toList) : selectorPattern selector = trimmed selector := by
  have none : (trimmed selector).toList.contains ',' = false := by simpa using comma
  rw [selectorPattern, some, if_neg (by simp), none, if_neg (by simp)]

end Search

namespace Service

def named (s : Service) (wanted : String -> Bool) : List Nat :=
  (List.range s.fleet.checkouts.length).filter fun i => wanted (s.checkout i).name

theorem choose_names (s : Service) (selector : Selector) :
    selector.choose s.fleet.names = s.named selector.accepts := by
  have places : List.range s.fleet.checkouts.length = s.fleet.names.zipIdx.map (·.2) := by
    rw [List.zipIdx_map_snd, List.range_eq_range', Fleet.names, List.length_map]
  rw [Selector.choose, named, places, List.filter_map]
  refine congrArg _ (List.filter_congr fun e member => ?_)
  rw [Function.comp_apply, Web.checkout_name (List.mem_zipIdx_iff_getElem?.mp member)]

theorem select_eq (s : Service) (selector : String) :
    s.select selector = (Pattern.compile (selectorPattern selector)).map fun p =>
      s.named fun name => p.occursIn name.toList := by
  rw [select, Selector.read]
  cases Pattern.compile (selectorPattern selector) with
  | error refusal => rfl
  | ok p => exact congrArg Except.ok (s.choose_names { pattern := p })

theorem mem_named {s : Service} {wanted : String -> Bool} {i : Nat} :
    i ∈ s.named wanted ↔ i < s.fleet.checkouts.length ∧ wanted (s.checkout i).name = true := by
  rw [named, List.mem_filter, List.mem_range]

theorem select_listed {s : Service} {selector : String} (comma : ',' ∈ (trimmed selector).toList)
    (fits : Pattern.compile (selectorPattern selector) ≠ .error .tooLarge) :
    s.select selector = .ok (s.named (items selector).contains) := by
  rw [selectorPattern_listed comma] at fits
  obtain ⟨p, read, meaning⟩ := Pattern.compile_oneOf
    (List.map_eq_nil_iff.not.mpr (items_ne_nil selector)) fits
  rw [select_eq, selectorPattern_listed comma, read]
  refine congrArg (fun wanted => Except.ok (s.named wanted)) (funext fun name => ?_)
  rw [meaning, Bool.eq_iff_iff, List.contains_iff_mem, List.contains_iff_mem]
  exact List.mem_map_of_injective fun _ _ => String.toList_injective

theorem select_all {s : Service} {selector : String}
    (all : trimmed selector = "" ∨ trimmed selector = "*") :
    s.select selector = .ok s.allCheckouts := by
  obtain ⟨p, read, everywhere⟩ := Pattern.occursIn_anything
  rw [select_eq, selectorPattern_all (selectsAll_iff.mpr all), read]
  refine congrArg Except.ok (List.filter_eq_self.mpr fun i _ => ?_)
  exact everywhere _

end Service

namespace Fleet

theorem indexOf?_unique {f : Fleet} (unique : f.names.Nodup) {name : String} {i : Nat}
    (there : f.names[i]? = some name) : f.indexOf? name = some i := by
  cases found : f.indexOf? name with
  | none =>
    have missing := indexOf?_none.mp found
    exact absurd (List.mem_of_getElem? there) (by simpa using missing)
  | some j =>
    obtain ⟨within, _⟩ := List.getElem?_eq_some_iff.mp there
    have same := (List.getElem?_inj within unique).mp (there.trans (indexOf?_name found).symm)
    rw [same]

end Fleet

namespace Web

variable {s : Service} {selector : String}

theorem mem_targets_iff (unique : s.fleet.names.Nodup) (nonempty : "" ∉ s.fleet.names)
    (comma : ',' ∈ (trimmed selector).toList) (i : Nat) :
    i ∈ targets s.fleet selector ↔ i ∈ s.named (items selector).contains := by
  rw [targets, not_selectsAll comma, if_neg (by simp), Service.mem_named, List.contains_iff_mem]
  constructor
  · intro member
    obtain ⟨name, among, found⟩ := List.mem_filterMap.mp member
    have there := Fleet.indexOf?_name found
    obtain ⟨within, _⟩ := List.getElem?_eq_some_iff.mp there
    rw [checkout_name there]
    exact ⟨by simpa [Fleet.names] using within, List.mem_of_mem_filter among⟩
  · rintro ⟨within, among⟩
    have here : i < s.fleet.names.length := by simpa [Fleet.names] using within
    have there := List.getElem?_eq_getElem here
    rw [checkout_name there] at among
    have given : s.fleet.names[i] ≠ "" := fun empty => nonempty (empty ▸ List.getElem_mem here)
    exact List.mem_filterMap.mpr ⟨_, List.mem_filter.mpr ⟨among, by simpa using given⟩,
      Fleet.indexOf?_unique unique there⟩

theorem accepted_update {routes : Routes} {r : Request} (posts : Posts r selector)
    (accepted : (answer routes s r).1.status = 200) :
    (answer routes s r).2 = { s with fleet := s.fleet.asked (targets s.fleet selector) .update } := by
  rw [answer_posts posts, updateAnswer_posts posts, updateTargets_eq] at accepted ⊢
  cases missing : unknown? s.fleet selector with
  | some name =>
    rw [missing] at accepted
    exact absurd accepted (by decide : (404 : Nat) ≠ 200)
  | none =>
    rw [missing] at accepted
    cases denied : (targets s.fleet selector).find? fun i => !(s.checkout i).repo.acceptsPush with
    | some i =>
      simp only [denied] at accepted
      exact absurd accepted (by decide : (403 : Nat) ≠ 200)
    | none => rfl

/-- What a selector chooses: all repositories, those of the names between its commas, whatever
characters they are made of, or those in whose names it occurs as a pattern; always in their order
and each once. An update that lists names asks for the same repositories. -/
theorem selector_chooses (s : Service) (selector : String) :
    (trimmed selector = "" ∨ trimmed selector = "*" -> s.select selector = .ok s.allCheckouts) ∧
    (',' ∈ (trimmed selector).toList ->
      Pattern.compile (selectorPattern selector) ≠ .error .tooLarge ->
      s.select selector = .ok (s.named fun name => name ∈ items selector) ∧
      (s.fleet.names.Nodup -> "" ∉ s.fleet.names -> ∀ (routes : Routes) (r : Request),
        Posts r selector -> (answer routes s r).1.status = 200 ->
        (answer routes s r).2 =
            { s with fleet := s.fleet.asked (targets s.fleet selector) .update } ∧
          ∀ i, i ∈ targets s.fleet selector ↔ i ∈ s.named fun name => name ∈ items selector)) ∧
    (trimmed selector ≠ "" -> trimmed selector ≠ "*" -> ',' ∉ (trimmed selector).toList ->
      s.select selector = (Pattern.compile (trimmed selector)).map fun p =>
        s.named fun name => p.occursIn name.toList) := by
  have same : (fun name => decide (name ∈ items selector)) = (items selector).contains :=
    funext fun name => by rw [Bool.eq_iff_iff, List.contains_iff_mem, decide_eq_true_iff]
  refine ⟨Service.select_all, fun comma fits => ⟨?_, fun unique nonempty routes r posts accepted =>
    ⟨accepted_update posts accepted, ?_⟩⟩, fun some star comma => ?_⟩
  · rw [same, Service.select_listed comma fits]
  · rw [same]
    exact mem_targets_iff unique nonempty comma
  · have rest : selectsAll (trimmed selector) = false := by
      rw [← Bool.not_eq_true, selectsAll_iff]
      exact not_or_intro some star
    rw [Service.select_eq, selectorPattern_else rest comma]

-- Names that mean more than themselves as patterns.
def oddNames : Service :=
  { oneOpen with
    fleet :=
      { checkouts := ["axb", "a.b", "x", "x\n|y"].map fun name =>
          { repo := { name, push := some true }, dir := "/" ++ name }
        permits := 1 } }

-- Lists are exact and patterns are not; an update that repeats a name asks twice for it.
theorem oddNames_chosen :
    oddNames.select "x\n|y, a.b ,a.b" = .ok [1, 3] ∧
    ((answer plainRoutes oddNames (update "repos=x%0A%7Cy%2C+a.b+%2Ca.b")).2.fleet.jobs.map
      fun job => job.repo) = [3, 1, 1] ∧
    oddNames.select " a.b" = .ok [0, 1] ∧
    oddNames.select " * " = .ok [0, 1, 2, 3] := by
  have posts : Posts (update "repos=x%0A%7Cy%2C+a.b+%2Ca.b") "x\n|y, a.b ,a.b" :=
    update_posts (by decide +kernel)
  obtain ⟨-, listed, -⟩ := selector_chooses oddNames "x\n|y, a.b ,a.b"
  obtain ⟨chosen, asks⟩ := listed (by decide +kernel) (by decide +kernel)
  obtain ⟨asked, -⟩ := asks (by decide +kernel) (by decide +kernel) plainRoutes _ posts
    (by decide +kernel)
  obtain ⟨-, -, matched⟩ := selector_chooses oddNames " a.b"
  obtain ⟨all, -⟩ := selector_chooses oddNames " * "
  refine ⟨chosen.trans (by decide +kernel), ?_, ?_, all (by decide +kernel)⟩
  · rw [asked]
    decide +kernel
  · exact (matched (by decide +kernel) (by decide +kernel) (by decide +kernel)).trans
      (by decide +kernel)

end Web

end FleetSearch
