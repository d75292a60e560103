import FleetSearch.Proofs.Text.Trimmed
import FleetSearch.Web.Api

set_option autoImplicit false

namespace FleetSearch

namespace Fleet

open FleetSearch.Sync

def asked (f : Fleet) (targets : List Nat) (asker : Asker) : Fleet :=
  { f with
    permits := f.permits - targets.length
    jobs := f.jobs
      ++ (targets.take f.permits).map
        (fun repo => { repo, asker, stage := .waiting (.start f.now) })
      ++ (targets.drop f.permits).map (fun repo => { repo, asker, stage := .queued })
    queue := f.queue ++ List.range' (f.jobs.length + f.permits) (targets.length - f.permits) }

theorem foldl_request (f : Fleet) (targets : List Nat) (asker : Asker) :
    targets.foldl (fun f i => f.request i asker) f = f.asked targets asker := by
  induction targets generalizing f with
  | nil => simp [asked]
  | cons i rest ih =>
    rw [List.foldl_cons, ih]
    cases free : f.permits with
    | zero => simp [asked, request, free, List.range'_succ]
    | succ permits => simp [asked, request, free, Nat.add_assoc, Nat.add_comm 1]

theorem indexOf?_none {f : Fleet} {name : String} :
    f.indexOf? name = none ↔ f.names.contains name = false := by
  rw [indexOf?, List.findIdx?_eq_none_iff, ← Bool.not_eq_true, List.contains_iff_mem, names,
    List.mem_map]
  simp

theorem indexOf?_name {f : Fleet} {name : String} {i : Nat} (found : f.indexOf? name = some i) :
    f.names[i]? = some name := by
  obtain ⟨within, same, _⟩ := List.findIdx?_eq_some_iff_getElem.mp found
  simpa [names, within] using same

end Fleet

namespace Web

open FleetSearch.Search FleetSearch.Text

def listed (selector : String) : List String :=
  ((selector.toList.splitOn ',').map fun piece => String.ofList (trim piece)).filter (· ≠ "")

def unknown? (f : Fleet) (selector : String) : Option String :=
  if selectsAll (trimmed selector) then none
  else (listed selector).find? fun name => !f.names.contains name

def wanted (f : Fleet) (selector : String) : List String :=
  if selectsAll (trimmed selector) then f.names else listed selector

def targets (f : Fleet) (selector : String) : List Nat :=
  if selectsAll (trimmed selector) then List.range f.checkouts.length
  else (listed selector).filterMap f.indexOf?

theorem listed_trimmed (selector : String) :
    (commaNames (trimmed selector)).filter (fun name => !name.isEmpty) = listed selector := by
  have names : commaNames (trimmed selector) =
      ((selector.toList.splitOn ',').map trim).map String.ofList := by
    rw [← pieces_trim, List.map_map, commaNames, trimmed, String.toList_ofList]
    rfl
  rw [names, listed, List.map_map]
  refine List.filter_congr fun name _ => Bool.eq_iff_iff.mpr ?_
  simp

variable {f : Fleet} {selector : String}

theorem mapM_places {place : String -> Except Response Nat}
    (found : ∀ name i, f.indexOf? name = some i -> place name = .ok i)
    (missing : ∀ name, f.indexOf? name = none -> place name = .error (unknownRepo name))
    (names : List String) :
    names.mapM place =
      match names.find? fun name => !f.names.contains name with
      | some name => .error (unknownRepo name)
      | none => .ok (names.filterMap f.indexOf?) := by
  induction names with
  | nil => rfl
  | cons name rest ih =>
    rw [List.mapM_cons, ih]
    cases there : f.indexOf? name with
    | none =>
      have unknown := Fleet.indexOf?_none.mp there
      rw [missing name there, List.find?_cons_of_pos (by simpa using unknown)]
      rfl
    | some i =>
      have known : f.names.contains name = true := by
        rw [← Bool.not_eq_false, ← Fleet.indexOf?_none, there]
        nofun
      rw [found name i there, List.find?_cons_of_neg (by simpa using known),
        List.filterMap_cons_some there]
      cases rest.find? fun name => !f.names.contains name <;> rfl

theorem updateTargets_eq (s : Service) (selector : String) :
    updateTargets s selector =
      match unknown? s.fleet selector with
      | some name => .error (unknownRepo name)
      | none =>
        match (targets s.fleet selector).find? fun i => !(s.checkout i).repo.acceptsPush with
        | some i => .error
          (.failure 403 ("Push updates are not enabled for repository " ++ (s.checkout i).name))
        | none => .ok (targets s.fleet selector) := by
  unfold updateTargets unknown? targets
  dsimp only
  by_cases all : selectsAll (trimmed selector) = true
  next =>
    rw [if_pos all, if_pos all, if_pos all]
    rfl
  next =>
    rw [if_neg all, if_neg all, if_neg all, listed_trimmed,
      mapM_places (fun _ _ there => by rw [there]) (fun _ there => by rw [there])]
    cases (listed selector).find? fun name => !s.fleet.names.contains name <;> rfl

theorem checkout_name {s : Service} {name : String} {i : Nat}
    (there : s.fleet.names[i]? = some name) : (s.checkout i).name = name := by
  rw [Fleet.names, List.getElem?_map] at there
  obtain ⟨c, here, rfl⟩ := Option.map_eq_some_iff.mp there
  rw [Service.checkout, Fleet.checkout?, here]
  rfl

theorem targets_names (s : Service) (known : unknown? s.fleet selector = none) :
    (targets s.fleet selector).map (fun i => (s.checkout i).name) = wanted s.fleet selector := by
  unfold targets wanted
  unfold unknown? at known
  by_cases all : selectsAll (trimmed selector) = true
  next =>
    rw [if_pos all, if_pos all]
    refine List.ext_getElem (by simp [Fleet.names]) fun i _ within => ?_
    rw [List.getElem_map, List.getElem_range]
    exact checkout_name (List.getElem?_eq_getElem within)
  next =>
    rw [if_neg all] at known
    rw [if_neg all, if_neg all]
    have places := List.find?_eq_none.mp known
    generalize listed selector = names at places
    induction names with
    | nil => rfl
    | cons name rest ih =>
      obtain ⟨first, others⟩ := List.forall_mem_cons.mp places
      cases there : s.fleet.indexOf? name with
      | none => exact absurd (by simpa using Fleet.indexOf?_none.mp there) first
      | some i =>
        rw [List.filterMap_cons_some there, List.map_cons, ih others,
          checkout_name (Fleet.indexOf?_name there)]

theorem targets_inside (f : Fleet) (selector : String) :
    ∀ i ∈ targets f selector, i < f.checkouts.length := by
  intro i member
  unfold targets at member
  split at member
  next => exact List.mem_range.mp member
  next =>
    obtain ⟨name, _, there⟩ := List.mem_filterMap.mp member
    exact (List.findIdx?_eq_some_iff_getElem.mp there).1

theorem foldl_requestSync (s : Service) (targets : List Nat) (asker : Sync.Asker) :
    targets.foldl (fun s i => s.requestSync i asker) s =
      { s with fleet := s.fleet.asked targets asker } := by
  rw [← Fleet.foldl_request]
  induction targets generalizing s with
  | nil => rfl
  | cons i rest ih => exact ih (s.requestSync i asker)

structure Posts (r : Request) (selector : String) : Prop where
  method : r.method = "POST"
  path : r.path = updatePath
  form : r.contentType.startsWith formType = true
  field : Form.only? (Form.pairs r.body) "repos" = some selector

theorem answer_posts {r : Request} (posts : Posts r selector) (routes : Routes) (s : Service) :
    answer routes s r =
      ({ (updateAnswer s r).1 with bare := false }, (updateAnswer s r).2) := by
  have place : ∃ e, routes.endpoint? r.path = some e ∧ e.post = some .update := by
    rw [posts.path, Routes.endpoint?, if_neg (by decide), if_neg (by decide), if_pos rfl]
    exact ⟨_, rfl, rfl⟩
  obtain ⟨e, endpoint, post⟩ := place
  have handler : handlerOf e r.method = some .update := by
    rw [handlerOf, posts.method, if_neg (by decide), if_pos rfl, post]
  have full : (r.method == "HEAD") = false := by
    rw [posts.method]
    decide
  simp only [answer, endpoint, handler, full, handle]

theorem updateAnswer_posts {r : Request} (posts : Posts r selector) (s : Service) :
    updateAnswer s r =
      match updateTargets s selector with
      | .error response => (response, s)
      | .ok targets => (.json (.text "ok"), { s with fleet := s.fleet.asked targets .update }) := by
  simp only [updateAnswer, posts.form, posts.field, foldl_requestSync]
  rfl

/-- An update is refused as a whole for its first unknown name, or else for its first target that is
not open to updates, and nothing has changed then; or it starts one sync for each name. -/
theorem updates_all_or_nothing (routes : Routes) (s : Service) (r : Request) (selector : String)
    (posts : Posts r selector) :
    (∀ name, unknown? s.fleet selector = some name ->
      answer routes s r = (.failure 404 ("No such repository: " ++ name), s)) ∧
    (unknown? s.fleet selector = none ->
      (targets s.fleet selector).map (fun i => (s.checkout i).name) = wanted s.fleet selector ∧
      (∀ i, (targets s.fleet selector).find? (fun i => !(s.checkout i).repo.acceptsPush) = some i ->
        answer routes s r =
          (.failure 403 ("Push updates are not enabled for repository " ++ (s.checkout i).name),
            s)) ∧
      ((∀ i ∈ targets s.fleet selector, (s.checkout i).repo.acceptsPush = true) ->
        answer routes s r =
          (.json (.text "ok"),
            { s with fleet := s.fleet.asked (targets s.fleet selector) .update }))) := by
  rw [answer_posts posts, updateAnswer_posts posts, updateTargets_eq]
  refine ⟨fun name missing => ?_, fun known => ⟨targets_names s known, fun i denied => ?_,
    fun allowed => ?_⟩⟩
  · rw [missing]
    rfl
  · rw [known]
    simp only [denied]
    rfl
  · have unbarred : (targets s.fleet selector).find? (fun i => !(s.checkout i).repo.acceptsPush) =
        none := by
      simpa using allowed
    rw [known]
    simp only [unbarred]
    rfl

def oneOpen : Service where
  catalog := default
  volume := default
  fleet :=
    { checkouts :=
        [{ repo := { name := "a", push := some true }, dir := "/a" },
          { repo := { name := "b" }, dir := "/b" }]
      permits := 1 }
  searches := default

def plainRoutes : Routes where
  healthPath := "/healthz"
  health := "/healthz".toList.map Piece.char

def update (body : String) : Request where
  method := "POST"
  path := updatePath
  contentType := formType
  body

theorem update_posts {body selector : String}
    (field : Form.only? (Form.pairs body) "repos" = some selector) : Posts (update body) selector :=
  ⟨rfl, rfl, (by decide +kernel : formType.startsWith formType = true), field⟩

-- A name that is unknown goes before one that is not open, and a name that is listed twice is
-- synced twice: by the only permit that is free, and by the next.
theorem oneOpen_updates :
    answer plainRoutes oneOpen (update "repos=b%2C+x") =
      (.failure 404 "No such repository: x", oneOpen) ∧
    answer plainRoutes oneOpen (update "repos=a%2Cb") =
      (.failure 403 "Push updates are not enabled for repository b", oneOpen) ∧
    answer plainRoutes oneOpen (update "repos=+a%2C%2Ca+") =
      (.json (.text "ok"),
        { oneOpen with
          fleet :=
            { oneOpen.fleet with
              permits := 0
              jobs :=
                [{ repo := 0, asker := .update, stage := .waiting { due := 0, deadline := 30000 } },
                  { repo := 0, asker := .update, stage := .queued }]
              queue := [1] } }) := by
  have mixed : Posts (update "repos=b%2C+x") "b, x" := update_posts (by decide +kernel)
  have denied : Posts (update "repos=a%2Cb") "a,b" := update_posts (by decide +kernel)
  have twice : Posts (update "repos=+a%2C%2Ca+") " a,,a " := update_posts (by decide +kernel)
  refine ⟨(updates_all_or_nothing plainRoutes oneOpen _ _ mixed).1 "x" (by decide +kernel),
    ((updates_all_or_nothing plainRoutes oneOpen _ _ denied).2 (by decide +kernel)).2.1 1
      (by decide +kernel), ?_⟩
  have places : targets oneOpen.fleet " a,,a " = [0, 0] := by decide +kernel
  have unbarred : ∀ i ∈ targets oneOpen.fleet " a,,a ",
      (oneOpen.checkout i).repo.acceptsPush = true := by
    decide +kernel
  have accepted := ((updates_all_or_nothing plainRoutes oneOpen _ _ twice).2
    (by decide +kernel)).2.2 unbarred
  rw [places] at accepted
  exact accepted

end Web

end FleetSearch
