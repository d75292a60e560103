import FleetSearch.Proofs.Disk.Follow
import Mathlib.Data.List.Induction

set_option autoImplicit false

namespace FleetSearch.Disk

open FleetSearch.Disk.Path

structure IsEntryName (name : String) : Prop extends IsFileName name where
  whole : '\x00' ∉ name.toList
  short : name.utf8ByteSize ≤ Volume.longestName

inductive Node.IsTidy : Node -> Prop
  | file (data : ByteArray) : IsTidy (.file data)
  | link (target : String) : IsTidy (.link target)
  | dir {entries : List (String × Node)} (once : (entries.map Prod.fst).Nodup)
      (named : ∀ e ∈ entries, IsEntryName e.1) (below : ∀ e ∈ entries, IsTidy e.2) :
      IsTidy (.dir entries)

instance (name : String) : Decidable (IsEntryName name) :=
  decidable_of_iff (name ≠ "" ∧ (name ≠ "." ∧ name ≠ "..") ∧ '/' ∉ name.toList ∧
      '\x00' ∉ name.toList ∧ name.utf8ByteSize ≤ Volume.longestName)
    ⟨fun ⟨given, own, plain, whole, short⟩ => ⟨⟨given, own, plain⟩, whole, short⟩,
      fun fit => ⟨fit.some, fit.own, fit.plain, fit.whole, fit.short⟩⟩

mutual

def Node.isTidy : Node -> Bool
  | .file _ => true
  | .link _ => true
  | .dir entries => Decidable.decide (entries.map Prod.fst).Nodup && areTidy entries

def Node.areTidy : List (String × Node) -> Bool
  | [] => true
  | (name, node) :: rest => Decidable.decide (IsEntryName name) && node.isTidy && areTidy rest

end

mutual

theorem Node.tidy_of_isTidy : (tree : Node) -> tree.isTidy = true -> tree.IsTidy
  | .file data, _ => .file data
  | .link target, _ => .link target
  | .dir entries, tidy => by
    rw [isTidy, Bool.and_eq_true, decide_eq_true_iff] at tidy
    obtain ⟨named, below⟩ := tidy_of_areTidy entries tidy.2
    exact .dir tidy.1 named below

theorem Node.tidy_of_areTidy : (entries : List (String × Node)) -> areTidy entries = true ->
    (∀ e ∈ entries, IsEntryName e.1) ∧ ∀ e ∈ entries, e.2.IsTidy
  | [], _ => by simp
  | (name, node) :: rest, tidy => by
    rw [areTidy, Bool.and_eq_true, Bool.and_eq_true, decide_eq_true_iff] at tidy
    obtain ⟨named, below⟩ := tidy_of_areTidy rest tidy.2
    have own := tidy_of_isTidy node tidy.1.2
    exact ⟨List.forall_mem_cons.mpr ⟨tidy.1.1, named⟩, List.forall_mem_cons.mpr ⟨own, below⟩⟩

end

theorem lookup_mem {entries : List (String × Node)} {name : String} {node : Node}
    (found : entries.lookup name = some node) : (name, node) ∈ entries := by
  obtain ⟨before, after, rfl, _⟩ := List.lookup_eq_some_iff.mp found
  simp

theorem lookup_of_mem {entries : List (String × Node)} {name : String} {node : Node}
    (once : (entries.map Prod.fst).Nodup) (member : (name, node) ∈ entries) :
    entries.lookup name = some node := by
  obtain ⟨before, after, rfl⟩ := List.append_of_mem member
  rw [List.map_append, List.nodup_append] at once
  refine List.lookup_eq_some_iff.mpr ⟨before, after, rfl, fun e among => ?_⟩
  have apart := once.2.2 e.1 (List.mem_map_of_mem among) name (by simp)
  simpa using apart.symm

namespace Node

variable {tree node : Node} {names : List String}

theorem child?_iff {name : String} :
    tree.child? name = some node ↔
      ∃ entries, tree = .dir entries ∧ entries.lookup name = some node := by
  cases tree <;> simp [child?]

theorem IsTidy.get? (tidy : tree.IsTidy) (there : tree.get? names = some node) :
    (∀ name ∈ names, IsEntryName name) ∧ node.IsTidy := by
  induction names generalizing tree with
  | nil =>
    obtain rfl := Option.some.inj there
    exact ⟨by simp, tidy⟩
  | cons name rest ih =>
    rw [Node.get?] at there
    obtain ⟨below, here, later⟩ := Option.bind_eq_some_iff.mp there
    obtain ⟨entries, rfl, found⟩ := child?_iff.mp here
    have member := lookup_mem found
    cases tidy with
    | dir _ named tidy =>
      have lower : below.IsTidy := tidy _ member
      obtain ⟨rest, last⟩ := ih lower later
      exact ⟨List.forall_mem_cons.mpr ⟨named _ member, rest⟩, last⟩

theorem IsTidy.fileNames (tidy : tree.IsTidy) (there : tree.get? names = some node) :
    ∀ name ∈ names, IsFileName name :=
  fun name member => ((tidy.get? there).1 name member).toIsFileName

end Node

def pathTo (dir : String) (names : List String) : String :=
  names.foldl join dir

theorem pathTo_concat (dir : String) (names : List String) (name : String) :
    pathTo dir (names ++ [name]) = join (pathTo dir names) name := by
  rw [pathTo, List.foldl_append]
  rfl

theorem filled_pathTo (dir : String) (names : List String)
    (fit : ∀ name ∈ names, IsFileName name) :
    filled (pathTo dir names).toList = filled dir.toList ++ names.map String.toList := by
  induction names using List.reverseRecOn with
  | nil => exact (List.append_nil _).symm
  | append_singleton names name ih =>
    have last := fit name (by simp)
    have before := ih fun name member => fit name (List.mem_append_left _ member)
    rw [pathTo_concat, filled_join _ _ last.relative, before, last.filled, List.map_append,
      List.append_assoc]
    rfl

theorem pathTo_injective {dir : String} {names others : List String}
    (fit : ∀ name ∈ names, IsFileName name) (fits : ∀ name ∈ others, IsFileName name)
    (same : pathTo dir names = pathTo dir others) : names = others := by
  have pieces := congrArg (fun p : String => filled p.toList) same
  rw [filled_pathTo dir names fit, filled_pathTo dir others fits] at pieces
  exact (List.map_inj_right fun _ _ => String.ext).mp (List.append_cancel_left pieces)

theorem fileName_join {name : String} (fit : IsFileName name) (base : String) :
    fileName (join base name) = some name := by
  have cut := filled_join base name fit.relative
  rw [fit.filled, filled, filled] at cut
  have ends : ∃ before, parts (join base name) = before ++ [.name name] := by
    unfold parts
    rw [cut, List.map_append, List.map_singleton, fit.partOf]
    cases ((pieces base.toList).filter fun piece => !piece.isEmpty).map partOf with
    | nil =>
      by_cases rooted : isAbsolute (join base name) = true
      next => exact ⟨[.root], by simp [rooted]⟩
      next => exact ⟨[], by simp [rooted]⟩
    | cons first rest =>
      have kept : (rest ++ [Part.name name]).filter (· != .here) =
          rest.filter (· != .here) ++ [.name name] := by simp
      rw [List.cons_append]
      simp only [kept]
      split
      next =>
        split
        next => exact ⟨.root :: rest.filter (· != .here), rfl⟩
        next => exact ⟨.root :: first :: rest.filter (· != .here), rfl⟩
      next => exact ⟨first :: rest.filter (· != .here), rfl⟩
  obtain ⟨before, ends⟩ := ends
  rw [fileName, ends, List.reverse_append]
  rfl

theorem fileName_pathTo {names : List String} {name : String}
    (last : names.getLast? = some name) (fit : IsFileName name) (dir : String) :
    fileName (pathTo dir names) = some name := by
  obtain ⟨front, rfl⟩ := List.getLast?_eq_some_iff.mp last
  rw [pathTo_concat, fileName_join fit]

theorem mem_join {c : Char} {base p : String} (member : c ∈ (join base p).toList) :
    c ∈ base.toList ∨ c = '/' ∨ c ∈ p.toList := by
  unfold join at member
  split at member
  next => exact .inr (.inr member)
  next =>
    split at member
    next =>
      rw [String.toList_append] at member
      exact (List.mem_append.mp member).imp_right .inr
    next =>
      rw [String.toList_append, String.toList_append, List.append_assoc] at member
      simpa using member

theorem notMem_pathTo {c : Char} (apart : c ≠ '/') {dir : String} {names : List String}
    (start : c ∉ dir.toList) (each : ∀ name ∈ names, c ∉ name.toList) :
    c ∉ (pathTo dir names).toList := by
  induction names using List.reverseRecOn with
  | nil => exact start
  | append_singleton names name ih =>
    rw [pathTo_concat]
    intro member
    rcases mem_join member with before | slash | last
    · exact ih (fun name member => each name (List.mem_append_left _ member)) before
    · exact apart slash
    · exact each name (by simp) last

theorem getLast?_join {name : String} (fit : IsFileName name) (base : String) :
    (join base name).toList.getLast? = name.toList.getLast? := by
  obtain ⟨front, last, ends⟩ := (List.eq_nil_or_concat name.toList).resolve_left
    (by simpa using fit.some)
  unfold join
  split
  next => rfl
  next => split <;> simp [ends, List.getLast?_cons]

theorem pathTo_ne_empty {dir : String} (there : dir ≠ "") {names : List String}
    (fit : ∀ name ∈ names, IsFileName name) : pathTo dir names ≠ "" := by
  intro empty
  have pieces := filled_pathTo dir names fit
  rw [empty] at pieces
  have none : names = [] := by
    simpa using (List.append_eq_nil_iff.mp pieces.symm).2
  exact there (by rwa [none] at empty)

theorem isAbsolute_pathTo {dir : String} (there : dir ≠ "") {names : List String}
    (fit : ∀ name ∈ names, IsFileName name) :
    isAbsolute (pathTo dir names) = isAbsolute dir := by
  induction names using List.reverseRecOn with
  | nil => rfl
  | append_singleton names name ih =>
    have before := fun other member => fit other (List.mem_append_left _ member)
    have last := fit name (by simp)
    rw [pathTo_concat, isAbsolute_join _ _ (pathTo_ne_empty there before) last.relative, ih before]

namespace Volume

variable {v : Volume} {dir : String} {node : Node} {names place : List String} {data : ByteArray}

theorem find_iff : v.find dir = .ok node ↔
    ∃ place, v.locate true dir = .ok place ∧ v.root.get? place = some node := by
  unfold find
  cases v.locate true dir with
  | error fault => simp [bind, Except.bind]
  | ok place =>
    cases there : v.root.get? place with
    | none => simp [there, bind, Except.bind, throw, throwThe, MonadExceptOf.throw]
    | some other => simp [there, bind, Except.bind, pure, Except.pure]

theorem steps_pathTo (dir : String) (some : names ≠ []) (fit : ∀ name ∈ names, IsFileName name) :
    steps (pathTo dir names) = (filled dir.toList).map String.ofList ++ names := by
  have ends : (pathTo dir names).toList.getLast? ≠ Option.some '/' := by
    obtain ⟨front, name, rfl⟩ := (List.eq_nil_or_concat names).resolve_left some
    have last := fit name (by simp)
    rw [List.concat_eq_append, pathTo_concat, getLast?_join last]
    exact fun slash => last.plain (List.mem_of_getLast? slash)
  rw [steps_eq, filled_pathTo dir names fit, List.map_append, List.map_map]
  simp [Function.comp_def, ends]

theorem Follows.filled {links : Nat} (follows : Follows v true links [] (steps dir) place) :
    Follows v true links [] ((filled dir.toList).map String.ofList) place := by
  rw [steps_eq] at follows
  obtain ⟨between, left, before, tail⟩ := follows.split
  split at tail
  next => rwa [tail.dot]
  next =>
    cases tail
    exact before

theorem follows_below (links : Nat) (here : v.root.get? place = some node) (tidy : node.IsTidy)
    (there : node.get? names = some (.file data)) :
    Follows v true links place names (place ++ names) := by
  induction names generalizing node place with
  | nil =>
    rw [List.append_nil]
    exact .done
  | cons name rest ih =>
    rw [Node.get?] at there
    obtain ⟨below, first, later⟩ := Option.bind_eq_some_iff.mp there
    obtain ⟨entries, rfl, found⟩ := Node.child?_iff.mp first
    have plain : ∀ target, below ≠ .link target := by
      rintro target rfl
      cases rest <;> simp [Node.get?, Node.child?] at later
    have onward : v.root.get? (place ++ [name]) = some below := by
      rw [Node.get?_concat, here]
      exact first
    cases tidy with
    | dir _ named tidy =>
      have named := named _ (lookup_mem found)
      have lower : below.IsTidy := tidy _ (lookup_mem found)
      have goesOn := ih onward lower later
      rw [List.append_assoc] at goesOn
      exact .name here named.own named.short found plain goesOn

theorem locate_below (located : v.locate true dir = .ok place)
    (here : v.root.get? place = some node) (tidy : node.IsTidy)
    (there : node.get? names = some (.file data)) :
    v.locate true (pathTo dir names) = .ok (place ++ names) := by
  obtain ⟨whole, given, relative, follows⟩ := locate_follows located
  have named := (tidy.get? there).1
  have fit := tidy.fileNames there
  by_cases none : names = []
  next =>
    subst none
    rw [List.append_nil]
    exact located
  next =>
    have absent : '\x00' ∉ (pathTo dir names).toList :=
      notMem_pathTo (by decide) whole fun name member => (named name member).whole
    rw [locate, if_neg (by simpa using absent),
      if_neg (by simp [pathTo_ne_empty given fit, isAbsolute_pathTo given fit, relative]),
      steps_pathTo dir none fit]
    exact follow_of_follows (follows.filled.append fun links => follows_below links here tidy there)

theorem readBytes_below (found : v.find dir = .ok node) (tidy : node.IsTidy)
    (there : node.get? names = some (.file data)) :
    v.readBytes (pathTo dir names) = .ok data := by
  obtain ⟨place, located, here⟩ := find_iff.mp found
  have file : v.find (pathTo dir names) = .ok (.file data) := by
    refine find_iff.mpr ⟨_, locate_below located here tidy there, ?_⟩
    rw [Node.get?_append, here]
    exact there
  rw [readBytes, file]
  rfl

end Volume

end FleetSearch.Disk
