import FleetSearch.Proofs.Checkout.Phases

set_option autoImplicit false

/-!
Volumes in which a directory looks alike. A probe or a fetch can tell them apart by nothing, so what
it finds does not depend on when it looks as long as the directory stays as it is.
-/

namespace FleetSearch.Checkout

open FleetSearch.Disk FleetSearch.Search

theorem findIdx_congr {A : Type} {p q : A -> Bool} {xs : List A} (same : ∀ x ∈ xs, p x = q x) :
    xs.findIdx p = xs.findIdx q := by
  induction xs with
  | nil => rfl
  | cons x rest ih =>
    rw [List.findIdx_cons, List.findIdx_cons, same x List.mem_cons_self,
      ih fun y member => same y (List.mem_cons_of_mem _ member)]

/-- The directory is there in both or in neither, with the same files and the same texts in them. -/
structure Alike (dir : String) (v w : Volume) : Prop where
  present : v.isDir dir = w.isDir dir
  listing : ∀ excludeDotFiles, walk v dir excludeDotFiles = walk w dir excludeDotFiles
  texts : ∀ excludeDotFiles, ∀ f ∈ (walk v dir excludeDotFiles).files,
    v.readText f.path = w.readText f.path

namespace Alike

variable {dir : String} {u v w : Volume}

theorem refl (dir : String) (v : Volume) : Alike dir v v :=
  ⟨rfl, fun _ => rfl, fun _ _ _ => rfl⟩

theorem symm (alike : Alike dir v w) : Alike dir w v where
  present := alike.present.symm
  listing := fun dots => (alike.listing dots).symm
  texts := fun dots f member => (alike.texts dots f (alike.listing dots ▸ member)).symm

theorem trans (first : Alike dir u v) (second : Alike dir v w) : Alike dir u w where
  present := first.present.trans second.present
  listing := fun dots => (first.listing dots).trans (second.listing dots)
  texts := fun dots f member =>
    (first.texts dots f member).trans (second.texts dots f (first.listing dots ▸ member))

theorem probe (alike : Alike dir v w) (dots : Bool) (query : String) (o : Options) :
    Checkout.probe v dir dots query o = Checkout.probe w dir dots query o := by
  have ready : prepare v dir query o = prepare w dir query o := by
    rw [prepare, prepare, alike.present]
  have hits : ∀ (pattern : Pattern) (filter : PathFilter),
      ((walk v dir dots).files.filter fun f => filter.accepts f.name).findIdx (isHit v pattern) =
        ((walk v dir dots).files.filter fun f => filter.accepts f.name).findIdx
          (isHit w pattern) := fun pattern filter => by
    refine findIdx_congr fun f member => ?_
    rw [isHit, isHit, alike.texts dots f (List.mem_filter.mp member).1]
  simp only [Checkout.probe, ready, ← alike.listing dots, hits]

theorem texts_of_probe (alike : Alike dir v w) {dots : Bool} {query : String} {o : Options}
    {finding : Finding Candidates} (probed : Checkout.probe v dir dots query o = .ok finding) :
    finding.payload.texts w = finding.payload.texts v := by
  obtain ⟨filter, _, files, _⟩ := probe_ok probed
  refine List.filterMap_congr fun f member => ?_
  have walked : f ∈ (walk v dir dots).files := by
    have candidate := List.mem_of_mem_drop member
    rw [files] at candidate
    exact (List.mem_filter.mp candidate).1
  rw [alike.texts dots f walked]

theorem fetch_of_probe (alike : Alike dir v w) {dots : Bool} {query : String} {o : Options}
    {finding : Finding Candidates} (probed : Checkout.probe v dir dots query o = .ok finding)
    (revision : String) (later : Options) :
    Checkout.fetch w revision finding.payload later =
      Checkout.fetch v revision finding.payload later := by
  rw [Checkout.fetch, Checkout.fetch, alike.texts_of_probe probed]

end Alike

end FleetSearch.Checkout
