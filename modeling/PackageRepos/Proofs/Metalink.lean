import PackageRepos.Metalink

/-!
# The order of preference

A ranking lists all sites with their places in the document so that no site comes before one that is
preferred to it, and that sites which are preferred alike come in the order of the document. There
is one such ranking, and ordering sites by preference yields its sites.
-/

namespace PackageRepos
namespace Metalink

variable {sites ranked : List MetalinkUrl} {ranking other : List (MetalinkUrl × Nat)}

/-- The sites with their places in the document, in the order of preference. -/
structure IsRanking (sites : List MetalinkUrl) (ranking : List (MetalinkUrl × Nat)) : Prop where
  /-- The site at every place is listed once. -/
  complete : ranking.Perm sites.zipIdx
  /-- Preferences never increase. -/
  descending : ranking.Pairwise fun before after => after.1.preference ≤ before.1.preference
  /-- Sites of one preference keep their order. -/
  stable : ranking.Pairwise fun before after =>
    before.1.preference = after.1.preference → before.2 < after.2

/-- The same sites in the order of preference. -/
def IsRanked (sites ranked : List MetalinkUrl) : Prop :=
  ∃ ranking, IsRanking sites ranking ∧ ranked = ranking.map Prod.fst

theorem precedes_trans (first second third : MetalinkUrl) (early : precedes first second)
    (late : precedes second third) : precedes first third := by
  simp only [precedes, decide_eq_true_eq] at *
  omega

theorem precedes_total (first second : MetalinkUrl) :
    (precedes first second || precedes second first) = true := by
  simp only [precedes, Bool.or_eq_true, decide_eq_true_eq]
  omega

theorem zipIdxLE_precedes_iff {before after : MetalinkUrl × Nat} :
    List.zipIdxLE precedes before after = true ↔
      after.1.preference ≤ before.1.preference ∧
        (before.1.preference = after.1.preference → before.2 ≤ after.2) := by
  simp only [List.zipIdxLE, precedes, decide_eq_true_eq]
  split
  · split <;> simp <;> omega
  · simp; omega

/-- Sorting the sites with their places ranks them. -/
theorem isRanking_mergeSort (sites : List MetalinkUrl) :
    IsRanking sites (sites.zipIdx.mergeSort (List.zipIdxLE precedes)) := by
  have complete := List.mergeSort_perm sites.zipIdx (List.zipIdxLE precedes)
  have sorted := List.pairwise_mergeSort (List.zipIdxLE_trans precedes_trans)
    (List.zipIdxLE_total precedes_total) sites.zipIdx
  have distinct : (sites.zipIdx.mergeSort (List.zipIdxLE precedes)).Pairwise
      fun before after => before.2 ≠ after.2 := by
    rw [← List.pairwise_map, ← List.Nodup, (complete.map Prod.snd).nodup_iff, List.zipIdx_map_snd]
    exact List.nodup_range'
  refine ⟨complete, sorted.imp fun ordered => (zipIdxLE_precedes_iff.mp ordered).1, ?_⟩
  refine sorted.imp₂ (fun _ _ ordered different same => ?_) distinct
  have := (zipIdxLE_precedes_iff.mp ordered).2 same
  omega

/-- There is one ranking of sites. -/
theorem IsRanking.unique (first : IsRanking sites ranking) (second : IsRanking sites other) :
    ranking = other := by
  refine List.Perm.eq_of_pairwise ?_ (first.descending.and first.stable)
    (second.descending.and second.stable) (first.complete.trans second.complete.symm)
  rintro before after - - ⟨falling, early⟩ ⟨rising, late⟩
  have same : before.1.preference = after.1.preference := by omega
  have := early same
  have := late same.symm
  omega

theorem map_fst_mergeSort (sites : List MetalinkUrl) :
    (sites.zipIdx.mergeSort (List.zipIdxLE precedes)).map Prod.fst = sites.mergeSort precedes :=
  List.mergeSort_zipIdx

theorem isRanked_iff : IsRanked sites ranked ↔ ranked = sites.mergeSort precedes := by
  constructor
  · rintro ⟨ranking, isRanking, rfl⟩
    rw [isRanking.unique (isRanking_mergeSort sites), map_fst_mergeSort]
  · rintro rfl
    exact ⟨_, isRanking_mergeSort sites, (map_fst_mergeSort sites).symm⟩

theorem urls_foldl_addUrl (metalink : Metalink) (sites : List MetalinkUrl) :
    (sites.foldl addUrl metalink).urls = metalink.urls ++ sites := by
  induction sites generalizing metalink with
  | nil => simp
  | cons site rest ih => simp [ih, addUrl]

/-- The sites that were added stand after the others in the order in which they were added, and
ordering all of them by preference yields the only list of the same sites in which preferences never
increase and sites of one preference keep their order. -/
theorem isRanked_addUrl_iff (metalink : Metalink) (sites ranked : List MetalinkUrl) :
    (sites.foldl addUrl metalink).urls = metalink.urls ++ sites ∧
      (IsRanked (metalink.urls ++ sites) ranked ↔
        ranked = (sites.foldl addUrl metalink).urlsByPreference) := by
  have listed := urls_foldl_addUrl metalink sites
  refine ⟨listed, ?_⟩
  rw [urlsByPreference, listed]
  exact isRanked_iff

/-- Sites that are preferred alike keep the order of the document. -/
example :
    let urls := [{ url := ['a'] }, { url := ['b'], preference := 5 }, { url := ['c'] }]
    ({ urls } : Metalink).urlsByPreference.map (·.url) = [['b'], ['a'], ['c']] := by
  cbv

end Metalink
end PackageRepos
