import TransitForecast.Proofs.Partition

/-!
# TransitForecast — which model a segment is bound to

A segment asks the registry for the model that bears the name of its stops, and a model is named
after the stops that it was trained on. So the two runs of stops have the same name. A name is the
ids of the stops with underscores between them, and from it the ids can be told as long as they hold
no underscore themselves; then the model was trained on the very stops of the segment. Of ids with
underscores several runs may share a name, and the registry cannot tell them apart.

## Results

* `TravelModel.nameFor_injOn`        — runs of plain ids that share a name are the same.
* `Trust.model_eq_forRun`            — a segment has the model that bears the name of its stops.
* `ModelRegistry.trainedOn_ofModels` — a snapshot of named models is a registry of named models.
* `Trust.bound_by_name`              — what the stops of a segment and of its model have in common.
-/

namespace TransitForecast

namespace TravelModel

/-- Ids of stops that do not hold the separator of a name. -/
def Plain (stopIds : List String) : Prop := ∀ id ∈ stopIds, '_' ∉ id.toList

instance (stopIds : List String) : Decidable (Plain stopIds) :=
  inferInstanceAs (Decidable (∀ id ∈ stopIds, '_' ∉ id.toList))

theorem toList_nameFor (stopIds : List String) :
    (nameFor stopIds).toList = ['_'].intercalate (stopIds.map String.toList) :=
  String.toList_intercalate

/-- The name of two or more stops holds an underscore. -/
theorem nameFor_ne_empty {stopIds : List String} (h : 2 ≤ stopIds.length) :
    nameFor stopIds ≠ "" := by
  match stopIds, h with
  | a :: b :: rest, _ =>
    intro hEmpty
    have hChars := toList_nameFor (a :: b :: rest)
    rw [hEmpty, List.map_cons, List.map_cons, List.intercalate_cons_cons] at hChars
    simp at hChars

theorem splitOn_nameFor {stopIds : List String} (hSome : stopIds ≠ []) (hPlain : Plain stopIds) :
    (nameFor stopIds).toList.splitOn '_' = stopIds.map String.toList := by
  rw [toList_nameFor]
  refine List.splitOn_intercalate '_' (fun part hPart => ?_) (by simpa using hSome)
  obtain ⟨id, hId, rfl⟩ := List.mem_map.1 hPart
  exact hPlain id hId

/-- Runs of plain ids that share a name are the same, if one of them has two stops. -/
theorem nameFor_injOn {ids ids' : List String} (hTwo : 2 ≤ ids.length) (hPlain : Plain ids)
    (hPlain' : Plain ids') (h : nameFor ids = nameFor ids') : ids = ids' := by
  have hSome : ids ≠ [] := by
    rintro rfl
    cases hTwo
  have hSome' : ids' ≠ [] := by
    rintro rfl
    exact nameFor_ne_empty hTwo h
  have hParts := splitOn_nameFor hSome hPlain
  rw [h, splitOn_nameFor hSome' hPlain'] at hParts
  exact ((List.map_inj_right fun _ _ => String.toList_injective).1 hParts).symm

end TravelModel

/-- Whether every model of a registry stands under its own name, which is that of the stops on which
it was trained. -/
def ModelRegistry.TrainedOn (models : ModelRegistry) (trained : TravelModel → List String) : Prop :=
  ∀ name m, models.find? name = some m → m.name = name ∧ name = TravelModel.nameFor (trained m)

/-- What a list of models is indexed by: each model that is found is one of the list. -/
theorem ModelRegistry.mem_of_find?_ofModels {listed : List TravelModel} {name : String}
    {m : TravelModel} (h : (ofModels listed).find? name = some m) : m ∈ listed ∧ m.name = name := by
  unfold ofModels Table.ofList at h
  rw [List.foldl_map] at h
  refine List.foldlRecOn
    (motive := fun t => ∀ m, Table.find? t name = some m → m ∈ listed ∧ m.name = name)
    listed _ (fun m hFound => ?_) (fun t ih x hx m hFound => ?_) m h
  · rw [Table.find?_empty] at hFound
    cases hFound
  · rw [Table.find?_insert] at hFound
    split at hFound
    · rename_i hName
      cases hFound
      exact ⟨hx, hName.symm⟩
    · exact ih m hFound

/-- A snapshot of models that are named after their stops. -/
theorem ModelRegistry.trainedOn_ofModels {listed : List TravelModel}
    {trained : TravelModel → List String}
    (h : ∀ m ∈ listed, m.name = TravelModel.nameFor (trained m)) :
    (ofModels listed).TrainedOn trained := by
  intro name m hFound
  obtain ⟨hMem, hName⟩ := mem_of_find?_ofModels hFound
  exact ⟨hName, hName.symm.trans (h m hMem)⟩

namespace Trust

variable {t : Trust} {models : ModelRegistry} {run : List Stop} {lo : Nat} {s : Segment}

/-- A segment has the model that bears the name of its stops, whether it is a whole run or a pair of
stops. -/
theorem model_eq_forRun (h : s ∈ t.segments models run lo) :
    s.model = models.forRun s.stops := by
  unfold segments at h
  split at h
  · rename_i model hModel
    unfold wholeRunModel at hModel
    split at hModel
    · rename_i hLong
      obtain ⟨hFound, -⟩ := Option.filter_eq_some_iff.1 hModel
      obtain ⟨x, hx, hxModel, hxStops, -⟩ :=
        t.segment?_eq_some (some model) (Nat.le_of_lt hLong) lo
      rw [hx] at h
      obtain rfl : s = x := List.mem_singleton.1 h
      rw [hxModel, hxStops, hFound]
    · cases hModel
  · obtain ⟨found, hFound, hSome⟩ := List.mem_filterMap.1 h
    obtain rfl : found = some s := hSome
    obtain ⟨i, hi, hPair⟩ := List.mem_mapIdx.1 hFound
    obtain ⟨x, hx, hxModel, hxStops, -⟩ := t.segment?_eq_some
      (models.forRun [(stopPairs run)[i].1, (stopPairs run)[i].2])
      (Nat.le_refl [(stopPairs run)[i].1, (stopPairs run)[i].2].length) (lo + i)
    rw [hPair] at hx
    cases hx
    rw [hxModel, hxStops]

/-- When every model is named after the stops that it was trained on, a segment is bound to a model
only if the two runs of stops have the same name. They are the same stops in the same order, unless
an id on either side holds an underscore. -/
theorem bound_by_name {trained : TravelModel → List String} (hTrained : models.TrainedOn trained)
    (hs : s ∈ t.segments models run lo) {m : TravelModel} (hm : s.model = some m) :
    m.name = TravelModel.nameFor (s.stops.map Stop.id) ∧
    TravelModel.nameFor (s.stops.map Stop.id) = TravelModel.nameFor (trained m) ∧
    (TravelModel.Plain (s.stops.map Stop.id) → TravelModel.Plain (trained m) →
      s.stops.map Stop.id = trained m) := by
  rw [model_eq_forRun hs] at hm
  obtain ⟨hName, hShared⟩ := hTrained _ _ hm
  refine ⟨hName, hShared, fun hPlain hPlain' => ?_⟩
  refine TravelModel.nameFor_injOn ?_ hPlain hPlain' hShared
  rw [List.length_map]
  exact s.twoStops

end Trust

namespace Sample

/-- What the sample models were trained on. -/
def trainedOn (m : TravelModel) : List String :=
  if m.id = 7 then ["A", "B", "C"] else ["C", "D"]

def registry : ModelRegistry := .ofModels [model 7 "A_B_C", model 8 "C_D"]

theorem trainedOn_registry : registry.TrainedOn trainedOn :=
  ModelRegistry.trainedOn_ofModels (by decide +kernel)

/-- The segments of a run of stops, served a minute after each other. -/
def segmentsOf (stopIds : List String) : List Segment :=
  Trust.default.segments registry
    (stopIds.mapIdx fun i id => stop id (i + 1) (60 * i) false) 0

def wholeRun : Segment := (segmentsOf ["A", "B", "C"]).get ⟨0, by decide +kernel⟩

def pair : Segment := (segmentsOf ["C", "D"]).get ⟨0, by decide +kernel⟩

/-- A pair of which one id holds the underscore that a name has between two. -/
def lookalike : Segment := (segmentsOf ["A_B", "C"]).get ⟨0, by decide +kernel⟩

end Sample

namespace Trust

/-- A run of three stops is bound as a whole and a run of two as a pair, each to the model of its
own stops. -/
theorem bound_by_name_as_run_and_pair :
    Sample.registry.TrainedOn Sample.trainedOn ∧
    (Sample.wholeRun ∈ Sample.segmentsOf ["A", "B", "C"] ∧
      Sample.wholeRun.model = some (Sample.model 7 "A_B_C") ∧
      Sample.wholeRun.stops.map Stop.id = Sample.trainedOn (Sample.model 7 "A_B_C")) ∧
    Sample.pair ∈ Sample.segmentsOf ["C", "D"] ∧
      Sample.pair.model = some (Sample.model 8 "C_D") ∧
      Sample.pair.stops.map Stop.id = Sample.trainedOn (Sample.model 8 "C_D") := by
  have hRun : Sample.wholeRun ∈ Sample.segmentsOf ["A", "B", "C"] := List.getElem_mem _
  have hRunModel : Sample.wholeRun.model = some (Sample.model 7 "A_B_C") := by decide +kernel
  have hPair : Sample.pair ∈ Sample.segmentsOf ["C", "D"] := List.getElem_mem _
  have hPairModel : Sample.pair.model = some (Sample.model 8 "C_D") := by decide +kernel
  refine ⟨Sample.trainedOn_registry, ⟨hRun, hRunModel, ?_⟩, hPair, hPairModel, ?_⟩
  · exact (bound_by_name Sample.trainedOn_registry hRun hRunModel).2.2 (by decide +kernel)
      (by decide +kernel)
  · exact (bound_by_name Sample.trainedOn_registry hPair hPairModel).2.2 (by decide +kernel)
      (by decide +kernel)

/-- A model that was trained on three stops is bound to two, and is asked for their travel time. -/
theorem bound_to_other_stops :
    Sample.registry.TrainedOn Sample.trainedOn ∧
    Sample.lookalike ∈ Sample.segmentsOf ["A_B", "C"] ∧
    Sample.lookalike.model = some (Sample.model 7 "A_B_C") ∧
    Sample.lookalike.usesInference = true ∧
    Sample.lookalike.stops.map Stop.id = ["A_B", "C"] ∧
    Sample.trainedOn (Sample.model 7 "A_B_C") = ["A", "B", "C"] :=
  ⟨Sample.trainedOn_registry, List.getElem_mem _, by decide +kernel, by decide +kernel,
    by decide +kernel, rfl⟩

end Trust

end TransitForecast
