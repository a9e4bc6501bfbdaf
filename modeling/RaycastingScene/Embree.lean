import RaycastingScene.Filter

/-!
# The acceleration provider (Embree)

The records the code exchanges with Embree and what the code assumes of the provider. Embree
itself is outside the sources: `Embree F G` is the provider as the code sees it over the
geometry `G` of its last commit, four functions of that geometry:

* `nearest`: the closest hit `rtcIntersect1M` reports for a ray without a filter;
* `candidates`: the hits traversal meets along a ray, in its order and with repeats;
* `filterCalls`: the packets of lanes one `rtcIntersect1M` with a filter passes to the filter,
  interleaving the rays of the batch in any way;
* `pointQuery`: the `(geomID, primID)` pairs one `rtcPointQuery` passes to its callback;

and two functions of Embree's `closest_point.h`, which the callback calls: `closestPointTriangle`
and `distance`.

`Embree.FilterWf` is the provider's contract for the filter: every active lane belongs to a ray
of the batch and carries that ray's `id`, the active lanes of each ray carry its candidates in
order, and no candidate has the sentinel geometry id. Each ray's candidates are thus a
function of the ray alone, whatever batch it is traced in. `Embree.HitWf` ties the nearest hit
to the candidates: it is one of them, and there is one whenever there is a candidate.
`PointQueryWf` says that `rtcPointQuery` calls back only on committed geometries.

`missEmbree` reports nothing; `hitEmbree` reports a hit for every ray on a scene with a
geometry, and meets all three contracts.
-/

namespace RaycastingScene

variable {F : Type}

/-- The fields of `RTCRay` traversal reads: origin, direction, `tnear`, `tfar`, `mask`,
`flags`. -/
structure RayQuery (F : Type) where
  org : Vec3 F
  dir : Vec3 F
  tnear : F
  tfar : F
  mask : Nat
  flags : Nat

/-- `RTCRay`: the query fields and `id`. -/
structure RTCRay (F : Type) where
  query : RayQuery F
  id : Nat

/-- `RTCHit`: geometric normal, barycentrics, primitive and geometry id. -/
structure RTCHit (F : Type) where
  Ng : Vec3 F
  u : F
  v : F
  primID : Nat
  geomID : Nat

/-- `RTCRayHit`. -/
structure RTCRayHit (F : Type) where
  ray : RTCRay F
  hit : RTCHit F

/-- A hit the provider reports: its distance and the hit record. -/
structure Hit (F : Type) where
  t : F
  hit : RTCHit F

/-- `RTCGeometryType`. -/
inductive RTCGeometryType where
  | triangle
  | other
deriving DecidableEq, Repr

/-- A triangle geometry the provider owns: its vertex buffer (`RTC_FORMAT_FLOAT3`) and index
buffer (`RTC_FORMAT_UINT3`) and their element counts. -/
structure Geometry (F : Type) where
  vertices : Nat → F
  numVertices : Nat
  triangles : Nat → Nat
  numTriangles : Nat

/-- The provider as the code sees it over the geometry `G` of its last commit. -/
structure Embree (F G : Type) where
  nearest : G → RayQuery F → Option (Hit F)
  candidates : G → RayQuery F → List (GpId F)
  filterCalls : G → List (RTCRay F) → List (List (Lane F))
  pointQuery : G → Vec3 F → List (Nat × Nat)
  closestPointTriangle : Vec3 F → Vec3 F → Vec3 F → Vec3 F → Vec3 F
  distance : Vec3 F → Vec3 F → F

/-- `rtcIntersect1M` without a filter on one ray: on a hit, `tfar` becomes the hit distance
and the hit record is filled in; on a miss the ray hit is left as it was. -/
def rtcIntersect1 {G : Type} (E : Embree F G) (g : G) (rh : RTCRayHit F) : RTCRayHit F :=
  match E.nearest g rh.ray.query with
  | some h => { ray := { rh.ray with query := { rh.ray.query with tfar := h.t } }, hit := h.hit }
  | none => rh

@[simp] theorem rtcIntersect1_id {G : Type} (E : Embree F G) (g : G) (rh : RTCRayHit F) :
    (rtcIntersect1 E g rh).ray.id = rh.ray.id := by
  unfold rtcIntersect1; split <;> rfl

/-- The provider's contract for `rtcIntersect1M` with a filter. -/
structure Embree.FilterWf {G : Type} (E : Embree F G) : Prop where
  lane_id : ∀ g batch, ∀ l ∈ (E.filterCalls g batch).flatten, l.valid = -1 →
    (batch[l.pos]?).map RTCRay.id = some l.id
  lane_hits : ∀ g (batch : List (RTCRay F)) k (hk : k < batch.length),
    ((E.filterCalls g batch).flatten.filter fun l => l.valid == -1 && l.pos == k).map Lane.hit =
      E.candidates g batch[k].query
  candidate_geomID : ∀ g q, ∀ h ∈ E.candidates g q, h.geomID ≠ rtcInvalidGeometryId

/-- The provider's contract between its two ray queries: the nearest hit `rtcIntersect1M`
reports without a filter is one of the candidates traversal meets with a filter, and a ray
with a candidate has a nearest hit. -/
structure Embree.HitWf {G : Type} (E : Embree F G) : Prop where
  nearest_mem : ∀ g q h, E.nearest g q = some h →
    (⟨h.hit.geomID, h.hit.primID, h.t⟩ : GpId F) ∈ E.candidates g q
  nearest_of_mem : ∀ g q c, c ∈ E.candidates g q → E.nearest g q ≠ none

/-- A provider that reports no hit and no candidate, over any list of geometries. -/
def missEmbree : Embree Nat (List (Geometry Nat)) where
  nearest _ _ := none
  candidates _ _ := []
  filterCalls _ _ := []
  pointQuery _ _ := []
  closestPointTriangle q _ _ _ := q
  distance _ _ := 0

theorem missEmbree_filterWf : missEmbree.FilterWf :=
  ⟨fun _ _ _ h => (nomatch h), fun _ _ _ _ => rfl, fun _ _ _ h => (nomatch h)⟩

theorem missEmbree_hitWf : missEmbree.HitWf :=
  ⟨fun _ _ _ h => (nomatch h), fun _ _ _ h => (nomatch h)⟩

/-- The provider's contract for `rtcPointQuery`: it calls back only on primitives of the
committed geometries. -/
def PointQueryWf [FloatOps F] (E : Embree F (List (Geometry F))) : Prop :=
  ∀ g q, ∀ t ∈ E.pointQuery g q, t.1 < g.length

theorem missEmbree_pointQueryWf : PointQueryWf missEmbree := fun _ _ _ h => nomatch h

/-- The filter call for the ray at place `k` of a batch: one active lane a candidate. -/
def rayLanes (cands : RayQuery F → List (GpId F)) (batch : List (RTCRay F)) (k : Nat) :
    List (Lane F) :=
  match batch[k]? with
  | some r => (cands r.query).map fun c => ⟨-1, k, r.id, c.tfar, c.geomID, c.primID⟩
  | none => []

theorem mem_rayLanes {cands : RayQuery F → List (GpId F)} {batch : List (RTCRay F)}
    {k : Nat} {l : Lane F} (h : l ∈ rayLanes cands batch k) :
    l.valid = -1 ∧ l.pos = k ∧ (batch[k]?).map RTCRay.id = some l.id := by
  unfold rayLanes at h
  split at h
  · rename_i r hr
    obtain ⟨c, -, rfl⟩ := List.mem_map.1 h
    simp [hr]
  · cases h

theorem filter_rayLanes (cands : RayQuery F → List (GpId F)) (batch : List (RTCRay F))
    (k k' : Nat) :
    (rayLanes cands batch k').filter (fun l => l.valid == -1 && l.pos == k) =
      if k' = k then rayLanes cands batch k else [] := by
  split
  · subst k'
    exact List.filter_eq_self.2 fun l hl => by simp [mem_rayLanes hl]
  · exact List.filter_eq_nil_iff.2 fun l hl => by simp [mem_rayLanes hl, *]

theorem flatten_range_ite {α : Type} (L : List α) {k : Nat} :
    ∀ {n : Nat}, k < n → ((List.range n).map fun k' => if k' = k then L else []).flatten = L
  | n + 1, hk => by
    rw [List.range_succ, List.map_append, List.flatten_append]
    rcases Nat.lt_succ_iff_lt_or_eq.1 hk with hk | rfl
    · simp [flatten_range_ite L hk, Nat.ne_of_gt hk]
    · simp only [List.map_cons, List.map_nil, if_true, List.flatten_cons, List.flatten_nil,
        List.append_nil]
      rw [List.flatten_eq_nil_iff.2 fun l hl => ?_, List.nil_append]
      obtain ⟨a, ha, rfl⟩ := List.mem_map.1 hl
      rw [if_neg (Nat.ne_of_lt (List.mem_range.1 ha))]

/-- Filter calls of one packet a ray, each with the ray's candidates, meet the filter
contract. -/
theorem filterWf_of_rayLanes {G : Type} {E : Embree F G}
    (hcalls : ∀ g batch, E.filterCalls g batch =
      (List.range batch.length).map (rayLanes (E.candidates g) batch))
    (hgeom : ∀ g q, ∀ h ∈ E.candidates g q, h.geomID ≠ rtcInvalidGeometryId) : E.FilterWf := by
  refine ⟨fun g batch l hl _ => ?_, fun g batch k hk => ?_, hgeom⟩
  · rw [hcalls] at hl
    obtain ⟨lanes, hk, hl⟩ := List.mem_flatten.1 hl
    obtain ⟨k, -, rfl⟩ := List.mem_map.1 hk
    obtain ⟨-, hpos, hid⟩ := mem_rayLanes hl
    rwa [hpos]
  · rw [hcalls, List.filter_flatten, List.map_map]
    simp only [Function.comp_def, filter_rayLanes]
    rw [flatten_range_ite _ hk, rayLanes, List.getElem?_eq_getElem hk, List.map_map]
    exact List.map_id'' (fun c => rfl) _

/-- The one candidate `hitEmbree` reports for every ray on a scene with a geometry: triangle `0`
of geometry `0`, at the distance `x` of the ray's origin. -/
def hitCandidates (g : List (Geometry Nat)) (q : RayQuery Nat) : List (GpId Nat) :=
  if g.isEmpty then [] else [⟨0, 0, q.org.x⟩]

/-- A provider over `Nat` floats with hits: on a scene with a geometry every ray has the one
candidate of `hitCandidates`, which is its nearest hit, and the filter gets one call a ray;
the point query visits triangle `0` of every geometry, the closest point of a triangle is its
first corner, and the distance of two points is that of their `x` coordinates. -/
def hitEmbree : Embree Nat (List (Geometry Nat)) where
  nearest g q := if g.isEmpty then none else some ⟨q.org.x, ⟨⟨0, 0, 0⟩, 0, 0, 0, 0⟩⟩
  candidates := hitCandidates
  filterCalls g batch := (List.range batch.length).map (rayLanes (hitCandidates g) batch)
  pointQuery g _ := (List.range g.length).map fun k => (k, 0)
  closestPointTriangle _ v0 _ _ := v0
  distance p q := (p.x - q.x) + (q.x - p.x)

theorem hitEmbree_filterWf : hitEmbree.FilterWf :=
  filterWf_of_rayLanes (fun _ _ => rfl) fun g q h hh => by
    change h ∈ hitCandidates g q at hh
    unfold hitCandidates at hh
    split at hh
    · cases hh
    · rw [List.mem_singleton.1 hh]; exact fun h => nomatch h

theorem hitEmbree_hitWf : hitEmbree.HitWf where
  nearest_mem g q h hn := by
    simp only [hitEmbree, hitCandidates] at hn ⊢
    split at hn
    · cases hn
    · cases hn; simp [*]
  nearest_of_mem g q c hc := by
    change c ∈ hitCandidates g q at hc
    simp only [hitCandidates] at hc
    split at hc
    · cases hc
    · simp [hitEmbree, *]

theorem hitEmbree_pointQueryWf : PointQueryWf hitEmbree := fun g _ t ht => by
  obtain ⟨k, hk, rfl⟩ := List.mem_map.1 ht
  exact List.mem_range.1 hk

end RaycastingScene
