import RaycastingScene.Lifecycle

/-!
# The derived queries

`ComputeDistance`, `ComputeSignedDistance` and `ComputeOccupancy` on a scene built by a run,
with no failure injected. Each probe ray of the signed distance and of the occupancy is the
ray `(q_i, (1, 1, 1))` (`rayQuery_probeRays`), traced in one batched `CountIntersections`
call whose count for it is that of the ray traced alone (`countIntersections_ok`).

* `derived_queries_agree`: for `0 < n < 2 ^ 31` query points the three outputs have the
  query's leading shape, the occupancy is the probe count modulo `2`, the signed distance is
  the distance negated exactly where that count is odd, and the distance is that from the
  closest point.
* `derived_queries_empty`, `empty_batches_divide_by_zero`: with no query point, or no ray,
  the batch count divides by zero.
* `derived_queries_traced`: for every number of query points, those past the first
  `tracedRays n` read as outside every mesh: occupancy `0`, an unsigned signed distance.

A probe's count being that of the ray traced alone rests on the filter contract
`Embree.FilterWf`: the provider reports each ray's candidates in an order fixed by the ray,
not by the batch it is traced in.
-/

namespace RaycastingScene

variable {F : Type}

/-! ## Probe rays -/

section
variable [FloatOps F]

theorem rayQuery_probeRays (n : Nat) (queryPoints : Nat → F) (i : Nat) :
    rayQuery false (probeRays n queryPoints).data i =
      ⟨pointAt queryPoints i, ⟨1, 1, 1⟩, 0, FloatOps.infinity, 0, 0⟩ := by
  have h : ∀ k < 6, (i * 6 + k) % 6 = k ∧ (i * 6 + k) / 6 * 3 + k = 3 * i + k := by omega
  simp [rayQuery, probeRays, pointAt, (h 0 (by omega)).1, (h 1 (by omega)).1,
    (h 2 (by omega)).1, (h 3 (by omega)).1, (h 4 (by omega)).1, (h 5 (by omega)).1,
    (h 0 (by omega)).2, (h 1 (by omega)).2, (h 2 (by omega)).2, Nat.mul_comm i 3]

/-- The probe ray of query point `i` alone, a `{1, 6}` tensor. -/
def probeRay (queryPoints : Nat → F) (i : Nat) : Tensor F :=
  probeRays 1 fun k => queryPoints (3 * i + k)

theorem probeRays_ok (n : Nat) (queryPoints : Nat → F) :
    TensorOk .float32 (probeRays n queryPoints) 6 Device.default 2 :=
  ⟨rfl, le_rfl, rfl, rfl⟩

@[simp] theorem numElements_probeRays (n : Nat) (queryPoints : Nat → F) :
    numElements (probeRays n queryPoints).leadingShape = n := by
  simp [probeRays, Tensor.leadingShape, numElements]

end

/-! ## The queries without a fault -/

theorem commit_frame {s : Scene F} (hs : CommitInv s) :
    s.commit.committed = s.geometries ∧ s.commit.geometries = s.geometries ∧
      s.commit.geometryPtrs = s.geometryPtrs ∧ s.commit.sceneCommitted = true := by
  refine ⟨commit_committed hs, ?_⟩
  unfold Scene.commit; split <;> simp_all

theorem queryOk_of_queries {s : Scene F} (c : RtcCall) (hc : c = .intersect1M ∨ c = .pointQuery)
    (k : Nat) : QueryOk s { s.commit with log := s.commit.log ++ List.replicate k (c, true) } :=
  ⟨_, fun e he => by rw [List.eq_of_mem_replicate he]; exact hc, rfl⟩

section
variable [FloatOps F] [DecidableEq F] (E : Embree F (List (Geometry F)))

theorem countIntersections_of_countRays {s : Scene F} (hs : CommitInv s) {rays : Tensor F}
    (hr : TensorOk .float32 rays 6 Device.default 2) {c : Nat → Nat}
    (hc : countRays E s.geometries maxBatchSize rays.data (numElements rays.leadingShape)
      (fun _ => 0) = .ok c) :
    ∃ s', countIntersections E .none rays s =
      .ok ⟨rays.leadingShape, .int32, Device.default, fun j => (c j : Int)⟩ s' ∧
        QueryOk s s' := by
  have hq := queryOk_of_queries (s := s) .intersect1M (.inl rfl)
    ((numBatches (numElements rays.leadingShape) maxBatchSize).getD 0).toNat
  refine ⟨_, ?_, hq⟩
  simp only [countIntersections, implCountIntersections, bind_apply, assertTensor_ok "rays" hr,
    liftCheck_ok, QueryFault.none_beq_alloc, QueryFault.none_beq_commit,
    QueryFault.none_beq_query, allocate_false, ensureCommitted_false, get_apply,
    (commit_frame hs).1, hc, rtcQueries_false, pure_apply]

/-- `CountIntersections` on an admitted tensor of `0 < n < 2 ^ 31` rays gives each ray the
count it has traced alone over the attached geometries. -/
theorem countIntersections_ok (hE : E.FilterWf) {s : Scene F} (hs : CommitInv s)
    {rays : Tensor F} (hr : TensorOk .float32 rays 6 Device.default 2)
    (hn0 : 0 < numElements rays.leadingShape) (hn : numElements rays.leadingShape < 2 ^ 31) :
    ∃ s', countIntersections E .none rays s =
      .ok ⟨rays.leadingShape, .int32, Device.default, fun j =>
        ((if j < numElements rays.leadingShape then countResult E s.geometries rays.data j
          else 0 : Nat) : Int)⟩ s' ∧ QueryOk s s' := by
  have hc := countRays_maxBatchSize hE s.geometries rays.data (fun _ => 0) hn0 (by omega)
  rw [tracedRays_of_lt hn0 hn] at hc
  refine countIntersections_of_countRays E hs hr
    (hc.trans (congrArg Except.ok (funext fun j => ?_)))
  by_cases hj : j < numElements rays.leadingShape <;> simp [hj]

theorem countIntersections_empty {s : Scene F} {rays : Tensor F}
    (hr : TensorOk .float32 rays 6 Device.default 2) (h0 : numElements rays.leadingShape = 0) :
    countIntersections E .none rays s = .error .divisionByZero s.commit := by
  have hc := assertTensor_ok "rays" hr
  simp only [countIntersections, implCountIntersections, bind_apply, hc, liftCheck_ok, h0,
    QueryFault.none_beq_alloc, QueryFault.none_beq_commit, allocate_false,
    ensureCommitted_false, get_apply, countRays_zero]
  rfl

end

theorem registered_of_lt {s : Scene F} (hs : RegistryInv s) {t : Nat × Nat}
    (ht : t.1 < s.geometries.length) : Registered s.geometryPtrs t :=
  ⟨_, by rw [hs, List.getElem?_map, List.getElem?_eq_getElem ht]; rfl, rfl⟩

section
variable [FloatOps F] (E : Embree F (List (Geometry F))) (fault : QueryFault)

theorem castRays_of_traceRays {s : Scene F} (hs : CommitInv s) {rays : Tensor F}
    (hr : TensorOk .float32 rays 6 Device.default 2) {o0 o : CastOut F}
    (ht : traceRays E s.geometries false maxBatchSize rays.data (numElements rays.leadingShape)
      o0 = .ok o) :
    ∃ s', castRays E .none o0 rays s =
      .ok ⟨⟨rays.leadingShape, .float32, Device.default, o.tHit⟩,
        ⟨rays.leadingShape, .uint32, Device.default, o.geometryIds⟩,
        ⟨rays.leadingShape, .uint32, Device.default, o.primitiveIds⟩,
        ⟨rays.leadingShape ++ [2], .float32, Device.default, o.primitiveUvs⟩,
        ⟨rays.leadingShape ++ [3], .float32, Device.default, o.primitiveNormals⟩⟩ s' ∧
      QueryOk s s' := by
  have hq := queryOk_of_queries (s := s) .intersect1M (.inl rfl)
    ((numBatches (numElements rays.leadingShape) maxBatchSize).getD 0).toNat
  refine ⟨_, ?_, hq⟩
  simp only [castRays, implCastRays, bind_apply, assertTensor_ok "rays" hr, liftCheck_ok,
    QueryFault.none_beq_alloc, QueryFault.none_beq_commit, QueryFault.none_beq_query,
    allocate_false, ensureCommitted_false, get_apply, (commit_frame hs).1, ht,
    rtcQueries_false, pure_apply]

/-- `CastRays` on an admitted tensor of `0 < n < 2 ^ 31` rays writes for each ray its result
traced alone over the attached geometries. -/
theorem castRays_ok {s : Scene F} (hs : CommitInv s) {rays : Tensor F}
    (hr : TensorOk .float32 rays 6 Device.default 2) (o0 : CastOut F)
    (hn0 : 0 < numElements rays.leadingShape) (hn : numElements rays.leadingShape < 2 ^ 31) :
    let o :=
      writeUpTo (castResult E s.geometries false rays.data) o0 (numElements rays.leadingShape)
    ∃ s', castRays E .none o0 rays s =
      .ok ⟨⟨rays.leadingShape, .float32, Device.default, o.tHit⟩,
        ⟨rays.leadingShape, .uint32, Device.default, o.geometryIds⟩,
        ⟨rays.leadingShape, .uint32, Device.default, o.primitiveIds⟩,
        ⟨rays.leadingShape ++ [2], .float32, Device.default, o.primitiveUvs⟩,
        ⟨rays.leadingShape ++ [3], .float32, Device.default, o.primitiveNormals⟩⟩ s' ∧
      QueryOk s s' :=
  castRays_of_traceRays E hs hr
    (traceRays_eq_writeUpTo E s.geometries false maxBatchSize rays.data _ (by decide) hn0 hn)

theorem castRays_empty {s : Scene F} {rays : Tensor F} (o0 : CastOut F)
    (hr : TensorOk .float32 rays 6 Device.default 2) (h0 : numElements rays.leadingShape = 0) :
    castRays E .none o0 rays s = .error .divisionByZero s.commit := by
  simp only [castRays, implCastRays, bind_apply, assertTensor_ok "rays" hr, liftCheck_ok, h0,
    QueryFault.none_beq_alloc, QueryFault.none_beq_commit, allocate_false,
    ensureCommitted_false, get_apply, traceRays_zero]
  rfl

section
variable [LT F] [DecidableRel (α := F) (· < ·)] (p0 : Vec3 F)

/-- `ComputeClosestPoints` on a scene whose registry is in step, under the point-query
contract: each query point gets the result of its nearest-point search. -/
theorem computeClosestPoints_ok (hP : PointQueryWf E) {s : Scene F} (hs : CommitInv s)
    (hreg : RegistryInv s) {q : Tensor F} (hq : TensorOk .float32 q 3 Device.default 2) :
    let n := numElements q.leadingShape
    let o := (List.range n).foldl (fun (o : ClosestOut F) i => o.write i
      (searchState E s.geometryPtrs (queryPoint q.data i) p0
        (E.pointQuery s.geometries (queryPoint q.data i))).result)
      ⟨fun _ => 0, fun _ => 0, fun _ => 0⟩
    computeClosestPoints E .none p0 q s =
      .ok ⟨⟨q.leadingShape, .uint32, Device.default, o.geometryIds⟩,
        ⟨q.leadingShape, .uint32, Device.default, o.primitiveIds⟩,
        ⟨q.leadingShape ++ [3], .float32, Device.default, o.closestPoints⟩⟩
        { s.commit with log := s.commit.log ++ List.replicate n (.pointQuery, true) } := by
  obtain ⟨hc, hg, hp, -⟩ := commit_frame hs
  have hl := locatePoints_eq E s.geometries p0 q.data
    (numElements q.leadingShape) ⟨fun _ => 0, fun _ => 0, fun _ => 0⟩
    fun i _ t ht => registered_of_lt hreg (hP _ _ t ht)
  simp only [computeClosestPoints, implComputeClosestPoints, bind_apply,
    assertTensor_ok "query_points" hq, liftCheck_ok, QueryFault.none_beq_alloc,
    QueryFault.none_beq_commit, QueryFault.none_beq_query, allocate_false,
    ensureCommitted_false, get_apply, hl, rtcQueries_false, pure_apply, hc, hp]

theorem computeDistance_of_closestPoints {s s' : Scene F} {q : Tensor F}
    (hq : TensorOk .float32 q 3 Device.default 2) {cp : ClosestPointsResult F}
    (h : computeClosestPoints E fault p0 q s = .ok cp s') :
    computeDistance E fault p0 q s = .ok ⟨q.leadingShape, .float32, Device.default, fun i =>
      if i < numElements q.leadingShape then dist (pointAt cp.points.data i) (pointAt q.data i)
      else 0⟩ s' := by
  simp only [computeDistance, bind_apply, assertTensor_ok "query_points" hq, liftCheck_ok, h,
    pure_apply]

theorem computeDistance_empty {s : Scene F} {q : Tensor F}
    (hq : TensorOk .float32 q 3 Device.default 2) (h0 : numElements q.leadingShape = 0) :
    ∃ d, computeDistance E .none p0 q s = .ok d s.commit ∧ d.shape = q.leadingShape := by
  have h : computeClosestPoints E .none p0 q s = .ok ⟨⟨q.leadingShape, .uint32, Device.default,
      fun _ => 0⟩, ⟨q.leadingShape, .uint32, Device.default, fun _ => 0⟩,
      ⟨q.leadingShape ++ [3], .float32, Device.default, fun _ => 0⟩⟩ s.commit := by
    simp only [computeClosestPoints, implComputeClosestPoints, bind_apply,
      assertTensor_ok "query_points" hq, liftCheck_ok, QueryFault.none_beq_alloc,
      QueryFault.none_beq_commit, QueryFault.none_beq_query, allocate_false,
      ensureCommitted_false, get_apply, h0, rtcQueries_false, pure_apply, List.replicate_zero,
      List.append_nil]
    rfl
  exact ⟨_, computeDistance_of_closestPoints E _ p0 hq h, rfl⟩

end

section
variable [DecidableEq F]

theorem computeOccupancy_of_count {s s' : Scene F} {q : Tensor F}
    (hq : TensorOk .float32 q 3 Device.default 2) {c : Tensor Int}
    (h : countIntersections E fault (probeRays (numElements q.leadingShape) q.data) s =
      .ok c s') :
    computeOccupancy E fault q s = .ok ⟨q.leadingShape, .float32, Device.default, fun i =>
      ((if i < numElements q.leadingShape then (c.data i).tmod 2 else c.data i : Int) : F)⟩ s' := by
  simp only [computeOccupancy, bind_apply, assertTensor_ok "query_points" hq, liftCheck_ok, h,
    pure_apply]

theorem computeOccupancy_empty {s : Scene F} {q : Tensor F}
    (hq : TensorOk .float32 q 3 Device.default 2) (h0 : numElements q.leadingShape = 0) :
    computeOccupancy E .none q s = .error .divisionByZero s.commit := by
  simp only [computeOccupancy, bind_apply, assertTensor_ok "query_points" hq, liftCheck_ok, h0,
    countIntersections_empty E (probeRays_ok 0 q.data) (numElements_probeRays 0 q.data)]

theorem computeSignedDistance_of [LT F] [DecidableRel (α := F) (· < ·)] (p0 : Vec3 F)
    {s s1 s2 : Scene F} {q : Tensor F} (hq : TensorOk .float32 q 3 Device.default 2)
    {d : Tensor F} {c : Tensor Int} (hd : computeDistance E fault p0 q s = .ok d s1)
    (hc : countIntersections E fault (probeRays (numElements q.leadingShape) q.data) s1 =
      .ok c s2) :
    computeSignedDistance E fault p0 q s = .ok ⟨d.shape, d.dtype, d.device, fun i =>
      if i < numElements q.leadingShape then d.data i * (parityFactor (c.data i) : F)
      else d.data i⟩ s2 := by
  simp only [computeSignedDistance, bind_apply, assertTensor_ok "query_points" hq, liftCheck_ok,
    hd, hc, pure_apply]

theorem computeSignedDistance_empty [LT F] [DecidableRel (α := F) (· < ·)] (p0 : Vec3 F)
    {s : Scene F} (hs : CommitInv s) {q : Tensor F} (hq : TensorOk .float32 q 3 Device.default 2)
    (h0 : numElements q.leadingShape = 0) :
    computeSignedDistance E .none p0 q s = .error .divisionByZero s.commit := by
  obtain ⟨d, hd, -⟩ := computeDistance_empty E p0 hq h0 (s := s)
  simp only [computeSignedDistance, bind_apply, assertTensor_ok "query_points" hq, liftCheck_ok,
    hd, h0, countIntersections_empty E (probeRays_ok 0 q.data) (numElements_probeRays 0 q.data),
    Scene.commit_of_committed (commit_frame hs).2.2.2]

end

end

/-! ## The derived queries agree -/

theorem countResult_probeRays [FloatOps F] [DecidableEq F] (E : Embree F (List (Geometry F)))
    (g : List (Geometry F)) (n : Nat) (queryPoints : Nat → F) (i : Nat) :
    countResult E g (probeRays n queryPoints).data i =
      countResult E g (probeRay queryPoints i).data 0 := by
  simp [countResult, probeRay, rayQuery_probeRays, pointAt]

theorem tmod_two_of_nat (k : Nat) : ((k : Int).tmod 2 = 0 ∨ (k : Int).tmod 2 = 1) ∧
    (parityFactor k = -1 ↔ (k : Int).tmod 2 = 1) := by
  have h : (k : Int).tmod 2 = ((k % 2 : Nat) : Int) := (Int.ofNat_tmod k 2).symm
  rw [parityFactor, h]
  have : k % 2 < 2 := Nat.mod_lt _ (by decide)
  constructor
  · omega
  · split <;> omega

section
variable [FloatOps F] [DecidableEq F] [LT F] [DecidableRel (α := F) (· < ·)]
  (E : Embree F (List (Geometry F))) (p0 : Vec3 F)

/-- On a scene built by a run without a failure after an attach, for `0 < n < 2 ^ 31` query
points: the three derived queries return tensors of the query's leading shape and, at every
index `i`, with `c` the count `CountIntersections` returns for the probe ray `(q_i, (1, 1, 1))`
alone, the occupancy is `c % 2`, which is `0` or `1`, the signed distance is the distance
times `-1` exactly when `c` is odd, and the distance is that from `q_i` to the closest point
`ComputeClosestPoints` returns. -/
theorem derived_queries_agree (hE : E.FilterWf) (hP : PointQueryWf E) (ops : List (Op F))
    (hops : ∀ op ∈ ops, op.failsAfterAttach = false) (q : Tensor F)
    (hq : TensorOk .float32 q 3 Device.default 2) (hn0 : 0 < numElements q.leadingShape)
    (hn : numElements q.leadingShape < 2 ^ 31) :
    let s := (run E p0 Scene.init ops).1
    ∃ cp d sd occ s1 s2 s3 s4,
      computeClosestPoints E .none p0 q s = .ok cp s1 ∧
      computeDistance E .none p0 q s = .ok d s2 ∧
      computeSignedDistance E .none p0 q s = .ok sd s3 ∧
      computeOccupancy E .none q s = .ok occ s4 ∧
      d.shape = q.leadingShape ∧ sd.shape = q.leadingShape ∧ occ.shape = q.leadingShape ∧
      ∀ i < numElements q.leadingShape, ∃ c : Int,
        (∃ t s5, countIntersections E .none (probeRay q.data i) s = .ok t s5 ∧ t.data 0 = c) ∧
        occ.data i = ((c.tmod 2 : Int) : F) ∧ (c.tmod 2 = 0 ∨ c.tmod 2 = 1) ∧
        sd.data i = d.data i * (parityFactor c : F) ∧ (parityFactor c = -1 ↔ c.tmod 2 = 1) ∧
        d.data i = dist (pointAt cp.points.data i) (pointAt q.data i) := by
  intro s
  have hs : CommitInv s := run_commitInv E p0 ops commitInv_init
  have hreg : RegistryInv s := (run_registry E p0 ops hops (s := Scene.init) rfl).1
  have hcp := computeClosestPoints_ok E p0 hP hs hreg hq
  have hd := computeDistance_of_closestPoints E .none p0 hq hcp
  -- the closest-point search leaves the scene committed on the same geometries
  have h1 : QueryStep s { s.commit with
      log := s.commit.log ++ List.replicate (numElements q.leadingShape) (.pointQuery, true) } :=
    Or.inr (Or.inr (queryOk_of_queries .pointQuery (.inr rfl) _))
  obtain ⟨s2, hc1, -⟩ := countIntersections_ok E hE (h1.commitInv hs) (probeRays_ok _ q.data)
    (by simpa using hn0) (by simpa using hn)
  obtain ⟨s4, hc0, -⟩ := countIntersections_ok E hE hs (probeRays_ok _ q.data)
    (by simpa using hn0) (by simpa using hn)
  refine ⟨_, _, _, _, _, _, _, _, hcp, hd, computeSignedDistance_of E .none p0 hq hd hc1,
    computeOccupancy_of_count E .none hq hc0, rfl, rfl, rfl, fun i hi => ?_⟩
  obtain ⟨s5, hc5, -⟩ := countIntersections_ok E hE hs (probeRays_ok 1 fun k => q.data (3 * i + k))
    (by simp) (by simp)
  have hk := tmod_two_of_nat (countResult E s.geometries (probeRay q.data i).data 0)
  refine ⟨_, ⟨_, _, hc5, by simp [probeRay]⟩, ?_, hk.1, ?_, hk.2, by simp [hi]⟩
  · simp [hi, countResult_probeRays]
  · simp [hi, countResult_probeRays, (commit_frame hs).2.1]

end

/-- One query point at `1`. -/
def onePoint : Tensor Nat := ⟨[1, 3], .float32, Device.default, fun _ => 1⟩

/-- One query point on a scene of one triangle, with a provider whose probe ray crosses it. -/
theorem derived_queries_agree_onePoint :
    hitEmbree.FilterWf ∧ PointQueryWf hitEmbree ∧
      (∀ op ∈ [Op.addTriangles triangleVertices triangleIndices none],
        op.failsAfterAttach = false) ∧
      TensorOk .float32 onePoint 3 Device.default 2 ∧ 0 < numElements onePoint.leadingShape ∧
      numElements onePoint.leadingShape < 2 ^ 31 ∧
      let s := (run hitEmbree ⟨0, 0, 0⟩ Scene.init
        [.addTriangles triangleVertices triangleIndices none]).1
      ∃ cp d sd occ s1 s2 s3 s4,
        computeClosestPoints hitEmbree .none ⟨0, 0, 0⟩ onePoint s = .ok cp s1 ∧
        computeDistance hitEmbree .none ⟨0, 0, 0⟩ onePoint s = .ok d s2 ∧
        computeSignedDistance hitEmbree .none ⟨0, 0, 0⟩ onePoint s = .ok sd s3 ∧
        computeOccupancy hitEmbree .none onePoint s = .ok occ s4 ∧
        d.shape = onePoint.leadingShape ∧ sd.shape = onePoint.leadingShape ∧
        occ.shape = onePoint.leadingShape ∧
        ∀ i < numElements onePoint.leadingShape, ∃ c : Int,
          (∃ t s5, countIntersections hitEmbree .none (probeRay onePoint.data i) s = .ok t s5 ∧
            t.data 0 = c) ∧
          occ.data i = ((c.tmod 2 : Int) : Nat) ∧ (c.tmod 2 = 0 ∨ c.tmod 2 = 1) ∧
          sd.data i = d.data i * (parityFactor c : Nat) ∧ (parityFactor c = -1 ↔ c.tmod 2 = 1) ∧
          d.data i = dist (pointAt cp.points.data i) (pointAt onePoint.data i) :=
  ⟨hitEmbree_filterWf, hitEmbree_pointQueryWf, by decide, by decide, by decide, by decide,
    derived_queries_agree hitEmbree ⟨0, 0, 0⟩ hitEmbree_filterWf hitEmbree_pointQueryWf _
      (by decide) onePoint (by decide) (by decide) (by decide)⟩

/-! ## No query point -/

/-- No query point. -/
def noPoints : Tensor Nat := ⟨[0, 3], .float32, Device.default, fun _ => 0⟩

/-- No ray. -/
def noRays : Tensor Nat := ⟨[0, 6], .float32, Device.default, fun _ => 0⟩

section
variable [FloatOps F] [DecidableEq F] [LT F] [DecidableRel (α := F) (· < ·)]
  (E : Embree F (List (Geometry F))) (p0 : Vec3 F)

/-- With no query point, `ComputeDistance` returns a tensor of the query's leading shape, but
`ComputeSignedDistance` and `ComputeOccupancy` stop at `DivUp(0, 0)` in their
`CountIntersections`. -/
theorem derived_queries_empty {s : Scene F} (hs : CommitInv s) (q : Tensor F)
    (hq : TensorOk .float32 q 3 Device.default 2) (h0 : numElements q.leadingShape = 0) :
    (∃ d, computeDistance E .none p0 q s = .ok d s.commit ∧ d.shape = q.leadingShape) ∧
      computeSignedDistance E .none p0 q s = .error .divisionByZero s.commit ∧
      computeOccupancy E .none q s = .error .divisionByZero s.commit :=
  ⟨computeDistance_empty E p0 hq h0, computeSignedDistance_empty E p0 hs hq h0,
    computeOccupancy_empty E hq h0⟩

theorem derived_queries_empty_noPoints :
    CommitInv (Scene.init : Scene Nat) ∧ TensorOk .float32 noPoints 3 Device.default 2 ∧
      numElements noPoints.leadingShape = 0 ∧
      (∃ d, computeDistance missEmbree .none ⟨0, 0, 0⟩ noPoints Scene.init =
          .ok d Scene.init.commit ∧ d.shape = noPoints.leadingShape) ∧
      computeSignedDistance missEmbree .none ⟨0, 0, 0⟩ noPoints Scene.init =
        .error .divisionByZero Scene.init.commit ∧
      computeOccupancy missEmbree .none noPoints Scene.init =
        .error .divisionByZero Scene.init.commit :=
  ⟨commitInv_init, by decide, rfl,
    derived_queries_empty missEmbree ⟨0, 0, 0⟩ commitInv_init noPoints (by decide) rfl⟩

/-- For every admitted ray tensor and query tensor with an empty leading shape, `CastRays`,
`CountIntersections`, `ComputeSignedDistance` and `ComputeOccupancy` divide by zero in
`DivUp(num_rays, rayhits.size())`. -/
theorem empty_batches_divide_by_zero {s : Scene F} (hs : CommitInv s) (o0 : CastOut F)
    (rays q : Tensor F)
    (hr : TensorOk .float32 rays 6 Device.default 2) (hr0 : numElements rays.leadingShape = 0)
    (hq : TensorOk .float32 q 3 Device.default 2) (hq0 : numElements q.leadingShape = 0) :
    castRays E .none o0 rays s = .error .divisionByZero s.commit ∧
      countIntersections E .none rays s = .error .divisionByZero s.commit ∧
      computeSignedDistance E .none p0 q s = .error .divisionByZero s.commit ∧
      computeOccupancy E .none q s = .error .divisionByZero s.commit :=
  ⟨castRays_empty E o0 hr hr0, countIntersections_empty E hr hr0,
    computeSignedDistance_empty E p0 hs hq hq0, computeOccupancy_empty E hq hq0⟩

theorem empty_batches_noRays :
    CommitInv (Scene.init : Scene Nat) ∧ TensorOk .float32 noRays 6 Device.default 2 ∧
      numElements noRays.leadingShape = 0 ∧ TensorOk .float32 noPoints 3 Device.default 2 ∧
      numElements noPoints.leadingShape = 0 ∧
      castRays missEmbree .none ⟨fun _ => 0, fun _ => 0, fun _ => 0, fun _ => 0, fun _ => 0⟩
        noRays Scene.init = .error .divisionByZero Scene.init.commit ∧
      countIntersections missEmbree .none noRays Scene.init =
        .error .divisionByZero Scene.init.commit ∧
      computeSignedDistance missEmbree .none ⟨0, 0, 0⟩ noPoints Scene.init =
        .error .divisionByZero Scene.init.commit ∧
      computeOccupancy missEmbree .none noPoints Scene.init =
        .error .divisionByZero Scene.init.commit :=
  ⟨commitInv_init, by decide, rfl, by decide, rfl,
    empty_batches_divide_by_zero missEmbree ⟨0, 0, 0⟩ commitInv_init _ noRays noPoints (by decide)
      rfl (by decide) rfl⟩

end

/-! ## Every query count -/

section
variable [FloatOps F] [DecidableEq F] [LT F] [DecidableRel (α := F) (· < ·)]
  (E : Embree F (List (Geometry F))) (p0 : Vec3 F)

/-- On a scene built by a run without a failure after an attach, for `n ≥ 1` query points
whose `int` counts fit the address space: the probe rays of the first `tracedRays n` points are
traced, and these get the occupancy and sign of their own probe count; every later point gets
occupancy `0` and a signed distance that is the distance itself, as if it were outside every
mesh, whatever the geometry. -/
theorem derived_queries_traced (hE : E.FilterWf) (hP : PointQueryWf E) (ops : List (Op F))
    (hops : ∀ op ∈ ops, op.failsAfterAttach = false) (q : Tensor F)
    (hq : TensorOk .float32 q 3 Device.default 2) (hn0 : 0 < numElements q.leadingShape)
    (h4 : 4 * numElements q.leadingShape < 2 ^ 64) :
    let s := (run E p0 Scene.init ops).1
    ∃ d sd occ s2 s3 s4,
      computeDistance E .none p0 q s = .ok d s2 ∧
      computeSignedDistance E .none p0 q s = .ok sd s3 ∧
      computeOccupancy E .none q s = .ok occ s4 ∧
      ∀ i < numElements q.leadingShape,
        (i < tracedRays (numElements q.leadingShape) → ∃ c : Int,
          (∃ t s5, countIntersections E .none (probeRay q.data i) s = .ok t s5 ∧
            t.data 0 = c) ∧
          occ.data i = ((c.tmod 2 : Int) : F) ∧ sd.data i = d.data i * (parityFactor c : F)) ∧
        (tracedRays (numElements q.leadingShape) ≤ i →
          occ.data i = ((0 : Int) : F) ∧ sd.data i = d.data i * ((1 : Int) : F)) := by
  intro s
  have hs : CommitInv s := run_commitInv E p0 ops commitInv_init
  have hreg : RegistryInv s := (run_registry E p0 ops hops (s := Scene.init) rfl).1
  have hd := computeDistance_of_closestPoints E .none p0 hq
    (computeClosestPoints_ok E p0 hP hs hreg hq)
  have h1 : QueryStep s { s.commit with
      log := s.commit.log ++ List.replicate (numElements q.leadingShape) (.pointQuery, true) } :=
    Or.inr (Or.inr (queryOk_of_queries .pointQuery (.inr rfl) _))
  have hcount := countRays_maxBatchSize hE s.geometries
    (probeRays (numElements q.leadingShape) q.data).data (fun _ => 0)
    (n := numElements (probeRays (numElements q.leadingShape) q.data).leadingShape)
    (by simpa using hn0) (by simpa using h4)
  obtain ⟨s2, hc1, -⟩ := countIntersections_of_countRays E (h1.commitInv hs)
    (probeRays_ok _ q.data) (by rwa [(commit_frame hs).2.1])
  obtain ⟨s4, hc0, -⟩ := countIntersections_of_countRays E hs (probeRays_ok _ q.data) hcount
  refine ⟨_, _, _, _, _, _, hd, computeSignedDistance_of E .none p0 hq hd hc1,
    computeOccupancy_of_count E .none hq hc0, fun i hi => ⟨fun him => ?_, fun him => ?_⟩⟩
  · -- a traced probe: its own count
    obtain ⟨s5, hc5, -⟩ := countIntersections_ok E hE hs
      (probeRays_ok 1 fun k => q.data (3 * i + k)) (by simp) (by simp)
    refine ⟨countResult E s.geometries (probeRay q.data i).data 0,
      ⟨_, _, hc5, by simp [probeRay]⟩, ?_, ?_⟩ <;>
      simp [hi, him, countResult_probeRays, (commit_frame hs).2.1]
  · -- a probe past the traced ones: count `0`
    simp [hi, Nat.not_lt.2 him, parityFactor]

end

/-- `2 ^ 32 + 1` query points at `1`: the `int` count is `1`, and one batch of
`MAX_BATCH_SIZE` probes is traced. -/
def manyPoints : Tensor Nat := ⟨[2 ^ 32 + 1, 3], .float32, Device.default, fun _ => 1⟩

example : tracedRays (numElements manyPoints.leadingShape) = 2 ^ 20 := by decide

/-- The points on a scene of one triangle, with a provider whose every probe crosses it: the
first `2 ^ 20` points read as inside, the others as outside. -/
theorem derived_queries_traced_manyPoints :
    hitEmbree.FilterWf ∧ PointQueryWf hitEmbree ∧
      (∀ op ∈ [Op.addTriangles triangleVertices triangleIndices none],
        op.failsAfterAttach = false) ∧
      TensorOk .float32 manyPoints 3 Device.default 2 ∧
      0 < numElements manyPoints.leadingShape ∧
      4 * numElements manyPoints.leadingShape < 2 ^ 64 ∧
      let s := (run hitEmbree ⟨0, 0, 0⟩ Scene.init
        [.addTriangles triangleVertices triangleIndices none]).1
      ∃ d sd occ s2 s3 s4,
        computeDistance hitEmbree .none ⟨0, 0, 0⟩ manyPoints s = .ok d s2 ∧
        computeSignedDistance hitEmbree .none ⟨0, 0, 0⟩ manyPoints s = .ok sd s3 ∧
        computeOccupancy hitEmbree .none manyPoints s = .ok occ s4 ∧
        ∀ i < numElements manyPoints.leadingShape,
          (i < tracedRays (numElements manyPoints.leadingShape) → ∃ c : Int,
            (∃ t s5, countIntersections hitEmbree .none (probeRay manyPoints.data i) s =
              .ok t s5 ∧ t.data 0 = c) ∧
            occ.data i = ((c.tmod 2 : Int) : Nat) ∧
              sd.data i = d.data i * (parityFactor c : Nat)) ∧
          (tracedRays (numElements manyPoints.leadingShape) ≤ i →
            occ.data i = ((0 : Int) : Nat) ∧ sd.data i = d.data i * ((1 : Int) : Nat)) :=
  ⟨hitEmbree_filterWf, hitEmbree_pointQueryWf, by decide, by decide, by decide, by decide,
    derived_queries_traced hitEmbree ⟨0, 0, 0⟩ hitEmbree_filterWf hitEmbree_pointQueryWf _
      (by decide) manyPoints (by decide) (by decide) (by decide)⟩

end RaycastingScene
