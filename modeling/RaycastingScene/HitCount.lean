import RaycastingScene.Derived

/-!
# A ray's hit in `CastRays` against its count in `CountIntersections`

Both queries set ray `i` up alike, as `rayQuery false rays i`: the same origin and direction,
`tnear = 0`, `tfar = +∞`, `mask = flags = 0`. `CastRays` writes the sentinel geometry id
exactly when the provider reports no nearest hit. `CountIntersections` counts from the previous
hit `(INVALID_ID, INVALID_ID, 0)`, which no candidate repeats since none carries the sentinel
geometry id, so its count is `0` exactly when traversal meets no candidate.

* `castResult_geometryId_eq_invalid_iff`, `countResult_eq_zero_iff`: for one ray traced alone,
  under the provider's contracts, both say that the ray has no candidate.
* `castRays_miss_iff_count_zero`: on every reachable scene and for `0 < n < 2 ^ 31` rays,
  `CastRays` reports a miss for a ray exactly when `CountIntersections` counts `0` for it.
* `castRays_count_two_pow_31`: at `2 ^ 31` rays neither loop runs a batch; the count is `0`
  while `geometry_ids` keeps whatever its allocation left there.
* `castRays_countIntersections_traced`: for every ray count both queries trace the same first
  `tracedRays n` rays and agree on them; every later ray has count `0` and, in `CastRays`,
  keeps whatever the allocation of the result tensors left, `INVALID_ID` written nowhere.
-/

namespace RaycastingScene

variable {F : Type}

/-! ## One ray -/

section
variable {G : Type} {E : Embree F G}

theorem Embree.HitWf.nearest_eq_none_iff (hH : E.HitWf) (g : G) (q : RayQuery F) :
    E.nearest g q = none ↔ E.candidates g q = [] :=
  ⟨fun h => List.eq_nil_iff_forall_not_mem.2 fun c hc => hH.nearest_of_mem g q c hc h,
    fun h => Option.eq_none_iff_forall_not_mem.2 fun hit hn => by
      simpa [h] using hH.nearest_mem g q hit hn⟩

variable [FloatOps F]

theorem castResult_geometryId (E : Embree F G) (g : G) (line : Bool) (rays : Nat → F)
    (i : Nat) : (castResult E g line rays i).geometryId =
      ((E.nearest g (rayQuery line rays i)).map (·.hit.geomID)).getD rtcInvalidGeometryId := by
  simp only [castResult, rtcIntersect1, rayHitOf]
  cases E.nearest g (rayQuery line rays i) with
  | none => simp [CastResult.ofRayHit]
  | some h =>
    by_cases hg : h.hit.geomID = rtcInvalidGeometryId <;> simp [CastResult.ofRayHit, hg]

theorem castResult_geometryId_eq_invalid_iff (hF : E.FilterWf) (hH : E.HitWf) (g : G)
    (line : Bool) (rays : Nat → F) (i : Nat) :
    (castResult E g line rays i).geometryId = rtcInvalidGeometryId ↔
      E.candidates g (rayQuery line rays i) = [] := by
  rw [castResult_geometryId, ← hH.nearest_eq_none_iff]
  cases hn : E.nearest g (rayQuery line rays i) with
  | none => simp
  | some h => simpa using hF.candidate_geomID g _ _ (hH.nearest_mem g _ h hn)

variable [DecidableEq F]

theorem countResult_eq_zero_iff (hF : E.FilterWf) (g : G) (rays : Nat → F) (i : Nat) :
    countResult E g rays i = 0 ↔ E.candidates g (rayQuery false rays i) = [] := by
  unfold countResult
  rcases hc : E.candidates g (rayQuery false rays i) with _ | ⟨c, cs⟩
  · simp [CountCtx.slot, CountCtx.fresh]
  · have hd : ¬ (CountCtx.fresh.slot 0 : Slot F).prev.Dup c := fun hd =>
      hF.candidate_geomID g _ c (by rw [hc]; exact List.mem_cons_self _ _) hd.1.symm
    have := count_lt_slotRun hd cs
    simp only [CountCtx.slot, CountCtx.fresh] at this ⊢
    exact iff_of_false (by omega) (List.cons_ne_nil _ _)

theorem castResult_miss_iff_countResult_zero (hF : E.FilterWf) (hH : E.HitWf) (g : G)
    (rays : Nat → F) (i : Nat) :
    (castResult E g false rays i).geometryId = rtcInvalidGeometryId ↔
      countResult E g rays i = 0 := by
  rw [castResult_geometryId_eq_invalid_iff hF hH, countResult_eq_zero_iff hF]

end

/-! ## Both queries on a scene -/

section
variable [FloatOps F] [DecidableEq F] [LT F] [DecidableRel (α := F) (· < ·)]
  (E : Embree F (List (Geometry F))) (p0 : Vec3 F)

/-- On every scene a run reaches, for an admitted tensor of `0 < n < 2 ^ 31` rays, both queries
return and agree on every ray: `geometry_ids[i]` is `INVALID_ID` exactly when the count of ray
`i` is `0`, and a geometry id exactly when the count is at least `1`. -/
theorem castRays_miss_iff_count_zero (hF : E.FilterWf) (hH : E.HitWf) (ops : List (Op F))
    (o0 : CastOut F) (rays : Tensor F) (hr : TensorOk .float32 rays 6 Device.default 2)
    (hn0 : 0 < numElements rays.leadingShape) (hn : numElements rays.leadingShape < 2 ^ 31) :
    let s := (run E p0 Scene.init ops).1
    ∃ cr ct s1 s2, castRays E .none o0 rays s = .ok cr s1 ∧
      countIntersections E .none rays s = .ok ct s2 ∧
      ∀ i < numElements rays.leadingShape,
        (cr.geometryIds.data i = rtcInvalidGeometryId ↔ ct.data i = 0) ∧
        (cr.geometryIds.data i ≠ rtcInvalidGeometryId ↔ 1 ≤ ct.data i) := by
  intro s
  have hs : CommitInv s := run_commitInv E p0 ops commitInv_init
  obtain ⟨s1, hc1, -⟩ := castRays_ok E hs hr o0 hn0 hn
  obtain ⟨s2, hc2, -⟩ := countIntersections_ok E hF hs hr hn0 hn
  refine ⟨_, _, _, _, hc1, hc2, fun i hi => ?_⟩
  -- the geometry id written at `i` is that of the ray traced alone
  have hg := congrArg CastResult.geometryId (read_writeUpTo
    (castResult E s.geometries false rays.data) o0 (m := numElements rays.leadingShape)
    (by omega) i)
  rw [if_pos hi] at hg
  have key := castResult_miss_iff_countResult_zero hF hH s.geometries rays.data i
  simp only [CastOut.read] at hg
  simp only [hg, if_pos hi]
  constructor
  · rw [key]; omega
  · rw [Ne, key]; omega

end

/-- One ray. -/
def oneRay : Tensor Nat := ⟨[1, 6], .float32, Device.default, fun _ => 0⟩

/-- One ray on a scene of one triangle, with a provider that reports it crossing the triangle:
geometry id `0` and count `1`. -/
theorem castRays_miss_iff_count_zero_oneRay :
    hitEmbree.FilterWf ∧ hitEmbree.HitWf ∧ TensorOk .float32 oneRay 6 Device.default 2 ∧
      0 < numElements oneRay.leadingShape ∧ numElements oneRay.leadingShape < 2 ^ 31 ∧
      let s := (run hitEmbree ⟨0, 0, 0⟩ Scene.init
        [.addTriangles triangleVertices triangleIndices none]).1
      ∃ cr ct s1 s2, castRays hitEmbree .none
          ⟨fun _ => 0, fun _ => 0, fun _ => 0, fun _ => 0, fun _ => 0⟩ oneRay s = .ok cr s1 ∧
        countIntersections hitEmbree .none oneRay s = .ok ct s2 ∧
        ∀ i < numElements oneRay.leadingShape,
          (cr.geometryIds.data i = rtcInvalidGeometryId ↔ ct.data i = 0) ∧
          (cr.geometryIds.data i ≠ rtcInvalidGeometryId ↔ 1 ≤ ct.data i) :=
  ⟨hitEmbree_filterWf, hitEmbree_hitWf, by decide, by decide, by decide,
    castRays_miss_iff_count_zero hitEmbree ⟨0, 0, 0⟩ hitEmbree_filterWf hitEmbree_hitWf _ _
      oneRay (by decide) (by decide) (by decide)⟩

example : (castResult hitEmbree [newGeometry triangleVertices triangleIndices] false
    oneRay.data 0).geometryId = 0 := rfl

/-! ## At `2 ^ 31` rays -/

/-- A tensor of `2 ^ 31` rays, each from the origin along the zero vector. -/
def manyRays : Tensor Nat := ⟨[2 ^ 31, 6], .float32, Device.default, fun _ => 0⟩

/-- At `2 ^ 31` rays neither loop runs a batch, the `int` batch count being `-2048`: ray `0`
misses alone, and `CountIntersections` counts `0` for it, but `CastRays` leaves in its
geometry id whatever the allocation left there, never writing `INVALID_ID`. -/
theorem castRays_count_two_pow_31 :
    missEmbree.FilterWf ∧ missEmbree.HitWf ∧
      (castResult missEmbree [] false manyRays.data 0).geometryId = rtcInvalidGeometryId ∧
      ∀ o0 : CastOut Nat, ∃ cr ct s1 s2,
        castRays missEmbree .none o0 manyRays Scene.init = .ok cr s1 ∧
        countIntersections missEmbree .none manyRays Scene.init = .ok ct s2 ∧
        ct.data 0 = 0 ∧ cr.geometryIds.data 0 = o0.geometryIds 0 :=
  ⟨missEmbree_filterWf, missEmbree_hitWf, rfl, fun _ => ⟨_, _, _, _, rfl, rfl, rfl, rfl⟩⟩

/-! ## Every ray count -/

section
variable [FloatOps F] [DecidableEq F] [LT F] [DecidableRel (α := F) (· < ·)]
  (E : Embree F (List (Geometry F))) (p0 : Vec3 F)

/-- On every scene a run reaches, for an admitted tensor of `n ≥ 1` rays whose `int` counts fit
the address space, both queries return and trace the same rays, the first `tracedRays n`: on
these they agree, `geometry_ids[i]` being `INVALID_ID` exactly when the count is `0`; every
later ray keeps a count of `0` and, in `CastRays`, whatever the allocation `o0` of the result
tensors left there. -/
theorem castRays_countIntersections_traced (hF : E.FilterWf) (hH : E.HitWf) (ops : List (Op F))
    (o0 : CastOut F) (rays : Tensor F) (hr : TensorOk .float32 rays 6 Device.default 2)
    (hn0 : 0 < numElements rays.leadingShape) (h4 : 4 * numElements rays.leadingShape < 2 ^ 64) :
    let s := (run E p0 Scene.init ops).1
    ∃ cr ct s1 s2, castRays E .none o0 rays s = .ok cr s1 ∧
      countIntersections E .none rays s = .ok ct s2 ∧
      ∀ i < numElements rays.leadingShape,
        (i < tracedRays (numElements rays.leadingShape) →
          (cr.geometryIds.data i = rtcInvalidGeometryId ↔ ct.data i = 0)) ∧
        (tracedRays (numElements rays.leadingShape) ≤ i →
          ct.data i = 0 ∧ cr.geometryIds.data i = o0.geometryIds i ∧
            cr.primitiveIds.data i = o0.primitiveIds i ∧ cr.tHit.data i = o0.tHit i) := by
  intro s
  have hs : CommitInv s := run_commitInv E p0 ops commitInv_init
  obtain ⟨s1, hc1, -⟩ := castRays_of_traceRays E hs hr
    (traceRays_maxBatchSize E s.geometries false rays.data _ hn0)
  obtain ⟨s2, hc2, -⟩ := countIntersections_of_countRays E hs hr
    (countRays_maxBatchSize hF s.geometries rays.data _ hn0 h4)
  refine ⟨_, _, _, _, hc1, hc2, fun i hi => ⟨fun him => ?_, fun him => ?_⟩⟩
  all_goals
    have hread := read_writeUpTo (castResult E s.geometries false rays.data) o0
      (m := tracedRays (numElements rays.leadingShape))
      (by have := tracedRays_le (numElements rays.leadingShape); omega) i
  · -- a traced ray: what it gets traced alone
    rw [if_pos him] at hread
    have hg := congrArg CastResult.geometryId hread
    simp only [CastOut.read] at hg
    simp only [hg, if_pos him]
    rw [castResult_miss_iff_countResult_zero hF hH]
    omega
  · -- a ray past the traced ones: untouched
    rw [if_neg (by omega)] at hread
    simp only [CastOut.read, CastResult.mk.injEq] at hread
    simp only [hread.1, hread.2.1, hread.2.2.1,
      if_neg (show ¬ i < tracedRays (numElements rays.leadingShape) by omega), if_pos hi,
      Nat.cast_zero, and_self]

end

/-- `2 ^ 32 + 1` rays: the `int` count is `1`, and one batch of `MAX_BATCH_SIZE` rays is
traced. -/
def moreRays : Tensor Nat := ⟨[2 ^ 32 + 1, 6], .float32, Device.default, fun _ => 0⟩

/-- Result tensors whose allocation holds `9` everywhere. -/
def ninesOut : CastOut Nat := ⟨fun _ => 9, fun _ => 9, fun _ => 9, fun _ => 9, fun _ => 9⟩

/-- The rays on a scene of one triangle, with a provider that reports every ray crossing it:
the first `2 ^ 20` rays get geometry id `0` and count `1`, the others count `0` and keep the
`9` their allocation held. -/
theorem castRays_countIntersections_traced_manyRays :
    hitEmbree.FilterWf ∧ hitEmbree.HitWf ∧ TensorOk .float32 moreRays 6 Device.default 2 ∧
      0 < numElements moreRays.leadingShape ∧ 4 * numElements moreRays.leadingShape < 2 ^ 64 ∧
      let s := (run hitEmbree ⟨0, 0, 0⟩ Scene.init
        [.addTriangles triangleVertices triangleIndices none]).1
      ∃ cr ct s1 s2, castRays hitEmbree .none ninesOut moreRays s = .ok cr s1 ∧
        countIntersections hitEmbree .none moreRays s = .ok ct s2 ∧
        ∀ i < numElements moreRays.leadingShape,
          (i < tracedRays (numElements moreRays.leadingShape) →
            (cr.geometryIds.data i = rtcInvalidGeometryId ↔ ct.data i = 0)) ∧
          (tracedRays (numElements moreRays.leadingShape) ≤ i →
            ct.data i = 0 ∧ cr.geometryIds.data i = ninesOut.geometryIds i ∧
              cr.primitiveIds.data i = ninesOut.primitiveIds i ∧
              cr.tHit.data i = ninesOut.tHit i) :=
  ⟨hitEmbree_filterWf, hitEmbree_hitWf, by decide, by decide, by decide,
    castRays_countIntersections_traced hitEmbree ⟨0, 0, 0⟩ hitEmbree_filterWf hitEmbree_hitWf _
      ninesOut moreRays (by decide) (by decide) (by decide)⟩

end RaycastingScene
