import RaycastingScene.Embree

/-!
# The nearest-point search (`ClosestPointFunc`, `Impl::ComputeClosestPoints`)

For every query point `Impl::ComputeClosestPoints` runs one `rtcPointQuery` from radius `+∞`.
The provider calls `ClosestPointFunc` on the triangles it does not prune; the callback reads
the triangle's corners through `geometry_ptrs`, takes Embree's closest point on it, and when
its distance is below the radius makes it the result and the new radius.

`float`'s `<` is assumed only irreflexive and transitive (`IsStrictOrder`), which IEEE
comparison is with NaN present: a NaN distance, as `closestPointTriangle` computes for a
triangle with corners near `1e10` (`inf * 0`), compares below no radius. Nearest therefore
means that no triangle's computed distance compares below the result's.

* `searchInv_foldl`: along any sequence of callbacks, no visited distance compares below the
  radius (while one is below `+∞`), and the result is the first visit at its distance.
* `searchState_min`: when the provider skips a triangle only when its distance is not below
  the radius, no triangle's distance compares below the result's, or the ids stay
  `INVALID_ID` when no visited triangle is closer than `+∞`.
* `computeClosestPoints_nearest`: the same for every query point, read from the output
  buffers.
* `corner_of_lt`: the corner offsets `3 * v + j` are `unsigned int`; they are exact below
  vertex index `1431655765` (they wrap from it on, see `Lifecycle`).
-/

namespace RaycastingScene

variable {F G : Type}

/-- An entry of `Impl::geometry_ptrs`: the geometry's type and views of its vertex and index
buffers. -/
structure GeomRecord (F : Type) where
  type : RTCGeometryType
  vertices : Nat → F
  triangles : Nat → Nat

/-- Corner `k` of triangle `primID`, read as lines 162-170 read it: the offsets
`3 * primID + k` and `3 * v + j` in `unsigned int`. -/
def GeomRecord.corner (r : GeomRecord F) (primID k : Nat) : Vec3 F :=
  let v := r.triangles (u32 (3 * primID + k))
  ⟨r.vertices (u32 (3 * v + 0)), r.vertices (u32 (3 * v + 1)), r.vertices (u32 (3 * v + 2))⟩

/-- Corners are read at their true offsets while the triangle ids and vertex indices stay
below `1431655765`, that is for every mesh of at most `1431655765` vertices and triangles. -/
theorem corner_of_lt (r : GeomRecord F) {primID k : Nat} (hp : primID < 1431655765) (hk : k < 3)
    (hv : r.triangles (3 * primID + k) < 1431655765) :
    r.corner primID k = ⟨r.vertices (3 * r.triangles (3 * primID + k)),
      r.vertices (3 * r.triangles (3 * primID + k) + 1),
      r.vertices (3 * r.triangles (3 * primID + k) + 2)⟩ := by
  simp only [GeomRecord.corner, u32_of_lt (show 3 * primID + k < 2 ^ 32 by omega)]
  rw [u32_of_lt (by omega), u32_of_lt (by omega), u32_of_lt (by omega)]
  rfl

/-- Corner `1` of triangle `2` of a mesh whose buffers hold their own offsets. -/
theorem corner_of_lt_offsets :
    2 < 1431655765 ∧ 1 < 3 ∧ 3 * 2 + 1 < 1431655765 ∧
      (⟨.triangle, fun k => k, fun k => k⟩ : GeomRecord Nat).corner 2 1 = ⟨21, 22, 23⟩ :=
  ⟨by decide, by decide, by decide,
    corner_of_lt ⟨.triangle, fun k => k, fun k => k⟩ (by decide) (by decide) (by decide)⟩

/-- `closestPointTriangle(q, v0, v1, v2)` on triangle `primID` of `r` (line 174). -/
def GeomRecord.closestPoint (E : Embree F G) (r : GeomRecord F) (q : Vec3 F) (primID : Nat) :
    Vec3 F :=
  E.closestPointTriangle q (r.corner primID 0) (r.corner primID 1) (r.corner primID 2)

/-- `ClosestPointResult`. -/
structure ClosestPointResult (F : Type) where
  p : Vec3 F
  primID : Nat
  geomID : Nat

/-- The state of one point query: `query.radius` and the result. -/
structure PointQueryState (F : Type) where
  radius : F
  result : ClosestPointResult F

/-- The distance from `q` of triangle `t = (geomID, primID)` (line 175). -/
def triDist [FloatOps F] (E : Embree F G) (ptrs : List (GeomRecord F)) (q : Vec3 F)
    (t : Nat × Nat) : F :=
  match ptrs[t.1]? with
  | some r => E.distance q (r.closestPoint E q t.2)
  | none => FloatOps.infinity

section
variable [FloatOps F] [LT F] [DecidableRel (α := F) (· < ·)]

/-- `ClosestPointFunc` (lines 140-190), `true` when the radius shrank. An id past the end of
`geometry_ptrs` is `outOfBounds`. -/
def closestPointFunc (E : Embree F G) (ptrs : List (GeomRecord F)) (q : Vec3 F)
    (s : PointQueryState F) (ids : Nat × Nat) : Except Failure (PointQueryState F × Bool) :=
  match ptrs[ids.1]? with
  | none => throw .outOfBounds
  | some r =>
    if r.type = .triangle then
      let p := r.closestPoint E q ids.2
      let d := E.distance q p
      if d < s.radius then pure (⟨d, ⟨p, ids.2, ids.1⟩⟩, true) else pure (s, false)
    else pure (s, false)

/-- The state `Impl::ComputeClosestPoints` starts each query from (lines 363-367): radius
`+∞`, both ids `INVALID_ID`, and in `p` whatever the constructor, which does not set it,
leaves there. -/
def PointQueryState.init (p0 : Vec3 F) : PointQueryState F :=
  ⟨FloatOps.infinity, ⟨p0, rtcInvalidGeometryId, rtcInvalidGeometryId⟩⟩

/-- `rtcPointQuery` with `ClosestPointFunc` on the pairs the provider visits, in order. -/
def runPointQuery (E : Embree F G) (ptrs : List (GeomRecord F)) (q p0 : Vec3 F)
    (visits : List (Nat × Nat)) : Except Failure (PointQueryState F) :=
  visits.foldlM (fun s ids => Prod.fst <$> closestPointFunc E ptrs q s ids)
    (PointQueryState.init p0)

/-- One callback on a triangle of the registry. -/
def cpStep (E : Embree F G) (ptrs : List (GeomRecord F)) (q : Vec3 F) (s : PointQueryState F)
    (t : Nat × Nat) : PointQueryState F :=
  if triDist E ptrs q t < s.radius then
    ⟨triDist E ptrs q t, ⟨(ptrs[t.1]?.map fun r => r.closestPoint E q t.2).getD s.result.p,
      t.2, t.1⟩⟩
  else s

/-- The search's state after the visits, when they are all triangles of the registry. -/
def searchState (E : Embree F G) (ptrs : List (GeomRecord F)) (q p0 : Vec3 F)
    (visits : List (Nat × Nat)) : PointQueryState F :=
  visits.foldl (cpStep E ptrs q) (PointQueryState.init p0)

/-- The triangles of the registry: ids whose geometry is a triangle mesh. -/
def Registered (ptrs : List (GeomRecord F)) (t : Nat × Nat) : Prop :=
  ∃ r, ptrs[t.1]? = some r ∧ r.type = .triangle

theorem closestPointFunc_registered (E : Embree F G) {ptrs : List (GeomRecord F)} (q : Vec3 F)
    (s : PointQueryState F) {t : Nat × Nat} (ht : Registered ptrs t) :
    Prod.fst <$> closestPointFunc E ptrs q s t = .ok (cpStep E ptrs q s t) := by
  obtain ⟨r, hr, hty⟩ := ht
  simp only [closestPointFunc, cpStep, triDist, hr, hty, if_true, Option.map_some',
    Option.getD_some]
  split <;> rfl

theorem runPointQuery_eq (E : Embree F G) {ptrs : List (GeomRecord F)} (q p0 : Vec3 F)
    {visits : List (Nat × Nat)} (hv : ∀ t ∈ visits, Registered ptrs t) :
    runPointQuery E ptrs q p0 visits = .ok (searchState E ptrs q p0 visits) := by
  unfold runPointQuery searchState
  generalize PointQueryState.init p0 = s
  induction visits generalizing s with
  | nil => rfl
  | cons t ts ih =>
    simp only [List.foldlM_cons, List.foldl_cons,
      closestPointFunc_registered E q s (hv t (.head _))]
    exact ih (fun t' h' => hv t' (.tail _ h')) _

end

/-! ## The search's invariant -/

theorem lt_of_lt_of_shrink [LT F] [IsStrictOrder F (· < ·)] {a b c : F} (h : a < b)
    (hbc : b = c ∨ b < c) : a < c := by
  rcases hbc with rfl | hbc
  exacts [h, trans_of _ h hbc]

section
variable [FloatOps F] [LT F] [DecidableRel (α := F) (· < ·)] [IsStrictOrder F (· < ·)]

/-- After the visits `P` from the fresh state: either no visited triangle is closer than `+∞`
and the state is the fresh one, or the result is the `j`-th visit, the radius is its distance,
below `+∞`, no visited distance compares below it, no visit before `j` is at that distance,
and `p` is its closest point. -/
def SearchInv (E : Embree F G) (ptrs : List (GeomRecord F)) (q p0 : Vec3 F)
    (P : List (Nat × Nat)) (s : PointQueryState F) : Prop :=
  (s = PointQueryState.init p0 ∧ ∀ t ∈ P, ¬ triDist E ptrs q t < FloatOps.infinity) ∨
  ∃ j : Nat, P[j]? = some (s.result.geomID, s.result.primID) ∧
    s.radius = triDist E ptrs q (s.result.geomID, s.result.primID) ∧
    (∃ r, ptrs[s.result.geomID]? = some r ∧ s.result.p = r.closestPoint E q s.result.primID) ∧
    s.radius < FloatOps.infinity ∧ (∀ t ∈ P, ¬ triDist E ptrs q t < s.radius) ∧
    ∀ j' < j, ∀ t, P[j']? = some t → triDist E ptrs q t ≠ s.radius

theorem searchInv_step (E : Embree F G) {ptrs : List (GeomRecord F)} {q p0 : Vec3 F}
    {P : List (Nat × Nat)} {s : PointQueryState F} {t : Nat × Nat}
    (h : SearchInv E ptrs q p0 P s) (ht : Registered ptrs t) :
    SearchInv E ptrs q p0 (P ++ [t]) (cpStep E ptrs q s t) := by
  obtain ⟨r, hr, -⟩ := ht
  -- the radius is `+∞` or below it, and no visited distance compares below it
  have hbound : (s.radius = FloatOps.infinity ∨ s.radius < FloatOps.infinity) ∧
      ∀ t' ∈ P, ¬ triDist E ptrs q t' < s.radius := by
    rcases h with ⟨rfl, hP⟩ | ⟨j, -, -, -, hlt, hle, -⟩
    · exact ⟨.inl rfl, hP⟩
    · exact ⟨.inr hlt, hle⟩
  by_cases hd : triDist E ptrs q t < s.radius
  · -- `t` becomes the result, at place `P.length`
    have hcp : cpStep E ptrs q s t =
        ⟨triDist E ptrs q t, ⟨r.closestPoint E q t.2, t.2, t.1⟩⟩ := by
      simp [cpStep, hd, hr]
    rw [hcp]
    refine Or.inr ⟨P.length, List.getElem?_concat_length P t, rfl, ⟨r, hr, rfl⟩,
      lt_of_lt_of_shrink hd hbound.1,
      List.forall_mem_append.2 ⟨fun t' ht' hlt => hbound.2 t' ht' (trans_of _ hlt hd),
        List.forall_mem_singleton.2 (irrefl _)⟩, fun j' hj' t' ht' he => ?_⟩
    rw [List.getElem?_append_left hj'] at ht'
    exact hbound.2 t' (List.getElem?_mem ht') (he ▸ hd)
  · -- the state stays, and `t` does not compare below the radius
    have hcp : cpStep E ptrs q s t = s := by simp [cpStep, hd]
    rw [hcp]
    rcases h with ⟨rfl, hP⟩ | ⟨j, hj, h1, h2, h3, h4, h5⟩
    · exact .inl ⟨rfl, List.forall_mem_append.2 ⟨hP, List.forall_mem_singleton.2 hd⟩⟩
    · have hjP : j < P.length := (List.getElem?_eq_some_iff.1 hj).1
      refine .inr ⟨j, by rw [List.getElem?_append_left hjP]; exact hj, h1, h2, h3,
        List.forall_mem_append.2 ⟨h4, List.forall_mem_singleton.2 hd⟩, fun j' hj' t' ht' => ?_⟩
      rw [List.getElem?_append_left (by omega)] at ht'
      exact h5 j' hj' t' ht'

/-- Every sequence of callbacks on triangles of the registry keeps the invariant. -/
theorem searchInv_foldl (E : Embree F G) {ptrs : List (GeomRecord F)} {q p0 : Vec3 F} :
    ∀ (L P : List (Nat × Nat)) (s : PointQueryState F), SearchInv E ptrs q p0 P s →
      (∀ t ∈ L, Registered ptrs t) → SearchInv E ptrs q p0 (P ++ L) (L.foldl (cpStep E ptrs q) s)
  | [], P, s, h, _ => by simpa using h
  | t :: L, P, s, h, hL => by
    have := searchInv_foldl E L (P ++ [t]) _ (searchInv_step E h (hL t (.head _)))
      fun t' h' => hL t' (.tail _ h')
    simpa using this

theorem radius_foldl_shrink (E : Embree F G) (ptrs : List (GeomRecord F)) (q : Vec3 F) :
    ∀ (L : List (Nat × Nat)) (s : PointQueryState F),
      (L.foldl (cpStep E ptrs q) s).radius = s.radius ∨
        (L.foldl (cpStep E ptrs q) s).radius < s.radius
  | [], _ => .inl rfl
  | t :: L, s => by
    have hstep : (cpStep E ptrs q s t).radius = s.radius ∨
        (cpStep E ptrs q s t).radius < s.radius := by
      unfold cpStep; split
      · exact .inr ‹_›
      · exact .inl rfl
    rw [List.foldl_cons]
    rcases radius_foldl_shrink E ptrs q L (cpStep E ptrs q s t) with h | h
    · rw [h]; exact hstep
    · exact .inr (lt_of_lt_of_shrink h hstep)

/-- What the search is meant to give after the visits `vs`, over the triangles `tris`: when a
visited triangle is closer than `+∞`, the result is a visit whose distance is the radius, no
triangle of `tris` compares below it, no earlier visit is at that distance, and `p` is the
closest point on it; otherwise both ids are `INVALID_ID`. -/
def Nearest (E : Embree F G) (ptrs : List (GeomRecord F)) (q : Vec3 F)
    (tris vs : List (Nat × Nat)) (s : PointQueryState F) : Prop :=
  ((∃ t ∈ vs, triDist E ptrs q t < FloatOps.infinity) →
    ∃ j : Nat, vs[j]? = some (s.result.geomID, s.result.primID) ∧
      s.radius = triDist E ptrs q (s.result.geomID, s.result.primID) ∧
      (∃ r, ptrs[s.result.geomID]? = some r ∧ s.result.p = r.closestPoint E q s.result.primID) ∧
      (∀ t ∈ tris, ¬ triDist E ptrs q t < s.radius) ∧
      ∀ j' < j, ∀ t, vs[j']? = some t → triDist E ptrs q t ≠ s.radius) ∧
  ((∀ t ∈ vs, ¬ triDist E ptrs q t < FloatOps.infinity) →
    s.result.geomID = rtcInvalidGeometryId ∧ s.result.primID = rtcInvalidGeometryId)

/-- The provider skips a triangle of `tris` only when its distance is not below the radius
at some point of the search. -/
def Pruned (E : Embree F G) (ptrs : List (GeomRecord F)) (q p0 : Vec3 F)
    (tris vs : List (Nat × Nat)) : Prop :=
  ∀ t ∈ tris, t ∉ vs →
    ∃ k ≤ vs.length, ¬ triDist E ptrs q t < (searchState E ptrs q p0 (vs.take k)).radius

/-- Whatever the order of the visits and their repeats, the search ends at a nearest
triangle when the provider prunes only what the radius allows. -/
theorem searchState_min (E : Embree F G) (ptrs : List (GeomRecord F)) (q p0 : Vec3 F)
    (tris vs : List (Nat × Nat)) (hreg : ∀ t ∈ tris, Registered ptrs t)
    (hvis : ∀ t ∈ vs, t ∈ tris) (hprune : Pruned E ptrs q p0 tris vs) :
    Nearest E ptrs q tris vs (searchState E ptrs q p0 vs) := by
  have hinv := searchInv_foldl E (q := q) vs [] (PointQueryState.init p0)
    (Or.inl ⟨rfl, by simp⟩) fun t ht => hreg t (hvis t ht)
  change SearchInv E ptrs q p0 ([] ++ vs) (searchState E ptrs q p0 vs) at hinv
  rw [List.nil_append] at hinv
  refine ⟨fun ⟨t, htv, htd⟩ => ?_, fun hno => ?_⟩
  · rcases hinv with ⟨-, hP⟩ | ⟨j, hj, h1, h2, -, h4, h5⟩
    · exact absurd htd (hP t htv)
    refine ⟨j, hj, h1, h2, fun t' ht' hlt => ?_, h5⟩
    by_cases hv : t' ∈ vs
    · exact h4 t' hv hlt
    obtain ⟨k, -, hnot⟩ := hprune t' ht' hv
    -- the final radius is the radius after `k` visits, or below it
    have hsplit : searchState E ptrs q p0 vs =
        (vs.drop k).foldl (cpStep E ptrs q) (searchState E ptrs q p0 (vs.take k)) := by
      unfold searchState
      rw [← List.foldl_append, List.take_append_drop]
    rw [hsplit] at hlt
    exact hnot (lt_of_lt_of_shrink hlt (radius_foldl_shrink E ptrs q _ _))
  · rcases hinv with ⟨hs, -⟩ | ⟨j, hj, h1, -, h3, -, -⟩
    · rw [hs]; exact ⟨rfl, rfl⟩
    · exact absurd (by rw [← h1]; exact h3) (hno _ (List.getElem?_mem hj))

end

/-! ## `Impl::ComputeClosestPoints` -/

/-- The output buffers of `Impl::ComputeClosestPoints`. -/
structure ClosestOut (F : Type) where
  closestPoints : Nat → F
  geometryIds : Nat → Nat
  primitiveIds : Nat → Nat

/-- Lines 374-378: the result of query `i`, indices in `size_t`. -/
def ClosestOut.write (o : ClosestOut F) (i : Nat) (r : ClosestPointResult F) : ClosestOut F where
  closestPoints := Function.update (Function.update (Function.update o.closestPoints
    (u64 (3 * i + 0)) r.p.x) (u64 (3 * i + 1)) r.p.y) (u64 (3 * i + 2)) r.p.z
  geometryIds := Function.update o.geometryIds i r.geomID
  primitiveIds := Function.update o.primitiveIds i r.primID

/-- The result of query `i` read back from the buffers. -/
def ClosestOut.read (o : ClosestOut F) (i : Nat) : ClosestPointResult F :=
  ⟨⟨o.closestPoints (3 * i), o.closestPoints (3 * i + 1), o.closestPoints (3 * i + 2)⟩,
    o.primitiveIds i, o.geometryIds i⟩

theorem ClosestOut.read_write (o : ClosestOut F) (r : ClosestPointResult F) {idx i : Nat}
    (hidx : idx < 2 ^ 62) : (o.write idx r).read i = if i = idx then r else o.read i := by
  have h0 : u64 (3 * idx + 0) = 3 * idx := u64_of_lt (by omega)
  have h1 : u64 (3 * idx + 1) = 3 * idx + 1 := u64_of_lt (by omega)
  have h2 : u64 (3 * idx + 2) = 3 * idx + 2 := u64_of_lt (by omega)
  simp only [ClosestOut.write, ClosestOut.read, h0, h1, h2]
  by_cases h : i = idx
  · subst h
    simp (disch := omega) only [Function.update_same, Function.update_noteq, if_true]
  · simp (disch := omega) only [Function.update_noteq, h, if_false]

/-- Query point `i` (lines 360-362). -/
def queryPoint (queryPoints : Nat → F) (i : Nat) : Vec3 F :=
  ⟨queryPoints (u64 (i * 3 + 0)), queryPoints (u64 (i * 3 + 1)), queryPoints (u64 (i * 3 + 2))⟩

section
variable [FloatOps F] [LT F] [DecidableRel (α := F) (· < ·)]

/-- `Impl::ComputeClosestPoints` after the commit (lines 358-379): one point query a point. -/
def locatePoints (E : Embree F G) (g : G) (ptrs : List (GeomRecord F)) (p0 : Vec3 F)
    (queryPoints : Nat → F) (n : Nat) (o : ClosestOut F) : Except Failure (ClosestOut F) :=
  (List.range n).foldlM (fun o i =>
    let q := queryPoint queryPoints i
    (fun s => o.write i s.result) <$> runPointQuery E ptrs q p0 (E.pointQuery g q)) o

theorem locatePoints_eq (E : Embree F G) (g : G) {ptrs : List (GeomRecord F)} (p0 : Vec3 F)
    (queryPoints : Nat → F) (n : Nat) (o : ClosestOut F)
    (hv : ∀ i < n, ∀ t ∈ E.pointQuery g (queryPoint queryPoints i), Registered ptrs t) :
    locatePoints E g ptrs p0 queryPoints n o = .ok ((List.range n).foldl (fun o i =>
      o.write i (searchState E ptrs (queryPoint queryPoints i) p0
        (E.pointQuery g (queryPoint queryPoints i))).result) o) := by
  unfold locatePoints
  induction n generalizing o with
  | zero => rfl
  | succ n ih =>
    rw [List.range_succ, List.foldlM_append, ih o fun i hi => hv i (by omega), List.foldl_append]
    change (fun s => _) <$> runPointQuery E ptrs _ p0 _ >>= pure = _
    rw [runPointQuery_eq E _ p0 (hv n (by omega))]
    rfl

end

section
variable [FloatOps F] [LT F] [DecidableRel (α := F) (· < ·)] [IsStrictOrder F (· < ·)]

/-- `Impl::ComputeClosestPoints` writes at every index a nearest registered triangle to the
query point, one whose computed distance no triangle's compares below, with its closest point
and ids, or `INVALID_ID` when no visited triangle is closer than `+∞`, whatever order the
provider visits in, when it prunes only what the radius allows. -/
theorem computeClosestPoints_nearest (E : Embree F G) (g : G) (ptrs : List (GeomRecord F))
    (p0 : Vec3 F) (queryPoints : Nat → F) {n : Nat} (o : ClosestOut F) (tris : List (Nat × Nat))
    (hn : n ≤ 2 ^ 62) (hreg : ∀ t ∈ tris, Registered ptrs t)
    (hvis : ∀ i < n, ∀ t ∈ E.pointQuery g (queryPoint queryPoints i), t ∈ tris)
    (hprune : ∀ i < n, Pruned E ptrs (queryPoint queryPoints i) p0 tris
      (E.pointQuery g (queryPoint queryPoints i))) :
    ∃ o', locatePoints E g ptrs p0 queryPoints n o = .ok o' ∧ ∀ i < n,
      o'.read i = (searchState E ptrs (queryPoint queryPoints i) p0
        (E.pointQuery g (queryPoint queryPoints i))).result ∧
      Nearest E ptrs (queryPoint queryPoints i) tris (E.pointQuery g (queryPoint queryPoints i))
        (searchState E ptrs (queryPoint queryPoints i) p0
          (E.pointQuery g (queryPoint queryPoints i))) := by
  refine ⟨_, locatePoints_eq E g p0 queryPoints n o fun i hi t ht => hreg t (hvis i hi t ht),
    fun i hi => ⟨?_, searchState_min E ptrs _ p0 tris _ hreg (hvis i hi) (hprune i hi)⟩⟩
  clear hprune hvis
  induction n with
  | zero => omega
  | succ n ih =>
    rw [List.range_succ, List.foldl_append, List.foldl_cons, List.foldl_nil,
      ClosestOut.read_write _ _ (by omega)]
    by_cases h : i = n
    · rw [if_pos h, h]
    · rw [if_neg h]; exact ih (by omega) (by omega)

end

/-- Two triangle meshes of three vertices and one triangle each, every coordinate `5` in the
first and `2` in the second, and their registry entries. -/
def twoGeometries : List (Geometry Nat) :=
  [⟨fun _ => 5, 3, fun k => k, 1⟩, ⟨fun _ => 2, 3, fun k => k, 1⟩]

def twoPtrs : List (GeomRecord Nat) :=
  [⟨.triangle, fun _ => 5, fun k => k⟩, ⟨.triangle, fun _ => 2, fun k => k⟩]

/-- A query point at `1` against the two triangles, at distances `4` and `1`, both visited: the
second replaces the first as the result. -/
theorem computeClosestPoints_nearest_two :
    1 ≤ 2 ^ 62 ∧ (∀ t ∈ [(0, 0), (1, 0)], Registered twoPtrs t) ∧
      (∀ i < 1, ∀ t ∈ hitEmbree.pointQuery twoGeometries (queryPoint (fun _ => 1) i),
        t ∈ [(0, 0), (1, 0)]) ∧
      (∀ i < 1, Pruned hitEmbree twoPtrs (queryPoint (fun _ => 1) i) ⟨0, 0, 0⟩
        [(0, 0), (1, 0)] (hitEmbree.pointQuery twoGeometries (queryPoint (fun _ => 1) i))) ∧
      ∃ o', locatePoints hitEmbree twoGeometries twoPtrs ⟨0, 0, 0⟩ (fun _ => 1) 1
          ⟨fun _ => 0, fun _ => 0, fun _ => 0⟩ = .ok o' ∧ ∀ i < 1,
        o'.read i = (searchState hitEmbree twoPtrs (queryPoint (fun _ => 1) i) ⟨0, 0, 0⟩
          (hitEmbree.pointQuery twoGeometries (queryPoint (fun _ => 1) i))).result ∧
        Nearest hitEmbree twoPtrs (queryPoint (fun _ => 1) i) [(0, 0), (1, 0)]
          (hitEmbree.pointQuery twoGeometries (queryPoint (fun _ => 1) i))
          (searchState hitEmbree twoPtrs (queryPoint (fun _ => 1) i) ⟨0, 0, 0⟩
            (hitEmbree.pointQuery twoGeometries (queryPoint (fun _ => 1) i))) :=
  have hreg : ∀ t ∈ [((0 : Nat), (0 : Nat)), (1, 0)], Registered twoPtrs t := by
    simp only [List.mem_cons, List.mem_singleton, List.not_mem_nil, or_false]
    rintro t (rfl | rfl) <;> exact ⟨_, rfl, rfl⟩
  ⟨by decide, hreg, fun _ _ _ ht => ht, fun _ _ _ ht hv => absurd ht hv,
    computeClosestPoints_nearest hitEmbree _ twoPtrs _ _ _ _ (by decide) hreg
      (fun _ _ _ ht => ht) fun _ _ _ ht hv => absurd ht hv⟩

example : (searchState hitEmbree twoPtrs ⟨1, 1, 1⟩ ⟨0, 0, 0⟩
    (hitEmbree.pointQuery twoGeometries ⟨1, 1, 1⟩)).result.geomID = 1 := by decide

/-! ## Every distance `+∞` -/

/-- Embree over `Nat` floats with every distance `+∞`: what `float` arithmetic gives for a
query point some `10 ^ 20` away from the mesh, where the squared distance overflows. -/
def farEmbree : Embree Nat Unit where
  nearest _ _ := none
  candidates _ _ := []
  filterCalls _ _ := []
  pointQuery _ _ := [(0, 0)]
  closestPointTriangle q _ _ _ := q
  distance _ _ := 2 ^ 128

/-- A registry of one triangle mesh. -/
def onePtrs : List (GeomRecord Nat) := [⟨.triangle, fun _ => 0, fun _ => 0⟩]

/-- The one triangle of the scene is visited, yet the query point gets `INVALID_ID`. -/
theorem computeClosestPoints_far_point :
    Registered onePtrs (0, 0) ∧ farEmbree.pointQuery () ⟨0, 0, 0⟩ = [(0, 0)] ∧
      ∃ o', locatePoints farEmbree () onePtrs ⟨0, 0, 0⟩ (fun _ => 0) 1
          ⟨fun _ => 0, fun _ => 0, fun _ => 0⟩ = .ok o' ∧
        o'.geometryIds 0 = rtcInvalidGeometryId ∧ o'.primitiveIds 0 = rtcInvalidGeometryId :=
  ⟨⟨_, rfl, rfl⟩, rfl, _, rfl, rfl, rfl⟩

end RaycastingScene
