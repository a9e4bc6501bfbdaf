import RaycastingScene.Batch
import RaycastingScene.ClosestPoint

/-!
# The scene: registration, lazy commit and the public queries

`RaycastingScene` and its `Impl` with explicit state passing. `Scene` holds the commit flag and
`geometry_ptrs` of `Impl`, and of the provider scene what the code relies on: the attached
geometries by handle, the geometries as of the last completed `rtcCommitScene`, and the log of
provider calls. A call is a `SceneM` action: a C++ exception ends it in the state reached so
far. Each fallible step (a provider call, which raises its error through `ErrorFunction`, or an
allocation) fails when the call's fault parameter names it.

Queries run over the committed geometry; the nearest-point callback reads `geometry_ptrs`.
`run` executes a list of operations, each from the state the one before left, whether that one
returned or failed.
-/

namespace RaycastingScene

variable {F : Type}

/-! ## State -/

/-- `Impl` with the provider scene it drives. -/
structure Scene (F : Type) where
  sceneCommitted : Bool
  geometryPtrs : List (GeomRecord F)
  geometries : List (Geometry F)
  committed : List (Geometry F)
  log : List (RtcCall × Bool)

/-- `RaycastingScene::RaycastingScene` (lines 383-394): an empty scene, not committed. -/
def Scene.init : Scene F := ⟨false, [], [], [], []⟩

/-- A call on the scene: on an exception it ends in the state reached so far. -/
abbrev SceneM (F α : Type) := EStateM Failure (Scene F) α

/-- The registry entry of an attached geometry (lines 442-444). -/
def Geometry.record (g : Geometry F) : GeomRecord F := ⟨.triangle, g.vertices, g.triangles⟩

/-! ## Steps -/

/-- A check or a conversion: it fails before any state change. -/
def liftCheck {α : Type} (x : Except Failure α) : SceneM F α := fun s =>
  match x with
  | .ok a => .ok a s
  | .error e => .error e s

/-- An allocation (a result tensor, `Contiguous`, `To`, `push_back`), throwing
`std::bad_alloc` when it `fails`. -/
def allocate (fails : Bool) : SceneM F Unit := fun s =>
  if fails then .error .badAlloc s else .ok () s

/-- A provider call: logged, then completed, or its error raised through `ErrorFunction`. -/
def rtcCall (c : RtcCall) (fails : Bool) : SceneM F Unit := fun s =>
  let s' := { s with log := s.log ++ [(c, !fails)] }
  if fails then .error (.embree c) s' else .ok () s'

/-- `count` provider queries of one loop, the first raising its error when it `fails`. -/
def rtcQueries (c : RtcCall) (count : Nat) (fails : Bool) : SceneM F Unit := fun s =>
  if count = 0 then .ok () s
  else if fails then .error (.embree c) { s with log := s.log ++ [(c, false)] }
  else .ok () { s with log := s.log ++ List.replicate count (c, true) }

/-- `rtcCommitScene`: once complete, the committed scene is the attached geometries. -/
def rtcCommitScene (fails : Bool) : SceneM F Unit := do
  rtcCall .commitScene fails
  modify fun s => { s with committed := s.geometries }

/-- `rtcAttachGeometry`: the geometry gets the smallest handle not in use, the number attached
so far since none is detached; the call fails when the handles below
`RTC_INVALID_GEOMETRY_ID` are all in use. -/
def rtcAttachGeometry (g : Geometry F) (fails : Bool) : SceneM F Nat := fun s =>
  let h := s.geometries.length
  if fails || rtcInvalidGeometryId ≤ h then
    .error (.embree .attachGeometry) { s with log := s.log ++ [(.attachGeometry, false)] }
  else .ok h { s with geometries := s.geometries ++ [g], log := s.log ++ [(.attachGeometry, true)] }

/-- Lines 215-218, 297-300 and 354-357: commit when the flag is clear, then set it. -/
def ensureCommitted (fails : Bool) : SceneM F Unit := do
  if !(← get).sceneCommitted then
    rtcCommitScene fails
    modify fun s => { s with sceneCommitted := true }

/-! ## Evaluation -/

section
variable {α β : Type}

@[simp] theorem bind_apply (x : SceneM F α) (f : α → SceneM F β) (s : Scene F) :
    (x >>= f) s = match x s with
      | .ok a s' => f a s'
      | .error e s' => .error e s' := by
  show EStateM.bind x f s = _
  unfold EStateM.bind
  cases x s <;> rfl

@[simp] theorem map_apply (g : α → β) (x : SceneM F α) (s : Scene F) :
    (g <$> x) s = match x s with
      | .ok a s' => .ok (g a) s'
      | .error e s' => .error e s' := by
  show EStateM.map g x s = _
  unfold EStateM.map
  cases x s <;> rfl

@[simp] theorem pure_apply (a : α) (s : Scene F) : (pure a : SceneM F α) s = .ok a s := rfl

@[simp] theorem get_apply (s : Scene F) : (get : SceneM F (Scene F)) s = .ok s s := rfl

@[simp] theorem modify_apply (f : Scene F → Scene F) (s : Scene F) :
    (modify f : SceneM F Unit) s = .ok () (f s) := rfl

@[simp] theorem throw_apply (e : Failure) (s : Scene F) : (throw e : SceneM F α) s = .error e s :=
  rfl

@[simp] theorem allocate_false (s : Scene F) : allocate false s = .ok () s := rfl

@[simp] theorem liftCheck_ok (a : α) (s : Scene F) : liftCheck (.ok a) s = .ok a s := rfl

@[simp] theorem liftCheck_error (e : Failure) (s : Scene F) :
    (liftCheck (.error e) : SceneM F α) s = .error e s := rfl

end

/-! ## `AddTriangles` -/

/-- The step of `AddTriangles` that fails, in the order the call reaches them. -/
inductive AddFault where
  | convert
  | newGeometry
  | vertexBuffer
  | indexBuffer
  | vertexCopy
  | indexCopy
  | commitGeometry
  | attachGeometry
  | releaseGeometry
  | pushBack
deriving DecidableEq, Repr

/-- A buffer of `rtcSetNewGeometryBuffer` after the `memcpy` of its first `count` elements
from `data`; the rest of it is modelled as zeros. -/
def copyBuffer {α : Type} [Zero α] (count : Nat) (data : Nat → α) : Nat → α :=
  fun k => if k < count then data k else 0

/-- `std::numeric_limits<uint32_t>::max()`. -/
def uint32Max : Nat := 2 ^ 32 - 1

/-- `TriangleMesh`: vertex positions, and triangles of an integer dtype. -/
structure TriangleMesh (F : Type) where
  vertices : Tensor F
  triangles : Tensor Int

/-- `Tensor::To(UInt32)`: each element cast to `uint32_t`. -/
def Tensor.toUInt32 (t : Tensor Int) : Tensor Nat :=
  { t with dtype := .uint32, data := fun k => (t.data k % 2 ^ 32).toNat }

section
variable [Zero F]

/-- The checks of lines 403-408. -/
def addTrianglesChecks (vertices : Tensor F) (triangles : Tensor Nat) : Except Failure Unit := do
  vertices.assertDevice Device.default
  vertices.assertShapeCompatible
  vertices.assertDtype .float32
  triangles.assertDevice Device.default
  triangles.assertShapeCompatible
  triangles.assertDtype .uint32

/-- The geometry lines 415-437 build: buffers of `num_vertices` and `num_triangles` records,
each a copy of the tensor's contents. -/
def newGeometry (vertices : Tensor F) (triangles : Tensor Nat) : Geometry F :=
  ⟨copyBuffer (3 * vertices.getLength) vertices.data, vertices.getLength,
    copyBuffer (3 * triangles.getLength) triangles.data, triangles.getLength⟩

/-- `RaycastingScene::AddTriangles(vertices, triangles)` (lines 401-446). -/
def addTriangles (fault : Option AddFault) (vertices : Tensor F) (triangles : Tensor Nat) :
    SceneM F Nat := do
  liftCheck (addTrianglesChecks vertices triangles)
  modify fun s => { s with sceneCommitted := false }
  rtcCall .newGeometry (fault == some .newGeometry)
  rtcCall .setNewGeometryBuffer (fault == some .vertexBuffer)
  rtcCall .setNewGeometryBuffer (fault == some .indexBuffer)
  allocate (fault == some .vertexCopy)
  allocate (fault == some .indexCopy)
  rtcCall .commitGeometry (fault == some .commitGeometry)
  let geomId ← rtcAttachGeometry (newGeometry vertices triangles)
    (fault == some .attachGeometry)
  rtcCall .releaseGeometry (fault == some .releaseGeometry)
  allocate (fault == some .pushBack)
  modify fun s =>
    { s with geometryPtrs := s.geometryPtrs ++ [(newGeometry vertices triangles).record] }
  pure geomId

/-- `RaycastingScene::AddTriangles(mesh)` (lines 448-458): the vertex count check, then the
triangles cast to `uint32_t`, which allocates unless they already are. -/
def addTriangleMesh (fault : Option AddFault) (mesh : TriangleMesh F) : SceneM F Nat := do
  if uint32Max < mesh.vertices.getLength then throw (.tooManyVertices uint32Max)
  allocate (fault == some .convert && mesh.triangles.dtype != .uint32)
  addTriangles fault mesh.vertices mesh.triangles.toUInt32

end

/-! ## Queries -/

/-- The step of a query that fails. -/
inductive QueryFault where
  | none
  /-- the call's first allocation throws `std::bad_alloc` -/
  | alloc
  /-- `rtcCommitScene` raises its error -/
  | commit
  /-- the first `rtcIntersect1M` or `rtcPointQuery` raises its error -/
  | query
deriving DecidableEq, Repr

@[simp] theorem QueryFault.none_beq_alloc : (QueryFault.none == .alloc) = false := rfl

@[simp] theorem QueryFault.none_beq_commit : (QueryFault.none == .commit) = false := rfl

@[simp] theorem QueryFault.none_beq_query : (QueryFault.none == .query) = false := rfl

/-- The result tensors of `RaycastingScene::CastRays`. -/
structure CastRaysResult (F : Type) where
  tHit : Tensor F
  geometryIds : Tensor Nat
  primitiveIds : Tensor Nat
  primitiveUvs : Tensor F
  primitiveNormals : Tensor F

/-- The result tensors of `RaycastingScene::ComputeClosestPoints`. -/
structure ClosestPointsResult (F : Type) where
  geometryIds : Tensor Nat
  primitiveIds : Tensor Nat
  points : Tensor F

/-- Point `i` of a buffer of three-float records. -/
def pointAt (data : Nat → F) (i : Nat) : Vec3 F :=
  ⟨data (3 * i), data (3 * i + 1), data (3 * i + 2)⟩

section
variable [FloatOps F]

/-- `Eigen`'s `norm()` of a difference: the square root of the sum of squares. -/
def dist (p q : Vec3 F) : F :=
  FloatOps.sqrt ((p.x - q.x) * (p.x - q.x) + (p.y - q.y) * (p.y - q.y) + (p.z - q.z) * (p.z - q.z))

/-- The probe rays of lines 570-580 and 603-612, a `{n, 6}` tensor: ray `i` starts at query
point `i` with direction `(1, 1, 1)`. -/
def probeRays (n : Nat) (queryPoints : Nat → F) : Tensor F :=
  ⟨[n, 6], .float32, Device.default,
    fun k => if k % 6 < 3 then queryPoints (k / 6 * 3 + k % 6) else 1⟩

/-- `Impl::CastRays<LINE_INTERSECTION>` (lines 207-290) on output buffers `o`: the lazy
commit, then the batches over the committed scene, one `rtcIntersect1M` a batch. -/
def implCastRays (E : Embree F (List (Geometry F))) (fault : QueryFault) (line : Bool)
    (rays : Nat → F) (numRays : Nat) (o : CastOut F) : SceneM F (CastOut F) := do
  ensureCommitted (fault == .commit)
  let o ← liftCheck (traceRays E (← get).committed line maxBatchSize rays numRays o)
  rtcQueries .intersect1M ((numBatches numRays maxBatchSize).getD 0).toNat (fault == .query)
  pure o

/-- `RaycastingScene::CastRays` (lines 460-491): the result tensors, written by `Impl`. They
are allocated with `core::Tensor(shape, dtype)`, which does not initialise them: `o0` is what
the allocation leaves in them. -/
def castRays (E : Embree F (List (Geometry F))) (fault : QueryFault) (o0 : CastOut F)
    (rays : Tensor F) : SceneM F (CastRaysResult F) := do
  liftCheck (assertTensorDtypeLastDimDeviceMinNDim .float32 rays "rays" 6 Device.default 2)
  let shape := rays.leadingShape
  allocate (fault == .alloc)
  let o ← implCastRays E fault false rays.data (numElements shape) o0
  pure ⟨⟨shape, .float32, Device.default, o.tHit⟩, ⟨shape, .uint32, Device.default, o.geometryIds⟩,
    ⟨shape, .uint32, Device.default, o.primitiveIds⟩,
    ⟨shape ++ [2], .float32, Device.default, o.primitiveUvs⟩,
    ⟨shape ++ [3], .float32, Device.default, o.primitiveNormals⟩⟩

section
variable [DecidableEq F]

/-- `Impl::CountIntersections` (lines 292-346). -/
def implCountIntersections (E : Embree F (List (Geometry F))) (fault : QueryFault)
    (rays : Nat → F) (numRays : Nat) (intersections : Nat → Nat) : SceneM F (Nat → Nat) := do
  ensureCommitted (fault == .commit)
  let c ← liftCheck (countRays E (← get).committed maxBatchSize rays numRays intersections)
  rtcQueries .intersect1M ((numBatches numRays maxBatchSize).getD 0).toNat (fault == .query)
  pure c

/-- `RaycastingScene::CountIntersections` (lines 493-508): an `int` tensor of counts. -/
def countIntersections (E : Embree F (List (Geometry F))) (fault : QueryFault)
    (rays : Tensor F) : SceneM F (Tensor Int) := do
  liftCheck (assertTensorDtypeLastDimDeviceMinNDim .float32 rays "rays" 6 Device.default 2)
  let shape := rays.leadingShape
  allocate (fault == .alloc)
  let c ← implCountIntersections E fault rays.data (numElements shape) fun _ => 0
  pure ⟨shape, .int32, Device.default, fun j => c j⟩

/-- `RaycastingScene::ComputeOccupancy` (lines 593-618): the probe counts modulo `2` (the
truncating `%` of `int`), as floats in the query's leading shape. -/
def computeOccupancy (E : Embree F (List (Geometry F))) (fault : QueryFault)
    (queryPoints : Tensor F) : SceneM F (Tensor F) := do
  liftCheck (assertTensorDtypeLastDimDeviceMinNDim .float32 queryPoints "query_points" 3
    Device.default 2)
  let shape := queryPoints.leadingShape
  let n := numElements shape
  let intersections ← countIntersections E fault (probeRays n queryPoints.data)
  pure ⟨shape, .float32, Device.default, fun i =>
    ((if i < n then (intersections.data i).tmod 2 else intersections.data i : Int) : F)⟩

end

section
variable [LT F] [DecidableRel (α := F) (· < ·)]

/-- `Impl::ComputeClosestPoints` (lines 348-380); `p0` is what the `ClosestPointResult`
constructor leaves in `p`. -/
def implComputeClosestPoints (E : Embree F (List (Geometry F))) (fault : QueryFault)
    (p0 : Vec3 F) (queryPoints : Nat → F) (n : Nat) (o : ClosestOut F) :
    SceneM F (ClosestOut F) := do
  ensureCommitted (fault == .commit)
  let s ← get
  let o ← liftCheck (locatePoints E s.committed s.geometryPtrs p0 queryPoints n o)
  rtcQueries .pointQuery n (fault == .query)
  pure o

/-- `RaycastingScene::ComputeClosestPoints` (lines 510-534). -/
def computeClosestPoints (E : Embree F (List (Geometry F))) (fault : QueryFault) (p0 : Vec3 F)
    (queryPoints : Tensor F) : SceneM F (ClosestPointsResult F) := do
  liftCheck (assertTensorDtypeLastDimDeviceMinNDim .float32 queryPoints "query_points" 3
    Device.default 2)
  let shape := queryPoints.leadingShape
  allocate (fault == .alloc)
  let o ← implComputeClosestPoints E fault p0 queryPoints.data (numElements shape)
    ⟨fun _ => 0, fun _ => 0, fun _ => 0⟩
  pure ⟨⟨shape, .uint32, Device.default, o.geometryIds⟩,
    ⟨shape, .uint32, Device.default, o.primitiveIds⟩,
    ⟨shape ++ [3], .float32, Device.default, o.closestPoints⟩⟩

/-- `RaycastingScene::ComputeDistance` (lines 536-558): the distance of each query point to
its closest point. -/
def computeDistance (E : Embree F (List (Geometry F))) (fault : QueryFault) (p0 : Vec3 F)
    (queryPoints : Tensor F) : SceneM F (Tensor F) := do
  liftCheck (assertTensorDtypeLastDimDeviceMinNDim .float32 queryPoints "query_points" 3
    Device.default 2)
  let shape := queryPoints.leadingShape
  let closestPoints ← computeClosestPoints E fault p0 queryPoints
  let n := numElements shape
  pure ⟨shape, .float32, Device.default, fun i =>
    if i < n then dist (pointAt closestPoints.points.data i) (pointAt queryPoints.data i) else 0⟩

/-- The factor lines 586-588 give a count: `-1` when it is odd (`int`'s truncating `%`), `1`
when it is even. -/
def parityFactor (x : Int) : Int := if x.tmod 2 ≠ 0 then -1 else 1

/-- `RaycastingScene::ComputeSignedDistance` (lines 560-591): the distance, times `-1` where
the probe count is odd. -/
def computeSignedDistance [DecidableEq F] (E : Embree F (List (Geometry F)))
    (fault : QueryFault) (p0 : Vec3 F) (queryPoints : Tensor F) : SceneM F (Tensor F) := do
  liftCheck (assertTensorDtypeLastDimDeviceMinNDim .float32 queryPoints "query_points" 3
    Device.default 2)
  let shape := queryPoints.leadingShape
  let n := numElements shape
  let distance ← computeDistance E fault p0 queryPoints
  let intersections ← countIntersections E fault (probeRays n queryPoints.data)
  pure { distance with
    data := fun i => if i < n then distance.data i * (parityFactor (intersections.data i) : F)
      else distance.data i }

end

end

/-! ## Runs -/

/-- The public operations, each with the step that fails in it (`none`: no failure), and for
`CastRays` what the allocation of its result tensors leaves in them. -/
inductive Op (F : Type) where
  | addTriangles (vertices : Tensor F) (triangles : Tensor Nat) (fault : Option AddFault)
  | addTriangleMesh (mesh : TriangleMesh F) (fault : Option AddFault)
  | castRays (rays : Tensor F) (fault : QueryFault) (o0 : CastOut F)
  | countIntersections (rays : Tensor F) (fault : QueryFault)
  | computeClosestPoints (queryPoints : Tensor F) (fault : QueryFault)
  | computeDistance (queryPoints : Tensor F) (fault : QueryFault)
  | computeSignedDistance (queryPoints : Tensor F) (fault : QueryFault)
  | computeOccupancy (queryPoints : Tensor F) (fault : QueryFault)

section
variable [FloatOps F] [DecidableEq F] [LT F] [DecidableRel (α := F) (· < ·)]

/-- An operation; `AddTriangles` returns its handle. -/
def Op.exec (E : Embree F (List (Geometry F))) (p0 : Vec3 F) : Op F → SceneM F (Option Nat)
  | .addTriangles v t f => some <$> RaycastingScene.addTriangles f v t
  | .addTriangleMesh m f => some <$> RaycastingScene.addTriangleMesh f m
  | .castRays r f o0 => (fun _ => none) <$> RaycastingScene.castRays E f o0 r
  | .countIntersections r f => (fun _ => none) <$> RaycastingScene.countIntersections E f r
  | .computeClosestPoints q f => (fun _ => none) <$> RaycastingScene.computeClosestPoints E f p0 q
  | .computeDistance q f => (fun _ => none) <$> RaycastingScene.computeDistance E f p0 q
  | .computeSignedDistance q f => (fun _ => none) <$> RaycastingScene.computeSignedDistance E f p0 q
  | .computeOccupancy q f => (fun _ => none) <$> RaycastingScene.computeOccupancy E f q

/-- One operation from `s`, returning or failing: the state it leaves and the handle it
returned, if any. -/
def Op.step (E : Embree F (List (Geometry F))) (p0 : Vec3 F) (op : Op F) (s : Scene F) :
    Scene F × Option Nat :=
  match op.exec E p0 s with
  | .ok r s' => (s', r)
  | .error _ s' => (s', none)

/-- The operations one after another: the final state and the handles returned, in order. -/
def run (E : Embree F (List (Geometry F))) (p0 : Vec3 F) :
    Scene F → List (Op F) → Scene F × List Nat
  | s, [] => (s, [])
  | s, op :: ops =>
    let r := op.step E p0 s
    let r' := run E p0 r.1 ops
    (r'.1, r.2.toList ++ r'.2)

end

end RaycastingScene
