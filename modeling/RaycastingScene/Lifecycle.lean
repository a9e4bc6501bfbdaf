import RaycastingScene.Scene

/-!
# The scene's lifecycle: lazy commit and the geometry registry

What each public operation can do to the scene, said once (`QuerySpec` for the queries,
`AddStep` for `AddTriangles`), and the invariants of every run derived from it:

* `CommitInv`: `scene_committed` is set only when the provider's committed scene is its
  attached geometries and its last completed `rtcCommitScene` came after its last
  `rtcAttachGeometry`; every run keeps it (`run_commitInv`).
* `RegistryInv`: `geometry_ptrs` is the attached geometries, handle by handle; every run
  without a failure after an attach keeps it, and its handles are `0, 1, 2, …`
  (`run_registry`).
* `run_queries_potential`: along queries only, completed commits plus the clear flag stay
  constant, so at most one commit completes between two `AddTriangles` calls.
* `Op.exec_of_violates`: a call whose tensors fail the checks changes nothing;
  `addTriangles_unchecked_vertex_count`: the tensor overload does not count vertices.
* `corner_wraps`: a mesh that `AddTriangles(mesh)` admits whose corners `ClosestPointFunc`
  reads at wrapped offsets.
-/

namespace RaycastingScene

variable {F : Type}

/-! ## What a query leaves -/

/-- The state a call ends in, returned or failed. -/
def endState {α : Type} : EStateM.Result Failure (Scene F) α → Scene F
  | .ok _ s => s
  | .error _ s => s

@[simp] theorem endState_ok {α : Type} (a : α) (s : Scene F) : endState (.ok a s) = s := rfl

@[simp] theorem endState_error {α : Type} (e : Failure) (s : Scene F) :
    endState (.error e s : EStateM.Result Failure (Scene F) α) = s := rfl

/-- The scene once the lazy commit of lines 215-218 has completed. -/
def Scene.commit (s : Scene F) : Scene F :=
  if s.sceneCommitted then s
  else { s with
    sceneCommitted := true
    committed := s.geometries
    log := s.log ++ [(.commitScene, true)] }

/-- A provider query's log entry. -/
def IsQuery (e : RtcCall × Bool) : Prop := e.1 = .intersect1M ∨ e.1 = .pointQuery

/-- `x` only logs provider queries. -/
def LogsQueries {α : Type} (x : SceneM F α) : Prop :=
  ∀ s, ∃ L, (∀ e ∈ L, IsQuery e) ∧ endState (x s) = { s with log := s.log ++ L }

/-- What a query that returns leaves: the commit done, then provider queries logged. -/
def QueryOk (s s' : Scene F) : Prop :=
  ∃ L, (∀ e ∈ L, IsQuery e) ∧ s' = { s.commit with log := s.commit.log ++ L }

/-- What a query can leave: also the state as it was, or a failed commit logged. -/
def QueryStep (s s' : Scene F) : Prop :=
  s' = s ∨ (s.sceneCommitted = false ∧ s' = { s with log := s.log ++ [(.commitScene, false)] }) ∨
    QueryOk s s'

/-- A query: it returns in a `QueryOk` state and fails in a `QueryStep` state. -/
def QuerySpec {α : Type} (x : SceneM F α) : Prop :=
  ∀ s, match x s with
    | .ok _ s' => QueryOk s s'
    | .error _ s' => QueryStep s s'

/-- `x` changes nothing, returning or failing. -/
def Stateless {α : Type} (x : SceneM F α) : Prop := ∀ s, endState (x s) = s

section
variable {α β : Type}

theorem stateless_liftCheck (x : Except Failure α) : Stateless (liftCheck x : SceneM F α) := by
  intro s; cases x <;> rfl

theorem stateless_allocate (b : Bool) : Stateless (allocate b : SceneM F Unit) := by
  intro s; cases b <;> rfl

theorem LogsQueries.bind {x : SceneM F α} {f : α → SceneM F β} (hx : LogsQueries x)
    (hf : ∀ a, LogsQueries (f a)) : LogsQueries (x >>= f) := by
  intro s
  obtain ⟨L, hL, hs⟩ := hx s
  rw [bind_apply]
  cases h : x s with
  | ok a s' =>
    rw [h, endState_ok] at hs
    subst hs
    obtain ⟨L', hL', hs'⟩ := hf a _
    refine ⟨L ++ L', fun e he => ?_, by rw [hs', List.append_assoc]⟩
    rcases List.mem_append.1 he with he | he
    exacts [hL e he, hL' e he]
  | error e s' => exact ⟨L, hL, by rw [← hs, h]; rfl⟩

theorem logsQueries_of_stateless {x : SceneM F α} (hx : Stateless x) : LogsQueries x :=
  fun s => ⟨[], by simp, by rw [hx s, List.append_nil]⟩

theorem logsQueries_pure (a : α) : LogsQueries (pure a : SceneM F α) :=
  logsQueries_of_stateless fun _ => rfl

theorem logsQueries_get : LogsQueries (get : SceneM F (Scene F)) :=
  logsQueries_of_stateless fun _ => rfl

theorem logsQueries_rtcQueries {c : RtcCall} (hc : c = .intersect1M ∨ c = .pointQuery)
    (n : Nat) (b : Bool) : LogsQueries (rtcQueries c n b : SceneM F Unit) := by
  intro s
  unfold rtcQueries
  split
  · exact ⟨[], by simp, by simp⟩
  split
  · exact ⟨[(c, false)], by simpa [IsQuery] using hc, rfl⟩
  · exact ⟨List.replicate n (c, true), fun e he => by
      rw [List.eq_of_mem_replicate he]; exact hc, rfl⟩

theorem ensureCommitted_spec (b : Bool) (s : Scene F) :
    match ensureCommitted b s with
    | .ok _ s' => s' = s.commit
    | .error _ s' =>
      s.sceneCommitted = false ∧ s' = { s with log := s.log ++ [(.commitScene, false)] } := by
  unfold ensureCommitted rtcCommitScene Scene.commit
  cases hf : s.sceneCommitted <;> cases b <;> simp [hf, rtcCall]

theorem ensureCommitted_false (s : Scene F) : ensureCommitted false s = .ok () s.commit := by
  have h := ensureCommitted_spec false s
  split at h
  · rw [‹ensureCommitted false s = _›, h]
  · unfold ensureCommitted rtcCommitScene rtcCall at *; simp_all

theorem rtcQueries_false (c : RtcCall) (n : Nat) (s : Scene F) :
    rtcQueries c n false s = .ok () { s with log := s.log ++ List.replicate n (c, true) } := by
  unfold rtcQueries; split <;> simp_all

theorem querySpec_of_logsQueries {x : SceneM F α} (hx : LogsQueries x) (b : Bool) :
    QuerySpec (ensureCommitted b >>= fun _ => x) := by
  intro s
  have hc := ensureCommitted_spec b s
  rw [bind_apply]
  cases h : ensureCommitted b s with
  | ok u s' =>
    rw [h] at hc
    subst hc
    obtain ⟨L, hL, hs⟩ := hx s.commit
    dsimp only
    cases h2 : x s.commit with
    | ok a s'' => rw [h2, endState_ok] at hs; exact ⟨L, hL, hs⟩
    | error e s'' => rw [h2, endState_error] at hs; exact Or.inr (Or.inr ⟨L, hL, hs⟩)
  | error e s' => rw [h] at hc; exact Or.inr (Or.inl hc)

theorem Scene.commit_of_committed {s : Scene F} (h : s.sceneCommitted = true) :
    s.commit = s := by
  simp [Scene.commit, h]

theorem QueryOk.committed {s s' : Scene F} (h : QueryOk s s') : s'.sceneCommitted = true := by
  obtain ⟨L, -, rfl⟩ := h
  unfold Scene.commit; split <;> simp_all

theorem QueryOk.trans {s s1 s2 : Scene F} (h1 : QueryOk s s1) (h2 : QueryOk s1 s2) :
    QueryOk s s2 := by
  obtain ⟨L', hL', rfl⟩ := h2
  rw [Scene.commit_of_committed h1.committed]
  obtain ⟨L, hL, rfl⟩ := h1
  refine ⟨L ++ L', fun e he => ?_, by simp⟩
  rcases List.mem_append.1 he with he | he
  exacts [hL e he, hL' e he]

theorem QueryOk.trans_step {s s1 s2 : Scene F} (h1 : QueryOk s s1) (h2 : QueryStep s1 s2) :
    QueryStep s s2 := by
  rcases h2 with rfl | ⟨hf, -⟩ | h2
  · exact Or.inr (Or.inr h1)
  · exact absurd h1.committed (by simp [hf])
  · exact Or.inr (Or.inr (h1.trans h2))

theorem QuerySpec.bind {x : SceneM F α} {f : α → SceneM F β} (hx : QuerySpec x)
    (hf : ∀ a, QuerySpec (f a)) : QuerySpec (x >>= f) := by
  intro s
  have h1 := hx s
  rw [bind_apply]
  cases h : x s with
  | ok a s' =>
    rw [h] at h1
    have h2 := hf a s'
    split at h2 <;> simp only [*]
    exacts [h1.trans h2, h1.trans_step h2]
  | error e s' => rw [h] at h1; exact h1

theorem QuerySpec.bind_pure {x : SceneM F α} (hx : QuerySpec x) (g : α → β) :
    QuerySpec (x >>= fun a => pure (g a)) := by
  intro s
  have h1 := hx s
  rw [bind_apply]
  cases h : x s <;> rw [h] at h1 <;> exact h1

theorem QuerySpec.pre {x : SceneM F α} {f : α → SceneM F β} (hx : Stateless x)
    (hf : ∀ a, QuerySpec (f a)) : QuerySpec (x >>= f) := by
  intro s
  have h1 := hx s
  rw [bind_apply]
  cases h : x s with
  | ok a s' => rw [h, endState_ok] at h1; subst h1; exact hf a _
  | error e s' => rw [h, endState_error] at h1; exact Or.inl h1

end

/-! ## The queries -/

section
variable [FloatOps F] (E : Embree F (List (Geometry F))) (fault : QueryFault)

theorem implCastRays_spec (line : Bool) (rays : Nat → F) (n : Nat) (o : CastOut F) :
    QuerySpec (implCastRays E fault line rays n o) :=
  querySpec_of_logsQueries (logsQueries_get.bind fun _ =>
    (logsQueries_of_stateless (stateless_liftCheck _)).bind fun _ =>
      (logsQueries_rtcQueries (.inl rfl) _ _).bind fun _ => logsQueries_pure _) _

theorem castRays_spec (o0 : CastOut F) (rays : Tensor F) :
    QuerySpec (castRays E fault o0 rays) :=
  QuerySpec.pre (stateless_liftCheck _) fun _ => QuerySpec.pre (stateless_allocate _) fun _ =>
    (implCastRays_spec E fault _ _ _ _).bind_pure _

section
variable [DecidableEq F]

theorem implCountIntersections_spec (rays : Nat → F) (n : Nat) (ints : Nat → Nat) :
    QuerySpec (implCountIntersections E fault rays n ints) :=
  querySpec_of_logsQueries (logsQueries_get.bind fun _ =>
    (logsQueries_of_stateless (stateless_liftCheck _)).bind fun _ =>
      (logsQueries_rtcQueries (.inl rfl) _ _).bind fun _ => logsQueries_pure _) _

theorem countIntersections_spec (rays : Tensor F) : QuerySpec (countIntersections E fault rays) :=
  QuerySpec.pre (stateless_liftCheck _) fun _ => QuerySpec.pre (stateless_allocate _) fun _ =>
    (implCountIntersections_spec E fault _ _ _).bind_pure _

theorem computeOccupancy_spec (q : Tensor F) : QuerySpec (computeOccupancy E fault q) :=
  QuerySpec.pre (stateless_liftCheck _) fun _ => (countIntersections_spec E fault _).bind_pure _

end

section
variable [LT F] [DecidableRel (α := F) (· < ·)] (p0 : Vec3 F)

theorem implComputeClosestPoints_spec (q : Nat → F) (n : Nat) (o : ClosestOut F) :
    QuerySpec (implComputeClosestPoints E fault p0 q n o) :=
  querySpec_of_logsQueries (logsQueries_get.bind fun _ =>
    (logsQueries_of_stateless (stateless_liftCheck _)).bind fun _ =>
      (logsQueries_rtcQueries (.inr rfl) _ _).bind fun _ => logsQueries_pure _) _

theorem computeClosestPoints_spec (q : Tensor F) :
    QuerySpec (computeClosestPoints E fault p0 q) :=
  QuerySpec.pre (stateless_liftCheck _) fun _ => QuerySpec.pre (stateless_allocate _) fun _ =>
    (implComputeClosestPoints_spec E fault p0 _ _ _).bind_pure _

theorem computeDistance_spec (q : Tensor F) : QuerySpec (computeDistance E fault p0 q) :=
  QuerySpec.pre (stateless_liftCheck _) fun _ =>
    (computeClosestPoints_spec E fault p0 q).bind_pure _

theorem computeSignedDistance_spec [DecidableEq F] (q : Tensor F) :
    QuerySpec (computeSignedDistance E fault p0 q) :=
  QuerySpec.pre (stateless_liftCheck _) fun _ => (computeDistance_spec E fault p0 q).bind fun _ =>
    (countIntersections_spec E fault _).bind_pure _

end

end

/-! ## `AddTriangles` -/

/-- What an `AddTriangles` call registering `g` can leave, with the handle it returns: the
state as it was (a failed check); or the flag clear and `g` attached at handle
`geometries.length` and registered (returned), not attached (failed), or attached but not
registered (failed after the attach, which `late` allows). -/
def AddStep (late : Prop) (g : Geometry F) (s s' : Scene F) (r : Option Nat) : Prop :=
  (s' = s ∧ r = none) ∨
  (s'.sceneCommitted = false ∧ s'.committed = s.committed ∧
    ((r = some s.geometries.length ∧ s'.geometries = s.geometries ++ [g] ∧
        s'.geometryPtrs = s.geometryPtrs ++ [g.record]) ∨
      (r = none ∧ s'.geometryPtrs = s.geometryPtrs ∧
        (s'.geometries = s.geometries ∨ late ∧ s'.geometries = s.geometries ++ [g]))))

/-- The outcome of a call: the state it ends in, and what it returned. -/
def outcome {α : Type} : EStateM.Result Failure (Scene F) α → Scene F × Option α
  | .ok a s => (s, some a)
  | .error _ s => (s, none)

@[simp] theorem outcome_fst {α : Type} (r : EStateM.Result Failure (Scene F) α) :
    (outcome r).1 = endState r := by
  cases r <;> rfl

section
variable [Zero F]

theorem addTriangles_step (f : Option AddFault) (v : Tensor F) (t : Tensor Nat) (s : Scene F) :
    AddStep (f = some .releaseGeometry ∨ f = some .pushBack) (newGeometry v t) s
      (outcome (addTriangles f v t s)).1 (outcome (addTriangles f v t s)).2 := by
  rcases hc : addTrianglesChecks v t with e | ⟨⟩
  · simp [AddStep, addTriangles, hc, outcome]
  simp only [addTriangles, hc, bind_apply, liftCheck_ok, modify_apply, rtcCall, allocate,
    rtcAttachGeometry]
  by_cases hlen : rtcInvalidGeometryId ≤ s.geometries.length <;>
  rcases f with _ | (_ | _ | _ | _ | _ | _ | _ | _ | _ | _) <;>
  simp [AddStep, outcome, hlen]

theorem addTriangleMesh_step (f : Option AddFault) (m : TriangleMesh F) (s : Scene F) :
    AddStep (f = some .releaseGeometry ∨ f = some .pushBack)
      (newGeometry m.vertices m.triangles.toUInt32) s
      (outcome (addTriangleMesh f m s)).1 (outcome (addTriangleMesh f m s)).2 := by
  unfold addTriangleMesh
  by_cases hn : uint32Max < m.vertices.getLength
  · simp [hn, AddStep, outcome]
  cases hb : (f == some .convert && m.triangles.dtype != .uint32)
  · simpa [hn, hb, allocate] using addTriangles_step f m.vertices m.triangles.toUInt32 s
  · simp [hn, hb, allocate, AddStep, outcome]

end

/-! ## One operation -/

/-- The operation is a query. -/
def Op.isQuery : Op F → Bool
  | .addTriangles .. | .addTriangleMesh .. => false
  | _ => true

/-- The operation is an `AddTriangles` set to fail after its `rtcAttachGeometry`. -/
def Op.failsAfterAttach : Op F → Bool
  | .addTriangles _ _ f | .addTriangleMesh _ f =>
    f == some .releaseGeometry || f == some .pushBack
  | _ => false

/-- The tensors an `AddTriangles` operation copies into its geometry: the mesh overload passes
its triangles cast to `uint32_t` (line 457). -/
def Op.meshTensors : Op F → Option (Tensor F × Tensor Nat)
  | .addTriangles v t _ => some (v, t)
  | .addTriangleMesh m _ => some (m.vertices, m.triangles.toUInt32)
  | _ => none

theorem QuerySpec.step {α : Type} {x : SceneM F α} (hx : QuerySpec x) (s : Scene F) :
    QueryStep s (endState (x s)) := by
  have h := hx s
  cases hx' : x s <;> rw [hx'] at h
  · exact Or.inr (Or.inr h)
  · exact h

section
variable [FloatOps F] [DecidableEq F] [LT F] [DecidableRel (α := F) (· < ·)]
  (E : Embree F (List (Geometry F))) (p0 : Vec3 F)

theorem Op.step_of_query {α : Type} {op : Op F} {x : SceneM F α}
    (h : op.exec E p0 = (fun _ => none) <$> x) (s : Scene F) :
    op.step E p0 s = (endState (x s), none) := by
  rw [Op.step, h, map_apply]
  cases x s <;> rfl

theorem Op.step_of_add {op : Op F} {x : SceneM F Nat} (h : op.exec E p0 = some <$> x)
    (s : Scene F) : op.step E p0 s = outcome (x s) := by
  rw [Op.step, h, map_apply]
  cases x s <;> rfl

/-- Everything one operation can do: a query takes a `QueryStep` and returns nothing, an
`AddTriangles` call takes an `AddStep`. -/
theorem Op.step_cases (op : Op F) (s : Scene F) :
    (op.isQuery = true ∧ QueryStep s (op.step E p0 s).1 ∧ (op.step E p0 s).2 = none) ∨
      op.isQuery = false ∧ ∃ v t, op.meshTensors = some (v, t) ∧
        AddStep (op.failsAfterAttach = true) (newGeometry v t) s (op.step E p0 s).1
          (op.step E p0 s).2 := by
  cases op with
  | addTriangles v t f =>
    rw [Op.step_of_add E p0 rfl]
    exact .inr ⟨rfl, _, _, rfl, by simpa [Op.failsAfterAttach] using addTriangles_step f v t s⟩
  | addTriangleMesh m f =>
    rw [Op.step_of_add E p0 rfl]
    exact .inr ⟨rfl, _, _, rfl, by simpa [Op.failsAfterAttach] using addTriangleMesh_step f m s⟩
  | castRays r f o0 => exact .inl ⟨rfl, by rw [Op.step_of_query E p0 rfl]; exact
      ⟨(castRays_spec E f o0 r).step s, rfl⟩⟩
  | countIntersections r f => exact .inl ⟨rfl, by rw [Op.step_of_query E p0 rfl]; exact
      ⟨(countIntersections_spec E f r).step s, rfl⟩⟩
  | computeClosestPoints q f => exact .inl ⟨rfl, by rw [Op.step_of_query E p0 rfl]; exact
      ⟨(computeClosestPoints_spec E f p0 q).step s, rfl⟩⟩
  | computeDistance q f => exact .inl ⟨rfl, by rw [Op.step_of_query E p0 rfl]; exact
      ⟨(computeDistance_spec E f p0 q).step s, rfl⟩⟩
  | computeSignedDistance q f => exact .inl ⟨rfl, by rw [Op.step_of_query E p0 rfl]; exact
      ⟨(computeSignedDistance_spec E f p0 q).step s, rfl⟩⟩
  | computeOccupancy q f => exact .inl ⟨rfl, by rw [Op.step_of_query E p0 rfl]; exact
      ⟨(computeOccupancy_spec E f q).step s, rfl⟩⟩

theorem Op.step_registers {op : Op F} {v : Tensor F} {t : Tensor Nat} {s : Scene F} {h : Nat}
    (hm : op.meshTensors = some (v, t)) (hh : (op.step E p0 s).2 = some h) :
    h = s.geometries.length ∧
      (op.step E p0 s).1.geometries = s.geometries ++ [newGeometry v t] := by
  rcases op.step_cases E p0 s with ⟨-, -, hn⟩ | ⟨-, v', t', hm', hstep⟩
  · rw [hn] at hh; cases hh
  obtain ⟨rfl, rfl⟩ := Prod.mk.inj (Option.some.inj (hm'.symm.trans hm))
  rw [hh] at hstep
  rcases hstep with ⟨-, ⟨⟩⟩ | ⟨-, -, ⟨hr, hg, -⟩ | ⟨⟨⟩, -⟩⟩
  exact ⟨Option.some.inj hr, hg⟩

end

/-! ## The commit flag -/

/-- After the log's last completed `rtcCommitScene` it has no completed
`rtcAttachGeometry`. -/
def CommitAfterAttach (log : List (RtcCall × Bool)) : Prop :=
  ∃ i : Nat, log[i]? = some (.commitScene, true) ∧
    ∀ j : Nat, i < j → log[j]? ≠ some (.attachGeometry, true)

/-- The meaning of `Impl::scene_committed`: the provider's committed scene is an earlier state
of its attached geometries, and while the flag is set it is all of them, with no attach since
the last completed commit. -/
structure CommitInv (s : Scene F) : Prop where
  snapshot : s.committed <+: s.geometries
  committed : s.sceneCommitted = true → s.committed = s.geometries
  log : s.sceneCommitted = true → CommitAfterAttach s.log

theorem commitAfterAttach_append {log L : List (RtcCall × Bool)} (h : CommitAfterAttach log)
    (hL : ∀ e ∈ L, e.1 ≠ .attachGeometry) : CommitAfterAttach (log ++ L) := by
  obtain ⟨i, hi, hj⟩ := h
  have hil : i < log.length := (List.getElem?_eq_some_iff.1 hi).1
  refine ⟨i, by rw [List.getElem?_append_left hil, hi], fun j hij he => ?_⟩
  by_cases hjl : j < log.length
  · exact hj j hij (by rwa [List.getElem?_append_left hjl] at he)
  · rw [List.getElem?_append_right (by omega)] at he
    exact hL _ (List.getElem?_mem he) rfl

theorem commitAfterAttach_commit (log : List (RtcCall × Bool)) :
    CommitAfterAttach (log ++ [(.commitScene, true)]) :=
  ⟨log.length, List.getElem?_concat_length .., fun j hj he => by
    rw [List.getElem?_eq_none (by rw [List.length_append, List.length_singleton]; omega)] at he
    cases he⟩

theorem commitInv_init : CommitInv (Scene.init : Scene F) :=
  ⟨List.prefix_refl _, nofun, nofun⟩

theorem isQuery_not_attach {L : List (RtcCall × Bool)} (hL : ∀ e ∈ L, IsQuery e) :
    ∀ e ∈ L, e.1 ≠ .attachGeometry := by
  intro e he h
  rcases hL e he with h' | h' <;> rw [h] at h' <;> cases h'

theorem QueryStep.commitInv {s s' : Scene F} (h : QueryStep s s') (hs : CommitInv s) :
    CommitInv s' := by
  rcases h with rfl | ⟨hf, rfl⟩ | ⟨L, hL, rfl⟩
  · exact hs
  · exact ⟨hs.snapshot, fun h => by simp_all, fun h => by simp_all⟩
  · unfold Scene.commit
    split
    · exact ⟨hs.snapshot, hs.committed, fun h => commitAfterAttach_append (hs.log h)
        (isQuery_not_attach hL)⟩
    · exact ⟨List.prefix_refl _, fun _ => rfl, fun _ => commitAfterAttach_append
        (commitAfterAttach_commit _) (isQuery_not_attach hL)⟩

theorem AddStep.prefix_geometries {late : Prop} {g : Geometry F} {s s' : Scene F}
    {r : Option Nat} (h : AddStep late g s s' r) : s.geometries <+: s'.geometries := by
  rcases h with ⟨rfl, -⟩ | ⟨-, -, ⟨-, hg, -⟩ | ⟨-, -, hg | ⟨-, hg⟩⟩⟩
  · exact List.prefix_refl _
  · exact hg ▸ List.prefix_append _ _
  · exact hg ▸ List.prefix_refl _
  · exact hg ▸ List.prefix_append _ _

theorem AddStep.commitInv {late : Prop} {g : Geometry F} {s s' : Scene F} {r : Option Nat}
    (h : AddStep late g s s' r) (hs : CommitInv s) : CommitInv s' := by
  have hp := h.prefix_geometries
  rcases h with ⟨rfl, -⟩ | ⟨hf, hc, -⟩
  · exact hs
  exact ⟨hc ▸ hs.snapshot.trans hp, fun h => by simp_all, fun h => by simp_all⟩

/-! ## The registry -/

/-- `Impl::geometry_ptrs` is the attached geometries' entries, handle by handle. -/
def RegistryInv (s : Scene F) : Prop := s.geometryPtrs = s.geometries.map Geometry.record

theorem QueryStep.frame {s s' : Scene F} (h : QueryStep s s') :
    s'.geometryPtrs = s.geometryPtrs ∧ s'.geometries = s.geometries := by
  rcases h with rfl | ⟨-, rfl⟩ | ⟨L, -, rfl⟩
  · exact ⟨rfl, rfl⟩
  · exact ⟨rfl, rfl⟩
  · unfold Scene.commit; split <;> exact ⟨rfl, rfl⟩

theorem AddStep.registry {late : Prop} {g : Geometry F} {s s' : Scene F} {r : Option Nat}
    (h : AddStep late g s s' r) (hl : ¬ late) (hs : RegistryInv s) :
    RegistryInv s' ∧
      (r = some s.geometries.length ∧ s'.geometries.length = s.geometries.length + 1 ∨
        r = none ∧ s'.geometries = s.geometries) := by
  rcases h with ⟨rfl, rfl⟩ | ⟨-, -, ⟨rfl, hg, hp⟩ | ⟨rfl, hp, hg | ⟨hl', -⟩⟩⟩
  · exact ⟨hs, .inr ⟨rfl, rfl⟩⟩
  · refine ⟨?_, .inl ⟨rfl, by simp [hg]⟩⟩
    rw [RegistryInv, hp, hg, hs, List.map_append, List.map_singleton]
  · exact ⟨by rw [RegistryInv, hp, hg, hs], .inr ⟨rfl, hg⟩⟩
  · exact absurd hl' hl

/-! ## Commits between registrations -/

section
variable [FloatOps F] [DecidableEq F] [LT F] [DecidableRel (α := F) (· < ·)]
  (E : Embree F (List (Geometry F))) (p0 : Vec3 F)

theorem run_cons (s : Scene F) (op : Op F) (ops : List (Op F)) :
    run E p0 s (op :: ops) =
      ((run E p0 (op.step E p0 s).1 ops).1, (op.step E p0 s).2.toList ++
        (run E p0 (op.step E p0 s).1 ops).2) := rfl

theorem run_fst_append (s : Scene F) (ops₁ ops₂ : List (Op F)) :
    (run E p0 s (ops₁ ++ ops₂)).1 = (run E p0 (run E p0 s ops₁).1 ops₂).1 := by
  induction ops₁ generalizing s with
  | nil => rfl
  | cons op ops₁ ih => exact ih _

theorem Op.step_commitInv (op : Op F) {s : Scene F} (hs : CommitInv s) :
    CommitInv (op.step E p0 s).1 := by
  rcases op.step_cases E p0 s with ⟨-, h, -⟩ | ⟨-, _, _, -, h⟩
  exacts [h.commitInv hs, h.commitInv hs]

theorem run_commitInv (ops : List (Op F)) {s : Scene F} (hs : CommitInv s) :
    CommitInv (run E p0 s ops).1 := by
  induction ops generalizing s with
  | nil => exact hs
  | cons op ops ih => exact ih (op.step_commitInv E p0 hs)

theorem run_geometries_prefix (ops : List (Op F)) (s : Scene F) :
    s.geometries <+: (run E p0 s ops).1.geometries := by
  induction ops generalizing s with
  | nil => exact List.prefix_refl _
  | cons op ops ih =>
    refine List.IsPrefix.trans ?_ (ih _)
    rcases op.step_cases E p0 s with ⟨-, h, -⟩ | ⟨-, _, _, -, h⟩
    · exact h.frame.2 ▸ List.prefix_refl _
    · exact h.prefix_geometries

/-- Runs without a failure after an attach keep the registry in step, and their successful
`AddTriangles` calls return consecutive handles from the registry's length on. -/
theorem run_registry (ops : List (Op F)) (hops : ∀ op ∈ ops, op.failsAfterAttach = false)
    {s : Scene F} (hs : RegistryInv s) :
    RegistryInv (run E p0 s ops).1 ∧
      (run E p0 s ops).2 = List.range' s.geometries.length (run E p0 s ops).2.length ∧
      (run E p0 s ops).1.geometries.length = s.geometries.length + (run E p0 s ops).2.length := by
  induction ops generalizing s with
  | nil => exact ⟨hs, rfl, rfl⟩
  | cons op ops ih =>
    have hop := hops op (.head _)
    obtain ⟨h1, h2⟩ : RegistryInv (op.step E p0 s).1 ∧
        ((op.step E p0 s).2 = some s.geometries.length ∧
          (op.step E p0 s).1.geometries.length = s.geometries.length + 1 ∨
        (op.step E p0 s).2 = none ∧ (op.step E p0 s).1.geometries = s.geometries) := by
      rcases op.step_cases E p0 s with ⟨-, h, hr⟩ | ⟨-, _, _, -, h⟩
      · exact ⟨by rw [RegistryInv, h.frame.1, h.frame.2, hs], .inr ⟨hr, h.frame.2⟩⟩
      · exact h.registry (by simp [hop]) hs
    have ih' := ih (fun op h => hops op (.tail _ h)) h1
    rw [run_cons]
    rcases h2 with ⟨hr, hl⟩ | ⟨hr, hg⟩
    · simp only [hr, Option.toList_some, List.singleton_append, List.length_cons]
      refine ⟨ih'.1, ?_, by rw [ih'.2.2, hl]; omega⟩
      rw [List.range'_succ, ← hl, ← ih'.2.1]
    · simp only [hr, Option.toList_none, List.nil_append]
      rwa [hg] at ih'

end

/-! ## The lifecycle over whole runs -/

theorem getElem?_of_prefix {α : Type} {l l' : List α} (h : l <+: l') {n : Nat} {a : α}
    (ha : l[n]? = some a) : l'[n]? = some a := by
  obtain ⟨t, rfl⟩ := h
  rw [List.getElem?_append_left (List.getElem?_eq_some_iff.1 ha).1, ha]

theorem commit_committed {s : Scene F} (hs : CommitInv s) : s.commit.committed = s.geometries := by
  unfold Scene.commit; split
  · exact hs.committed ‹_›
  · rfl

section
variable [FloatOps F] [DecidableEq F] [LT F] [DecidableRel (α := F) (· < ·)]
  (E : Embree F (List (Geometry F))) (p0 : Vec3 F)

/-- On every run from a new scene in which no `AddTriangles` call fails after its attach,
`geometry_ptrs` has one entry per attached geometry, entry `h` that of the geometry with
handle `h`; the calls that return give the handles `0, 1, 2, …` in order; entry `h` is a
triangle mesh whose buffers hold copies of the vertices and triangles passed to the call that
returned `h`; every geometry of the committed scene, which `ClosestPointFunc` looks up by the
id the provider reports, has its entry; and the next `AddTriangles` that returns gives the
next handle and registers the buffers it copied its own input into. -/
theorem geometry_registry_in_step (ops : List (Op F))
    (hops : ∀ op ∈ ops, op.failsAfterAttach = false) :
    let r := run E p0 Scene.init ops
    r.1.geometryPtrs = r.1.geometries.map Geometry.record ∧ r.2 = List.range r.2.length ∧
      (∀ ops₁ op ops₂ v t h, ops = ops₁ ++ op :: ops₂ → op.meshTensors = some (v, t) →
        (op.step E p0 (run E p0 Scene.init ops₁).1).2 = some h →
        ∃ e, r.1.geometryPtrs[h]? = some e ∧ e.type = .triangle ∧
          (∀ k < 3 * v.getLength, e.vertices k = v.data k) ∧
          ∀ k < 3 * t.getLength, e.triangles k = t.data k) ∧
      (∀ (h : Nat) (g : Geometry F), r.1.committed[h]? = some g →
        r.1.geometryPtrs[h]? = some g.record) ∧
      ∀ f v t h s', addTriangles f v t r.1 = .ok h s' →
        h = r.2.length ∧ s'.geometryPtrs = r.1.geometryPtrs ++ [(newGeometry v t).record] := by
  obtain ⟨hreg, hrange, hlen⟩ := run_registry E p0 ops hops (s := Scene.init) rfl
  have hc := run_commitInv E p0 ops commitInv_init
  refine ⟨hreg, by rw [List.range_eq_range']; exact hrange, ?_, fun h g hg => ?_, ?_⟩
  · -- the call that returned `h` appended its geometry at `h`, and runs only append
    rintro ops₁ op ops₂ v t h rfl hm hh
    obtain ⟨rfl, hg⟩ := op.step_registers E p0 hm hh
    have hpre := run_geometries_prefix E p0 ops₂ (op.step E p0 (run E p0 Scene.init ops₁).1).1
    rw [hg, show (run E p0 (op.step E p0 (run E p0 Scene.init ops₁).1).1 ops₂).1 =
      (run E p0 Scene.init (ops₁ ++ op :: ops₂)).1 from
      (run_fst_append E p0 Scene.init ops₁ (op :: ops₂)).symm] at hpre
    rw [hreg, List.getElem?_map, getElem?_of_prefix hpre (List.getElem?_concat_length _ _)]
    refine ⟨_, rfl, rfl, fun k hk => ?_, fun k hk => ?_⟩ <;>
      simp [newGeometry, Geometry.record, copyBuffer, hk]
  · rw [hreg, List.getElem?_map, getElem?_of_prefix hc.snapshot hg]; rfl
  · intro f v t h s' hadd
    have := addTriangles_step f v t (run E p0 Scene.init ops).1
    rw [hadd] at this
    rcases this with ⟨-, ⟨⟩⟩ | ⟨-, -, ⟨hh, -, hp⟩ | ⟨⟨⟩, -⟩⟩
    simp only [outcome, Option.some.injEq] at hh
    exact ⟨by rw [hh, hlen]; exact Nat.zero_add _, hp⟩

end

/-- Three vertices, and one triangle on them. -/
def triangleVertices : Tensor Nat := ⟨[3, 3], .float32, Device.default, fun _ => 0⟩

/-- One triangle `(0, 1, 2)`. -/
def triangleIndices : Tensor Nat := ⟨[1, 3], .uint32, Device.default, fun k => k⟩

/-- Two `AddTriangles` calls on a new scene, neither failing: the registry is in step, the
handles are `0` and `1`, and each entry holds its call's buffers. -/
theorem geometry_registry_two_adds :
    (∀ op ∈ [Op.addTriangles triangleVertices triangleIndices none,
      .addTriangles triangleVertices triangleIndices none], op.failsAfterAttach = false) ∧
    let r := run missEmbree ⟨0, 0, 0⟩ Scene.init
      [.addTriangles triangleVertices triangleIndices none,
        .addTriangles triangleVertices triangleIndices none]
    r.1.geometryPtrs = r.1.geometries.map Geometry.record ∧ r.2 = List.range r.2.length ∧
      (∀ ops₁ op ops₂ v t h, [Op.addTriangles triangleVertices triangleIndices none,
          .addTriangles triangleVertices triangleIndices none] = ops₁ ++ op :: ops₂ →
        op.meshTensors = some (v, t) →
        (op.step missEmbree ⟨0, 0, 0⟩ (run missEmbree ⟨0, 0, 0⟩ Scene.init ops₁).1).2 = some h →
        ∃ e, r.1.geometryPtrs[h]? = some e ∧ e.type = .triangle ∧
          (∀ k < 3 * v.getLength, e.vertices k = v.data k) ∧
          ∀ k < 3 * t.getLength, e.triangles k = t.data k) ∧
      (∀ (h : Nat) (g : Geometry Nat), r.1.committed[h]? = some g →
        r.1.geometryPtrs[h]? = some g.record) ∧
      ∀ f v t h s', addTriangles f v t r.1 = .ok h s' →
        h = r.2.length ∧ s'.geometryPtrs = r.1.geometryPtrs ++ [(newGeometry v t).record] :=
  ⟨by decide, geometry_registry_in_step missEmbree ⟨0, 0, 0⟩ _ (by decide)⟩

/-- `push_back` throwing after the attach: the next `AddTriangles` returns handle `1` as the
first handle, and `geometry_ptrs` has one entry for two attached geometries, so the lookup of
handle `1` is past its end. -/
theorem registry_out_of_step :
    let r := run missEmbree ⟨0, 0, 0⟩ Scene.init
      [.addTriangles triangleVertices triangleIndices (some .pushBack),
        .addTriangles triangleVertices triangleIndices none]
    r.2 = [1] ∧ r.1.geometries.length = 2 ∧ r.1.geometryPtrs.length = 1 := by
  decide

/-- A mesh of `1431655766` vertices, all `(0, 0, 0)` but the last, `(7, 7, 7)`, with one
triangle on the last vertex: fewer than `2 ^ 32 - 1` vertices, so `AddTriangles(mesh)`
admits it. -/
def bigMesh : TriangleMesh Nat :=
  ⟨⟨[1431655766, 3], .float32, Device.default, fun k => if k / 3 = 1431655765 then 7 else 0⟩,
    ⟨[1, 3], .int64, Device.default, fun _ => 1431655765⟩⟩

/-- `AddTriangles(mesh)` registers the mesh as handle `0`, and `ClosestPointFunc` then reads
its last vertex as `(7, 0, 0)`: the offsets `3 * v + 1` and `3 * v + 2` wrap to `0` and `1`,
the first vertex's coordinates. -/
theorem corner_wraps :
    (run missEmbree ⟨0, 0, 0⟩ Scene.init [.addTriangleMesh bigMesh none]).2 = [0] ∧
      ((run missEmbree ⟨0, 0, 0⟩ Scene.init [.addTriangleMesh bigMesh none]).1.geometryPtrs.head?
        |>.map fun g => g.corner 0 0) = some ⟨7, 0, 0⟩ ∧
      pointAt bigMesh.vertices.data 1431655765 = ⟨7, 7, 7⟩ := by
  decide

section
variable [FloatOps F] [DecidableEq F] [LT F] [DecidableRel (α := F) (· < ·)]
  (E : Embree F (List (Geometry F))) (p0 : Vec3 F)

end

/-! ## Checks -/

/-- What the checks of lines 403-408 admit: both tensors on the default device, of shape
`{n, 3}`, `float32` vertices and `uint32` triangles. -/
def MeshTensorsOk [Zero F] (vertices : Tensor F) (triangles : Tensor Nat) : Prop :=
  vertices.device = Device.default ∧ (∃ n, vertices.shape = [n, 3]) ∧
    vertices.dtype = .float32 ∧ triangles.device = Device.default ∧
    (∃ m, triangles.shape = [m, 3]) ∧ triangles.dtype = .uint32

theorem addTrianglesChecks_eq_ok [Zero F] {vertices : Tensor F} {triangles : Tensor Nat} :
    addTrianglesChecks vertices triangles = .ok () ↔ MeshTensorsOk vertices triangles := by
  simp only [addTrianglesChecks, bind_eq_ok_unit, Tensor.assertDevice_eq_ok,
    Tensor.assertShapeCompatible_eq_ok, Tensor.assertDtype_eq_ok, MeshTensorsOk]

theorem exists_error_of_ne_ok {x : Except Failure Unit} (h : x ≠ .ok ()) :
    ∃ e, x = .error e := by
  cases x with
  | error e => exact ⟨e, rfl⟩
  | ok u => exact absurd rfl h

theorem assertTensor_error {α : Type} {dtype : Dtype} {t : Tensor α} (name : String)
    {lastDim : Nat} {device : Device} {minNdim : Nat}
    (h : ¬ TensorOk dtype t lastDim device minNdim) :
    ∃ e, assertTensorDtypeLastDimDeviceMinNDim dtype t name lastDim device minNdim = .error e :=
  exists_error_of_ne_ok (mt assertTensor_eq_ok.1 h)

/-- The operation's input fails a check its code makes: a query's
`AssertTensorDtypeLastDimDeviceMinNDim`, the mesh overload's vertex count, or the device,
shape and dtype checks of `AddTriangles`. -/
def Op.Violates [Zero F] : Op F → Prop
  | .addTriangles v t _ => ¬ MeshTensorsOk v t
  | .addTriangleMesh m _ =>
    uint32Max < m.vertices.getLength ∨ ¬ MeshTensorsOk m.vertices m.triangles.toUInt32
  | .castRays r _ _ | .countIntersections r _ => ¬ TensorOk .float32 r 6 Device.default 2
  | .computeClosestPoints q _ | .computeDistance q _ | .computeSignedDistance q _
  | .computeOccupancy q _ => ¬ TensorOk .float32 q 3 Device.default 2

section
variable [FloatOps F] [DecidableEq F] [LT F] [DecidableRel (α := F) (· < ·)]
  (E : Embree F (List (Geometry F))) (p0 : Vec3 F)

/-- An operation whose input fails one of its checks fails before any provider call and
leaves the scene as it was. -/
theorem Op.exec_of_violates (op : Op F) (h : op.Violates) (s : Scene F) :
    ∃ e, op.exec E p0 s = .error e s := by
  cases op with
  | addTriangles v t f =>
    obtain ⟨e, he⟩ := exists_error_of_ne_ok (mt addTrianglesChecks_eq_ok.1 h)
    exact ⟨e, by rw [Op.exec, RaycastingScene.addTriangles, he]; rfl⟩
  | addTriangleMesh m f =>
    by_cases hn : uint32Max < m.vertices.getLength
    · exact ⟨.tooManyVertices uint32Max, by
        rw [Op.exec, RaycastingScene.addTriangleMesh, if_pos hn]; rfl⟩
    obtain ⟨e, he⟩ := exists_error_of_ne_ok
      (mt addTrianglesChecks_eq_ok.1 (h.resolve_left hn))
    cases hb : (f == some .convert && m.triangles.dtype != .uint32)
    · exact ⟨e, by rw [Op.exec, RaycastingScene.addTriangleMesh, if_neg hn, hb,
        RaycastingScene.addTriangles, he]; rfl⟩
    · exact ⟨.badAlloc, by rw [Op.exec, RaycastingScene.addTriangleMesh, if_neg hn, hb]; rfl⟩
  | castRays r f o0 =>
    obtain ⟨e, he⟩ := assertTensor_error "rays" h
    exact ⟨e, by rw [Op.exec, RaycastingScene.castRays, he]; rfl⟩
  | countIntersections r f =>
    obtain ⟨e, he⟩ := assertTensor_error "rays" h
    exact ⟨e, by rw [Op.exec, RaycastingScene.countIntersections, he]; rfl⟩
  | computeClosestPoints q f =>
    obtain ⟨e, he⟩ := assertTensor_error "query_points" h
    exact ⟨e, by rw [Op.exec, RaycastingScene.computeClosestPoints, he]; rfl⟩
  | computeDistance q f =>
    obtain ⟨e, he⟩ := assertTensor_error "query_points" h
    exact ⟨e, by rw [Op.exec, RaycastingScene.computeDistance, he]; rfl⟩
  | computeSignedDistance q f =>
    obtain ⟨e, he⟩ := assertTensor_error "query_points" h
    exact ⟨e, by rw [Op.exec, RaycastingScene.computeSignedDistance, he]; rfl⟩
  | computeOccupancy q f =>
    obtain ⟨e, he⟩ := assertTensor_error "query_points" h
    exact ⟨e, by rw [Op.exec, RaycastingScene.computeOccupancy, he]; rfl⟩

end

/-- A ray tensor of the wrong dtype. -/
def int32Rays : Tensor Nat := ⟨[1, 6], .int32, Device.default, fun _ => 0⟩

/-- `CastRays` on an `Int32` ray tensor fails its dtype check and leaves the new scene as it
was. -/
theorem castRays_int32_unchanged :
    (Op.castRays int32Rays .none
        ⟨fun _ => 0, fun _ => 0, fun _ => 0, fun _ => 0, fun _ => 0⟩).Violates ∧
      ∃ e, (Op.castRays int32Rays .none ⟨fun _ => 0, fun _ => 0, fun _ => 0, fun _ => 0,
        fun _ => 0⟩).exec missEmbree ⟨0, 0, 0⟩ Scene.init = .error e Scene.init :=
  have h : (Op.castRays int32Rays .none
      ⟨fun _ => 0, fun _ => 0, fun _ => 0, fun _ => 0, fun _ => 0⟩).Violates :=
    fun h => nomatch h.2.2.2
  ⟨h, Op.exec_of_violates missEmbree ⟨0, 0, 0⟩ _ h _⟩

/-- A `{2 ^ 32, 3}` vertex tensor: one vertex more than `uint32_t` counts. -/
def hugeVertices [Zero F] : Tensor F := ⟨[2 ^ 32, 3], .float32, Device.default, fun _ => 0⟩

/-- The mesh overload refuses `2 ^ 32` vertices before any call, but the tensor overload does
not count them: it clears `scene_committed` and calls `rtcNewGeometry`. -/
theorem addTriangles_unchecked_vertex_count [Zero F] (s : Scene F) :
    addTriangleMesh none ⟨hugeVertices, ⟨[1, 3], .int64, Device.default, fun _ => 0⟩⟩ s =
        .error (.tooManyVertices uint32Max) s ∧
      (endState (addTriangles none hugeVertices triangleIndices s)).sceneCommitted = false ∧
      ∃ L, (endState (addTriangles none hugeVertices triangleIndices s)).log =
        s.log ++ (.newGeometry, true) :: L := by
  have hc : addTrianglesChecks (hugeVertices : Tensor F) triangleIndices = .ok () :=
    addTrianglesChecks_eq_ok.2 ⟨rfl, ⟨_, rfl⟩, rfl, rfl, ⟨_, rfl⟩, rfl⟩
  refine ⟨by simp [addTriangleMesh, hugeVertices, Tensor.getLength, uint32Max], ?_⟩
  simp only [addTriangles, hc, bind_apply, liftCheck_ok, modify_apply, rtcCall, allocate,
    rtcAttachGeometry]
  by_cases hlen : rtcInvalidGeometryId ≤ s.geometries.length <;> simp [hlen]

end RaycastingScene
