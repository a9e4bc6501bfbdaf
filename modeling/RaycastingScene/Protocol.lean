import RaycastingScene.Lifecycle

/-!
# The provider-call protocol over whole runs

Embree asks that a scene be committed after it changes and before it is queried, and that the
reference `rtcNewGeometry` returns be released once the scene holds the geometry. The scene's
log records each provider call and whether it completed; this module reads the protocol off
the log of every run, failed calls included.

* `addTriangles_log`: an `AddTriangles` call logs one of `addTrianglesLogs`, its provider calls
  in order up to the first that fails or up to a copy that throws.
* `queries_follow_commit`: in every run, every `rtcIntersect1M` and `rtcPointQuery` call comes
  after a completed `rtcCommitScene` with no completed `rtcAttachGeometry` in between.
* `release_count_eq_attach`: in every run `rtcReleaseGeometry` is called once per completed
  `rtcAttachGeometry`, and these are at most the completed `rtcNewGeometry` calls: a geometry
  whose attach does not complete is never released.
-/

namespace RaycastingScene

variable {F : Type}

/-! ## One call -/

/-- The logs one `AddTriangles` call can leave (lines 413-442): nothing (a check or the
conversion fails); its provider calls `rtcNewGeometry`, `rtcSetNewGeometryBuffer` twice,
`rtcCommitGeometry`, `rtcAttachGeometry`, `rtcReleaseGeometry` in order up to the first that
raises its error; the first three, then a copy that throws `std::bad_alloc`; or all six. -/
def addTrianglesLogs : List (List (RtcCall × Bool)) :=
  [[], [(.newGeometry, false)],
    [(.newGeometry, true), (.setNewGeometryBuffer, false)],
    [(.newGeometry, true), (.setNewGeometryBuffer, true), (.setNewGeometryBuffer, false)],
    [(.newGeometry, true), (.setNewGeometryBuffer, true), (.setNewGeometryBuffer, true)],
    [(.newGeometry, true), (.setNewGeometryBuffer, true), (.setNewGeometryBuffer, true),
      (.commitGeometry, false)],
    [(.newGeometry, true), (.setNewGeometryBuffer, true), (.setNewGeometryBuffer, true),
      (.commitGeometry, true), (.attachGeometry, false)],
    [(.newGeometry, true), (.setNewGeometryBuffer, true), (.setNewGeometryBuffer, true),
      (.commitGeometry, true), (.attachGeometry, true), (.releaseGeometry, false)],
    [(.newGeometry, true), (.setNewGeometryBuffer, true), (.setNewGeometryBuffer, true),
      (.commitGeometry, true), (.attachGeometry, true), (.releaseGeometry, true)]]

section
variable [Zero F]

theorem addTriangles_log (f : Option AddFault) (v : Tensor F) (t : Tensor Nat) (s : Scene F) :
    ∃ L ∈ addTrianglesLogs, (endState (addTriangles f v t s)).log = s.log ++ L := by
  rcases hc : addTrianglesChecks v t with e | ⟨⟩
  · exact ⟨[], by decide, by simp [addTriangles, hc]⟩
  simp only [addTriangles, hc, bind_apply, liftCheck_ok, modify_apply, rtcCall, allocate,
    rtcAttachGeometry]
  rcases f with _ | (_ | _ | _ | _ | _ | _ | _ | _ | _ | _) <;>
  simp [addTrianglesLogs] <;>
  by_cases hlen : rtcInvalidGeometryId ≤ s.geometries.length <;> simp [hlen]

theorem addTriangleMesh_log (f : Option AddFault) (m : TriangleMesh F) (s : Scene F) :
    ∃ L ∈ addTrianglesLogs, (endState (addTriangleMesh f m s)).log = s.log ++ L := by
  unfold addTriangleMesh
  by_cases hn : uint32Max < m.vertices.getLength
  · exact ⟨[], by decide, by simp [hn]⟩
  cases hb : (f == some .convert && m.triangles.dtype != .uint32)
  · simpa [hn, hb, allocate] using addTriangles_log f m.vertices m.triangles.toUInt32 s
  · exact ⟨[], by decide, by simp [hn, hb, allocate]⟩

end

theorem QueryStep.log {s s' : Scene F} (h : QueryStep s s') :
    ∃ L, (∀ e ∈ L, e.1 = .commitScene ∨ IsQuery e) ∧ s'.log = s.log ++ L := by
  rcases h with rfl | ⟨-, rfl⟩ | ⟨L, hL, rfl⟩
  · exact ⟨[], by simp, by simp⟩
  · exact ⟨[(.commitScene, false)], by simp, rfl⟩
  · unfold Scene.commit
    split
    · exact ⟨L, fun e he => .inr (hL e he), rfl⟩
    · refine ⟨(.commitScene, true) :: L, fun e he => ?_, by simp⟩
      rcases List.mem_cons.1 he with rfl | he
      exacts [.inl rfl, .inr (hL e he)]

section
variable [FloatOps F] [DecidableEq F] [LT F] [DecidableRel (α := F) (· < ·)]
  (E : Embree F (List (Geometry F))) (p0 : Vec3 F)

theorem Op.step_log_of_add {op : Op F} (h : op.isQuery = false) (s : Scene F) :
    ∃ L ∈ addTrianglesLogs, (op.step E p0 s).1.log = s.log ++ L := by
  cases op with
  | addTriangles v t f =>
    rw [Op.step_of_add E p0 rfl, outcome_fst]; exact addTriangles_log f v t s
  | addTriangleMesh m f =>
    rw [Op.step_of_add E p0 rfl, outcome_fst]; exact addTriangleMesh_log f m s
  | _ => simp [Op.isQuery] at h

end

/-! ## Queries after commits -/

/-- Every provider query in `log` comes after a completed `rtcCommitScene` with no completed
`rtcAttachGeometry` between the two. -/
def QueriesCommitted (log : List (RtcCall × Bool)) : Prop :=
  ∀ j e, log[j]? = some e → IsQuery e → CommitAfterAttach (log.take j)

theorem queriesCommitted_append {log L : List (RtcCall × Bool)} (h : QueriesCommitted log)
    (hL : ∀ j e, L[j]? = some e → IsQuery e → CommitAfterAttach (log ++ L.take j)) :
    QueriesCommitted (log ++ L) := by
  intro j e he hq
  by_cases hj : j < log.length
  · rw [List.getElem?_append_left hj] at he
    rw [List.take_append_of_le_length hj.le]
    exact h j e he hq
  · rw [List.getElem?_append_right (by omega)] at he
    rw [List.take_append_eq_append_take, List.take_of_length_le (by omega)]
    exact hL _ e he hq

theorem queriesCommitted_append_calls {log L : List (RtcCall × Bool)} (h : QueriesCommitted log)
    (hL : ∀ e ∈ L, ¬ IsQuery e) : QueriesCommitted (log ++ L) :=
  queriesCommitted_append h fun _ e he hq => absurd hq (hL e (List.getElem?_mem he))

theorem queriesCommitted_append_queries {log L : List (RtcCall × Bool)}
    (h : QueriesCommitted log) (hc : CommitAfterAttach log) (hL : ∀ e ∈ L, IsQuery e) :
    QueriesCommitted (log ++ L) :=
  queriesCommitted_append h fun _ _ _ _ => commitAfterAttach_append hc
    (isQuery_not_attach fun e he => hL e (List.mem_of_mem_take he))

theorem QueryStep.queriesCommitted {s s' : Scene F} (h : QueryStep s s') (hs : CommitInv s)
    (hq : QueriesCommitted s.log) : QueriesCommitted s'.log := by
  rcases h with rfl | ⟨-, rfl⟩ | ⟨L, hL, rfl⟩
  · exact hq
  · exact queriesCommitted_append_calls hq (by simp [IsQuery])
  · unfold Scene.commit
    split
    · exact queriesCommitted_append_queries hq (hs.log ‹_›) hL
    · exact queriesCommitted_append_queries (queriesCommitted_append_calls hq (by simp [IsQuery]))
        (commitAfterAttach_commit _) hL

instance : DecidablePred IsQuery := fun _ => inferInstanceAs (Decidable (_ ∨ _))

theorem addTrianglesLogs_not_query : ∀ L ∈ addTrianglesLogs, ∀ e ∈ L, ¬ IsQuery e := by
  decide

section
variable [FloatOps F] [DecidableEq F] [LT F] [DecidableRel (α := F) (· < ·)]
  (E : Embree F (List (Geometry F))) (p0 : Vec3 F)

theorem Op.step_queriesCommitted (op : Op F) {s : Scene F} (hs : CommitInv s)
    (hq : QueriesCommitted s.log) : QueriesCommitted (op.step E p0 s).1.log := by
  rcases op.step_cases E p0 s with ⟨-, h, -⟩ | ⟨ha, -⟩
  · exact h.queriesCommitted hs hq
  · obtain ⟨L, hL, he⟩ := op.step_log_of_add E p0 ha s
    rw [he]
    exact queriesCommitted_append_calls hq (addTrianglesLogs_not_query L hL)

theorem run_queriesCommitted (ops : List (Op F)) {s : Scene F} (hs : CommitInv s)
    (hq : QueriesCommitted s.log) : QueriesCommitted (run E p0 s ops).1.log := by
  induction ops generalizing s with
  | nil => exact hq
  | cons op ops ih => exact ih (op.step_commitInv E p0 hs) (op.step_queriesCommitted E p0 hs hq)

/-- **Queries see committed scenes**: in every run from a new scene, failures included, every
`rtcIntersect1M` and `rtcPointQuery` call comes after a completed `rtcCommitScene`, and no
`rtcAttachGeometry` completes between the two. -/
theorem queries_follow_commit (ops : List (Op F)) :
    QueriesCommitted (run E p0 Scene.init ops).1.log :=
  run_queriesCommitted E p0 ops commitInv_init fun _ _ h => by simp [Scene.init] at h

end

/-! ## Releasing geometries -/

/-- The `rtcReleaseGeometry` calls of `log`, completed or not. -/
def releaseCalls (log : List (RtcCall × Bool)) : Nat :=
  log.countP fun e => e.1 == .releaseGeometry

/-- `rtcReleaseGeometry` is called once per completed `rtcAttachGeometry`, and these are at
most the completed `rtcNewGeometry` calls. -/
def ReleaseBalanced (log : List (RtcCall × Bool)) : Prop :=
  releaseCalls log = log.count (.attachGeometry, true) ∧
    log.count (.attachGeometry, true) ≤ log.count (.newGeometry, true)

instance : DecidablePred ReleaseBalanced := fun _ => inferInstanceAs (Decidable (_ ∧ _))

theorem releaseBalanced_append {log L : List (RtcCall × Bool)} (h : ReleaseBalanced log)
    (hL : ReleaseBalanced L) : ReleaseBalanced (log ++ L) := by
  simp only [ReleaseBalanced, releaseCalls, List.countP_append, List.count_append] at *
  omega

theorem releaseBalanced_of_commit_or_query {L : List (RtcCall × Bool)}
    (hL : ∀ e ∈ L, e.1 = .commitScene ∨ IsQuery e) : ReleaseBalanced L := by
  have h : ∀ e ∈ L,
      e.1 ≠ .releaseGeometry ∧ e.1 ≠ .attachGeometry ∧ e.1 ≠ .newGeometry :=
    fun e he => by rcases hL e he with h | h | h <;> simp [h]
  refine ⟨?_, ?_⟩
  · rw [releaseCalls, List.countP_eq_zero.2 fun e he => by simpa using (h e he).1,
      List.count_eq_zero.2 fun he => (h _ he).2.1 rfl]
  · rw [List.count_eq_zero.2 fun he => (h _ he).2.1 rfl]
    exact Nat.zero_le _

theorem addTrianglesLogs_balanced : ∀ L ∈ addTrianglesLogs, ReleaseBalanced L := by
  decide

section
variable [FloatOps F] [DecidableEq F] [LT F] [DecidableRel (α := F) (· < ·)]
  (E : Embree F (List (Geometry F))) (p0 : Vec3 F)

theorem run_releaseBalanced (ops : List (Op F)) {s : Scene F} (h : ReleaseBalanced s.log) :
    ReleaseBalanced (run E p0 s ops).1.log := by
  induction ops generalizing s with
  | nil => exact h
  | cons op ops ih =>
    refine ih ?_
    rcases op.step_cases E p0 s with ⟨-, hq, -⟩ | ⟨ha, -⟩
    · obtain ⟨L, hL, he⟩ := hq.log
      rw [he]
      exact releaseBalanced_append h (releaseBalanced_of_commit_or_query hL)
    · obtain ⟨L, hL, he⟩ := op.step_log_of_add E p0 ha s
      rw [he]
      exact releaseBalanced_append h (addTrianglesLogs_balanced L hL)

/-- **References are released once attached**: in every run from a new scene,
`rtcReleaseGeometry` is called exactly once per completed `rtcAttachGeometry`, and the
completed attaches are at most the completed `rtcNewGeometry` calls; a geometry whose
`AddTriangles` call throws between the two keeps the reference `rtcNewGeometry` returned. -/
theorem release_count_eq_attach (ops : List (Op F)) :
    let log := (run E p0 Scene.init ops).1.log
    releaseCalls log = log.count (.attachGeometry, true) ∧
      log.count (.attachGeometry, true) ≤ log.count (.newGeometry, true) :=
  run_releaseBalanced E p0 ops (s := Scene.init) ⟨rfl, Nat.le_refl 0⟩

end

/-- `rtcCommitGeometry` raising its error: the geometry `rtcNewGeometry` created is neither
attached nor released. -/
example : (run missEmbree ⟨0, 0, 0⟩ Scene.init
    [.addTriangles triangleVertices triangleIndices (some .commitGeometry)]).1.log =
      [(.newGeometry, true), (.setNewGeometryBuffer, true), (.setNewGeometryBuffer, true),
        (.commitGeometry, false)] := by
  decide

end RaycastingScene
