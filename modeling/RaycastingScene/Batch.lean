import RaycastingScene.Embree
import Mathlib.Data.Int.Defs

/-!
# The batch loops of `Impl::CastRays` and `Impl::CountIntersections`

Both loops cut the rays into batches of `min(num_rays, MAX_BATCH_SIZE)`, count the batches
with `utility::DivUp` into an `int`, and trace batch `n`, rays `[n·size, min(num_rays,
(n+1)·size))`, with one `rtcIntersect1M`. `traceRays` then writes each ray's result at
`ray.id + start_idx`, the id being the ray's place in the batch; `countRays` gives each ray
its global index as id, a 32-bit field, and lets the filter count into `intersections[id]`.
`batch` stands for `MAX_BATCH_SIZE`.

* `traceRays_eq_writeUpTo`: for `0 < num_rays < 2 ^ 31` and any batch size the loop writes
  each ray's `castResult` at its index, as the one-ray call would (`traceRays_one_by_one`).
* `countRays_eq_countResult`: likewise each count is the filter's count on the ray's
  candidates alone, these being a function of the ray (`Embree.FilterWf`), not of its batch.
* `traceRays_zero`, `countRays_zero`: with no ray the batch count divides by zero.
* `traceRays_two_pow_31`, `countRays_two_pow_31`: at `2 ^ 31` rays the `int` batch count is
  negative and no batch runs.
* `numBatches_maxBatchSize`: at `MAX_BATCH_SIZE` the batch count, computed from the ray count
  modulo `2 ^ 32` read as an `int`, never runs a batch past the rays or past ray `2 ^ 31`.
* `traceRays_maxBatchSize`, `countRays_maxBatchSize`: for every positive ray count both loops
  trace the first `tracedRays n` rays, each as alone, and no other;
  `tracedRays_eq_iff`: these are all the rays exactly when `n < 2 ^ 31`.
-/

namespace RaycastingScene

variable {F G : Type}

/-! ## One ray -/

section
variable [FloatOps F]

/-- The ray of record `i` as lines 235-256 and 327-338 set it up: origin `r[0..2]`;
direction `r[3..5]`, or `r[3..5] - r[0..2]` for a segment (`LINE_INTERSECTION`); `tnear = 0`;
`tfar = +∞`, or `1` for a segment; `mask = flags = 0`. -/
def rayQuery (line : Bool) (rays : Nat → F) (i : Nat) : RayQuery F :=
  let r := fun k => rays (i * 6 + k)
  { org := ⟨r 0, r 1, r 2⟩
    dir := if line then ⟨r 3 - r 0, r 4 - r 1, r 5 - r 2⟩ else ⟨r 3, r 4, r 5⟩
    tnear := 0
    tfar := if line then 1 else FloatOps.infinity
    mask := 0
    flags := 0 }

/-- `rayhits[i - start_idx]` after the set-up loop: ray `i` with id `id` and an invalid hit
id. The hit's other fields are not set; they are read only on a hit, which overwrites them. -/
def rayHitOf (line : Bool) (rays : Nat → F) (i id : Nat) : RTCRayHit F :=
  { ray := ⟨rayQuery line rays i, id⟩
    hit := ⟨⟨0, 0, 0⟩, 0, 0, 0, rtcInvalidGeometryId⟩ }

/-- What lines 267-286 write for a traced ray. -/
structure CastResult (F : Type) where
  tHit : F
  geometryId : Nat
  primitiveId : Nat
  uv : F × F
  normal : Vec3 F

/-- The values lines 267-286 write for the traced ray `rh`: the hit with its normal scaled to
unit length, or the sentinel ids and zeros on a miss. -/
def CastResult.ofRayHit (rh : RTCRayHit F) : CastResult F :=
  if rh.hit.geomID ≠ rtcInvalidGeometryId then
    let n := rh.hit.Ng
    let invNorm := 1 / FloatOps.sqrt (n.x * n.x + n.y * n.y + n.z * n.z)
    ⟨rh.ray.query.tfar, rh.hit.geomID, rh.hit.primID, (rh.hit.u, rh.hit.v),
      ⟨n.x * invNorm, n.y * invNorm, n.z * invNorm⟩⟩
  else ⟨rh.ray.query.tfar, rtcInvalidGeometryId, rtcInvalidGeometryId, (0, 0), ⟨0, 0, 0⟩⟩

/-- What `Impl::CastRays` writes for record `i` of `rays` traced alone, with id `0`: the
provider's nearest hit for `rayQuery line rays i`, or the miss sentinel. -/
def castResult (E : Embree F G) (g : G) (line : Bool) (rays : Nat → F) (i : Nat) :
    CastResult F :=
  CastResult.ofRayHit (rtcIntersect1 E g (rayHitOf line rays i 0))

theorem ofRayHit_rayHitOf (E : Embree F G) (g : G) (line : Bool) (rays : Nat → F)
    (i id : Nat) :
    CastResult.ofRayHit (rtcIntersect1 E g (rayHitOf line rays i id)) =
      castResult E g line rays i := by
  simp only [castResult, rtcIntersect1, rayHitOf]
  cases E.nearest g (rayQuery line rays i) <;> rfl

@[simp] theorem rayHitOf_id (line : Bool) (rays : Nat → F) (i id : Nat) :
    (rayHitOf line rays i id).ray.id = id := rfl

end

/-! ## The output buffers -/

/-- The output buffers of `Impl::CastRays`. -/
structure CastOut (F : Type) where
  tHit : Nat → F
  geometryIds : Nat → Nat
  primitiveIds : Nat → Nat
  primitiveUvs : Nat → F
  primitiveNormals : Nat → F

/-- Writing one result at `idx` (lines 267-286, indices in `size_t`). -/
def CastOut.write (o : CastOut F) (idx : Nat) (r : CastResult F) : CastOut F where
  tHit := Function.update o.tHit idx r.tHit
  geometryIds := Function.update o.geometryIds idx r.geometryId
  primitiveIds := Function.update o.primitiveIds idx r.primitiveId
  primitiveUvs := Function.update (Function.update o.primitiveUvs (u64 (idx * 2 + 0)) r.uv.1)
    (u64 (idx * 2 + 1)) r.uv.2
  primitiveNormals := Function.update (Function.update (Function.update o.primitiveNormals
    (u64 (idx * 3 + 0)) r.normal.x) (u64 (idx * 3 + 1)) r.normal.y) (u64 (idx * 3 + 2)) r.normal.z

/-- The result of ray `i` read back from the buffers. -/
def CastOut.read (o : CastOut F) (i : Nat) : CastResult F :=
  ⟨o.tHit i, o.geometryIds i, o.primitiveIds i,
    (o.primitiveUvs (i * 2), o.primitiveUvs (i * 2 + 1)),
    ⟨o.primitiveNormals (i * 3), o.primitiveNormals (i * 3 + 1), o.primitiveNormals (i * 3 + 2)⟩⟩

/-- `o'` is `o` at every place of rays `≥ n`: `t_hit`, `geometry_ids`, `primitive_ids` from `n`,
`primitive_uvs` from `2n`, `primitive_normals` from `3n`. -/
def CastOut.Outside (n : Nat) (o o' : CastOut F) : Prop :=
  (∀ j, n ≤ j → o'.tHit j = o.tHit j ∧ o'.geometryIds j = o.geometryIds j ∧
    o'.primitiveIds j = o.primitiveIds j) ∧
  (∀ j, 2 * n ≤ j → o'.primitiveUvs j = o.primitiveUvs j) ∧
  (∀ j, 3 * n ≤ j → o'.primitiveNormals j = o.primitiveNormals j)

/-! ## The loops -/

/-- The batch count of both loops (lines 227 and 319): `DivUp(num_rays, rayhits.size())`, both
converted to `int`, the batch size being `min(num_rays, MAX_BATCH_SIZE)`. -/
def numBatches (numRays batch : Nat) : Option Int :=
  divUp (toInt numRays) (toInt (min numRays batch))

/-- The rays both loops trace at `MAX_BATCH_SIZE`: batches `[0, k)`, `k` being what `DivUp`
returns (none for `k ≤ 0`), cover rays `[0, min(num_rays, k·size))`. -/
def tracedRays (numRays : Nat) : Nat :=
  min numRays (((numBatches numRays maxBatchSize).getD 0).toNat * min numRays maxBatchSize)

section
variable [FloatOps F]

/-- Batch `n` of `Impl::CastRays` (lines 230-288): set up rays `[start_idx, end_idx)`, trace
them, write each at `rh.ray.id + start_idx`. `rtcIntersect1M` on more rays than `rayhits`
holds, which a wrapped `end_idx - start_idx` asks for, is `outOfBounds`. -/
def castBatch (E : Embree F G) (g : G) (line : Bool) (rays : Nat → F) (numRays size : Nat)
    (o : CastOut F) (n : Nat) : Except Failure (CastOut F) :=
  let startIdx := u64 (n * size)
  let endIdx := min numRays (u64 ((n + 1) * size))
  if size < u64 (endIdx + 2 ^ 64 - startIdx) then throw .outOfBounds
  else pure <| (List.range' startIdx (endIdx - startIdx)).foldl (fun o i =>
    let rh := rtcIntersect1 E g (rayHitOf line rays i (u32 (i - startIdx)))
    o.write (u64 (rh.ray.id + startIdx)) (CastResult.ofRayHit rh)) o

/-- `Impl::CastRays` after the commit (lines 220-289). -/
def traceRays (E : Embree F G) (g : G) (line : Bool) (batch : Nat) (rays : Nat → F)
    (numRays : Nat) (o : CastOut F) : Except Failure (CastOut F) :=
  let size := min numRays batch
  match numBatches numRays batch with
  | none => throw .divisionByZero
  | some k => (List.range k.toNat).foldlM (castBatch E g line rays numRays size) o

/-- The rays `[start, start + len)` as lines 325-341 set them up: `ray.id = i` in the 32-bit
field. -/
def countBatchRays (rays : Nat → F) (start len : Nat) : List (RTCRay F) :=
  (List.range' start len).map fun i => ⟨rayQuery false rays i, u32 i⟩

/-- Batch `n` of `Impl::CountIntersections` (lines 322-344), traced with the filter. -/
def countBatch [DecidableEq F] (E : Embree F G) (g : G) (rays : Nat → F) (numRays size : Nat)
    (c : CountCtx F) (n : Nat) : Except Failure (CountCtx F) :=
  let startIdx := u64 (n * size)
  let endIdx := min numRays (u64 ((n + 1) * size))
  if size < u64 (endIdx + 2 ^ 64 - startIdx) then throw .outOfBounds
  else pure (runFilter c (E.filterCalls g (countBatchRays rays startIdx (endIdx - startIdx))))

/-- `Impl::CountIntersections` after the commit (lines 300-345): `memset` of
`sizeof(int) * num_rays` bytes, the fresh previous hits, then the batches. -/
def countRays [DecidableEq F] (E : Embree F G) (g : G) (batch : Nat) (rays : Nat → F)
    (numRays : Nat) (intersections : Nat → Nat) : Except Failure (Nat → Nat) :=
  let c : CountCtx F := ⟨(CountCtx.fresh : CountCtx F).prev,
    fun j => if j < u64 (4 * numRays) / 4 then 0 else intersections j⟩
  let size := min numRays batch
  match numBatches numRays batch with
  | none => throw .divisionByZero
  | some k =>
    ((List.range k.toNat).foldlM (countBatch E g rays numRays size) c).map
      CountCtx.intersections

/-- The count of record `i` traced alone from the fresh previous hit. -/
def countResult [DecidableEq F] (E : Embree F G) (g : G) (rays : Nat → F) (i : Nat) : Nat :=
  (slotRun (CountCtx.fresh.slot 0) (E.candidates g (rayQuery false rays i))).count

end


/-! ## Batch arithmetic -/

theorem numBatches_eq {n batch : Nat} (hb : 0 < batch) (hn0 : 0 < n) (hn : n < 2 ^ 31) :
    numBatches n batch =
      some ((n / min n batch + if n % min n batch = 0 then 0 else 1 : Nat) : Int) := by
  rw [numBatches, toInt_of_lt hn, toInt_of_lt (by omega)]
  exact divUp_ofNat (by omega)

theorem numBatches_maxBatchSize {n : Nat} (hn : 0 < n) :
    ∃ k : Int, numBatches n maxBatchSize = some k ∧
      k.toNat ≤ n / min n maxBatchSize + (if n % min n maxBatchSize = 0 then 0 else 1) ∧
      k.toNat * min n maxBatchSize ≤ 2 ^ 31 ∧
      (n < 2 ^ 31 → n ≤ k.toNat * min n maxBatchSize) ∧
      (2 ^ 31 ≤ n → k.toNat * min n maxBatchSize < n) := by
  unfold numBatches maxBatchSize
  by_cases hs : n < 1048576
  · rw [Nat.min_eq_left hs.le, toInt_of_lt (by omega), divUp_ofNat hn, Nat.div_self hn,
      Nat.mod_self]
    exact ⟨_, rfl, by simp; omega⟩
  rw [Nat.min_eq_right (by omega), toInt_of_lt (n := 1048576) (by omega)]
  unfold toInt
  split
  · -- the count modulo `2 ^ 32` is a non-negative `int`
    rw [divUp_ofNat (by omega)]
    refine ⟨_, rfl, ?_⟩
    simp only [Int.toNat_ofNat]
    split_ifs <;> omega
  · -- a negative `int`: at most one batch
    obtain ⟨k, hk, hk1⟩ := divUp_neg_le_one (y := 2 ^ 32 - n % 2 ^ 32) (d := 1048576) (by omega)
    rw [show ((n % 2 ^ 32 : Nat) : Int) - 2 ^ 32 = -((2 ^ 32 - n % 2 ^ 32 : Nat) : Int) by omega]
    refine ⟨k, by exact_mod_cast hk, ?_⟩
    split_ifs <;> omega

theorem tracedRays_of_numBatches {n : Nat} {k : Int} (hk : numBatches n maxBatchSize = some k) :
    tracedRays n = min n (k.toNat * min n maxBatchSize) := by
  rw [tracedRays, hk]; rfl

theorem tracedRays_le (n : Nat) : tracedRays n ≤ 2 ^ 31 := by
  rcases Nat.eq_zero_or_pos n with rfl | hn
  · exact Nat.zero_le _
  obtain ⟨k, hk, -, h31, -⟩ := numBatches_maxBatchSize hn
  rw [tracedRays_of_numBatches hk]
  omega

theorem tracedRays_of_lt {n : Nat} (hn0 : 0 < n) (hn : n < 2 ^ 31) : tracedRays n = n := by
  obtain ⟨k, hk, -, -, hlt, -⟩ := numBatches_maxBatchSize hn0
  rw [tracedRays_of_numBatches hk]
  exact Nat.min_eq_left (hlt hn)

/-- The loops reach every ray exactly when there are fewer than `2 ^ 31`. -/
theorem tracedRays_eq_iff {n : Nat} (hn : 0 < n) : tracedRays n = n ↔ n < 2 ^ 31 := by
  refine ⟨fun h => ?_, tracedRays_of_lt hn⟩
  obtain ⟨k, hk, -, -, -, hge⟩ := numBatches_maxBatchSize hn
  rw [tracedRays_of_numBatches hk] at h
  by_contra hn'
  have := hge (by omega)
  omega

/-- `2 ^ 32 + 1` rays: the `int` count is `1`, one batch of a single ray runs. -/
theorem tracedRays_eq_iff_two_pow_32_succ :
    0 < 2 ^ 32 + 1 ∧ (tracedRays (2 ^ 32 + 1) = 2 ^ 32 + 1 ↔ 2 ^ 32 + 1 < 2 ^ 31) :=
  ⟨by decide, tracedRays_eq_iff (by decide)⟩

theorem mul_lt_of_lt_divUp {n s k : Nat} (hs : 0 < s)
    (hk : k < n / s + if n % s = 0 then 0 else 1) : k * s < n := by
  have hd := Nat.div_add_mod n s
  rw [Nat.mul_comm] at hd
  split at hk
  · have := Nat.mul_le_mul_right s (show k + 1 ≤ n / s by omega)
    rw [Nat.succ_mul] at this; omega
  · have := Nat.mul_le_mul_right s (show k ≤ n / s by omega)
    omega

theorem le_divUp_mul {n s : Nat} (hs : 0 < s) :
    n ≤ (n / s + if n % s = 0 then 0 else 1) * s := by
  have hd := Nat.div_add_mod n s
  have hm := Nat.mod_lt n hs
  rw [Nat.mul_comm] at hd
  split <;> rw [Nat.add_mul] <;> omega

theorem divUp_mul_lt {n s : Nat} (hs : 0 < s) :
    (n / s + if n % s = 0 then 0 else 1) * s < n + s := by
  have hd := Nat.div_add_mod n s
  have hm := Nat.mod_lt n hs
  rw [Nat.mul_comm] at hd
  split <;> rw [Nat.add_mul] <;> omega

theorem batch_idx {n s b : Nat} (hs : b * s + s < 2 ^ 64) (hb : b * s < n) :
    u64 (b * s) = b * s ∧ u64 ((b + 1) * s) = b * s + s ∧
      u64 (min n (b * s + s) + 2 ^ 64 - b * s) = min n (b * s + s) - b * s := by
  refine ⟨u64_of_lt (by omega), by rw [Nat.succ_mul]; exact u64_of_lt hs, ?_⟩
  rw [show min n (b * s + s) + 2 ^ 64 - b * s = (min n (b * s + s) - b * s) + 2 ^ 64 by omega,
    u64, Nat.add_mod_right, Nat.mod_eq_of_lt (by omega)]

theorem foldlM_batches {α : Type} (step : α → Nat → Except Failure α) (inv : Nat → α)
    {n s K : Nat} (hs : 0 < s) (hK : K ≤ n / s + (if n % s = 0 then 0 else 1))
    (hstep : ∀ b < K, step (inv (b * s)) b = .ok (inv (min n ((b + 1) * s)))) :
    (List.range K).foldlM step (inv 0) = .ok (inv (min n (K * s))) := by
  induction K with
  | zero => simp; rfl
  | succ k ih =>
    have hks : k * s < n := mul_lt_of_lt_divUp hs (by omega)
    rw [List.range_succ, List.foldlM_append, ih (by omega) fun b hb => hstep b (by omega),
      show min n (k * s) = k * s by omega]
    change step (inv (k * s)) k >>= pure = _
    rw [hstep k (by omega)]
    rfl

theorem batch_end_le {s K b : Nat} (hb : b < K) : b * s + s ≤ K * s := by
  rw [← Nat.succ_mul]; exact Nat.mul_le_mul_right s hb

/-! ## `Impl::CastRays` -/

theorem CastOut.read_write (o : CastOut F) (r : CastResult F) {idx i : Nat} (hidx : idx < 2 ^ 62) :
    (o.write idx r).read i = if i = idx then r else o.read i := by
  have h0 : u64 (idx * 2 + 0) = idx * 2 := u64_of_lt (by omega)
  have h1 : u64 (idx * 2 + 1) = idx * 2 + 1 := u64_of_lt (by omega)
  have h2 : u64 (idx * 3 + 0) = idx * 3 := u64_of_lt (by omega)
  have h3 : u64 (idx * 3 + 1) = idx * 3 + 1 := u64_of_lt (by omega)
  have h4 : u64 (idx * 3 + 2) = idx * 3 + 2 := u64_of_lt (by omega)
  simp only [CastOut.write, CastOut.read, h0, h1, h2, h3, h4]
  by_cases h : i = idx
  · subst h
    simp (disch := omega) only [Function.update_same, Function.update_noteq, if_true]
  · simp (disch := omega) only [Function.update_noteq, h, if_false]

/-- The buffers after writing `res i` at every `i < m`, in order: what the loop is meant to
do. -/
def writeUpTo (res : Nat → CastResult F) (o : CastOut F) (m : Nat) : CastOut F :=
  (List.range m).foldl (fun o i => o.write i (res i)) o

theorem writeUpTo_add (res : Nat → CastResult F) (o : CastOut F) (m len : Nat) :
    (List.range' m len).foldl (fun o i => o.write i (res i)) (writeUpTo res o m) =
      writeUpTo res o (m + len) := by
  have h := List.range'_append_1 0 m len
  rw [Nat.zero_add] at h
  rw [writeUpTo, writeUpTo, ← List.foldl_append, List.range_eq_range', List.range_eq_range', h,
    Nat.add_comm]

theorem writeUpTo_succ (res : Nat → CastResult F) (o : CastOut F) (m : Nat) :
    writeUpTo res o (m + 1) = (writeUpTo res o m).write m (res m) := by
  rw [writeUpTo, List.range_succ, List.foldl_append, ← writeUpTo]; rfl

theorem read_writeUpTo (res : Nat → CastResult F) (o : CastOut F) {m : Nat} (hm : m ≤ 2 ^ 62)
    (i : Nat) : (writeUpTo res o m).read i = if i < m then res i else o.read i := by
  induction m with
  | zero => simp [writeUpTo]
  | succ m ih =>
    rw [writeUpTo_succ, CastOut.read_write _ _ (by omega), ih (by omega)]
    by_cases h : i = m
    · simp [h]
    · simp only [h, if_false]; split_ifs <;> first | rfl | omega

theorem outside_writeUpTo (res : Nat → CastResult F) (o : CastOut F) {m : Nat} (hm : m ≤ 2 ^ 62) :
    CastOut.Outside m o (writeUpTo res o m) := by
  induction m with
  | zero => simp [CastOut.Outside, writeUpTo]
  | succ m ih =>
    obtain ⟨h1, h2, h3⟩ := ih (by omega)
    rw [writeUpTo_succ]
    have e2 : ∀ k < 2, u64 (m * 2 + k) = m * 2 + k := fun k hk => u64_of_lt (by omega)
    have e3 : ∀ k < 3, u64 (m * 3 + k) = m * 3 + k := fun k hk => u64_of_lt (by omega)
    refine ⟨fun j hj => ?_, fun j hj => ?_, fun j hj => ?_⟩
    · simp (disch := omega) only [CastOut.write, Function.update_noteq]; exact h1 j (by omega)
    · simp (disch := omega) only [CastOut.write, e2, Function.update_noteq]; exact h2 j (by omega)
    · simp (disch := omega) only [CastOut.write, e3, Function.update_noteq]; exact h3 j (by omega)

section
variable [FloatOps F]

theorem castBatch_writeUpTo (E : Embree F G) (g : G) (line : Bool) (rays : Nat → F)
    {n s b : Nat} (hs : b * s + s ≤ 2 ^ 32) (hb : b * s < n) (o : CastOut F) :
    castBatch E g line rays n s (writeUpTo (castResult E g line rays) o (b * s)) b =
      .ok (writeUpTo (castResult E g line rays) o (min n ((b + 1) * s))) := by
  obtain ⟨hst, hen, hM⟩ := batch_idx (by omega) hb
  simp only [castBatch, hst, hen, hM, if_neg (show ¬ s < min n (b * s + s) - b * s by omega)]
  have hend : min n ((b + 1) * s) = b * s + (min n (b * s + s) - b * s) := by
    rw [Nat.succ_mul]; omega
  rw [hend, ← writeUpTo_add]
  refine congrArg Except.ok (List.foldl_ext _ _ _ fun o' i hi => ?_)
  rw [List.mem_range'_1] at hi
  have hid : u32 (i - b * s) = i - b * s := u32_of_lt (by omega)
  simp only [rtcIntersect1_id, rayHitOf_id, hid, Nat.sub_add_cancel hi.1,
    u64_of_lt (show i < 2 ^ 64 by omega), ofRayHit_rayHitOf]

theorem traceRays_of_numBatches (E : Embree F G) (g : G) (line : Bool) (batch : Nat)
    (rays : Nat → F) {n : Nat} (o : CastOut F) {k : Int} (hk : numBatches n batch = some k)
    (hs : 0 < min n batch)
    (hK : k.toNat ≤ n / min n batch + (if n % min n batch = 0 then 0 else 1))
    (h32 : k.toNat * min n batch ≤ 2 ^ 32) :
    traceRays E g line batch rays n o =
      .ok (writeUpTo (castResult E g line rays) o (min n (k.toNat * min n batch))) := by
  simp only [traceRays, hk]
  exact foldlM_batches _ _ hs hK fun b hb =>
    castBatch_writeUpTo E g line rays ((batch_end_le hb).trans h32) (mul_lt_of_lt_divUp hs
      (by omega)) o

theorem traceRays_eq_writeUpTo (E : Embree F G) (g : G) (line : Bool) (batch : Nat)
    (rays : Nat → F) {n : Nat} (o : CastOut F) (hb : 0 < batch) (hn0 : 0 < n) (hn : n < 2 ^ 31) :
    traceRays E g line batch rays n o = .ok (writeUpTo (castResult E g line rays) o n) := by
  have hs : 0 < min n batch := by omega
  have := divUp_mul_lt (n := n) hs
  rw [traceRays_of_numBatches E g line batch rays o (numBatches_eq hb hn0 hn) hs
    (by rw [Int.toNat_ofNat]) (by rw [Int.toNat_ofNat]; omega), Int.toNat_ofNat,
    Nat.min_eq_left (le_divUp_mul hs)]

end

section
variable [FloatOps F]

/-- For `0 < num_rays < 2 ^ 31` and any batch size, `Impl::CastRays` writes for every ray what
it writes for the ray traced alone, and writes no place of a ray `≥ num_rays`. -/
theorem traceRays_one_by_one (E : Embree F G) (g : G) (line : Bool) (batch : Nat)
    (rays : Nat → F) {n : Nat} (o : CastOut F) (hb : 0 < batch) (hn0 : 0 < n) (hn : n < 2 ^ 31) :
    ∃ o', traceRays E g line batch rays n o = .ok o' ∧
      (∀ i < n, o'.read i = castResult E g line rays i) ∧ CastOut.Outside n o o' :=
  ⟨_, traceRays_eq_writeUpTo E g line batch rays o hb hn0 hn,
    fun i hi => by rw [read_writeUpTo _ _ (by omega), if_pos hi],
    outside_writeUpTo _ _ (by omega)⟩

/-- Three rays from the origins `x = 0, 6, 12`, traced in batches of two over one geometry:
each hits at the distance of its own origin. -/
theorem traceRays_one_by_one_three :
    0 < 2 ∧ 0 < 3 ∧ 3 < 2 ^ 31 ∧
      ∃ o', traceRays hitEmbree [⟨fun _ => 0, 0, fun _ => 0, 0⟩] false 2 (fun k => k) 3
          ⟨fun _ => 0, fun _ => 0, fun _ => 0, fun _ => 0, fun _ => 0⟩ = .ok o' ∧
        (∀ i < 3, o'.read i =
          castResult hitEmbree [⟨fun _ => 0, 0, fun _ => 0, 0⟩] false (fun k => k) i) ∧
        CastOut.Outside 3 ⟨fun _ => 0, fun _ => 0, fun _ => 0, fun _ => 0, fun _ => 0⟩ o' :=
  ⟨by decide, by decide, by decide,
    traceRays_one_by_one hitEmbree _ false 2 _ _ (by decide) (by decide) (by decide)⟩

example : (castResult hitEmbree [⟨fun _ => 0, 0, fun _ => 0, 0⟩] false (fun k => k) 2).tHit =
    12 := rfl

theorem traceRays_of_nonpos (E : Embree F G) (g : G) (line : Bool) (batch : Nat)
    (rays : Nat → F) (n : Nat) (o : CastOut F) {k : Int}
    (h : numBatches n batch = some k) (hk : k ≤ 0) :
    traceRays E g line batch rays n o = .ok o := by
  simp only [traceRays, h, Int.toNat_eq_zero.2 hk]
  rfl

/-- At `2 ^ 31` rays `Impl::CastRays` writes nothing: `DivUp` of the `int` conversions
`-2 ^ 31` and `MAX_BATCH_SIZE` is `-2048`. -/
theorem traceRays_two_pow_31 (E : Embree F G) (g : G) (line : Bool) (rays : Nat → F)
    (o : CastOut F) : traceRays E g line maxBatchSize rays (2 ^ 31) o = .ok o :=
  traceRays_of_nonpos E g line _ rays _ o (k := -2048) (by decide) (by decide)

theorem traceRays_zero (E : Embree F G) (g : G) (line : Bool) (batch : Nat) (rays : Nat → F)
    (o : CastOut F) : traceRays E g line batch rays 0 o = .error .divisionByZero := by
  simp only [traceRays, show numBatches 0 batch = none by simp [numBatches, divUp, toInt]]
  rfl

end

/-! ## `Impl::CountIntersections` -/

theorem CountCtx.ext_slot {c c' : CountCtx F} (h : ∀ r, c.slot r = c'.slot r) : c = c' := by
  obtain ⟨p, i⟩ := c
  obtain ⟨p', i'⟩ := c'
  simp only [CountCtx.slot, Slot.mk.injEq] at h
  simp only [CountCtx.mk.injEq]
  exact ⟨funext fun r => (h r).1, funext fun r => (h r).2⟩

section
variable [FloatOps F]

theorem hitsFor_countBatch {E : Embree F G} (hE : E.FilterWf) (g : G) (rays : Nat → F)
    {start len : Nat} (h : start + len ≤ 2 ^ 32) (r : Nat) :
    hitsFor r (E.filterCalls g (countBatchRays rays start len)) =
      if start ≤ r ∧ r < start + len then E.candidates g (rayQuery false rays r) else [] := by
  have hget : ∀ k, (countBatchRays rays start len)[k]? =
      if k < len then some ⟨rayQuery false rays (start + k), start + k⟩ else none := by
    intro k
    unfold countBatchRays
    by_cases hk : k < len
    · rw [if_pos hk, List.getElem?_map, List.getElem?_range' _ _ hk]
      simp [u32_of_lt (show start + k < 2 ^ 32 by omega)]
    · rw [if_neg hk, List.getElem?_eq_none (by simp; omega)]
  -- an active lane's id is the global index of the ray at its place
  have hid : ∀ l ∈ (E.filterCalls g (countBatchRays rays start len)).flatten, l.valid = -1 →
      l.pos < len ∧ l.id = start + l.pos := by
    intro l hl hv
    have := hE.lane_id g _ l hl hv
    rw [hget] at this
    split at this
    · simp at this; omega
    · simp at this
  unfold hitsFor
  split
  · rename_i hr
    have hlen : r - start < (countBatchRays rays start len).length := by
      simp [countBatchRays]; omega
    rw [List.filter_congr (q := fun l => l.valid == -1 && l.pos == r - start)
      fun l hl => by
        by_cases hv : l.valid = -1
        · have := hid l hl hv; simp [hv]; omega
        · simp [beq_eq_false_iff_ne.2 hv],
      hE.lane_hits g _ _ hlen]
    have := hget (r - start)
    rw [if_pos (by omega), List.getElem?_eq_getElem hlen, Option.some.injEq] at this
    rw [this, Nat.add_sub_cancel' hr.1]
  · simp only [List.map_eq_nil_iff, List.filter_eq_nil_iff, Bool.and_eq_true, beq_iff_eq, not_and]
    intro l hl hv
    have := hid l hl hv
    omega

variable [DecidableEq F]

/-- The context once rays `[0, m)` are traced: slot `r < m` holds the filter's run over ray
`r`'s candidates from its state in `c0`; the other slots are as in `c0`. -/
def countUpTo (E : Embree F G) (g : G) (rays : Nat → F) (c0 : CountCtx F) (m : Nat) :
    CountCtx F :=
  ⟨fun r => if r < m then (slotRun (c0.slot r) (E.candidates g (rayQuery false rays r))).prev
      else c0.prev r,
    fun r => if r < m then (slotRun (c0.slot r) (E.candidates g (rayQuery false rays r))).count
      else c0.intersections r⟩

theorem countUpTo_slot (E : Embree F G) (g : G) (rays : Nat → F) (c0 : CountCtx F) (m r : Nat) :
    (countUpTo E g rays c0 m).slot r =
      if r < m then slotRun (c0.slot r) (E.candidates g (rayQuery false rays r))
      else c0.slot r := by
  by_cases h : r < m <;> simp [countUpTo, CountCtx.slot, h]

theorem countUpTo_zero (E : Embree F G) (g : G) (rays : Nat → F) (c0 : CountCtx F) :
    countUpTo E g rays c0 0 = c0 :=
  CountCtx.ext_slot fun r => by simp [countUpTo_slot]

theorem countBatch_countUpTo {E : Embree F G} (hE : E.FilterWf) (g : G) (rays : Nat → F)
    {n s b : Nat} (hs : b * s + s ≤ 2 ^ 32) (hb : b * s < n) (c0 : CountCtx F) :
    countBatch E g rays n s (countUpTo E g rays c0 (b * s)) b =
      .ok (countUpTo E g rays c0 (min n ((b + 1) * s))) := by
  obtain ⟨hst, hen, hM⟩ := batch_idx (by omega) hb
  simp only [countBatch, hst, hen, hM, if_neg (show ¬ s < min n (b * s + s) - b * s by omega)]
  refine congrArg Except.ok (CountCtx.ext_slot fun r => ?_)
  rw [runFilter_slot, hitsFor_countBatch hE g rays (by omega), countUpTo_slot, countUpTo_slot,
    Nat.succ_mul]
  have hin : (b * s ≤ r ∧ r < b * s + (min n (b * s + s) - b * s)) ↔
      (b * s ≤ r ∧ r < min n (b * s + s)) := by omega
  by_cases h1 : r < b * s
  · rw [if_pos h1, if_neg (by omega), if_pos (show r < min n (b * s + s) by omega), slotRun_nil]
  · by_cases h2 : r < min n (b * s + s)
    · rw [if_neg h1, if_pos (hin.2 ⟨by omega, h2⟩), if_pos h2]
    · rw [if_neg h1, if_neg (by omega), if_neg h2, slotRun_nil]

theorem countRays_of_numBatches {E : Embree F G} (hE : E.FilterWf) (g : G) (batch : Nat)
    (rays : Nat → F) {n : Nat} (ints : Nat → Nat) {k : Int} (hk : numBatches n batch = some k)
    (hs : 0 < min n batch)
    (hK : k.toNat ≤ n / min n batch + (if n % min n batch = 0 then 0 else 1))
    (h32 : k.toNat * min n batch ≤ 2 ^ 32) (h4 : 4 * n < 2 ^ 64) :
    countRays E g batch rays n ints = .ok fun r =>
      if r < min n (k.toNat * min n batch) then countResult E g rays r
      else if r < n then 0 else ints r := by
  have hmem : u64 (4 * n) / 4 = n := by rw [u64_of_lt h4]; omega
  simp only [countRays, hmem, hk]
  have := foldlM_batches _ (countUpTo E g rays
      ⟨(CountCtx.fresh : CountCtx F).prev, fun j => if j < n then 0 else ints j⟩) hs hK
    fun b hb => countBatch_countUpTo hE g rays ((batch_end_le hb).trans h32)
      (mul_lt_of_lt_divUp hs (by omega)) _
  rw [countUpTo_zero] at this
  rw [this]
  have hmn := Nat.min_le_left n (k.toNat * min n batch)
  generalize min n (k.toNat * min n batch) = m at hmn ⊢
  refine congrArg Except.ok (funext fun r => ?_)
  by_cases hr : r < m
  · simp [countUpTo, countResult, CountCtx.slot, CountCtx.fresh, hr, show r < n by omega]
  · simp [countUpTo, hr]

/-- For `0 < num_rays < 2 ^ 31` and any batch size, `Impl::CountIntersections` leaves in
`intersections[i]` the count of ray `i` traced alone, and the rest of the buffer as it was. -/
theorem countRays_eq_countResult {E : Embree F G} (hE : E.FilterWf) (g : G) (batch : Nat)
    (rays : Nat → F) {n : Nat} (ints : Nat → Nat) (hb : 0 < batch) (hn0 : 0 < n) (hn : n < 2 ^ 31) :
    countRays E g batch rays n ints =
      .ok fun r => if r < n then countResult E g rays r else ints r := by
  have hs : 0 < min n batch := by omega
  have := divUp_mul_lt (n := n) hs
  rw [countRays_of_numBatches hE g batch rays ints (numBatches_eq hb hn0 hn) hs
    (by rw [Int.toNat_ofNat]) (by rw [Int.toNat_ofNat]; omega) (by omega), Int.toNat_ofNat,
    Nat.min_eq_left (le_divUp_mul hs)]
  refine congrArg Except.ok (funext fun r => ?_)
  by_cases hr : r < n <;> simp [hr]

/-- Three rays counted in batches of two over one geometry, each crossing it once. -/
theorem countRays_eq_three :
    hitEmbree.FilterWf ∧ 0 < 2 ∧ 0 < 3 ∧ 3 < 2 ^ 31 ∧
      countRays hitEmbree [⟨fun _ => 0, 0, fun _ => 0, 0⟩] 2 (fun k => k) 3 (fun _ => 0) =
        .ok fun r => if r < 3 then
          countResult hitEmbree [⟨fun _ => 0, 0, fun _ => 0, 0⟩] (fun k => k) r else 0 :=
  ⟨hitEmbree_filterWf, by decide, by decide, by decide,
    countRays_eq_countResult hitEmbree_filterWf _ 2 _ _ (by decide) (by decide) (by decide)⟩

example : countResult hitEmbree [⟨fun _ => 0, 0, fun _ => 0, 0⟩] (fun k => k) 2 = 1 := rfl

theorem countRays_of_nonpos (E : Embree F G) (g : G) (batch : Nat) (rays : Nat → F) (n : Nat)
    (ints : Nat → Nat) {k : Int} (h : numBatches n batch = some k)
    (hk : k ≤ 0) :
    countRays E g batch rays n ints = .ok fun j => if j < u64 (4 * n) / 4 then 0 else ints j := by
  simp only [countRays, h, Int.toNat_eq_zero.2 hk]
  rfl

/-- At `2 ^ 31` rays `Impl::CountIntersections` traces nothing: every count stays `0`. -/
theorem countRays_two_pow_31 (E : Embree F G) (g : G) (rays : Nat → F) (ints : Nat → Nat) :
    countRays E g maxBatchSize rays (2 ^ 31) ints = .ok fun j => if j < 2 ^ 31 then 0 else ints j :=
  countRays_of_nonpos E g _ rays _ ints (k := -2048) (by decide) (by decide)

theorem countRays_zero (E : Embree F G) (g : G) (batch : Nat) (rays : Nat → F)
    (ints : Nat → Nat) : countRays E g batch rays 0 ints = .error .divisionByZero := by
  simp only [countRays, show numBatches 0 batch = none by simp [numBatches, divUp, toInt]]
  rfl

end

/-! ## Every ray count at `MAX_BATCH_SIZE` -/

section
variable [FloatOps F]

/-- For every positive ray count, `Impl::CastRays` writes each ray of `[0, tracedRays n)` as
traced alone, and nothing else. -/
theorem traceRays_maxBatchSize (E : Embree F G) (g : G) (line : Bool) (rays : Nat → F) {n : Nat}
    (o : CastOut F) (hn : 0 < n) :
    traceRays E g line maxBatchSize rays n o =
      .ok (writeUpTo (castResult E g line rays) o (tracedRays n)) := by
  obtain ⟨k, hk, hK, h31, -⟩ := numBatches_maxBatchSize hn
  rw [tracedRays_of_numBatches hk]
  exact traceRays_of_numBatches E g line _ rays o hk (Nat.lt_min.2 ⟨hn, by decide⟩) hK
    (by omega)

variable [DecidableEq F]

/-- For every positive ray count whose `memset` does not wrap, `Impl::CountIntersections`
counts each ray of `[0, tracedRays n)` as traced alone and leaves `0` for the other rays. -/
theorem countRays_maxBatchSize {E : Embree F G} (hE : E.FilterWf) (g : G) (rays : Nat → F)
    {n : Nat} (ints : Nat → Nat) (hn : 0 < n) (h4 : 4 * n < 2 ^ 64) :
    countRays E g maxBatchSize rays n ints = .ok fun r =>
      if r < tracedRays n then countResult E g rays r else if r < n then 0 else ints r := by
  obtain ⟨k, hk, hK, h31, -⟩ := numBatches_maxBatchSize hn
  rw [tracedRays_of_numBatches hk]
  exact countRays_of_numBatches hE g _ rays ints hk (Nat.lt_min.2 ⟨hn, by decide⟩) hK (by omega)
    h4

end

end RaycastingScene
