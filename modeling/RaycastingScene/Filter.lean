import RaycastingScene.Basic
import Mathlib.Logic.Relation
import Mathlib.Data.List.Dedup
import Mathlib.Data.List.Chain

/-!
# The crossing filter (`CountIntersectionsFunc`)

`Impl::CountIntersections` installs `CountIntersectionsFunc` as the context filter of
`rtcIntersect1M`. The provider calls it with packets of lanes, one candidate hit a lane. For
every active lane (`valid[ui] == -1`) the filter compares the hit `(geomID, primID, tfar)` with
the last hit it counted for the lane's `ray.id`, counts it unless the two are one crossing
(`GpId.Dup`: same geometry, and the same primitive or the same distance), and rejects it so
that traversal goes on.

* `runFilter_slot`: slot `r` of the context after any sequence of calls is the one-ray fold
  `slotRun` over the hits addressed to `r`, whatever the other lanes hold.
* `slotRun_count_le`: a ray's count grows by at most one a hit.
* `crossings_le_slotRun`: at least one hit of every crossing is counted, a crossing being a
  class of hits joined by a chain of `Dup` steps (`Joined`), when no hit is `Dup` of the
  state the ray starts from.
* `slotRun_runs`: hits that come as runs, each a hit followed by hits `Dup` of it, with
  consecutive runs' first hits not `Dup`, are counted once a run.
* `countIntersectionsFunc_counts_crossings`: from the state `Impl::CountIntersections` sets
  up, the count lies between the number of crossings and the number of hits, and is the number
  of runs: a crossing reported several times in a row counts once.
-/

namespace RaycastingScene

variable {F : Type}

/-- `std::tuple<uint32_t, uint32_t, float>`: a hit's geometry id, primitive id and distance. -/
structure GpId (F : Type) where
  geomID : Nat
  primID : Nat
  tfar : F
deriving DecidableEq

/-- The hits the filter takes for one crossing: the negation of its test (lines 115-117). -/
def GpId.Dup (a b : GpId F) : Prop :=
  a.geomID = b.geomID ∧ (a.primID = b.primID ∨ a.tfar = b.tfar)

instance [DecidableEq F] : DecidableRel (GpId.Dup (F := F)) :=
  fun _ _ => inferInstanceAs (Decidable (_ ∧ _))

theorem GpId.dup_symm {a b : GpId F} (h : a.Dup b) : b.Dup a :=
  ⟨h.1.symm, h.2.imp Eq.symm Eq.symm⟩

/-- A lane of a filter call: `valid[ui]`, the lane's `ray.id` and `ray.tfar`, and its hit's
`geomID` and `primID`. `pos` is the ray of the batch traced in the lane, which the filter does
not read. -/
structure Lane (F : Type) where
  valid : Int
  pos : Nat
  id : Nat
  tfar : F
  geomID : Nat
  primID : Nat

/-- `gpID`, the lane's hit as the filter stores it. -/
def Lane.hit (l : Lane F) : GpId F := ⟨l.geomID, l.primID, l.tfar⟩

/-- `CountIntersectionsContext`: `previous_geom_prim_ID_tfar` and `intersections`. -/
structure CountCtx (F : Type) where
  prev : Nat → GpId F
  intersections : Nat → Nat

section
variable [DecidableEq F]

/-- One lane of `CountIntersectionsFunc` (lines 104-122). -/
def laneStep (c : CountCtx F) (l : Lane F) : CountCtx F :=
  if l.valid ≠ -1 then c
  else
    let p := c.prev l.id
    if p.geomID ≠ l.geomID ∨ (p.primID ≠ l.primID ∧ p.tfar ≠ l.tfar) then
      { prev := Function.update c.prev l.id l.hit
        intersections := Function.update c.intersections l.id (c.intersections l.id + 1) }
    else c

/-- `CountIntersectionsFunc`: the lanes in turn; each active lane's `valid` becomes `0`
("always ignore hit"). -/
def countIntersectionsFunc (c : CountCtx F) (pkt : List (Lane F)) : CountCtx F × List Int :=
  (pkt.foldl laneStep c, pkt.map fun l => if l.valid ≠ -1 then l.valid else 0)

/-- The filter over a sequence of calls. -/
def runFilter (c : CountCtx F) (pkts : List (List (Lane F))) : CountCtx F :=
  pkts.foldl (fun c p => (countIntersectionsFunc c p).1) c

/-- The hits the calls address to ray id `r`, in order. -/
def hitsFor (r : Nat) (pkts : List (List (Lane F))) : List (GpId F) :=
  (pkts.flatten.filter fun l => l.valid == -1 && l.id == r).map Lane.hit

/-! ## One ray -/

/-- One ray's part of the context: its last counted hit and its count. -/
structure Slot (F : Type) where
  prev : GpId F
  count : Nat

def CountCtx.slot (c : CountCtx F) (r : Nat) : Slot F := ⟨c.prev r, c.intersections r⟩

/-- The filter on one hit of one ray. -/
def Slot.step (s : Slot F) (h : GpId F) : Slot F :=
  if s.prev.Dup h then s else ⟨h, s.count + 1⟩

/-- The filter on the hits of one ray, in order. -/
def slotRun (s : Slot F) (hs : List (GpId F)) : Slot F := hs.foldl Slot.step s

@[simp] theorem slotRun_nil (s : Slot F) : slotRun s [] = s := rfl

@[simp] theorem slotRun_cons (s : Slot F) (h : GpId F) (hs : List (GpId F)) :
    slotRun s (h :: hs) = slotRun (s.step h) hs := rfl

theorem laneStep_slot (c : CountCtx F) (l : Lane F) (r : Nat) :
    (laneStep c l).slot r =
      if l.valid = -1 ∧ l.id = r then (c.slot r).step l.hit else c.slot r := by
  have hdup : (c.prev l.id).Dup l.hit ↔
      ¬((c.prev l.id).geomID ≠ l.geomID ∨
        ((c.prev l.id).primID ≠ l.primID ∧ (c.prev l.id).tfar ≠ l.tfar)) := by
    simp only [GpId.Dup, Lane.hit]; tauto
  unfold laneStep
  by_cases hv : l.valid = -1 <;> by_cases hr : l.id = r
  · subst hr
    by_cases ht : (c.prev l.id).geomID ≠ l.geomID ∨
        ((c.prev l.id).primID ≠ l.primID ∧ (c.prev l.id).tfar ≠ l.tfar) <;>
      simp [hv, ht, hdup, CountCtx.slot, Slot.step]
  · simp only [hv, ne_eq, not_true_eq_false, if_false, hr, and_false, if_false]
    split <;> simp [CountCtx.slot, Function.update_noteq (Ne.symm hr)]
  all_goals simp [hv]

theorem foldl_laneStep_slot (lanes : List (Lane F)) (c : CountCtx F) (r : Nat) :
    (lanes.foldl laneStep c).slot r =
      slotRun (c.slot r) ((lanes.filter fun l => l.valid == -1 && l.id == r).map Lane.hit) := by
  induction lanes generalizing c with
  | nil => rfl
  | cons l lanes ih =>
    rw [List.foldl_cons, ih, laneStep_slot]
    by_cases h : l.valid = -1 ∧ l.id = r <;> simp [h, List.filter_cons]

theorem runFilter_eq (c : CountCtx F) (pkts : List (List (Lane F))) :
    runFilter c pkts = pkts.flatten.foldl laneStep c := by
  induction pkts generalizing c with
  | nil => rfl
  | cons p pkts ih => rw [List.flatten_cons, List.foldl_append, ← ih]; rfl

/-- Slot `r` after any sequence of filter calls: the one-ray fold over the hits addressed to
`r`, whatever the other lanes hold. -/
theorem runFilter_slot (c : CountCtx F) (pkts : List (List (Lane F))) (r : Nat) :
    (runFilter c pkts).slot r = slotRun (c.slot r) (hitsFor r pkts) := by
  rw [runFilter_eq, hitsFor, foldl_laneStep_slot]

/-! ## Counts and crossings -/

theorem slotRun_count_le (s : Slot F) (hs : List (GpId F)) :
    (slotRun s hs).count ≤ s.count + hs.length := by
  induction hs generalizing s with
  | nil => simp
  | cons h hs ih =>
    have h1 : (s.step h).count ≤ s.count + 1 := by unfold Slot.step; split <;> simp
    have := ih (s.step h)
    simp only [slotRun_cons, List.length_cons]
    omega

theorem count_le_slotRun (s : Slot F) (hs : List (GpId F)) : s.count ≤ (slotRun s hs).count := by
  induction hs generalizing s with
  | nil => exact le_rfl
  | cons h hs ih =>
    refine le_trans ?_ (ih (s.step h))
    unfold Slot.step; split <;> simp

theorem count_lt_slotRun {s : Slot F} {h : GpId F} (hd : ¬ s.prev.Dup h) (hs : List (GpId F)) :
    s.count < (slotRun s (h :: hs)).count := by
  rw [slotRun_cons]
  refine lt_of_lt_of_le ?_ (count_le_slotRun _ hs)
  simp [Slot.step, hd]

theorem slotRun_of_dup {s : Slot F} {hs : List (GpId F)} (h : ∀ x ∈ hs, s.prev.Dup x) :
    slotRun s hs = s := by
  induction hs with
  | nil => rfl
  | cons x hs ih =>
    rw [slotRun_cons, Slot.step, if_pos (h x (.head _))]
    exact ih fun y hy => h y (.tail _ hy)

theorem slotRun_runs (runs : List (GpId F × List (GpId F))) (s : Slot F)
    (hd : ∀ b ∈ runs, ∀ x ∈ b.2, b.1.Dup x)
    (hc : (runs.map Prod.fst).Chain (fun a b => ¬ a.Dup b) s.prev) :
    (slotRun s (runs.map fun b => b.1 :: b.2).flatten).count = s.count + runs.length := by
  induction runs generalizing s with
  | nil => rfl
  | cons b runs ih =>
    obtain ⟨hb, hc⟩ := List.chain_cons.1 hc
    have hrun : slotRun s (b.1 :: b.2) = ⟨b.1, s.count + 1⟩ := by
      rw [slotRun_cons, Slot.step, if_neg hb]
      exact slotRun_of_dup (hd b (.head _))
    rw [List.map_cons, List.flatten_cons, slotRun, List.foldl_append, ← slotRun, ← slotRun,
      hrun, ih _ (fun b' hb' => hd b' (.tail _ hb')) hc, List.length_cons]
    dsimp only
    omega

end

/-- Two hits of `U` are one crossing: a chain of hits of `U` joins them, consecutive ones
`Dup`. -/
def Joined (U : List (GpId F)) : GpId F → GpId F → Prop :=
  Relation.ReflTransGen fun a b => a ∈ U ∧ b ∈ U ∧ a.Dup b

theorem Joined.symm {U : List (GpId F)} {a b : GpId F} (h : Joined U a b) : Joined U b a :=
  Relation.ReflTransGen.symmetric (fun _ _ h => ⟨h.2.1, h.1, GpId.dup_symm h.2.2⟩) h

theorem Joined.eq_or_mem {U : List (GpId F)} {a b : GpId F} (h : Joined U a b) :
    b = a ∨ b ∈ U := by
  rcases Relation.ReflTransGen.cases_tail h with h | ⟨c, -, hc⟩
  · exact .inl h
  · exact .inr hc.2.1

theorem drop_joined (U : List (GpId F)) (h : GpId F) :
    ∀ reps : List (GpId F), reps.Pairwise (fun a b => ¬ Joined U a b) →
      ∃ reps' : List (GpId F), reps'.Sublist reps ∧ reps.length ≤ reps'.length + 1 ∧
        ∀ a ∈ reps', ¬ Joined U a h
  | [], _ => ⟨[], .slnil, by simp, by simp⟩
  | a :: reps, hpw => by
    rw [List.pairwise_cons] at hpw
    by_cases ha : Joined U a h
    · refine ⟨reps, .cons a (.refl reps), by simp, fun b hb hbh => ?_⟩
      exact hpw.1 b hb (Relation.ReflTransGen.trans ha hbh.symm)
    · obtain ⟨reps', hs, hl, hn⟩ := drop_joined U h reps hpw.2
      refine ⟨a :: reps', hs.cons₂ a, by simp; omega, ?_⟩
      simpa [ha] using hn

section
variable [DecidableEq F]

/-- Every crossing of the hits is counted: a family of hits in pairwise distinct crossings
is no larger than the number of hits the filter counts, when the ray's state is one of
the hits or `Dup` of none of them, and no member is joined to it. -/
theorem crossings_le_slotRun (U : List (GpId F)) :
    ∀ (hs : List (GpId F)) (s : Slot F) (reps : List (GpId F)),
      (s.prev ∈ U ∨ ∀ h ∈ U, ¬ s.prev.Dup h) → (∀ h ∈ hs, h ∈ U) → (∀ a ∈ reps, a ∈ hs) →
      reps.Pairwise (fun a b => ¬ Joined U a b) → (∀ a ∈ reps, ¬ Joined U a s.prev) →
      reps.length + s.count ≤ (slotRun s hs).count
  | [], s, reps, _, _, hr, _, _ => by
    cases reps with
    | nil => simp
    | cons a _ => exact absurd (hr a (.head _)) (List.not_mem_nil a)
  | h :: hs, s, reps, hP, hU, hr, hpw, hfree => by
    have hhU : h ∈ U := hU h (.head _)
    have hU' : ∀ x ∈ hs, x ∈ U := fun x hx => hU x (.tail _ hx)
    by_cases hd : s.prev.Dup h
    · -- rejected: `h` is joined to the counted hit, so no member of the family is `h`
      have hprev : s.prev ∈ U := hP.resolve_right fun hn => hn h hhU hd
      have hjh : Joined U h s.prev := .single ⟨hhU, hprev, GpId.dup_symm hd⟩
      have hr' : ∀ a ∈ reps, a ∈ hs := fun a ha => by
        rcases List.mem_cons.1 (hr a ha) with rfl | h'
        · exact absurd hjh (hfree a ha)
        · exact h'
      simpa [Slot.step, hd] using crossings_le_slotRun U hs s reps hP hU' hr' hpw hfree
    · -- counted: drop the member joined to `h`, and go on from `h`
      obtain ⟨reps', hs', hl, hn⟩ := drop_joined U h reps hpw
      have hr' : ∀ a ∈ reps', a ∈ hs := fun a ha => by
        rcases List.mem_cons.1 (hr a (hs'.subset ha)) with rfl | h'
        · exact absurd (.refl) (hn a ha)
        · exact h'
      have := crossings_le_slotRun U hs ⟨h, s.count + 1⟩ reps' (.inl hhU) hU' hr'
        (hpw.sublist hs') hn
      simp only [slotRun_cons, Slot.step, hd, if_false] at this ⊢
      omega

/-- The state `Impl::CountIntersections` sets up before tracing (lines 300-307): every count
`0`, every previous hit `(INVALID_ID, INVALID_ID, 0)`. -/
def CountCtx.fresh [Zero F] : CountCtx F :=
  ⟨fun _ => ⟨rtcInvalidGeometryId, rtcInvalidGeometryId, 0⟩, fun _ => 0⟩

/-- From the state `Impl::CountIntersections` sets up, and for hits of real geometries, the
count the filter leaves for ray id `r` after any sequence of calls is at least the number
of crossings among the hits addressed to `r` (the size of any family of them in pairwise
distinct crossings) and at most the number of those hits; when the hits come as runs, each a
hit followed by its repeats (`Dup` of it), and no run's first hit repeats the previous run's,
the count is the number of runs. -/
theorem countIntersectionsFunc_counts_crossings [Zero F] (pkts : List (List (Lane F)))
    (r : Nat) (reps : List (GpId F))
    (hv : ∀ h ∈ hitsFor r pkts, h.geomID ≠ rtcInvalidGeometryId)
    (hr : ∀ a ∈ reps, a ∈ hitsFor r pkts)
    (hpw : reps.Pairwise fun a b => ¬ Joined (hitsFor r pkts) a b) :
    reps.length ≤ (runFilter CountCtx.fresh pkts).intersections r ∧
      (runFilter CountCtx.fresh pkts).intersections r ≤ (hitsFor r pkts).length ∧
      ∀ runs : List (GpId F × List (GpId F)),
        (runs.map fun b => b.1 :: b.2).flatten = hitsFor r pkts →
        (∀ b ∈ runs, ∀ x ∈ b.2, b.1.Dup x) →
        (runs.map Prod.fst).Chain' (fun a b => ¬ a.Dup b) →
        (runFilter CountCtx.fresh pkts).intersections r = runs.length := by
  have hslot : (runFilter CountCtx.fresh pkts).intersections r =
      (slotRun (CountCtx.fresh.slot r) (hitsFor r pkts)).count :=
    congrArg Slot.count (runFilter_slot CountCtx.fresh pkts r)
  have hinit : ∀ h ∈ hitsFor r pkts, ¬ (CountCtx.fresh.slot r : Slot F).prev.Dup h :=
    fun h hh hd => hv h hh hd.1.symm
  rw [hslot]
  refine ⟨?_, ?_, fun runs hflat hd hc => ?_⟩
  · have := crossings_le_slotRun (hitsFor r pkts) (hitsFor r pkts) (CountCtx.fresh.slot r) reps
      (.inr hinit) (fun _ h => h) hr hpw fun a ha hj => ?_
    · simpa [CountCtx.slot, CountCtx.fresh] using this
    rcases hj.eq_or_mem with he | hm
    · exact hv a (hr a ha) (by rw [← he]; rfl)
    · exact hv _ hm rfl
  · simpa [CountCtx.slot, CountCtx.fresh] using
      slotRun_count_le (CountCtx.fresh.slot r : Slot F) (hitsFor r pkts)
  · -- the first run's first hit is a hit of a real geometry, so it is counted
    have hc' : (runs.map Prod.fst).Chain (fun a b => ¬ a.Dup b)
        (CountCtx.fresh.slot r : Slot F).prev := by
      refine List.Chain'.cons' hc fun a ha => hinit a ?_
      rcases runs with _ | ⟨b, runs⟩
      · cases ha
      · obtain rfl : b.1 = a := by simpa using ha
        exact hflat ▸ List.mem_cons_self _ _
    rw [← hflat, slotRun_runs runs _ hd hc']
    simp [CountCtx.slot, CountCtx.fresh]

end

/-- A hit at distance `1` on primitive `0`, and one at distance `2` on primitive `1`, of
geometry `0`, both for ray `0`. -/
def laneA : Lane Nat := ⟨-1, 0, 0, 1, 0, 0⟩

def laneB : Lane Nat := ⟨-1, 0, 0, 2, 0, 1⟩

/-- The first crossing reported twice in a row, then the second: two crossings, two runs. -/
theorem counts_crossings_laneA :
    (∀ h ∈ hitsFor 0 [[laneA], [laneA], [laneB]], h.geomID ≠ rtcInvalidGeometryId) ∧
      (∀ a ∈ [laneA.hit, laneB.hit], a ∈ hitsFor 0 [[laneA], [laneA], [laneB]]) ∧
      [laneA.hit, laneB.hit].Pairwise
        (fun a b => ¬ Joined (hitsFor 0 [[laneA], [laneA], [laneB]]) a b) ∧
      [laneA.hit, laneB.hit].length ≤
        (runFilter CountCtx.fresh [[laneA], [laneA], [laneB]]).intersections 0 ∧
      (runFilter CountCtx.fresh [[laneA], [laneA], [laneB]]).intersections 0 ≤
        (hitsFor 0 [[laneA], [laneA], [laneB]]).length ∧
      ∀ runs : List (GpId Nat × List (GpId Nat)),
        (runs.map fun b => b.1 :: b.2).flatten = hitsFor 0 [[laneA], [laneA], [laneB]] →
        (∀ b ∈ runs, ∀ x ∈ b.2, b.1.Dup x) →
        (runs.map Prod.fst).Chain' (fun a b => ¬ a.Dup b) →
        (runFilter CountCtx.fresh [[laneA], [laneA], [laneB]]).intersections 0 = runs.length :=
  have hpw : [laneA.hit, laneB.hit].Pairwise
      (fun a b => ¬ Joined (hitsFor 0 [[laneA], [laneA], [laneB]]) a b) := by
    refine List.pairwise_pair.2 fun hj => ?_
    -- no chain of `Dup` steps among the hits leaves the primitive and distance of `laneA`
    have hH : hitsFor 0 [[laneA], [laneA], [laneB]] = [laneA.hit, laneA.hit, laneB.hit] := rfl
    have key : ∀ b, Joined (hitsFor 0 [[laneA], [laneA], [laneB]]) laneA.hit b → b = laneA.hit :=
      fun b h => by
        induction h with
        | refl => rfl
        | tail _ hstep ih =>
          subst ih
          obtain ⟨-, hm, hd⟩ := hstep
          simp only [hH, List.mem_cons, List.not_mem_nil, or_false] at hm
          rcases hm with rfl | rfl | rfl
          · rfl
          · rfl
          · exact absurd hd (by decide)
    exact absurd (key _ hj) (by decide)
  ⟨by decide, by decide, hpw, countIntersectionsFunc_counts_crossings _ 0 _ (by decide)
    (by decide) hpw⟩

/-- The same two hits reported in two orders: counted three times in the order `A, B, A`,
which holds two distinct hits, and twice in the order `A, A, B`. -/
theorem countIntersectionsFunc_order_dependent :
    (hitsFor 0 [[laneA], [laneB], [laneA]]).Perm (hitsFor 0 [[laneA], [laneA], [laneB]]) ∧
      (hitsFor 0 [[laneA], [laneB], [laneA]]).dedup.length = 2 ∧
      (runFilter CountCtx.fresh [[laneA], [laneB], [laneA]]).intersections 0 = 3 ∧
      (runFilter CountCtx.fresh [[laneA], [laneA], [laneB]]).intersections 0 = 2 := by
  decide

end RaycastingScene
