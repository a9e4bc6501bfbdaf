import Mathlib.Data.List.Basic

/-!
# The observers of `PeerConnectionManager`

`visualization/webrtc_server/PeerConnectionManager.h` defines inline the observers WebRTC calls
back; the manager's own methods are only declared there. Two of them hold logic of their own.

`getStats` (lines 264-272) waits for the statistics report with a counter: `statsWait`.

`PeerConnectionObserver` (lines 215-345) is a state machine. WebRTC delivers its callbacks on
its signaling thread; the destructor (lines 251-260) takes four steps: `delete
local_channel_`, `delete remote_channel_`, `deleting_ = true`, and `pc_->Close()`, which, as
line 256 warns, calls `OnIceConnectionChange` with `kIceConnectionClosed`. An `Event` is one
callback or one destructor step, and `run` applies events one after another. Besides its
fields the state records what the observer has allocated: the `DataChannelObserver`s it
created and has not deleted, each registered on its channel until deleted (lines 183-185),
and the detached threads it started to call `HangUp(peerid_)`.

The steps are taken in sequence. `deleting_` is a plain `bool`, written by the destructor's
thread and read by the signaling thread without synchronisation, so a callback that runs
while another thread runs the destructor is a data race in C++, which this model does not
describe; the results below take every callback before the destructor.

* `getStats_waits`: `getStats` sleeps at most nine seconds and returns the first report a check
  finds, or the tenth check's.
* `dataChannel_observers_leak`: after a run of callbacks and then the destructor, every
  `DataChannelObserver` that `OnDataChannel` created but the last is still allocated.
-/

namespace PeerConnectionManager

/-! ## `getStats` -/

/-- The wait of `getStats` (lines 267-270) with `count` left, after `k` seconds: the report is
checked (`empty k`: the check after `k` seconds finds it empty); an empty report decrements
`count` and, while it stays positive, the thread sleeps a second. The seconds slept. -/
def statsWait (empty : Nat → Bool) : Nat → Nat → Nat
  | count + 1, k => if empty k && 0 < count then statsWait empty count (k + 1) else k
  | 0, k => k

/-- `getStats` (lines 264-272): `reportAt k` is the report, a JSON object's entries, `k`
seconds after the request; it is returned as it is when the wait ends. -/
def getStats {α : Type} (reportAt : Nat → List α) : List α :=
  reportAt (statsWait (fun k => (reportAt k).isEmpty) 10 0)

theorem statsWait_of_empty {empty : Nat → Bool} {c k : Nat} (he : empty k = true)
    (hc : 0 < c) : statsWait empty (c + 1) k = statsWait empty c (k + 1) := by
  rw [statsWait, if_pos (by simp [he, hc])]

theorem statsWait_of_not_empty {empty : Nat → Bool} {c k : Nat} (he : empty k = false) :
    statsWait empty (c + 1) k = k := by
  rw [statsWait, if_neg (by simp [he])]

theorem statsWait_spec (empty : Nat → Bool) (c k : Nat) :
    k ≤ statsWait empty (c + 1) k ∧ statsWait empty (c + 1) k ≤ k + c ∧
      (∀ j, k ≤ j → j < statsWait empty (c + 1) k → empty j = true) ∧
      (statsWait empty (c + 1) k < k + c → empty (statsWait empty (c + 1) k) = false) := by
  induction c generalizing k with
  | zero => simp [statsWait]; omega
  | succ c ih =>
    cases he : empty k
    · rw [statsWait_of_not_empty he]
      exact ⟨le_rfl, by omega, fun j hj hj' => by omega, fun _ => he⟩
    · obtain ⟨h1, h2, h3, h4⟩ := ih (k + 1)
      rw [statsWait_of_empty he (by omega)]
      refine ⟨by omega, by omega, fun j hj hj' => ?_, fun h => h4 (by omega)⟩
      rcases Nat.eq_or_lt_of_le hj with rfl | hj
      exacts [he, h3 j hj hj']

/-- **`getStats` waits at most nine seconds**: it returns the report of the first check that
finds one among those after `0, …, 8` seconds, or else the report after `9` seconds, possibly
empty; the counter starts at `10` but is decremented before its test. -/
theorem getStats_waits {α : Type} (reportAt : Nat → List α) :
    ∃ k ≤ 9, getStats reportAt = reportAt k ∧ (∀ j < k, reportAt j = []) ∧
      (k < 9 → reportAt k ≠ []) := by
  obtain ⟨-, h2, h3, h4⟩ := statsWait_spec (fun k => (reportAt k).isEmpty) 9 0
  refine ⟨_, h2, rfl, fun j hj => List.isEmpty_iff.1 (h3 j (Nat.zero_le j) hj), fun h => ?_⟩
  simpa [List.isEmpty_iff] using h4 h

/-! ## `PeerConnectionObserver` -/

/-- `webrtc::PeerConnectionInterface::IceConnectionState`. -/
inductive IceConnectionState where
  | new | checking | connected | completed | failed | disconnected | closed | max
  deriving DecidableEq, Repr

/-- A callback WebRTC delivers, or a step of the destructor. -/
inductive Event (T : Type) where
  /-- `OnAddStream` (lines 280-289), with the stream's video tracks -/
  | addStream (videoTracks : List T)
  /-- `OnRemoveStream` (lines 290-294) -/
  | removeStream
  /-- `OnDataChannel` (lines 295-299) -/
  | dataChannel
  /-- `OnIceConnectionChange` (lines 313-328) -/
  | iceConnectionChange (state : IceConnectionState)
  /-- `delete local_channel_` (line 253) -/
  | deleteLocalChannel
  /-- `delete remote_channel_` (line 254) -/
  | deleteRemoteChannel
  /-- `deleting_ = true`, when `pc_` is not null (lines 255-257) -/
  | setDeleting
  /-- `pc_->Close()`, when `pc_` is not null (line 258) -/
  | close

variable {T C : Type}

/-- The event is a callback. -/
def Event.isCallback : Event T → Bool
  | .addStream _ | .removeStream | .dataChannel | .iceConnectionChange _ => true
  | _ => false

/-- The event is `OnDataChannel`. -/
def Event.isDataChannel : Event T → Bool
  | .dataChannel => true
  | _ => false

/-- `~PeerConnectionObserver` (lines 251-260), step by step. -/
def destructor : List (Event T) :=
  [.deleteLocalChannel, .deleteRemoteChannel, .setDeleting, .close]

/-- A `PeerConnectionObserver` with what it has allocated: `hasPc` (`pc_.get()` is not null),
`local_channel_` and `remote_channel_` (a `DataChannelObserver` by the number it was created
with, `none` for `nullptr`), `ice_candidate_list_`, the track of `video_sink_`, `deleting_`;
the number of `DataChannelObserver`s created, those not deleted, and the `HangUp` threads
started. -/
structure PeerConnectionObserver (T C : Type) where
  hasPc : Bool
  localChannel : Option Nat
  remoteChannel : Option Nat
  iceCandidateList : List C
  videoSink : Option T
  deleting : Bool
  created : Nat
  live : List Nat
  hangUps : Nat

namespace PeerConnectionObserver

/-- `new DataChannelObserver(...)`: the next number, registered on its channel. -/
def newChannel (o : PeerConnectionObserver T C) : PeerConnectionObserver T C :=
  { o with created := o.created + 1, live := o.live ++ [o.created] }

/-- `delete p`, which unregisters the observer from its channel; nothing for `nullptr`. -/
def deleteChannel (o : PeerConnectionObserver T C) : Option Nat → PeerConnectionObserver T C
  | none => o
  | some n => { o with live := o.live.erase n }

/-- The constructor (lines 217-249): `CreatePeerConnection` gives a connection or not; with one,
a `DataChannelObserver` on `"ServerDataChannel"` becomes `local_channel_`. -/
def create (hasPc : Bool) : PeerConnectionObserver T C :=
  let o : PeerConnectionObserver T C := ⟨hasPc, none, none, [], none, false, 0, [], 0⟩
  if hasPc then { o.newChannel with localChannel := some o.created } else o

/-- `OnIceConnectionChange` (lines 313-328): on `kIceConnectionFailed` or
`kIceConnectionClosed` the candidate list is cleared and, unless `deleting_`, a detached thread
is started to call `HangUp(peerid_)`. -/
def onIceConnectionChange (o : PeerConnectionObserver T C) (state : IceConnectionState) :
    PeerConnectionObserver T C :=
  if state = .failed ∨ state = .closed then
    { o with iceCandidateList := [], hangUps := if !o.deleting then o.hangUps + 1 else o.hangUps }
  else o

/-- The observer after one event. -/
def step (o : PeerConnectionObserver T C) : Event T → PeerConnectionObserver T C
  | .addStream videoTracks =>
    match videoTracks with
    | t :: _ => { o with videoSink := some t }
    | [] => o
  | .removeStream => { o with videoSink := none }
  | .dataChannel => { o.newChannel with remoteChannel := some o.created }
  | .iceConnectionChange state => o.onIceConnectionChange state
  | .deleteLocalChannel => o.deleteChannel o.localChannel
  | .deleteRemoteChannel => o.deleteChannel o.remoteChannel
  | .setDeleting => if o.hasPc then { o with deleting := true } else o
  | .close => if o.hasPc then o.onIceConnectionChange .closed else o

/-- The observer after a sequence of events. -/
def run (o : PeerConnectionObserver T C) (es : List (Event T)) : PeerConnectionObserver T C :=
  es.foldl step o

@[simp] theorem create_hasPc (hasPc : Bool) :
    (create hasPc : PeerConnectionObserver T C).hasPc = hasPc := by
  cases hasPc <;> rfl

section
variable (o : PeerConnectionObserver T C)

@[simp] theorem run_nil : o.run [] = o := rfl

@[simp] theorem run_cons (e : Event T) (es : List (Event T)) :
    o.run (e :: es) = (o.step e).run es := rfl

theorem run_append (es es' : List (Event T)) : o.run (es ++ es') = (o.run es).run es' :=
  List.foldl_append _ _ _ _

variable (c : Option Nat) (state : IceConnectionState)

@[simp] theorem deleteChannel_hasPc : (o.deleteChannel c).hasPc = o.hasPc := by
  cases c <;> rfl

@[simp] theorem deleteChannel_remoteChannel :
    (o.deleteChannel c).remoteChannel = o.remoteChannel := by
  cases c <;> rfl

theorem deleteChannel_live :
    (o.deleteChannel c).live = match c with | none => o.live | some n => o.live.erase n := by
  cases c <;> rfl

theorem onIceConnectionChange_eq :
    o.onIceConnectionChange state = { o with
      iceCandidateList := (o.onIceConnectionChange state).iceCandidateList
      hangUps := (o.onIceConnectionChange state).hangUps } := by
  unfold onIceConnectionChange; split <;> rfl

@[simp] theorem hasPc_step (e : Event T) : (o.step e).hasPc = o.hasPc := by
  cases e <;> simp [step, onIceConnectionChange, newChannel, deleteChannel] <;> split <;> simp_all

@[simp] theorem hasPc_run (es : List (Event T)) : (o.run es).hasPc = o.hasPc := by
  induction es generalizing o with
  | nil => rfl
  | cons e es ih => rw [run_cons, ih, hasPc_step]

end

end PeerConnectionObserver

open PeerConnectionObserver

/-! ## `DataChannelObserver`s -/

/-- The `DataChannelObserver`s after `k` `OnDataChannel` callbacks: the local one (number `0`,
with a connection), then one per callback, numbered in order, all allocated; the last is
`remote_channel_`. -/
structure ChannelsInv (o : PeerConnectionObserver T C) (k : Nat) : Prop where
  localChannel : o.localChannel = if o.hasPc then some 0 else none
  live : o.live = o.localChannel.toList ++ List.range' (if o.hasPc then 1 else 0) k
  created : o.created = (if o.hasPc then 1 else 0) + k
  remoteChannel : o.remoteChannel = if k = 0 then none else some (o.created - 1)

theorem channelsInv_create (hasPc : Bool) :
    ChannelsInv (create hasPc : PeerConnectionObserver T C) 0 := by
  cases hasPc <;> exact ⟨rfl, rfl, rfl, rfl⟩

theorem ChannelsInv.step {o : PeerConnectionObserver T C} {k : Nat} (h : ChannelsInv o k)
    {e : Event T} (he : e.isCallback = true) :
    ChannelsInv (o.step e) (k + if e.isDataChannel then 1 else 0) := by
  obtain ⟨hl, hv, hc, hr⟩ := h
  cases e with
  | addStream ts => cases ts <;> exact ⟨hl, hv, hc, hr⟩
  | removeStream => exact ⟨hl, hv, hc, hr⟩
  | dataChannel =>
    simp only [PeerConnectionObserver.step, newChannel, Event.isDataChannel, if_true]
    refine ⟨hl, ?_, by simp only [hc]; omega, by simp⟩
    simp only [hv, hc, List.range'_concat, Nat.one_mul, List.append_assoc]
  | iceConnectionChange state =>
    rw [PeerConnectionObserver.step, onIceConnectionChange_eq]
    exact ⟨hl, hv, hc, hr⟩
  | _ => cases he

theorem ChannelsInv.run {o : PeerConnectionObserver T C} {k : Nat} (h : ChannelsInv o k)
    (es : List (Event T)) (hes : ∀ e ∈ es, e.isCallback = true) :
    ChannelsInv (o.run es) (k + es.countP Event.isDataChannel) := by
  induction es generalizing o k with
  | nil => exact h
  | cons e es ih =>
    have := ih (h.step (hes e (.head _))) fun e' he' => hes e' (.tail _ he')
    rw [run_cons, List.countP_cons]
    rwa [show k + (es.countP Event.isDataChannel + if e.isDataChannel then 1 else 0) =
      k + (if e.isDataChannel then 1 else 0) + es.countP Event.isDataChannel by omega]

theorem erase_range'_last (s n : Nat) :
    (List.range' s (n + 1)).erase (s + n) = List.range' s n := by
  rw [List.range'_concat, Nat.one_mul, List.erase_append_right _ (by simp [List.mem_range'_1]),
    List.erase_cons_head, List.append_nil]

theorem ChannelsInv.destructor_live {o : PeerConnectionObserver T C} {k : Nat}
    (h : ChannelsInv o k) :
    (o.run destructor).live = List.range' (if o.hasPc then 1 else 0) (k - 1) := by
  obtain ⟨hl, hv, hc, hr⟩ := h
  have hdel : ((o.step .deleteLocalChannel).step .deleteRemoteChannel).live =
      List.range' (if o.hasPc then 1 else 0) (k - 1) := by
    simp only [PeerConnectionObserver.step, deleteChannel_live, deleteChannel_remoteChannel,
      hr, hv, hl]
    rcases k with _ | k
    · cases o.hasPc <;> rfl
    · rw [if_neg (Nat.succ_ne_zero k), hc, Nat.add_succ_sub_one]
      cases o.hasPc
      · exact erase_range'_last 0 k
      · exact erase_range'_last 1 k
  -- `deleting_ = true` and `Close` delete nothing
  have hclose : ∀ o' : PeerConnectionObserver T C,
      ((o'.step .setDeleting).step .close).live = o'.live := by
    intro o'
    unfold PeerConnectionObserver.step
    split_ifs <;> (try rw [onIceConnectionChange_eq]) <;> rfl
  simp only [destructor, run_cons, run_nil, hclose, hdel]

/-- **Remote data channels leak their observers**: after any run of callbacks and then the
destructor, the `DataChannelObserver`s still allocated, and registered on their channels, are
exactly those of every `OnDataChannel` callback but the last, which `remote_channel_` no
longer points to. -/
theorem dataChannel_observers_leak (hasPc : Bool) (es : List (Event T))
    (hes : ∀ e ∈ es, e.isCallback = true) :
    ((create hasPc : PeerConnectionObserver T C).run (es ++ destructor)).live =
      List.range' (if hasPc then 1 else 0) (es.countP Event.isDataChannel - 1) := by
  have h := (channelsInv_create (T := T) (C := C) hasPc).run es hes
  rw [run_append, h.destructor_live, Nat.zero_add, hasPc_run, create_hasPc]

/-- Two remote data channels: the first one's observer stays allocated. -/
theorem dataChannel_observers_leak_two :
    (∀ e ∈ [Event.dataChannel, Event.dataChannel], (e : Event Nat).isCallback = true) ∧
      ((create true : PeerConnectionObserver Nat Nat).run
        ([.dataChannel, .dataChannel] ++ destructor)).live =
        List.range' (if true then 1 else 0) ([Event.dataChannel, Event.dataChannel].countP
          (Event.isDataChannel (T := Nat)) - 1) :=
  ⟨by decide, dataChannel_observers_leak true _ (by decide)⟩

end PeerConnectionManager
