import Mathlib.Logic.Function.Basic
import Mathlib.Order.Basic
import Mathlib.Data.Nat.Sqrt
import Mathlib.Algebra.Order.Ring.Int

/-!
# Machine values, tensors and failures

The values `RaycastingScene.cpp` computes with. The C++ integer types are `Nat`/`Int` with
their wrap-around written out: `u32` (`unsigned int`, `uint32_t`), `u64` (`size_t`) and
`toInt` (a `size_t` stored in an `int`). `float` is a carrier `F` with the operations the code
performs (`FloatOps`); nothing below depends on how they round. Buffers (`float*`,
`unsigned int*`, `int*`) are functions from the index, so a buffer of any length can be
written down. A `Tensor` is a shape, a dtype, a device and its row-major contents, and
`Failure` lists the ways a call can end early: a failed check (with the fields its message
names), an error raised by the provider through `ErrorFunction`, an allocation failure, and
an integer division that traps.
-/

namespace RaycastingScene

/-! ## Integers -/

/-- `unsigned int` / `uint32_t` arithmetic: modulo `2 ^ 32`. -/
def u32 (n : Nat) : Nat := n % 2 ^ 32

/-- `size_t` arithmetic: modulo `2 ^ 64`. -/
def u64 (n : Nat) : Nat := n % 2 ^ 64

/-- A `size_t` converted to `int`: the value modulo `2 ^ 32`, read in two's complement. -/
def toInt (n : Nat) : Int :=
  if n % 2 ^ 32 < 2 ^ 31 then (n % 2 ^ 32 : Nat) else (n % 2 ^ 32 : Nat) - 2 ^ 32

/-- `RTC_INVALID_GEOMETRY_ID` (`RaycastingScene::INVALID_ID()`). -/
def rtcInvalidGeometryId : Nat := 2 ^ 32 - 1

/-- `MAX_BATCH_SIZE`, the most rays passed to one `rtcIntersect1M`. -/
def maxBatchSize : Nat := 1048576

/-- `utility::DivUp` (`open3d/utility/Helper.h`, outside the sources), `int DivUp(int x, int y)`:
the quotient of `std::div(x, y)`, plus one when the remainder is not zero. `none` is the
division trapping: a zero divisor, or `INT_MIN / -1`. -/
def divUp (x y : Int) : Option Int :=
  if y = 0 ∨ (x = -2 ^ 31 ∧ y = -1) then none
  else some (x.tdiv y + if x.tmod y = 0 then 0 else 1)

@[simp] theorem u32_of_lt {n : Nat} (h : n < 2 ^ 32) : u32 n = n := Nat.mod_eq_of_lt h

@[simp] theorem u64_of_lt {n : Nat} (h : n < 2 ^ 64) : u64 n = n := Nat.mod_eq_of_lt h

theorem toInt_of_lt {n : Nat} (h : n < 2 ^ 31) : toInt n = n := by
  rw [toInt, if_pos (by omega), Nat.mod_eq_of_lt (by omega)]

theorem divUp_ofNat {x y : Nat} (hy : 0 < y) :
    divUp x y = some (x / y + if x % y = 0 then 0 else 1 : Nat) := by
  rw [divUp, if_neg (by omega), ← Int.ofNat_tdiv, ← Int.ofNat_tmod]
  congr 1
  split_ifs <;> omega

theorem divUp_neg_le_one {y d : Nat} (hd : 0 < d) :
    ∃ k, divUp (-(y : Int)) d = some k ∧ k ≤ 1 := by
  refine ⟨_, by rw [divUp, if_neg (by omega)], ?_⟩
  rw [Int.neg_tdiv, ← Int.ofNat_tdiv]
  have := Int.ofNat_nonneg (y / d)
  split_ifs <;> omega

/-! ## Floats -/

/-- The `float` operations the scene's code performs, on a carrier `F`: `infinity` is
`std::numeric_limits<float>::infinity()` and `sqrt` is `std::sqrt`. -/
class FloatOps (F : Type) extends Zero F, One F, Add F, Sub F, Mul F, Div F, IntCast F where
  infinity : F
  sqrt : F → F

/-- `Nat` as a float carrier for concrete runs: its own operations, `Nat.sqrt`, and `2 ^ 128`,
the first power of two past `FLT_MAX`, as `+∞`. -/
instance : FloatOps Nat where
  zero := 0
  one := 1
  intCast := Int.toNat
  infinity := 2 ^ 128
  sqrt := Nat.sqrt

/-- `Vec3fa`, `Eigen::Vector3f`: three coordinates. -/
structure Vec3 (F : Type) where
  x : F
  y : F
  z : F
deriving DecidableEq, Repr

/-! ## Tensors -/

/-- `core::Dtype`, the element types the checks name. -/
inductive Dtype where
  | float32
  | uint32
  | int32
  | int64
deriving DecidableEq, Repr

/-- `core::Device`. -/
inductive Device where
  | cpu (id : Nat)
  | cuda (id : Nat)
deriving DecidableEq, Repr

/-- The device of `Impl::tensor_device`, a default-constructed `core::Device`. -/
def Device.default : Device := .cpu 0

/-- `core::Tensor`: shape, dtype, device and row-major contents. -/
structure Tensor (α : Type) where
  shape : List Nat
  dtype : Dtype
  device : Device
  data : Nat → α

/-- `SizeVector::NumElements`: the product of the dimensions. -/
def numElements (shape : List Nat) : Nat := shape.foldr (· * ·) 1

/-- `Tensor::GetLength`: the first dimension. -/
def Tensor.getLength {α : Type} (t : Tensor α) : Nat := t.shape.headD 0

/-- The leading shape of a tensor of records: its shape without the last dimension. -/
def Tensor.leadingShape {α : Type} (t : Tensor α) : List Nat := t.shape.dropLast

/-! ## Failures -/

/-- The provider's API calls, named in the failures they raise and in the call log. -/
inductive RtcCall where
  | newGeometry
  | setNewGeometryBuffer
  | commitGeometry
  | attachGeometry
  | releaseGeometry
  | commitScene
  | intersect1M
  | pointQuery
deriving DecidableEq, Repr

/-- How a call ends early. -/
inductive Failure where
  /-- `Tensor::AssertDevice` -/
  | deviceMismatch (expected actual : Device)
  /-- "{} Tensor ndim is {} but expected ndim >= {}" -/
  | ndimTooSmall (name : String) (ndim minNdim : Nat)
  /-- "The last dimension of the {} Tensor must be {} but got Tensor with shape {}" -/
  | lastDimMismatch (name : String) (lastDim : Nat) (shape : List Nat)
  /-- `Tensor::AssertDtype` -/
  | dtypeMismatch (expected actual : Dtype)
  /-- `Tensor::AssertShapeCompatible` -/
  | shapeIncompatible (expected : List (Option Nat)) (actual : List Nat)
  /-- "Cannot add mesh with more than {} vertices to the scene" -/
  | tooManyVertices (max : Nat)
  /-- `ErrorFunction`: "embree error: {} {}", raised from inside a provider call -/
  | embree (call : RtcCall)
  /-- `std::bad_alloc` from an allocation -/
  | badAlloc
  /-- an integer division that traps (`utility::DivUp`) -/
  | divisionByZero
  /-- `rtcIntersect1M` asked for more rays than `rayhits` holds -/
  | outOfBounds
deriving DecidableEq, Repr

/-- `Tensor::AssertDevice`. -/
def Tensor.assertDevice {α : Type} (t : Tensor α) (device : Device) : Except Failure Unit :=
  if t.device = device then pure () else throw (.deviceMismatch device t.device)

/-- `Tensor::AssertDtype`. -/
def Tensor.assertDtype {α : Type} (t : Tensor α) (dtype : Dtype) : Except Failure Unit :=
  if t.dtype = dtype then pure () else throw (.dtypeMismatch dtype t.dtype)

/-- `Tensor::AssertShapeCompatible({utility::nullopt, 3})`: two dimensions, the last `3`. -/
def Tensor.assertShapeCompatible {α : Type} (t : Tensor α) : Except Failure Unit :=
  match t.shape with
  | [_, 3] => pure ()
  | s => throw (.shapeIncompatible [none, some 3] s)

/-- `AssertTensorDtypeLastDimDeviceMinNDim<DTYPE>`: device, rank, last dimension, dtype. -/
def assertTensorDtypeLastDimDeviceMinNDim {α : Type} (dtype : Dtype) (t : Tensor α)
    (tensorName : String) (lastDim : Nat) (device : Device) (minNdim : Nat) :
    Except Failure Unit := do
  t.assertDevice device
  if t.shape.length < minNdim then
    throw (.ndimTooSmall tensorName t.shape.length minNdim)
  if t.shape.getLast? ≠ some lastDim then
    throw (.lastDimMismatch tensorName lastDim t.shape)
  t.assertDtype dtype

/-- What the check admits. -/
def TensorOk {α : Type} (dtype : Dtype) (t : Tensor α) (lastDim : Nat) (device : Device)
    (minNdim : Nat) : Prop :=
  t.device = device ∧ minNdim ≤ t.shape.length ∧ t.shape.getLast? = some lastDim ∧
    t.dtype = dtype

instance {α : Type} (dtype : Dtype) (t : Tensor α) (lastDim : Nat) (device : Device)
    (minNdim : Nat) : Decidable (TensorOk dtype t lastDim device minNdim) :=
  inferInstanceAs (Decidable (_ ∧ _ ∧ _ ∧ _))

theorem bind_eq_ok_unit {x : Except Failure Unit} {f : Unit → Except Failure Unit} :
    x >>= f = .ok () ↔ x = .ok () ∧ f () = .ok () := by
  cases x <;> simp [bind, Except.bind]

theorem check_eq_ok {p : Prop} [Decidable p] {e : Failure} :
    (if p then pure () else throw e : Except Failure Unit) = .ok () ↔ p := by
  by_cases h : p <;> simp [h, pure, Except.pure, throw, throwThe, MonadExceptOf.throw]

theorem Tensor.assertDevice_eq_ok {α : Type} {t : Tensor α} {device : Device} :
    t.assertDevice device = .ok () ↔ t.device = device := check_eq_ok

theorem Tensor.assertDtype_eq_ok {α : Type} {t : Tensor α} {dtype : Dtype} :
    t.assertDtype dtype = .ok () ↔ t.dtype = dtype := check_eq_ok

theorem Tensor.assertShapeCompatible_eq_ok {α : Type} {t : Tensor α} :
    t.assertShapeCompatible = .ok () ↔ ∃ n, t.shape = [n, 3] := by
  unfold Tensor.assertShapeCompatible
  split <;> simp_all [pure, Except.pure, throw, throwThe, MonadExceptOf.throw]

/-- The check passes exactly on the tensors it admits. -/
theorem assertTensor_eq_ok {α : Type} {dtype : Dtype} {t : Tensor α} {name : String}
    {lastDim : Nat} {device : Device} {minNdim : Nat} :
    assertTensorDtypeLastDimDeviceMinNDim dtype t name lastDim device minNdim = .ok () ↔
      TensorOk dtype t lastDim device minNdim := by
  unfold assertTensorDtypeLastDimDeviceMinNDim TensorOk
  by_cases h1 : t.shape.length < minNdim <;> by_cases h2 : t.shape.getLast? = some lastDim <;>
    simp [h1, h2, bind_eq_ok_unit, Tensor.assertDevice_eq_ok, Tensor.assertDtype_eq_ok, throw,
      throwThe, MonadExceptOf.throw, pure, Except.pure]
  all_goals omega

theorem assertTensor_ok {α : Type} {dtype : Dtype} {t : Tensor α} (name : String)
    {lastDim : Nat} {device : Device} {minNdim : Nat}
    (h : TensorOk dtype t lastDim device minNdim) :
    assertTensorDtypeLastDimDeviceMinNDim dtype t name lastDim device minNdim = .ok () :=
  assertTensor_eq_ok.2 h

end RaycastingScene
