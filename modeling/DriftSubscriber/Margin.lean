import Mathlib.Algebra.Order.Ring.Int
import Mathlib.Data.List.Perm.Basic

/-!
# `MarginCalculation`

`math/margin_calculation.py` accumulates a user's margin one market at a time: every method
adds to running totals, reading nothing but the constant `margin_buffer` and its own
arguments, and the predicates compare the totals.  So the totals do not depend on the
order in which the markets are added, and `margin_requirement` is always the sum of the
spot and the perp requirements.  With a positive buffer and liabilities that are not
negative, the collateral buffer only ever lowers the collateral and the buffered
requirement never falls below the plain one, so `can_exit_liquidation()` implies
`meets_margin_requirement()`; with no buffer the buffered totals stay `0`, and
`can_exit_liquidation()` only asks that the collateral be non-negative.
`MARGIN_PRECISION` comes from `driftpy.constants.numeric_constants`, which is not part of
the sources, and is a parameter here.
-/

namespace DriftSubscriber

/-- The fields of `MarginCalculation` (lines 8-26) that its methods read or write, with the
dataclass's defaults. -/
@[ext]
structure MarginCalculation where
  marginBuffer : Int := 0
  totalCollateral : Int := 0
  totalCollateralBuffer : Int := 0
  marginRequirement : Int := 0
  marginRequirementPlusBuffer : Int := 0
  spotMarginRequirement : Int := 0
  perpMarginRequirement : Int := 0
  numSpotLiabilities : Int := 0
  numPerpLiabilities : Int := 0
  openOrdersMarginRequirement : Int := 0
  trackedMarketMarginRequirement : Int := 0
  deriving DecidableEq

namespace MarginCalculation

variable (marginPrecision : Int) (m : MarginCalculation)

/-- `MarginCalculation(margin_buffer=marginBuffer)`, every total at its default `0`. -/
def withBuffer (marginBuffer : Int) : MarginCalculation := { marginBuffer }

/-- `add_total_collateral` (lines 28-33); `//` is floor division. -/
def addTotalCollateral (totalCollateral : Int) : MarginCalculation :=
  let m := { m with totalCollateral := m.totalCollateral + totalCollateral }
  if m.marginBuffer > 0 ∧ totalCollateral < 0 then
    { m with
      totalCollateralBuffer :=
        m.totalCollateralBuffer + (totalCollateral * m.marginBuffer).fdiv marginPrecision }
  else m

/-- `add_margin_requirement` (lines 35-54). -/
def addMarginRequirement (marginRequirement liabilityValue : Int)
    (isSpot trackMarketRequirement : Bool) : MarginCalculation :=
  let m := { m with marginRequirement := m.marginRequirement + marginRequirement }
  let m :=
    if isSpot then { m with spotMarginRequirement := m.spotMarginRequirement + marginRequirement }
    else { m with perpMarginRequirement := m.perpMarginRequirement + marginRequirement }
  let m :=
    if m.marginBuffer > 0 then
      { m with
        marginRequirementPlusBuffer := m.marginRequirementPlusBuffer +
          (marginRequirement + (liabilityValue * m.marginBuffer).fdiv marginPrecision) }
    else m
  if trackMarketRequirement then
    { m with
      trackedMarketMarginRequirement := m.trackedMarketMarginRequirement + marginRequirement }
  else m

/-- `add_open_orders_margin_requirement` (lines 56-57). -/
def addOpenOrdersMarginRequirement (marginRequirement : Int) : MarginCalculation :=
  { m with openOrdersMarginRequirement := m.openOrdersMarginRequirement + marginRequirement }

/-- `add_spot_liability` (lines 59-60). -/
def addSpotLiability : MarginCalculation := { m with numSpotLiabilities := m.numSpotLiabilities + 1 }

/-- `add_perp_liability` (lines 62-63). -/
def addPerpLiability : MarginCalculation := { m with numPerpLiabilities := m.numPerpLiabilities + 1 }

/-- `get_total_collateral_plus_buffer` (lines 65-66). -/
def getTotalCollateralPlusBuffer : Int := m.totalCollateral + m.totalCollateralBuffer

/-- `meets_margin_requirement` (lines 68-69). -/
def meetsMarginRequirement : Bool := decide (m.totalCollateral ≥ m.marginRequirement)

/-- `meets_margin_requirement_with_buffer` (lines 71-72). -/
def meetsMarginRequirementWithBuffer : Bool :=
  decide (m.getTotalCollateralPlusBuffer ≥ m.marginRequirementPlusBuffer)

/-- `can_exit_liquidation` (lines 74-75). -/
def canExitLiquidation : Bool := m.meetsMarginRequirementWithBuffer

/-- `get_free_collateral` (lines 77-78). -/
def getFreeCollateral : Int := m.totalCollateral - m.marginRequirement

/-- `margin_shortage` (lines 80-81). -/
def marginShortage : Int := max 0 (m.marginRequirement - m.totalCollateral)

/-- A call of one of the accumulating methods (lines 28-63). -/
inductive Op
  | addTotalCollateral (totalCollateral : Int)
  | addMarginRequirement (marginRequirement liabilityValue : Int) (isSpot trackMarketRequirement : Bool)
  | addOpenOrdersMarginRequirement (marginRequirement : Int)
  | addSpotLiability
  | addPerpLiability
  deriving DecidableEq

/-- One method call. -/
def apply : Op → MarginCalculation
  | .addTotalCollateral totalCollateral => m.addTotalCollateral marginPrecision totalCollateral
  | .addMarginRequirement marginRequirement liabilityValue isSpot trackMarketRequirement =>
      m.addMarginRequirement marginPrecision marginRequirement liabilityValue isSpot trackMarketRequirement
  | .addOpenOrdersMarginRequirement marginRequirement => m.addOpenOrdersMarginRequirement marginRequirement
  | .addSpotLiability => m.addSpotLiability
  | .addPerpLiability => m.addPerpLiability

/-- The calls `ops` made in turn. -/
def run (ops : List Op) : MarginCalculation := ops.foldl (fun m op => m.apply marginPrecision op) m

@[simp] theorem run_nil : m.run marginPrecision [] = m := rfl

@[simp] theorem run_cons (op : Op) (ops : List Op) :
    m.run marginPrecision (op :: ops) = (m.apply marginPrecision op).run marginPrecision ops := rfl

theorem run_append (ops ops' : List Op) :
    m.run marginPrecision (ops ++ ops') = (m.run marginPrecision ops).run marginPrecision ops' :=
  List.foldl_append _ _ _ _

/-- No method changes `margin_buffer`. -/
@[simp] theorem apply_marginBuffer (op : Op) : (m.apply marginPrecision op).marginBuffer = m.marginBuffer := by
  cases op <;> simp only [apply, addTotalCollateral, addMarginRequirement, addOpenOrdersMarginRequirement,
    addSpotLiability, addPerpLiability] <;> split_ifs <;> rfl

/-- `m` with the totals of `d` added to its own; `margin_buffer` stays `m`'s. -/
def shift (d : MarginCalculation) : MarginCalculation :=
  { m with
    totalCollateral := m.totalCollateral + d.totalCollateral
    totalCollateralBuffer := m.totalCollateralBuffer + d.totalCollateralBuffer
    marginRequirement := m.marginRequirement + d.marginRequirement
    marginRequirementPlusBuffer := m.marginRequirementPlusBuffer + d.marginRequirementPlusBuffer
    spotMarginRequirement := m.spotMarginRequirement + d.spotMarginRequirement
    perpMarginRequirement := m.perpMarginRequirement + d.perpMarginRequirement
    numSpotLiabilities := m.numSpotLiabilities + d.numSpotLiabilities
    numPerpLiabilities := m.numPerpLiabilities + d.numPerpLiabilities
    openOrdersMarginRequirement := m.openOrdersMarginRequirement + d.openOrdersMarginRequirement
    trackedMarketMarginRequirement := m.trackedMarketMarginRequirement + d.trackedMarketMarginRequirement }

/-- What a call adds to the totals of a calculation whose margin buffer is `marginBuffer`. -/
def Op.contribution (marginBuffer : Int) : Op → MarginCalculation
  | .addTotalCollateral totalCollateral =>
      { totalCollateral
        totalCollateralBuffer :=
          if marginBuffer > 0 ∧ totalCollateral < 0 then
            (totalCollateral * marginBuffer).fdiv marginPrecision
          else 0 }
  | .addMarginRequirement marginRequirement liabilityValue isSpot trackMarketRequirement =>
      { marginRequirement
        spotMarginRequirement := if isSpot then marginRequirement else 0
        perpMarginRequirement := if isSpot then 0 else marginRequirement
        marginRequirementPlusBuffer :=
          if marginBuffer > 0 then
            marginRequirement + (liabilityValue * marginBuffer).fdiv marginPrecision
          else 0
        trackedMarketMarginRequirement := if trackMarketRequirement then marginRequirement else 0 }
  | .addOpenOrdersMarginRequirement marginRequirement => { openOrdersMarginRequirement := marginRequirement }
  | .addSpotLiability => { numSpotLiabilities := 1 }
  | .addPerpLiability => { numPerpLiabilities := 1 }

/-- Every method adds the contribution of its call. -/
theorem apply_eq_shift (op : Op) :
    m.apply marginPrecision op = m.shift (op.contribution marginPrecision m.marginBuffer) := by
  cases m
  cases op <;> simp only [apply, addTotalCollateral, addMarginRequirement, addOpenOrdersMarginRequirement,
    addSpotLiability, addPerpLiability, shift, Op.contribution] <;> (try split_ifs) <;> simp

@[simp] theorem shift_marginBuffer (d : MarginCalculation) : (m.shift d).marginBuffer = m.marginBuffer := rfl

theorem shift_shift_comm (d e : MarginCalculation) : (m.shift d).shift e = (m.shift e).shift d := by
  ext <;> simp only [shift] <;> omega

/-- Two calls give the same totals in either order. -/
theorem apply_comm (a b : Op) :
    (m.apply marginPrecision a).apply marginPrecision b = (m.apply marginPrecision b).apply marginPrecision a := by
  simp only [apply_eq_shift, shift_marginBuffer]
  exact shift_shift_comm _ _ _

/-- A property of calculations that every call keeps holds after every run. -/
theorem run_invariant (Q : MarginCalculation → Prop) (ops : List Op)
    (hstep : ∀ m, ∀ op ∈ ops, Q m → Q (m.apply marginPrecision op)) (hm : Q m) : Q (m.run marginPrecision ops) := by
  induction ops generalizing m with
  | nil => exact hm
  | cons op ops ih =>
      exact ih (m.apply marginPrecision op) (fun m op' hop' => hstep m op' (List.mem_cons_of_mem _ hop'))
        (hstep m op (List.mem_cons_self _ _) hm)

/-- The calls of a run, made in any other order, give the same calculation: the totals do not
depend on the order in which the markets are added. -/
theorem run_eq_of_perm {ops ops' : List Op} (h : ops.Perm ops') :
    m.run marginPrecision ops = m.run marginPrecision ops' :=
  h.foldl_eq' (fun a _ b _ m => apply_comm marginPrecision m a b) m

/-- A negative collateral and a tracked perp requirement, added in either order. -/
theorem run_eq_of_perm_sample :
    [Op.addTotalCollateral (-500), .addMarginRequirement 300 1000 false true].Perm
        [.addMarginRequirement 300 1000 false true, .addTotalCollateral (-500)] ∧
      (withBuffer 100).run 10000 [.addTotalCollateral (-500), .addMarginRequirement 300 1000 false true] =
        (withBuffer 100).run 10000 [.addMarginRequirement 300 1000 false true, .addTotalCollateral (-500)] :=
  ⟨by decide, run_eq_of_perm 10000 _ (by decide)⟩

/-- Line 42 adds a requirement to exactly one of the spot and perp requirements. -/
theorem contribution_requirement_split (marginBuffer : Int) (op : Op) :
    (op.contribution marginPrecision marginBuffer).marginRequirement =
      (op.contribution marginPrecision marginBuffer).spotMarginRequirement +
        (op.contribution marginPrecision marginBuffer).perpMarginRequirement := by
  cases op <;> simp only [Op.contribution] <;> (try split_ifs) <;> simp

/-- Whatever calls are made, `margin_requirement` stays the sum of the spot and the perp
requirements, if it starts so (the defaults among such starts). -/
theorem run_requirement_split (h : m.marginRequirement = m.spotMarginRequirement + m.perpMarginRequirement)
    (ops : List Op) :
    (m.run marginPrecision ops).marginRequirement =
      (m.run marginPrecision ops).spotMarginRequirement + (m.run marginPrecision ops).perpMarginRequirement := by
  refine run_invariant marginPrecision m
    (fun m => m.marginRequirement = m.spotMarginRequirement + m.perpMarginRequirement) ops (fun m op _ hm => ?_) h
  have := contribution_requirement_split marginPrecision m.marginBuffer op
  simp only [apply_eq_shift, shift]
  omega

/-- From the defaults, a spot and a perp requirement. -/
theorem run_requirement_split_sample :
    ((withBuffer 0).run 10000 [.addMarginRequirement 300 0 true false, .addMarginRequirement 200 0 false false]).marginRequirement =
      ((withBuffer 0).run 10000 [.addMarginRequirement 300 0 true false,
        .addMarginRequirement 200 0 false false]).spotMarginRequirement +
      ((withBuffer 0).run 10000 [.addMarginRequirement 300 0 true false,
        .addMarginRequirement 200 0 false false]).perpMarginRequirement :=
  run_requirement_split 10000 (withBuffer 0) rfl _

/-- The call only counts: an open-orders requirement or a liability. -/
def Op.onlyCounts : Op → Bool
  | .addOpenOrdersMarginRequirement _ | .addSpotLiability | .addPerpLiability => true
  | _ => false

/-- The four totals that the predicates of lines 65-81 read. -/
def verdictTotals : Int × Int × Int × Int :=
  (m.totalCollateral, m.totalCollateralBuffer, m.marginRequirement, m.marginRequirementPlusBuffer)

theorem verdictTotals_apply_of_onlyCounts {op : Op} (hop : op.onlyCounts = true) :
    (m.apply marginPrecision op).verdictTotals = m.verdictTotals := by
  rw [apply_eq_shift]
  cases op <;> cases hop <;> simp [verdictTotals, shift, Op.contribution]

/-- Calls that only count leave the four totals as they are. -/
theorem verdictTotals_run_of_onlyCounts {ops : List Op} (hops : ∀ op ∈ ops, op.onlyCounts = true) :
    (m.run marginPrecision ops).verdictTotals = m.verdictTotals :=
  run_invariant marginPrecision m (fun m' => m'.verdictTotals = m.verdictTotals) ops
    (fun m' op hop h => (verdictTotals_apply_of_onlyCounts marginPrecision m' (hops op hop)).trans h) rfl

/-- The open-orders requirement and the liability counters never enter a verdict: after any
calls, `meets_margin_requirement()`, `can_exit_liquidation()` (that is
`meets_margin_requirement_with_buffer()`), `get_free_collateral()` and
`margin_shortage()` answer as after the same calls without `add_open_orders_margin_requirement`,
`add_spot_liability` and `add_perp_liability`. -/
theorem verdicts_ignore_counting_calls (ops : List Op) :
    (m.run marginPrecision ops).meetsMarginRequirement =
        (m.run marginPrecision (ops.filter fun op => !op.onlyCounts)).meetsMarginRequirement ∧
      (m.run marginPrecision ops).canExitLiquidation =
        (m.run marginPrecision (ops.filter fun op => !op.onlyCounts)).canExitLiquidation ∧
      (m.run marginPrecision ops).getFreeCollateral =
        (m.run marginPrecision (ops.filter fun op => !op.onlyCounts)).getFreeCollateral ∧
      (m.run marginPrecision ops).marginShortage =
        (m.run marginPrecision (ops.filter fun op => !op.onlyCounts)).marginShortage := by
  set m₀ := m.run marginPrecision (ops.filter fun op => !op.onlyCounts)
  have hperm : ((ops.filter fun op => !op.onlyCounts) ++ ops.filter Op.onlyCounts).Perm ops := by
    simpa only [Bool.not_not] using List.filter_append_perm (fun op => !op.onlyCounts) ops
  have htotals : (m₀.run marginPrecision (ops.filter Op.onlyCounts)).verdictTotals = m₀.verdictTotals :=
    verdictTotals_run_of_onlyCounts marginPrecision m₀ fun _ hop => (List.mem_filter.mp hop).2
  simp only [verdictTotals, Prod.mk.injEq] at htotals
  rw [← run_eq_of_perm marginPrecision m hperm, run_append]
  simp only [meetsMarginRequirement, canExitLiquidation, meetsMarginRequirementWithBuffer,
    getTotalCollateralPlusBuffer, getFreeCollateral, marginShortage, htotals, and_self]

/-- A perp requirement of `300` against collateral `200`, beside an open-orders requirement
of `500` and two liabilities: the shortage is `100` either way. -/
example :
    ((withBuffer 0).run 10000 [.addTotalCollateral 200, .addOpenOrdersMarginRequirement 500,
      .addMarginRequirement 300 0 false false, .addSpotLiability, .addPerpLiability]).marginShortage = 100 := by
  decide

/-! ## The buffered totals -/

/-- The call adds a liability value that is not negative. -/
def Op.liabilityNonneg : Op → Bool
  | .addMarginRequirement _ liabilityValue _ _ => decide (0 ≤ liabilityValue)
  | _ => true

section Buffer

variable {marginPrecision} (hprecision : 0 < marginPrecision)

include hprecision

/-- Lines 30-33 add a floor quotient of a negative product: never a positive amount. -/
theorem contribution_collateralBuffer_nonpos (marginBuffer : Int) (op : Op) :
    (op.contribution marginPrecision marginBuffer).totalCollateralBuffer ≤ 0 := by
  cases op with
  | addTotalCollateral totalCollateral =>
      simp only [Op.contribution]
      split_ifs with hneg
      · rw [Int.fdiv_eq_ediv _ hprecision.le]
        exact (Int.ediv_neg' (Int.mul_neg_of_neg_of_pos hneg.2 hneg.1) hprecision).le
      · exact Int.le_refl 0
  | _ => exact Int.le_refl 0

/-- Lines 48-51 with a positive buffer add the requirement and a non-negative part of the
liability. -/
theorem contribution_requirement_le {marginBuffer : Int} (hbuffer : 0 < marginBuffer) {op : Op}
    (hop : op.liabilityNonneg = true) :
    (op.contribution marginPrecision marginBuffer).marginRequirement ≤
      (op.contribution marginPrecision marginBuffer).marginRequirementPlusBuffer := by
  cases op with
  | addMarginRequirement marginRequirement liabilityValue isSpot trackMarketRequirement =>
      have hliability : 0 ≤ liabilityValue := of_decide_eq_true hop
      have := Int.ediv_nonneg (Int.mul_nonneg hliability hbuffer.le) hprecision.le
      simp only [Op.contribution, if_pos hbuffer, Int.fdiv_eq_ediv _ hprecision.le]
      omega
  | _ => exact Int.le_refl 0

/-- With a positive buffer, the collateral buffer never raises the collateral and the
buffered requirement is never below the plain one. -/
structure BufferSound (m : MarginCalculation) : Prop where
  buffer_pos : 0 < m.marginBuffer
  collateralBuffer_nonpos : m.totalCollateralBuffer ≤ 0
  requirement_le : m.marginRequirement ≤ m.marginRequirementPlusBuffer

omit hprecision in
theorem BufferSound.withBuffer {marginBuffer : Int} (hbuffer : 0 < marginBuffer) :
    BufferSound (withBuffer marginBuffer) :=
  ⟨hbuffer, Int.le_refl 0, Int.le_refl 0⟩

theorem BufferSound.apply {m : MarginCalculation} (h : BufferSound m) {op : Op} (hop : op.liabilityNonneg = true) :
    BufferSound (m.apply marginPrecision op) := by
  have hbuffer := contribution_collateralBuffer_nonpos hprecision m.marginBuffer op
  have hrequirement := contribution_requirement_le hprecision h.buffer_pos hop
  have := h.collateralBuffer_nonpos
  have := h.requirement_le
  rw [apply_eq_shift]
  exact ⟨h.buffer_pos, by simp only [shift]; omega, by simp only [shift]; omega⟩

omit hprecision in
/-- Lines 71-75 against lines 68-69. -/
theorem BufferSound.meets {m : MarginCalculation} (h : BufferSound m) (hexit : m.canExitLiquidation = true) :
    m.meetsMarginRequirement = true := by
  simp only [canExitLiquidation, meetsMarginRequirementWithBuffer, getTotalCollateralPlusBuffer,
    decide_eq_true_eq] at hexit
  have := h.collateralBuffer_nonpos
  have := h.requirement_le
  simp only [meetsMarginRequirement, decide_eq_true_eq]
  omega

/-- From `MarginCalculation(margin_buffer=b)` with `b > 0`, after any calls whose liability
values are not negative, in any order, a calculation that can exit liquidation meets its
margin requirement. -/
theorem canExitLiquidation_meets_requirement {marginBuffer : Int} (hbuffer : 0 < marginBuffer)
    {ops : List Op} (hops : ∀ op ∈ ops, op.liabilityNonneg = true)
    (hexit : ((withBuffer marginBuffer).run marginPrecision ops).canExitLiquidation = true) :
    ((withBuffer marginBuffer).run marginPrecision ops).meetsMarginRequirement = true :=
  (run_invariant marginPrecision _ BufferSound ops (fun _ op hop h => h.apply hprecision (hops op hop))
    (BufferSound.withBuffer hbuffer)).meets hexit

end Buffer

/-- With a buffer of `100` and `MARGIN_PRECISION` `10000`: collateral `1000` against a spot
requirement of `500` on a liability of `2000`, buffered to `520`. -/
theorem canExitLiquidation_meets_requirement_sample :
    ((withBuffer 100).run 10000 [.addTotalCollateral 1000, .addMarginRequirement 500 2000 true false]).canExitLiquidation = true ∧
      ((withBuffer 100).run 10000 [.addTotalCollateral 1000,
        .addMarginRequirement 500 2000 true false]).meetsMarginRequirement = true :=
  ⟨by decide, canExitLiquidation_meets_requirement (by decide) (by decide) (by decide) (by decide)⟩

/-- With no positive buffer, lines 30 and 48 add nothing to the buffered totals. -/
theorem contribution_without_buffer {marginBuffer : Int} (hbuffer : marginBuffer ≤ 0) (op : Op) :
    (op.contribution marginPrecision marginBuffer).totalCollateralBuffer = 0 ∧
      (op.contribution marginPrecision marginBuffer).marginRequirementPlusBuffer = 0 := by
  cases op with
  | addTotalCollateral totalCollateral =>
      exact ⟨if_neg fun h => absurd h.1 (by omega), rfl⟩
  | addMarginRequirement =>
      exact ⟨rfl, if_neg fun h => absurd h (by omega)⟩
  | _ => exact ⟨rfl, rfl⟩

/-- From `MarginCalculation(margin_buffer=b)` with `b ≤ 0`, the default `0` among them,
whatever calls are made the buffered totals stay `0`, so `can_exit_liquidation()` holds
exactly when the total collateral is not negative, whatever the margin requirement. -/
theorem canExitLiquidation_without_buffer {marginBuffer : Int} (hbuffer : marginBuffer ≤ 0) (ops : List Op) :
    ((withBuffer marginBuffer).run marginPrecision ops).canExitLiquidation =
      decide (0 ≤ ((withBuffer marginBuffer).run marginPrecision ops).totalCollateral) := by
  have hzero := run_invariant marginPrecision (withBuffer marginBuffer)
    (fun m => m.marginBuffer = marginBuffer ∧ m.totalCollateralBuffer = 0 ∧ m.marginRequirementPlusBuffer = 0)
    ops (fun m op _ ⟨hb, hc, hp⟩ => by
      obtain ⟨hc', hp'⟩ := contribution_without_buffer marginPrecision (hb ▸ hbuffer) op
      rw [apply_eq_shift]
      exact ⟨hb, by simp only [shift, hc, hc', add_zero], by simp only [shift, hp, hp', add_zero]⟩) ⟨rfl, rfl, rfl⟩
  simp only [canExitLiquidation, meetsMarginRequirementWithBuffer, getTotalCollateralPlusBuffer,
    hzero.2.1, hzero.2.2, add_zero]

/-- With the default buffer `0`, collateral `10` against a requirement of `500`: the
calculation can exit liquidation though it does not meet its requirement. -/
theorem canExitLiquidation_without_buffer_sample :
    ((withBuffer 0).run 10000 [.addMarginRequirement 500 0 true false, .addTotalCollateral 10]).canExitLiquidation =
        decide (0 ≤ ((withBuffer 0).run 10000 [.addMarginRequirement 500 0 true false,
          .addTotalCollateral 10]).totalCollateral) ∧
      ((withBuffer 0).run 10000 [.addMarginRequirement 500 0 true false,
        .addTotalCollateral 10]).meetsMarginRequirement = false :=
  ⟨canExitLiquidation_without_buffer 10000 (by decide) _, by decide⟩

end MarginCalculation

end DriftSubscriber
