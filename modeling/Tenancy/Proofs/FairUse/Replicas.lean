import Tenancy.Proofs.FairUse.Rounding

/-!
# Replicas and the ratio

The totals of several replicas are exactly so many times those of one, so the quotient of memory
by CPU is the same.  The ratio is read off the quotient as division gives it, which depends on how
the totals are written: it may leave out what the quotient has above half a byte over whole
mebibytes.  The ratios agree exactly if this happens to both or to neither, and so wherever the
quotient is not that close to such a half.
-/

namespace Tenancy

namespace Ratio

/-! ## What a ratio shows -/

/-- Two totals cannot be told apart by their ratios. -/
structure Agrees (first second : Ratio) : Prop where
  perCore? : first.perCore? = second.perCore?
  text : first.text = second.text
  isBelow : ∀ limit, first.isBelow limit = second.isBelow limit

theorem agrees_iff {first second : Ratio} :
    first.Agrees second ↔ first.perCore? = second.perCore? := by
  constructor
  · exact Agrees.perCore?
  · intro same
    refine ⟨same, ?_, ?_⟩
    · rw [Ratio.text, Ratio.text, same]
    · intro limit
      rw [Ratio.isBelow, Ratio.isBelow, same]

/-- The quotient is more than half a byte above whole mebibytes, but not so as division gives
it. -/
def LosesExcess (ratio : Ratio) : Prop :=
  ∃ whole : ℕ, (ratio.memory / ratio.cpu).toRat ≤ whole * mebibyte + 1 / 2 ∧
    whole * mebibyte + 1 / 2 < ratio.memory.toRat / ratio.cpu.toRat

/-- The totals have a quotient for which division is precise enough. -/
structure HasQuotient (ratio : Ratio) : Prop where
  memoryNonneg : 0 ≤ ratio.memory.toRat
  cpuPositive : 0 < ratio.cpu.toRat
  small : ratio.memory.toRat / ratio.cpu.toRat < 10 ^ 90

section Quotient

variable {ratio : Ratio} (hasQuotient : ratio.HasQuotient)
include hasQuotient

theorem HasQuotient.exists_perCore?_eq :
    ∃ mebibytes : ℕ, ratio.perCore? = some (mebibytes * mebibyte : ℤ) ∧
      ∀ bound : ℕ, mebibytes ≤ bound ↔
        (ratio.memory / ratio.cpu).toRat ≤ bound * mebibyte + 1 / 2 := by
  obtain ⟨found, isPerCore, nonneg, atMost⟩ := Ratio.exists_perCore?_eq hasQuotient.memoryNonneg
    hasQuotient.cpuPositive hasQuotient.small
  obtain ⟨mebibytes, rfl⟩ := Int.eq_ofNat_of_zero_le nonneg
  refine ⟨mebibytes, isPerCore, ?_⟩
  intro bound
  exact_mod_cast atMost bound

theorem HasQuotient.divide_le_of_le {whole : ℕ}
    (within : ratio.memory.toRat / ratio.cpu.toRat ≤ whole * mebibyte + 1 / 2) :
    (ratio.memory / ratio.cpu).toRat ≤ whole * mebibyte + 1 / 2 := by
  have near := Decimal.approximates_divide hasQuotient.memoryNonneg hasQuotient.cpuPositive
  have withinInt : ratio.memory.toRat / ratio.cpu.toRat ≤ (whole * mebibyte : ℤ) + 1 / 2 := by
    exact_mod_cast within
  exact_mod_cast near.le_add_half_of_small hasQuotient.small withinInt

/-- Division leaves out less than ten digits behind the point would show. -/
theorem HasQuotient.lt_of_divide_le {bound : ℚ}
    (within : (ratio.memory / ratio.cpu).toRat ≤ bound) :
    ratio.memory.toRat / ratio.cpu.toRat < bound + 1 / 10 ^ 10 := by
  have near := Decimal.approximates_divide hasQuotient.memoryNonneg hasQuotient.cpuPositive
  exact (near.lt_add_tiny hasQuotient.small).trans_le (add_le_add_left within _)

/-- Division does not lead from above half a byte over whole mebibytes to below it by a whole
mebibyte. -/
theorem HasQuotient.le_of_divide_le {whole other : ℕ}
    (above : whole * mebibyte + 1 / 2 < ratio.memory.toRat / ratio.cpu.toRat)
    (within : (ratio.memory / ratio.cpu).toRat ≤ other * mebibyte + 1 / 2) : whole ≤ other := by
  by_contra less
  have apart : (other : ℚ) + 1 ≤ whole := by exact_mod_cast not_le.mp less
  have close := hasQuotient.lt_of_divide_le within
  rw [mebibyte_cast] at above close
  linarith

theorem HasQuotient.not_losesExcess
    (apart : ∀ whole : ℕ, ratio.memory.toRat / ratio.cpu.toRat ≤ whole * mebibyte + 1 / 2 ∨
      whole * mebibyte + 1 / 2 + 1 / 10 ^ 10 ≤ ratio.memory.toRat / ratio.cpu.toRat) :
    ¬ratio.LosesExcess := by
  rintro ⟨whole, within, above⟩
  rcases apart whole with notAbove | farAbove
  · exact absurd above (not_lt.mpr notAbove)
  · exact absurd farAbove (not_le.mpr (hasQuotient.lt_of_divide_le within))

end Quotient

/-! ## One quotient, two ratios -/

section Compare

variable {first second : Ratio} (hasQuotient : first.HasQuotient)
  (alsoHasQuotient : second.HasQuotient)
  (same : first.memory.toRat / first.cpu.toRat = second.memory.toRat / second.cpu.toRat)
include hasQuotient alsoHasQuotient same

/-- Of two totals with one quotient, the first has no greater ratio unless division loses an excess
of the second one alone. -/
theorem HasQuotient.le_iff {mebibytes others : ℕ}
    (atMost : ∀ bound : ℕ, mebibytes ≤ bound ↔
      (first.memory / first.cpu).toRat ≤ bound * mebibyte + 1 / 2)
    (othersAtMost : ∀ bound : ℕ, others ≤ bound ↔
      (second.memory / second.cpu).toRat ≤ bound * mebibyte + 1 / 2) :
    mebibytes ≤ others ↔ (second.LosesExcess → first.LosesExcess) := by
  have othersWithin := (othersAtMost others).mp le_rfl
  constructor
  · rintro le ⟨whole, within, above⟩
    have leWhole := le.trans ((othersAtMost whole).mpr within)
    exact ⟨whole, (atMost whole).mp leWhole, same ▸ above⟩
  · intro loses
    rcases le_or_gt (second.memory.toRat / second.cpu.toRat) (others * mebibyte + 1 / 2) with
      within | above
    · rw [atMost]
      exact hasQuotient.divide_le_of_le (same ▸ within)
    · obtain ⟨whole, firstWithin, firstAbove⟩ := loses ⟨others, othersWithin, above⟩
      have wholeLe := alsoHasQuotient.le_of_divide_le (same ▸ firstAbove) othersWithin
      exact ((atMost whole).mpr firstWithin).trans wholeLe

/-- Totals with one quotient have one ratio exactly if division loses the excess of both or of
neither. -/
theorem HasQuotient.perCore?_eq_iff :
    first.perCore? = second.perCore? ↔ (first.LosesExcess ↔ second.LosesExcess) := by
  obtain ⟨mebibytes, isPerCore, atMost⟩ := hasQuotient.exists_perCore?_eq
  obtain ⟨others, alsoPerCore, othersAtMost⟩ := alsoHasQuotient.exists_perCore?_eq
  have notZero : (mebibyte : ℤ) ≠ 0 := by decide
  have sameIff : first.perCore? = second.perCore? ↔ mebibytes = others := by
    rw [isPerCore, alsoPerCore, Option.some.injEq, mul_left_inj' notZero, Nat.cast_inj]
  rw [sameIff, le_antisymm_iff, le_iff hasQuotient alsoHasQuotient same atMost othersAtMost,
    le_iff alsoHasQuotient hasQuotient same.symm othersAtMost atMost, and_comm]
  exact iff_iff_implies_and_implies.symm

end Compare

/-! ## Totals without CPU -/

theorem not_losesExcess_of_cpu {ratio : Ratio} (vanishes : ratio.cpu.toRat = 0) :
    ¬ratio.LosesExcess := by
  rintro ⟨whole, _, above⟩
  rw [vanishes, div_zero] at above
  exact absurd above (not_lt.mpr (by positivity))

/-- Totals have a quotient unless they are without CPU. -/
theorem IsNonneg.cpu_eq_zero_or_hasQuotient {ratio : Ratio} (nonneg : ratio.IsNonneg)
    (small : ratio.memory.toRat / ratio.cpu.toRat < 10 ^ 90) :
    ratio.cpu.toRat = 0 ∨ ratio.HasQuotient := by
  have memoryNonneg := (Decimal.coefficient_nonneg_iff _).mp nonneg.memory
  rcases ((Decimal.coefficient_nonneg_iff _).mp nonneg.cpu).eq_or_lt with vanishes | positive
  · exact .inl vanishes.symm
  · exact .inr ⟨memoryNonneg, positive, small⟩

theorem IsNonneg.not_losesExcess {ratio : Ratio} (nonneg : ratio.IsNonneg)
    (small : ratio.memory.toRat / ratio.cpu.toRat < 10 ^ 90)
    (apart : ∀ whole : ℕ, ratio.memory.toRat / ratio.cpu.toRat ≤ whole * mebibyte + 1 / 2 ∨
      whole * mebibyte + 1 / 2 + 1 / 10 ^ 10 ≤ ratio.memory.toRat / ratio.cpu.toRat) :
    ¬ratio.LosesExcess := by
  rcases nonneg.cpu_eq_zero_or_hasQuotient small with vanishes | hasQuotient
  · exact not_losesExcess_of_cpu vanishes
  · exact hasQuotient.not_losesExcess apart

/-- Multiples of totals agree with them exactly if division loses the excess of both or of
neither. -/
theorem IsNonneg.agrees_multiple_iff {first second : Ratio} {times : ℕ} (positive : 1 ≤ times)
    (nonneg : first.IsNonneg) (alsoNonneg : second.IsNonneg)
    (isCpu : first.cpu.toRat = times * second.cpu.toRat)
    (same : first.memory.toRat / first.cpu.toRat = second.memory.toRat / second.cpu.toRat)
    (small : second.memory.toRat / second.cpu.toRat < 10 ^ 90) :
    first.Agrees second ↔ (first.LosesExcess ↔ second.LosesExcess) := by
  rw [agrees_iff]
  rcases alsoNonneg.cpu_eq_zero_or_hasQuotient small with vanishes | alsoHasQuotient
  · have alsoVanishes : first.cpu.toRat = 0 := by rw [isCpu, vanishes, mul_zero]
    apply iff_of_true
    · rw [(perCore?_eq_none_iff first).mpr alsoVanishes.le,
        (perCore?_eq_none_iff second).mpr vanishes.le]
    · exact iff_of_false (not_losesExcess_of_cpu alsoVanishes) (not_losesExcess_of_cpu vanishes)
  · have cpuPositive : 0 < first.cpu.toRat := by
      rw [isCpu]
      exact mul_pos (by exact_mod_cast positive) alsoHasQuotient.cpuPositive
    have hasQuotient : first.HasQuotient :=
      ⟨(Decimal.coefficient_nonneg_iff _).mp nonneg.memory, cpuPositive, same ▸ small⟩
    exact hasQuotient.perCore?_eq_iff alsoHasQuotient same

end Ratio

namespace Recording

/-! ## Replicas of a template -/

/-- A recording adds up a number of replicas of a template: those of a deployment or of a stateful
set. -/
inductive Runs (template : PodSpec) (replicas : Nat) : Recording → Prop
  | deployment {object : Deployment} {spec : ReplicaSpec} :
      object.spec = some spec → spec.template = some template → spec.count = replicas →
      Runs template replicas (.deployment object)
  | statefulSet {object : StatefulSet} {spec : ReplicaSpec} :
      object.spec = some spec → spec.template = some template → spec.count = replicas →
      Runs template replicas (.statefulSet object)

section Runs

variable {template : PodSpec} {replicas : Nat} {recording : Recording}

/-- The replicas of a template are recorded as so many times what it requests. -/
theorem Runs.records (runs : recording.Runs template replicas) :
    recording.isCountable = template.isCountable ∧ recording.count = replicas ∧
      recording.requests = template.demands := by
  cases runs with
  | deployment isSpec isTemplate counts =>
      simp [Recording.isCountable, count, requests, isSpec, isTemplate, counts]
  | statefulSet isSpec isTemplate counts =>
      simp [Recording.isCountable, count, requests, isSpec, isTemplate, counts]

theorem Runs.on_change (runs : recording.Runs template replicas)
    (countable : template.isCountable = true) :
    recording.change.on .zero = (.ok (), Ratio.zero.record replicas template.demands) := by
  rcases runs.records with ⟨isCountable, isCount, isRequests⟩
  rw [recording.on_change_of_isCountable .zero (isCountable.trans countable), isCount, isRequests]

/-- The totals of some replicas are so many times those of the template. -/
theorem Runs.toRat_after (runs : recording.Runs template replicas)
    (countable : template.isCountable = true) :
    (after .zero [recording]).cpu.toRat =
        replicas * (template.demands.map fun demand => max 0 demand.cpu.toRat).sum ∧
      (after .zero [recording]).memory.toRat =
        replicas * (template.demands.map fun demand => max 0 demand.memory.toRat).sum := by
  have isTotal : after .zero [recording] = Ratio.zero.record replicas template.demands := by
    rw [after_cons, runs.on_change countable]
    rfl
  have zeroCpu : Ratio.zero.cpu.toRat = 0 := Decimal.toRat_zero
  have zeroMemory : Ratio.zero.memory.toRat = 0 := Decimal.toRat_zero
  rw [isTotal, Ratio.toRat_cpu_record, Ratio.toRat_memory_record, zeroCpu, zeroMemory, zero_add,
    zero_add]
  exact ⟨rfl, rfl⟩

end Runs

/-- The totals of several replicas of a template are exactly so many times those of one.  Below
ten to the power of ninety, their ratio is the same if division loses the excess of both or of
neither quotient, and only then.  So it is the same unless the quotient is above half a byte over
whole mebibytes by no more than a tiny part of a byte. -/
theorem agrees_replicas {template : PodSpec} {replicas : Nat} {one many : Recording}
    (countable : template.isCountable = true) (positive : 1 ≤ replicas)
    (runsOne : one.Runs template 1) (runsMany : many.Runs template replicas) :
    let single := after .zero [one]
    let total := after .zero [many]
    let quotient := single.memory.toRat / single.cpu.toRat
    ((one.change.on .zero).1 = .ok () ∧ (many.change.on .zero).1 = .ok ()) ∧
      (total.cpu.toRat = replicas * single.cpu.toRat ∧
        total.memory.toRat = replicas * single.memory.toRat) ∧
      (quotient < 10 ^ 90 →
        (total.Agrees single ↔ (total.LosesExcess ↔ single.LosesExcess)) ∧
          ((∀ whole : ℕ, quotient ≤ whole * Ratio.mebibyte + 1 / 2 ∨
              whole * Ratio.mebibyte + 1 / 2 + 1 / 10 ^ 10 ≤ quotient) →
            total.Agrees single)) := by
  intro single total quotient
  obtain ⟨oneCpu, oneMemory⟩ := runsOne.toRat_after countable
  obtain ⟨manyCpu, manyMemory⟩ := runsMany.toRat_after countable
  rw [Nat.cast_one, one_mul] at oneCpu oneMemory
  rw [← oneCpu] at manyCpu
  rw [← oneMemory] at manyMemory
  refine ⟨⟨?_, ?_⟩, ⟨manyCpu, manyMemory⟩, ?_⟩
  · rw [runsOne.on_change countable]
  · rw [runsMany.on_change countable]
  intro small
  have replicasPositive : (0 : ℚ) < replicas := by exact_mod_cast positive
  have same : total.memory.toRat / total.cpu.toRat = quotient := by
    rw [manyCpu, manyMemory, mul_div_mul_left _ _ replicasPositive.ne']
  have singleNonneg : single.IsNonneg := isNonneg_after Ratio.isNonneg_zero
  have totalNonneg : total.IsNonneg := isNonneg_after Ratio.isNonneg_zero
  have agrees := totalNonneg.agrees_multiple_iff positive singleNonneg manyCpu same small
  refine ⟨agrees, ?_⟩
  intro apart
  have singleKeeps := singleNonneg.not_losesExcess small apart
  rw [agrees]
  rw [← same] at small apart
  exact iff_of_false (totalNonneg.not_losesExcess small apart) singleKeeps

/-- A deployment with some replicas of a template. -/
def replicasOf (template : PodSpec) (replicas : Nat) : Recording :=
  .deployment ⟨.empty, some ⟨some replicas, none, some template⟩⟩

theorem runs_replicasOf (template : PodSpec) (replicas : Nat) :
    (replicasOf template replicas).Runs template replicas :=
  .deployment rfl rfl rfl

/-! ### Four replicas of two containers -/

/-- A template with five gibibytes for one core and a quarter. -/
def sampleTemplate : PodSpec :=
  ⟨[sampleContainer "1" "4Gi", sampleContainer "250m" "1Gi"], none⟩

theorem after_zero_sampleTemplate :
    (after .zero [replicasOf sampleTemplate 1]).cpu.toRat = 5 / 4 ∧
      (after .zero [replicasOf sampleTemplate 1]).memory.toRat = 4096 * 5 / 4 * Ratio.mebibyte := by
  have totals : after .zero [replicasOf sampleTemplate 1] = ⟨⟨125, 2⟩, ⟨5368709120, 0⟩⟩ := by
    decide +kernel
  rw [totals, Ratio.mebibyte_cast]
  norm_num [Decimal.toRat]

/-- The quotient of the sample is whole mebibytes, so four replicas have the ratio of one. -/
theorem agrees_sampleTemplate :
    sampleTemplate.isCountable = true ∧ 1 ≤ 4 ∧
      (replicasOf sampleTemplate 1).Runs sampleTemplate 1 ∧
      (replicasOf sampleTemplate 4).Runs sampleTemplate 4 ∧
      (after .zero [replicasOf sampleTemplate 1]).memory.toRat /
          (after .zero [replicasOf sampleTemplate 1]).cpu.toRat < 10 ^ 90 ∧
      (after .zero [replicasOf sampleTemplate 4]).Agrees
        (after .zero [replicasOf sampleTemplate 1]) := by
  have countable : sampleTemplate.isCountable = true := by decide +kernel
  obtain ⟨isCpu, isMemory⟩ := after_zero_sampleTemplate
  obtain ⟨_, _, agrees⟩ := agrees_replicas countable (by decide : 1 ≤ 4)
    (runs_replicasOf sampleTemplate 1) (runs_replicasOf sampleTemplate 4)
  have isQuotient : (after .zero [replicasOf sampleTemplate 1]).memory.toRat /
      (after .zero [replicasOf sampleTemplate 1]).cpu.toRat = 4096 * Ratio.mebibyte := by
    rw [isCpu, isMemory]
    ring
  have small : (after .zero [replicasOf sampleTemplate 1]).memory.toRat /
      (after .zero [replicasOf sampleTemplate 1]).cpu.toRat < 10 ^ 90 := by
    rw [isQuotient, Ratio.mebibyte_cast]
    norm_num
  refine ⟨countable, by decide, runs_replicasOf _ _, runs_replicasOf _ _, small, ?_⟩
  apply (agrees small).2
  intro whole
  rw [isQuotient, Ratio.mebibyte_cast]
  rcases Nat.lt_or_ge whole 4096 with less | le
  · have apart : (whole : ℚ) + 1 ≤ 4096 := by exact_mod_cast less
    right
    linarith
  · have within : (4096 : ℚ) ≤ whole := by exact_mod_cast le
    left
    linarith

/-! ### Half a byte and next to nothing above a mebibyte -/

/-- A template with two cores and a byte and next to nothing more than two mebibytes. -/
def sampleExcess : PodSpec :=
  ⟨[sampleContainer "2000m" "2097153", sampleContainer "0" "2e-94"], none⟩

/-- The ratio of one replica is a mebibyte above that of two, although the quotient is the same. -/
theorem exists_replicas_not_agrees :
    ∃ (template : PodSpec) (replicas : Nat) (one many : Recording),
      template.isCountable = true ∧ 1 ≤ replicas ∧ one.Runs template 1 ∧
        many.Runs template replicas ∧
        (after .zero [one]).memory.toRat / (after .zero [one]).cpu.toRat < 10 ^ 90 ∧
        (after .zero [one]).perCore? = some 2097152 ∧
        (after .zero [many]).perCore? = some 1048576 ∧
        (after .zero [one]).text = "2Mi/core" ∧ (after .zero [many]).text = "1Mi/core" ∧
        (after .zero [one]).isBelow (.ofInt 2097152) = false ∧
        (after .zero [many]).isBelow (.ofInt 2097152) = true := by
  refine ⟨sampleExcess, 2, replicasOf sampleExcess 1, replicasOf sampleExcess 2,
    by decide +kernel, by decide, runs_replicasOf _ _, runs_replicasOf _ _, ?_,
    by decide +kernel, by decide +kernel, by decide +kernel, by decide +kernel,
    by decide +kernel, by decide +kernel⟩
  have totals : after .zero [replicasOf sampleExcess 1] =
      ⟨⟨2, 0⟩, ⟨2097153 * 10 ^ 94 + 2, 94⟩⟩ := by
    decide +kernel
  rw [totals]
  norm_num [Decimal.toRat]

end Recording

end Tenancy
