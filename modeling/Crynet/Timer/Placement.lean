import Crynet.Foundation.Block
import Crynet.Foundation.LowMask
import Crynet.Timer.TimerQueue
import Mathlib.Tactic.FinCases
import Mathlib.Tactic.NormNum
import Mathlib.Tactic.SplitIfs

/-!
# Where the wheel keeps an entry

The bucket of an entry is a function of its expire tick and the current tick.
`seat` and `carry` restate the bit operations of `add_entry` and `advance_tick`
with divisions, and the lemmas below say what one tick changes: an entry that
has not expired keeps its seat unless it sits in the bucket that is cascaded,
or it waits at level three for a block whose digit is zero.
-/

namespace Crynet

namespace TimerQueue

/-- Ticks covered by one bucket of the top level. -/
abbrev topSpan : Nat := 67108864

/-- The bucket for an expire tick, by blocks of 2^8, 2^14, 2^20, 2^26 ticks. -/
def seat (expire current : Nat) : BucketIndex :=
  if expire / 256 = current / 256 then
    .near (Fin.ofNat 256 expire)
  else if expire / 16384 = current / 16384 then
    .level 0 (Fin.ofNat 64 (expire / 256))
  else if expire / 1048576 = current / 1048576 then
    .level 1 (Fin.ofNat 64 (expire / 16384))
  else if expire / topSpan = current / topSpan then
    .level 2 (Fin.ofNat 64 (expire / 1048576))
  else
    .level 3 (Fin.ofNat 64 (expire / topSpan))

/-- The bucket cascaded on reaching a tick. -/
def carry (current : Nat) : Option BucketIndex :=
  if current = 0 then
    some (.level 3 0)
  else if current % 256 ≠ 0 then
    none
  else if current / 256 % 64 ≠ 0 then
    some (.level 0 (Fin.ofNat 64 (current / 256)))
  else if current / 16384 % 64 ≠ 0 then
    some (.level 1 (Fin.ofNat 64 (current / 16384)))
  else if current / 1048576 % 64 ≠ 0 then
    some (.level 2 (Fin.ofNat 64 (current / 1048576)))
  else if current / topSpan % 64 ≠ 0 then
    some (.level 3 (Fin.ofNat 64 (current / topSpan)))
  else
    none

theorem nearIndex_eq (tick : UInt64) :
    nearIndex tick = Fin.ofNat 256 tick.toNat := by
  have masked : (tick &&& nearMask).toNat = tick.toNat % 2 ^ 8 :=
    LowMask.word_and_toNat 8 nearMask (by decide) tick
  apply Fin.ext
  simp only [nearIndex, masked, Fin.ofNat]
  omega

private theorem levelIndex_eq (level : Fin 4) (tick : UInt64) :
    levelIndex level tick =
      Fin.ofNat 64 (tick.toNat / 2 ^ (8 + level.val * 6)) := by
  have shifted :
      (tick >>> (nearShift + UInt64.ofNat level * levelShift)).toNat =
        tick.toNat / 2 ^ (8 + level.val * 6) := by
    apply LowMask.word_shiftRight_toNat
    fin_cases level <;> decide
  have masked := LowMask.word_and_toNat 6 levelMask (by decide)
    (tick >>> (nearShift + UInt64.ofNat level * levelShift))
  rw [shifted] at masked
  apply Fin.ext
  simp only [levelIndex, masked, Fin.ofNat]
  omega

private theorem findLevel_eq (expireTick currentTick : UInt64) :
    findLevel expireTick currentTick (levelCount - 1) 0
        (nearSize <<< levelShift) =
      if expireTick.toNat / 16384 = currentTick.toNat / 16384 then 0
      else if expireTick.toNat / 1048576 = currentTick.toNat / 1048576 then 1
      else if expireTick.toNat / topSpan = currentTick.toNat / topSpan then 2
      else 3 := by
  have first := LowMask.word_or_eq_or_iff 14
    ((nearSize <<< levelShift) - 1) (by decide)
    expireTick currentTick
  have second := LowMask.word_or_eq_or_iff 20
    ((nearSize <<< levelShift <<< levelShift) - 1)
    (by decide) expireTick currentTick
  have third := LowMask.word_or_eq_or_iff 26
    ((nearSize <<< levelShift <<< levelShift <<< levelShift) - 1)
    (by decide) expireTick currentTick
  show findLevel expireTick currentTick 3 0 (nearSize <<< levelShift) = _
  simp only [findLevel, first, second, third]
  rfl

/-- The bucket `add_entry` chooses, as a function of the two tick values. -/
theorem bucketFor_eq (expireTick currentTick : UInt64) :
    bucketFor expireTick currentTick =
      seat expireTick.toNat currentTick.toNat := by
  have near : expireTick ||| nearMask = currentTick ||| nearMask ↔
      expireTick.toNat / 256 = currentTick.toNat / 256 :=
    LowMask.word_or_eq_or_iff 8 _ (by decide) expireTick currentTick
  have byLevel : ∀ level : Fin 4,
      levelIndex level expireTick =
        Fin.ofNat 64 (expireTick.toNat / 2 ^ (8 + level.val * 6)) :=
    fun level => levelIndex_eq level expireTick
  unfold bucketFor seat
  simp only [near, findLevel_eq]
  split_ifs
  · rw [nearIndex_eq]
  · exact congrArg (BucketIndex.level 0) (byLevel 0)
  · exact congrArg (BucketIndex.level 1) (byLevel 1)
  · exact congrArg (BucketIndex.level 2) (byLevel 2)
  · exact congrArg (BucketIndex.level 3) (byLevel 3)

/-- The bucket `advance_tick` cascades, as a function of the tick value. -/
theorem carryBucket_eq (currentTick : UInt64) :
    carryBucket currentTick = carry currentTick.toNat := by
  have zero : currentTick = 0 ↔ currentTick.toNat = 0 := by
    rw [← UInt64.toNat_inj]
    rfl
  have first : currentTick &&& (nearSize - 1) ≠ 0 ↔
      currentTick.toNat % 256 ≠ 0 :=
    LowMask.word_and_ne_zero_iff 8 _ (by decide) currentTick
  have second : currentTick &&& (nearSize <<< levelShift - 1) ≠ 0 ↔
      currentTick.toNat % 16384 ≠ 0 :=
    LowMask.word_and_ne_zero_iff 14 _ (by decide) currentTick
  have third :
      currentTick &&& (nearSize <<< levelShift <<< levelShift - 1) ≠ 0 ↔
        currentTick.toNat % 1048576 ≠ 0 :=
    LowMask.word_and_ne_zero_iff 20 _ (by decide) currentTick
  have fourth :
      currentTick &&&
          (nearSize <<< levelShift <<< levelShift <<< levelShift - 1) ≠ 0 ↔
        currentTick.toNat % topSpan ≠ 0 :=
    LowMask.word_and_ne_zero_iff 26 _ (by decide) currentTick
  have digit : ∀ word : UInt64,
      (word &&& levelMask).toNat = word.toNat % 64 :=
    fun word => LowMask.word_and_toNat 6 _ (by decide) word
  have digitNonzero : ∀ word : UInt64,
      word &&& levelMask ≠ 0 ↔ word.toNat % 64 ≠ 0 :=
    fun word => LowMask.word_and_ne_zero_iff 6 _ (by decide) word
  have near : (currentTick >>> nearShift).toNat = currentTick.toNat / 256 :=
    LowMask.word_shiftRight_toNat 8 currentTick (by decide)
  have up : ∀ word : UInt64,
      (word >>> levelShift).toNat = word.toNat / 64 :=
    fun word => LowMask.word_shiftRight_toNat 6 word (by decide)
  have index : ∀ value : Nat,
      Fin.ofNat 64 (value % 64) = Fin.ofNat 64 value := by
    intro value
    simp [Fin.ofNat]
  unfold carryBucket carry
  show (if currentTick = 0 then _ else
    carryLoop currentTick 4 0 nearSize (currentTick >>> nearShift)) = _
  simp only [carryLoop, zero, first, second, third, fourth, digitNonzero,
    digit, near, up, index, Nat.div_div_eq_div_mul, Nat.reduceMul]
  generalize currentTick.toNat = current
  by_cases start : current = 0
  · simp only [start, if_true]
    rfl
  by_cases low : current % 256 = 0
  · have second : current / 256 % 64 = 0 → current % 16384 = 0 := by omega
    by_cases digit₀ : current / 256 % 64 = 0
    · have third : current / 16384 % 64 = 0 → current % 1048576 = 0 := by
        omega
      by_cases digit₁ : current / 16384 % 64 = 0
      · have fourth : current / 1048576 % 64 = 0 →
            current % 67108864 = 0 := by omega
        by_cases digit₂ : current / 1048576 % 64 = 0
        · simp [topSpan, start, low, digit₀, digit₁, digit₂, second digit₀,
            third digit₁, fourth digit₂]
        · simp [start, low, digit₀, digit₁, digit₂, second digit₀,
            third digit₁]
      · simp [start, low, digit₀, digit₁, second digit₀]
        rfl
    · simp [start, low, digit₀]
  · simp [start, low]

/-- Ticks covered by one bucket of a level. -/
def levelSpan (level : Fin 4) : Nat := 2 ^ (8 + level.val * 6)

private theorem seat_eq_near_iff {expire current : Nat} {index : Fin 256} :
    seat expire current = .near index ↔
      expire / 256 = current / 256 ∧ index = Fin.ofNat 256 expire := by
  unfold seat
  split_ifs <;> simp [*, eq_comm]

private theorem level_cases (level : Fin 4) :
    level = 0 ∨ level = 1 ∨ level = 2 ∨ level = 3 := by
  revert level
  decide

theorem seat_eq_level_iff
    {expire current : Nat} {level : Fin 4} {index : Fin 64} :
    seat expire current = .level level index ↔
      expire / levelSpan level ≠ current / levelSpan level ∧
        (level = 3 ∨ expire / (levelSpan level * 64) =
          current / (levelSpan level * 64)) ∧
        index = Fin.ofNat 64 (expire / levelSpan level) := by
  have first : expire / 256 = current / 256 →
      expire / 16384 = current / 16384 := by omega
  have second : expire / 16384 = current / 16384 →
      expire / 1048576 = current / 1048576 := by omega
  have third : expire / 1048576 = current / 1048576 →
      expire / topSpan = current / topSpan := by
    unfold topSpan
    omega
  constructor
  · intro placed
    unfold seat at placed
    split_ifs at placed with near one two three
    · cases placed
      exact ⟨near, Or.inr one, rfl⟩
    · cases placed
      exact ⟨one, Or.inr two, rfl⟩
    · cases placed
      exact ⟨two, Or.inr three, rfl⟩
    · cases placed
      exact ⟨three, Or.inl rfl, rfl⟩
  · rintro ⟨apart, together, rfl⟩
    unfold seat
    rcases level_cases level with rfl | rfl | rfl | rfl
    · have inside := together.resolve_left (by decide)
      have near : expire / 256 ≠ current / 256 := apart
      rw [if_neg near]
      exact if_pos inside
    · have inside := together.resolve_left (by decide)
      have one : expire / 16384 ≠ current / 16384 := apart
      rw [if_neg fun near => one (first near), if_neg one]
      exact if_pos inside
    · have inside := together.resolve_left (by decide)
      have two : expire / 1048576 ≠ current / 1048576 := apart
      rw [if_neg fun near => two (second (first near)),
        if_neg fun one => two (second one), if_neg two]
      exact if_pos inside
    · rw [if_neg fun near => apart (third (second (first near))),
        if_neg fun one => apart (third (second one)),
        if_neg fun two => apart (third two)]
      exact if_neg apart

theorem carry_eq_level_iff {current : Nat} (positive : current ≠ 0)
    {level : Fin 4} {index : Fin 64} :
    carry current = some (.level level index) ↔
      current % levelSpan level = 0 ∧
        current / levelSpan level % 64 ≠ 0 ∧
        index = Fin.ofNat 64 (current / levelSpan level) := by
  have first : current % 16384 = 0 ↔
      current % 256 = 0 ∧ current / 256 % 64 = 0 := by omega
  have second : current % 1048576 = 0 ↔
      current % 16384 = 0 ∧ current / 16384 % 64 = 0 := by omega
  have third : current % topSpan = 0 ↔
      current % 1048576 = 0 ∧ current / 1048576 % 64 = 0 := by
    unfold topSpan
    omega
  unfold carry
  rw [if_neg positive]
  constructor
  · intro carried
    split_ifs at carried with low one two three four
    · cases carried
      exact ⟨not_not.mp low, one, rfl⟩
    · cases carried
      exact ⟨first.mpr ⟨not_not.mp low, not_not.mp one⟩, two, rfl⟩
    · cases carried
      have aligned := first.mpr ⟨not_not.mp low, not_not.mp one⟩
      exact ⟨second.mpr ⟨aligned, not_not.mp two⟩, three, rfl⟩
    · cases carried
      have aligned := first.mpr ⟨not_not.mp low, not_not.mp one⟩
      have higher := second.mpr ⟨aligned, not_not.mp two⟩
      exact ⟨third.mpr ⟨higher, not_not.mp three⟩, four, rfl⟩
  · rintro ⟨aligned, digit, rfl⟩
    rcases level_cases level with rfl | rfl | rfl | rfl
    · have low : current % 256 = 0 := aligned
      rw [if_neg (not_not.mpr low)]
      exact if_pos digit
    · obtain ⟨low, one⟩ := first.mp aligned
      rw [if_neg (not_not.mpr low), if_neg (not_not.mpr one)]
      exact if_pos digit
    · obtain ⟨lower, two⟩ := second.mp aligned
      obtain ⟨low, one⟩ := first.mp lower
      rw [if_neg (not_not.mpr low), if_neg (not_not.mpr one),
        if_neg (not_not.mpr two)]
      exact if_pos digit
    · obtain ⟨higher, three⟩ := third.mp aligned
      obtain ⟨lower, two⟩ := second.mp higher
      obtain ⟨low, one⟩ := first.mp lower
      rw [if_neg (not_not.mpr low), if_neg (not_not.mpr one),
        if_neg (not_not.mpr two), if_neg (not_not.mpr three)]
      exact if_pos digit

/-- An entry that has not expired keeps its seat through a tick that does not
cascade its bucket, unless it waits in bucket zero of the top level. -/
theorem seat_stable {expire current : Nat} (pending : current < expire)
    (waiting : seat expire current ≠ .level 3 0)
    (kept : carry (current + 1) ≠ some (seat expire current)) :
    seat expire (current + 1) = seat expire current := by
  cases placed : seat expire current with
  | near index =>
      obtain ⟨same, indexed⟩ := seat_eq_near_iff.mp placed
      exact seat_eq_near_iff.mpr ⟨Block.div_succ_eq pending same, indexed⟩
  | level level index =>
      obtain ⟨apart, together, indexed⟩ := seat_eq_level_iff.mp placed
      have stillTogether : level = 3 ∨ expire / (levelSpan level * 64) =
          (current + 1) / (levelSpan level * 64) :=
        together.imp_right (Block.div_succ_eq pending)
      by_cases stillApart :
          expire / levelSpan level ≠ (current + 1) / levelSpan level
      · exact seat_eq_level_iff.mpr ⟨stillApart, stillTogether, indexed⟩
      · have reached :
            expire / levelSpan level = (current + 1) / levelSpan level :=
          not_not.mp stillApart
        have entered :
            (current + 1) / levelSpan level ≠ current / levelSpan level := by
          rw [← reached]
          exact apart
        have digit : (current + 1) / levelSpan level % 64 ≠ 0 := by
          rcases together with top | inside
          · rw [← reached]
            intro zero
            apply waiting
            rw [placed, top, indexed, top]
            rw [top] at zero
            simp [Fin.ofNat, zero]
          · have within := Block.div_succ_eq pending inside
            exact Block.digit_ne_zero entered (within.symm.trans inside)
        exfalso
        apply kept
        rw [placed]
        apply (carry_eq_level_iff (Nat.succ_ne_zero current)).mpr
        exact ⟨Block.aligned_of_entered entered, digit, by
          rw [indexed, reached]⟩

private theorem carry_ne_near (current : Nat) (index : Fin 256) :
    carry current ≠ some (.near index) := by
  unfold carry
  split_ifs <;> simp

/-- A block of a lower level lies inside one block of the top level. -/
theorem div_topSpan_eq {level : Fin 4} {left right : Nat} (lower : level ≠ 3)
    (together : left / (levelSpan level * 64) =
      right / (levelSpan level * 64)) :
    left / topSpan = right / topSpan := by
  have divides : levelSpan level * 64 ∣ topSpan := by
    fin_cases level
    · exact ⟨4096, rfl⟩
    · exact ⟨64, rfl⟩
    · exact ⟨1, rfl⟩
    · exact absurd rfl lower
  obtain ⟨factor, equality⟩ := divides
  rw [equality, ← Nat.div_div_eq_div_mul left (levelSpan level * 64) factor,
    ← Nat.div_div_eq_div_mul right (levelSpan level * 64) factor, together]

/-- A cascaded entry comes back to its bucket exactly when the current tick is
not in its top-level block. -/
theorem seat_cascaded {expire current : Nat} (pending : current < expire)
    (cascaded : carry (current + 1) = some (seat expire current)) :
    seat expire (current + 1) = seat expire current ↔
      expire / topSpan ≠ (current + 1) / topSpan := by
  cases placed : seat expire current with
  | near index =>
      rw [placed] at cascaded
      exact absurd cascaded (carry_ne_near _ _)
  | level level index =>
      rw [placed] at cascaded
      obtain ⟨apart, together, indexed⟩ := seat_eq_level_iff.mp placed
      obtain ⟨aligned, digit, carried⟩ :=
        (carry_eq_level_iff (Nat.succ_ne_zero current)).mp cascaded
      by_cases top : level = 3
      · subst top
        rw [seat_eq_level_iff]
        constructor
        · exact fun returned => returned.1
        · exact fun elsewhere => ⟨elsewhere, Or.inl rfl, indexed⟩
      · have inside := Block.div_succ_eq pending (together.resolve_left top)
        have sameDigit : expire / levelSpan level % 64 =
            (current + 1) / levelSpan level % 64 := by
          have equality := indexed.symm.trans carried
          simpa [Fin.ofNat] using equality
        have outer : expire / levelSpan level / 64 =
            (current + 1) / levelSpan level / 64 := by
          rw [Nat.div_div_eq_div_mul, Nat.div_div_eq_div_mul]
          exact inside
        have reached :
            expire / levelSpan level = (current + 1) / levelSpan level := by
          omega
        have sameTop := div_topSpan_eq top inside
        constructor
        · intro returned
          exact absurd reached (seat_eq_level_iff.mp returned).1
        · intro elsewhere
          exact absurd sameTop elsewhere

/-- Only entries of the top level can come back. -/
theorem top_of_returned {expire current : Nat} (pending : current < expire)
    (cascaded : carry (current + 1) = some (seat expire current))
    (returned : seat expire (current + 1) = seat expire current) :
    ∃ index, seat expire current = .level 3 index := by
  have elsewhere := (seat_cascaded pending cascaded).mp returned
  cases placed : seat expire current with
  | near index =>
      rw [placed] at cascaded
      exact absurd cascaded (carry_ne_near _ _)
  | level level index =>
      obtain ⟨apart, together, indexed⟩ := seat_eq_level_iff.mp placed
      rcases together with top | inside
      · exact ⟨index, by rw [top]⟩
      · by_cases top : level = 3
        · exact ⟨index, by rw [top]⟩
        · exfalso
          exact elsewhere
            (div_topSpan_eq top (Block.div_succ_eq pending inside))

/-- Bucket zero of the top level is entered only from outside the wheel. -/
theorem seat_ne_idle {expire current : Nat} (pending : current < expire)
    (elsewhere : seat expire current ≠ .level 3 0) :
    seat expire (current + 1) ≠ .level 3 0 := by
  intro entered
  obtain ⟨apart, _, indexed⟩ := seat_eq_level_iff.mp entered
  have apartBefore :
      expire / levelSpan 3 ≠ current / levelSpan 3 := by
    intro same
    exact apart (Block.div_succ_eq pending same)
  exact elsewhere (seat_eq_level_iff.mpr ⟨apartBefore, Or.inl rfl, indexed⟩)

/-- What bucket zero of the top level is entered with. -/
theorem seat_eq_idle_iff (expire current : Nat) :
    seat expire current = .level 3 0 ↔
      expire / topSpan ≠ current / topSpan ∧ expire / topSpan % 64 = 0 := by
  rw [seat_eq_level_iff]
  constructor
  · rintro ⟨apart, _, indexed⟩
    exact ⟨apart, (congrArg Fin.val indexed).symm⟩
  · rintro ⟨apart, zero⟩
    refine ⟨apart, Or.inl rfl, ?_⟩
    apply Fin.ext
    exact zero.symm

/-- In the first lap no entry goes to bucket zero of the top level. -/
theorem seat_ne_idle_of_small {expire current : Nat}
    (unexpired : current ≤ expire) (small : expire < 2 ^ 32) :
    seat expire current ≠ .level 3 0 := by
  intro idle
  obtain ⟨apart, digit⟩ := (seat_eq_idle_iff expire current).mp idle
  have few : expire / topSpan < 64 :=
    (Nat.div_lt_iff_lt_mul (by decide)).mpr small
  rw [Nat.mod_eq_of_lt few] at digit
  have behind : current / topSpan ≤ expire / topSpan :=
    Nat.div_le_div_right unexpired
  rw [digit] at apart behind
  exact apart (Nat.le_zero.mp behind).symm

theorem seat_self (tick : Nat) :
    seat tick tick = .near (Fin.ofNat 256 tick) :=
  seat_eq_near_iff.mpr ⟨rfl, rfl⟩

/-- An entry that sits in the bucket of the current tick expires now. -/
theorem eq_of_seat_current {expire current : Nat}
    (here : seat expire current = .near (Fin.ofNat 256 current)) :
    expire = current := by
  obtain ⟨same, indexed⟩ := seat_eq_near_iff.mp here
  have sameLow : current % 256 = expire % 256 := by
    simpa [Fin.ofNat] using indexed
  omega

end TimerQueue

end Crynet
