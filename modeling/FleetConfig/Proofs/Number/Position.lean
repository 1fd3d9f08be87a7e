import FleetConfig.Number.Numeral
import FleetConfig.Proofs.Number.Rounding

/-!
# The number line

Every number other than not-a-number has a position on the number line with its two
ends.  Numbers of both kinds are compared by their positions, so that they are
ordered like the integers with something below and something above them.
-/

namespace FleetConfig.Number

namespace Position

/-- Where a position stands among the integers and the two ends. -/
def rank : Position → WithBot (WithTop ℤ)
  | .below =>
      ⊥
  | .units count =>
      ((count : WithTop ℤ) : WithBot (WithTop ℤ))
  | .above =>
      ((⊤ : WithTop ℤ) : WithBot (WithTop ℤ))

theorem rank_injective :
    Function.Injective rank := by
  intro left right same
  cases left <;> cases right <;> simp_all [rank]

/-- One position lies before another exactly if it stands lower. -/
theorem precedes_iff
    {left right : Position} :
    left.precedes right = true ↔ left.rank < right.rank := by
  have inside :
      ∀ count : ℤ, (units count).rank < above.rank :=
    fun count => WithBot.coe_lt_coe.mpr (WithTop.coe_lt_top count)
  cases left <;> cases right <;> simp_all [precedes, rank]

/-- Integers are ordered as their places. -/
theorem strictMono_rank_units :
    StrictMono fun value : ℤ => (units (value * Binary64.unitsInOne)).rank := by
  intro left right below
  have positive := Binary64.unitsInOne_pos
  generalize Binary64.unitsInOne = one at *
  refine WithBot.coe_lt_coe.mpr (WithTop.coe_lt_coe.mpr ?_)
  exact Int.mul_lt_mul_of_pos_right below (Int.natCast_pos.mpr positive)

end Position

variable {left right : Number} {leftAt rightAt : Position}

theorem position?_eq_none_iff
    {number : Number} :
    number.position? = none ↔ number = .double .nan := by
  cases number with
  | integer value =>
      exact ⟨nofun, nofun⟩
  | double value =>
      cases value with
      | nan =>
          exact ⟨fun _ => rfl, fun _ => rfl⟩
      | infinite negative =>
          exact ⟨nofun, nofun⟩
      | finite negative magnitude =>
          exact ⟨nofun, nofun⟩

theorem exists_position
    {number : Number}
    (notNan : number ≠ .double .nan) :
    ∃ position, number.position? = some position :=
  Option.ne_none_iff_exists'.mp (mt position?_eq_none_iff.mp notNan)

/-- Numbers are equal in value exactly if they have the same position. -/
theorem equal_iff
    (isLeft : left.position? = some leftAt)
    (isRight : right.position? = some rightAt) :
    left.equal right = true ↔ leftAt = rightAt := by
  rw [equal, related, isLeft, isRight]
  exact beq_iff_eq

theorem equal_comm
    (left right : Number) :
    left.equal right = right.equal left := by
  unfold equal related
  cases left.position? <;> cases right.position? <;>
    simp [Bool.beq_eq_decide_eq, eq_comm]

theorem less_iff
    (isLeft : left.position? = some leftAt)
    (isRight : right.position? = some rightAt) :
    left.less right = true ↔ leftAt.rank < rightAt.rank := by
  rw [less, related, isLeft, isRight]
  exact Position.precedes_iff

theorem lessOrEqual_iff
    (isLeft : left.position? = some leftAt)
    (isRight : right.position? = some rightAt) :
    left.lessOrEqual right = true ↔ leftAt.rank ≤ rightAt.rank := by
  rw [lessOrEqual, Bool.or_eq_true, less_iff isLeft isRight,
    equal_iff isLeft isRight, le_iff_lt_or_eq,
    Position.rank_injective.eq_iff]

end FleetConfig.Number
