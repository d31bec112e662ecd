import Mathlib.Data.String.Basic
import Promptline.Function.Comparison
import Promptline.Proofs.Number.Place

/-!
# The order of values

Values compare within a kind: as truth values, as numbers by their exact values, or as texts.  Nil
and missing values belong to every kind, as its zero.  What two values are compared as decides as in
the linear order of the kind; and three values of which each two compare have a kind in common, so
that the results for all of them come from one linear order.
-/

namespace Promptline

/-- The kinds of values that compare. -/
inductive Kind
  /-- Truth values, which can only be equal or not. -/
  | truth
  /-- Integers and doubles. -/
  | number
  /-- Texts. -/
  | text
  deriving DecidableEq

namespace Kind

/-- What the values of a kind are compared as. -/
def Measure : Kind → Type
  | truth => Bool
  | number => Number.Extended
  | text => String

instance (kind : Kind) : LinearOrder kind.Measure :=
  match kind with
  | truth => inferInstanceAs (LinearOrder Bool)
  | number => inferInstanceAs (LinearOrder Number.Extended)
  | text => inferInstanceAs (LinearOrder String)

end Kind

namespace Value

/-- Whether a value is the double that is not a number. -/
def IsNaN : Value → Prop
  | float x => x.isNaN = true
  | _ => False

/-- A value as a number. -/
def numeric? : Value → Option Numeric
  | missing | nil => some (.int 0)
  | int n => some (.int n)
  | float x => some (.float x)
  | _ => none

/-- What a value is compared as within a kind, if it belongs to the kind at all. -/
def measure? : (kind : Kind) → Value → Option kind.Measure
  | .truth, missing | .truth, nil => some false
  | .truth, bool b => some b
  | .number, value => value.numeric?.bind Numeric.extended?
  | .text, missing | .text, nil => some ""
  | .text, string s => some s
  | _, _ => none

theorem numeric?_orNil (value : Value) : value.orNil.numeric? = value.numeric? := by
  cases value <;> rfl

theorem measure?_orNil (kind : Kind) (value : Value) :
    value.orNil.measure? kind = value.measure? kind := by
  cases value <;> cases kind <;> rfl

/-- Every number but NaN has a place among the numbers. -/
theorem exists_extended {value : Value} {number : Numeric} (reads : value.numeric? = some number)
    (proper : ¬ value.IsNaN) : ∃ x, number.extended? = some x := by
  cases number with
  | int n => exact ⟨_, rfl⟩
  | float x =>
      obtain rfl : value = .float x := by
        cases value <;> cases reads
        rfl
      have number : x.isNaN = false := Bool.eq_false_iff.mpr proper
      rw [Numeric.extended?, Number.extended?, number]
      cases Number.Double.ofFloat? x with
      | some d => exact ⟨_, rfl⟩
      | none => exact ⟨_, rfl⟩

/-- Only nil and missing values belong to two kinds, and they belong to all. -/
theorem exists_measure_of_ne {value : Value} {kind other : Kind} {x : kind.Measure}
    {y : other.Measure} (one : value.measure? kind = some x)
    (another : value.measure? other = some y) (differ : kind ≠ other) (any : Kind) :
    ∃ z, value.measure? any = some z := by
  have none_or_nil : value.orNil = .nil := by
    cases value with
    | missing => rfl
    | nil => rfl
    | _ => cases kind <;> cases other <;> contradiction
  rw [← measure?_orNil, none_or_nil]
  cases any <;> exact ⟨_, rfl⟩

end Value

namespace Comparison

theorem compareNumbers_eq {m n : Numeric} {x y : Number.Extended}
    (left : m.extended? = some x) (right : n.extended? = some y) :
    compareNumbers m n = some (cmp x y) := by
  rw [← Numeric.position_place?] at left right
  obtain ⟨p, here, rfl⟩ := Option.map_eq_some_iff.mp left
  obtain ⟨q, there, rfl⟩ := Option.map_eq_some_iff.mp right
  rw [compareNumbers, here, there]
  exact congrArg some (p.compare_eq_cmp q)

theorem compareTexts_eq (s t : String) : compareTexts s t = cmp s t := by
  rw [compareTexts]
  obtain less | same | greater := lt_trichotomy s t
  · rw [if_neg less.ne, if_pos less, less.cmp_eq_lt]
  · rw [if_pos same, same.cmp_eq_eq]
  · rw [if_neg greater.ne', if_neg greater.not_gt, greater.cmp_eq_gt]

/-! ## Pairs -/

namespace Pair

/-- A pair of operands and what they are compared as. -/
inductive Measures : Pair → (kind : Kind) → kind.Measure → kind.Measure → Prop
  | bools (x y : Bool) : Measures (.bools x y) .truth x y
  | numbers {m n : Numeric} {x y : Number.Extended} (left : m.extended? = some x)
      (right : n.extended? = some y) : Measures (.numbers m n) .number x y
  | texts (x y : String) : Measures (.texts x y) .text x y
  /-- Two operands that are both the zero of their kind. -/
  | zeros {kind : Kind} (x : kind.Measure) : Measures (.numbers (.int 0) (.int 0)) kind x x

variable {pair : Pair} {kind : Kind} {x y : kind.Measure}

theorem Measures.same_iff (measures : pair.Measures kind x y) : pair.same = true ↔ x = y := by
  cases measures with
  | bools x y => exact beq_iff_eq
  | numbers left right =>
      rw [same, compareNumbers_eq left right, beq_iff_eq, Option.some_inj]
      exact cmp_eq_eq_iff _ _
  | texts x y => exact beq_iff_eq
  | zeros x =>
      rw [same, compareNumbers_eq rfl rfl, cmp_self_eq_eq]
      exact iff_of_true rfl rfl

theorem Measures.order_eq (measures : pair.Measures kind x y) (ordered : kind ≠ .truth)
    (function : String) : pair.order function = .ok (some (cmp x y)) := by
  cases measures with
  | bools x y => contradiction
  | numbers left right => exact congrArg Except.ok (compareNumbers_eq left right)
  | texts x y => exact congrArg (fun order => Except.ok (some order)) (compareTexts_eq x y)
  | zeros x =>
      rw [order, compareNumbers_eq rfl rfl, cmp_self_eq_eq, cmp_self_eq_eq]

/-- The operands that a pair is made of. -/
def Stands (a b : Value) : Pair → Prop
  | bools x y => a.measure? .truth = some x ∧ b.measure? .truth = some y
  | numbers m n => a.numeric? = some m ∧ b.numeric? = some n
  | texts x y => a.measure? .text = some x ∧ b.measure? .text = some y

end Pair

theorem stands_of_pair {function : String} {a b : Value} {p : Pair}
    (paired : pair function a b = .ok p) : p.Stands a b := by
  rw [pair] at paired
  split at paired
  case h_16 => contradiction
  all_goals
    next left right =>
      obtain rfl := Except.ok.inj paired
      simp only [Pair.Stands, ← Value.measure?_orNil _ a, ← Value.measure?_orNil _ b,
        ← Value.numeric?_orNil a, ← Value.numeric?_orNil b, left, right]
      exact ⟨rfl, rfl⟩

/-- Values of one kind are paired. -/
theorem exists_pair {kind : Kind} {a b : Value} {x y : kind.Measure}
    (left : a.measure? kind = some x) (right : b.measure? kind = some y) (function : String) :
    ∃ p, pair function a b = .ok p ∧ p.Measures kind x y := by
  cases kind with
  | truth =>
      cases a <;> cases left <;> cases b <;> cases right
      -- Without a truth value on either side the operands are paired as numbers.
      all_goals first | exact ⟨_, rfl, .zeros _⟩ | exact ⟨_, rfl, .bools _ _⟩
  | number =>
      obtain ⟨m, here, valued⟩ := Option.bind_eq_some_iff.mp left
      obtain ⟨n, there, alsoValued⟩ := Option.bind_eq_some_iff.mp right
      refine ⟨.numbers m n, ?_, .numbers valued alsoValued⟩
      cases a <;> cases here <;> cases b <;> cases there <;> rfl
  | text =>
      cases a <;> cases left <;> cases b <;> cases right
      all_goals first | exact ⟨_, rfl, .zeros _⟩ | exact ⟨_, rfl, .texts _ _⟩

/-! ## Results -/

/-- Both values belong to one of the kinds. -/
def Meet (kinds : Kind → Prop) (a b : Value) : Prop :=
  ∃ kind, kinds kind ∧ (∃ x, a.measure? kind = some x) ∧ ∃ y, b.measure? kind = some y

namespace Meet

variable {kinds : Kind → Prop} {a b c : Value}

theorem symm (meet : Meet kinds a b) : Meet kinds b a :=
  let ⟨kind, among, left, right⟩ := meet
  ⟨kind, among, right, left⟩

/-- Three values that meet pairwise belong to one kind: if two of the kinds in which they meet
differ, then the value that the two pairs share belongs to all kinds. -/
theorem exists_common (first : Meet kinds a b) (second : Meet kinds b c) (third : Meet kinds a c) :
    ∃ kind, kinds kind ∧ ∃ x y z, a.measure? kind = some x ∧ b.measure? kind = some y ∧
      c.measure? kind = some z := by
  obtain ⟨kind, among, ⟨x, here⟩, ⟨y, there⟩⟩ := first
  obtain ⟨other, alsoAmong, ⟨v, alsoThere⟩, ⟨z, beyond⟩⟩ := second
  obtain ⟨last, -, ⟨u, alsoHere⟩, ⟨w, alsoBeyond⟩⟩ := third
  by_cases same : kind = last
  · subst same
    exact ⟨kind, among, x, y, w, here, there, alsoBeyond⟩
  · obtain ⟨u, everywhere⟩ := Value.exists_measure_of_ne here alsoHere same other
    exact ⟨other, alsoAmong, u, v, z, everywhere, alsoThere, beyond⟩

end Meet

theorem eqAny_singleton (a b : Value) : eqAny a [b] = same "eq" a b := by
  rw [eqAny]
  cases same "eq" a b with
  | error fault => rfl
  | ok equal => cases equal <;> rfl

section Within

variable {kind : Kind} {a b : Value} {x y : kind.Measure}

theorem same_eq (left : a.measure? kind = some x) (right : b.measure? kind = some y)
    (function : String) : same function a b = .ok (decide (x = y)) := by
  obtain ⟨p, paired, measures⟩ := exists_pair left right function
  have result : p.same = decide (x = y) := by
    rw [Bool.eq_iff_iff, measures.same_iff, decide_eq_true_iff]
  rw [same, paired, ← result]
  rfl

theorem ordered_eq (left : a.measure? kind = some x) (right : b.measure? kind = some y)
    (scale : kind ≠ .truth) (function : String) (wanted : Ordering → Bool) :
    ordered function wanted a b = .ok (wanted (cmp x y)) := by
  obtain ⟨p, paired, measures⟩ := exists_pair left right function
  rw [ordered, paired]
  change (p.order function >>= fun order => .ok ((order.map wanted).getD false)) = _
  rw [measures.order_eq scale]
  rfl

theorem ne_eq (left : a.measure? kind = some x) (right : b.measure? kind = some y) :
    ne a b = .ok (!decide (x = y)) := by
  rw [ne, same_eq left right]
  rfl

theorem lt_eq (left : a.measure? kind = some x) (right : b.measure? kind = some y)
    (scale : kind ≠ .truth) : lt a b = .ok (decide (x < y)) := by
  have result : (cmp x y == .lt) = decide (x < y) := by
    rw [Bool.eq_iff_iff, beq_iff_eq, cmp_eq_lt_iff, decide_eq_true_iff]
  rw [lt, ordered_eq left right scale, result]

theorem gt_eq (left : a.measure? kind = some x) (right : b.measure? kind = some y)
    (scale : kind ≠ .truth) : gt a b = .ok (decide (y < x)) := by
  have result : (cmp x y == .gt) = decide (y < x) := by
    rw [Bool.eq_iff_iff, beq_iff_eq, cmp_eq_gt_iff, decide_eq_true_iff]
  rw [gt, ordered_eq left right scale, result]

theorem le_eq (left : a.measure? kind = some x) (right : b.measure? kind = some y)
    (scale : kind ≠ .truth) : le a b = .ok (decide (x ≤ y)) := by
  have result : (cmp x y != .gt) = decide (x ≤ y) := by
    rw [Bool.eq_iff_iff, bne_iff_ne, Ne, cmp_eq_gt_iff, decide_eq_true_iff, not_lt]
  rw [le, ordered_eq left right scale, result]

theorem ge_eq (left : a.measure? kind = some x) (right : b.measure? kind = some y)
    (scale : kind ≠ .truth) : ge a b = .ok (decide (y ≤ x)) := by
  have result : (cmp x y != .lt) = decide (y ≤ x) := by
    rw [Bool.eq_iff_iff, bne_iff_ne, Ne, cmp_eq_lt_iff, decide_eq_true_iff, not_lt]
  rw [ge, ordered_eq left right scale, result]

end Within

/-- Exactly one of three relations holds in a linear order. -/
theorem count_relations {α : Type} [LinearOrder α] (x y : α) :
    [decide (x < y), decide (x = y), decide (y < x)].count true = 1 := by
  obtain less | same | greater := lt_trichotomy x y
  · simp [less, less.ne, less.not_gt]
  · simp [same]
  · simp [greater, greater.ne', greater.not_gt]

section Proper

variable {a b : Value} (proper : ¬ a.IsNaN) (alsoProper : ¬ b.IsNaN)
include proper alsoProper

theorem meet_of_pair {function : String} {p : Pair} (paired : pair function a b = .ok p) :
    ∃ kind, (p.order function ≠ .error (.unordered function) → kind ≠ .truth) ∧
      (∃ x, a.measure? kind = some x) ∧ ∃ y, b.measure? kind = some y := by
  have stands := stands_of_pair paired
  cases p with
  | bools x y => exact ⟨.truth, fun ordered => absurd rfl ordered, ⟨x, stands.1⟩, ⟨y, stands.2⟩⟩
  | numbers m n =>
      obtain ⟨x, valued⟩ := Value.exists_extended stands.1 proper
      obtain ⟨y, alsoValued⟩ := Value.exists_extended stands.2 alsoProper
      refine ⟨.number, fun _ => Kind.noConfusion, ⟨x, ?_⟩, ⟨y, ?_⟩⟩
      · exact Option.bind_eq_some_iff.mpr ⟨m, stands.1, valued⟩
      · exact Option.bind_eq_some_iff.mpr ⟨n, stands.2, alsoValued⟩
  | texts x y =>
      exact ⟨.text, fun _ => Kind.noConfusion, ⟨x, stands.1⟩, ⟨y, stands.2⟩⟩

theorem isOk_same_iff (function : String) :
    (same function a b).isOk = true ↔ Meet (fun _ => True) a b := by
  constructor
  · intro returns
    rw [same] at returns
    cases paired : pair function a b with
    | error fault =>
        rw [paired] at returns
        contradiction
    | ok p =>
        obtain ⟨kind, -, members⟩ := meet_of_pair proper alsoProper paired
        exact ⟨kind, trivial, members⟩
  · rintro ⟨kind, -, ⟨x, left⟩, ⟨y, right⟩⟩
    rw [same_eq left right]
    rfl

theorem isOk_ordered_iff (function : String) (wanted : Ordering → Bool) :
    (ordered function wanted a b).isOk = true ↔ Meet (· ≠ .truth) a b := by
  constructor
  · intro returns
    rw [ordered] at returns
    cases paired : pair function a b with
    | error fault =>
        rw [paired] at returns
        contradiction
    | ok p =>
        obtain ⟨kind, scale, members⟩ := meet_of_pair proper alsoProper paired
        refine ⟨kind, scale fun refused => ?_, members⟩
        rw [paired] at returns
        change (p.order function >>= fun order =>
          Except.ok ((order.map wanted).getD false)).isOk = true at returns
        rw [refused] at returns
        contradiction
  · rintro ⟨kind, scale, ⟨x, left⟩, ⟨y, right⟩⟩
    rw [ordered_eq left right scale]
    rfl

theorem toOption_same_of_not_meet (apart : ¬ Meet (fun _ => True) a b) (function : String) :
    (same function a b).toOption = none := by
  rw [← isOk_same_iff proper alsoProper function] at apart
  cases result : same function a b with
  | error fault => rfl
  | ok equal => exact absurd (congrArg Except.isOk result) apart

theorem toOption_same_comm (function : String) :
    (same function a b).toOption = (same function b a).toOption := by
  by_cases meet : Meet (fun _ => True) a b
  · obtain ⟨kind, -, ⟨x, left⟩, ⟨y, right⟩⟩ := meet
    rw [same_eq left right, same_eq right left, decide_eq_decide.mpr eq_comm]
  · rw [toOption_same_of_not_meet proper alsoProper meet,
      toOption_same_of_not_meet alsoProper proper fun other => meet other.symm]

theorem toOption_ne : (ne a b).toOption = (same "eq" a b).toOption.map (!·) := by
  by_cases meet : Meet (fun _ => True) a b
  · obtain ⟨kind, -, ⟨x, left⟩, ⟨y, right⟩⟩ := meet
    rw [ne_eq left right, same_eq left right]
    rfl
  · have refused := toOption_same_of_not_meet proper alsoProper meet
    rw [refused, ne]
    cases result : same "ne" a b with
    | error fault => rfl
    | ok equal =>
        have impossible := refused "ne"
        rw [result] at impossible
        contradiction

end Proper

/-- The comparison functions form one consistent order.  Of two values, neither of which is NaN, all
order comparisons return or all fail, either way round; if they return, exactly one of less, equal
and greater is true and the other comparisons say the same.  Equality is symmetric, also in failing,
and its negation is inequality.  The relations are transitive on values of which each two compare,
and numbers compare by their exact values. -/
theorem comparisons_are_one_order {a b c : Value} (first : ¬ a.IsNaN) (second : ¬ b.IsNaN)
    (third : ¬ c.IsNaN) :
    (∀ compare ∈ [lt, le, gt, ge],
      (compare a b).isOk = (lt a b).isOk ∧ (compare b a).isOk = (lt a b).isOk) ∧
    (∀ less, lt a b = .ok less → ∃ equal greater,
      eqAny a [b] = .ok equal ∧ gt a b = .ok greater ∧ [less, equal, greater].count true = 1 ∧
        ne a b = .ok (!equal) ∧ le a b = .ok (!greater) ∧ ge a b = .ok (!less) ∧
        gt b a = .ok less ∧ lt b a = .ok greater) ∧
    ((eqAny b [a]).toOption = (eqAny a [b]).toOption ∧
      (ne a b).toOption = (eqAny a [b]).toOption.map (!·)) ∧
    ((lt a b).isOk = true → (lt b c).isOk = true → (lt a c).isOk = true →
      (lt a b = .ok true → lt b c = .ok true → lt a c = .ok true) ∧
        (le a b = .ok true → le b c = .ok true → le a c = .ok true)) ∧
    ((eqAny a [b]).isOk = true → (eqAny b [c]).isOk = true → (eqAny a [c]).isOk = true →
      eqAny a [b] = .ok true → eqAny b [c] = .ok true → eqAny a [c] = .ok true) ∧
    ∀ x y, a.measure? .number = some x → b.measure? .number = some y →
      lt a b = .ok (decide (x < y)) ∧ eqAny a [b] = .ok (decide (x = y)) := by
  simp only [eqAny_singleton]
  refine ⟨?_, ?_, ⟨?_, ?_⟩, ?_, ?_, ?_⟩
  · have returns (compare : Value → Value → Except Fault Bool)
        (member : compare ∈ [lt, le, gt, ge]) :
        ∃ function wanted, compare = ordered function wanted := by
      simp only [List.mem_cons, List.not_mem_nil, or_false] at member
      obtain rfl | rfl | rfl | rfl := member <;> exact ⟨_, _, rfl⟩
    intro compare member
    obtain ⟨function, wanted, rfl⟩ := returns compare member
    simp only [Bool.eq_iff_iff, lt, isOk_ordered_iff first second, isOk_ordered_iff second first]
    exact ⟨trivial, Meet.symm, Meet.symm⟩
  · intro less returns
    have succeeds : (lt a b).isOk = true := by
      rw [returns]
      rfl
    obtain ⟨kind, scale, ⟨x, left⟩, ⟨y, right⟩⟩ := (isOk_ordered_iff first second _ _).mp succeeds
    obtain rfl : decide (x < y) = less :=
      Except.ok.inj ((lt_eq left right scale).symm.trans returns)
    refine ⟨decide (x = y), decide (y < x), same_eq left right _, gt_eq left right scale,
      count_relations x y, ne_eq left right, ?_, ?_, gt_eq right left scale,
      lt_eq right left scale⟩
    · rw [le_eq left right scale, ← decide_not, decide_eq_decide.mpr not_lt.symm]
    · rw [ge_eq left right scale, ← decide_not, decide_eq_decide.mpr not_lt.symm]
  · exact toOption_same_comm second first _
  · exact toOption_ne first second
  · intro ab bc ac
    rw [lt, isOk_ordered_iff first second] at ab
    rw [lt, isOk_ordered_iff second third] at bc
    rw [lt, isOk_ordered_iff first third] at ac
    obtain ⟨kind, scale, x, y, z, left, middle, right⟩ := ab.exists_common bc ac
    rw [lt_eq left middle scale, lt_eq middle right scale, lt_eq left right scale,
      le_eq left middle scale, le_eq middle right scale, le_eq left right scale]
    simp only [Except.ok.injEq, decide_eq_true_iff]
    exact ⟨lt_trans, le_trans⟩
  · intro ab bc ac
    rw [isOk_same_iff first second] at ab
    rw [isOk_same_iff second third] at bc
    rw [isOk_same_iff first third] at ac
    obtain ⟨kind, -, x, y, z, left, middle, right⟩ := ab.exists_common bc ac
    rw [same_eq left middle, same_eq middle right, same_eq left right]
    simp only [Except.ok.injEq, decide_eq_true_iff]
    exact Eq.trans
  · intro x y left right
    exact ⟨lt_eq left right Kind.noConfusion, same_eq left right _⟩

theorem neighbours_beyond_double_precision_are_ordered :
    let a : Value := .float 9007199254740992.0
    let b : Value := .int 9007199254740993
    let c : Value := .float (1.0 / 0.0)
    ¬ a.IsNaN ∧ ¬ b.IsNaN ∧ ¬ c.IsNaN ∧ lt a b = .ok true ∧ eqAny a [b] = .ok false ∧
      lt b c = .ok true ∧ lt a c = .ok true := by
  intro a b c
  have known {answer : Except Fault Bool} {result : Bool} (read : answer.toOption = some result) :
      answer = .ok result := by
    cases answer <;> cases read
    rfl
  have first : ¬ a.IsNaN := by
    rw [Value.IsNaN]
    decide +kernel
  have second : ¬ b.IsNaN := id
  have third : ¬ c.IsNaN := by
    rw [Value.IsNaN]
    decide +kernel
  have ab : lt a b = .ok true := known (by decide +kernel)
  have bc : lt b c = .ok true := known (by decide +kernel)
  have less : (lt a b).isOk = true := by
    rw [ab]
    rfl
  have alsoLess : (lt b c).isOk = true := by
    rw [bc]
    rfl
  have returns : (lt a c).isOk = true := by decide +kernel
  obtain ⟨-, relations, -⟩ := comparisons_are_one_order first second first
  obtain ⟨-, -, -, transitive, -⟩ := comparisons_are_one_order first second third
  obtain ⟨equal, greater, equality, -, one, -⟩ := relations true ab
  have apart : equal = false := by
    cases equal
    · rfl
    · cases greater <;> exact absurd one (by decide)
  refine ⟨first, second, third, ab, apart ▸ equality, bc, ?_⟩
  exact (transitive less alsoLess returns).1 ab bc

end Comparison

end Promptline
