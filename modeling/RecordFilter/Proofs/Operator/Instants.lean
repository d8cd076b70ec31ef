import RecordFilter.Proofs.Operator.Denial

/-!
# One order of instants

The operators on points in time can be told from one thing, how the instant of the value
stands to the instant of each bound.  An operator with one bound admits some of the three ways
in which instants can stand to each other, and a window asks for two of them at once.

The main statement collects the laws that tie the operators to each other for all values and
bounds that are dates, in whatever form they are given, and says that no comparison holds where
a date that it needs is missing.
-/

namespace RecordFilter

namespace Instant

theorem compare_self (t : Instant) : t.compare t = .eq :=
  Std.ReflCmp.compare_self

theorem compare_swap (t target : Instant) : (t.compare target).swap = target.compare t :=
  Std.OrientedCmp.eq_swap.symm

theorem beq_eq_compare (t target : Instant) : (t == target) = (t.compare target == .eq) := by
  rw [Bool.eq_iff_iff, beq_iff_eq, beq_iff_eq]
  constructor
  · rintro rfl
    exact t.compare_self
  · exact eq_of_compare_eq

end Instant

namespace DateOperator

/-! ## Operators with one bound -/

def TakesOneBound : DateOperator → Prop
  | .between | .notBetween | .isWeekday | .isWeekend => False
  | _ => True

def admits (order : Ordering) : DateOperator → Bool
  | .after => order == .gt
  | .afterOrEquals => order != .lt
  | .before => order == .lt
  | .beforeOrEquals => order != .gt
  | .equals => order == .eq
  | .notEquals => order != .eq
  | _ => false

variable {now t : Instant} {v operand : Value}

theorem holds_eq (op : DateOperator) (hv : v.instant? = some t) :
    op.holds now v operand = op.holdsOfInstant now t operand := by
  rw [holds, hv]
  rfl

theorem holds_eq_admits {op : DateOperator} (hop : op.TakesOneBound) (now : Instant)
    {target : Instant} (hv : v.instant? = some t) (hbound : operand.instant? = some target) :
    op.holds now v operand = op.admits (t.compare target) := by
  rw [holds_eq op hv]
  cases op with
  | between | notBetween | isWeekday | isWeekend => cases hop
  | equals | notEquals =>
      simp only [holdsOfInstant, hbound, Option.any_some, bne, Instant.beq_eq_compare, admits]
  | before | beforeOrEquals =>
      simp only [holdsOfInstant, hbound, Option.any_some, Instant.before, Instant.notAfter, admits]
  | after | afterOrEquals =>
      simp only [holdsOfInstant, hbound, Option.any_some, Instant.before, Instant.notAfter, admits,
        ← Instant.compare_swap t target]
      cases t.compare target <;> rfl

/-! ## Windows -/

theorem between_eq {first last : Instant} (hv : v.instant? = some t)
    (hwindow : window? now operand = some (first, last)) :
    between.holds now v operand =
      (afterOrEquals.admits (t.compare first) && beforeOrEquals.admits (t.compare last)) := by
  rw [holds_eq _ hv]
  simp only [holdsOfInstant, hwindow, Option.any_some, Instant.notAfter, admits,
    ← Instant.compare_swap t first]
  cases t.compare first <;> rfl

theorem notBetween_eq {first last : Instant} (hv : v.instant? = some t)
    (hwindow : window? now operand = some (first, last)) :
    notBetween.holds now v operand =
      (before.admits (t.compare first) || after.admits (t.compare last)) := by
  rw [holds_eq _ hv]
  simp only [holdsOfInstant, hwindow, Option.any_some, Instant.before, admits,
    ← Instant.compare_swap t last]
  cases t.compare last <;> rfl

theorem holds_congr_window {op : DateOperator} (hop : op = .between ∨ op = .notBetween)
    {other : Value} (h : window? now operand = window? now other) (v : Value) :
    op.holds now v operand = op.holds now v other := by
  unfold holds
  rcases hop with rfl | rfl <;> simp only [holdsOfInstant, h]

theorem window?_of_instant? {first : Instant} (h : operand.instant? = some first) :
    window? now operand = some (first, now) := by
  cases operand with
  | date _ | string _ =>
      show (Value.instant? _ >>= fun first => pure (first, now)) = _
      rw [h]
      rfl
  | _ => cases h

theorem window?_single {bound : Value} {first : Instant} (h : bound.instant? = some first) :
    window? now (.array [bound]) = some (first, now) := by
  show (bound.instant? >>= fun first => pure (first, now)) = _
  rw [h]
  rfl

theorem window?_pair {a b : Value} {first last : Instant} (ha : a.instant? = some first)
    (hb : b.instant? = some last) : window? now (.array [a, b]) = some (first, last) := by
  show (a.instant? >>= fun first => b.instant? >>= fun last => pure (first, last)) = _
  rw [ha, hb]
  rfl

/-! ## Missing dates -/

/-- A bound that the operator needs is no date, or there are not as many as it takes. -/
def LacksBound (operand : Value) : DateOperator → Prop
  | .between | .notBetween =>
      match operand with
      | .array bounds =>
          bounds.length ≠ 1 ∧ bounds.length ≠ 2 ∨ ∃ bound ∈ bounds, ¬ bound.IsDate
      | bound => ¬ bound.IsDate
  | .isWeekday | .isWeekend => False
  | _ => ¬ operand.IsDate

theorem not_isWindow_of_lacks (h : between.LacksBound operand) : ¬ operand.IsWindow := by
  cases operand with
  | array bounds =>
      rintro (hdate | ⟨first, hone, hfirst⟩ | ⟨first, last, htwo, hfirst, hlast⟩)
      · rcases hdate with ⟨_, hdate | ⟨_, hdate, _⟩⟩ <;> cases hdate
      · cases hone
        rcases h with ⟨hlength, _⟩ | ⟨bound, hmem, hbound⟩
        · exact hlength rfl
        · rw [List.mem_singleton.mp hmem] at hbound
          exact hbound hfirst
      · cases htwo
        rcases h with ⟨_, hlength⟩ | ⟨bound, hmem, hbound⟩
        · exact hlength rfl
        · rcases List.mem_cons.mp hmem with rfl | hmem
          · exact hbound hfirst
          · rw [List.mem_singleton.mp hmem] at hbound
            exact hbound hlast
  | _ =>
      rintro (hdate | ⟨first, hone, _⟩ | ⟨first, last, htwo, _⟩)
      · exact h hdate
      · cases hone
      · cases htwo

theorem not_takes_of_lacks {op : DateOperator} (h : op.LacksBound operand) :
    ¬ op.Takes operand := by
  cases op with
  | between | notBetween => exact not_isWindow_of_lacks h
  | isWeekday | isWeekend => cases h
  | _ => exact h

theorem holds_eq_false {op : DateOperator} (h : ¬ v.IsDate ∨ op.LacksBound operand)
    (now : Instant) : op.holds now v operand = false := by
  apply Bool.eq_false_iff.mpr
  intro hholds
  have hholds' : (Operator.date op).holds now v operand = true := hholds
  rcases Operator.fits_of_holds hholds' with ⟨hv, htakes⟩
  rcases h with hmissing | hlacks
  · exact hmissing hv
  · exact not_takes_of_lacks hlacks htakes

/-! ## Laws -/

/-- How the operators hang together on a value and two bounds. -/
structure AreOrderly (now : Instant) (v a b : Value) : Prop where
  exactly_one : ([.before, .equals, .after] : List DateOperator).countP
    (fun op => op.holds now v a) = 1
  after_or_equals : afterOrEquals.holds now v a = (after.holds now v a || equals.holds now v a)
  before_or_equals :
    beforeOrEquals.holds now v a = (before.holds now v a || equals.holds now v a)
  not_equals : notEquals.holds now v a = !equals.holds now v a
  mirrored : after.holds now v a = before.holds now a v
  before_trans : before.holds now v a = true → before.holds now a b = true →
    before.holds now v b = true
  inside : between.holds now v (.array [a, b]) =
    (afterOrEquals.holds now v a && beforeOrEquals.holds now v b)
  outside : notBetween.holds now v (.array [a, b]) =
    (before.holds now v a || after.holds now v b)
  /-- A lone bound opens a window that ends now. -/
  lone : ∀ op ∈ ([.between, .notBetween] : List DateOperator), ∀ bound ∈ [a, .array [a]],
    op.holds now v bound = op.holds now v (.array [a, .date now])

theorem areOrderly (now : Instant) {v a b : Value} (hv : v.IsDate) (ha : a.IsDate)
    (hb : b.IsDate) : AreOrderly now v a b := by
  rcases Value.isDate_iff.mp hv with ⟨t, ht⟩
  rcases Value.isDate_iff.mp ha with ⟨first, hfirst⟩
  rcases Value.isDate_iff.mp hb with ⟨last, hlast⟩
  have hone := fun op (hop : TakesOneBound op) => holds_eq_admits hop now ht hfirst
  have htwo := fun op (hop : TakesOneBound op) => holds_eq_admits hop now ht hlast
  have hpair : window? now (.array [a, b]) = some (first, last) := window?_pair hfirst hlast
  constructor
  case exactly_one =>
    have hbefore := hone .before trivial
    have hequals := hone .equals trivial
    have hafter := hone .after trivial
    simp only [List.countP_cons, List.countP_nil, hbefore, hequals, hafter]
    cases t.compare first <;> rfl
  case after_or_equals =>
    rw [hone .afterOrEquals trivial, hone .after trivial, hone .equals trivial]
    cases t.compare first <;> rfl
  case before_or_equals =>
    rw [hone .beforeOrEquals trivial, hone .before trivial, hone .equals trivial]
    cases t.compare first <;> rfl
  case not_equals =>
    rw [hone .notEquals trivial, hone .equals trivial]
    rfl
  case mirrored =>
    have hbefore := holds_eq_admits (show TakesOneBound .before from trivial) now hfirst ht
    rw [hone .after trivial, hbefore, ← Instant.compare_swap t first]
    cases t.compare first <;> rfl
  case before_trans =>
    intro hfirstly hsecondly
    rw [hone .before trivial] at hfirstly
    rw [holds_eq_admits (show TakesOneBound .before from trivial) now hfirst hlast] at hsecondly
    rw [htwo .before trivial]
    exact beq_iff_eq.mpr (Std.TransCmp.lt_trans (eq_of_beq hfirstly) (eq_of_beq hsecondly))
  case inside =>
    rw [between_eq ht hpair, hone .afterOrEquals trivial, htwo .beforeOrEquals trivial]
  case outside =>
    rw [notBetween_eq ht hpair, hone .before trivial, htwo .after trivial]
  case lone =>
    intro op hop bound hbound
    have hends : window? now bound = window? now (.array [a, .date now]) := by
      rw [window?_pair hfirst rfl]
      rcases List.mem_pair.mp hbound with rfl | rfl
      · exact window?_of_instant? hfirst
      · exact window?_single hfirst
    exact holds_congr_window (List.mem_pair.mp hop) hends v

end DateOperator

/--
On values and bounds that are dates the operators agree on one order of instants, wherever the
ends of a window lie.  Without a date as value, or without the bounds that it needs, an operator
fails.
-/
theorem date_operators_agree (now : Instant) :
    (∀ v a b : Value, v.IsDate → a.IsDate → b.IsDate → DateOperator.AreOrderly now v a b) ∧
      ∀ (op : DateOperator) (v operand : Value), ¬ v.IsDate ∨ op.LacksBound operand →
        op.holds now v operand = false := by
  constructor
  · intro v a b hv ha hb
    exact DateOperator.areOrderly now hv ha hb
  · intro op v operand h
    exact DateOperator.holds_eq_false h now

theorem date_operators_agree_of_reversed :
    let now : Instant := ⟨1718452800, 0⟩
    let v : Value := .string "2024-06-15"
    let a : Value := .string "2024-12-31T01:00:00+01:00"
    let b : Value := .date ⟨1704067200, 0⟩
    (v.IsDate ∧ a.IsDate ∧ b.IsDate ∧ DateOperator.AreOrderly now v a b) ∧
      (DateOperator.notBetween.LacksBound (.array [a, b, v]) ∧
        DateOperator.notBetween.holds now v (.array [a, b, v]) = false) := by
  intro now v a b
  have hv : v.IsDate :=
    ⟨⟨1718409600, 0⟩, .inr ⟨_, rfl, by decide +kernel⟩⟩
  have ha : a.IsDate :=
    ⟨⟨1735603200, 0⟩, .inr ⟨_, rfl, by decide +kernel⟩⟩
  have hb : b.IsDate := ⟨_, .inl rfl⟩
  have hlacks : DateOperator.notBetween.LacksBound (.array [a, b, v]) :=
    .inl ⟨by simp, by simp⟩
  refine ⟨⟨hv, ha, hb, ?_⟩, hlacks, ?_⟩
  · exact (date_operators_agree now).1 v a b hv ha hb
  · exact (date_operators_agree now).2 _ v (.array [a, b, v]) (.inr hlacks)

end RecordFilter
